import SyntheticHeart.Agent.Sync
import SyntheticHeart.Transition.System

/-!
# The agent as a concurrent system

The plugin manager runs several goroutines against one state map and one Redis: the sync
loop, one `StartPlugin` goroutine per started test, the plugin-health exporter, and the
test-run exporter fed by the broadcaster. Each is a program counter between its accesses
to shared state, and `agentStep` lets one of them move.

* The sync loop visits the cached tests (deletion pass) and then the summaries (update
  pass), one entry per step and in any order, as Go's `range` does. At
  `StopAndDeleteSynTest` it cancels the test's goroutine and blocks in `wg.Wait()` until
  that goroutine has returned from `StartPlugin`; only then does it delete the plugin state,
  the cache entry and the run data in Redis.
* A goroutine takes the steps of `PluginRoutine.step`; while its plugin runs, test runs it
  produces are queued for the test-run exporter.
* The health exporter copies the state map (`GetAllPluginState`), reads the agent status,
  and then writes the agent status and the health of each plugin it copied, one write per
  step and in any order.

A failed read of the summaries makes the agent exit; the shutdown is not modelled, so that
step is disabled.

`Inv` is the invariant of the state map and the goroutines: the state map holds one state
per cached test, and every goroutine that has not returned belongs to a cached test.
`reachable_inv` proves it of every reachable state, for syncs whose configs are stored
under their own config ids.
-/

namespace SyntheticHeart

open GoMap

/-- Whether a goroutine is blocked in `plugin.Run`. -/
def PluginPc.isRunning : PluginPc → Bool
  | .run _ => true
  | _ => false

namespace PluginManager

variable (pm : PluginManager)

/-- The plugin id of a cached test on this agent. -/
def pluginIdOf (st : SyntheticTest) : String :=
  computePluginId st.config.name st.config.«namespace» pm.agentId

/-- Whether `wg.Wait()` of the cached test `testConfigId` returns: its goroutine has
returned from `StartPlugin`, or it has none. -/
def waitReturns (testConfigId : String) : Bool :=
  match (pm.syntheticTests.lookup testConfigId).bind SyntheticTest.routine with
  | some i => decide ((pm.routines[i]?.map PluginRoutine.pc) = some .exited)
  | none => true

/-- The end of an iteration of the update pass, once an older version of the test is
deleted: the test is cached and started when the agent's selectors accept it. -/
def startIfValid (testConfigId latestVersion : String) (latestSynTestConfig : SynTestConfig) :
    PluginManager :=
  match isAgentValidForSynTest pm.config pm.agentId latestSynTestConfig.name
      latestSynTestConfig.«namespace» latestSynTestConfig.nodeSelector
      latestSynTestConfig.podLabelSelector latestSynTestConfig.labels with
  | .ok true =>
    let s : SyntheticTest := ⟨latestSynTestConfig, latestVersion, none⟩
    ({ pm with syntheticTests := pm.syntheticTests.insert testConfigId s } : PluginManager).startTestRoutine
      testConfigId s
  | _ => pm

/-- A step of the goroutine `i`. -/
def stepRoutine (i : Nat) (input : PluginInput) : Option PluginManager :=
  match pm.routines[i]? with
  | some r =>
    let (r', sm) := r.step pm.sm input
    some { pm with routines := pm.routines.set i r', sm := sm }
  | none => none

end PluginManager

/-! ## The threads -/

/-- Where the sync loop is: idle, in a pass with the entries it has still to visit, or
blocked in the `wg.Wait()` of `StopAndDeleteSynTest`, in the deletion pass or in the
update pass (where it then starts the test again if the agent accepts it). -/
inductive SyncPc
  | idle
  | deletion (snap : ConfigSnapshot) (latest : GoMap String SyntestConfigSummary)
      (todo : List (Σ _ : String, SyntheticTest))
  | waitDeleted (testConfigId : String) (snap : ConfigSnapshot)
      (latest : GoMap String SyntestConfigSummary) (todo : List (Σ _ : String, SyntheticTest))
  | update (snap : ConfigSnapshot) (todo : List (Σ _ : String, SyntestConfigSummary))
  | waitChanged (testConfigId latestVersion : String) (latestSynTestConfig : SynTestConfig)
      (snap : ConfigSnapshot) (todo : List (Σ _ : String, SyntestConfigSummary))

/-- Where the health exporter is: waiting for its ticker, with its copy of the state map,
with the agent status read as well, or writing the health of the plugins it has left. -/
inductive HealthPc
  | idle
  | states (pluginState : StateMap)
  | status (pluginState : StateMap) (agentStatus : AgentStatus)
  | writing (pluginState : StateMap)

/-- The agent: the plugin manager, the sync loop, the health exporter, and the test runs
on their way from the goroutines to the test-run exporter, with their plugin ids. -/
structure Agent where
  pm : PluginManager
  sync : SyncPc
  health : HealthPc
  testRuns : List (String × TestRun)

/-- The agent before its first sync. -/
def Agent.init (agentId : String) (config : AgentConfig) (synTestNameMap : List String) (store : Redis) :
    Agent :=
  { pm := ⟨agentId, config, synTestNameMap, ∅, ∅, [], store⟩
    sync := .idle
    health := .idle
    testRuns := [] }

/-- What moves: the sync loop starting a sync with what it reads from Redis, or taking its
next step (`n` picks the next entry of a pass); a goroutine, with what it reads; a
goroutine's plugin producing a test run; the test-run exporter; the health exporter. -/
inductive AgentLabel
  | syncStart (snap : ConfigSnapshot)
  | syncStep (n : Nat)
  | routine (i : Nat) (input : PluginInput)
  | publish (i : Nat) (testRun : TestRun)
  | exportTestRun
  | healthStates
  | healthStatus (statusTime : String)
  | healthWriteAgent
  | healthWritePlugin (pluginId : String)
  | healthDone

/-- The visit of the deletion pass to the cached test `testConfigId`: a test without a
summary is stopped, and the loop waits for its goroutine. -/
def visitDeleted (pm : PluginManager) (snap : ConfigSnapshot) (latest : GoMap String SyntestConfigSummary)
    (todo : List (Σ _ : String, SyntheticTest)) (testConfigId : String) : PluginManager × SyncPc :=
  if testConfigId ∈ latest then (pm, .deletion snap latest todo)
  else (pm.stopSynTest testConfigId, .waitDeleted testConfigId snap latest todo)

/-- The visit of the update pass to the summary of `testConfigId`: the test is skipped at
the cached version or when its config cannot be fetched, stopped when an older version is
cached, and otherwise started if the agent accepts it. -/
def visitLatest (pm : PluginManager) (snap : ConfigSnapshot) (todo : List (Σ _ : String, SyntestConfigSummary))
    (testConfigId : String) (configSummary : SyntestConfigSummary) : PluginManager × SyncPc :=
  let st := pm.syntheticTests.lookup testConfigId
  let latestVersion := configSummary.version
  if st.map SyntheticTest.version = some latestVersion then (pm, .update snap todo)
  else
    match snap.fetch testConfigId with
    | .error _ => (pm, .update snap todo)
    | .ok latestSynTestConfig =>
      if st.isSome then
        (pm.stopSynTest testConfigId, .waitChanged testConfigId latestVersion latestSynTestConfig snap todo)
      else (pm.startIfValid testConfigId latestVersion latestSynTestConfig, .update snap todo)

/-- `SyncSyntestPluginConfigs` begins: the summaries are read and the deletion pass starts
over the cached tests. -/
def syncStart (pm : PluginManager) (snap : ConfigSnapshot) : SyncPc → Option SyncPc
  | .idle =>
    match snap.summaries with
    | .ok latest => some (.deletion snap latest pm.syntheticTests.entries)
    | .error _ => none
  | _ => none

/-- One step of the sync loop: the visit to the `n`-th entry left in a pass, the end of a
pass, or the return of `wg.Wait()`. -/
def syncStep (pm : PluginManager) (n : Nat) : SyncPc → Option (PluginManager × SyncPc)
  | .idle => none
  | .deletion snap latest todo =>
    match todo[n]? with
    | some e => some (visitDeleted pm snap latest (todo.eraseIdx n) e.1)
    | none => if todo.isEmpty then some (pm, .update snap latest.entries) else none
  | .waitDeleted testConfigId snap latest todo =>
    if pm.waitReturns testConfigId then some (pm.deleteSynTest testConfigId, .deletion snap latest todo)
    else none
  | .update snap todo =>
    match todo[n]? with
    | some e => some (visitLatest pm snap (todo.eraseIdx n) e.1 e.2)
    | none => if todo.isEmpty then some (pm, .idle) else none
  | .waitChanged testConfigId latestVersion latestSynTestConfig snap todo =>
    if pm.waitReturns testConfigId then
      some ((pm.deleteSynTest testConfigId).startIfValid testConfigId latestVersion latestSynTestConfig,
        .update snap todo)
    else none

/-- One step of the health exporter. -/
def healthStep (pm : PluginManager) : HealthPc → AgentLabel → Option (PluginManager × HealthPc)
  | .idle, .healthStates => some (pm, .states pm.sm)
  | .states pluginState, .healthStatus statusTime =>
    some (pm, .status pluginState (pm.sm.getAgentStatus pm.config statusTime))
  | .status pluginState agentStatus, .healthWriteAgent =>
    some ({ pm with store := pm.store.writeAgentStatus pm.agentId agentStatus }, .writing pluginState)
  | .writing pluginState, .healthWritePlugin pluginId =>
    (pluginState.lookup pluginId).map fun state =>
      ({ pm with store := pm.store.writePluginHealthStatus pluginId state }, .writing (pluginState.erase pluginId))
  | .writing pluginState, .healthDone => if pluginState.entries.isEmpty then some (pm, .idle) else none
  | _, _ => none

/-- One step of the agent. -/
def agentStep (a : Agent) : AgentLabel → Option Agent
  | .syncStart snap => (syncStart a.pm snap a.sync).map fun sync => { a with sync := sync }
  | .syncStep n => (syncStep a.pm n a.sync).map fun p => { a with pm := p.1, sync := p.2 }
  | .routine i input => (a.pm.stepRoutine i input).map fun pm => { a with pm := pm }
  | .publish i testRun =>
    match a.pm.routines[i]? with
    | some r => if r.pc.isRunning then some { a with testRuns := a.testRuns ++ [(r.pluginId, testRun)] } else none
    | none => none
  | .exportTestRun =>
    match a.testRuns with
    | (pluginId, testRun) :: rest =>
      some { a with pm := { a.pm with store := a.pm.store.writeTestRun pluginId testRun }, testRuns := rest }
    | [] => none
  | l => (healthStep a.pm a.health l).map fun p => { a with pm := p.1, health := p.2 }

/-- The configs a sync fetches are stored under their own config ids. -/
def ConfigSnapshot.WellKeyed (snap : ConfigSnapshot) : Prop :=
  ∀ latest, snap.summaries = .ok latest → ∀ k ∈ latest, ∀ c, snap.fetch k = .ok c →
    computeSynTestConfigId c.name c.«namespace» = k

/-- The runs `Inv` is proved for: every sync reads well-keyed configs. -/
def AgentLabel.Allowed : AgentLabel → Prop
  | .syncStart snap => snap.WellKeyed
  | _ => True

/-! ## The invariant of the state map and the goroutines -/

theorem getElem?_modify_map {α β : Type*} (l : List α) (i j : Nat) (f : α → α) (g : α → β)
    (hf : ∀ a, g (f a) = g a) : ((l.modify i f)[j]?).map g = (l[j]?).map g := by
  rw [List.getElem?_modify]
  cases l[j]? with
  | none => rfl
  | some a => by_cases hij : i = j <;> simp [hij, hf]

namespace PluginManager

variable {pm : PluginManager}

/-- The invariant of the plugin manager: the cache is keyed by config id, the state map
holds one state per cached test and nothing else, the goroutine of a cached test runs its
plugin, and a goroutine that has not returned belongs to a cached test. -/
structure Inv (pm : PluginManager) : Prop where
  keyed : ∀ k st, pm.syntheticTests.lookup k = some st →
    computeSynTestConfigId st.config.name st.config.«namespace» = k
  states : ∀ p, p ∈ pm.sm ↔ ∃ k st, pm.syntheticTests.lookup k = some st ∧ p = pm.pluginIdOf st
  routine_of_cached : ∀ k st i, pm.syntheticTests.lookup k = some st → st.routine = some i →
    (pm.routines[i]?).map PluginRoutine.pluginId = some (pm.pluginIdOf st)
  cached_of_routine : ∀ i pc, (pm.routines[i]?).map PluginRoutine.pc = some pc → pc ≠ .exited →
    ∃ k st, pm.syntheticTests.lookup k = some st ∧ st.routine = some i

theorem inv_init (agentId : String) (config : AgentConfig) (synTestNameMap : List String) (store : Redis) :
    (⟨agentId, config, synTestNameMap, ∅, ∅, [], store⟩ : PluginManager).Inv where
  keyed := by simp
  states := by simp
  routine_of_cached := by simp
  cached_of_routine := by simp

/-- Two cached tests with the same plugin id are one test. -/
theorem Inv.pluginIdOf_inj (h : pm.Inv) {k k' : String} {st st' : SyntheticTest}
    (hk : pm.syntheticTests.lookup k = some st) (hk' : pm.syntheticTests.lookup k' = some st')
    (heq : pm.pluginIdOf st = pm.pluginIdOf st') : k = k' := by
  unfold pluginIdOf at heq
  rw [computePluginId_eq, computePluginId_eq, h.keyed k st hk, h.keyed k' st' hk'] at heq
  exact (String.append_left_inj _).mp ((String.append_left_inj _).mp heq)

theorem Inv.mem_sm (h : pm.Inv) {k : String} {st : SyntheticTest} (hk : pm.syntheticTests.lookup k = some st) :
    pm.pluginIdOf st ∈ pm.sm :=
  (h.states _).mpr ⟨k, st, hk, rfl⟩

/-! ### What each operation of the sync loop keeps -/

theorem Inv.cancel (h : pm.Inv) (o : Option Nat) : (pm.cancel o).Inv := by
  cases o with
  | none => exact h
  | some i =>
    have hid := fun j => getElem?_modify_map pm.routines i j (fun r => { r with cancelled := true })
      PluginRoutine.pluginId (fun _ => rfl)
    have hpc := fun j => getElem?_modify_map pm.routines i j (fun r => { r with cancelled := true })
      PluginRoutine.pc (fun _ => rfl)
    exact ⟨h.keyed, h.states, fun k st j hk hj => (hid j).trans (h.routine_of_cached k st j hk hj),
      fun j pc hj => h.cached_of_routine j pc ((hpc j).symm.trans hj)⟩

theorem Inv.stopSynTest (h : pm.Inv) (k : String) : (pm.stopSynTest k).Inv := by
  unfold PluginManager.stopSynTest
  split
  · exact h.cancel _
  · exact h

theorem deleteSynTest_of_lookup {k : String} {st : SyntheticTest} (hst : pm.syntheticTests.lookup k = some st) :
    pm.deleteSynTest k =
      { pm with
        sm := pm.sm.deletePluginState (pm.pluginIdOf st)
        syntheticTests := pm.syntheticTests.erase k
        store := pm.store.deleteAllTestRunInfo (pm.pluginIdOf st) } := by
  unfold PluginManager.deleteSynTest
  rw [hst]
  rfl

theorem deleteSynTest_of_none {k : String} (hst : pm.syntheticTests.lookup k = none) : pm.deleteSynTest k = pm := by
  unfold PluginManager.deleteSynTest
  rw [hst]

/-- Once the goroutine of a test has returned, deleting the test keeps the invariant. -/
theorem Inv.deleteSynTest (h : pm.Inv) {k : String} (hwait : pm.waitReturns k = true) :
    (pm.deleteSynTest k).Inv := by
  cases hst : pm.syntheticTests.lookup k with
  | none => rwa [deleteSynTest_of_none hst]
  | some st =>
  rw [deleteSynTest_of_lookup hst]
  -- the goroutine of the deleted test, if any, has returned
  have hexited : ∀ i, st.routine = some i → (pm.routines[i]?).map PluginRoutine.pc = some .exited := by
    intro i hi
    simpa [PluginManager.waitReturns, hst, hi] using hwait
  refine ⟨fun k' st' hk' => ?_, fun p => ?_, fun k' st' i hk' hi => ?_, fun i pc hi hpc => ?_⟩
  · exact h.keyed k' st' ((lookup_erase_eq_some _).mp hk').2
  · show p ∈ pm.sm.deletePluginState (pm.pluginIdOf st) ↔ _
    rw [StateMap.mem_deletePluginState, h.states]
    constructor
    · rintro ⟨hne, k', st', hk', rfl⟩
      have hk : k' ≠ k := by
        rintro rfl
        rw [hst, Option.some.injEq] at hk'
        exact hne (by rw [hk'])
      exact ⟨k', st', (lookup_erase_eq_some _).mpr ⟨hk, hk'⟩, rfl⟩
    · rintro ⟨k', st', hk', rfl⟩
      obtain ⟨hne, hk'⟩ := (lookup_erase_eq_some _).mp hk'
      exact ⟨fun heq => hne (h.pluginIdOf_inj hk' hst heq), k', st', hk', rfl⟩
  · exact h.routine_of_cached k' st' i ((lookup_erase_eq_some _).mp hk').2 hi
  · obtain ⟨k', st', hk', hi'⟩ := h.cached_of_routine i pc hi hpc
    have hne : k' ≠ k := by
      rintro rfl
      rw [hst, Option.some.injEq] at hk'
      subst hk'
      rw [hexited i hi', Option.some.injEq] at hi
      exact hpc hi.symm
    exact ⟨k', st', (lookup_erase_eq_some _).mpr ⟨hne, hk'⟩, hi'⟩

theorem getElem?_concat {α : Type*} (l : List α) (a : α) (i : Nat) :
    (l ++ [a])[i]? = if i = l.length then some a else l[i]? := by
  split_ifs with hi
  · subst hi
    exact List.getElem?_concat_length
  · rcases Nat.lt_or_gt_of_ne hi with hlt | hgt
    · exact List.getElem?_append_left hlt
    · rw [List.getElem?_eq_none (by simp; omega), List.getElem?_eq_none (by omega)]

/-- Caching a test that was not cached, under its own config id and with a state at its
plugin id, keeps the invariant, provided that it has no goroutine, or the one appended,
which runs its plugin. -/
theorem Inv.cache (h : pm.Inv) {k : String} {s : SyntheticTest} (hk : pm.syntheticTests.lookup k = none)
    (hkey : computeSynTestConfigId s.config.name s.config.«namespace» = k) (state : PluginState)
    (new : List PluginRoutine)
    (hnew : (s.routine = none ∧ new = []) ∨
      (s.routine = some pm.routines.length ∧ ∃ r, new = [r] ∧ r.pluginId = pm.pluginIdOf s)) :
    ({ pm with
        syntheticTests := pm.syntheticTests.insert k s
        sm := pm.sm.setPluginState (pm.pluginIdOf s) state
        routines := pm.routines ++ new } : PluginManager).Inv := by
  -- the old goroutines keep their indices
  have hold : ∀ i r, pm.routines[i]? = some r → (pm.routines ++ new)[i]? = some r := fun i r hi =>
    (List.getElem?_append_left (List.getElem?_eq_some_iff.mp hi).1).trans hi
  refine ⟨fun k' st' hk' => ?_, fun p => ?_, fun k' st' i hk' hi => ?_, fun i pc hi hpc => ?_⟩
  · rcases (lookup_insert_eq_some _).mp hk' with ⟨rfl, rfl⟩ | ⟨_, hk'⟩
    · exact hkey
    · exact h.keyed k' st' hk'
  · show p ∈ pm.sm.setPluginState (pm.pluginIdOf s) state ↔ _
    rw [StateMap.mem_setPluginState, h.states]
    constructor
    · rintro (rfl | ⟨k', st', hk', rfl⟩)
      · exact ⟨k, s, by simp, rfl⟩
      · exact ⟨k', st', lookup_insert_of_lookup_eq_none _ hk hk', rfl⟩
    · rintro ⟨k', st', hk', rfl⟩
      rcases (lookup_insert_eq_some _).mp hk' with ⟨rfl, rfl⟩ | ⟨_, hk'⟩
      · exact .inl rfl
      · exact .inr ⟨k', st', hk', rfl⟩
  · rcases (lookup_insert_eq_some _).mp hk' with ⟨rfl, rfl⟩ | ⟨_, hk'⟩
    · -- the new test's goroutine is the one appended
      rcases hnew with ⟨hnone, -⟩ | ⟨hsome, r, rfl, hr⟩
      · rw [hnone] at hi; cases hi
      · rw [hsome, Option.some.injEq] at hi
        subst hi
        rw [List.getElem?_concat_length, Option.map_some, hr]
        rfl
    · obtain ⟨r, hr, hid⟩ := Option.map_eq_some_iff.mp (h.routine_of_cached k' st' i hk' hi)
      rw [hold i r hr, Option.map_some, hid]
      rfl
  · -- an old goroutine keeps its test, which stays cached; a new one belongs to the new test
    by_cases hlt : i < pm.routines.length
    · rw [List.getElem?_append_left hlt] at hi
      obtain ⟨k', st', hk', hi'⟩ := h.cached_of_routine i pc hi hpc
      exact ⟨k', st', lookup_insert_of_lookup_eq_none _ hk hk', hi'⟩
    · rcases hnew with ⟨-, rfl⟩ | ⟨hsome, r, rfl, -⟩
      · simp [List.getElem?_eq_none (Nat.le_of_not_lt hlt)] at hi
      · rw [getElem?_concat] at hi
        split_ifs at hi with heq
        · exact ⟨k, s, by simp, hsome.trans (congrArg some heq.symm)⟩
        · simp [List.getElem?_eq_none (Nat.le_of_not_lt hlt)] at hi

theorem Inv.startIfValid (h : pm.Inv) {k v : String} {c : SynTestConfig} (hk : pm.syntheticTests.lookup k = none)
    (hkey : computeSynTestConfigId c.name c.«namespace» = k) : (pm.startIfValid k v c).Inv := by
  unfold PluginManager.startIfValid
  split
  · -- accepted: the test is cached, with a goroutine when its plugin is registered
    unfold PluginManager.startTestRoutine
    dsimp only
    split_ifs
    · rw [AList.insert_insert]
      exact h.cache (s := ⟨c, v, some pm.routines.length⟩) hk hkey initialPluginState _
        (.inr ⟨rfl, _, rfl, rfl⟩)
    · have hc := h.cache (s := ⟨c, v, none⟩) hk hkey (pluginNotFoundState c.pluginName) [] (.inl ⟨rfl, rfl⟩)
      rw [List.append_nil] at hc
      exact hc
  · exact h

end PluginManager

/-! ### A goroutine's step -/

namespace PluginRoutine

variable (r : PluginRoutine) (sm : StateMap) (input : PluginInput)

theorem step_fst : (r.step sm input).1 = { r with pc := (pluginStep r sm input).1 } := rfl

theorem pluginStep_exited (hr : r.pc = .exited) : pluginStep r sm input = (.exited, none) := by
  simp [pluginStep, hr]

theorem step_pc_exited (hr : r.pc = .exited) : (r.step sm input).1.pc = .exited := by
  rw [step_fst, pluginStep_exited r sm input hr]

/-- A goroutine writes the state of its own plugin only, and only before it returns: while
that state exists, a step keeps the keys of the state map. -/
theorem mem_step_sm (hmem : r.pc ≠ .exited → r.pluginId ∈ sm) (p : String) :
    p ∈ (r.step sm input).2 ↔ p ∈ sm := by
  unfold PluginRoutine.step
  rcases hps : pluginStep r sm input with ⟨pc, _ | s⟩
  · rfl
  · have hne : r.pc ≠ .exited := by
      intro he
      rw [pluginStep_exited r sm input he] at hps
      cases hps
    show p ∈ sm.setPluginState r.pluginId s ↔ p ∈ sm
    rw [StateMap.mem_setPluginState]
    constructor
    · rintro (rfl | hp)
      · exact hmem hne
      · exact hp
    · exact Or.inr

end PluginRoutine

theorem getElem?_set_map {α β : Type*} {l : List α} {i : Nat} {a b : α} (g : α → β) (hb : l[i]? = some b)
    (hg : g a = g b) (j : Nat) : ((l.set i a)[j]?).map g = (l[j]?).map g := by
  rw [List.getElem?_set]
  by_cases hij : i = j
  · subst hij
    rw [if_pos rfl, if_pos (List.getElem?_eq_some_iff.mp hb).1, hb]
    simp [hg]
  · rw [if_neg hij]

namespace PluginManager

variable {pm : PluginManager}

/-- A goroutine's step keeps the invariant and the keys of the state map. -/
theorem Inv.stepRoutine (h : pm.Inv) {i : Nat} {input : PluginInput} {pm' : PluginManager}
    (hs : pm.stepRoutine i input = some pm') : pm'.Inv ∧ ∀ p, p ∈ pm'.sm ↔ p ∈ pm.sm := by
  unfold PluginManager.stepRoutine at hs
  cases hr : pm.routines[i]? with
  | none => rw [hr] at hs; cases hs
  | some r =>
  rw [hr] at hs
  cases hs
  -- the goroutine runs the plugin of its cached test, whose state exists
  have hmem : r.pc ≠ .exited → r.pluginId ∈ pm.sm := by
    intro hpc
    obtain ⟨k, st, hk, hi⟩ := h.cached_of_routine i r.pc (by rw [hr]; rfl) hpc
    have hid := h.routine_of_cached k st i hk hi
    rw [hr, Option.map_some, Option.some.injEq] at hid
    rw [hid]
    exact h.mem_sm hk
  have hkeys := PluginRoutine.mem_step_sm r pm.sm input hmem
  have hid := getElem?_set_map PluginRoutine.pluginId hr (a := (r.step pm.sm input).1) rfl
  refine ⟨⟨h.keyed, fun p => (hkeys p).trans (h.states p), fun k st j hk hj => ?_, fun j pc hj hpc => ?_⟩,
    hkeys⟩
  · exact (hid j).trans (h.routine_of_cached k st j hk hj)
  · by_cases hij : i = j
    · -- the goroutine that moved had not returned either
      subst hij
      rw [List.getElem?_set_self (List.getElem?_eq_some_iff.mp hr).1, Option.map_some, Option.some.injEq] at hj
      have hpc' : r.pc ≠ .exited := fun he => hpc (hj ▸ PluginRoutine.step_pc_exited r pm.sm input he)
      exact h.cached_of_routine i r.pc (by rw [hr]; rfl) hpc'
    · rw [List.getElem?_set_ne hij] at hj
      exact h.cached_of_routine j pc hj hpc

/-- The exporters write to Redis only, which the invariant does not read. -/
theorem Inv.withStore (h : pm.Inv) (store : Redis) : ({ pm with store := store } : PluginManager).Inv :=
  ⟨h.keyed, h.states, h.routine_of_cached, h.cached_of_routine⟩

end PluginManager

/-! ## The invariant of the agent -/

/-- The configs a fetch may return for the summaries `todo` are stored under their own
config ids. -/
def KeyedFetch (snap : ConfigSnapshot) (todo : List (Σ _ : String, SyntestConfigSummary)) : Prop :=
  ∀ e ∈ todo, ∀ c, snap.fetch e.1 = .ok c → computeSynTestConfigId c.name c.«namespace» = e.1

/-- What the sync loop may still start is keyed. -/
def SyncPc.Keyed : SyncPc → Prop
  | .idle => True
  | .deletion snap latest _ => KeyedFetch snap latest.entries
  | .waitDeleted _ snap latest _ => KeyedFetch snap latest.entries
  | .update snap todo => KeyedFetch snap todo
  | .waitChanged testConfigId _ latestSynTestConfig snap todo =>
    computeSynTestConfigId latestSynTestConfig.name latestSynTestConfig.«namespace» = testConfigId ∧
      KeyedFetch snap todo

/-- The invariant of the agent: that of the plugin manager, and what the sync loop may
still start is keyed. -/
structure Agent.Inv (a : Agent) : Prop where
  pm : a.pm.Inv
  sync : a.sync.Keyed

theorem KeyedFetch.eraseIdx {snap : ConfigSnapshot} {todo : List (Σ _ : String, SyntestConfigSummary)}
    (h : KeyedFetch snap todo) (n : Nat) : KeyedFetch snap (todo.eraseIdx n) :=
  fun e he => h e (List.mem_of_mem_eraseIdx he)

section Steps

variable {pm pm' : PluginManager} {snap : ConfigSnapshot}

theorem syncStart_keyed {pc pc' : SyncPc} (hsnap : snap.WellKeyed) (hs : syncStart pm snap pc = some pc') :
    pc'.Keyed := by
  unfold syncStart at hs
  split at hs
  · split at hs
    · rename_i latest hlatest
      cases hs
      exact fun e he c hc => hsnap latest hlatest e.1 (AList.mem_keys.mpr (List.mem_keys_of_mem he)) c hc
    · cases hs
  · cases hs

theorem visitDeleted_inv (h : pm.Inv) (latest : GoMap String SyntestConfigSummary)
    (hk : KeyedFetch snap latest.entries) (todo : List (Σ _ : String, SyntheticTest)) (k : String) :
    (visitDeleted pm snap latest todo k).1.Inv ∧ (visitDeleted pm snap latest todo k).2.Keyed := by
  unfold visitDeleted
  split_ifs
  · exact ⟨h, hk⟩
  · exact ⟨h.stopSynTest k, hk⟩

theorem visitLatest_inv (h : pm.Inv) {todo : List (Σ _ : String, SyntestConfigSummary)} (hk : KeyedFetch snap todo)
    {k : String} (hkey : ∀ c, snap.fetch k = .ok c → computeSynTestConfigId c.name c.«namespace» = k)
    (configSummary : SyntestConfigSummary) :
    (visitLatest pm snap todo k configSummary).1.Inv ∧ (visitLatest pm snap todo k configSummary).2.Keyed := by
  unfold visitLatest
  dsimp only
  by_cases hver : (pm.syntheticTests.lookup k).map SyntheticTest.version = some configSummary.version
  · rw [if_pos hver]
    exact ⟨h, hk⟩
  rw [if_neg hver]
  cases hfetch : snap.fetch k with
  | error err => exact ⟨h, hk⟩
  | ok c =>
    dsimp only
    by_cases hcached : (pm.syntheticTests.lookup k).isSome
    · rw [if_pos hcached]
      exact ⟨h.stopSynTest k, hkey c hfetch, hk⟩
    · -- a test that is not cached is started at once
      rw [if_neg hcached]
      have hnone : pm.syntheticTests.lookup k = none := Option.not_isSome_iff_eq_none.mp hcached
      exact ⟨h.startIfValid hnone (hkey c hfetch), hk⟩

theorem syncStep_inv {n : Nat} {pc pc' : SyncPc} (h : pm.Inv) (hk : pc.Keyed)
    (hs : syncStep pm n pc = some (pm', pc')) : pm'.Inv ∧ pc'.Keyed := by
  cases pc with
  | idle => cases hs
  | deletion snap latest todo =>
    simp only [syncStep] at hs
    split at hs
    · rename_i e _
      have hv := visitDeleted_inv h latest hk (todo.eraseIdx n) e.1
      rwa [Option.some.inj hs] at hv
    · split_ifs at hs
      cases hs
      exact ⟨h, hk⟩
  | waitDeleted k snap latest todo =>
    simp only [syncStep] at hs
    split_ifs at hs with hwait
    cases hs
    exact ⟨h.deleteSynTest hwait, hk⟩
  | update snap todo =>
    simp only [syncStep] at hs
    split at hs
    · rename_i e he
      have hv := visitLatest_inv h (hk.eraseIdx n) (hk e (List.mem_of_getElem? he)) e.2
      rwa [Option.some.inj hs] at hv
    · split_ifs at hs
      cases hs
      exact ⟨h, trivial⟩
  | waitChanged k v c snap todo =>
    simp only [syncStep] at hs
    split_ifs at hs with hwait
    cases hs
    -- the older version is deleted, so the test is not cached when it is started again
    have hnone : (pm.deleteSynTest k).syntheticTests.lookup k = none := by
      rw [PluginManager.lookup_deleteSynTest, if_pos rfl]
    exact ⟨(h.deleteSynTest hwait).startIfValid hnone hk.1, hk.2⟩

/-- The health exporter writes to Redis and changes nothing else of the plugin manager. -/
theorem healthStep_store {hpc hpc' : HealthPc} {l : AgentLabel} (hs : healthStep pm hpc l = some (pm', hpc')) :
    ∃ store, pm' = { pm with store := store } := by
  unfold healthStep at hs
  split at hs
  · cases hs
    exact ⟨pm.store, rfl⟩
  · cases hs
    exact ⟨pm.store, rfl⟩
  · cases hs
    exact ⟨_, rfl⟩
  · obtain ⟨_, -, hs⟩ := Option.map_eq_some_iff.mp hs
    cases hs
    exact ⟨_, rfl⟩
  · split_ifs at hs
    cases hs
    exact ⟨pm.store, rfl⟩
  · cases hs

theorem healthStep_inv {hpc hpc' : HealthPc} {l : AgentLabel} (h : pm.Inv)
    (hs : healthStep pm hpc l = some (pm', hpc')) : pm'.Inv := by
  obtain ⟨store, rfl⟩ := healthStep_store hs
  exact h.withStore store

end Steps

/-- Every step of the agent keeps its invariant, provided the configs a sync reads are
keyed. -/
theorem Agent.Inv.step {a a' : Agent} {l : AgentLabel} (h : a.Inv) (hl : l.Allowed)
    (hs : agentStep a l = some a') : a'.Inv := by
  cases l with
  | syncStart snap =>
    obtain ⟨pc, hpc, rfl⟩ := Option.map_eq_some_iff.mp hs
    exact ⟨h.pm, syncStart_keyed hl hpc⟩
  | syncStep n =>
    obtain ⟨⟨pm, pc⟩, hpc, rfl⟩ := Option.map_eq_some_iff.mp hs
    obtain ⟨hpm, hk⟩ := syncStep_inv h.pm h.sync hpc
    exact ⟨hpm, hk⟩
  | routine i input =>
    obtain ⟨pm, hpm, rfl⟩ := Option.map_eq_some_iff.mp hs
    exact ⟨(h.pm.stepRoutine hpm).1, h.sync⟩
  | publish i testRun =>
    simp only [agentStep] at hs
    split at hs
    · split_ifs at hs
      cases hs
      exact ⟨h.pm, h.sync⟩
    · cases hs
  | exportTestRun =>
    simp only [agentStep] at hs
    split at hs
    · cases hs
      exact ⟨h.pm.withStore _, h.sync⟩
    · cases hs
  | _ =>
    obtain ⟨⟨pm, hpc⟩, hhs, rfl⟩ := Option.map_eq_some_iff.mp hs
    exact ⟨healthStep_inv h.pm hhs, h.sync⟩

/-- The moves of the goroutines other than the sync loop: a goroutine's step, or a write of
an exporter to Redis. The sync loop stays where it is. -/
theorem agentStep_other {a a' : Agent} {l : AgentLabel} (hstart : ∀ snap, l ≠ .syncStart snap)
    (hsync : ∀ n, l ≠ .syncStep n) (hs : agentStep a l = some a') :
    a'.sync = a.sync ∧
      ((∃ i input, a.pm.stepRoutine i input = some a'.pm) ∨ ∃ store, a'.pm = { a.pm with store := store }) := by
  cases l with
  | syncStart snap => exact absurd rfl (hstart snap)
  | syncStep n => exact absurd rfl (hsync n)
  | routine i input =>
    obtain ⟨pm, hpm, rfl⟩ := Option.map_eq_some_iff.mp hs
    exact ⟨rfl, .inl ⟨i, input, hpm⟩⟩
  | publish i testRun =>
    simp only [agentStep] at hs
    split at hs
    · split_ifs at hs
      cases hs
      exact ⟨rfl, .inr ⟨a.pm.store, rfl⟩⟩
    · cases hs
  | exportTestRun =>
    simp only [agentStep] at hs
    split at hs
    · cases hs
      exact ⟨rfl, .inr ⟨_, rfl⟩⟩
    · cases hs
  | _ =>
    obtain ⟨⟨pm, hpc⟩, hhs, rfl⟩ := Option.map_eq_some_iff.mp hs
    obtain ⟨store, rfl⟩ := healthStep_store hhs
    exact ⟨rfl, .inr ⟨store, rfl⟩⟩

theorem reachable_inv {agentId : String} {config : AgentConfig} {synTestNameMap : List String} {store : Redis}
    {a : Agent} (h : Transition.Reachable agentStep AgentLabel.Allowed (Agent.init agentId config synTestNameMap store) a) :
    a.Inv :=
  h.invariant ⟨PluginManager.inv_init agentId config synTestNameMap store, trivial⟩
    fun _ _ _ hl ha hs => ha.step hl hs

/-! ## The state map at rest -/

section StateMapKeys

variable {agentId : String} {config : AgentConfig} {synTestNameMap : List String} {store : Redis}

theorem agent_state_map_keys {a : Agent}
    (h : Transition.Reachable agentStep AgentLabel.Allowed (Agent.init agentId config synTestNameMap store) a) :
    (a.sync = .idle → ∀ p, p ∈ a.pm.sm ↔ ∃ k st, a.pm.syntheticTests.lookup k = some st ∧
        p = computePluginId st.config.name st.config.«namespace» a.pm.agentId) ∧
      (∀ k k' st st', a.pm.syntheticTests.lookup k = some st → a.pm.syntheticTests.lookup k' = some st' →
        computePluginId st.config.name st.config.«namespace» a.pm.agentId =
          computePluginId st'.config.name st'.config.«namespace» a.pm.agentId → k = k') ∧
      (∀ i input a', agentStep a (.routine i input) = some a' → ∀ p, p ∈ a'.pm.sm ↔ p ∈ a.pm.sm) := by
  have hinv := (reachable_inv h).pm
  refine ⟨fun _ => hinv.states, fun k k' st st' hk hk' heq => hinv.pluginIdOf_inj hk hk' heq, ?_⟩
  intro i input a' hs
  obtain ⟨pm, hpm, rfl⟩ := Option.map_eq_some_iff.mp hs
  exact (hinv.stepRoutine hpm).2

/-- The agent `agent-0/synheart` before its first sync. -/
def pingAgentInit : Agent := Agent.init "agent-0/synheart" .zero ["ping"] .empty

theorem pingSnapshot_wellKeyed : pingSnapshot.WellKeyed := by
  intro latest hlatest k hk c hc
  simp only [pingSnapshot, Except.ok.injEq] at hlatest hc
  subst hlatest hc
  rw [AList.mem_insert] at hk
  rcases hk with rfl | hk
  · rfl
  · exact absurd hk (by simp)

/-- The first sync of `pingAgentInit` against `pingSnapshot`: the deletion pass has nothing
to visit, and the update pass starts `ping/default`. -/
def firstSync : List AgentLabel := [.syncStart pingSnapshot, .syncStep 0, .syncStep 0, .syncStep 0]

theorem firstSync_allowed : ∀ l ∈ firstSync, l.Allowed := by
  intro l hl
  simp only [firstSync, List.mem_cons, List.not_mem_nil, or_false] at hl
  rcases hl with rfl | rfl | rfl | rfl
  · exact pingSnapshot_wellKeyed
  all_goals trivial

theorem agent_state_map_keys_ping :
    ∃ a, Transition.run agentStep pingAgentInit firstSync = some a ∧ a.sync = .idle ∧
      ∀ p, p ∈ a.pm.sm ↔ ∃ k st, a.pm.syntheticTests.lookup k = some st ∧
        p = computePluginId st.config.name st.config.«namespace» a.pm.agentId := by
  obtain ⟨a, ha⟩ : ∃ a, Transition.run agentStep pingAgentInit firstSync = some a := ⟨_, rfl⟩
  have hreach := Transition.reachable_of_run ha firstSync_allowed (Relation.ReflTransGen.refl)
  have hidle : a.sync = .idle := by
    have hs : (Transition.run agentStep pingAgentInit firstSync).map (fun a => a.sync matches .idle) = some true := by
      decide
    rw [ha, Option.map_some, Option.some.injEq] at hs
    cases hpc : a.sync with
    | idle => rfl
    | _ =>
      rw [hpc] at hs
      cases hs
  exact ⟨a, ha, hidle, (agent_state_map_keys hreach).1 hidle⟩

end StateMapKeys

end SyntheticHeart

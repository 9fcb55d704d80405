import SyntheticHeart.Agent.StartPlugin
import SyntheticHeart.Storage.Redis

/-!
# Syncing the syntest configs (`SyncSyntestPluginConfigs`)

The plugin manager caches, per config id, the config it runs and its version
(`syntheticTests`). A sync reads the config summaries from Redis and makes two passes
over them. The deletion pass stops and deletes every cached test that has no summary.
The update pass visits every summary: it skips a test cached at the summary's version,
otherwise fetches the config, stops and deletes an older cached version, and starts the
test again when the agent's selectors accept it. Both passes are `range` loops over Go
maps, folds over the entries of an `AList` in any order.

`StopAndDeleteSynTest` cancels the test's goroutine, waits for it to return, and then
deletes the plugin state, the cache entry and the plugin's run data in Redis. It is split
at the wait into `stopSynTest` and `deleteSynTest`: a sync run here sees the wait return
at once, and `Agent.System` lets the goroutines run while the sync waits.

Each iteration changes the cache slot of its own config id only (`syncDeleted_local`,
`syncLatest_local`), so the library lemmas on such loops give the cache after a sync key
by key, in every iteration order.
-/

namespace SyntheticHeart

open GoMap

/-- `SyntheticTest`: a cached config and its version. Its cancel function and wait group
belong to the goroutine `routine` (an index into `PluginManager.routines`), or to no
goroutine when the plugin was not found. -/
structure SyntheticTest where
  config : SynTestConfig
  version : String
  routine : Option Nat
  deriving DecidableEq

/-- The `PluginManager` fields a sync reads and writes, with the plugin names registered
in `SynTestNameMap` and the goroutines started so far. -/
structure PluginManager where
  agentId : String
  config : AgentConfig
  synTestNameMap : List String
  syntheticTests : GoMap String SyntheticTest
  sm : StateMap
  routines : List PluginRoutine
  store : Redis

/-- What one sync reads from Redis: the result of `FetchAllTestConfigSummary`, and the
result of `FetchTestConfig` for each config id. -/
structure ConfigSnapshot where
  summaries : Except String (GoMap String SyntestConfigSummary)
  fetch : String → Except String SynTestConfig

/-- The state `StartTestRoutine` stores for a plugin that is not registered. -/
def pluginNotFoundState (pluginName : String) : PluginState :=
  { initialPluginState with
    status := .error
    statusMsg := "couldn\x27t find plugin: \x27" ++ pluginName ++ "\x27" }

namespace PluginManager

variable (pm : PluginManager)

/-- `cancel()` of a cached test: the context of its goroutine is cancelled. -/
def cancel : Option Nat → PluginManager
  | some i => { pm with routines := pm.routines.modify i fun r => { r with cancelled := true } }
  | none => pm

/-- `StopAndDeleteSynTest` up to `wg.Wait()`. -/
def stopSynTest (testConfigId : String) : PluginManager :=
  match pm.syntheticTests.lookup testConfigId with
  | some st => pm.cancel st.routine
  | none => pm

/-- `StopAndDeleteSynTest` after `wg.Wait()` has returned. -/
def deleteSynTest (testConfigId : String) : PluginManager :=
  match pm.syntheticTests.lookup testConfigId with
  | some st =>
    let pluginId := computePluginId st.config.name st.config.«namespace» pm.agentId
    { pm with
      sm := pm.sm.deletePluginState pluginId
      syntheticTests := pm.syntheticTests.erase testConfigId
      store := pm.store.deleteAllTestRunInfo pluginId }
  | none => pm

/-- `StopAndDeleteSynTest`. Its callers pass cached ids only. -/
def stopAndDeleteSynTest (testConfigId : String) : PluginManager :=
  (pm.stopSynTest testConfigId).deleteSynTest testConfigId

/-- `StartTestRoutine` for the test `s` cached under `testConfigId`. For a registered
plugin the initial state is stored and a `StartPlugin` goroutine started, which the wait
group of the cached test counts; otherwise the stored state says the plugin is missing. -/
def startTestRoutine (testConfigId : String) (s : SyntheticTest) : PluginManager :=
  let pluginId := computePluginId s.config.name s.config.«namespace» pm.agentId
  if s.config.pluginName ∈ pm.synTestNameMap then
    { pm with
      syntheticTests := pm.syntheticTests.insert testConfigId { s with routine := some pm.routines.length }
      sm := pm.sm.setPluginState pluginId initialPluginState
      routines := pm.routines ++ [startPlugin pluginId (parseRestartPolicy s.config.pluginRestartPolicy)] }
  else
    { pm with sm := pm.sm.setPluginState pluginId (pluginNotFoundState s.config.pluginName) }

end PluginManager

/-- One iteration of the deletion pass, on the cached test `testConfigId`. -/
def syncDeleted (latestSynTestConfigs : GoMap String SyntestConfigSummary)
    (acc : PluginManager × Bool) (testConfigId : String) (_ : SyntheticTest) : PluginManager × Bool :=
  if testConfigId ∈ latestSynTestConfigs then acc
  else (acc.1.stopAndDeleteSynTest testConfigId, true)

/-- One iteration of the update pass, on the summary of `testConfigId`. -/
def syncLatest (snap : ConfigSnapshot) (acc : PluginManager × Bool) (testConfigId : String)
    (configSummary : SyntestConfigSummary) : PluginManager × Bool :=
  let (pm, configChanged) := acc
  let st := pm.syntheticTests.lookup testConfigId
  let latestVersion := configSummary.version
  if st.map SyntheticTest.version = some latestVersion then acc
  else
    match snap.fetch testConfigId with
    | .error _ => acc
    | .ok latestSynTestConfig =>
      let (pm, configChanged) :=
        if st.isSome then (pm.stopAndDeleteSynTest testConfigId, true) else (pm, configChanged)
      match isAgentValidForSynTest pm.config pm.agentId latestSynTestConfig.name
          latestSynTestConfig.«namespace» latestSynTestConfig.nodeSelector
          latestSynTestConfig.podLabelSelector latestSynTestConfig.labels with
      | .ok true =>
        let s : SyntheticTest := ⟨latestSynTestConfig, latestVersion, none⟩
        let pm := { pm with syntheticTests := pm.syntheticTests.insert testConfigId s }
        (pm.startTestRoutine testConfigId s, true)
      | _ => (pm, configChanged)

/-- `SyncSyntestPluginConfigs`: the synced manager, and whether the config changed. -/
def syncSyntestPluginConfigs (pm : PluginManager) (snap : ConfigSnapshot) :
    Except String (PluginManager × Bool) :=
  match snap.summaries with
  | .error err => .error err
  | .ok latestSynTestConfigs =>
    let acc := pm.syntheticTests.entries.foldl
      (fun acc e => syncDeleted latestSynTestConfigs acc e.1 e.2) (pm, false)
    .ok (latestSynTestConfigs.entries.foldl (fun acc e => syncLatest snap acc e.1 e.2) acc)

/-! ## Stopping and starting one test -/

namespace PluginManager

variable (pm : PluginManager)

@[simp] theorem syntheticTests_cancel (o : Option Nat) : (pm.cancel o).syntheticTests = pm.syntheticTests := by
  cases o <;> rfl

@[simp] theorem config_cancel (o : Option Nat) : (pm.cancel o).config = pm.config := by
  cases o <;> rfl

@[simp] theorem agentId_cancel (o : Option Nat) : (pm.cancel o).agentId = pm.agentId := by
  cases o <;> rfl

@[simp] theorem syntheticTests_stopSynTest (k : String) :
    (pm.stopSynTest k).syntheticTests = pm.syntheticTests := by
  unfold stopSynTest; split <;> simp

@[simp] theorem config_stopSynTest (k : String) : (pm.stopSynTest k).config = pm.config := by
  unfold stopSynTest; split <;> simp

@[simp] theorem agentId_stopSynTest (k : String) : (pm.stopSynTest k).agentId = pm.agentId := by
  unfold stopSynTest; split <;> simp

@[simp] theorem config_deleteSynTest (k : String) : (pm.deleteSynTest k).config = pm.config := by
  unfold deleteSynTest; split <;> rfl

@[simp] theorem agentId_deleteSynTest (k : String) : (pm.deleteSynTest k).agentId = pm.agentId := by
  unfold deleteSynTest; split <;> rfl

/-- Deleting a test empties its cache slot and no other. -/
theorem lookup_deleteSynTest (k j : String) :
    (pm.deleteSynTest k).syntheticTests.lookup j =
      if j = k then none else pm.syntheticTests.lookup j := by
  unfold deleteSynTest
  split <;> rename_i hk
  · by_cases hj : j = k
    · subst hj; simp
    · simp [hj, AList.lookup_erase_ne]
  · by_cases hj : j = k
    · subst hj; simp [hk]
    · simp [hj]

@[simp] theorem config_stopAndDeleteSynTest (k : String) :
    (pm.stopAndDeleteSynTest k).config = pm.config := by
  simp [stopAndDeleteSynTest]

@[simp] theorem agentId_stopAndDeleteSynTest (k : String) :
    (pm.stopAndDeleteSynTest k).agentId = pm.agentId := by
  simp [stopAndDeleteSynTest]

theorem lookup_stopAndDeleteSynTest (k j : String) :
    (pm.stopAndDeleteSynTest k).syntheticTests.lookup j =
      if j = k then none else pm.syntheticTests.lookup j := by
  simp [stopAndDeleteSynTest, lookup_deleteSynTest]

@[simp] theorem config_startTestRoutine (k : String) (s : SyntheticTest) :
    (pm.startTestRoutine k s).config = pm.config := by
  unfold startTestRoutine; split_ifs <;> rfl

@[simp] theorem agentId_startTestRoutine (k : String) (s : SyntheticTest) :
    (pm.startTestRoutine k s).agentId = pm.agentId := by
  unfold startTestRoutine; split_ifs <;> rfl

theorem lookup_startTestRoutine_ne {k j : String} (s : SyntheticTest) (h : j ≠ k) :
    (pm.startTestRoutine k s).syntheticTests.lookup j = pm.syntheticTests.lookup j := by
  unfold startTestRoutine
  split_ifs <;> simp [AList.lookup_insert_ne h]

/-- Starting the test cached under `k` keeps its config and version there; only the
goroutine its wait group counts is recorded. -/
theorem lookup_startTestRoutine_self {k : String} {s : SyntheticTest}
    (h : pm.syntheticTests.lookup k = some s) :
    ((pm.startTestRoutine k s).syntheticTests.lookup k).map (fun st => (st.config, st.version)) =
      some (s.config, s.version) := by
  unfold startTestRoutine
  split_ifs <;> simp [h]

end PluginManager

/-! ## One iteration of each pass -/

section Passes

variable (snap : ConfigSnapshot) (latest : GoMap String SyntestConfigSummary)

/-- The cache slot of a config id, in the state of a loop. -/
def cacheSlot (acc : PluginManager × Bool) (testConfigId : String) : Option SyntheticTest :=
  acc.1.syntheticTests.lookup testConfigId

/-- The loop invariant of both passes: the agent's config and id do not change. -/
def SameAgent (pm : PluginManager) (acc : PluginManager × Bool) : Prop :=
  acc.1.config = pm.config ∧ acc.1.agentId = pm.agentId

/-- The effect of an update-pass iteration on the cache slot of its config id, from the
slot `old` before it to the slot `new` after it. -/
def LatestSlot (config : AgentConfig) (agentId testConfigId : String)
    (configSummary : SyntestConfigSummary) (old new : Option SyntheticTest) : Prop :=
  if old.map SyntheticTest.version = some configSummary.version then new = old
  else
    match snap.fetch testConfigId with
    | .error _ => new = old
    | .ok cfg =>
      (isAgentValidForSynTest config agentId cfg.name cfg.«namespace» cfg.nodeSelector
          cfg.podLabelSelector cfg.labels = .ok true →
        new.map (fun st => (st.config, st.version)) = some (cfg, configSummary.version)) ∧
      (isAgentValidForSynTest config agentId cfg.name cfg.«namespace» cfg.nodeSelector
          cfg.podLabelSelector cfg.labels ≠ .ok true → new = none)

/-- Whether an update-pass iteration raises the flag, from the slot before it. -/
def latestRaises (config : AgentConfig) (agentId testConfigId : String)
    (configSummary : SyntestConfigSummary) (old : Option SyntheticTest) : Bool :=
  if old.map SyntheticTest.version = some configSummary.version then false
  else
    match snap.fetch testConfigId with
    | .error _ => false
    | .ok cfg =>
      match isAgentValidForSynTest config agentId cfg.name cfg.«namespace» cfg.nodeSelector
          cfg.podLabelSelector cfg.labels with
      | .ok true => true
      | _ => old.isSome

theorem syncDeleted_local (pm : PluginManager) :
    LocalBody cacheSlot (syncDeleted latest)
      (fun k _ old new => new = if k ∈ latest then old else none) (SameAgent pm) where
  keep := by
    intro acc k _ hs
    unfold syncDeleted SameAgent at *
    split_ifs <;> simp [hs]
  frame := by
    intro acc k _ j hj
    unfold syncDeleted cacheSlot
    split_ifs <;> simp [PluginManager.lookup_stopAndDeleteSynTest, hj]
  update := by
    intro acc k _ _
    unfold syncDeleted cacheSlot
    split_ifs <;> simp [PluginManager.lookup_stopAndDeleteSynTest, *]

theorem syncDeleted_flag (acc : PluginManager × Bool) (k : String) (w : SyntheticTest) :
    (syncDeleted latest acc k w).2 = (acc.2 || decide (k ∉ latest)) := by
  unfold syncDeleted
  split_ifs with h <;> simp [h]

/-! The update pass, by the outcome of the version test and of the fetch. -/

theorem syncLatest_of_version (acc : PluginManager × Bool) {k : String} {summary : SyntestConfigSummary}
    (hver : (acc.1.syntheticTests.lookup k).map SyntheticTest.version = some summary.version) :
    syncLatest snap acc k summary = acc := by
  obtain ⟨p, c⟩ := acc
  simp [syncLatest, hver]

theorem syncLatest_of_fetch_error (acc : PluginManager × Bool) {k err : String}
    {summary : SyntestConfigSummary} (hfetch : snap.fetch k = .error err) :
    syncLatest snap acc k summary = acc := by
  obtain ⟨p, c⟩ := acc
  simp [syncLatest, hfetch]

theorem syncLatest_of_fetch_ok (p : PluginManager) (c : Bool) {k : String}
    {summary : SyntestConfigSummary} {cfg : SynTestConfig}
    (hver : (p.syntheticTests.lookup k).map SyntheticTest.version ≠ some summary.version)
    (hfetch : snap.fetch k = .ok cfg) :
    syncLatest snap (p, c) k summary =
      let p₁ := if (p.syntheticTests.lookup k).isSome then p.stopAndDeleteSynTest k else p
      let s : SyntheticTest := ⟨cfg, summary.version, none⟩
      match isAgentValidForSynTest p.config p.agentId cfg.name cfg.«namespace» cfg.nodeSelector
          cfg.podLabelSelector cfg.labels with
      | .ok true => (({ p₁ with syntheticTests := p₁.syntheticTests.insert k s } : PluginManager).startTestRoutine k s, true)
      | _ => (p₁, c || (p.syntheticTests.lookup k).isSome) := by
  simp only [syncLatest, hver, if_false, hfetch]
  split_ifs with hc <;> simp [hc]

/-- `if ok { pm.StopAndDeleteSynTest(ctx, testConfigId) }` empties the slot of the id and
keeps the others. -/
theorem lookup_stopIfCached (p : PluginManager) (k j : String) :
    (if (p.syntheticTests.lookup k).isSome then p.stopAndDeleteSynTest k else p).syntheticTests.lookup j =
      if j = k then none else p.syntheticTests.lookup j := by
  by_cases hj : j = k
  · subst hj
    rw [if_pos rfl]
    split_ifs with hc
    · simp [PluginManager.lookup_stopAndDeleteSynTest]
    · simpa using hc
  · split_ifs <;> simp [PluginManager.lookup_stopAndDeleteSynTest, hj]

theorem sameAgent_stopIfCached (p : PluginManager) (k : String) :
    (if (p.syntheticTests.lookup k).isSome then p.stopAndDeleteSynTest k else p).config = p.config ∧
      (if (p.syntheticTests.lookup k).isSome then p.stopAndDeleteSynTest k else p).agentId = p.agentId := by
  split_ifs <;> simp

theorem syncLatest_local (pm : PluginManager) :
    LocalBody cacheSlot (syncLatest snap) (LatestSlot snap pm.config pm.agentId) (SameAgent pm) where
  keep := by
    rintro ⟨p, c⟩ k w ⟨hcfg, hid⟩
    dsimp only at hcfg hid
    by_cases hver : (p.syntheticTests.lookup k).map SyntheticTest.version = some w.version
    · rw [syncLatest_of_version snap _ hver]; exact ⟨hcfg, hid⟩
    cases hf : snap.fetch k with
    | error e => rw [syncLatest_of_fetch_error snap _ hf]; exact ⟨hcfg, hid⟩
    | ok cfg =>
      rw [syncLatest_of_fetch_ok snap p c hver hf]
      obtain ⟨h₁, h₂⟩ := sameAgent_stopIfCached p k
      dsimp only
      split <;> simp [SameAgent, h₁, h₂, hcfg, hid]
  frame := by
    rintro ⟨p, c⟩ k w j hj
    by_cases hver : (p.syntheticTests.lookup k).map SyntheticTest.version = some w.version
    · rw [syncLatest_of_version snap _ hver]
    cases hf : snap.fetch k with
    | error e => rw [syncLatest_of_fetch_error snap _ hf]
    | ok cfg =>
      rw [syncLatest_of_fetch_ok snap p c hver hf]
      dsimp only
      split <;> simp [cacheSlot, PluginManager.lookup_startTestRoutine_ne _ _ hj,
        AList.lookup_insert_ne hj, lookup_stopIfCached, hj]
  update := by
    rintro ⟨p, c⟩ k w ⟨hcfg, hid⟩
    dsimp only at hcfg hid
    unfold LatestSlot cacheSlot
    by_cases hver : (p.syntheticTests.lookup k).map SyntheticTest.version = some w.version
    · rw [syncLatest_of_version snap _ hver, if_pos hver]
    rw [if_neg hver]
    cases hf : snap.fetch k with
    | error e => rw [syncLatest_of_fetch_error snap _ hf]
    | ok cfg =>
      rw [syncLatest_of_fetch_ok snap p c hver hf, ← hcfg, ← hid]
      dsimp only
      split <;> rename_i hvalid
      · refine ⟨fun _ => PluginManager.lookup_startTestRoutine_self _ (by simp), fun h => absurd hvalid h⟩
      · refine ⟨fun h => absurd h hvalid, fun _ => ?_⟩
        simp [lookup_stopIfCached]

theorem syncLatest_flag (pm : PluginManager) (acc : PluginManager × Bool) (k : String)
    (w : SyntestConfigSummary) (hs : SameAgent pm acc) :
    (syncLatest snap acc k w).2 = (acc.2 || latestRaises snap pm.config pm.agentId k w (cacheSlot acc k)) := by
  obtain ⟨p, c⟩ := acc
  obtain ⟨hcfg, hid⟩ := hs
  dsimp only at hcfg hid
  unfold latestRaises cacheSlot
  by_cases hver : (p.syntheticTests.lookup k).map SyntheticTest.version = some w.version
  · rw [syncLatest_of_version snap _ hver, if_pos hver, Bool.or_false]
  rw [if_neg hver]
  cases hf : snap.fetch k with
  | error e => rw [syncLatest_of_fetch_error snap _ hf, Bool.or_false]
  | ok cfg =>
    rw [syncLatest_of_fetch_ok snap p c hver hf, ← hcfg, ← hid]
    dsimp only
    split <;> simp

/-- The flag raised by an update-pass iteration says that it changed the version cached
under its id. -/
theorem latestRaises_iff {config : AgentConfig} {agentId k : String} {w : SyntestConfigSummary}
    {old new : Option SyntheticTest} (h : LatestSlot snap config agentId k w old new) :
    latestRaises snap config agentId k w old = true ↔
      new.map SyntheticTest.version ≠ old.map SyntheticTest.version := by
  unfold LatestSlot at h
  unfold latestRaises
  by_cases hver : old.map SyntheticTest.version = some w.version
  · rw [if_pos hver] at h ⊢
    simp [h]
  rw [if_neg hver] at h ⊢
  cases hf : snap.fetch k with
  | error e => rw [hf] at h; simp [h]
  | ok cfg =>
    rw [hf] at h
    obtain ⟨hvalid, hinvalid⟩ := h
    dsimp only
    split <;> rename_i hres
    · -- the test is started at the summary's version, which the old slot does not have
      have hnew := congrArg (Option.map Prod.snd) (hvalid hres)
      simp only [Option.map_map, Option.map_some] at hnew
      simp only [true_iff]
      exact fun he => hver (he ▸ hnew)
    · rw [hinvalid hres]
      cases old <;> simp

end Passes

/-! ## A whole sync -/

section Sync

variable (snap : ConfigSnapshot) (pm : PluginManager) (latest : GoMap String SyntestConfigSummary)

/-- The deletion pass keeps the cached tests that have a summary and no other. -/
theorem deletionPass_slot (j : String) :
    cacheSlot (pm.syntheticTests.entries.foldl (fun acc e => syncDeleted latest acc e.1 e.2) (pm, false)) j =
      if j ∈ latest then pm.syntheticTests.lookup j else none := by
  have hloc := syncDeleted_local latest pm
  cases hj : pm.syntheticTests.lookup j with
  | none =>
    rw [view_foldl_of_not_mem hloc _ _ (AList.lookup_eq_none.mp hj)]
    simp [cacheSlot, hj]
  | some st =>
    have hrel := view_foldl_of_dlookup hloc _ (pm, false) ⟨rfl, rfl⟩ pm.syntheticTests.nodupKeys hj
    simpa [cacheSlot, hj] using hrel

/-- The deletion pass raises the flag iff some cached test has no summary. -/
theorem deletionPass_flag :
    (pm.syntheticTests.entries.foldl (fun acc e => syncDeleted latest acc e.1 e.2) (pm, false)).2 = true ↔
      ∃ k, k ∈ pm.syntheticTests ∧ k ∉ latest := by
  rw [flag_foldl_of_local (syncDeleted_local latest pm) Prod.snd (fun k _ _ => decide (k ∉ latest))
    (fun acc k w _ => syncDeleted_flag latest acc k w) _ (pm, false) ⟨rfl, rfl⟩ pm.syntheticTests.nodupKeys]
  simp only [Bool.false_or, List.any_eq_true, decide_eq_true_eq]
  constructor
  · rintro ⟨e, he, hnot⟩
    exact ⟨e.1, AList.mem_keys.mpr (List.mem_keys_of_mem he), hnot⟩
  · rintro ⟨k, hk, hnot⟩
    obtain ⟨st, hst⟩ := Option.isSome_iff_exists.mp (AList.lookup_isSome.mpr hk)
    exact ⟨⟨k, st⟩, AList.mem_lookup_iff.mp hst, hnot⟩

/-- The cache after a sync that returns: absent without a summary; with one, the effect of
its update-pass iteration on the slot the deletion pass left, which is the initial slot. -/
theorem syncSyntestPluginConfigs_slot {pm' : PluginManager} {configChanged : Bool}
    (hsum : snap.summaries = .ok latest)
    (h : syncSyntestPluginConfigs pm snap = .ok (pm', configChanged)) :
    (∀ k, k ∉ latest → pm'.syntheticTests.lookup k = none) ∧
      (∀ k w, latest.lookup k = some w →
        LatestSlot snap pm.config pm.agentId k w (pm.syntheticTests.lookup k) (pm'.syntheticTests.lookup k)) ∧
      (configChanged = true ↔ (∃ k, k ∈ pm.syntheticTests ∧ k ∉ latest) ∨
        ∃ e ∈ latest.entries, latestRaises snap pm.config pm.agentId e.1 e.2 (pm.syntheticTests.lookup e.1)) := by
  unfold syncSyntestPluginConfigs at h
  rw [hsum] at h
  injection h with h
  set s₁ := pm.syntheticTests.entries.foldl (fun acc e => syncDeleted latest acc e.1 e.2) (pm, false) with hs₁
  have hinv₁ : SameAgent pm s₁ := inv_foldl (syncDeleted_local latest pm) _ _ ⟨rfl, rfl⟩
  have hloc := syncLatest_local snap pm
  -- a config id with a summary keeps its initial slot through the deletion pass
  have hkeep : ∀ k, k ∈ latest → cacheSlot s₁ k = pm.syntheticTests.lookup k := fun k hk => by
    rw [hs₁, deletionPass_slot, if_pos hk]
  refine ⟨fun k hk => ?_, fun k w hw => ?_, ?_⟩
  · have hfin := view_foldl_of_not_mem hloc latest.entries s₁ hk
    rw [h, hs₁, deletionPass_slot, if_neg hk] at hfin
    exact hfin
  · have hrel := view_foldl_of_dlookup hloc latest.entries s₁ hinv₁ latest.nodupKeys hw
    rw [h, hkeep k (AList.lookup_isSome.mp (by simp [hw]))] at hrel
    exact hrel
  · have hflag := flag_foldl_of_local hloc Prod.snd _ (syncLatest_flag snap pm) latest.entries s₁ hinv₁
      latest.nodupKeys
    rw [h] at hflag
    simp only at hflag
    rw [hflag, Bool.or_eq_true, hs₁, deletionPass_flag, List.any_eq_true]
    refine or_congr Iff.rfl (exists_congr fun e => and_congr_right fun he => ?_)
    rw [hkeep e.1 (AList.mem_keys.mpr (List.mem_keys_of_mem he))]

end Sync

theorem syncSyntestPluginConfigs_cache {pm pm' : PluginManager} {snap : ConfigSnapshot}
    {configChanged : Bool} (h : syncSyntestPluginConfigs pm snap = .ok (pm', configChanged)) :
    ∃ latest, snap.summaries = .ok latest ∧
      (∀ k, k ∉ latest → pm'.syntheticTests.lookup k = none) ∧
      (∀ k w, latest.lookup k = some w →
        ((pm.syntheticTests.lookup k).map SyntheticTest.version = some w.version →
          pm'.syntheticTests.lookup k = pm.syntheticTests.lookup k) ∧
        ((pm.syntheticTests.lookup k).map SyntheticTest.version ≠ some w.version →
          (∀ err, snap.fetch k = .error err → pm'.syntheticTests.lookup k = pm.syntheticTests.lookup k) ∧
          (∀ cfg, snap.fetch k = .ok cfg →
            isAgentValidForSynTest pm.config pm.agentId cfg.name cfg.«namespace» cfg.nodeSelector
                cfg.podLabelSelector cfg.labels = .ok true →
              (pm'.syntheticTests.lookup k).map (fun st => (st.config, st.version)) = some (cfg, w.version)) ∧
          (∀ cfg, snap.fetch k = .ok cfg →
            isAgentValidForSynTest pm.config pm.agentId cfg.name cfg.«namespace» cfg.nodeSelector
                cfg.podLabelSelector cfg.labels ≠ .ok true →
              pm'.syntheticTests.lookup k = none))) ∧
      (configChanged = true ↔ ∃ k, (pm'.syntheticTests.lookup k).map SyntheticTest.version ≠
        (pm.syntheticTests.lookup k).map SyntheticTest.version) := by
  cases hsum : snap.summaries with
  | error e => simp [syncSyntestPluginConfigs, hsum] at h
  | ok latest =>
    obtain ⟨habsent, hslot, hflag⟩ := syncSyntestPluginConfigs_slot snap pm latest hsum h
    refine ⟨latest, rfl, habsent, fun k w hw => ?_, ?_⟩
    · -- the three outcomes of the update pass, read off `LatestSlot`
      have hs := hslot k w hw
      unfold LatestSlot at hs
      refine ⟨fun hv => by rwa [if_pos hv] at hs, fun hv => ?_⟩
      rw [if_neg hv] at hs
      refine ⟨fun err he => ?_, fun cfg he => ?_, fun cfg he => ?_⟩
      · rwa [he] at hs
      · rw [he] at hs; exact hs.1
      · rw [he] at hs; exact hs.2
    · rw [hflag]
      constructor
      · rintro (⟨k, hk, hnot⟩ | ⟨e, he, hr⟩)
        · -- a deleted test: cached before, absent after
          obtain ⟨st, hst⟩ := Option.isSome_iff_exists.mp (AList.lookup_isSome.mpr hk)
          exact ⟨k, by simp [habsent k hnot, hst]⟩
        · have hw : latest.lookup e.1 = some e.2 := AList.mem_lookup_iff.mpr he
          exact ⟨e.1, (latestRaises_iff snap (hslot e.1 e.2 hw)).mp hr⟩
      · rintro ⟨k, hk⟩
        by_cases hmem : k ∈ latest
        · obtain ⟨w, hw⟩ := Option.isSome_iff_exists.mp (AList.lookup_isSome.mpr hmem)
          exact Or.inr ⟨⟨k, w⟩, AList.mem_lookup_iff.mp hw, (latestRaises_iff snap (hslot k w hw)).mpr hk⟩
        · refine Or.inl ⟨k, ?_, hmem⟩
          by_contra hnk
          rw [habsent k hmem, AList.lookup_eq_none.mpr hnk] at hk
          exact hk rfl

/-- The config of a test `ping/default` at version `2`. -/
def pingConfig : SynTestConfig :=
  { name := "ping", version := "2", labels := ∅, pluginName := "ping", displayName := "",
    description := "", «namespace» := "default", importance := "", «repeat» := "1m",
    nodeSelector := "", podLabelSelector := ∅, dependsOn := [], timeouts := none,
    pluginRestartPolicy := "", logWaitTime := "", config := "", runtime := ∅ }

/-- An agent that caches `ping/default` at version `1`, syncing against a Redis that
holds version `2`. -/
def pingAgent : PluginManager :=
  { agentId := "agent-0/synheart", config := .zero, synTestNameMap := ["ping"],
    syntheticTests := (∅ : GoMap String SyntheticTest).insert "ping/default" ⟨{ pingConfig with version := "1" }, "1", none⟩,
    sm := ∅, routines := [], store := .empty }

/-- The snapshot of that Redis. -/
def pingSnapshot : ConfigSnapshot :=
  { summaries := .ok ((∅ : GoMap String SyntestConfigSummary).insert "ping/default"
      ⟨"ping", "default", "ping/default", "2", ""⟩)
    fetch := fun _ => .ok pingConfig }

theorem syncSyntestPluginConfigs_cache_ping :
    ∃ pm' configChanged, syncSyntestPluginConfigs pingAgent pingSnapshot = .ok (pm', configChanged) ∧
      (pm'.syntheticTests.lookup "ping/default").map (fun st => (st.config, st.version)) =
        some (pingConfig, "2") ∧ configChanged = true := by
  obtain ⟨⟨pm', c⟩, h⟩ : ∃ r, syncSyntestPluginConfigs pingAgent pingSnapshot = .ok r := ⟨_, rfl⟩
  obtain ⟨latest, hsum, -, hslot, hflag⟩ := syncSyntestPluginConfigs_cache h
  cases hsum
  have hw : (pingAgent.syntheticTests.lookup "ping/default").map SyntheticTest.version ≠ some "2" := by
    decide
  have hcache :=
    ((hslot "ping/default" ⟨"ping", "default", "ping/default", "2", ""⟩ rfl).2 hw).2.1 pingConfig rfl rfl
  have hver : (pm'.syntheticTests.lookup "ping/default").map SyntheticTest.version = some "2" := by
    simpa using congrArg (Option.map Prod.snd) hcache
  refine ⟨pm', c, h, hcache, hflag.mpr ⟨"ping/default", ?_⟩⟩
  rw [hver]
  decide

end SyntheticHeart

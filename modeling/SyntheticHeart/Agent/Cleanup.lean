import SyntheticHeart.Agent.System

/-!
# What the agent deletes from Redis, and what its exporters write back

`StopAndDeleteSynTest` deletes the run data of a plugin (`DeleteAllTestRunInfo`) on the
sync goroutine. The health exporter writes from a copy of the state map taken at its last
tick, and nothing orders that copy with the deletion: a copy taken before the deletion is
written after it, and the plugin's `latestHealth` key and `pluginStatus` field come back
for a test that the agent no longer runs (`health_export_rewrites_deleted_plugin`).
-/

namespace SyntheticHeart

/-- The plugin id of `ping/default` on `agent-0/synheart`. -/
def pingPluginId : String := computePluginId "ping" "default" "agent-0/synheart"

/-- A Redis from which every config has been deleted. -/
def emptySnapshot : ConfigSnapshot :=
  { summaries := .ok ∅
    fetch := fun _ => .error "not found" }

/-- After `firstSync`: the health exporter copies the state map at its tick; then a sync
finds the config of `ping/default` deleted, cancels the goroutine, which returns, and
deletes the test. -/
def deletePing : List AgentLabel :=
  [.healthStates, .syncStart emptySnapshot, .syncStep 0, .routine 0 ⟨0, none⟩, .syncStep 0]

/-- The sync ends, and the health exporter writes what it copied. -/
def exportHealth : List AgentLabel :=
  [.syncStep 0, .syncStep 0, .healthStatus "2024-01-01T00:00:00Z", .healthWriteAgent,
    .healthWritePlugin pingPluginId]

/-- What the two runs leave: whether Redis holds data of `ping`, and whether the agent
caches its test. -/
def pingDataAndCache (a : Agent) : Bool × Bool :=
  (decide (a.pm.store.HasPluginData pingPluginId), (a.pm.syntheticTests.lookup "ping/default").isSome)

theorem health_export_rewrites_deleted_plugin :
    (Transition.run agentStep pingAgentInit (firstSync ++ deletePing)).map pingDataAndCache =
        some (false, false) ∧
      (Transition.run agentStep pingAgentInit (firstSync ++ deletePing ++ exportHealth)).map pingDataAndCache =
        some (true, false) := by
  decide

end SyntheticHeart

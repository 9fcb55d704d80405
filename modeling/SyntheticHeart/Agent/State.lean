import SyntheticHeart.Common.Helpers

/-!
# The plugin state map (`agent/pluginmanager/state.go`)

The `StateMap` holds one `PluginState` per plugin id, behind a mutex; every operation
is one critical section and is modelled as one function on the map. `getAgentStatus`
publishes the config ids of the plugins in the map, decoded from the plugin ids.
-/

namespace SyntheticHeart

open GoMap

/-- The `PluginStates` map of a `StateMap`. -/
abbrev StateMap := GoMap String PluginState

namespace StateMap

/-- `StateMap.SetPluginState`: an unconditional insert. -/
def setPluginState (sm : StateMap) (id : String) (state : PluginState) : StateMap :=
  sm.insert id state

/-- `StateMap.GetPluginState`. -/
def getPluginState (sm : StateMap) (id : String) : Except String PluginState :=
  match sm.lookup id with
  | some state => .ok state
  | none => .error "plugin not found"

/-- `StateMap.DeletePluginState`. -/
def deletePluginState (sm : StateMap) (id : String) : StateMap := sm.erase id

/-- `StateMap.GetAgentStatus`, at the formatted time `statusTime`: the config ids of the
plugins in the map, in its iteration order. -/
def getAgentStatus (sm : StateMap) (c : AgentConfig) (statusTime : String) : AgentStatus :=
  { synTests := sm.keys.map fun k =>
      let comps := getPluginIdComponents k
      computeSynTestConfigId comps.testName comps.testNs
    statusTime := statusTime
    agentConfig := c }

@[simp] theorem mem_setPluginState (sm : StateMap) (id : String) (state : PluginState) (k : String) :
    k ∈ sm.setPluginState id state ↔ k = id ∨ k ∈ sm :=
  AList.mem_insert _

@[simp] theorem mem_deletePluginState (sm : StateMap) (id k : String) :
    k ∈ sm.deletePluginState id ↔ k ≠ id ∧ k ∈ sm :=
  AList.mem_erase

@[simp] theorem lookup_setPluginState (sm : StateMap) (id : String) (state : PluginState) :
    (sm.setPluginState id state).lookup id = some state := by
  simp [setPluginState]

@[simp] theorem setPluginState_setPluginState (sm : StateMap) (id : String) (a b : PluginState) :
    (sm.setPluginState id a).setPluginState id b = sm.setPluginState id b :=
  AList.insert_insert _

theorem lookup_setPluginState_ne (sm : StateMap) {id k : String} (state : PluginState)
    (h : k ≠ id) : (sm.setPluginState id state).lookup k = sm.lookup k := by
  simp [setPluginState, AList.lookup_insert_ne h]

end StateMap

end SyntheticHeart

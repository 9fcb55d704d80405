import SyntheticHeart.Common.Models

/-!
# The Redis keyspace and `RedisSynHeartStore` (`common/storage/redis.go`)

Redis holds one family of keys or hash fields per kind of data, each indexed by a plugin
id, a config id or an agent id:

    syntest-plugins/all/testRunStatus   hash   plugin id -> pass ratio "%.5f"
    syntest-plugins/all/pluginStatus    hash   plugin id -> routine status
    syntest-plugins/<id>/latestRun, lastFailedRun, latestHealth, lastUnhealthy
    configs/syntests/summary            hash   config id -> summary
    configs/syntest/<id>/json, raw, status
    agents/all                          hash   agent id -> agent status

The key strings of different families cannot coincide (their suffixes differ), so the
keyspace is a record of one map per family. Values are kept as the Go values the code
marshals; encoding and decoding are taken to round-trip. Each method of the store is a
function on this record; the methods the controller and the agents use to delete data
(`deleteAllTestRunInfo`, `deleteTestConfig`, `deleteAgentStatus`) remove exactly the
entries of their id.
-/

namespace SyntheticHeart

open GoMap

/-- `proto.TestResult`. -/
structure TestResult where
  marks : UInt64
  maxMarks : UInt64
  details : GoMap String String
  deriving DecidableEq

/-- `proto.TestRun`, without the trigger that no modelled function reads. -/
structure TestRun where
  id : String
  agentId : String
  startTime : String
  endTime : String
  testConfig : SynTestConfig
  testResult : TestResult
  details : GoMap String String
  deriving DecidableEq

/-- `common.SyntestConfigStatus`. -/
structure SyntestConfigStatus where
  deployed : Bool
  message : String
  agent : String
  timestamp : String
  deriving DecidableEq, Repr

/-- The Redis keyspace of synthetic-heart, one map per key family. -/
structure Redis where
  testRunStatus : GoMap String String
  pluginStatus : GoMap String String
  latestRun : GoMap String TestRun
  lastFailedRun : GoMap String TestRun
  latestHealth : GoMap String PluginState
  lastUnhealthy : GoMap String PluginState
  configSummary : GoMap String SyntestConfigSummary
  configJson : GoMap String SynTestConfig
  configRaw : GoMap String String
  configStatus : GoMap String SyntestConfigStatus
  agents : GoMap String AgentStatus

/-- An empty Redis. -/
def Redis.empty : Redis := ⟨∅, ∅, ∅, ∅, ∅, ∅, ∅, ∅, ∅, ∅, ∅⟩

/-- `fmt.Sprintf("%.5f", float64(marks)/float64(maxMarks))`, the quotient taken exact and
rounded to five decimals, half to even; `0/0` is `NaN` and `m/0` is `+Inf`. -/
def formatRatio (marks maxMarks : Nat) : String :=
  if maxMarks = 0 then (if marks = 0 then "NaN" else "+Inf")
  else
    let n := marks * 100000
    let q := n / maxMarks
    let r := n % maxMarks
    let q := if 2 * r > maxMarks ∨ (2 * r = maxMarks ∧ q % 2 = 1) then q + 1 else q
    let frac := toString (q % 100000)
    toString (q / 100000) ++ "." ++ String.ofList (List.replicate (5 - frac.length) '0') ++ frac

example : formatRatio 1 3 = "0.33333" := by decide
example : formatRatio 2 2 = "1.00000" := by decide

namespace Redis

variable (r : Redis)

/-! ## Plugin data -/

/-- `UpdateTestRunStatus`, with the ratio already formatted. -/
def updateTestRunStatus (pluginId ratio : String) : Redis :=
  { r with testRunStatus := r.testRunStatus.insert pluginId ratio }

/-- `WriteTestRun`: the latest run, its pass ratio, and the last failed run when the
ratio is below one. -/
def writeTestRun (pluginId : String) (testRun : TestRun) : Redis :=
  let marks := testRun.testResult.marks.toNat
  let maxMarks := testRun.testResult.maxMarks.toNat
  let r := { r with latestRun := r.latestRun.insert pluginId testRun }
  let r := r.updateTestRunStatus pluginId (formatRatio marks maxMarks)
  -- `passRatio < 1`, with the quotient taken exact
  if marks < maxMarks then { r with lastFailedRun := r.lastFailedRun.insert pluginId testRun } else r

/-- `UpdatePluginStatus`. -/
def updatePluginStatus (pluginId status : String) : Redis :=
  { r with pluginStatus := r.pluginStatus.insert pluginId status }

/-- `WritePluginHealthStatus`: the latest health, the last unhealthy one when the plugin
is not running, and its status field. -/
def writePluginHealthStatus (pluginId : String) (pluginState : PluginState) : Redis :=
  let r := { r with latestHealth := r.latestHealth.insert pluginId pluginState }
  let r := if pluginState.status ≠ .running then
      { r with lastUnhealthy := r.lastUnhealthy.insert pluginId pluginState }
    else r
  r.updatePluginStatus pluginId pluginState.status.toString

/-- `DeleteAllTestRunInfo`: both hash fields and the four keys of the plugin. -/
def deleteAllTestRunInfo (pluginId : String) : Redis :=
  { r with
    testRunStatus := r.testRunStatus.erase pluginId
    pluginStatus := r.pluginStatus.erase pluginId
    latestRun := r.latestRun.erase pluginId
    lastFailedRun := r.lastFailedRun.erase pluginId
    latestHealth := r.latestHealth.erase pluginId
    lastUnhealthy := r.lastUnhealthy.erase pluginId }

/-- Whether Redis holds any data of a plugin: a hash field or one of its keys. -/
def HasPluginData (pluginId : String) : Prop :=
  pluginId ∈ r.testRunStatus ∨ pluginId ∈ r.pluginStatus ∨ pluginId ∈ r.latestRun ∨
    pluginId ∈ r.lastFailedRun ∨ pluginId ∈ r.latestHealth ∨ pluginId ∈ r.lastUnhealthy

instance (pluginId : String) : Decidable (r.HasPluginData pluginId) :=
  inferInstanceAs (Decidable (pluginId ∈ r.testRunStatus ∨ pluginId ∈ r.pluginStatus ∨
    pluginId ∈ r.latestRun ∨ pluginId ∈ r.lastFailedRun ∨ pluginId ∈ r.latestHealth ∨
    pluginId ∈ r.lastUnhealthy))

/-! ## Agents -/

/-- `FetchAllAgentStatus`. -/
def fetchAllAgentStatus : GoMap String AgentStatus := r.agents

/-- `WriteAgentStatus`. -/
def writeAgentStatus (agentId : String) (status : AgentStatus) : Redis :=
  { r with agents := r.agents.insert agentId status }

/-- `DeleteAgentStatus`. -/
def deleteAgentStatus (agentId : String) : Redis := { r with agents := r.agents.erase agentId }

/-! ## Test configs -/

/-- `FetchAllTestConfigSummary`. -/
def fetchAllTestConfigSummary : GoMap String SyntestConfigSummary := r.configSummary

/-- `FetchAllTestRunStatus`. -/
def fetchAllTestRunStatus : GoMap String String := r.testRunStatus

/-- `FetchAllPluginStatus`. -/
def fetchAllPluginStatus : GoMap String String := r.pluginStatus

/-- `FetchLatestTestRun`: `ErrNotFound` when the key is missing. -/
def fetchLatestTestRun (pluginId : String) : Except String TestRun :=
  match r.latestRun.lookup pluginId with
  | some t => .ok t
  | none => .error "not found"

/-- `FetchLastFailedTestRun`: `ErrNotFound` when the key is missing. -/
def fetchLastFailedTestRun (pluginId : String) : Except String TestRun :=
  match r.lastFailedRun.lookup pluginId with
  | some t => .ok t
  | none => .error "not found"

/-- `FetchTestConfig`: `ErrNotFound` when the config key is missing. -/
def fetchTestConfig (configId : String) : Except String SynTestConfig :=
  match r.configJson.lookup configId with
  | some c => .ok c
  | none => .error "not found"

/-- `WriteTestConfigStatus`. -/
def writeTestConfigStatus (configId : String) (status : SyntestConfigStatus) : Redis :=
  { r with configStatus := r.configStatus.insert configId status }

/-- `WriteTestConfig`: the raw config, an empty status, the config and its summary. -/
def writeTestConfig (config : SynTestConfig) (raw : String) : Redis :=
  let configId := config.name ++ "/" ++ config.«namespace»
  let r := { r with configRaw := r.configRaw.insert configId raw }
  let r := r.writeTestConfigStatus configId ⟨false, "", "", ""⟩
  let r := { r with configJson := r.configJson.insert configId config }
  let summary : SyntestConfigSummary :=
    ⟨config.name, config.«namespace», configId, config.version, config.displayName⟩
  { r with configSummary := r.configSummary.insert configId summary }

/-- `DeleteTestConfig`: the three keys of the config and its summary field. -/
def deleteTestConfig (configId : String) : Redis :=
  { r with
    configRaw := r.configRaw.erase configId
    configJson := r.configJson.erase configId
    configStatus := r.configStatus.erase configId
    configSummary := r.configSummary.erase configId }

/-! ## What the deletions remove -/

theorem not_hasPluginData_deleteAllTestRunInfo (pluginId : String) :
    ¬ (r.deleteAllTestRunInfo pluginId).HasPluginData pluginId := by
  simp [HasPluginData, deleteAllTestRunInfo, AList.mem_erase]

/-- The config keys and the plugin keys are apart: deleting one kind keeps the other. -/
theorem hasPluginData_deleteTestConfig (configId pluginId : String) :
    (r.deleteTestConfig configId).HasPluginData pluginId ↔ r.HasPluginData pluginId := Iff.rfl

@[simp] theorem testRunStatus_deleteTestConfig (configId : String) :
    (r.deleteTestConfig configId).testRunStatus = r.testRunStatus := rfl

@[simp] theorem agents_deleteTestConfig (configId : String) :
    (r.deleteTestConfig configId).agents = r.agents := rfl

@[simp] theorem configSummary_deleteAllTestRunInfo (pluginId : String) :
    (r.deleteAllTestRunInfo pluginId).configSummary = r.configSummary := rfl

theorem hasPluginData_deleteAllTestRunInfo_ne {pluginId other : String} (h : other ≠ pluginId) :
    (r.deleteAllTestRunInfo pluginId).HasPluginData other ↔ r.HasPluginData other := by
  simp [HasPluginData, deleteAllTestRunInfo, AList.mem_erase, h]

end Redis

end SyntheticHeart

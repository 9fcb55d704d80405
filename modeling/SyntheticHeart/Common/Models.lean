import SyntheticHeart.Go.Map

/-!
# The shared data model

The Go structs shared by the agent, the controller and the REST API
(`common/models.go`, `common/constants.go`) and the protobuf messages of
`common/syntest.proto`, with the fields that the modelled functions read or write.
Go maps are `GoMap`s; durations and times are integers of nanoseconds (`Duration`,
`Time`), as `time.Duration` and the wall clock are in the source.

Three string types of the source take only the values of their named constants in the
code paths modelled here and are enumerations (`RoutineStatus`); the restart policy is
read from a test's config, where any string can stand, and keeps the other strings
(`PluginRestartPolicy.other`).
-/

namespace SyntheticHeart

/-- `time.Duration`: a signed 64-bit count of nanoseconds. -/
abbrev Duration := Int64

/-- A wall-clock reading, in nanoseconds since the Unix epoch. -/
abbrev Time := Int

/-- `time.Second`. -/
def second : Duration := 1000000000

/-- `time.Minute`. -/
def minute : Duration := 60 * second

/-- `common.SpecialKeyNodeName`: the runtime keys the agent adds start with `$`, which
Kubernetes labels cannot. -/
def specialKeyNodeName : String := "$nodeName"

/-- `common.SpecialKeyAgentId`. -/
def specialKeyAgentId : String := "$agentId"

/-- `common.SpecialKeyPodName`. -/
def specialKeyPodName : String := "$podName"

/-- `common.SpecialKeyAgentNs`. -/
def specialKeyAgentNs : String := "$agentNamespace"

/-! ## Plugins -/

/-- `common.RoutineStatus`. -/
inductive RoutineStatus
  | notRunning
  | running
  | error
  | restarting
  | statusUnknown
  deriving DecidableEq, Repr

/-- `string(status)`, the value exported to the plugin status hash. -/
def RoutineStatus.toString : RoutineStatus → String
  | .notRunning => "notRunning"
  | .running => "running"
  | .error => "error"
  | .restarting => "restarting"
  | .statusUnknown => "unknown"

/-- `common.PluginRestartPolicy`: the three named policies, and any other string. -/
inductive PluginRestartPolicy
  | always
  | never
  | onError
  | other (policy : String)
  deriving DecidableEq, Repr

/-- `common.PluginRestartPolicy(s)`. -/
def PluginRestartPolicy.ofString (s : String) : PluginRestartPolicy :=
  if s = "always" then .always
  else if s = "never" then .never
  else if s = "onError" then .onError
  else .other s

/-- `common.DefaultRestartPolicy`. -/
def defaultRestartPolicy : PluginRestartPolicy := .always

/-- `common.PluginState`. The exported-only fields `Config` and `LastUpdated` are left
out; `RestartBackOff` holds the duration whose `String()` the source stores, `none`
for the empty string. -/
structure PluginState where
  status : RoutineStatus
  statusMsg : String
  restarts : Int
  restartBackOff : Option Duration
  totalRestarts : Int
  runningSince : Time
  deriving DecidableEq, Repr

/-! ## Agents -/

/-- `common.AgentInfo`, filled from the downward API at start-up. -/
structure AgentInfo where
  nodeName : String
  podName : String
  podLabels : GoMap String String
  agentNamespace : String
  deriving DecidableEq

/-- `common.AgentConfig`, with the fields the selector check reads. -/
structure AgentConfig where
  matchTestLabels : GoMap String String
  runTimeInfo : AgentInfo
  matchNamespaceSet : GoMap String Bool
  deriving DecidableEq

/-- The zero `AgentConfig`, as JSON decodes an `AgentStatus{}` placeholder. -/
def AgentConfig.zero : AgentConfig :=
  { matchTestLabels := ∅
    runTimeInfo := { nodeName := "", podName := "", podLabels := ∅, agentNamespace := "" }
    matchNamespaceSet := ∅ }

/-- `common.AgentStatus`. -/
structure AgentStatus where
  synTests : List String
  statusTime : String
  agentConfig : AgentConfig
  deriving DecidableEq

/-- `common.AgentStatus{}`, the placeholder the controller registers for a new pod. -/
def AgentStatus.zero : AgentStatus := { synTests := [], statusTime := "", agentConfig := .zero }

/-! ## Tests -/

/-- `proto.Timeouts`. -/
structure Timeouts where
  init : String
  run : String
  finish : String
  deriving DecidableEq, Repr

/-- `proto.SynTestConfig`. -/
structure SynTestConfig where
  name : String
  version : String
  labels : GoMap String String
  pluginName : String
  displayName : String
  description : String
  «namespace» : String
  importance : String
  «repeat» : String
  nodeSelector : String
  podLabelSelector : GoMap String String
  dependsOn : List String
  timeouts : Option Timeouts
  pluginRestartPolicy : String
  logWaitTime : String
  config : String
  runtime : GoMap String String
  deriving DecidableEq

/-- `common.SyntestConfigSummary`, with the fields the agent and the REST API read. -/
structure SyntestConfigSummary where
  name : String
  «namespace» : String
  configId : String
  version : String
  displayName : String
  deriving DecidableEq, Repr

end SyntheticHeart

import SyntheticHeart.Storage.Redis

/-!
# The read endpoints of the REST API (`restapi/main.go`)

`GetAllTestStatus`, `GetAllPluginStatus` and `GetAllTests` list the plugin ids and the config
ids that the UI shows; `GetTestRun`, `GetTestLogs`, `GetPluginHealth` and `GetTestConfig`
serve what each id links to, and answer `404` when a key is missing. The answer `500` to a
failed Redis call, and the JSON encoding of the bodies, are left out: a handler gives its
status code and message, or the value it writes.
-/

namespace SyntheticHeart

namespace RestApi

open GoMap

/-- What `http.Error` writes: the status code and the message. -/
structure HttpError where
  code : Nat
  message : String
  deriving DecidableEq, Repr

/-- `http.StatusNotFound`. -/
def statusNotFound : Nat := 404

/-- `common.LogKey`, the detail of a run that holds its logs. -/
def logKey : String := "_log"

/-- `GetTestRun` of the plugin `id`; `lastFailed` when the URL ends in `/lastFailed`. -/
def getTestRun (store : Redis) (id : String) (lastFailed : Bool) : Except HttpError TestRun :=
  let runs := if lastFailed then store.lastFailedRun else store.latestRun
  match runs.lookup id with
  | some t => .ok t
  | none => .error ⟨statusNotFound, "no testrun found"⟩

/-- `GetTestLogs` of the plugin `id`: the logs of its latest run, or of its last failed one
when the URL ends in `/lastFailed/logs`. -/
def getTestLogs (store : Redis) (id : String) (lastFailed : Bool) : Except HttpError String :=
  let testRun := if lastFailed then store.fetchLastFailedTestRun id else store.fetchLatestTestRun id
  match testRun with
  | .ok t => .ok (getD t.details logKey "")
  | .error _ => .error ⟨statusNotFound, "no testrun found"⟩

/-- `GetPluginHealth` of the plugin `id`; `lastUnhealthy` when the URL ends in
`/lastUnhealthy`. -/
def getPluginHealth (store : Redis) (id : String) (lastUnhealthy : Bool) : Except HttpError PluginState :=
  let states := if lastUnhealthy then store.lastUnhealthy else store.latestHealth
  match states.lookup id with
  | some s => .ok s
  | none => .error ⟨statusNotFound, "no plugin health found"⟩

/-- The body of `GetTestConfig`. -/
structure TestConfigResponse where
  testConfig : SynTestConfig
  configStatus : SyntestConfigStatus
  rawConfig : String

/-- `GetTestConfig` of the config `configId`: its config, then its raw spec, then its status
are read, and the first that is missing answers `404`. -/
def getTestConfig (store : Redis) (configId : String) : Except HttpError TestConfigResponse :=
  match store.configJson.lookup configId with
  | none => .error ⟨statusNotFound, "no test config found"⟩
  | some testConfig =>
    match store.configRaw.lookup configId with
    | none => .error ⟨statusNotFound, "no test config found"⟩
    | some raw =>
      match store.configStatus.lookup configId with
      | none => .error ⟨statusNotFound, "no test config found"⟩
      | some status => .ok ⟨testConfig, status, raw⟩

end RestApi

end SyntheticHeart

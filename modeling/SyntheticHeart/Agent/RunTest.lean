import SyntheticHeart.Agent.Routine
import SyntheticHeart.Agent.ExtStorage
import SyntheticHeart.Plugins.PerformTest
import SyntheticHeart.RestApi.Handlers
import SyntheticHeart.RestApi.Ping
import SyntheticHeart.Agent.Sync

/-!
# The run of a test (`SynTestRoutine.runTest`) and what the REST API shows of it

A test routine calls the `PerformTest` of its plugin over gRPC (`common/syntestGrpcWrapper.go`).
The plugin's server returns what the plugin returned, result and error; gRPC sends the
result only when there is no error, so the agent's client puts `FailedTestResult()` in its
place. `performTest` takes whichever comes first of the call's return and the end of the
run's context, and `runTest` writes the error under `_error` and the plugin's logs under
`_log`, sets the agent id, and publishes the run, which the test-run exporter writes to
Redis (`WriteTestRun`) and the REST API reads back.

* `plugin_failure_reported`: a run whose call of the plugin fails, whatever result the
  plugin returned with its error, or whose context ends first, is stored as the last failed
  run of its plugin with its error under `_error` and with its logs, at the ratio `0.00000`,
  and the REST API grades the plugin critical.
* `zero_maxMarks_invisible`: a run of `MaxMarks` zero is stored at the ratio `NaN` or
  `+Inf`, never as a failed run, and the REST API's ping answer is the one it gives when the
  plugin has no status at all.
-/

namespace SyntheticHeart

open GoMap

/-- `common.ErrorKey`, the detail of a run that holds its error. -/
def errorKey : String := "_error"

/-- What the agent's gRPC call of `PerformTest` gets back: the response, or an error status. -/
inductive RpcReply
  | response (testResult : TestResult)
  | status (err : String)
  deriving DecidableEq

/-- `SynTestPluginGRPCServer.PerformTest` on what the plugin returned: gRPC sends the
response only without an error, and sends the error as a status of code `Unknown`. -/
def SynTestPluginGRPCServer.performTest (testResult : TestResult) (err : Option String) : RpcReply :=
  match err with
  | none => .response testResult
  | some err => .status ("rpc error: code = Unknown desc = " ++ err)

/-- `SynTestPluginGRPCClient.PerformTest`: without a response, the failed result. -/
def SynTestPluginGRPCClient.performTest : RpcReply → TestResult × Option String
  | .response testResult => (testResult, none)
  | .status err => (Plugins.failedTestResult, some err)

namespace Routine

/-- How the `select` of `performTest` ends: the call of the plugin returned, or the context
of the run was done first. -/
inductive PerformOutcome
  | returned (reply : RpcReply)
  | done (why : CtxDone)
  deriving DecidableEq

/-- The error `performTest` returns: the context's own error, or the error of the call. -/
inductive TestError
  | ctx (why : CtxDone)
  | call (err : String)
  deriving DecidableEq

/-- `SynTestRoutine.performTest` of the test `config`, with the id of the run and the times
around the call. -/
def performTest (config : SynTestConfig) (id startTime endTime : String) :
    PerformOutcome → TestRun × Option TestError
  | .returned reply =>
    let (testResult, err) := SynTestPluginGRPCClient.performTest reply
    (⟨id, "", startTime, endTime, config, testResult, ∅⟩, err.map .call)
  | .done why => (⟨id, "", startTime, endTime, config, Plugins.failedTestResult, ∅⟩, some (.ctx why))

/-- The text of the error that `runTest` records: `context.DeadlineExceeded` itself, and no
other error, is wrapped as a timeout. -/
def TestError.message : TestError → String
  | .ctx .deadlineExceeded => wrap "test hit timeout" CtxDone.deadlineExceeded.error
  | .ctx .canceled => CtxDone.canceled.error
  | .call err => err

/-- `SynTestRoutine.runTest` on the agent `agentId`: the run it publishes, with the error
and the plugin's logs `logs` in its details, and the error it returns. -/
def runTest (agentId : String) (config : SynTestConfig) (id startTime endTime logs : String)
    (outcome : PerformOutcome) : TestRun × Option String :=
  let (t, testErr) := performTest config id startTime endTime outcome
  let testErr := testErr.map TestError.message
  let details := match testErr with
    | some err => t.details.insert errorKey err
    | none => t.details
  ({ t with details := details.insert RestApi.logKey logs, agentId := agentId }, testErr)

/-- The run failed: the call returned an error status, or the context ended first. -/
def PerformOutcome.Failed : PerformOutcome → Prop
  | .returned (.response _) => False
  | _ => True

/-! ## The run that `runTest` publishes -/

section Run

variable (agentId : String) (config : SynTestConfig) (id startTime endTime logs : String)

@[simp] theorem runTest_agentId (outcome : PerformOutcome) :
    (runTest agentId config id startTime endTime logs outcome).1.agentId = agentId := rfl

@[simp] theorem runTest_testConfig (outcome : PerformOutcome) :
    (runTest agentId config id startTime endTime logs outcome).1.testConfig = config := by
  cases outcome with
  | returned reply => cases reply <;> rfl
  | done why => rfl

theorem lookup_logKey_runTest (outcome : PerformOutcome) :
    (runTest agentId config id startTime endTime logs outcome).1.details.lookup RestApi.logKey = some logs := by
  simp [runTest]

/-- A failed run carries the failed result, whatever the plugin returned with its error,
and its error under `_error`. -/
theorem runTest_of_failed {outcome : PerformOutcome} (h : outcome.Failed) :
    ∃ err, (runTest agentId config id startTime endTime logs outcome).2 = some err ∧
      (runTest agentId config id startTime endTime logs outcome).1.testResult = Plugins.failedTestResult ∧
      (runTest agentId config id startTime endTime logs outcome).1.details.lookup errorKey = some err := by
  have hkeys : errorKey ≠ RestApi.logKey := by decide
  -- both ways to fail leave the failed result in the run and an error
  obtain ⟨testErr, hperform⟩ : ∃ testErr,
      performTest config id startTime endTime outcome =
        (⟨id, "", startTime, endTime, config, Plugins.failedTestResult, ∅⟩, some testErr) := by
    cases outcome with
    | returned reply =>
      cases reply with
      | response testResult => exact False.elim h
      | status err => exact ⟨.call err, rfl⟩
    | done why => exact ⟨.ctx why, rfl⟩
  have hrun : runTest agentId config id startTime endTime logs outcome =
      (⟨id, agentId, startTime, endTime, config, Plugins.failedTestResult,
        ((∅ : GoMap String String).insert errorKey testErr.message).insert RestApi.logKey logs⟩,
        some testErr.message) := by
    simp only [runTest, hperform, Option.map_some]
  rw [hrun]
  exact ⟨testErr.message, rfl, rfl, by rw [AList.lookup_insert_ne hkeys, AList.lookup_insert]⟩

end Run

end Routine

/-! ## What Redis and the REST API hold after the run -/

/-- The ratio `WriteTestRun` stores for the failed result. -/
theorem formatRatio_failedTestResult :
    formatRatio Plugins.failedTestResult.marks.toNat Plugins.failedTestResult.maxMarks.toNat = "0.00000" := by
  decide

/-- A ratio of zero is graded critical, on a plugin id that names a test and an agent. -/
theorem pingGrade_zero {pluginId : String} (hid : (getPluginIdComponents pluginId).err = none) :
    RestApi.pingGrade pluginId "0.00000" = some 1 := by
  obtain ⟨x, hx, hval⟩ := Strconv.parseFloat_fixed5 (a := 0) (d := 0) (by decide) (by decide)
  have hstr : Strconv.fixed5 0 0 = "0.00000" := rfl
  rw [hstr] at hx
  have hzero : x.val = 0 := by simpa using hval
  -- the ratio parses as a zero: below one, equal to zero, not equal to one
  have hlt : x.lt ⟨1, 0⟩ = true := by
    rw [Decimal.lt_iff, hzero]
    simp [Decimal.val]
  have heq : x.eq ⟨0, 0⟩ = true := by
    rw [Decimal.eq_iff, hzero]
    simp [Decimal.val]
  have hne : x.eq ⟨1, 0⟩ = false := by
    rw [Bool.eq_false_iff, ne_eq, Decimal.eq_iff, hzero]
    simp [Decimal.val]
  simp only [RestApi.pingGrade, hx, hid, Option.isSome_none, Bool.false_eq_true, if_false, RestApi.one,
    GoFloat.lt, hlt, if_true, RestApi.getLegacyStatus, GoFloat.eq, heq, hne]

theorem plugin_failure_reported (store : Redis) {config : SynTestConfig} {podName podNs : String}
    (hn : '/' ∉ config.name.toList) (hns : '/' ∉ config.«namespace».toList)
    (hp : '/' ∉ podName.toList) (hpns : '/' ∉ podNs.toList)
    (id startTime endTime logs : String) {outcome : Routine.PerformOutcome} (hfailed : outcome.Failed) :
    let agentId := computeAgentId podName podNs
    let run := Routine.runTest agentId config id startTime endTime logs outcome
    let pluginId := computePluginId config.name config.«namespace» agentId
    let store' := exportTestRun agentId store run.1
    ∃ err, run.2 = some err ∧ run.1.details.lookup errorKey = some err ∧
      RestApi.getTestRun store' pluginId true = .ok run.1 ∧
      RestApi.getTestLogs store' pluginId false = .ok logs ∧
      store'.testRunStatus.lookup pluginId = some "0.00000" ∧
      RestApi.pingGrade pluginId "0.00000" = some 1 := by
  intro agentId run pluginId store'
  obtain ⟨err, herr, hresult, hdetail⟩ := Routine.runTest_of_failed agentId config id startTime endTime logs hfailed
  have hfail : run.1.Failed := by
    unfold TestRun.Failed
    rw [hresult]
    decide
  -- the exporter writes the run of its own agent under the plugin id of its test
  have hstore : store' = store.writeTestRun pluginId run.1 := by
    simp only [store', exportTestRun, Routine.runTest_agentId, Routine.runTest_testConfig, ne_eq,
      not_true_eq_false, if_false, run, pluginId]
  rw [Redis.writeTestRun_eq, if_pos hfail] at hstore
  refine ⟨err, herr, hdetail, ?_, ?_, ?_, ?_⟩
  · simp [RestApi.getTestRun, hstore]
  · simp [RestApi.getTestLogs, Redis.fetchLatestTestRun, hstore, getD, run, Routine.lookup_logKey_runTest]
  · simp [hstore, TestRun.passRatio, run, hresult, formatRatio_failedTestResult]
  · exact pingGrade_zero (by rw [getPluginIdComponents_computePluginId hn hns hp hpns])

/-- The test `curl-amazon` of the chart, on the curl plugin. -/
def curlAmazonTest : SynTestConfig :=
  { pingConfig with name := "curl-amazon", pluginName := "curl" }

/-- The run of `curl-amazon` on `agent-0/synheart` when curl exits with status 7: the plugin
returns its zero result with the error, and the server sends the error alone. -/
theorem plugin_failure_reported_curl :
    let agentId := computeAgentId "agent-0" "synheart"
    let run := Routine.runTest agentId curlAmazonTest "run-1" "2024-01-01T00:00:00Z" "2024-01-01T00:00:01Z"
      "* Failed to connect" (.returned (SynTestPluginGRPCServer.performTest ⟨0, 0, ∅⟩
        (some "error executing curl: exit status 7")))
    let pluginId := computePluginId curlAmazonTest.name curlAmazonTest.«namespace» agentId
    let store' := exportTestRun agentId .empty run.1
    ∃ err, run.2 = some err ∧ run.1.details.lookup errorKey = some err ∧
      RestApi.getTestRun store' pluginId true = .ok run.1 ∧
      RestApi.getTestLogs store' pluginId false = .ok "* Failed to connect" ∧
      store'.testRunStatus.lookup pluginId = some "0.00000" ∧
      RestApi.pingGrade pluginId "0.00000" = some 1 :=
  plugin_failure_reported .empty (by decide : '/' ∉ curlAmazonTest.name.toList) (by decide)
    (by decide : '/' ∉ "agent-0".toList) (by decide : '/' ∉ "synheart".toList) _ _ _ _ trivial

/-! ## Runs without marks -/

theorem formatRatio_zero (marks : Nat) : formatRatio marks 0 = if marks = 0 then "NaN" else "+Inf" := by
  simp [formatRatio]

/-- The loop of `UpdatePingResponse` passes over a ratio that parses to a float not below one. -/
theorem pingStep_of_not_lt (configSummaries : GoMap String SyntestConfigSummary) (st : RestApi.PingState)
    (pluginId : String) {passRatioStr : String} {x : GoFloat} (hparse : Strconv.parseFloat passRatioStr = .ok x)
    (hx : x.lt RestApi.one = false) : RestApi.pingStep configSummaries st pluginId passRatioStr = st := by
  simp only [RestApi.pingStep, hparse, hx, Bool.false_eq_true, if_false, ite_self]

/-- The ratio of a run without marks parses as `NaN` or `+Inf`, neither of which is below one. -/
theorem pingStep_formatRatio_zero (configSummaries : GoMap String SyntestConfigSummary) (st : RestApi.PingState)
    (pluginId : String) (marks : Nat) :
    RestApi.pingStep configSummaries st pluginId (formatRatio marks 0) = st := by
  rw [formatRatio_zero]
  split_ifs
  · exact pingStep_of_not_lt configSummaries st pluginId (x := .nan) rfl rfl
  · exact pingStep_of_not_lt configSummaries st pluginId (x := .inf false) rfl rfl

theorem zero_maxMarks_invisible (store : Redis) (pluginId : String) (run : TestRun) (now : String)
    (hzero : run.testResult.maxMarks = 0) :
    (store.writeTestRun pluginId run).lastFailedRun = store.lastFailedRun ∧
      (store.writeTestRun pluginId run).testRunStatus.lookup pluginId ∈ [some "NaN", some "+Inf"] ∧
      RestApi.updatePingResponse (store.writeTestRun pluginId run) now =
        RestApi.updatePingResponse { store with testRunStatus := store.testRunStatus.erase pluginId } now := by
  have hnot : ¬ run.Failed := by
    unfold TestRun.Failed
    rw [hzero]
    simp
  have hratio : run.passRatio = formatRatio run.testResult.marks.toNat 0 := by
    rw [TestRun.passRatio, hzero]
    rfl
  rw [Redis.writeTestRun_eq, if_neg hnot]
  refine ⟨rfl, ?_, ?_⟩
  · rw [AList.lookup_insert, hratio, formatRatio_zero]
    split_ifs <;> simp
  · -- the run's entry comes first in the hash, and its step changes nothing
    unfold RestApi.updatePingResponse
    simp only [Redis.fetchAllTestRunStatus, Redis.fetchAllTestConfigSummary, AList.entries_insert,
      List.foldl_cons, hratio, pingStep_formatRatio_zero]
    rfl

/-- A `json-ping` test whose config lists no queries: its plugin returns no marks of none. -/
def jsonPingNoQueries : TestRun :=
  ⟨"run-1", "agent-0/synheart", "", "", { pingConfig with name := "json-ping", pluginName := "json-ping" },
    ⟨0, 0, ∅⟩, ∅⟩

theorem zero_maxMarks_invisible_jsonPing :
    (Redis.empty.writeTestRun jsonPingNoQueries.pluginId jsonPingNoQueries).lastFailedRun = Redis.empty.lastFailedRun ∧
      (Redis.empty.writeTestRun jsonPingNoQueries.pluginId jsonPingNoQueries).testRunStatus.lookup
          jsonPingNoQueries.pluginId ∈ [some "NaN", some "+Inf"] ∧
      RestApi.updatePingResponse (Redis.empty.writeTestRun jsonPingNoQueries.pluginId jsonPingNoQueries)
          "2024-01-01T00:00:00Z" =
        RestApi.updatePingResponse
          { Redis.empty with testRunStatus := Redis.empty.testRunStatus.erase jsonPingNoQueries.pluginId }
          "2024-01-01T00:00:00Z" :=
  zero_maxMarks_invisible .empty jsonPingNoQueries.pluginId jsonPingNoQueries "2024-01-01T00:00:00Z" rfl

end SyntheticHeart

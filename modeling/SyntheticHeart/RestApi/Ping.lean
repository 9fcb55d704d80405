import SyntheticHeart.Go.Float
import SyntheticHeart.Common.Helpers
import SyntheticHeart.Storage.Redis

/-!
# The ping endpoint of the REST API (`restapi/main.go`)

`UpdatePingResponse` reads the pass ratio of every plugin from Redis, a `%.5f` string
written by `WriteTestRun`, and folds the hash, in its iteration order, into an overall
status and a map of failed tests. `GetLegacyStatus` grades a ratio `1` as `3`, `0` as `1`,
a ratio in `(0.5, 1)` as `2` and anything else as `0`; a failing plugin lowers the overall
status to its grade, except that a grade `0` sets it to `2`.

* `status_updatePingResponse`: the status is the fold of `nextStatus` over the grades of the
  failing plugins, in iteration order. `nextStatus` is not a minimum: a grade `0` after a
  grade `1` raises the status back to `2`, so the status depends on the order
  (`updatePingResponse_depends_on_order`), and failed tests are keyed by test name alone.
* `failing_formatRatio_iff`: the REST API counts a run as failing iff its ratio rounds to
  below `1.00000`, that is iff `200000 · (maxMarks - marks) > maxMarks`; `WriteTestRun`
  records a failed run iff `marks < maxMarks`. The two differ for every run that misses
  fewer than one mark in 200000.
-/

namespace SyntheticHeart

namespace RestApi

open GoMap

/-- `FailedTestInfo`. -/
structure FailedTestInfo where
  name : String
  «namespace» : String
  testConfigId : String
  displayName : String
  status : Int
  deriving DecidableEq, Repr

/-- `PingApiResponse`. -/
structure PingApiResponse where
  message : String
  lastUpdated : String
  details : String
  status : Int
  failedTests : GoMap String FailedTestInfo

/-- The float64 constant `1`. -/
def one : GoFloat := .finite ⟨1, 0⟩

/-- `GetLegacyStatus`. -/
def getLegacyStatus (passRatio : GoFloat) : Int :=
  if passRatio.eq one then 3
  else if passRatio.eq (.finite ⟨0, 0⟩) then 1
  else if passRatio.lt one && (GoFloat.finite ⟨5, 1⟩).lt passRatio then 2
  else 0

/-- The update of the overall status by a failing plugin of grade `legacyStatus`. -/
def nextStatus (overallStatus legacyStatus : Int) : Int :=
  if legacyStatus < overallStatus then
    if legacyStatus ≠ 0 then legacyStatus
    -- if the test status is unknown we set the overall status to warning
    else 2
  else overallStatus

/-- The state of the loop over the pass ratios. -/
structure PingState where
  failedTestNames : GoMap String Bool
  failedTests : GoMap String FailedTestInfo
  overallStatus : Int

/-- The body of the loop over the pass ratios, on the plugin `pluginId`. -/
def pingStep (configSummaries : GoMap String SyntestConfigSummary) (st : PingState)
    (pluginId passRatioStr : String) : PingState :=
  match Strconv.parseFloat passRatioStr with
  | .error _ => st
  | .ok passRatio =>
    let c := getPluginIdComponents pluginId
    if c.err.isSome then st
    else
      let testName := c.testName
      let configId := computeSynTestConfigId testName c.testNs
      let legacyStatus := getLegacyStatus passRatio
      if passRatio.lt one then
        let failedTests := if testName ∈ st.failedTests then st.failedTests
          else st.failedTests.insert testName
            { name := testName, «namespace» := c.testNs, testConfigId := configId
              displayName := ((configSummaries.lookup configId).map SyntestConfigSummary.displayName).getD ""
              status := getLegacyStatus passRatio }
        let displayName := ((failedTests.lookup testName).map FailedTestInfo.displayName).getD ""
        let failedTestNames := if st.failedTestNames.entries.length < 3 then
            if displayName ≠ "" then st.failedTestNames.insert displayName true
            else st.failedTestNames.insert testName true
          else st.failedTestNames
        ⟨failedTestNames, failedTests, nextStatus st.overallStatus legacyStatus⟩
      else st

/-- The names of the failed tests, joined by `, `, in the map's iteration order. -/
def joinNames (total : Nat) : Nat → List String → String
  | _, [] => ""
  | i, testName :: rest =>
    (if i = 3 ∨ i = total - 1 then testName else testName ++ ", ") ++ joinNames total (i + 1) rest

/-- `UpdatePingResponse`, at the time `now`. -/
def updatePingResponse (store : Redis) (now : String) : PingApiResponse :=
  let allStatus := store.fetchAllTestRunStatus
  let configSummaries := store.fetchAllTestConfigSummary
  let st := allStatus.entries.foldl (fun st e => pingStep configSummaries st e.1 e.2) ⟨∅, ∅, 3⟩
  let n := st.failedTestNames.entries.length
  let names := joinNames n 0 st.failedTestNames.keys
  let failed := st.failedTests.entries.length
  let details :=
    if failed > 3 then toString failed ++ " failed tests: " ++ names ++ " and " ++ toString (failed - 3) ++ " more"
    else if failed = 0 then "No failed tests"
    else if failed = 1 then toString n ++ " failed test: " ++ names
    else toString n ++ " failed tests: " ++ names
  { message := if st.overallStatus = 3 then "Healthy" else "UnHealthy"
    lastUpdated := now
    details := details
    status := st.overallStatus
    failedTests := st.failedTests }

/-! ## The overall status -/

/-- The grade a hash entry contributes to the overall status: that of a failing plugin
whose ratio parses and whose id decomposes, and none otherwise. -/
def pingGrade (pluginId passRatioStr : String) : Option Int :=
  match Strconv.parseFloat passRatioStr with
  | .error _ => none
  | .ok passRatio =>
    if (getPluginIdComponents pluginId).err.isSome then none
    else if passRatio.lt one then some (getLegacyStatus passRatio) else none

theorem overallStatus_pingStep (configSummaries : GoMap String SyntestConfigSummary) (st : PingState)
    (pluginId passRatioStr : String) :
    (pingStep configSummaries st pluginId passRatioStr).overallStatus =
      ((pingGrade pluginId passRatioStr).map (nextStatus st.overallStatus)).getD st.overallStatus := by
  unfold pingStep pingGrade
  split
  · rfl
  · dsimp only
    split_ifs <;> rfl

theorem overallStatus_foldl (configSummaries : GoMap String SyntestConfigSummary) :
    ∀ (es : List (Σ _ : String, String)) (st : PingState),
      (es.foldl (fun st e => pingStep configSummaries st e.1 e.2) st).overallStatus =
        (es.filterMap fun e => pingGrade e.1 e.2).foldl nextStatus st.overallStatus
  | [], _ => rfl
  | e :: es, st => by
    rw [List.foldl_cons, overallStatus_foldl configSummaries es, overallStatus_pingStep, List.filterMap_cons]
    cases pingGrade e.1 e.2 <;> rfl

/-- The status is the fold of `nextStatus` over the grades of the failing plugins, in the
iteration order of the hash, from `3`. -/
theorem status_updatePingResponse (store : Redis) (now : String) :
    (updatePingResponse store now).status =
      (store.testRunStatus.entries.filterMap fun e => pingGrade e.1 e.2).foldl nextStatus 3 :=
  overallStatus_foldl _ _ _

/-- The failed tests do not depend on the time of the update. -/
theorem failedTests_updatePingResponse (store : Redis) (now : String) :
    (updatePingResponse store now).failedTests = (updatePingResponse store "").failedTests := rfl

/-- A Redis whose pass-ratio hash holds two plugins, `first` visited first. -/
def pingRatios (first second : String × String) : Redis :=
  { Redis.empty with
    testRunStatus := ((∅ : GoMap String String).insert second.1 second.2).insert first.1 first.2 }

theorem lookup_pingRatios_comm {first second : String × String} (hne : first.1 ≠ second.1) (k : String) :
    (pingRatios first second).testRunStatus.lookup k = (pingRatios second first).testRunStatus.lookup k := by
  simp only [pingRatios]
  by_cases h₁ : k = first.1
  · subst h₁
    rw [AList.lookup_insert, AList.lookup_insert_ne hne, AList.lookup_insert]
  · by_cases h₂ : k = second.1
    · subst h₂
      rw [AList.lookup_insert_ne h₁, AList.lookup_insert, AList.lookup_insert]
    · rw [AList.lookup_insert_ne h₁, AList.lookup_insert_ne h₂, AList.lookup_insert_ne h₂,
        AList.lookup_insert_ne h₁]

/-- The `ping` test of agent `agent-0/synheart`, which passed none of its marks. -/
def failedPing : String × String := ("ping/default/agent-0/synheart", "0.00000")

/-- The `dns` test of the same agent, which passed 30% of its marks. -/
def lowDns : String × String := ("dns/default/agent-0/synheart", "0.30000")

theorem updatePingResponse_depends_on_order (now : String) :
    (∀ k, (pingRatios failedPing lowDns).testRunStatus.lookup k = (pingRatios lowDns failedPing).testRunStatus.lookup k) ∧
      (updatePingResponse (pingRatios failedPing lowDns) now).status = 2 ∧
      (updatePingResponse (pingRatios lowDns failedPing) now).status = 1 ∧
      (updatePingResponse (pingRatios failedPing ("ping/staging/agent-0/synheart", "0.00000")) now).failedTests.entries.length = 1 := by
  refine ⟨lookup_pingRatios_comm (by decide), ?_, ?_, ?_⟩
  · rw [status_updatePingResponse]
    decide +kernel
  · rw [status_updatePingResponse]
    decide +kernel
  · rw [failedTests_updatePingResponse]
    decide +kernel

/-! ## A ratio written by `WriteTestRun`, read back -/

/-- The pass ratio `marks / maxMarks` in units of `10⁻⁵`, rounded half to even as
`formatRatio` rounds it. -/
def ratio5 (marks maxMarks : Nat) : Nat :=
  let n := marks * 100000
  let q := n / maxMarks
  let r := n % maxMarks
  if 2 * r > maxMarks ∨ (2 * r = maxMarks ∧ q % 2 = 1) then q + 1 else q

theorem formatRatio_eq_fixed5 {marks maxMarks : Nat} (hM : maxMarks ≠ 0) :
    formatRatio marks maxMarks = Strconv.fixed5 (ratio5 marks maxMarks / 100000) (ratio5 marks maxMarks % 100000) := by
  rw [formatRatio, if_neg hM]
  rfl

/-- The rounded ratio is below `1.00000` iff the run misses more than one mark in 200000. -/
theorem ratio5_lt_iff {m M : Nat} (hM : 0 < M) : ratio5 m M < 100000 ↔ m < M ∧ M < 200000 * (M - m) := by
  have h1 : m * 100000 / M < 99999 ↔ m * 100000 < 99999 * M := Nat.div_lt_iff_lt_mul hM
  have h2 : 100000 ≤ m * 100000 / M ↔ 100000 * M ≤ m * 100000 := Nat.le_div_iff_mul_le hM
  have hdiv := Nat.div_add_mod (m * 100000) M
  have hr := Nat.mod_lt (m * 100000) hM
  unfold ratio5
  dsimp only
  generalize m * 100000 / M = q at *
  generalize m * 100000 % M = r at *
  rcases Nat.lt_trichotomy q 99999 with hq | rfl | hq
  · -- the quotient leaves room for the rounding
    have := h1.mp hq
    constructor
    · intro _; omega
    · intro _; split_ifs <;> omega
  · -- `0.99999…`: the remainder decides the rounding, and the quotient is odd
    constructor
    · intro h
      split_ifs at h <;> omega
    · intro h
      split_ifs <;> omega
  · have := h2.mp hq
    constructor
    · intro h; split_ifs at h <;> omega
    · intro h; omega

theorem ratio5_div_le (m M : Nat) : ratio5 m M / 100000 ≤ m := by
  have h : m * 100000 / M ≤ m * 100000 := Nat.div_le_self _ _
  have hle : ratio5 m M ≤ m * 100000 + 1 := by
    unfold ratio5
    dsimp only
    generalize m * 100000 / M = q at *
    split_ifs
    · exact Nat.succ_le_succ h
    · exact le_trans h (Nat.le_succ _)
  omega

/-- How the REST API reads the ratio of a run: a failing plugin iff the ratio rounds to
below `1.00000`. -/
theorem pingGrade_formatRatio {pluginId : String} (hid : (getPluginIdComponents pluginId).err = none)
    {m M : Nat} (hM : 0 < M) (hm : m < 2 ^ 64) :
    (pingGrade pluginId (formatRatio m M)).isSome = true ↔ ratio5 m M < 100000 := by
  obtain ⟨x, hx, hval⟩ := Strconv.parseFloat_fixed5 (a := ratio5 m M / 100000)
    (Nat.mod_lt (ratio5 m M) (by decide)) (lt_of_le_of_lt (ratio5_div_le m M) hm)
  rw [Nat.div_add_mod' (ratio5 m M) 100000] at hval
  -- `x < 1` compares the exact values
  have hlt : x.lt ⟨1, 0⟩ = true ↔ ratio5 m M < 100000 := by
    rw [Decimal.lt_iff, hval]
    simp only [Decimal.val, Int.cast_one, pow_zero, div_one]
    rw [div_lt_one (by positivity)]
    exact_mod_cast Iff.rfl
  rw [formatRatio_eq_fixed5 hM.ne', pingGrade, hx]
  simp only [hid, Option.isSome_none, Bool.false_eq_true, if_false, one, GoFloat.lt]
  by_cases h : x.lt ⟨1, 0⟩ = true
  · simp only [h, if_true, Option.isSome_some, true_iff]
    exact hlt.mp h
  · simp only [h, Bool.false_eq_true, if_false, Option.isSome_none, false_iff]
    exact fun h' => h (hlt.mpr h')

theorem failing_formatRatio_iff (store : Redis) (pluginId : String) (run : TestRun)
    (hid : (getPluginIdComponents pluginId).err = none) (hmax : 0 < run.testResult.maxMarks.toNat) :
    let marks := run.testResult.marks.toNat
    let maxMarks := run.testResult.maxMarks.toNat
    (store.writeTestRun pluginId run).testRunStatus.lookup pluginId = some (formatRatio marks maxMarks) ∧
      ((pingGrade pluginId (formatRatio marks maxMarks)).isSome = true ↔
        marks < maxMarks ∧ maxMarks < 200000 * (maxMarks - marks)) ∧
      (marks < maxMarks → (store.writeTestRun pluginId run).lastFailedRun.lookup pluginId = some run) := by
  intro marks maxMarks
  refine ⟨?_, (pingGrade_formatRatio hid hmax run.testResult.marks.toNat_lt).trans (ratio5_lt_iff hmax), ?_⟩
  · dsimp only [Redis.writeTestRun]
    split_ifs <;> simp [Redis.updateTestRunStatus, marks, maxMarks]
  · intro hlt
    dsimp only [Redis.writeTestRun]
    rw [if_pos hlt]
    simp

/-- A run of the `ping` test that missed one mark of 200001. -/
def nearlyPassingRun : TestRun :=
  { id := "", agentId := "agent-0/synheart", startTime := "", endTime := ""
    testConfig :=
      { name := "ping", version := "1", labels := ∅, pluginName := "ping", displayName := "",
        description := "", «namespace» := "default", importance := "", «repeat» := "1m",
        nodeSelector := "", podLabelSelector := ∅, dependsOn := [], timeouts := none,
        pluginRestartPolicy := "", logWaitTime := "", config := "", runtime := ∅ }
    testResult := ⟨200000, 200001, ∅⟩
    details := ∅ }

theorem failing_formatRatio_nearlyPassing :
    (getPluginIdComponents "ping/default/agent-0/synheart").err = none ∧
      0 < nearlyPassingRun.testResult.maxMarks.toNat ∧
      (pingGrade "ping/default/agent-0/synheart" (formatRatio 200000 200001)).isSome = false ∧
      (Redis.empty.writeTestRun "ping/default/agent-0/synheart" nearlyPassingRun).lastFailedRun.lookup
        "ping/default/agent-0/synheart" = some nearlyPassingRun := by
  have hid : (getPluginIdComponents "ping/default/agent-0/synheart").err = none := by decide
  have hmax : 0 < nearlyPassingRun.testResult.maxMarks.toNat := by decide
  obtain ⟨-, hgrade, hlast⟩ := failing_formatRatio_iff Redis.empty _ _ hid hmax
  have hmarks : nearlyPassingRun.testResult.marks.toNat = 200000 := rfl
  have hmaxMarks : nearlyPassingRun.testResult.maxMarks.toNat = 200001 := rfl
  rw [hmarks, hmaxMarks] at hgrade hlast
  refine ⟨hid, hmax, ?_, hlast (by decide)⟩
  rw [Bool.eq_false_iff]
  intro h
  have := (hgrade.mp h).2
  omega

end RestApi

end SyntheticHeart

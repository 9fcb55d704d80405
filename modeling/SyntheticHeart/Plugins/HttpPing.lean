import SyntheticHeart.Agent.StartPlugin
import SyntheticHeart.Go.Float

/-!
# The `httpPing` plugin

`Initialise` reads a list of URL configs and the run timeout `T` of the test, and gives
every URL the same timeout, `T / max(n / 5, 1) - 1s` for `n` URLs (`perUrlTimeout`).
`PerformTest` then tests the URLs with `ParallelWorkers = 5` workers, so the busiest
worker tests `⌈n / 5⌉` URLs one after another.

`httpPingTest` tests one URL. With `repeatsWithoutFail > 0` it needs that many successful
requests in a row (`repeatLoop`); otherwise it retries a failed request up to `retries`
times, and stops retrying once the deadline has passed and the attempt number exceeds
`timeoutRetries` (`retryLoop`). All requests of one URL carry one context, whose deadline
is the URL's timeout after the test starts.

Time is explicit, in nanoseconds. The test starts at `start`; a request sent at `now`
returns the server's `Reply` at `now + latency`, and a request still waiting at the
deadline, or sent after it, fails with `context deadline exceeded` when the deadline passes.
The server's reply to attempt `i` sent at `now` is `server i now`, any function;
`time.ParseDuration`, `http.NewRequest` and `regexp.MatchString` are left abstract.

* `perUrlTimeout_toInt` computes the timeout for fewer than `5 · 2⁵³` URLs and a run
  timeout that is not negative, and `overrun_of_le` shows that `⌈n/5⌉` such timeouts
  exceed a long run timeout as soon as `n` is past a multiple of five.
* `retryLoop_of_expired`: once the deadline has passed, every attempt of the retry loop
  fails at once, whatever the server would answer.
-/

namespace SyntheticHeart.HttpPing

/-- `ParallelWorkers`. -/
def parallelWorkers : Nat := 5

/-- `DefaultWaitBetweenRepeats`. -/
def defaultWaitBetweenRepeats : String := "5s"

/-- `HttpPingTestConfig`: the YAML fields of one URL, and the timeout `PerformTest` copies
into it. -/
structure HttpPingTestConfig where
  address : String
  expectedCodeRegex : String
  maxRetries : Int
  maxTimeoutRetry : Int
  repeatWithoutFail : Int
  waitBetweenRepeat : String
  timeout : Duration
  deriving DecidableEq, Repr

/-- `HttpPingTest`: the URL configs and the timeout of each URL. -/
structure HttpPingTest where
  configs : List HttpPingTestConfig
  timeout : Duration
  deriving DecidableEq, Repr

/-! ## `Initialise` -/

section Initialise

variable (parseDuration : String → Except String Duration)

/-- The timeout of each of `n` URLs in a run of `testTimeout`:
`(testTimeout / time.Duration(math.Max(float64(n/ParallelWorkers), 1))) - time.Second`. -/
def perUrlTimeout (n : Nat) (testTimeout : Duration) : Duration :=
  testTimeout / durationOfFloat (max (GoFloat.roundNat (n / parallelWorkers)) 1) - second

/-- The body of `Initialise`'s loop over the configs: retries and repeats exclude each other,
and an empty wait between repeats becomes the default. -/
def checkConfig (c : HttpPingTestConfig) : Except String HttpPingTestConfig :=
  if (c.maxRetries > 0 ∨ c.maxTimeoutRetry > 0) ∧ c.repeatWithoutFail > 0 then
    .error "retries/timeoutRetries and repeatsWithoutFail cannot be larger than 0 at the same time"
  else if c.waitBetweenRepeat.length = 0 then
    .ok { c with waitBetweenRepeat := defaultWaitBetweenRepeats }
  else .ok c

/-- The configs `Initialise` reads: `decoded` is what `ParseYMLConfig` decodes of the config
as a list, with its error, and `single` what it decodes as one config, which is appended
when the list fails or is empty. -/
def readConfigs (decoded : List HttpPingTestConfig × Option String)
    (single : Except String HttpPingTestConfig) : Except String (List HttpPingTestConfig) :=
  if decoded.2.isSome || decoded.1.isEmpty then do
    let c ← single
    pure (decoded.1 ++ [c])
  else pure decoded.1

/-- `HttpPingTest.Initialise`. -/
def initialise (decoded : List HttpPingTestConfig × Option String)
    (single : Except String HttpPingTestConfig) (runTimeout : String) :
    Except String HttpPingTest := do
  let configs ← readConfigs decoded single
  let testTimeout ← parseDuration runTimeout
  let timeout := perUrlTimeout configs.length testTimeout
  let configs ← configs.mapM checkConfig
  pure ⟨configs, timeout⟩

theorem length_of_mapM_checkConfig :
    ∀ {cs cs' : List HttpPingTestConfig}, cs.mapM checkConfig = .ok cs' → cs'.length = cs.length
  | [], cs', h => by
    cases h
    rfl
  | c :: cs, cs', h => by
    rw [List.mapM_cons] at h
    cases hc : checkConfig c with
    | error e => simp [hc] at h; cases h
    | ok c' =>
      cases hcs : cs.mapM checkConfig with
      | error e => simp [hc, hcs] at h; cases h
      | ok cs'' =>
        simp only [hc, hcs] at h
        cases h
        simp [length_of_mapM_checkConfig hcs]

/-- The timeout `Initialise` sets is `perUrlTimeout` of the number of URLs it keeps and of
the parsed run timeout. -/
theorem initialise_timeout {decoded : List HttpPingTestConfig × Option String}
    {single : Except String HttpPingTestConfig} {runTimeout : String} {t : HttpPingTest}
    (ht : initialise parseDuration decoded single runTimeout = .ok t) :
    ∃ T, parseDuration runTimeout = .ok T ∧ t.timeout = perUrlTimeout t.configs.length T := by
  cases hr : readConfigs decoded single with
  | error e => simp [initialise, hr, bind, Except.bind] at ht
  | ok configs =>
    cases hT : parseDuration runTimeout with
    | error e => simp [initialise, hr, hT, bind, Except.bind] at ht
    | ok T =>
      cases hcs : configs.mapM checkConfig with
      | error e => simp [initialise, hr, hT, hcs, bind, Except.bind] at ht
      | ok cs =>
        simp only [initialise, hr, hT, hcs, bind, Except.bind, pure, Except.pure,
          Except.ok.injEq] at ht
        subst ht
        exact ⟨T, rfl, by rw [length_of_mapM_checkConfig hcs]⟩

end Initialise

/-! ## The per-URL timeout -/

theorem durationOfFloat_of_lt {q : Nat} (hq : q < 2 ^ 63) : (durationOfFloat q).toInt = q := by
  rw [durationOfFloat, if_pos hq, Int64.toInt_ofNat_of_lt hq]

/-- For `q = n / 5` between `1` and `2⁵³` the divisor is `q` itself, and a run timeout that
is not negative divides without wrapping. -/
theorem perUrlTimeout_toInt {n : Nat} {T : Duration} (hq : 1 ≤ n / parallelWorkers)
    (hq' : n / parallelWorkers < 2 ^ 53) (hT : 0 ≤ T.toInt) :
    (perUrlTimeout n T).toInt = T.toInt / (n / parallelWorkers : Nat) - 1000000000 := by
  have hlt : n / parallelWorkers < 2 ^ 63 :=
    lt_trans hq' (by apply Nat.pow_lt_pow_right <;> norm_num)
  have hd : (durationOfFloat (max (GoFloat.roundNat (n / parallelWorkers)) 1)).toInt =
      (n / parallelWorkers : Nat) := by
    rw [GoFloat.roundNat_of_lt hq', max_eq_left hq, durationOfFloat_of_lt hlt]
  have hne : durationOfFloat (max (GoFloat.roundNat (n / parallelWorkers)) 1) ≠ -1 := by
    intro h
    have := congrArg Int64.toInt h
    rw [hd] at this
    simp at this
    omega
  have hdiv := Int64.toInt_div_of_ne_right T _ hne
  rw [hd, Int.tdiv_eq_ediv_of_nonneg hT] at hdiv
  have hq0 : (0 : Int) ≤ T.toInt / (n / parallelWorkers : Nat) := Int.ediv_nonneg hT (by omega)
  have hqT : T.toInt / (n / parallelWorkers : Nat) ≤ T.toInt := Int.ediv_le_self _ hT
  have hTlt := Int64.toInt_lt T
  rw [perUrlTimeout, Int64.toInt_sub, hdiv]
  apply Int.bmod_eq_of_le
  · have : (second.toInt : Int) = 1000000000 := rfl
    omega
  · have : (second.toInt : Int) = 1000000000 := rfl
    omega

/-- `q + 1` slots of `T / q - s` overrun `T` once `T ≥ q ((q + 1) s + q)`. -/
theorem overrun_of_le {q T s : Int} (hq : 1 ≤ q) (hT : q * ((q + 1) * s + q) ≤ T) :
    T < (q + 1) * (T / q - s) := by
  have hdiv : T = q * (T / q) + T % q := (Int.mul_ediv_add_emod T q).symm
  have hmod : T % q < q := Int.emod_lt_of_pos T (by omega)
  have hle : (q + 1) * s + q ≤ T / q := by
    rw [Int.le_ediv_iff_mul_le (by omega)]
    linarith
  nlinarith



section Initialise

variable (parseDuration : String → Except String Duration)

theorem initialise_overruns_run_timeout (decoded : List HttpPingTestConfig × Option String)
    (single : Except String HttpPingTestConfig) (runTimeout : String) (T : Duration)
    (t : HttpPingTest) (q r : Nat) (hT : parseDuration runTimeout = .ok T)
    (ht : initialise parseDuration decoded single runTimeout = .ok t)
    (hn : t.configs.length = parallelWorkers * q + r) (hq : 1 ≤ q) (hr : 0 < r)
    (hr' : r < parallelWorkers) (hlong : (q : Int) * ((q + 1) * 1000000000 + q) ≤ T.toInt) :
    T.toInt <
      ((t.configs.length + parallelWorkers - 1) / parallelWorkers : Nat) * t.timeout.toInt := by
  obtain ⟨T', hT', htimeout⟩ := initialise_timeout parseDuration ht
  rw [hT, Except.ok.injEq] at hT'
  subst hT'
  have hdiv : t.configs.length / parallelWorkers = q := by
    rw [hn]
    unfold parallelWorkers at hr' ⊢
    omega
  have hceil : (t.configs.length + parallelWorkers - 1) / parallelWorkers = q + 1 := by
    rw [hn]
    unfold parallelWorkers at hr' ⊢
    omega
  have hT0 : 0 ≤ T.toInt := le_trans (by positivity) hlong
  -- a long run timeout bounds `q` by `2⁵³`, where `float64(q)` is exact
  have hq53 : q < 2 ^ 53 := by
    by_contra hbig
    have hbig' : (2 : Int) ^ 53 ≤ q := by exact_mod_cast Nat.le_of_not_lt hbig
    have hTlt := Int64.toInt_lt T
    nlinarith
  rw [htimeout, perUrlTimeout_toInt (hdiv ▸ hq) (hdiv ▸ hq53) hT0, hdiv, hceil]
  push_cast
  exact overrun_of_le (by exact_mod_cast hq) hlong

/-- Six URLs under the run timeout `10s`. -/
def sixUrls : List HttpPingTestConfig :=
  List.replicate 6 ⟨"localhost:9200", "^(202|472)\x7b1\x7d", 3, 1, 0, "5s", 0⟩

theorem initialise_overruns_run_timeout_six :
    (fun s => if s = "10s" then .ok (10 * second) else .error "time: invalid duration")
        "10s" = (.ok (10 * second) : Except String Duration) ∧
      initialise (fun s => if s = "10s" then .ok (10 * second) else .error "time: invalid duration")
        (sixUrls, none) (.error "") "10s" = .ok ⟨sixUrls, perUrlTimeout 6 (10 * second)⟩ ∧
      (10 * second).toInt < 2 * (perUrlTimeout 6 (10 * second)).toInt := by
  refine ⟨rfl, rfl, ?_⟩
  exact initialise_overruns_run_timeout
    (fun s => if s = "10s" then .ok (10 * second) else .error "time: invalid duration")
    (sixUrls, none) (.error "") "10s" (10 * second) ⟨sixUrls, perUrlTimeout 6 (10 * second)⟩ 1 1
    rfl rfl rfl le_rfl (by decide) (by decide) (by decide)

end Initialise

/-! ## `httpPingTest` -/

/-- What the server does with one request: after `latency` nanoseconds it answers with a
status code, its body read in full, or the request fails (`Client.Do` or reading the body
returns an error). A server that never answers has a latency past every deadline. -/
structure Reply where
  latency : Nat
  outcome : Except String Nat
  deriving DecidableEq, Repr

/-- The map `{"marks", "elapsed_time"}` that `httpPingTest` returns. -/
structure HttpPingResult where
  marks : Int
  elapsedTime : Int
  deriving DecidableEq, Repr

/-- `context.DeadlineExceeded.Error()`. -/
def deadlineExceeded : String := "context deadline exceeded"

/-- `ctx.Err()` at `now` for a context with the deadline `deadline` that is not cancelled. -/
def ctxErr (deadline now : Int) : Option String :=
  if deadline ≤ now then some deadlineExceeded else none

/-- The error of `c.Do(req)` for a request to `address` whose context's deadline passed. -/
def doDeadlineError (address : String) : String :=
  "Get \"" ++ address ++ "\": " ++ deadlineExceeded

/-- `d.Milliseconds()`. -/
def milliseconds (d : Duration) : Int := (d / 1000000).toInt

/-- `time.Sleep(d)` from `now`. -/
def sleep (now : Int) (d : Duration) : Int := now + max d.toInt 0

section HttpPingTest

variable (parseDuration : String → Except String Duration) (newRequest : String → Option String)
  (matchString : String → String → Except String Bool)

/-- `runHttpPing` for a request to `address` sent at `now` under `deadline`, the server
giving `reply`: `(match, elapsed, err)` and the time it returns. -/
def runHttpPing (address expectedCodeRegex : String) (deadline now : Int) (reply : Reply) :
    (Bool × Duration × Option String) × Int :=
  -- `c.Do(req)` fails when the deadline passes before the reply arrives
  if deadline ≤ now + reply.latency then
    ((false, 0, some (doDeadlineError address)), max now deadline)
  else
    let t := now + reply.latency
    match reply.outcome with
    | .error e => ((false, 0, some e), t)
    | .ok code =>
      match matchString expectedCodeRegex (toString code) with
      | .error e => ((false, Int64.ofNat reply.latency, some e), t)
      | .ok b => ((b, Int64.ofNat reply.latency, none), t)

/-- The loop of `httpPingTest` that retries a failed request, from attempt `i` with at most
`fuel` attempts left, `last` the `(match, elapsed, err)` of the last attempt: the result of
the attempt that ends it, and the time. -/
def retryLoop (cfg : HttpPingTestConfig) (server : Nat → Int → Reply) (deadline : Int) :
    Nat → Nat → Int → Bool × Duration × Option String →
      (Bool × Duration × Option String) × Int
  | 0, _, now, last => (last, now)
  | fuel + 1, i, now, last =>
    if (i : Int) ≤ cfg.maxRetries ∧
        (ctxErr deadline now = none ∨ ctxErr deadline now = some deadlineExceeded) then
      if (i : Int) > cfg.maxTimeoutRetry ∧ ctxErr deadline now ≠ none ∧
          ctxErr deadline now = some deadlineExceeded then (last, now)
      else
        let (r, now) := runHttpPing matchString cfg.address cfg.expectedCodeRegex deadline now
          (server i now)
        if r.2.2 = none then (r, now) else retryLoop cfg server deadline fuel (i + 1) now r
    else (last, now)

/-- The loop of `httpPingTest` that needs `repeatsWithoutFail` successes in a row, from the
`i`-th request with at most `fuel` requests left, `elapsed` the milliseconds of the last. -/
def repeatLoop (cfg : HttpPingTestConfig) (server : Nat → Int → Reply) (deadline : Int)
    (repeatWaitTime : Duration) : Nat → Nat → Int → Int → HttpPingResult × Option String
  | 0, _, _, elapsed => (⟨1, elapsed⟩, none)
  | fuel + 1, i, now, elapsed =>
    if (i : Int) ≤ cfg.repeatWithoutFail then
      let ((m, e, err), now) := runHttpPing matchString cfg.address cfg.expectedCodeRegex
        deadline now (server (i - 1) now)
      let result : HttpPingResult := ⟨0, milliseconds e⟩
      match ctxErr deadline now, err with
      | some c, _ => (result, some c)
      | none, some err => (result, some err)
      | none, none =>
        if !m then (result, none)
        else
          let now := if (i : Int) < cfg.repeatWithoutFail then sleep now repeatWaitTime else now
          repeatLoop cfg server deadline repeatWaitTime fuel (i + 1) now (milliseconds e)
    else (⟨1, elapsed⟩, none)

/-- `httpPingTest` for the URL config `cfg`, started at `start`: the marks and the elapsed
time of the last request, and the error. -/
def httpPingTest (cfg : HttpPingTestConfig) (server : Nat → Int → Reply) (start : Int) :
    HttpPingResult × Option String :=
  match parseDuration cfg.waitBetweenRepeat with
  | .error e => (⟨0, 0⟩, some (wrap "error parsing repeated success test interval" e))
  | .ok repeatWaitTime =>
    let deadline := start + cfg.timeout.toInt
    match newRequest cfg.address with
    | some e => (⟨0, 0⟩, some e)
    | none =>
      if cfg.repeatWithoutFail > 0 then
        repeatLoop matchString cfg server deadline repeatWaitTime cfg.repeatWithoutFail.toNat 1
          start 0
      else
        let ((m, e, err), _) := retryLoop matchString cfg server deadline
          (cfg.maxRetries + 1).toNat 0 start (false, 0, none)
        match err with
        | some err => (⟨0, milliseconds e⟩, some err)
        | none => (⟨if m then 1 else 0, milliseconds e⟩, none)

/-- The guard of the retry loop on the context error always holds: the context of a URL is
never cancelled before `httpPingTest` returns. -/
theorem ctxErr_guard (deadline now : Int) :
    ctxErr deadline now = none ∨ ctxErr deadline now = some deadlineExceeded := by
  unfold ctxErr
  split_ifs <;> simp

/-- A request sent after the deadline fails at once. -/
theorem runHttpPing_of_expired (address expectedCodeRegex : String) {deadline now : Int}
    (h : deadline ≤ now) (reply : Reply) :
    runHttpPing matchString address expectedCodeRegex deadline now reply =
      ((false, 0, some (doDeadlineError address)), now) := by
  have hle : deadline ≤ now + reply.latency := by omega
  rw [runHttpPing, if_pos hle, max_eq_left h]

/-- Once the deadline has passed, every attempt of the retry loop fails at once, so the loop
ends with the deadline error it was given. -/
theorem retryLoop_of_expired (cfg : HttpPingTestConfig) (server : Nat → Int → Reply)
    {deadline : Int} :
    ∀ (fuel i : Nat) {now : Int}, deadline ≤ now →
      retryLoop matchString cfg server deadline fuel i now
          (false, 0, some (doDeadlineError cfg.address)) =
        ((false, 0, some (doDeadlineError cfg.address)), now)
  | 0, _, _, _ => rfl
  | fuel + 1, i, now, h => by
    have hctx : ctxErr deadline now = some deadlineExceeded := by simp [ctxErr, h]
    rw [retryLoop]
    split_ifs with hguard hbreak
    · rfl
    · simp only [runHttpPing_of_expired matchString _ _ h, reduceCtorEq, if_false]
      exact retryLoop_of_expired cfg server fuel (i + 1) h
    · rfl


theorem timeout_retry_never_succeeds (cfg : HttpPingTestConfig) (server : Nat → Int → Reply)
    (start : Int) (repeatWaitTime : Duration) (hrepeat : cfg.repeatWithoutFail = 0)
    (hretries : cfg.maxTimeoutRetry ≤ cfg.maxRetries) (htimeoutRetry : 1 ≤ cfg.maxTimeoutRetry)
    (hwait : parseDuration cfg.waitBetweenRepeat = .ok repeatWaitTime)
    (hreq : newRequest cfg.address = none)
    (hfirst : cfg.timeout.toInt ≤ (server 0 start).latency) :
    httpPingTest parseDuration newRequest matchString cfg server start =
      (⟨0, 0⟩, some (doDeadlineError cfg.address)) := by
  obtain ⟨k, hk⟩ : ∃ k, (cfg.maxRetries + 1).toNat = k + 1 := ⟨cfg.maxRetries.toNat, by omega⟩
  have hdead : start + cfg.timeout.toInt ≤ start + (server 0 start).latency := by omega
  -- the first attempt times out and leaves the clock at the deadline
  have hfirstAttempt : runHttpPing matchString cfg.address cfg.expectedCodeRegex
      (start + cfg.timeout.toInt) start (server 0 start) =
        ((false, 0, some (doDeadlineError cfg.address)),
          max start (start + cfg.timeout.toInt)) := by
    rw [runHttpPing, if_pos hdead]
  have hloop : retryLoop matchString cfg server (start + cfg.timeout.toInt) (k + 1) 0 start
      (false, 0, none) =
        ((false, 0, some (doDeadlineError cfg.address)), max start (start + cfg.timeout.toInt)) := by
    have hguard : ((0 : Nat) : Int) ≤ cfg.maxRetries := by omega
    have hnobreak : ¬ ((0 : Nat) : Int) > cfg.maxTimeoutRetry := by omega
    rw [retryLoop, if_pos ⟨hguard, ctxErr_guard _ _⟩, if_neg (fun h => hnobreak h.1)]
    simp only [hfirstAttempt, reduceCtorEq, if_false]
    exact retryLoop_of_expired matchString cfg server k 1 (le_max_right _ _)
  have hnorepeat : ¬ cfg.repeatWithoutFail > 0 := by omega
  simp only [httpPingTest, hwait, hreq, if_neg hnorepeat, hk, hloop]
  rfl

/-- The README's config with `retries: 3` and `timeoutRetries: 1`, under the timeout that
`Initialise` gives one URL in a run of `10s`. -/
def readmeRetryConfig : HttpPingTestConfig :=
  ⟨"localhost:9200", "^(202|472)\x7b1\x7d", 3, 1, 0, "5s", 9 * second⟩

/-- A server that takes ten seconds to answer the first request and answers every later one
with `202` within a millisecond. -/
def slowFirstServer (i : Nat) (_ : Int) : Reply :=
  if i = 0 then ⟨10000000000, .ok 202⟩ else ⟨1000000, .ok 202⟩

theorem timeout_retry_never_succeeds_readme :
    readmeRetryConfig.repeatWithoutFail = 0 ∧
      readmeRetryConfig.maxTimeoutRetry ≤ readmeRetryConfig.maxRetries ∧
      1 ≤ readmeRetryConfig.maxTimeoutRetry ∧
      (slowFirstServer 1 0).outcome = .ok 202 ∧
      (slowFirstServer 1 0).latency < readmeRetryConfig.timeout.toInt ∧
      httpPingTest (fun _ => .ok (5 * second)) (fun _ => none)
          (fun _ code => .ok (decide (code = "202"))) readmeRetryConfig slowFirstServer 0 =
        (⟨0, 0⟩, some (doDeadlineError "localhost:9200")) := by
  refine ⟨rfl, by decide, by decide, rfl, by decide, ?_⟩
  exact timeout_retry_never_succeeds (fun _ => .ok (5 * second)) (fun _ => none)
    (fun _ code => .ok (decide (code = "202"))) readmeRetryConfig slowFirstServer 0 (5 * second)
    rfl (by decide) (by decide) rfl rfl (by decide)


/-- The repeat loop gives one mark when every request succeeds, and none otherwise. -/
theorem repeatLoop_marks (cfg : HttpPingTestConfig) (server : Nat → Int → Reply)
    (deadline : Int) (repeatWaitTime : Duration) :
    ∀ (fuel i : Nat) (now elapsed : Int),
      (repeatLoop matchString cfg server deadline repeatWaitTime fuel i now elapsed).1.marks = 0 ∨
        (repeatLoop matchString cfg server deadline repeatWaitTime fuel i now elapsed).1.marks = 1
  | 0, _, _, _ => .inr rfl
  | fuel + 1, i, now, elapsed => by
    rw [repeatLoop]
    by_cases hi : (i : Int) ≤ cfg.repeatWithoutFail
    · rw [if_pos hi]
      generalize runHttpPing matchString cfg.address cfg.expectedCodeRegex deadline now
        (server (i - 1) now) = r
      obtain ⟨⟨m, e, err⟩, now'⟩ := r
      dsimp only
      -- every way out of an iteration gives no mark, except the next iteration
      split
      · exact .inl rfl
      · exact .inl rfl
      · by_cases hm : (!m) = true
        · rw [if_pos hm]
          exact .inl rfl
        · rw [if_neg hm]
          exact repeatLoop_marks cfg server deadline repeatWaitTime fuel (i + 1) _ _
    · rw [if_neg hi]
      exact .inr rfl

/-- `httpPingTest` gives a URL at most one mark. -/
theorem httpPingTest_marks (cfg : HttpPingTestConfig) (server : Nat → Int → Reply) (start : Int) :
    (httpPingTest parseDuration newRequest matchString cfg server start).1.marks = 0 ∨
      (httpPingTest parseDuration newRequest matchString cfg server start).1.marks = 1 := by
  unfold httpPingTest
  split
  · exact .inl rfl
  · split
    · exact .inl rfl
    · split_ifs
      · exact repeatLoop_marks matchString cfg server _ _ _ _ _ _
      · -- after the retry loop: a mark only for a match without error
        dsimp only
        generalize retryLoop matchString cfg server (start + cfg.timeout.toInt)
          (cfg.maxRetries + 1).toNat 0 start (false, 0, none) = r
        obtain ⟨⟨m, e, err⟩, now⟩ := r
        cases err with
        | some err => exact .inl rfl
        | none => cases m <;> simp

end HttpPingTest

end SyntheticHeart.HttpPing

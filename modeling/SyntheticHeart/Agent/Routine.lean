import SyntheticHeart.Agent.Broadcaster
import SyntheticHeart.Plugins.HttpPing

/-!
# The test routine (`SynTestRoutine`)

A routine runs one synthetic test on the agent. `Run` subscribes to the broadcaster when
the test has `DependsOn` entries and then loops on a `select`: a timer tick, or a `TestRun`
from the broadcaster whose test it depends on, starts `testPlugin`. `testPlugin` connects
to the plugin, runs its `Initialise` under `runFuncWithTimeout`, and then `runTest`, which
publishes the `TestRun` it made to the broadcaster.

`runFuncWithTimeout` starts a goroutine that calls the function with a channel `errCh` of
one slot and then closes the channel, and takes whichever of `errCh` and the timeout is
ready first. `Call` is its state and `callStep` one move of the goroutine, of the timer or
of the `select`; the function is given by what it does (`FuncBehaviour`).

`Routines` is the routines of one agent and the broadcaster, and `step` one move of a routine
or of the broadcaster's `Start` loop. A routine's channel has `DefaultSynTestSubChannelSize`
slots, so a run handed to a routine blocked in its `select` is a run put into the channel and
then received: here a routine receives only from a channel that holds a run, and never
blocks on it as `Broadcaster.Label.wait` does.

* `result_nil_of_reachable`: in every interleaving, `runFuncWithTimeout` returns `nil` only
  when the function sent `nil` or returned without sending.
* `runFuncWithTimeout_nil_after_panic`: when `Initialise` panics, the deferred
  `panicHandler` recovers and the function returns without sending; whatever the timer has
  done, the `select` can still read the closed channel and return `nil`, and `testPlugin`
  goes on to run the test.
* `self_trigger_cascade`: a test that depends on `*` is started again by each `TestRun` it
  publishes itself, so one timer tick is followed by any number of runs.
-/

namespace SyntheticHeart.Routine

open Transition

/-! ## `runFuncWithTimeout` -/

/-- What the function passed to `runFuncWithTimeout` does: send one value on `errCh`
(`none` is `nil`) and return, return without sending, or never return. -/
inductive FuncBehaviour
  | sends (err : Option String)
  | returnsWithoutSending
  | blocks
  deriving DecidableEq, Repr

/-- Whether the function can have returned, given whether it has sent. -/
def FuncBehaviour.canReturn (sent : Bool) : FuncBehaviour → Bool
  | .sends _ => sent
  | .returnsWithoutSending => true
  | .blocks => false

/-- How a call of the plugin (`Initialise`, `Finish`) ends. -/
inductive CallOutcome
  | returns (err : Option String)
  | panics
  | hangs
  deriving DecidableEq, Repr

/-- The function `testPlugin` and `finish` pass to `runFuncWithTimeout`:
`defer str.panicHandler(..); errCh <- plugin.Initialise(..)`. A panic skips the send, and
the deferred `panicHandler` recovers it, so the function returns. -/
def guardedCall : CallOutcome → FuncBehaviour
  | .returns err => .sends err
  | .panics => .returnsWithoutSending
  | .hangs => .blocks

/-- Why `tCtx` is done: its timeout passed, or the routine's context was cancelled. -/
inductive CtxDone
  | deadlineExceeded
  | canceled
  deriving DecidableEq, Repr

/-- `tCtx.Err().Error()`. -/
def CtxDone.error : CtxDone → String
  | .deadlineExceeded => HttpPing.deadlineExceeded
  | .canceled => "context canceled"

/-- One call of `runFuncWithTimeout`: whether the function has sent, the slot of `errCh`,
whether the goroutine has closed it, whether `tCtx` is done, and the error the `select`
returned. -/
structure Call where
  sent : Bool
  errCh : Option (Option String)
  closed : Bool
  done : Option CtxDone
  result : Option (Option String)
  deriving DecidableEq, Repr

/-- The call as `runFuncWithTimeout` starts the goroutine. -/
def Call.start : Call := ⟨false, none, false, none, none⟩

/-- The moves of one call. -/
inductive CallLabel
  | send
  | close
  | expire (why : CtxDone)
  | receive
  | timeout
  deriving DecidableEq, Repr

section Call

variable (f : FuncBehaviour)

/-- One move: the function sends on `errCh`; it returns and the goroutine closes `errCh`;
`tCtx` becomes done; the `select` takes `err = <-errCh`, which reads `nil` from a closed
empty channel; or it takes `<-tCtx.Done()`. -/
def callStep (c : Call) : CallLabel → Option Call
  | .send =>
    match f with
    | .sends err => if c.sent = false then some { c with sent := true, errCh := some err } else none
    | _ => none
  | .close =>
    if c.closed = false ∧ f.canReturn c.sent = true then some { c with closed := true } else none
  | .expire why => if c.done = none then some { c with done := some why } else none
  | .receive =>
    if c.result = none then
      match c.errCh with
      | some err => some { c with errCh := none, result := some err }
      | none => if c.closed = true then some { c with result := some none } else none
    else none
  | .timeout =>
    match c.result, c.done with
    | none, some why => some { c with result := some (some why.error) }
    | _, _ => none

/-- What holds of every call: the slot holds what the function sent, a value sent waits in
the slot until the `select` takes it, and `errCh` is closed only after the function
returned. -/
structure CallInv (c : Call) : Prop where
  slot : ∀ err, c.errCh = some err → f = .sends err
  waiting : c.sent = true → c.result = none → c.errCh ≠ none
  closed : c.closed = true → f.canReturn c.sent = true
  nil : c.result = some none → f = .sends none ∨ f = .returnsWithoutSending

theorem callInv_start : CallInv f Call.start where
  slot := by simp [Call.start]
  waiting := by simp [Call.start]
  closed := by simp [Call.start]
  nil := by simp [Call.start]

theorem CallInv.of_step {c c' : Call} {l : CallLabel} (h : CallInv f c)
    (hs : callStep f c l = some c') : CallInv f c' := by
  cases l with
  | send =>
    cases f with
    | sends err =>
      simp only [callStep] at hs
      split_ifs at hs
      cases hs
      exact ⟨by simp, by simp, fun _ => rfl, h.nil⟩
    | returnsWithoutSending => cases hs
    | blocks => cases hs
  | close =>
    simp only [callStep] at hs
    split_ifs at hs with hc
    cases hs
    exact ⟨h.slot, h.waiting, fun _ => hc.2, h.nil⟩
  | expire why =>
    simp only [callStep] at hs
    split_ifs at hs
    cases hs
    exact ⟨h.slot, h.waiting, h.closed, h.nil⟩
  | receive =>
    simp only [callStep] at hs
    obtain ⟨hr, hs⟩ := Option.ite_none_right_eq_some.mp hs
    split at hs
    · rename_i err herr
      cases hs
      refine ⟨by simp, by simp, h.closed, fun hnil => ?_⟩
      cases hnil
      exact .inl (h.slot none herr)
    · rename_i herr
      obtain ⟨hclosed, hs⟩ := Option.ite_none_right_eq_some.mp hs
      cases hs
      refine ⟨h.slot, by simp, h.closed, fun _ => ?_⟩
      -- a closed channel with an empty slot: the function returned without sending
      have hret := h.closed hclosed
      cases f with
      | sends err =>
        have hne := h.waiting hret hr
        exact absurd herr hne
      | returnsWithoutSending => exact .inr rfl
      | blocks => cases hret
  | timeout =>
    simp only [callStep] at hs
    split at hs
    · cases hs
      exact ⟨h.slot, by simp, h.closed, by simp⟩
    · cases hs

theorem callInv_of_reachable {c : Call}
    (h : Reachable (callStep f) (fun _ => True) Call.start c) : CallInv f c :=
  h.invariant (callInv_start f) (fun _ _ _ _ hi hs => hi.of_step f hs)

/-- In every interleaving, `runFuncWithTimeout` returns `nil` only when the function sent
`nil` or returned without sending. -/
theorem result_nil_of_reachable {c : Call}
    (h : Reachable (callStep f) (fun _ => True) Call.start c) (hnil : c.result = some none) :
    f = .sends none ∨ f = .returnsWithoutSending :=
  (callInv_of_reachable f h).nil hnil

/-- A panicking call never fills the slot of `errCh`. -/
theorem errCh_eq_none_of_panics {c : Call}
    (h : Reachable (callStep (guardedCall .panics)) (fun _ => True) Call.start c) :
    c.errCh = none := by
  cases herr : c.errCh with
  | none => rfl
  | some err => cases (callInv_of_reachable _ h).slot err herr

end Call

/-! ## The run loop -/

/-- `DefaultSynTestSubChannelSize`. -/
def defaultSynTestSubChannelSize : Nat := 1000

/-- `BroadcasterPublishChannelSize`. -/
def broadcasterPublishChannelSize : Nat := 1000

/-- `dependantTestMap`: every test of `DependsOn`, mapped to `true`. -/
def dependantTestMap (cfg : SynTestConfig) : GoMap String Bool :=
  cfg.dependsOn.foldl (fun m t => m.insert t true) ∅

/-- The check of the `testRunChan` case of `Run`: the routine runs its test for a `TestRun`
of a test it depends on, and for every `TestRun` when it depends on `*` or `*++`. -/
def triggeredBy (m : GoMap String Bool) (testName : String) : Bool :=
  m.getD "*" false || m.getD "*++" false || m.getD testName false

theorem getD_dependantTestMap (cfg : SynTestConfig) (t : String) :
    (dependantTestMap cfg).getD t false = decide (t ∈ cfg.dependsOn) := by
  rw [dependantTestMap, GoMap.getD_foldl_insert]
  by_cases ht : t ∈ cfg.dependsOn <;> simp [ht, GoMap.getD]

theorem triggeredBy_dependantTestMap (cfg : SynTestConfig) (testName : String) :
    triggeredBy (dependantTestMap cfg) testName = true ↔
      "*" ∈ cfg.dependsOn ∨ "*++" ∈ cfg.dependsOn ∨ testName ∈ cfg.dependsOn := by
  simp [triggeredBy, getD_dependantTestMap, or_assoc]

/-- Where a routine is: before its subscription, in the `select` of its loop, in
`testPlugin` connecting to the plugin, waiting for `Initialise`, in `runTest`, returned from
`Run` with its deferred unsubscription still to do, or gone. -/
inductive Phase
  | starting
  | waiting
  | connecting
  | initialising
  | testing
  | exiting
  | exited
  deriving DecidableEq, Repr

/-- The routines of one agent, the `i`-th running the `i`-th test config, and the
broadcaster. A `TestRun` is represented by the name of its test, the field `Run` reads; as
ghost state, `triggers` lists every run a `TestRun` started, with the routine and the test
of that `TestRun`. -/
structure Routines where
  bc : Broadcaster.State String
  phase : Nat → Phase
  chan : Nat → Option Nat
  triggers : List (Nat × String)

/-- No routine has started. -/
def Routines.init : Routines := ⟨Broadcaster.init, fun _ => .starting, fun _ => none, []⟩

/-- Moves the routine `i` to `p`. -/
def Routines.setPhase (a : Routines) (i : Nat) (p : Phase) : Routines :=
  { a with phase := Function.update a.phase i p }

/-- The moves: a routine starts `Run`, gets a timer tick, receives a `TestRun`, connects to
its plugin, gets the error `runFuncWithTimeout` returned for `Initialise`, runs its test
(which fails or not), is cancelled, or runs its deferred unsubscription; or the
broadcaster's `Start` loop moves. -/
inductive Label
  | start (i : Nat)
  | tick (i : Nat)
  | receive (i : Nat)
  | connect (i : Nat) (ok : Bool)
  | initialise (i : Nat) (err : Option String)
  | runTest (i : Nat) (ok : Bool)
  | cancel (i : Nat)
  | exit (i : Nat)
  | broadcast (l : Broadcaster.Label String)

/-- The moves of the broadcaster's own `Start` loop. -/
def isStartMove : Broadcaster.Label String → Bool
  | .takeSub | .takeUnsub | .takePub | .send _ => true
  | _ => false

section RunLoop

variable (parseDuration : String → Except String Duration) (configs : List SynTestConfig)

/-- Whether `Run` makes a ticker: `Repeat` parses to a positive duration. -/
def hasTicker (cfg : SynTestConfig) : Bool :=
  match parseDuration cfg.«repeat» with
  | .ok d => decide (0 < d)
  | .error _ => false

/-- One move of a routine or of the broadcaster. -/
def step (a : Routines) : Label → Option Routines
  | .start i =>
    match configs[i]? with
    | some cfg =>
      if a.phase i = .starting then
        match parseDuration cfg.«repeat» with
        -- `Run` returns the error before it subscribes
        | .error _ => some (a.setPhase i .exited)
        | .ok _ =>
          if (dependantTestMap cfg).entries = [] then some (a.setPhase i .waiting)
          else
            (Broadcaster.step broadcasterPublishChannelSize a.bc
                (.subscribe cfg.name defaultSynTestSubChannelSize)).map fun bc =>
              { a with
                bc := bc
                phase := Function.update a.phase i .waiting
                chan := Function.update a.chan i (some a.bc.nextChan) }
      else none
    | none => none
  | .tick i =>
    match configs[i]? with
    | some cfg =>
      if a.phase i = .waiting ∧ hasTicker parseDuration cfg = true then
        some (a.setPhase i .connecting)
      else none
    | none => none
  | .receive i =>
    match configs[i]?, a.chan i with
    | some cfg, some c =>
      if a.phase i = .waiting then
        match (a.bc.chans c).buffer with
        | (_, testName) :: _ =>
          (Broadcaster.step broadcasterPublishChannelSize a.bc (.receive c)).map fun bc =>
            if triggeredBy (dependantTestMap cfg) testName then
              { a with
                bc := bc
                phase := Function.update a.phase i .connecting
                triggers := a.triggers ++ [(i, testName)] }
            else { a with bc := bc }
        | [] => none
      else none
    | _, _ => none
  | .connect i ok =>
    if a.phase i = .connecting then some (a.setPhase i (if ok then .initialising else .exiting))
    else none
  | .initialise i err =>
    -- `testPlugin` returns the error of `runFuncWithTimeout`, and runs the test on `nil`
    if a.phase i = .initialising then
      some (a.setPhase i (if err = none then .testing else .exiting))
    else none
  | .runTest i ok =>
    match configs[i]? with
    | some cfg =>
      -- `runTest` publishes its `TestRun` whether the test failed or not
      if a.phase i = .testing then
        (Broadcaster.step broadcasterPublishChannelSize a.bc (.publish cfg.name)).map fun bc =>
          { a with
            bc := bc
            phase := Function.update a.phase i (if ok then .waiting else .exiting) }
      else none
    | none => none
  | .cancel i => if a.phase i = .waiting then some (a.setPhase i .exiting) else none
  | .exit i =>
    if a.phase i = .exiting then
      match a.chan i with
      | some c =>
        (Broadcaster.step broadcasterPublishChannelSize a.bc (.unsubscribe c)).map fun bc =>
          { a with
            bc := bc
            phase := Function.update a.phase i .exited }
      | none => some (a.setPhase i .exited)
    else none
  | .broadcast l =>
    if isStartMove l then
      (Broadcaster.step broadcasterPublishChannelSize a.bc l).map fun bc => { a with bc := bc }
    else none

end RunLoop

/-- The plugins' answers: `initialise i err` only with an error that `runFuncWithTimeout`
can return for the way `Initialise` of the routine `i` ends. -/
def Allowed (outcome : Nat → CallOutcome) : Label → Prop
  | .initialise i err =>
    ∃ c, Reachable (callStep (guardedCall (outcome i))) (fun _ => True) Call.start c ∧
      c.result = some err
  | _ => True

/-! ## A panicking `Initialise` -/

/-- Whatever the timer has done, a call whose function panicked can still return `nil`: the
goroutine closes `errCh`, and the `select` reads the closed channel. -/
theorem exists_run_nil_of_panics {c : Call}
    (h : Reachable (callStep (guardedCall .panics)) (fun _ => True) Call.start c)
    (hr : c.result = none) :
    ∃ ls c', run (callStep (guardedCall .panics)) c ls = some c' ∧ c'.result = some none := by
  have herr := errCh_eq_none_of_panics h
  cases hcl : c.closed with
  | true =>
    refine ⟨[.receive], { c with result := some none }, ?_, rfl⟩
    simp [run, callStep, hr, herr, hcl]
  | false =>
    refine ⟨[.close, .receive], { c with closed := true, result := some none }, ?_, rfl⟩
    simp [run, callStep, hr, herr, hcl, guardedCall, FuncBehaviour.canReturn]

theorem runFuncWithTimeout_nil_after_panic :
    (∀ c, Reachable (callStep (guardedCall .panics)) (fun _ => True) Call.start c →
      c.result = none →
      ∃ ls c', run (callStep (guardedCall .panics)) c ls = some c' ∧ c'.result = some none) ∧
    ∀ (parseDuration : String → Except String Duration) (configs : List SynTestConfig)
      (outcome : Nat → CallOutcome) (a : Routines) (i : Nat), outcome i = .panics →
      a.phase i = .initialising →
      Allowed outcome (.initialise i none) ∧
      ∃ a', step parseDuration configs a (.initialise i none) = some a' ∧ a'.phase i = .testing := by
  refine ⟨fun c hc hr => exists_run_nil_of_panics hc hr, ?_⟩
  intro parseDuration configs outcome a i hpanic hinit
  refine ⟨?_, a.setPhase i .testing, by simp [step, hinit], by simp [Routines.setPhase]⟩
  -- the call that starts with `runFuncWithTimeout` can return `nil`
  obtain ⟨ls, c', hrun, hres⟩ := exists_run_nil_of_panics Relation.ReflTransGen.refl rfl
  simp only [Allowed, hpanic]
  exact ⟨c', reachable_of_run hrun (fun _ _ => trivial) Relation.ReflTransGen.refl, hres⟩

/-! ## Runs started by the routine's own `TestRun`s -/

/-- The moves up to the first run of the routine `0`: it subscribes, `Start` takes the
subscription, the timer ticks, and the plugin connects and initialises. -/
def firstRun : List Label :=
  [.start 0, .broadcast .takeSub, .tick 0, .connect 0 true, .initialise 0 none]

/-- A run started by the routine's own `TestRun`: the routine publishes the `TestRun` of its
test, `Start` takes it and sends it to its subscribers, and the routine receives it and runs
its test again. -/
def selfTriggeredRun : List Label :=
  [.runTest 0 true, .broadcast .takePub, .broadcast (.send 0), .receive 0, .connect 0 true,
    .initialise 0 none]

/-- A single routine, of a test that depends on `*`, after `k` runs started by its own
`TestRun`s: it is in `runTest`, subscribed on channel `0`, and the broadcaster is idle. -/
structure Looping (cfg : SynTestConfig) (k : Nat) (a : Routines) : Prop where
  phase : a.phase 0 = .testing
  chan : a.chan 0 = some 0
  pubCh : a.bc.pubCh = []
  pending : a.bc.pending = []
  buffer : (a.bc.chans 0).buffer = []
  capacity : (a.bc.chans 0).capacity = defaultSynTestSubChannelSize
  subscribed : (a.bc.chans 0).unsubscribed = false
  notWaiting : (a.bc.chans 0).waiting = false
  subs : a.bc.subs.keys = [0]
  triggers : a.triggers = List.replicate k (0, cfg.name)

/-- Runs that stop at no tick and start no other test: the `Initialise` of every plugin
returns `nil`. -/
theorem allowed_initialise_nil (i : Nat) : Allowed (fun _ => .returns none) (.initialise i none) := by
  have hrun : run (callStep (guardedCall (.returns none))) Call.start [.send, .receive] =
      some ⟨true, none, false, none, some none⟩ := rfl
  exact ⟨_, reachable_of_run hrun (fun _ _ => trivial) Relation.ReflTransGen.refl, rfl⟩

section Cascade

variable (parseDuration : String → Except String Duration) {cfg : SynTestConfig}

theorem Looping.run_selfTriggeredRun {k : Nat} {a : Routines} (h : Looping cfg k a)
    (hstar : "*" ∈ cfg.dependsOn) :
    ∃ a', run (step parseDuration [cfg]) a selfTriggeredRun = some a' ∧
      Looping cfg (k + 1) a' := by
  have htrig : triggeredBy (dependantTestMap cfg) cfg.name = true :=
    (triggeredBy_dependantTestMap cfg cfg.name).mpr (.inl hstar)
  simp [selfTriggeredRun, run, step, Broadcaster.step, Routines.setPhase, isStartMove,
    h.phase, h.chan, h.pubCh, h.pending, h.buffer, h.capacity, h.subscribed, h.notWaiting, h.subs,
    defaultSynTestSubChannelSize, broadcasterPublishChannelSize, htrig]
  constructor <;> simp [h.chan, h.subs, h.triggers, List.replicate_succ', defaultSynTestSubChannelSize]

theorem entries_dependantTestMap_ne_nil {t : String} (ht : t ∈ cfg.dependsOn) :
    (dependantTestMap cfg).entries ≠ [] := by
  intro he
  have hget := getD_dependantTestMap cfg t
  rw [decide_eq_true ht, GoMap.getD, AList.lookup, he] at hget
  cases hget

theorem run_firstRun (hstar : "*" ∈ cfg.dependsOn) (hticker : hasTicker parseDuration cfg = true) :
    ∃ a, run (step parseDuration [cfg]) Routines.init firstRun = some a ∧ Looping cfg 0 a := by
  obtain ⟨d, hd, hpos⟩ : ∃ d, parseDuration cfg.«repeat» = .ok d ∧ 0 < d := by
    unfold hasTicker at hticker
    split at hticker
    · exact ⟨_, ‹_›, of_decide_eq_true hticker⟩
    · cases hticker
  have hdeps := entries_dependantTestMap_ne_nil hstar
  simp [firstRun, run, step, Broadcaster.step, Routines.init, Routines.setPhase, Broadcaster.init,
    isStartMove, hd, hdeps, hasTicker, hpos]
  constructor <;> simp [Broadcaster.Chan.empty, defaultSynTestSubChannelSize]

/-- The run lemma of the cascade: after `firstRun` and `k` rounds of `selfTriggeredRun`, the
routine is `Looping` with `k` runs started by its own `TestRun`s. -/
theorem run_cascade (hstar : "*" ∈ cfg.dependsOn) (hticker : hasTicker parseDuration cfg = true)
    (k : Nat) :
    ∃ a, run (step parseDuration [cfg]) Routines.init
      (firstRun ++ (List.replicate k selfTriggeredRun).flatten) = some a ∧ Looping cfg k a := by
  induction k with
  | zero => simpa using run_firstRun parseDuration hstar hticker
  | succ k ih =>
    obtain ⟨a, hrun, ha⟩ := ih
    obtain ⟨a', hrun', ha'⟩ := ha.run_selfTriggeredRun parseDuration hstar
    refine ⟨a', ?_, ha'⟩
    rw [List.replicate_succ', List.flatten_append, ← List.append_assoc, run_append, hrun]
    simpa using hrun'

end Cascade

theorem allowed_of_mem {l : Label} (hl : l ∈ firstRun ∨ l ∈ selfTriggeredRun) :
    Allowed (fun _ => .returns none) l := by
  simp only [firstRun, selfTriggeredRun, List.mem_cons, List.not_mem_nil, or_false] at hl
  rcases hl with (rfl | rfl | rfl | rfl | rfl) | (rfl | rfl | rfl | rfl | rfl | rfl)
  all_goals first | trivial | exact allowed_initialise_nil 0

theorem self_trigger_cascade (parseDuration : String → Except String Duration)
    (cfg : SynTestConfig) (hstar : "*" ∈ cfg.dependsOn)
    (hticker : hasTicker parseDuration cfg = true) (k : Nat) :
    ∃ a, run (step parseDuration [cfg]) Routines.init
        (firstRun ++ (List.replicate k selfTriggeredRun).flatten) = some a ∧
      a.triggers = List.replicate k (0, cfg.name) ∧
      (∀ l ∈ (List.replicate k selfTriggeredRun).flatten, ∀ i, l ≠ .tick i) ∧
      ∀ l ∈ firstRun ++ (List.replicate k selfTriggeredRun).flatten,
        Allowed (fun _ => .returns none) l := by
  have hmem : ∀ l ∈ (List.replicate k selfTriggeredRun).flatten, l ∈ selfTriggeredRun := by
    intro l hl
    obtain ⟨l', hl', hmem⟩ := List.mem_flatten.mp hl
    rwa [List.eq_of_mem_replicate hl'] at hmem
  -- each round of `selfTriggeredRun` adds one run started by the routine's own `TestRun`
  obtain ⟨a, hrun, ha⟩ := run_cascade parseDuration hstar hticker k
  refine ⟨a, hrun, ha.triggers, fun l hl i => ?_, fun l hl => ?_⟩
  · have hl' := hmem l hl
    simp only [selfTriggeredRun, List.mem_cons, List.not_mem_nil, or_false] at hl'
    rcases hl' with rfl | rfl | rfl | rfl | rfl | rfl <;> simp
  · rcases List.mem_append.mp hl with hl | hl
    · exact allowed_of_mem (.inl hl)
    · exact allowed_of_mem (.inr (hmem l hl))

/-- A test that depends on `*`, repeated every minute. -/
def watchAllConfig : SynTestConfig :=
  { name := "dns-check", version := "1", labels := ∅, pluginName := "dns", displayName := "",
    description := "", «namespace» := "default", importance := "", «repeat» := "1m",
    nodeSelector := "", podLabelSelector := ∅, dependsOn := ["*"], timeouts := none,
    pluginRestartPolicy := "", logWaitTime := "", config := "", runtime := ∅ }

/-- `time.ParseDuration` on the one duration the example uses. -/
def parseMinute (s : String) : Except String Duration :=
  if s = "1m" then .ok minute else .error ("time: invalid duration " ++ s)

theorem self_trigger_cascade_dns_check :
    "*" ∈ watchAllConfig.dependsOn ∧ hasTicker parseMinute watchAllConfig = true ∧
    ∃ a, run (step parseMinute [watchAllConfig]) Routines.init
        (firstRun ++ (List.replicate 3 selfTriggeredRun).flatten) = some a ∧
      a.triggers = List.replicate 3 (0, watchAllConfig.name) ∧
      (∀ l ∈ (List.replicate 3 selfTriggeredRun).flatten, ∀ i, l ≠ .tick i) ∧
      ∀ l ∈ firstRun ++ (List.replicate 3 selfTriggeredRun).flatten,
        Allowed (fun _ => .returns none) l := by
  have hstar : "*" ∈ watchAllConfig.dependsOn := by decide
  have hticker : hasTicker parseMinute watchAllConfig = true := by decide
  exact ⟨hstar, hticker, self_trigger_cascade parseMinute watchAllConfig hstar hticker 3⟩

end SyntheticHeart.Routine

import SyntheticHeart.Agent.State
import Mathlib.Tactic.IntervalCases

/-!
# The plugin starter (`StartPlugin`)

`StartPlugin` runs a plugin in a loop: it reads the plugin's state from the state map,
marks it running, blocks in `plugin.Run`, records how the run ended, and either stops
or computes a back-off, waits, and starts the plugin again, until its context is
cancelled. The restart policy decides whether it stops: `never` after any run,
`onError` after a run without error, `always` (and any other string) never.

The goroutine is a program counter (`PluginPc`) between its accesses to shared state,
and `pluginStep` is one access: the loop guard, `GetPluginState`, or one of the four
`SetPluginState` calls. The concurrent agent (`Agent.System`) interleaves these steps
with the sync loop; here a goroutine runs alone (`soloRun`), one loop iteration per
plugin run.

* `restartBackOff` is the back-off, with `time.Duration` a wrapping `Int64`.
  `restartBackOff_of_lt` gives `min(10·2^r s, 5 min)` for `r < 30`, and
  `restartBackOff_thirty` one second at `r = 30`, where `10·2^30 s` in nanoseconds
  overflows.
* `soloIteration_restart` and `soloIteration_stop` give one iteration;
  `soloRun_restarts` and `soloRun_stops` a whole run, by induction on the runs.
-/

namespace SyntheticHeart

/-! ## Restart back-off -/

/-- `time.Duration(x)` for a float64 holding the integer `x ≥ 0`: `x` when it fits an
int64; outside that range the conversion is implementation-defined, and amd64 yields the
minimum int64. -/
def durationOfFloat (x : Nat) : Duration := if x < 2 ^ 63 then Int64.ofNat x else Int64.minValue

/-- The back-off computed in `StartPlugin` for a restart count `restarts`. -/
def restartBackOff (restarts : Int) : Duration :=
  -- `time.Duration(10*math.Pow(2, math.Max(float64(s.Restarts), 0))) * time.Second`
  let b := durationOfFloat (10 * 2 ^ restarts.toNat) * second
  -- max backoff time is 5 minutes
  let b := if b > 5 * minute then 5 * minute else b
  -- a non-positive back-off becomes one second
  if b ≤ 0 then second else b

/-! ## The goroutine -/

/-- The program points of `StartPlugin` between accesses to shared state; the local
copy `s` of the plugin state is carried along. -/
inductive PluginPc
  | loop
  | fetch
  | start (s : PluginState)
  | run (s : PluginState)
  | reset (s : PluginState)
  | backOff (s : PluginState)
  | wait
  | exited
  deriving DecidableEq, Repr

/-- A `StartPlugin` goroutine: its plugin id and restart policy, whether its context is
cancelled, and its program point. -/
structure PluginRoutine where
  pluginId : String
  policy : PluginRestartPolicy
  cancelled : Bool
  pc : PluginPc
  deriving DecidableEq, Repr

/-- What a step reads besides the state map: `time.Now()`, and, at the end of
`plugin.Run`, its result (`some msg` for an error whose text is `msg`). -/
structure PluginInput where
  now : Time
  outcome : Option String
  deriving DecidableEq, Repr

/-- `10*time.Minute`, the run length after which the restart count is reset. -/
def restartResetAge : Int := 600000000000

/-- One step of `StartPlugin` from `r.pc`: the next program point and the state written
to the map, if any. -/
def pluginStep (r : PluginRoutine) (sm : StateMap) (i : PluginInput) : PluginPc × Option PluginState :=
  match r.pc with
  | .loop => (if r.cancelled then .exited else .fetch, none)
  | .fetch =>
    match sm.getPluginState r.pluginId with
    | .error _ => (.exited, none)
    | .ok s => (.start s, none)
  | .start s =>
    let s := { s with
      status := .running
      restarts := s.restarts + 1
      totalRestarts := s.totalRestarts + 1
      statusMsg := "plugin started"
      restartBackOff := none
      runningSince := i.now }
    (.run s, some s)
  | .run s =>
    match i.outcome with
    | some err =>
      if r.policy = .never then (.exited, some { s with statusMsg := err, status := .error })
      else (.reset { s with statusMsg := err, status := .restarting },
        some { s with statusMsg := err, status := .restarting })
    | none =>
      let s := { s with statusMsg := "plugin exited with no error" }
      if r.policy = .never ∨ r.policy = .onError then (.exited, some { s with status := .notRunning })
      else (.reset { s with status := .restarting }, some { s with status := .restarting })
  | .reset s =>
    if i.now - s.runningSince > restartResetAge then (.backOff { s with restarts := 0 }, some { s with restarts := 0 })
    else (.backOff s, none)
  | .backOff s =>
    let s := { s with restartBackOff := some (restartBackOff s.restarts) }
    (.wait, some s)
  | .wait => (.loop, none)
  | .exited => (.exited, none)

/-- A step applied: the goroutine at its next point, and the map after its write. -/
def PluginRoutine.step (r : PluginRoutine) (sm : StateMap) (i : PluginInput) : PluginRoutine × StateMap :=
  let (pc, w) := pluginStep r sm i
  ({ r with pc := pc }, match w with
    | some s => sm.setPluginState r.pluginId s
    | none => sm)

/-- `StartPlugin(ctx, pluginId, _, _, restartPolicy, sm)` at its first step; an empty
policy means `always`. -/
def startPlugin (pluginId : String) (restartPolicy : PluginRestartPolicy) : PluginRoutine :=
  { pluginId := pluginId
    policy := if restartPolicy = .other "" then .always else restartPolicy
    cancelled := false
    pc := .loop }

/-- The policy `StartTestRoutine` passes on: one of the three named policies, any other
string replaced by the default. -/
def parseRestartPolicy (s : String) : PluginRestartPolicy :=
  match PluginRestartPolicy.ofString s with
  | .other _ => defaultRestartPolicy
  | p => p

/-- The zero `time.Time`; it is overwritten at the first start, before any read. -/
def zeroTime : Time := 0

/-- The state `StartTestRoutine` stores before the goroutine starts. -/
def initialPluginState : PluginState :=
  { status := .statusUnknown, statusMsg := "", restarts := -1, restartBackOff := none,
    totalRestarts := -1, runningSince := zeroTime }

/-! ## A goroutine running alone -/

/-- One plugin run as the goroutine sees it: the clock when it starts the plugin, the
result of `plugin.Run`, and the clock when that returns. -/
structure RunReport where
  startedAt : Time
  outcome : Option String
  endedAt : Time
  deriving DecidableEq, Repr

/-- Steps applied in order. -/
def runSteps : PluginRoutine → StateMap → List PluginInput → PluginRoutine × StateMap
  | r, sm, [] => (r, sm)
  | r, sm, i :: is => let (r', sm') := r.step sm i; runSteps r' sm' is

/-- One iteration of the loop of a goroutine whose context is never cancelled: the seven
steps from the loop guard back to it, around one plugin run. -/
def soloIteration (r : PluginRoutine) (sm : StateMap) (rep : RunReport) : PluginRoutine × StateMap :=
  let a : PluginInput := ⟨rep.startedAt, none⟩
  let b : PluginInput := ⟨rep.endedAt, rep.outcome⟩
  runSteps r sm [a, a, a, b, b, b, b]

/-- The goroutine alone over a sequence of plugin runs. -/
def soloRun : PluginRoutine → StateMap → List RunReport → PluginRoutine × StateMap
  | r, sm, [] => (r, sm)
  | r, sm, rep :: reps => let (r', sm') := soloIteration r sm rep; soloRun r' sm' reps

/-- Whether `StartPlugin` starts the plugin again after a run with this result. -/
def restartsAfter (policy : PluginRestartPolicy) (outcome : Option String) : Bool :=
  match outcome with
  | some _ => policy ≠ .never
  | none => policy ≠ .never ∧ policy ≠ .onError

end SyntheticHeart

namespace SyntheticHeart

/-! ## The back-off -/

/-- Below thirty restarts the back-off is `min(10·2^r s, 5 min)`. -/
theorem restartBackOff_of_lt (r : Nat) (h : r < 30) :
    restartBackOff r = Int64.ofNat (min (10 * 2 ^ r) 300 * 1000000000) := by
  interval_cases r <;> decide

/-- At thirty restarts `10·2^30·10^9` wraps to a negative int64, and the back-off is
one second. -/
theorem restartBackOff_thirty : restartBackOff 30 = second := by decide

/-! ## One iteration -/

section Iteration

variable {r : PluginRoutine} {sm : StateMap} {s : PluginState} {rep : RunReport}

theorem restartsAfter_iff (policy : PluginRestartPolicy) (outcome : Option String) :
    restartsAfter policy outcome = true ↔
      (outcome.isSome ∧ policy ≠ .never) ∨ (outcome = none ∧ policy ≠ .never ∧ policy ≠ .onError) := by
  cases outcome <;> simp [restartsAfter]

/-- An iteration whose run calls for a restart comes back to the loop guard, having
written a restarting state one start further on, whose restart count is reset after a
run of more than ten minutes, and whose back-off is computed from that count. -/
theorem soloIteration_restart (hpc : r.pc = .loop) (hc : r.cancelled = false)
    (hs : sm.lookup r.pluginId = some s) (hr : restartsAfter r.policy rep.outcome = true) :
    ∃ s', soloIteration r sm rep = ({ r with pc := .loop }, sm.setPluginState r.pluginId s') ∧
      s'.status = .restarting ∧ s'.totalRestarts = s.totalRestarts + 1 ∧
      s'.restarts = (if rep.endedAt - rep.startedAt > restartResetAge then 0 else s.restarts + 1) ∧
      s'.restartBackOff = some (restartBackOff s'.restarts) := by
  obtain ⟨id, policy, cancelled, pc⟩ := r
  simp only at hpc hc hs hr
  subst hpc hc
  rcases hout : rep.outcome with _ | err <;> rw [hout] at hr <;>
    simp only [restartsAfter, ne_eq, decide_eq_true_eq] at hr
  · -- a run without error: the policy is `always` or another string
    obtain ⟨hn, ho⟩ := hr
    simp only [soloIteration, runSteps, PluginRoutine.step, pluginStep, StateMap.getPluginState, hs,
      hout, hn, ho, or_self, if_false, Bool.false_eq_true]
    split_ifs <;> simp only [StateMap.setPluginState_setPluginState] <;>
      exact ⟨_, rfl, rfl, rfl, by simp_all, rfl⟩
  · -- a run with an error: the policy is not `never`
    simp only [soloIteration, runSteps, PluginRoutine.step, pluginStep, StateMap.getPluginState, hs,
      hout, hr, if_false, Bool.false_eq_true]
    split_ifs <;> simp only [StateMap.setPluginState_setPluginState] <;>
      exact ⟨_, rfl, rfl, rfl, by simp_all, rfl⟩

/-- An iteration whose run does not call for a restart ends the goroutine, having written
an error state after an error and a not-running state otherwise. -/
theorem soloIteration_stop (hpc : r.pc = .loop) (hc : r.cancelled = false)
    (hs : sm.lookup r.pluginId = some s) (hr : restartsAfter r.policy rep.outcome = false) :
    ∃ s', soloIteration r sm rep = ({ r with pc := .exited }, sm.setPluginState r.pluginId s') ∧
      s'.status = (if rep.outcome.isSome then .error else .notRunning) ∧
      s'.totalRestarts = s.totalRestarts + 1 := by
  obtain ⟨id, policy, cancelled, pc⟩ := r
  simp only at hpc hc hs hr
  subst hpc hc
  rcases hout : rep.outcome with _ | err <;> rw [hout] at hr <;>
    simp only [restartsAfter, ne_eq, decide_eq_false_iff_not, not_and_or, not_not] at hr
  · -- a run without error under `never` or `onError`
    have hno : policy = .never ∨ policy = .onError := by
      rcases hr with hr | hr
      · exact Or.inl hr
      · exact Or.inr hr
    simp only [soloIteration, runSteps, PluginRoutine.step, pluginStep, StateMap.getPluginState, hs,
      hout, hno, if_true, Bool.false_eq_true, if_false, StateMap.setPluginState_setPluginState]
    exact ⟨_, rfl, rfl, rfl⟩
  · -- a run with an error under `never`
    simp only [soloIteration, runSteps, PluginRoutine.step, pluginStep, StateMap.getPluginState, hs,
      hout, hr, if_true, Bool.false_eq_true, if_false, StateMap.setPluginState_setPluginState]
    exact ⟨_, rfl, rfl, rfl⟩

theorem soloIteration_exited (hpc : r.pc = .exited) (rep : RunReport) :
    soloIteration r sm rep = (r, sm) := by
  obtain ⟨id, policy, cancelled, pc⟩ := r
  simp only at hpc
  subst hpc
  simp [soloIteration, runSteps, PluginRoutine.step, pluginStep]

end Iteration

/-! ## Whole runs -/

theorem soloRun_exited {r : PluginRoutine} (hpc : r.pc = .exited) :
    ∀ (sm : StateMap) (reps : List RunReport), soloRun r sm reps = (r, sm)
  | _, [] => rfl
  | sm, rep :: reps => by
    simp only [soloRun, soloIteration_exited hpc]
    exact soloRun_exited hpc sm reps

/-- While every run calls for a restart the goroutine keeps coming back to the loop
guard, and the stored state counts one more start per run; while the runs are short, the
restart count grows by one per run too, and the back-off is computed from it. -/
theorem soloRun_restarts : ∀ (reps : List RunReport) (r : PluginRoutine) (sm : StateMap) (s : PluginState),
    r.pc = .loop → r.cancelled = false → sm.lookup r.pluginId = some s →
    (∀ rep ∈ reps, restartsAfter r.policy rep.outcome = true) →
    (soloRun r sm reps).1 = r ∧ ∃ s', (soloRun r sm reps).2.lookup r.pluginId = some s' ∧
      s'.totalRestarts = s.totalRestarts + reps.length ∧
      (reps ≠ [] → s'.status = .restarting ∧ s'.restartBackOff = some (restartBackOff s'.restarts)) ∧
      ((∀ rep ∈ reps, rep.endedAt - rep.startedAt ≤ restartResetAge) →
        s'.restarts = s.restarts + reps.length)
  | [], r, sm, s, _, _, hs, _ => ⟨rfl, s, hs, by simp, by simp, by simp⟩
  | rep :: reps, r, sm, s, hpc, hc, hs, hall => by
    obtain ⟨s₁, hit, hst, htot, hres, hback⟩ :=
      soloIteration_restart hpc hc hs (hall rep List.mem_cons_self)
    have hr : { r with pc := .loop } = r := by
      obtain ⟨id, policy, cancelled, pc⟩ := r
      simp only at hpc
      rw [hpc]
    rw [hr] at hit
    have hs₁ : (sm.setPluginState r.pluginId s₁).lookup r.pluginId = some s₁ := by simp
    obtain ⟨h₁, s₂, hs₂, htot₂, hlast₂, hres₂⟩ := soloRun_restarts reps r _ s₁ hpc hc hs₁
      (fun x hx => hall x (List.mem_cons_of_mem _ hx))
    simp only [soloRun, hit]
    refine ⟨h₁, s₂, hs₂, by rw [htot₂, htot]; simp; omega, fun _ => ?_, fun hshort => ?_⟩
    · -- the last run sets the status, unless it is the first of the remaining ones
      rcases reps with _ | ⟨x, xs⟩
      · simp only [soloRun, StateMap.lookup_setPluginState, Option.some.injEq] at hs₂
        rw [← hs₂]
        exact ⟨hst, hback⟩
      · exact hlast₂ (List.cons_ne_nil _ _)
    · have hshort₁ : ¬ rep.endedAt - rep.startedAt > restartResetAge :=
        not_lt.mpr (hshort rep List.mem_cons_self)
      rw [hres₂ (fun x hx => hshort x (List.mem_cons_of_mem _ hx)), hres, if_neg hshort₁]
      simp
      omega

/-- The first run that does not call for a restart ends the goroutine; the stored state
then counts one start per run up to it and says how that run ended. -/
theorem soloRun_stops (rep : RunReport) (post : List RunReport) :
    ∀ (pre : List RunReport) (r : PluginRoutine) (sm : StateMap) (s : PluginState),
    r.pc = .loop → r.cancelled = false → sm.lookup r.pluginId = some s →
    (∀ x ∈ pre, restartsAfter r.policy x.outcome = true) → restartsAfter r.policy rep.outcome = false →
    (soloRun r sm (pre ++ rep :: post)).1 = { r with pc := .exited } ∧
    ∃ s', (soloRun r sm (pre ++ rep :: post)).2.lookup r.pluginId = some s' ∧
      s'.totalRestarts = s.totalRestarts + pre.length + 1 ∧
      s'.status = if rep.outcome.isSome then .error else .notRunning
  | [], r, sm, s, hpc, hc, hs, _, hstop => by
    obtain ⟨s₁, hit, hst, htot⟩ := soloIteration_stop hpc hc hs hstop
    simp only [List.nil_append, soloRun, hit]
    rw [soloRun_exited rfl]
    exact ⟨rfl, s₁, by simp, by simp [htot], hst⟩
  | x :: pre, r, sm, s, hpc, hc, hs, hall, hstop => by
    obtain ⟨s₁, hit, -, htot, -⟩ := soloIteration_restart hpc hc hs (hall x List.mem_cons_self)
    have hr : { r with pc := .loop } = r := by
      obtain ⟨id, policy, cancelled, pc⟩ := r
      simp only at hpc
      rw [hpc]
    rw [hr] at hit
    have hs₁ : (sm.setPluginState r.pluginId s₁).lookup r.pluginId = some s₁ := by simp
    obtain ⟨h₁, s₂, hs₂, htot₂, hst₂⟩ := soloRun_stops rep post pre r _ s₁ hpc hc hs₁
      (fun y hy => hall y (List.mem_cons_of_mem _ hy)) hstop
    simp only [List.cons_append, soloRun, hit]
    refine ⟨h₁, s₂, hs₂, by rw [htot₂, htot]; simp; omega, hst₂⟩

/-- `StartTestRoutine` passes on `never` and `onError` as they are, and every other string,
`always` included, as the default `always`. -/
theorem parseRestartPolicy_eq (policy : String) :
    parseRestartPolicy policy =
      if policy = "never" then .never else if policy = "onError" then .onError else .always := by
  unfold parseRestartPolicy PluginRestartPolicy.ofString defaultRestartPolicy
  split_ifs <;> simp_all

/-- The goroutine decides a restart under the policy it keeps as under the policy it was
given: an empty policy is kept as `always`, and any other string restarts as `always` does. -/
theorem restartsAfter_startPlugin (pluginId : String) (p : PluginRestartPolicy)
    (outcome : Option String) :
    restartsAfter (startPlugin pluginId p).policy outcome = true ↔
      p ≠ .never ∧ (p ≠ .onError ∨ outcome.isSome) := by
  rcases p with _ | _ | _ | s <;> cases outcome <;> simp only [startPlugin, restartsAfter] <;>
    split_ifs <;> simp_all

/-- Under every policy, the goroutine starts the plugin again after a run iff the policy is
not `never`, and not `onError` after a clean run; it ends with an error state iff it stops
after a failed run under `never`, with a not-running state iff it stops after a clean run
under `never` or `onError`; and after the `k`-th start the total restart count is `k - 1`. -/
theorem startPlugin_restart_policy (p : PluginRestartPolicy) (pluginId : String) (sm : StateMap)
    (reps : List RunReport) :
    let res := soloRun (startPlugin pluginId p) (sm.setPluginState pluginId initialPluginState) reps
    ((∀ rep ∈ reps, p ≠ .never ∧ (p ≠ .onError ∨ rep.outcome.isSome)) →
      res.1.pc = .loop ∧ ∃ s, res.2.lookup pluginId = some s ∧
        s.totalRestarts = reps.length - 1 ∧ (reps ≠ [] → s.status = .restarting)) ∧
    (∀ pre rep post, reps = pre ++ rep :: post →
      (∀ x ∈ pre, p ≠ .never ∧ (p ≠ .onError ∨ x.outcome.isSome)) →
      ¬ (p ≠ .never ∧ (p ≠ .onError ∨ rep.outcome.isSome)) →
      res.1.pc = .exited ∧ ∃ s, res.2.lookup pluginId = some s ∧ s.totalRestarts = pre.length ∧
        (s.status = .error ↔ rep.outcome.isSome ∧ p = .never) ∧
        (s.status = .notRunning ↔ rep.outcome = none ∧ (p = .never ∨ p = .onError))) := by
  intro res
  have hafter := restartsAfter_startPlugin pluginId p
  have hs : (sm.setPluginState pluginId initialPluginState).lookup pluginId =
      some initialPluginState := by
    simp
  refine ⟨fun hall => ?_, fun pre rep post hreps hpre hstop => ?_⟩
  · obtain ⟨h₁, s, hs', htot, hst, -⟩ := soloRun_restarts reps (startPlugin pluginId p) _ _ rfl rfl hs
      (fun rep hrep => (hafter _).mpr (hall rep hrep))
    refine ⟨by rw [h₁]; rfl, s, hs', ?_, fun h => (hst h).1⟩
    rw [htot]
    simp [initialPluginState]
    omega
  · have hstop' : restartsAfter (startPlugin pluginId p).policy rep.outcome = false := by
      simpa [← hafter] using hstop
    obtain ⟨h₁, s, hs', htot, hst⟩ := soloRun_stops rep post pre (startPlugin pluginId p) _ _ rfl rfl hs
      (fun x hx => (hafter _).mpr (hpre x hx)) hstop'
    simp only [res, hreps]
    refine ⟨by rw [h₁], s, hs', by rw [htot]; simp [initialPluginState], ?_⟩
    -- the status says how the last run ended; the policy is then the one that stopped it
    rw [hst]
    cases ho : rep.outcome <;> by_cases hn : p = .never <;> simp_all

end SyntheticHeart

namespace SyntheticHeart

/-- Thirty-one runs that each fail within ten minutes, under the default policy: the
restart count reaches thirty and the goroutine stores a back-off of one second before the
thirty-second start, where `min(10·2^30 s, 5 min)` is five minutes. -/
theorem startPlugin_backOff_after_thirty_one_failures (pluginId : String) (sm : StateMap) (t : Time) :
    ∃ s, (soloRun (startPlugin pluginId defaultRestartPolicy)
        (sm.setPluginState pluginId initialPluginState)
        (List.replicate 31 ⟨t, some "exit status 1", t⟩)).2.lookup pluginId = some s ∧
      s.restarts = 30 ∧ s.restartBackOff = some second ∧
      second ≠ Int64.ofNat (min (10 * 2 ^ 30) 300 * 1000000000) := by
  have hs : (sm.setPluginState pluginId initialPluginState).lookup pluginId = some initialPluginState := by
    simp
  obtain ⟨-, s, hs', -, hlast, hshort⟩ := soloRun_restarts (List.replicate 31 ⟨t, some "exit status 1", t⟩)
    (startPlugin pluginId defaultRestartPolicy) _ _ rfl rfl hs
    (fun rep hrep => by
      rw [List.eq_of_mem_replicate hrep]
      simp [restartsAfter, startPlugin, defaultRestartPolicy])
  have hres : s.restarts = 30 := by
    rw [hshort (fun rep hrep => by rw [List.eq_of_mem_replicate hrep]; simp [restartResetAge])]
    simp [initialPluginState]
  refine ⟨s, hs', hres, ?_, by decide⟩
  rw [(hlast (by simp)).2, hres]
  exact congrArg some restartBackOff_thirty

end SyntheticHeart

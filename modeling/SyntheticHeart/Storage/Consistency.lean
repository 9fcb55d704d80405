import SyntheticHeart.RestApi.Handlers
import SyntheticHeart.Transition.System

/-!
# Concurrent calls of the store on one plugin id

The methods of `RedisSynHeartStore` write the data of one plugin id over several keys, and
the readers rely on those keys agreeing: the UI lists the pass ratios of `all/testRunStatus`
and opens `<id>/latestRun` behind each. `RunSlot.Consistent` says what the run data of one id
should hold: the ratio is the latest run's; the last failed run failed, and there is a latest
run beside it; and a latest run that failed is the last failed run.

Each method sends its Redis commands one after the other (`writeTestRunCmds`,
`deleteAllTestRunInfoCmds`), and stops at the first error (`WriteTestRun`) or logs it and
goes on (`DeleteAllTestRunInfo`); the commands of one call, all run, do what the method of
`Storage.Redis` does (`foldl_writeTestRunCmds`, `foldl_deleteAllTestRunInfoCmds`). Redis runs
the commands of different goroutines in any order between them: the agent's test-run
exporter calls `WriteTestRun` for the runs in its channel while the sync loop, in
`StopAndDeleteSynTest`, or the controller's cleanup of stale plugins calls
`DeleteAllTestRunInfo` for the same plugin id. `Calls` is Redis with the calls in progress,
and `callsStep` one command of one goroutine, which Redis runs or which returns an error.

* `writeTestRun_deleteAllTestRunInfo_interleaved`: the two calls one after the other, in
  either order, keep the run data of every id consistent; interleaved, with every command
  run, they can leave a pass ratio whose latest run is gone, so that `GetTestRun` answers
  `404` for an id the UI lists.
* `writeTestRun_hset_error`: a `WriteTestRun` whose `HSET` returns an error before Redis runs
  it leaves the new latest run beside the ratio of the run before.
-/

namespace SyntheticHeart

open GoMap

/-- The pass ratio `WriteTestRun` stores for a run. -/
def TestRun.passRatio (t : TestRun) : String :=
  formatRatio t.testResult.marks.toNat t.testResult.maxMarks.toNat

/-- A run whose pass ratio is below one, which `WriteTestRun` keeps as the last failed run. -/
def TestRun.Failed (t : TestRun) : Prop :=
  t.testResult.marks.toNat < t.testResult.maxMarks.toNat

instance (t : TestRun) : Decidable t.Failed :=
  inferInstanceAs (Decidable (t.testResult.marks.toNat < t.testResult.maxMarks.toNat))

/-! ## The keys of one id -/

/-- The run data of one plugin id: its field of `all/testRunStatus`, its `latestRun` and its
`lastFailedRun`. -/
structure RunSlot where
  status : Option String
  latest : Option TestRun
  lastFailed : Option TestRun

/-- The run data of a plugin agree. -/
structure RunSlot.Consistent (s : RunSlot) : Prop where
  status : s.status = s.latest.map TestRun.passRatio
  lastFailed : ∀ t, s.lastFailed = some t → t.Failed ∧ s.latest.isSome
  latestFailed : ∀ t, s.latest = some t → t.Failed → s.lastFailed = some t

/-- What `WriteTestRun` leaves in the run data of its plugin. -/
def RunSlot.write (s : RunSlot) (t : TestRun) : RunSlot :=
  ⟨some t.passRatio, some t, if t.Failed then some t else s.lastFailed⟩

/-- The run data of a plugin without any run. -/
def RunSlot.empty : RunSlot := ⟨none, none, none⟩

section Slots

theorem RunSlot.Consistent.write {s : RunSlot} (h : s.Consistent) (t : TestRun) : (s.write t).Consistent where
  status := rfl
  lastFailed t' ht' := by
    simp only [RunSlot.write] at ht' ⊢
    split_ifs at ht' with hf
    · cases ht'
      exact ⟨hf, rfl⟩
    · exact ⟨(h.lastFailed t' ht').1, rfl⟩
  latestFailed t' ht' hf := by
    simp only [RunSlot.write, Option.some.injEq] at ht' ⊢
    subst ht'
    rw [if_pos hf]

theorem RunSlot.consistent_empty : RunSlot.empty.Consistent where
  status := rfl
  lastFailed _ h := by cases h
  latestFailed _ h := by cases h

end Slots

namespace Redis

variable (r : Redis)

/-- The run data of the plugin `p`. -/
def runSlot (p : String) : RunSlot :=
  ⟨r.testRunStatus.lookup p, r.latestRun.lookup p, r.lastFailedRun.lookup p⟩

/-! ## What each method does to the keys of an id -/

theorem writeTestRun_eq (p : String) (t : TestRun) :
    r.writeTestRun p t =
      { r with
        latestRun := r.latestRun.insert p t
        testRunStatus := r.testRunStatus.insert p t.passRatio
        lastFailedRun := if t.Failed then r.lastFailedRun.insert p t else r.lastFailedRun } := by
  unfold writeTestRun updateTestRunStatus TestRun.Failed TestRun.passRatio
  by_cases hf : t.testResult.marks.toNat < t.testResult.maxMarks.toNat <;> simp only [hf, ↓reduceIte]

theorem runSlot_writeTestRun (p q : String) (t : TestRun) :
    (r.writeTestRun p t).runSlot q = if q = p then (r.runSlot q).write t else r.runSlot q := by
  rw [writeTestRun_eq]
  by_cases hq : q = p
  · subst hq
    rw [if_pos rfl]
    by_cases hf : t.Failed <;> simp [runSlot, RunSlot.write, hf]
  · rw [if_neg hq]
    by_cases hf : t.Failed <;> simp [runSlot, hf, AList.lookup_insert_ne hq]

theorem runSlot_deleteAllTestRunInfo (p q : String) :
    (r.deleteAllTestRunInfo p).runSlot q = if q = p then .empty else r.runSlot q := by
  split_ifs with hq
  · subst hq
    simp [runSlot, deleteAllTestRunInfo, RunSlot.empty]
  · simp [runSlot, deleteAllTestRunInfo, AList.lookup_erase_ne hq]

/-- Every id whose run data agree keeps them through `WriteTestRun`. -/
theorem consistent_writeTestRun {r : Redis} (h : ∀ q, (r.runSlot q).Consistent) (p : String)
    (t : TestRun) : ∀ q, ((r.writeTestRun p t).runSlot q).Consistent := by
  intro q
  rw [runSlot_writeTestRun]
  split_ifs
  · exact (h q).write t
  · exact h q

/-- Every id whose run data agree keeps them through `DeleteAllTestRunInfo`. -/
theorem consistent_deleteAllTestRunInfo {r : Redis} (h : ∀ q, (r.runSlot q).Consistent)
    (p : String) : ∀ q, ((r.deleteAllTestRunInfo p).runSlot q).Consistent := by
  intro q
  rw [runSlot_deleteAllTestRunInfo]
  split_ifs
  · exact RunSlot.consistent_empty
  · exact h q

end Redis

/-! ## The commands of the two methods -/

/-- `SynTestChannel`, on which `WriteTestRun` announces a run. -/
def synTestChannel : String := "syntests"

/-- The Redis commands that `WriteTestRun` and `DeleteAllTestRunInfo` send, each on one key or
hash field of the plugin id. -/
inductive Cmd
  | setLatestRun (pluginId : String) (testRun : TestRun)
  | hsetTestRunStatus (pluginId ratio : String)
  | setLastFailedRun (pluginId : String) (testRun : TestRun)
  | publish (channel message : String)
  | hdelTestRunStatus (pluginId : String)
  | hdelPluginStatus (pluginId : String)
  | delLatestRun (pluginId : String)
  | delLastFailedRun (pluginId : String)
  | delLatestHealth (pluginId : String)
  | delLastUnhealthy (pluginId : String)

/-- What Redis does on a command; a `PUBLISH` leaves the keyspace as it is. -/
def Cmd.apply (r : Redis) : Cmd → Redis
  | .setLatestRun p t => { r with latestRun := r.latestRun.insert p t }
  | .hsetTestRunStatus p ratio => r.updateTestRunStatus p ratio
  | .setLastFailedRun p t => { r with lastFailedRun := r.lastFailedRun.insert p t }
  | .publish _ _ => r
  | .hdelTestRunStatus p => { r with testRunStatus := r.testRunStatus.erase p }
  | .hdelPluginStatus p => { r with pluginStatus := r.pluginStatus.erase p }
  | .delLatestRun p => { r with latestRun := r.latestRun.erase p }
  | .delLastFailedRun p => { r with lastFailedRun := r.lastFailedRun.erase p }
  | .delLatestHealth p => { r with latestHealth := r.latestHealth.erase p }
  | .delLastUnhealthy p => { r with lastUnhealthy := r.lastUnhealthy.erase p }

/-- The commands of `WriteTestRun`: `SET` of the latest run, `HSET` of its ratio, `SET` of the
last failed run when the ratio is below one, and `PUBLISH` of the plugin id. -/
def writeTestRunCmds (pluginId : String) (testRun : TestRun) : List Cmd :=
  let marks := testRun.testResult.marks.toNat
  let maxMarks := testRun.testResult.maxMarks.toNat
  [.setLatestRun pluginId testRun, .hsetTestRunStatus pluginId (formatRatio marks maxMarks)] ++
    (if marks < maxMarks then [.setLastFailedRun pluginId testRun] else []) ++
    [.publish synTestChannel ("new run: " ++ pluginId)]

/-- The commands of `DeleteAllTestRunInfo`: two `HDEL`s and four `DEL`s. -/
def deleteAllTestRunInfoCmds (pluginId : String) : List Cmd :=
  [.hdelTestRunStatus pluginId, .hdelPluginStatus pluginId, .delLatestRun pluginId,
    .delLastFailedRun pluginId, .delLatestHealth pluginId, .delLastUnhealthy pluginId]

/-- The commands of `WriteTestRun`, all run, do what the method does. -/
theorem foldl_writeTestRunCmds (r : Redis) (p : String) (t : TestRun) :
    (writeTestRunCmds p t).foldl Cmd.apply r = r.writeTestRun p t := by
  unfold writeTestRunCmds Redis.writeTestRun
  by_cases hf : t.testResult.marks.toNat < t.testResult.maxMarks.toNat <;>
    simp only [hf, ↓reduceIte] <;> rfl

/-- The commands of `DeleteAllTestRunInfo`, all run, do what the method does. -/
theorem foldl_deleteAllTestRunInfoCmds (r : Redis) (p : String) :
    (deleteAllTestRunInfoCmds p).foldl Cmd.apply r = r.deleteAllTestRunInfo p :=
  rfl

/-! ## Goroutines sending commands -/

/-- What a goroutine gets back for a command: Redis ran it, or the call returned an error
(after the retries of `SetR` and the others gave up), which Redis may have run before or
not. -/
inductive Reply
  | ok
  | errorAfterRun
  | errorBeforeRun
  deriving DecidableEq, Repr

/-- How a method goes on after an error: `WriteTestRun` returns it, and
`DeleteAllTestRunInfo` logs it and sends its next command. -/
inductive OnError
  | stop
  | skip
  deriving DecidableEq, Repr

/-- A call in progress: the commands it has still to send. -/
structure Call where
  cmds : List Cmd
  onError : OnError

/-- `WriteTestRun(ctx, pluginId, testRun)` before its first command. -/
def Call.writeTestRun (pluginId : String) (testRun : TestRun) : Call :=
  ⟨writeTestRunCmds pluginId testRun, .stop⟩

/-- `DeleteAllTestRunInfo(ctx, pluginId)` before its first command. -/
def Call.deleteAllTestRunInfo (pluginId : String) : Call :=
  ⟨deleteAllTestRunInfoCmds pluginId, .skip⟩

/-- Redis and the call each goroutine has in progress. -/
structure Calls where
  redis : Redis
  calls : List Call

/-- The goroutine `i` sends its next command and gets `reply`. -/
def callsStep (s : Calls) : Nat × Reply → Option Calls
  | (i, reply) =>
    match s.calls[i]? with
    | some ⟨cmd :: rest, onError⟩ =>
      let redis := if reply = .errorBeforeRun then s.redis else cmd.apply s.redis
      let rest := if reply = .ok ∨ onError = .skip then rest else []
      some ⟨redis, s.calls.set i ⟨rest, onError⟩⟩
    | _ => none

/-- The goroutine `i` sends every command it has left, each of them run. -/
def runsAll (i : Nat) (cmds : List Cmd) : List (Nat × Reply) :=
  cmds.map fun _ => (i, .ok)

/-- The run lemma of one goroutine alone: its commands, all run, are applied in order. -/
theorem run_runsAll {i : Nat} {onError : OnError} :
    ∀ (cmds : List Cmd) (s : Calls), s.calls[i]? = some ⟨cmds, onError⟩ →
      Transition.run callsStep s (runsAll i cmds) =
        some ⟨cmds.foldl Cmd.apply s.redis, s.calls.set i ⟨[], onError⟩⟩
  | [], s, hi => by
    have hset : s.calls.set i ⟨[], onError⟩ = s.calls := by
      obtain ⟨hlt, hget⟩ := List.getElem?_eq_some_iff.mp hi
      rw [← hget, List.set_getElem_self hlt]
    simp [runsAll, Transition.run, hset]
  | cmd :: rest, s, hi => by
    have hlt : i < s.calls.length := (List.getElem?_eq_some_iff.mp hi).1
    have hstep : callsStep s (i, .ok) = some ⟨cmd.apply s.redis, s.calls.set i ⟨rest, onError⟩⟩ := by
      simp [callsStep, hi]
    have hi' : (s.calls.set i ⟨rest, onError⟩)[i]? = some ⟨rest, onError⟩ := by
      simp [List.getElem?_set_self hlt]
    have ih := run_runsAll rest ⟨cmd.apply s.redis, s.calls.set i ⟨rest, onError⟩⟩ hi'
    simp only [runsAll, List.map_cons, Transition.run, hstep, Option.bind_some] at ih ⊢
    simpa [List.set_set] using ih

/-- Two goroutines one after the other, each sending all its commands. -/
theorem run_runsAll_append {s : Calls} {i j : Nat} {cmdsI cmdsJ : List Cmd} {onErrorI onErrorJ : OnError}
    (hij : i ≠ j) (hi : s.calls[i]? = some ⟨cmdsI, onErrorI⟩) (hj : s.calls[j]? = some ⟨cmdsJ, onErrorJ⟩) :
    Transition.run callsStep s (runsAll i cmdsI ++ runsAll j cmdsJ) =
      some ⟨cmdsJ.foldl Cmd.apply (cmdsI.foldl Cmd.apply s.redis),
        (s.calls.set i ⟨[], onErrorI⟩).set j ⟨[], onErrorJ⟩⟩ := by
  have hj' : (s.calls.set i ⟨[], onErrorI⟩)[j]? = some ⟨cmdsJ, onErrorJ⟩ := by
    rw [List.getElem?_set_ne hij, hj]
  rw [Transition.run_append, run_runsAll cmdsI s hi, Option.bind_some]
  exact run_runsAll cmdsJ _ hj'

/-- `WriteTestRun` begins with the `SET` of the latest run. -/
theorem writeTestRunCmds_eq_cons (p : String) (t : TestRun) :
    writeTestRunCmds p t = .setLatestRun p t :: (writeTestRunCmds p t).tail :=
  rfl

/-- The commands of `WriteTestRun` after its `SET`, all run, do what the method does to every
key but the latest run. -/
theorem foldl_tail_writeTestRunCmds (r : Redis) (p : String) (t : TestRun) :
    (writeTestRunCmds p t).tail.foldl Cmd.apply r = { r.writeTestRun p t with latestRun := r.latestRun } := by
  unfold writeTestRunCmds Redis.writeTestRun
  by_cases hf : t.testResult.marks.toNat < t.testResult.maxMarks.toNat <;>
    simp only [hf, ↓reduceIte] <;> rfl

/-- The exporter in `WriteTestRun` and the sync loop in `DeleteAllTestRunInfo`, for one
plugin id. -/
def writeAndDelete (r : Redis) (p : String) (t : TestRun) : Calls :=
  ⟨r, [Call.writeTestRun p t, Call.deleteAllTestRunInfo p]⟩

/-- The `SET` of the latest run, then the whole deletion, then the rest of `WriteTestRun`. -/
def setThenDelete (p : String) (t : TestRun) : List (Nat × Reply) :=
  (0, .ok) :: (runsAll 1 (deleteAllTestRunInfoCmds p) ++ runsAll 0 (writeTestRunCmds p t).tail)

theorem writeTestRun_deleteAllTestRunInfo_interleaved (r : Redis) (p : String) (t : TestRun) :
    ((∀ q, (r.runSlot q).Consistent) →
      (∃ s, Transition.run callsStep (writeAndDelete r p t)
          (runsAll 0 (writeTestRunCmds p t) ++ runsAll 1 (deleteAllTestRunInfoCmds p)) = some s ∧
        ∀ q, (s.redis.runSlot q).Consistent) ∧
      ∃ s, Transition.run callsStep (writeAndDelete r p t)
          (runsAll 1 (deleteAllTestRunInfoCmds p) ++ runsAll 0 (writeTestRunCmds p t)) = some s ∧
        ∀ q, (s.redis.runSlot q).Consistent) ∧
    ∃ s, Transition.run callsStep (writeAndDelete r p t) (setThenDelete p t) = some s ∧
      (∀ c ∈ s.calls, c.cmds = []) ∧
      s.redis.testRunStatus.lookup p = some t.passRatio ∧ s.redis.latestRun.lookup p = none ∧
      RestApi.getTestRun s.redis p false = .error ⟨RestApi.statusNotFound, "no testrun found"⟩ ∧
      ¬ (s.redis.runSlot p).Consistent := by
  refine ⟨fun h => ⟨⟨_, run_runsAll_append (by decide) rfl rfl, ?_⟩,
    ⟨_, run_runsAll_append (by decide) rfl rfl, ?_⟩⟩, ?_⟩
  · -- one after the other, the calls do what the two methods do
    dsimp only [writeAndDelete]
    rw [foldl_writeTestRunCmds, foldl_deleteAllTestRunInfoCmds]
    exact Redis.consistent_deleteAllTestRunInfo (Redis.consistent_writeTestRun h p t) p
  · dsimp only [writeAndDelete]
    rw [foldl_writeTestRunCmds, foldl_deleteAllTestRunInfoCmds]
    exact Redis.consistent_writeTestRun (Redis.consistent_deleteAllTestRunInfo h p) p t
  · -- the `SET` of the latest run is undone by the deletion, and the `HSET` comes after it
    set r₁ : Redis := { r with latestRun := r.latestRun.insert p t } with hr₁
    have hfirst : callsStep (writeAndDelete r p t) (0, .ok) =
        some ⟨r₁, [⟨(writeTestRunCmds p t).tail, .stop⟩, Call.deleteAllTestRunInfo p]⟩ := by
      rw [writeAndDelete, Call.writeTestRun, writeTestRunCmds_eq_cons]
      rfl
    have hrest := run_runsAll_append (s := ⟨r₁, [⟨(writeTestRunCmds p t).tail, .stop⟩,
      Call.deleteAllTestRunInfo p]⟩) (i := 1) (j := 0) (by decide) rfl rfl
    rw [foldl_deleteAllTestRunInfoCmds, foldl_tail_writeTestRunCmds] at hrest
    refine ⟨_, by rw [setThenDelete, Transition.run, hfirst, Option.bind_some]; exact hrest, ?_⟩
    have hlatest : (r₁.deleteAllTestRunInfo p).latestRun.lookup p = none := by
      simp [Redis.deleteAllTestRunInfo]
    have hstatus : ((r₁.deleteAllTestRunInfo p).writeTestRun p t).testRunStatus.lookup p =
        some t.passRatio := by
      simp [Redis.writeTestRun_eq]
    refine ⟨by simp [Call.deleteAllTestRunInfo], hstatus, hlatest, by simp [RestApi.getTestRun, hlatest], ?_⟩
    intro hcons
    have h := hcons.status
    simp only [Redis.runSlot, hstatus, hlatest, Option.map_none] at h
    cases h

end SyntheticHeart

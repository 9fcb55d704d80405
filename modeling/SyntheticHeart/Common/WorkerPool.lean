import SyntheticHeart.Transition.System
import Mathlib

/-!
# The worker pool (`utils.WorkerPool`)

`NewWorkerPool(workers, jobBuffer, work)` makes a job channel and a result channel, both
with `jobBuffer` slots; `Start` runs `workers` goroutines that each take a job, call `work`
on it and send a `JobResult` carrying the job, until the job channel is closed or the
context is done. The dns, netDial and httpPing plugins give the pool one job per item of
their config, with `jobBuffer` the number of items and a context that is never cancelled,
and then read one result per item. Those jobs are never nil (struct and string values in
an `interface{}`), so a job here is a value of `J`, and the worker's `return` on a nil job,
which sends no result, is left out.

A pool in use is a `Pool`: the jobs the plugin's `AddJob` loop still has to add, the two
channel buffers, the job each worker works on, and the results the plugin has read. `step`
moves one goroutine by one channel operation (`Label`). `work` reads the outside world (a
clock, the network), and the world's answer is part of the label (`finish k e`). A channel
is its buffer, and a send needs a free slot; the pools here always have one when a send is
due, so the hand-over of an unbuffered channel does not arise.

* `Inv`: every job is in exactly one place (the jobs of all places are a permutation of the
  jobs given), and every result sent is `work` of its job.
* `measure_lt_of_step`: every step lowers `measure`, so a run has at most `4n` steps.
* `exists_step`: a plugin that has read fewer than `n` results can always move on.
* `received_of_terminal`: when nothing can move, the plugin has read one result per job.
* `exists_run_received`: from every state of every interleaving, some run goes on to the
  plugin's reading one result per job; the pool never blocks for good.
-/

namespace SyntheticHeart.WorkerPool

/-- `utils.JobResult`, without the logs. -/
structure JobResult (J R : Type) where
  error : Option String
  job : J
  returnValues : R
  deriving DecidableEq, Repr

/-- The result a worker sends for `job` when the world answers `e`: `JobResult{Error: err,
ReturnValues: val, Job: job}` for `val, err := wp.workFunc(ctx, &logger, job)`. -/
def jobResult {J R E : Type} (work : J → E → R × Option String) (job : J) (e : E) :
    JobResult J R :=
  ⟨(work job e).2, job, (work job e).1⟩

/-- A worker pool while a plugin's `PerformTest` uses it. -/
structure Pool (J R : Type) where
  toAdd : List J
  jobChan : List J
  workers : List (Option J)
  resultChan : List (JobResult J R)
  received : List (JobResult J R)

/-- The moves of the goroutines: the plugin adds a job or reads a result; worker `k` takes a
job, or sends the result of its job when the world answers `e`. -/
inductive Label (E : Type)
  | addJob
  | take (k : Nat)
  | finish (k : Nat) (e : E)
  | receive

/-- The pool after `NewWorkerPool` and `Start`, with the plugin about to add `jobs`. -/
def start {J R : Type} (workers : Nat) (jobs : List J) : Pool J R :=
  ⟨jobs, [], List.replicate workers none, [], []⟩

/-! ## Worker slots -/

section Slots

variable {α : Type*}

theorem reduceOption_set_some_perm :
    ∀ {l : List (Option α)} {k : Nat}, l[k]? = some none → ∀ a : α,
      (l.set k (some a)).reduceOption.Perm (a :: l.reduceOption)
  | none :: l, 0, _, a => by simp
  | some b :: l, 0, h, a => by simp at h
  | x :: l, k + 1, h, a => by
    have ih := reduceOption_set_some_perm (l := l) (k := k) (by simpa using h) a
    cases x with
    | none => simpa using ih
    | some b =>
      simp only [List.set_cons_succ, List.reduceOption_cons_of_some]
      exact (ih.cons b).trans (List.Perm.swap a b _)

theorem reduceOption_set_none_perm :
    ∀ {l : List (Option α)} {k : Nat} {a : α}, l[k]? = some (some a) →
      l.reduceOption.Perm (a :: (l.set k none).reduceOption)
  | none :: l, 0, a, h => by simp at h
  | some b :: l, 0, a, h => by
    simp only [List.getElem?_cons_zero, Option.some.injEq] at h
    subst h
    simp
  | x :: l, k + 1, a, h => by
    have ih := reduceOption_set_none_perm (l := l) (k := k) (by simpa using h)
    cases x with
    | none => simpa using ih
    | some b =>
      simp only [List.set_cons_succ, List.reduceOption_cons_of_some]
      exact (ih.cons b).trans (List.Perm.swap a b _)

/-- A list of slots with nothing in them has an empty slot at `0`, if it has any slot. -/
theorem getElem?_zero_of_reduceOption_eq_nil {l : List (Option α)} (hl : 0 < l.length)
    (h : l.reduceOption = []) : l[0]? = some none := by
  obtain ⟨m, rfl⟩ := (List.reduceOption_eq_nil_iff l).mp h
  simp only [List.length_replicate] at hl
  simp [hl]

end Slots

/-! ## Steps -/

section Step

variable {J R E : Type} (jobBuffer n : Nat) (work : J → E → R × Option String)

/-- One move of one goroutine, `none` when it is blocked. -/
def step (s : Pool J R) : Label E → Option (Pool J R)
  | .addJob =>
    -- `wp.AddJob(job)` blocks while the job channel is full
    match s.toAdd with
    | j :: js =>
      if s.jobChan.length < jobBuffer then some { s with toAdd := js, jobChan := s.jobChan ++ [j] }
      else none
    | [] => none
  | .take k =>
    match s.workers[k]?, s.jobChan with
    | some none, j :: js => some { s with workers := s.workers.set k (some j), jobChan := js }
    | _, _ => none
  | .finish k e =>
    match s.workers[k]? with
    | some (some j) =>
      if s.resultChan.length < jobBuffer then
        some { s with workers := s.workers.set k none,
                      resultChan := s.resultChan ++ [jobResult work j e] }
      else none
    | _ => none
  | .receive =>
    -- the plugin reads its `n` results after it has added every job
    if s.toAdd.isEmpty ∧ s.received.length < n then
      match s.resultChan with
      | r :: rs => some { s with resultChan := rs, received := s.received ++ [r] }
      | [] => none
    else none

/-- What a step can do. -/
theorem step_cases {s s' : Pool J R} {l : Label E} (h : step jobBuffer n work s l = some s') :
    (∃ j js, s.toAdd = j :: js ∧ s.jobChan.length < jobBuffer ∧
      s' = { s with toAdd := js, jobChan := s.jobChan ++ [j] }) ∨
    (∃ k j js, s.workers[k]? = some none ∧ s.jobChan = j :: js ∧
      s' = { s with workers := s.workers.set k (some j), jobChan := js }) ∨
    (∃ k e j, s.workers[k]? = some (some j) ∧ s.resultChan.length < jobBuffer ∧
      s' = { s with workers := s.workers.set k none,
                    resultChan := s.resultChan ++ [jobResult work j e] }) ∨
    (∃ r rs, s.toAdd = [] ∧ s.received.length < n ∧ s.resultChan = r :: rs ∧
      s' = { s with resultChan := rs, received := s.received ++ [r] }) := by
  cases l with
  | addJob =>
    simp only [step] at h
    split at h
    · split_ifs at h with hlen
      cases h
      exact .inl ⟨_, _, ‹_›, hlen, rfl⟩
    · cases h
  | take k =>
    simp only [step] at h
    split at h
    · cases h
      exact .inr (.inl ⟨k, _, _, ‹_›, ‹_›, rfl⟩)
    · cases h
  | finish k e =>
    simp only [step] at h
    split at h
    · split_ifs at h with hlen
      cases h
      exact .inr (.inr (.inl ⟨k, e, _, ‹_›, hlen, rfl⟩))
    · cases h
  | receive =>
    simp only [step] at h
    split_ifs at h with hguard
    split at h
    · cases h
      exact .inr (.inr (.inr ⟨_, _, List.isEmpty_iff.mp hguard.1, hguard.2, ‹_›, rfl⟩))
    · cases h

/-! ## The invariant -/

/-- Every job of a pool state, wherever it is. -/
def Pool.allJobs (s : Pool J R) : List J :=
  s.toAdd ++ s.jobChan ++ s.workers.reduceOption ++ (s.resultChan ++ s.received).map JobResult.job

/-- What each job still has to go through: being added, taken, finished and read. -/
def Pool.measure (s : Pool J R) : Nat :=
  4 * s.toAdd.length + 3 * s.jobChan.length + 2 * s.workers.reduceOption.length +
    s.resultChan.length

/-- The invariant of a pool started with `workers` workers on `jobs`. -/
structure Inv (workers : Nat) (jobs : List J) (s : Pool J R) : Prop where
  perm : s.allJobs.Perm jobs
  results : ∀ r ∈ s.resultChan ++ s.received, ∃ e, r = jobResult work r.job e
  length_workers : s.workers.length = workers

theorem inv_start (workers : Nat) (jobs : List J) :
    Inv work workers jobs (start workers jobs : Pool J R) where
  perm := by simp [Pool.allJobs, start]
  results := by simp [start]
  length_workers := by simp [start]

/-- The number of jobs in each place adds up to the number of jobs. -/
theorem Inv.length_eq {workers : Nat} {jobs : List J} {s : Pool J R}
    (hinv : Inv work workers jobs s) :
    s.toAdd.length + s.jobChan.length + s.workers.reduceOption.length +
      (s.resultChan.length + s.received.length) = jobs.length := by
  have h := hinv.perm.length_eq
  simp only [Pool.allJobs, List.length_append, List.length_map] at h
  exact h

/-- A step moves one job from one place to the next: the jobs of all places stay the same. -/
theorem allJobs_perm_of_step {s s' : Pool J R} {l : Label E}
    (h : step jobBuffer n work s l = some s') : s'.allJobs.Perm s.allJobs := by
  rw [← Multiset.coe_eq_coe]
  rcases step_cases jobBuffer n work h with
    ⟨j, js, hadd, -, rfl⟩ | ⟨k, j, js, hk, hchan, rfl⟩ | ⟨k, e, j, hk, -, rfl⟩ |
      ⟨r, rs, -, -, hres, rfl⟩
  · simp only [Pool.allJobs, hadd, ← Multiset.coe_add, ← Multiset.cons_coe,
      ← Multiset.singleton_add]
    abel
  · have hw := Multiset.coe_eq_coe.mpr (reduceOption_set_some_perm hk j)
    rw [← Multiset.cons_coe, ← Multiset.singleton_add] at hw
    simp only [Pool.allJobs, hchan, ← Multiset.coe_add, hw, ← Multiset.cons_coe,
      ← Multiset.singleton_add]
    abel
  · have hw := Multiset.coe_eq_coe.mpr (reduceOption_set_none_perm hk)
    rw [← Multiset.cons_coe, ← Multiset.singleton_add] at hw
    simp only [Pool.allJobs, List.map_append, List.map_cons, List.map_nil, ← Multiset.coe_add,
      hw, ← Multiset.cons_coe, ← Multiset.singleton_add, jobResult]
    abel
  · simp only [Pool.allJobs, hres, List.map_append, List.map_cons, List.map_nil,
      ← Multiset.coe_add, ← Multiset.cons_coe, ← Multiset.singleton_add]
    abel

theorem inv_step {workers : Nat} {jobs : List J} {s s' : Pool J R} {l : Label E}
    (hinv : Inv work workers jobs s) (h : step jobBuffer n work s l = some s') :
    Inv work workers jobs s' := by
  refine ⟨(allJobs_perm_of_step jobBuffer n work h).trans hinv.perm, ?_, ?_⟩
  · rcases step_cases jobBuffer n work h with
      ⟨j, js, -, -, rfl⟩ | ⟨k, j, js, -, -, rfl⟩ | ⟨k, e, j, -, -, rfl⟩ | ⟨r, rs, -, -, hres, rfl⟩
    · exact hinv.results
    · exact hinv.results
    · -- the new result is `work` of the worker's job
      intro r hr
      simp only [List.append_assoc, List.mem_append, List.mem_singleton] at hr
      rcases hr with hr | rfl | hr
      · exact hinv.results r (List.mem_append_left _ hr)
      · exact ⟨e, rfl⟩
      · exact hinv.results r (List.mem_append_right _ hr)
    · intro x hx
      apply hinv.results x
      simp only [hres, List.mem_append, List.mem_cons] at hx ⊢
      tauto
  · rcases step_cases jobBuffer n work h with
      ⟨j, js, -, -, rfl⟩ | ⟨k, j, js, -, -, rfl⟩ | ⟨k, e, j, -, -, rfl⟩ | ⟨r, rs, -, -, -, rfl⟩ <;>
      simp [hinv.length_workers]

theorem measure_lt_of_step {s s' : Pool J R} {l : Label E}
    (h : step jobBuffer n work s l = some s') : s'.measure < s.measure := by
  rcases step_cases jobBuffer n work h with
    ⟨j, js, hadd, -, rfl⟩ | ⟨k, j, js, hk, hchan, rfl⟩ | ⟨k, e, j, hk, -, rfl⟩ |
      ⟨r, rs, -, -, hres, rfl⟩
  · simp only [Pool.measure, hadd, List.length_cons, List.length_append, List.length_nil]
    omega
  · have hw := (reduceOption_set_some_perm hk j).length_eq
    have hc : s.jobChan.length = js.length + 1 := by rw [hchan, List.length_cons]
    simp only [List.length_cons] at hw
    simp only [Pool.measure, hw, hc]
    omega
  · have hw := (reduceOption_set_none_perm hk).length_eq
    simp only [List.length_cons] at hw
    simp only [Pool.measure, List.length_append, List.length_singleton, hw]
    omega
  · simp only [Pool.measure, hres, List.length_cons]
    omega

/-! ## Progress -/

/-- A plugin that has read fewer than `n` of its `n` results can always move on: it adds a
job, reads a result, or some worker can take a job or send its result. -/
theorem exists_step [Nonempty E] {workers : Nat} {jobs : List J} {s : Pool J R}
    (hw : 0 < workers) (hbuf : n ≤ jobBuffer) (hn : jobs.length = n)
    (hinv : Inv work workers jobs s) (hlt : s.received.length < n) :
    ∃ l : Label E, step jobBuffer n work s l ≠ none := by
  have hlen := hinv.length_eq
  cases hadd : s.toAdd with
  | cons j js =>
    -- the job channel has a free slot for the next job
    have hfree : s.jobChan.length < jobBuffer := by
      rw [hadd, List.length_cons] at hlen
      omega
    exact ⟨.addJob, by simp [step, hadd, hfree]⟩
  | nil =>
    cases hres : s.resultChan with
    | cons r rs => exact ⟨.receive, by simp [step, hadd, hres, hlt]⟩
    | nil =>
      by_cases hbusy : s.workers.reduceOption = []
      · -- every worker is idle, so the remaining jobs wait in the job channel
        obtain ⟨j, js, hchan⟩ : ∃ j js, s.jobChan = j :: js := by
          rw [hadd, hres, hbusy] at hlen
          simp only [List.length_nil] at hlen
          exact List.exists_cons_of_length_pos (by omega)
        have hidle := getElem?_zero_of_reduceOption_eq_nil (by rw [hinv.length_workers]; exact hw)
          hbusy
        exact ⟨.take 0, by simp [step, hidle, hchan]⟩
      · -- a busy worker sends its result into the empty result channel
        obtain ⟨j, hj⟩ := List.exists_mem_of_ne_nil _ hbusy
        obtain ⟨k, hk⟩ := List.mem_iff_getElem?.mp (List.reduceOption_mem_iff.mp hj)
        obtain ⟨e⟩ := ‹Nonempty E›
        have hfree : s.resultChan.length < jobBuffer := by
          rw [hres]
          simp only [List.length_nil]
          omega
        exact ⟨.finish k e, by simp [step, hk, hfree]⟩

/-- Once the plugin has read as many results as there are jobs, every other place is empty,
and the results read are one for each job. -/
theorem Inv.perm_of_received {workers : Nat} {jobs : List J} {s : Pool J R}
    (hinv : Inv work workers jobs s) (hread : jobs.length ≤ s.received.length) :
    (s.received.map JobResult.job).Perm jobs := by
  have hlen := hinv.length_eq
  have hempty : s.toAdd = [] ∧ s.jobChan = [] ∧ s.workers.reduceOption = [] ∧
      s.resultChan = [] := by
    refine ⟨?_, ?_, ?_, ?_⟩ <;> apply List.eq_nil_of_length_eq_zero <;> omega
  obtain ⟨h1, h2, h3, h4⟩ := hempty
  have hperm := hinv.perm
  simp only [Pool.allJobs, h1, h2, h3, h4, List.nil_append, List.append_nil] at hperm
  exact hperm

/-- When nothing can move, the plugin has read one result for each job. -/
theorem received_of_terminal [Nonempty E] {workers : Nat} {jobs : List J} {s : Pool J R}
    (hw : 0 < workers) (hbuf : n ≤ jobBuffer) (hn : jobs.length = n)
    (hinv : Inv work workers jobs s) (hterm : ∀ l : Label E, step jobBuffer n work s l = none) :
    (s.received.map JobResult.job).Perm jobs ∧
      ∀ r ∈ s.received, ∃ e, r = jobResult work r.job e := by
  have hread : n ≤ s.received.length := by
    by_contra hlt
    obtain ⟨l, hs⟩ := exists_step jobBuffer n work hw hbuf hn hinv (by omega)
    exact hs (hterm l)
  exact ⟨Inv.perm_of_received work hinv (hn ▸ hread), fun r hr => hinv.results r (List.mem_append_right _ hr)⟩


/-! ## Every interleaving -/

/-- Over every interleaving from the start, the invariant holds and at most `4 n` steps
have been taken. -/
theorem inv_of_run {workers : Nat} {jobs : List J} {ls : List (Label E)} {s : Pool J R}
    (h : Transition.run (step jobBuffer n work) (start workers jobs) ls = some s) :
    Inv work workers jobs s ∧ ls.length ≤ 4 * jobs.length := by
  have hreach : Transition.Reachable (step jobBuffer n work) (fun _ => True)
      (start workers jobs) s :=
    Transition.reachable_of_run h (fun _ _ => trivial) Relation.ReflTransGen.refl
  have hlen := Transition.length_add_le_of_run
    (fun _ _ _ (_ : True) hs => measure_lt_of_step jobBuffer n work hs)
    h (fun _ _ => trivial)
  have hstart : (start workers jobs : Pool J R).measure = 4 * jobs.length := by
    simp [Pool.measure, start]
  refine ⟨hreach.invariant (inv_start work workers jobs)
    (fun _ _ _ _ hinv hs => inv_step jobBuffer n work hinv hs), ?_⟩
  omega


/-- Over every interleaving from the start, with at least one worker and a buffer slot for
every job: the run has at most `4 n` steps, the results sent so far are one for each of some
of the jobs, each is `work` of its job, and when nothing can move the plugin has read one
result for each job. -/
theorem run_results [Nonempty E] {workers : Nat} {jobs : List J} {ls : List (Label E)}
    {s : Pool J R} (hw : 0 < workers) (hbuf : jobs.length ≤ jobBuffer)
    (h : Transition.run (step jobBuffer jobs.length work) (start workers jobs) ls = some s) :
    ls.length ≤ 4 * jobs.length ∧
      ((s.resultChan ++ s.received).map JobResult.job).Subperm jobs ∧
      (∀ r ∈ s.resultChan ++ s.received, ∃ e, r = jobResult work r.job e) ∧
      ((∀ l : Label E, step jobBuffer jobs.length work s l = none) →
        (s.received.map JobResult.job).Perm jobs) := by
  obtain ⟨hinv, hlen⟩ := inv_of_run jobBuffer jobs.length work h
  have hsent : ((s.resultChan ++ s.received).map JobResult.job).Subperm jobs :=
    (List.sublist_append_right _ _).subperm.trans hinv.perm.subperm
  exact ⟨hlen, hsent, hinv.results,
    fun hterm => (received_of_terminal jobBuffer jobs.length work hw hbuf rfl hinv hterm).1⟩

/-- The pool never blocks for good: from every state of every interleaving, some run of
further steps has the plugin read one result for each job. -/
theorem exists_run_received [Nonempty E] {workers : Nat} {jobs : List J} {ls : List (Label E)}
    {s : Pool J R} (hw : 0 < workers) (hbuf : jobs.length ≤ jobBuffer)
    (h : Transition.run (step jobBuffer jobs.length work) (start workers jobs) ls = some s) :
    ∃ ls' s', Transition.run (step jobBuffer jobs.length work) s ls' = some s' ∧
      (s'.received.map JobResult.job).Perm jobs := by
  -- `measure` ranks the states: until every result is read, some step is enabled, keeps the
  -- invariant and lowers the measure
  have hprog : ∀ t, Inv work workers jobs t → ¬ jobs.length ≤ t.received.length →
      ∃ (l : Label E) (t' : Pool J R), True ∧ step jobBuffer jobs.length work t l = some t' ∧
        Inv work workers jobs t' ∧ t'.measure < t.measure := by
    intro t ht hlt
    obtain ⟨l, hl⟩ := exists_step jobBuffer jobs.length work hw hbuf rfl ht (by omega)
    obtain ⟨t', ht'⟩ := Option.ne_none_iff_exists'.mp hl
    exact ⟨l, t', trivial, ht', inv_step jobBuffer _ work ht ht',
      measure_lt_of_step jobBuffer _ work ht'⟩
  obtain ⟨ls', s', -, hrun, hinv', hread⟩ :=
    Transition.exists_run_of_rank Pool.measure hprog s (inv_of_run jobBuffer jobs.length work h).1
  exact ⟨ls', s', hrun, Inv.perm_of_received work hinv' hread⟩

end Step

end SyntheticHeart.WorkerPool

import SyntheticHeart.Plugins.HttpPing
import SyntheticHeart.Common.WorkerPool
import SyntheticHeart.Storage.Redis

/-!
# The plugins that test on a worker pool: `dns`, `netDial` and `httpPing`

The `PerformTest` of each of these plugins adds one job per item of its config to a worker
pool with as many buffer slots as items (`WorkerPool`), reads as many results, and adds up
the marks of the results without an error (`addMarks`):

* `dns` resolves each domain `repeats` times, a job's marks are its successful lookups, and
  `MaxMarks = uint64(len(domains) * repeats)`;
* `netDial` dials each address, a result without error is one mark, `MaxMarks` is the
  number of addresses, and an empty config passes with one mark of one;
* `httpPing` tests each URL with `httpPingTest`, which gives `0` or `1` marks, and
  `MaxMarks` is the number of URLs.

Marks are `uint64`; the `int` product of `dns` wraps at 64 bits, and the `uint64` of it keeps
the low 64 bits of the exact product. What the world answers a job (the lookups, the dial,
the server and the clock) is part of the pool's `finish` label. The Prometheus gauges that
`PerformTest` also builds are left out.

`toNat_addMarks_le` bounds the marks by the number of results times the largest mark of
one result, as long as that bound fits in 64 bits.
-/

namespace SyntheticHeart.Plugins

open WorkerPool HttpPing

/-- `common.FailedTestResult()`. -/
def failedTestResult : TestResult := ⟨0, 1, ∅⟩

/-! ## Adding up marks -/

section Marks

variable {J R : Type} (marks : R → Int)

/-- One iteration of a `PerformTest`'s loop over the results: `testResult.Marks +=
uint64(marks)` for a result without error. -/
def markStep (total : UInt64) (res : JobResult J R) : UInt64 :=
  if res.error = none then total + UInt64.ofInt (marks res.returnValues) else total

/-- The marks of the results a `PerformTest` read. -/
def addMarks (received : List (JobResult J R)) : UInt64 :=
  received.foldl (markStep marks) 0

theorem toNat_ofInt_of_lt {x : Int} (h0 : 0 ≤ x) (h : x < 2 ^ 64) :
    (UInt64.ofInt x).toNat = x.toNat := by
  rw [UInt64.ofInt, UInt64.toNat_ofNat', Int.emod_eq_of_lt h0 h]
  have : x.toNat < 2 ^ 64 := by omega
  exact Nat.mod_eq_of_lt this

/-- Results whose marks lie between `0` and `c` add up to at most `c` per result, while that
bound fits in 64 bits. -/
theorem toNat_foldl_markStep_le (c : Nat) :
    ∀ (received : List (JobResult J R)) (total : UInt64),
      (∀ r ∈ received, 0 ≤ marks r.returnValues ∧ marks r.returnValues ≤ c) →
      total.toNat + received.length * c < 2 ^ 64 →
      (received.foldl (markStep marks) total).toNat ≤ total.toNat + received.length * c
  | [], total, _, _ => by simp
  | r :: rs, total, hmarks, hfit => by
    obtain ⟨h0, hc⟩ := hmarks r List.mem_cons_self
    have hrest : ∀ r ∈ rs, 0 ≤ marks r.returnValues ∧ marks r.returnValues ≤ c :=
      fun r' hr' => hmarks r' (List.mem_cons_of_mem r hr')
    simp only [List.length_cons, Nat.succ_mul] at hfit
    -- the first result adds at most `c` without wrapping
    have hstep : (markStep marks total r).toNat ≤ total.toNat + c := by
      unfold markStep
      split_ifs
      · rw [UInt64.toNat_add, toNat_ofInt_of_lt h0 (by omega), Nat.mod_eq_of_lt (by omega)]
        omega
      · omega
    have ih := toNat_foldl_markStep_le c rs (markStep marks total r) hrest (by omega)
    simp only [List.foldl_cons, List.length_cons, Nat.succ_mul]
    omega

theorem toNat_addMarks_le (c : Nat) (received : List (JobResult J R))
    (hmarks : ∀ r ∈ received, 0 ≤ marks r.returnValues ∧ marks r.returnValues ≤ c)
    (hfit : received.length * c < 2 ^ 64) :
    (addMarks marks received).toNat ≤ received.length * c := by
  have h := toNat_foldl_markStep_le marks c received 0 hmarks (by simpa using hfit)
  simpa [addMarks] using h

end Marks

/-! ## `dns` -/

/-- `DNSTestConfig`. -/
structure DNSTestConfig where
  domains : List String
  workers : Int
  repeats : Int
  deriving DecidableEq, Repr

/-- `DnsTestJob`. -/
structure DnsTestJob where
  domain : String
  repeats : Int
  deriving DecidableEq, Repr

/-- `DNSTest.Initialise`, from the config `ParseYMLConfig` decodes and its error: three
workers and one repeat when the config gives none. -/
def DNSTest.initialise (decoded : DNSTestConfig × Option String) : DNSTestConfig × Option String :=
  let c := decoded.1
  let c := if c.workers ≤ 0 then { c with workers := 3 } else c
  let c := if c.repeats ≤ 0 then { c with repeats := 1 } else c
  (c, decoded.2)

/-- `dnsTest` for `job`, `lookupOk i` telling whether the `i`-th `net.LookupIP` succeeds:
the number of successful lookups, and no error. -/
def dnsTest (job : DnsTestJob) (lookupOk : Nat → Bool) : Int × Option String :=
  (((List.range job.repeats.toNat).filter lookupOk).length, none)

/-- The jobs `DNSTest.PerformTest` adds. -/
def DNSTest.jobs (config : DNSTestConfig) : List DnsTestJob :=
  config.domains.map fun domain => ⟨domain, config.repeats⟩

/-- `DNSTest.PerformTest` once it has read the results `received`. -/
def DNSTest.performTest (config : DNSTestConfig) (received : List (JobResult DnsTestJob Int)) :
    TestResult × Option String :=
  if config.domains.length ≤ 0 then (failedTestResult, some "no domains to test")
  else (⟨addMarks id received, UInt64.ofInt (config.domains.length * config.repeats), ∅⟩, none)

theorem DNSTest.initialise_pos (decoded : DNSTestConfig × Option String) :
    0 < (DNSTest.initialise decoded).1.workers ∧ 0 < (DNSTest.initialise decoded).1.repeats := by
  unfold DNSTest.initialise
  dsimp only
  -- each default sets its own field; the structure updates are projected away
  constructor <;> split_ifs <;> (try dsimp only at *) <;> omega

theorem dnsTest_le (job : DnsTestJob) (lookupOk : Nat → Bool) :
    0 ≤ (dnsTest job lookupOk).1 ∧ (dnsTest job lookupOk).1 ≤ job.repeats.toNat := by
  refine ⟨by simp [dnsTest], ?_⟩
  have h := List.length_filter_le lookupOk (List.range job.repeats.toNat)
  simp only [List.length_range] at h
  simp only [dnsTest]
  exact_mod_cast h

theorem dnsTest_error (job : DnsTestJob) (lookupOk : Nat → Bool) :
    (dnsTest job lookupOk).2 = none := rfl

theorem dnsTest_of_all_ok (job : DnsTestJob) :
    (dnsTest job fun _ => true).1 = job.repeats.toNat := by
  simp [dnsTest]

theorem dnsTest_of_first_ok (job : DnsTestJob) (h : 0 < job.repeats.toNat) :
    (dnsTest job fun i => decide (i = 0)).1 = 1 := by
  obtain ⟨k, hk⟩ : ∃ k, job.repeats.toNat = k + 1 := ⟨job.repeats.toNat - 1, by omega⟩
  -- only the first of `0, 1, …, k` passes
  simp only [dnsTest, hk, List.range_succ_eq_map, List.filter_cons, decide_true, if_true,
    List.length_cons]
  simp [List.filter_map, Function.comp_def]

/-! ## `netDial` -/

/-- `Address`. -/
structure Address where
  network : String
  address : String
  timeout : Int
  deriving DecidableEq, Repr

/-- `NetDialTestConfig`. -/
structure NetDialTestConfig where
  addresses : List Address
  workers : Int
  deriving DecidableEq, Repr

/-- `NetDialTest.Initialise`, from the config `ParseYMLConfig` decodes and its error. -/
def NetDialTest.initialise (decoded : NetDialTestConfig × Option String) :
    Except String NetDialTestConfig :=
  match decoded.2 with
  | some err => .error (wrap "error parsing config" err)
  | none => .ok (if decoded.1.workers ≤ 0 then { decoded.1 with workers := 3 } else decoded.1)

theorem NetDialTest.initialise_workers {decoded : NetDialTestConfig × Option String}
    {config : NetDialTestConfig} (h : NetDialTest.initialise decoded = .ok config) :
    0 < config.workers := by
  unfold NetDialTest.initialise at h
  split at h
  · cases h
  · rw [Except.ok.injEq] at h
    subst h
    split_ifs with hw
    · show (0 : Int) < 3
      decide
    · omega

/-- `netDialTest` for `job`, `dial` what `net.DialTimeout` does with it (with the timeout of
the job, three seconds when unset): an error, or a connection after a duration. -/
def netDialTest (job : Address) (dial : Except String Duration) : Duration × Option String :=
  match dial with
  | .error err => (0, some (wrap ("could not connect to " ++ job.address) err))
  | .ok duration => (duration, none)

/-- `NetDialTest.PerformTest` once it has read the results `received`. -/
def NetDialTest.performTest (config : NetDialTestConfig)
    (received : List (JobResult Address Duration)) : TestResult × Option String :=
  if config.addresses.length ≤ 0 then (⟨1, 1, ∅⟩, none)
  else (⟨addMarks (fun _ => 1) received, UInt64.ofNat config.addresses.length, ∅⟩, none)

/-! ## `httpPing` -/

/-- The jobs `HttpPingTest.PerformTest` adds: each URL with the plugin's timeout. -/
def HttpPingTest.jobs (t : HttpPingTest) : List HttpPingTestConfig :=
  t.configs.map fun c => { c with timeout := t.timeout }

/-- `HttpPingTest.PerformTest` once it has read the results `received`. -/
def HttpPingTest.performTest (t : HttpPingTest)
    (received : List (JobResult HttpPingTestConfig HttpPingResult)) : TestResult × Option String :=
  if t.configs.length ≤ 0 then (failedTestResult, some "no endpoints to test")
  else (⟨addMarks HttpPingResult.marks received, UInt64.ofNat t.configs.length, ∅⟩, none)

/-- The work of the `httpPing` pool: `httpPingTest` of a URL, against the server and from the
time the world gives. -/
def httpPingWork (parseDuration : String → Except String Duration)
    (newRequest : String → Option String) (matchString : String → String → Except String Bool)
    (cfg : HttpPingTestConfig) (world : (Nat → Int → Reply) × Int) :
    HttpPingResult × Option String :=
  httpPingTest parseDuration newRequest matchString cfg world.1 world.2


/-! ## Marks against `MaxMarks` -/

/-- After any interleaving of the `httpPing` pool in which nothing can move, the marks are at
most `MaxMarks`: each URL gives at most one mark. -/
theorem httpPing_marks_le (parseDuration : String → Except String Duration)
    (newRequest : String → Option String) (matchString : String → String → Except String Bool)
    (t : HttpPingTest) (hlen : t.configs.length < 2 ^ 63)
    {ls : List (Label ((Nat → Int → Reply) × Int))}
    {s : Pool HttpPingTestConfig HttpPingResult}
    (hrun : Transition.run (step t.configs.length t.configs.length
      (httpPingWork parseDuration newRequest matchString)) (start parallelWorkers (HttpPingTest.jobs t))
        ls = some s)
    (hterm : ∀ l, step t.configs.length t.configs.length
      (httpPingWork parseDuration newRequest matchString) s l = none) :
    (HttpPingTest.performTest t s.received).1.marks ≤
      (HttpPingTest.performTest t s.received).1.maxMarks := by
  have hjobs : (HttpPingTest.jobs t).length = t.configs.length := by simp [HttpPingTest.jobs]
  have : Nonempty ((Nat → Int → Reply) × Int) := ⟨(fun _ _ => ⟨0, .ok 0⟩, 0)⟩
  unfold HttpPingTest.performTest
  split_ifs with hempty
  · decide
  rw [← hjobs] at hrun hterm
  obtain ⟨-, -, hres, hread⟩ := run_results _ _ (by decide) le_rfl hrun
  have hcount : s.received.length = t.configs.length := by
    rw [← hjobs, ← List.length_map JobResult.job]
    exact (hread hterm).length_eq
  -- every result read is `httpPingTest` of its URL, which gives `0` or `1` marks
  have hmarks : ∀ r ∈ s.received, 0 ≤ r.returnValues.marks ∧ r.returnValues.marks ≤ (1 : Nat) := by
    intro r hr
    obtain ⟨e, he⟩ := hres r (List.mem_append_right _ hr)
    rw [he]
    rcases httpPingTest_marks parseDuration newRequest matchString r.job e.1 e.2 with h | h <;>
      simp [jobResult, httpPingWork, h]
  have hle := toNat_addMarks_le HttpPingResult.marks 1 s.received hmarks (by omega)
  have hsize : t.configs.length < UInt64.size := by unfold UInt64.size; omega
  dsimp only
  rw [UInt64.le_iff_toNat_le, UInt64.toNat_ofNat_of_lt' hsize]
  omega

/-- After any interleaving of the `netDial` pool in which nothing can move, the marks are at
most `MaxMarks`: each address gives at most one mark. -/
theorem netDial_marks_le (config : NetDialTestConfig) (hlen : config.addresses.length < 2 ^ 63)
    (hworkers : 0 < config.workers) {ls : List (Label (Except String Duration))}
    {s : Pool Address Duration}
    (hrun : Transition.run (step config.addresses.length config.addresses.length netDialTest)
      (start config.workers.toNat config.addresses) ls = some s)
    (hterm : ∀ l, step config.addresses.length config.addresses.length netDialTest s l = none) :
    (NetDialTest.performTest config s.received).1.marks ≤
      (NetDialTest.performTest config s.received).1.maxMarks := by
  have : Nonempty (Except String Duration) := ⟨.ok 0⟩
  unfold NetDialTest.performTest
  split_ifs with hempty
  · exact UInt64.le_refl _
  obtain ⟨-, -, -, hread⟩ := run_results _ _ (by omega) le_rfl hrun
  have hcount : s.received.length = config.addresses.length := by
    rw [← List.length_map JobResult.job]
    exact (hread hterm).length_eq
  have hle := toNat_addMarks_le (fun _ => (1 : Int)) 1 s.received (fun _ _ => by simp)
    (by omega)
  have hsize : config.addresses.length < UInt64.size := by unfold UInt64.size; omega
  dsimp only
  rw [UInt64.le_iff_toNat_le, UInt64.toNat_ofNat_of_lt' hsize]
  omega

/-- After any interleaving of the `dns` pool in which nothing can move, the marks are at most
`MaxMarks` when the number of lookups `len(domains) * repeats` fits in 64 bits. -/
theorem dns_marks_le (config : DNSTestConfig) (hworkers : 0 < config.workers)
    (hrepeats : 0 < config.repeats)
    (hfit : (config.domains.length : Int) * config.repeats < 2 ^ 64)
    {ls : List (Label (Nat → Bool))} {s : Pool DnsTestJob Int}
    (hrun : Transition.run (step config.domains.length config.domains.length dnsTest)
      (start config.workers.toNat (DNSTest.jobs config)) ls = some s)
    (hterm : ∀ l, step config.domains.length config.domains.length dnsTest s l = none) :
    (DNSTest.performTest config s.received).1.marks ≤
      (DNSTest.performTest config s.received).1.maxMarks := by
  have hjobs : (DNSTest.jobs config).length = config.domains.length := by simp [DNSTest.jobs]
  unfold DNSTest.performTest
  split_ifs with hempty
  · decide
  rw [← hjobs] at hrun hterm
  obtain ⟨-, -, hres, hread⟩ := run_results _ _ (by omega) le_rfl hrun
  have hperm := hread hterm
  have hcount : s.received.length = config.domains.length := by
    rw [← hjobs, ← List.length_map JobResult.job]
    exact hperm.length_eq
  -- a result read is `dnsTest` of one of the jobs, all of which repeat `repeats` times
  have hmarks : ∀ r ∈ s.received, 0 ≤ id r.returnValues ∧ id r.returnValues ≤ config.repeats.toNat := by
    intro r hr
    obtain ⟨e, he⟩ := hres r (List.mem_append_right _ hr)
    have hjob : r.job ∈ DNSTest.jobs config := hperm.subset (List.mem_map_of_mem hr)
    obtain ⟨domain, -, hdom⟩ := List.mem_map.mp hjob
    have hrep : r.job.repeats = config.repeats := by rw [← hdom]
    rw [he]
    simpa [jobResult, hrep] using dnsTest_le r.job e
  have hprod : (config.domains.length : Int) * config.repeats =
      ((config.domains.length * config.repeats.toNat : Nat) : Int) := by
    push_cast
    rw [Int.toNat_of_nonneg hrepeats.le]
  have hfitNat : config.domains.length * config.repeats.toNat < 2 ^ 64 := by omega
  have hle := toNat_addMarks_le id config.repeats.toNat s.received hmarks (by rw [hcount]; exact hfitNat)
  dsimp only
  rw [UInt64.le_iff_toNat_le, hprod, toNat_ofInt_of_lt (by positivity) (by omega)]
  simp only [Int.toNat_natCast]
  rw [hcount] at hle
  exact hle


theorem pool_plugins_read_all_results :
    (∀ {J R E : Type} [Nonempty E] (work : J → E → R × Option String)
        (workers jobBuffer : Nat) (jobs : List J) (ls : List (Label E)) (s : Pool J R),
      0 < workers → jobs.length ≤ jobBuffer →
      Transition.run (step jobBuffer jobs.length work) (start workers jobs) ls = some s →
      ls.length ≤ 4 * jobs.length ∧
        ((s.resultChan ++ s.received).map JobResult.job).Subperm jobs ∧
        (∀ r ∈ s.resultChan ++ s.received, ∃ e, r = jobResult work r.job e) ∧
        ((∀ l : Label E, step jobBuffer jobs.length work s l = none) →
          (s.received.map JobResult.job).Perm jobs)) ∧
    (∀ (parseDuration : String → Except String Duration) (newRequest : String → Option String)
        (matchString : String → String → Except String Bool) (t : HttpPingTest)
        (ls : List (Label ((Nat → Int → Reply) × Int))) (s : Pool HttpPingTestConfig HttpPingResult),
      t.configs.length < 2 ^ 63 →
      Transition.run (step t.configs.length t.configs.length
        (httpPingWork parseDuration newRequest matchString))
          (start parallelWorkers (HttpPingTest.jobs t)) ls = some s →
      (∀ l, step t.configs.length t.configs.length
        (httpPingWork parseDuration newRequest matchString) s l = none) →
      (HttpPingTest.performTest t s.received).1.marks ≤
        (HttpPingTest.performTest t s.received).1.maxMarks) ∧
    (∀ (decoded : NetDialTestConfig × Option String) (config : NetDialTestConfig)
        (ls : List (Label (Except String Duration))) (s : Pool Address Duration),
      NetDialTest.initialise decoded = .ok config → config.addresses.length < 2 ^ 63 →
      Transition.run (step config.addresses.length config.addresses.length netDialTest)
        (start config.workers.toNat config.addresses) ls = some s →
      (∀ l, step config.addresses.length config.addresses.length netDialTest s l = none) →
      (NetDialTest.performTest config s.received).1.marks ≤
        (NetDialTest.performTest config s.received).1.maxMarks) ∧
    (∀ (decoded : DNSTestConfig × Option String) (config : DNSTestConfig)
        (ls : List (Label (Nat → Bool))) (s : Pool DnsTestJob Int),
      DNSTest.initialise decoded = (config, none) →
      (config.domains.length : Int) * config.repeats < 2 ^ 64 →
      Transition.run (step config.domains.length config.domains.length dnsTest)
        (start config.workers.toNat (DNSTest.jobs config)) ls = some s →
      (∀ l, step config.domains.length config.domains.length dnsTest s l = none) →
      (DNSTest.performTest config s.received).1.marks ≤
        (DNSTest.performTest config s.received).1.maxMarks) := by
  refine ⟨?_, ?_, ?_, ?_⟩
  · intro J R E _ work workers jobBuffer jobs ls s hw hbuf hrun
    exact run_results jobBuffer work hw hbuf hrun
  · intro parseDuration newRequest matchString t ls s hlen hrun hterm
    exact httpPing_marks_le parseDuration newRequest matchString t hlen hrun hterm
  · intro decoded config ls s hinit hlen hrun hterm
    exact netDial_marks_le config hlen (NetDialTest.initialise_workers hinit) hrun hterm
  · intro decoded config ls s hinit hfit hrun hterm
    have hpos := DNSTest.initialise_pos decoded
    rw [hinit] at hpos
    exact dns_marks_le config hpos.1 hpos.2 hfit hrun hterm


/-- Three domains, each looked up `2⁶³ - 1` times by three workers. -/
def manyLookups : DNSTestConfig := ⟨["google.com", "google.com", "google.com"], 3, 2 ^ 63 - 1⟩

/-- An interleaving of the `dns` pool for `manyLookups`: every lookup of the first two
domains succeeds, and only the first lookup of the third. -/
def manyLookupsRun : List (Label (Nat → Bool)) :=
  [.addJob, .addJob, .addJob, .take 0, .take 1, .take 2, .finish 0 (fun _ => true),
    .finish 1 (fun _ => true), .finish 2 (fun i => decide (i = 0)), .receive, .receive, .receive]

/-- The state `manyLookupsRun` ends in. -/
def manyLookupsEnd : Pool DnsTestJob Int :=
  ⟨[], [], List.replicate 3 none, [],
    [jobResult dnsTest ⟨"google.com", manyLookups.repeats⟩ (fun _ => true),
      jobResult dnsTest ⟨"google.com", manyLookups.repeats⟩ (fun _ => true),
      jobResult dnsTest ⟨"google.com", manyLookups.repeats⟩ (fun i => decide (i = 0))]⟩

theorem dns_marks_exceed_maxMarks :
    DNSTest.initialise (manyLookups, none) = (manyLookups, none) ∧
      Transition.run (step manyLookups.domains.length manyLookups.domains.length dnsTest)
        (start manyLookups.workers.toNat (DNSTest.jobs manyLookups)) manyLookupsRun =
          some manyLookupsEnd ∧
      (∀ l, step manyLookups.domains.length manyLookups.domains.length dnsTest manyLookupsEnd l =
        none) ∧
      (DNSTest.performTest manyLookups manyLookupsEnd.received).1.maxMarks <
        (DNSTest.performTest manyLookups manyLookupsEnd.received).1.marks := by
  refine ⟨rfl, rfl, ?_, ?_⟩
  · -- nothing is left to add, take or send, and all three results were read
    intro l
    cases l with
    | addJob => rfl
    | take k => simp [step, manyLookupsEnd]
    | finish k e =>
      simp only [step, manyLookupsEnd, List.getElem?_replicate]
      split_ifs <;> rfl
    | receive => rfl
  · -- two domains give `2⁶³ - 1` marks each and the third one: `2⁶⁴ - 1` in all, while
    -- `MaxMarks` keeps the low 64 bits of `3 · (2⁶³ - 1)`
    have hrep : (manyLookups.repeats).toNat = 2 ^ 63 - 1 := by decide
    simp only [DNSTest.performTest, manyLookupsEnd, addMarks, List.foldl_cons, List.foldl_nil,
      markStep, jobResult, dnsTest_error, dnsTest_of_all_ok, hrep,
      dnsTest_of_first_ok ⟨"google.com", manyLookups.repeats⟩ (by rw [hrep]; decide)]
    decide +kernel

end SyntheticHeart.Plugins

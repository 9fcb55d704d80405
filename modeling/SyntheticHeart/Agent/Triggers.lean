import SyntheticHeart.Agent.Routine

/-!
# What starts a test (`DependsOn` and the timer of `Run`)

`Run` starts `testPlugin` on a tick of its timer, which it makes only when `Repeat` parses to
a positive duration, and on a `TestRun` from the broadcaster, to which it subscribes only
when `DependsOn` is not empty, if the `TestRun` is of a test it depends on (by name) or it
depends on `*` or `*++`. The proto says of `DependsOn`: "other test(s) which this test is
dependant on (local agent only)".

* `Broadcaster.Carries.of_step`: the broadcaster makes up no run; every run it holds was
  published.
* `triggered_runs_follow_published_runs`: in every interleaving of the routines and the
  broadcaster, a run that a `TestRun` started is of a routine that depends on the test of
  the `TestRun`, and before the routine received it a routine of the same agent whose test
  has that name ran its test.
* `untriggered_routine_never_tests`: a routine whose `Repeat` does not parse returns at
  once; one without a timer and without `DependsOn` never subscribes, never connects to its
  plugin, and leaves its `select` only when it is cancelled, so that the return on "all
  trigger channels are nil" after the `select` is never reached.
-/

namespace SyntheticHeart.Broadcaster

section Carries

variable {α : Type} {publishCap : Nat} {P Q : α → Prop} {s s' : State α}

/-- Every run the broadcaster holds satisfies `P`: those on `testRunPubCh`, those taken, the
one being sent to the subscribers, and those in the subscribers' channels. -/
structure Carries (P : α → Prop) (s : State α) : Prop where
  pubCh : ∀ r ∈ s.pubCh, P r
  log : ∀ r ∈ s.log, P r
  current : ∀ r, s.current = some r → P r
  buffer : ∀ c, ∀ x ∈ (s.chans c).buffer, P x.2

theorem carries_init : Carries P (init : State α) where
  pubCh := by simp [init]
  log := by simp [init]
  current := by simp [init]
  buffer := by simp [init, Chan.empty]

theorem Carries.mono (h : Carries P s) (hPQ : ∀ r, P r → Q r) : Carries Q s where
  pubCh r hr := hPQ r (h.pubCh r hr)
  log r hr := hPQ r (h.log r hr)
  current r hr := hPQ r (h.current r hr)
  buffer c x hx := hPQ x.2 (h.buffer c x hx)

/-- The channels after one of them is replaced by one whose runs satisfy `P`. -/
theorem Carries.buffer_update (h : Carries P s) {c : Nat} {ch : Chan α} (hch : ∀ x ∈ ch.buffer, P x.2) :
    ∀ c', ∀ x ∈ (Function.update s.chans c ch c').buffer, P x.2 := by
  intro c' x hx
  by_cases hc : c' = c
  · subst hc
    rw [Function.update_self] at hx
    exact hch x hx
  · rw [Function.update_of_ne hc] at hx
    exact h.buffer c' x hx

/-- The broadcaster makes up no run: a step keeps `Carries P` when the run it publishes, if
any, satisfies `P`. -/
theorem Carries.of_step (h : Carries P s) {l : Label α} (hs : step publishCap s l = some s')
    (hl : ∀ r, l = .publish r → P r) : Carries P s' := by
  cases l with
  | publish r =>
    simp only [step] at hs
    split_ifs at hs
    cases hs
    refine ⟨fun r' hr' => ?_, h.log, h.current, h.buffer⟩
    rcases List.mem_append.mp hr' with hr' | hr'
    · exact h.pubCh r' hr'
    · rw [List.mem_singleton.mp hr']
      exact hl r rfl
  | subscribe name channelSize =>
    simp only [step] at hs
    split_ifs at hs
    cases hs
    exact ⟨h.pubCh, h.log, h.current, h.buffer_update (by simp [Chan.empty])⟩
  | unsubscribe c =>
    simp only [step] at hs
    split_ifs at hs
    cases hs
    exact ⟨h.pubCh, h.log, h.current, h.buffer_update (h.buffer c)⟩
  | receive c =>
    simp only [step] at hs
    split_ifs at hs
    split at hs
    · rename_i x xs hb
      cases hs
      -- the owner takes the first run; the others stay
      refine ⟨h.pubCh, h.log, h.current, h.buffer_update fun y hy => h.buffer c y ?_⟩
      rw [hb]
      exact List.mem_cons_of_mem x hy
    · cases hs
  | wait c =>
    obtain ⟨-, hs⟩ := Option.ite_none_right_eq_some.mp hs
    cases hs
    exact ⟨h.pubCh, h.log, h.current, h.buffer_update (h.buffer c)⟩
  | leave c =>
    obtain ⟨-, hs⟩ := Option.ite_none_right_eq_some.mp hs
    cases hs
    exact ⟨h.pubCh, h.log, h.current, h.buffer_update (h.buffer c)⟩
  | takeSub =>
    simp only [step] at hs
    split_ifs at hs
    split at hs
    · cases hs
      exact ⟨h.pubCh, h.log, h.current, h.buffer_update (h.buffer _)⟩
    · cases hs
  | takeUnsub =>
    simp only [step] at hs
    split_ifs at hs
    split at hs
    · cases hs
      exact ⟨h.pubCh, h.log, h.current, h.buffer_update (h.buffer _)⟩
    · cases hs
  | takePub =>
    simp only [step] at hs
    split_ifs at hs
    split at hs
    · rename_i r rest hpub
      cases hs
      have hr : P r := h.pubCh r (by rw [hpub]; exact List.mem_cons_self)
      refine ⟨fun r' hr' => h.pubCh r' (by rw [hpub]; exact List.mem_cons_of_mem r hr'), fun r' hr' => ?_,
        fun r' hr' => by cases hr'; exact hr, h.buffer⟩
      rcases List.mem_append.mp hr' with hr' | hr'
      · exact h.log r' hr'
      · rw [List.mem_singleton.mp hr']
        exact hr
    · cases hs
  | send c =>
    simp only [step] at hs
    split at hs
    · rename_i r hcur
      split_ifs at hs with hpending hwait hroom
      · -- a run handed to the waiting owner leaves the broadcaster
        cases hs
        exact ⟨h.pubCh, h.log, h.current, h.buffer_update (h.buffer c)⟩
      · cases hs
        -- the run put into the channel is the one being sent to the subscribers
        refine ⟨h.pubCh, h.log, h.current, h.buffer_update fun x hx => ?_⟩
        rcases List.mem_append.mp hx with hx | hx
        · exact h.buffer c x hx
        · rw [List.mem_singleton.mp hx]
          exact h.current r hcur
      · cases hs
        exact ⟨h.pubCh, h.log, h.current, h.buffer⟩
    · cases hs

end Carries

end SyntheticHeart.Broadcaster

namespace SyntheticHeart.Routine

open Transition

/-! ## What one move does -/

section Moves

variable {parseDuration : String → Except String Duration} {configs : List SynTestConfig}
  {a a' : Routines} {i : Nat}

@[simp] theorem setPhase_phase (a : Routines) (i : Nat) (p : Phase) :
    (a.setPhase i p).phase = Function.update a.phase i p := rfl

@[simp] theorem setPhase_chan (a : Routines) (i : Nat) (p : Phase) : (a.setPhase i p).chan = a.chan := rfl

@[simp] theorem setPhase_bc (a : Routines) (i : Nat) (p : Phase) : (a.setPhase i p).bc = a.bc := rfl

@[simp] theorem setPhase_triggers (a : Routines) (i : Nat) (p : Phase) :
    (a.setPhase i p).triggers = a.triggers := rfl

/-- `Run` starts: it returns when `Repeat` does not parse, and otherwise subscribes when
`DependsOn` is not empty, and enters its loop. -/
theorem step_start (hs : step parseDuration configs a (.start i) = some a') :
    ∃ cfg, configs[i]? = some cfg ∧ a.phase i = .starting ∧
      ((∃ err, parseDuration cfg.«repeat» = .error err) ∧ a' = a.setPhase i .exited ∨
        (∃ d, parseDuration cfg.«repeat» = .ok d) ∧ (dependantTestMap cfg).entries = [] ∧
          a' = a.setPhase i .waiting ∨
        (∃ d, parseDuration cfg.«repeat» = .ok d) ∧ (dependantTestMap cfg).entries ≠ [] ∧
          ∃ bc, Broadcaster.step broadcasterPublishChannelSize a.bc
              (.subscribe cfg.name defaultSynTestSubChannelSize) = some bc ∧
            a' = { a with
              bc := bc
              phase := Function.update a.phase i .waiting
              chan := Function.update a.chan i (some a.bc.nextChan) }) := by
  simp only [step] at hs
  split at hs
  · rename_i cfg hcfg
    obtain ⟨hstart, hs⟩ := Option.ite_none_right_eq_some.mp hs
    refine ⟨cfg, hcfg, hstart, ?_⟩
    split at hs
    · rename_i err herr
      cases hs
      exact .inl ⟨⟨err, herr⟩, rfl⟩
    · rename_i d hd
      split_ifs at hs with hdeps
      · cases hs
        exact .inr (.inl ⟨⟨d, hd⟩, hdeps, rfl⟩)
      · obtain ⟨bc, hbc, rfl⟩ := Option.map_eq_some_iff.mp hs
        exact .inr (.inr ⟨⟨d, hd⟩, hdeps, bc, hbc, rfl⟩)
  · cases hs

theorem step_tick (hs : step parseDuration configs a (.tick i) = some a') :
    ∃ cfg, configs[i]? = some cfg ∧ a.phase i = .waiting ∧ hasTicker parseDuration cfg = true ∧
      a' = a.setPhase i .connecting := by
  simp only [step] at hs
  split at hs
  · rename_i cfg hcfg
    obtain ⟨htick, hs⟩ := Option.ite_none_right_eq_some.mp hs
    cases hs
    exact ⟨cfg, hcfg, htick.1, htick.2, rfl⟩
  · cases hs

/-- The routine takes the first `TestRun` of its channel, and runs its test when it depends
on the test of the `TestRun`. -/
theorem step_receive (hs : step parseDuration configs a (.receive i) = some a') :
    ∃ cfg c n t rest bc, configs[i]? = some cfg ∧ a.chan i = some c ∧ a.phase i = .waiting ∧
      (a.bc.chans c).buffer = (n, t) :: rest ∧
      Broadcaster.step broadcasterPublishChannelSize a.bc (.receive c) = some bc ∧
      a' = if triggeredBy (dependantTestMap cfg) t then
        { a with
          bc := bc
          phase := Function.update a.phase i .connecting
          triggers := a.triggers ++ [(i, t)] }
      else { a with bc := bc } := by
  simp only [step] at hs
  split at hs
  · rename_i cfg c hcfg hc
    obtain ⟨hwaiting, hs⟩ := Option.ite_none_right_eq_some.mp hs
    split at hs
    · rename_i n t rest hbuf
      obtain ⟨bc, hbc, rfl⟩ := Option.map_eq_some_iff.mp hs
      exact ⟨cfg, c, n, t, rest, bc, hcfg, hc, hwaiting, hbuf, hbc, rfl⟩
    · cases hs
  · cases hs

theorem step_connect {ok : Bool} (hs : step parseDuration configs a (.connect i ok) = some a') :
    a.phase i = .connecting ∧ a' = a.setPhase i (if ok then .initialising else .exiting) := by
  simp only [step] at hs
  obtain ⟨hphase, hs⟩ := Option.ite_none_right_eq_some.mp hs
  cases hs
  exact ⟨hphase, rfl⟩

theorem step_initialise {err : Option String} (hs : step parseDuration configs a (.initialise i err) = some a') :
    a.phase i = .initialising ∧ a' = a.setPhase i (if err = none then .testing else .exiting) := by
  simp only [step] at hs
  obtain ⟨hphase, hs⟩ := Option.ite_none_right_eq_some.mp hs
  cases hs
  exact ⟨hphase, rfl⟩

/-- `runTest` publishes the `TestRun` of the routine's test. -/
theorem step_runTest {ok : Bool} (hs : step parseDuration configs a (.runTest i ok) = some a') :
    ∃ cfg bc, configs[i]? = some cfg ∧ a.phase i = .testing ∧
      Broadcaster.step broadcasterPublishChannelSize a.bc (.publish cfg.name) = some bc ∧
      a' = { a with bc := bc, phase := Function.update a.phase i (if ok then .waiting else .exiting) } := by
  simp only [step] at hs
  split at hs
  · rename_i cfg hcfg
    obtain ⟨hphase, hs⟩ := Option.ite_none_right_eq_some.mp hs
    obtain ⟨bc, hbc, rfl⟩ := Option.map_eq_some_iff.mp hs
    exact ⟨cfg, bc, hcfg, hphase, hbc, rfl⟩
  · cases hs

theorem step_cancel (hs : step parseDuration configs a (.cancel i) = some a') :
    a.phase i = .waiting ∧ a' = a.setPhase i .exiting := by
  simp only [step] at hs
  obtain ⟨hphase, hs⟩ := Option.ite_none_right_eq_some.mp hs
  cases hs
  exact ⟨hphase, rfl⟩

/-- The deferred unsubscription of a routine that subscribed, and its return. -/
theorem step_exit (hs : step parseDuration configs a (.exit i) = some a') :
    a.phase i = .exiting ∧
      ((∃ c bc, a.chan i = some c ∧ Broadcaster.step broadcasterPublishChannelSize a.bc (.unsubscribe c) = some bc ∧
          a' = { a with bc := bc, phase := Function.update a.phase i .exited }) ∨
        a.chan i = none ∧ a' = a.setPhase i .exited) := by
  simp only [step] at hs
  obtain ⟨hphase, hs⟩ := Option.ite_none_right_eq_some.mp hs
  refine ⟨hphase, ?_⟩
  split at hs
  · rename_i c hc
    obtain ⟨bc, hbc, rfl⟩ := Option.map_eq_some_iff.mp hs
    exact .inl ⟨c, bc, hc, hbc, rfl⟩
  · rename_i hc
    cases hs
    exact .inr ⟨hc, rfl⟩

theorem step_broadcast {bl : Broadcaster.Label String} (hs : step parseDuration configs a (.broadcast bl) = some a') :
    isStartMove bl = true ∧ ∃ bc, Broadcaster.step broadcasterPublishChannelSize a.bc bl = some bc ∧
      a' = { a with bc := bc } := by
  simp only [step] at hs
  obtain ⟨hmove, hs⟩ := Option.ite_none_right_eq_some.mp hs
  obtain ⟨bc, hbc, rfl⟩ := Option.map_eq_some_iff.mp hs
  exact ⟨hmove, bc, hbc, rfl⟩

end Moves

/-! ## Runs started by `TestRun`s -/

section Causality

variable {parseDuration : String → Except String Duration} {configs : List SynTestConfig}
  {a a' : Routines} {l : Label} {ls : List Label}

/-- A routine of the agent whose test has the name `t` ran its test in the moves `ls`, and
published a `TestRun` of `t`. -/
def RanTest (configs : List SynTestConfig) (ls : List Label) (t : String) : Prop :=
  ∃ j ok cfg, Label.runTest j ok ∈ ls ∧ configs[j]? = some cfg ∧ cfg.name = t

/-- The run `p` that a `TestRun` started came after a run of its test: the moves `ls` split
into `ls₁`, in which a routine whose test has the name `p.2` ran it, and `ls₂`, in which the
routine `p.1` received the `TestRun`. -/
def TriggeredAfter (configs : List SynTestConfig) (ls : List Label) (p : Nat × String) : Prop :=
  ∃ ls₁ ls₂, ls = ls₁ ++ ls₂ ∧ RanTest configs ls₁ p.2 ∧ Label.receive p.1 ∈ ls₂

theorem RanTest.append {t : String} (h : RanTest configs ls t) (ls' : List Label) :
    RanTest configs (ls ++ ls') t := by
  obtain ⟨j, ok, cfg, hj, hcfg, hname⟩ := h
  exact ⟨j, ok, cfg, List.mem_append_left ls' hj, hcfg, hname⟩

theorem TriggeredAfter.append {p : Nat × String} (h : TriggeredAfter configs ls p) (ls' : List Label) :
    TriggeredAfter configs (ls ++ ls') p := by
  obtain ⟨ls₁, ls₂, rfl, hran, hrecv⟩ := h
  exact ⟨ls₁, ls₂ ++ ls', List.append_assoc ls₁ ls₂ ls', hran, List.mem_append_left ls' hrecv⟩

/-- What a move does to the broadcaster and to the runs started by `TestRun`s. The
broadcaster stays, or takes one step, in which a routine publishes only the name of its own
test, in `runTest`. A run is added only when the routine `i` takes the first `TestRun` of
its channel and depends on its test. -/
theorem step_bc_triggers (hs : step parseDuration configs a l = some a') :
    (a'.bc = a.bc ∨ ∃ bl, Broadcaster.step broadcasterPublishChannelSize a.bc bl = some a'.bc ∧
      ∀ r, bl = .publish r → ∃ j ok cfg, l = .runTest j ok ∧ configs[j]? = some cfg ∧ cfg.name = r) ∧
    (a'.triggers = a.triggers ∨ ∃ i cfg c n t rest, l = .receive i ∧ configs[i]? = some cfg ∧
      a.chan i = some c ∧ (a.bc.chans c).buffer = (n, t) :: rest ∧
      triggeredBy (dependantTestMap cfg) t = true ∧ a'.triggers = a.triggers ++ [(i, t)]) := by
  cases l with
  | start i =>
    obtain ⟨cfg, -, -, ⟨-, rfl⟩ | ⟨-, -, rfl⟩ | ⟨-, -, bc, hbc, rfl⟩⟩ := step_start hs
    · exact ⟨.inl rfl, .inl rfl⟩
    · exact ⟨.inl rfl, .inl rfl⟩
    · exact ⟨.inr ⟨_, hbc, fun r hr => by cases hr⟩, .inl rfl⟩
  | tick i =>
    obtain ⟨-, -, -, -, rfl⟩ := step_tick hs
    exact ⟨.inl rfl, .inl rfl⟩
  | receive i =>
    obtain ⟨cfg, c, n, t, rest, bc, hcfg, hc, -, hbuf, hbc, rfl⟩ := step_receive hs
    by_cases htrig : triggeredBy (dependantTestMap cfg) t = true
    · rw [if_pos htrig]
      exact ⟨.inr ⟨_, hbc, fun r hr => by cases hr⟩, .inr ⟨i, cfg, c, n, t, rest, rfl, hcfg, hc, hbuf, htrig, rfl⟩⟩
    · rw [if_neg htrig]
      exact ⟨.inr ⟨_, hbc, fun r hr => by cases hr⟩, .inl rfl⟩
  | connect i ok =>
    obtain ⟨-, rfl⟩ := step_connect hs
    exact ⟨.inl rfl, .inl rfl⟩
  | initialise i err =>
    obtain ⟨-, rfl⟩ := step_initialise hs
    exact ⟨.inl rfl, .inl rfl⟩
  | runTest i ok =>
    obtain ⟨cfg, bc, hcfg, -, hbc, rfl⟩ := step_runTest hs
    refine ⟨.inr ⟨_, hbc, fun r hr => ?_⟩, .inl rfl⟩
    cases hr
    exact ⟨i, ok, cfg, rfl, hcfg, rfl⟩
  | cancel i =>
    obtain ⟨-, rfl⟩ := step_cancel hs
    exact ⟨.inl rfl, .inl rfl⟩
  | exit i =>
    obtain ⟨-, ⟨c, bc, -, hbc, rfl⟩ | ⟨-, rfl⟩⟩ := step_exit hs
    · exact ⟨.inr ⟨_, hbc, fun r hr => by cases hr⟩, .inl rfl⟩
    · exact ⟨.inl rfl, .inl rfl⟩
  | broadcast bl =>
    obtain ⟨hmove, bc, hbc, rfl⟩ := step_broadcast hs
    refine ⟨.inr ⟨bl, hbc, fun r hr => ?_⟩, .inl rfl⟩
    -- the loop of `Start` publishes nothing
    subst hr
    simp [isStartMove] at hmove

/-- What holds after the moves `ls`: the broadcaster holds only `TestRun`s published in
`ls`, and every run started by a `TestRun` came after a run of its test, of a routine that
depends on that test. -/
structure Causal (configs : List SynTestConfig) (ls : List Label) (a : Routines) : Prop where
  carries : Broadcaster.Carries (RanTest configs ls) a.bc
  after : ∀ p ∈ a.triggers, TriggeredAfter configs ls p
  depends : ∀ p ∈ a.triggers, ∃ cfg, configs[p.1]? = some cfg ∧ triggeredBy (dependantTestMap cfg) p.2 = true

theorem causal_init : Causal configs [] Routines.init where
  carries := Broadcaster.carries_init
  after := by simp [Routines.init]
  depends := by simp [Routines.init]

theorem Causal.of_step (h : Causal configs ls a) (hs : step parseDuration configs a l = some a') :
    Causal configs (ls ++ [l]) a' := by
  obtain ⟨hbc, htriggers⟩ := step_bc_triggers hs
  have hcarries : Broadcaster.Carries (RanTest configs (ls ++ [l])) a'.bc := by
    have hmono := h.carries.mono fun t ht => ht.append [l]
    rcases hbc with hbc | ⟨bl, hstep, hpub⟩
    · exact hbc ▸ hmono
    · refine hmono.of_step hstep fun r hr => ?_
      obtain ⟨j, ok, cfg, rfl, hcfg, hname⟩ := hpub r hr
      exact ⟨j, ok, cfg, List.mem_append_right ls (List.mem_singleton_self _), hcfg, hname⟩
  rcases htriggers with htriggers | ⟨i, cfg, c, n, t, rest, rfl, hcfg, hc, hbuf, htrig, htriggers⟩
  · refine ⟨hcarries, fun p hp => ?_, fun p hp => ?_⟩
    · exact (h.after p (htriggers ▸ hp)).append [l]
    · exact h.depends p (htriggers ▸ hp)
  · -- the `TestRun` the routine takes was in its channel, so it was published in `ls`
    have hran : RanTest configs ls t := h.carries.buffer c (n, t) (by rw [hbuf]; exact List.mem_cons_self)
    refine ⟨hcarries, fun p hp => ?_, fun p hp => ?_⟩
    · rw [htriggers] at hp
      rcases List.mem_append.mp hp with hp | hp
      · exact (h.after p hp).append _
      · rw [List.mem_singleton.mp hp]
        exact ⟨ls, [.receive i], rfl, hran, List.mem_singleton_self _⟩
    · rw [htriggers] at hp
      rcases List.mem_append.mp hp with hp | hp
      · exact h.depends p hp
      · rw [List.mem_singleton.mp hp]
        exact ⟨cfg, hcfg, htrig⟩

theorem causal_of_run (h : run (step parseDuration configs) Routines.init ls = some a) : Causal configs ls a := by
  simpa using run_invariant (I := Causal configs) (fun _ _ _ _ hi hs => hi.of_step hs) causal_init h

end Causality

theorem triggered_runs_follow_published_runs (parseDuration : String → Except String Duration)
    (configs : List SynTestConfig) {ls : List Label} {a : Routines}
    (hrun : run (step parseDuration configs) Routines.init ls = some a) {i : Nat} {t : String}
    (hi : (i, t) ∈ a.triggers) :
    (∃ cfg, configs[i]? = some cfg ∧ ("*" ∈ cfg.dependsOn ∨ "*++" ∈ cfg.dependsOn ∨ t ∈ cfg.dependsOn)) ∧
    ∃ ls₁ ls₂, ls = ls₁ ++ ls₂ ∧ Label.receive i ∈ ls₂ ∧
      ∃ j ok cfg', Label.runTest j ok ∈ ls₁ ∧ configs[j]? = some cfg' ∧ cfg'.name = t := by
  have hcausal := causal_of_run hrun
  obtain ⟨cfg, hcfg, htrig⟩ := hcausal.depends (i, t) hi
  obtain ⟨ls₁, ls₂, hls, hran, hrecv⟩ := hcausal.after (i, t) hi
  exact ⟨⟨cfg, hcfg, (triggeredBy_dependantTestMap cfg t).mp htrig⟩, ls₁, ls₂, hls, hrecv, hran⟩

/-- The check `dns-check`, run every minute. -/
def dnsCheckConfig : SynTestConfig :=
  { watchAllConfig with dependsOn := [] }

/-- A test run after each run of `dns-check`, and every minute. -/
def dnsFollowConfig : SynTestConfig :=
  { watchAllConfig with name := "dns-follow", dependsOn := ["dns-check"] }

/-- `dns-check` runs on a tick, publishes its `TestRun`, and the broadcaster hands it to the
routine of `dns-follow`, which runs its test. -/
def followRun : List Label :=
  [.start 0, .start 1, .broadcast .takeSub, .tick 0, .connect 0 true, .initialise 0 none, .runTest 0 true,
    .broadcast .takePub, .broadcast (.send 0), .receive 1]

theorem triggered_runs_follow_published_runs_dns :
    ∃ a, run (step parseMinute [dnsCheckConfig, dnsFollowConfig]) Routines.init followRun = some a ∧
      (1, "dns-check") ∈ a.triggers ∧
      (∃ cfg, [dnsCheckConfig, dnsFollowConfig][1]? = some cfg ∧
        ("*" ∈ cfg.dependsOn ∨ "*++" ∈ cfg.dependsOn ∨ "dns-check" ∈ cfg.dependsOn)) ∧
      ∃ ls₁ ls₂, followRun = ls₁ ++ ls₂ ∧ Label.receive 1 ∈ ls₂ ∧
        ∃ j ok cfg', Label.runTest j ok ∈ ls₁ ∧ [dnsCheckConfig, dnsFollowConfig][j]? = some cfg' ∧
          cfg'.name = "dns-check" := by
  have hparse₀ : parseMinute dnsCheckConfig.«repeat» = .ok minute := rfl
  have hparse₁ : parseMinute dnsFollowConfig.«repeat» = .ok minute := rfl
  have hdeps₀ : (dependantTestMap dnsCheckConfig).entries = [] := rfl
  have hdeps₁ : (dependantTestMap dnsFollowConfig).entries ≠ [] := by decide
  have hticker : hasTicker parseMinute dnsCheckConfig = true := by decide
  have hfollow : triggeredBy (dependantTestMap dnsFollowConfig) "dns-check" = true := by decide
  have hname : dnsCheckConfig.name = "dns-check" := rfl
  obtain ⟨a, hrun, hmem⟩ : ∃ a, run (step parseMinute [dnsCheckConfig, dnsFollowConfig]) Routines.init followRun =
      some a ∧ (1, "dns-check") ∈ a.triggers := by
    simp [followRun, run, step, Broadcaster.step, Routines.init, Routines.setPhase, Broadcaster.init,
      isStartMove, broadcasterPublishChannelSize, defaultSynTestSubChannelSize, Broadcaster.Chan.empty, hparse₀,
      hparse₁, hdeps₀, hdeps₁, hticker, hfollow, hname]
  exact ⟨a, hrun, hmem, triggered_runs_follow_published_runs parseMinute _ hrun hmem⟩

/-! ## Routines that nothing starts -/

/-- The routine that moves; `none` for the loop of the broadcaster. -/
def Label.routine : Label → Option Nat
  | .start i | .tick i | .receive i | .connect i _ | .initialise i _ | .runTest i _ | .cancel i | .exit i => some i
  | .broadcast _ => none

section Untriggered

variable {parseDuration : String → Except String Duration} {configs : List SynTestConfig}
  {a a' : Routines} {l : Label} {i : Nat} {cfg : SynTestConfig}

/-- A move of another routine, or of the broadcaster, leaves the routine `i` where it is. -/
theorem phase_chan_of_ne (hs : step parseDuration configs a l = some a') (hl : l.routine ≠ some i) :
    a'.phase i = a.phase i ∧ a'.chan i = a.chan i := by
  cases l with
  | start j =>
    have hij : i ≠ j := fun h => hl (by rw [h]; rfl)
    obtain ⟨-, -, -, ⟨-, rfl⟩ | ⟨-, -, rfl⟩ | ⟨-, -, -, -, rfl⟩⟩ := step_start hs <;>
      simp [Function.update_of_ne hij]
  | tick j =>
    have hij : i ≠ j := fun h => hl (by rw [h]; rfl)
    obtain ⟨-, -, -, -, rfl⟩ := step_tick hs
    simp [Function.update_of_ne hij]
  | receive j =>
    have hij : i ≠ j := fun h => hl (by rw [h]; rfl)
    obtain ⟨-, -, -, -, -, -, -, -, -, -, -, rfl⟩ := step_receive hs
    split <;> simp [Function.update_of_ne hij]
  | connect j ok =>
    have hij : i ≠ j := fun h => hl (by rw [h]; rfl)
    obtain ⟨-, rfl⟩ := step_connect hs
    simp [Function.update_of_ne hij]
  | initialise j err =>
    have hij : i ≠ j := fun h => hl (by rw [h]; rfl)
    obtain ⟨-, rfl⟩ := step_initialise hs
    simp [Function.update_of_ne hij]
  | runTest j ok =>
    have hij : i ≠ j := fun h => hl (by rw [h]; rfl)
    obtain ⟨-, -, -, -, -, rfl⟩ := step_runTest hs
    simp [Function.update_of_ne hij]
  | cancel j =>
    have hij : i ≠ j := fun h => hl (by rw [h]; rfl)
    obtain ⟨-, rfl⟩ := step_cancel hs
    simp [Function.update_of_ne hij]
  | exit j =>
    have hij : i ≠ j := fun h => hl (by rw [h]; rfl)
    obtain ⟨-, ⟨-, -, -, -, rfl⟩ | ⟨-, rfl⟩⟩ := step_exit hs <;> simp [Function.update_of_ne hij]
  | broadcast bl =>
    obtain ⟨-, -, -, rfl⟩ := step_broadcast hs
    exact ⟨rfl, rfl⟩

theorem entries_dependantTestMap_of_nil (h : cfg.dependsOn = []) : (dependantTestMap cfg).entries = [] := by
  rw [dependantTestMap, h]
  rfl

/-- Where the routine `i` of the test `cfg` is when nothing can start its test: before `Run`
or returned from it when `Repeat` does not parse; without a channel, and never past its
`select`, when it has neither a timer nor `DependsOn`. -/
structure Untriggered (parseDuration : String → Except String Duration) (cfg : SynTestConfig) (i : Nat)
    (a : Routines) : Prop where
  unparsed : (∃ err, parseDuration cfg.«repeat» = .error err) → a.phase i = .starting ∨ a.phase i = .exited
  noChan : hasTicker parseDuration cfg = false → cfg.dependsOn = [] → a.chan i = none
  idle : hasTicker parseDuration cfg = false → cfg.dependsOn = [] →
    a.phase i = .starting ∨ a.phase i = .waiting ∨ a.phase i = .exiting ∨ a.phase i = .exited

/-- A routine that is running its test is none of these. -/
theorem Untriggered.of_running (h : Untriggered parseDuration cfg i a)
    (hp : a.phase i = .connecting ∨ a.phase i = .initialising ∨ a.phase i = .testing) :
    Untriggered parseDuration cfg i a' := by
  refine ⟨fun herr => absurd (h.unparsed herr) ?_, fun ht hd => absurd (h.idle ht hd) ?_,
    fun ht hd => absurd (h.idle ht hd) ?_⟩ <;>
  · rcases hp with hp | hp | hp <;> simp [hp]

/-- A `Repeat` that parses is no error. -/
theorem not_error_of_ok {p : Except String Duration} (h : ∃ d, p = .ok d) : ¬ ∃ err, p = .error err := by
  rintro ⟨err, herr⟩
  obtain ⟨d, hd⟩ := h
  rw [hd] at herr
  cases herr

theorem Untriggered.of_step (hcfg : configs[i]? = some cfg) (h : Untriggered parseDuration cfg i a)
    (hs : step parseDuration configs a l = some a') : Untriggered parseDuration cfg i a' := by
  by_cases hl : l.routine = some i
  swap
  · obtain ⟨hphase, hchan⟩ := phase_chan_of_ne hs hl
    exact ⟨hphase ▸ h.unparsed, hchan ▸ h.noChan, hphase ▸ h.idle⟩
  -- a move of the routine `i` itself
  cases l with
  | start j =>
    simp only [Label.routine, Option.some.injEq] at hl
    subst hl
    obtain ⟨cfg', hcfg', -, ⟨-, rfl⟩ | ⟨hok, -, rfl⟩ | ⟨hok, hdeps, -, -, rfl⟩⟩ := step_start hs <;>
      obtain rfl : cfg' = cfg := Option.some.inj (hcfg'.symm.trans hcfg)
    · -- `Run` returns the error of `Repeat`
      exact ⟨fun _ => .inr (by simp), fun ht hd => by simpa using h.noChan ht hd,
        fun _ _ => .inr (.inr (.inr (by simp)))⟩
    · -- no subscription: the routine waits in its `select`
      exact ⟨fun herr => absurd herr (not_error_of_ok hok), fun ht hd => by simpa using h.noChan ht hd,
        fun _ _ => .inr (.inl (by simp))⟩
    · exact ⟨fun herr => absurd herr (not_error_of_ok hok),
        fun _ hd => absurd (entries_dependantTestMap_of_nil hd) hdeps,
        fun _ hd => absurd (entries_dependantTestMap_of_nil hd) hdeps⟩
  | tick j =>
    simp only [Label.routine, Option.some.injEq] at hl
    subst hl
    obtain ⟨cfg', hcfg', hwait, htick, rfl⟩ := step_tick hs
    obtain rfl : cfg' = cfg := Option.some.inj (hcfg'.symm.trans hcfg)
    refine ⟨fun herr => ?_, fun ht => absurd htick (by simp [ht]), fun ht => absurd htick (by simp [ht])⟩
    rcases h.unparsed herr with hp | hp <;> simp [hp] at hwait
  | receive j =>
    simp only [Label.routine, Option.some.injEq] at hl
    subst hl
    obtain ⟨-, c, -, -, -, -, -, hc, hwait, -, -, -⟩ := step_receive hs
    refine ⟨fun herr => ?_, fun ht hd => ?_, fun ht hd => ?_⟩
    · rcases h.unparsed herr with hp | hp <;> simp [hp] at hwait
    all_goals
      rw [h.noChan ht hd] at hc
      cases hc
  | connect j ok =>
    simp only [Label.routine, Option.some.injEq] at hl
    subst hl
    exact h.of_running (.inl (step_connect hs).1)
  | initialise j err =>
    simp only [Label.routine, Option.some.injEq] at hl
    subst hl
    exact h.of_running (.inr (.inl (step_initialise hs).1))
  | runTest j ok =>
    simp only [Label.routine, Option.some.injEq] at hl
    subst hl
    obtain ⟨-, -, -, htesting, -, -⟩ := step_runTest hs
    exact h.of_running (.inr (.inr htesting))
  | cancel j =>
    simp only [Label.routine, Option.some.injEq] at hl
    subst hl
    obtain ⟨hwait, rfl⟩ := step_cancel hs
    refine ⟨fun herr => ?_, fun ht hd => by simpa using h.noChan ht hd, fun _ _ => .inr (.inr (.inl (by simp)))⟩
    rcases h.unparsed herr with hp | hp <;> simp [hp] at hwait
  | exit j =>
    simp only [Label.routine, Option.some.injEq] at hl
    subst hl
    -- the routine returns; its channel, if any, stays recorded
    obtain ⟨-, ⟨-, -, -, -, rfl⟩ | ⟨-, rfl⟩⟩ := step_exit hs <;>
      exact ⟨fun _ => .inr (by simp), fun ht hd => by simpa using h.noChan ht hd,
        fun _ _ => .inr (.inr (.inr (by simp)))⟩
  | broadcast bl => cases hl

theorem untriggered_of_reachable {allowed : Label → Prop} (hcfg : configs[i]? = some cfg)
    (h : Reachable (step parseDuration configs) allowed Routines.init a) : Untriggered parseDuration cfg i a :=
  h.invariant ⟨fun _ => .inl rfl, fun _ _ => rfl, fun _ _ => .inl rfl⟩ fun _ _ _ _ hu hs => hu.of_step hcfg hs

/-- A routine without a timer and without `DependsOn` leaves its `select` only when it is
cancelled. -/
theorem Untriggered.eq_cancel (h : Untriggered parseDuration cfg i a) (hcfg : configs[i]? = some cfg)
    (ht : hasTicker parseDuration cfg = false) (hd : cfg.dependsOn = [])
    (hs : step parseDuration configs a l = some a') (hwait : a.phase i = .waiting) (hleave : a'.phase i ≠ .waiting) :
    l = .cancel i := by
  by_cases hl : l.routine = some i
  swap
  · exact absurd ((phase_chan_of_ne hs hl).1.trans hwait) hleave
  cases l with
  | start j =>
    simp only [Label.routine, Option.some.injEq] at hl
    subst hl
    obtain ⟨-, -, hstart, -⟩ := step_start hs
    simp [hstart] at hwait
  | tick j =>
    simp only [Label.routine, Option.some.injEq] at hl
    subst hl
    obtain ⟨cfg', hcfg', -, htick, -⟩ := step_tick hs
    obtain rfl : cfg' = cfg := Option.some.inj (hcfg'.symm.trans hcfg)
    simp [ht] at htick
  | receive j =>
    simp only [Label.routine, Option.some.injEq] at hl
    subst hl
    obtain ⟨-, c, -, -, -, -, -, hc, -, -, -, -⟩ := step_receive hs
    simp [h.noChan ht hd] at hc
  | connect j ok =>
    obtain ⟨hp, -⟩ := step_connect hs
    simp only [Label.routine, Option.some.injEq] at hl
    subst hl
    simp [hwait] at hp
  | initialise j err =>
    obtain ⟨hp, -⟩ := step_initialise hs
    simp only [Label.routine, Option.some.injEq] at hl
    subst hl
    simp [hwait] at hp
  | runTest j ok =>
    obtain ⟨-, -, -, hp, -, -⟩ := step_runTest hs
    simp only [Label.routine, Option.some.injEq] at hl
    subst hl
    simp [hwait] at hp
  | cancel j =>
    simp only [Label.routine, Option.some.injEq] at hl
    rw [hl]
  | exit j =>
    obtain ⟨hp, -⟩ := step_exit hs
    simp only [Label.routine, Option.some.injEq] at hl
    subst hl
    simp [hwait] at hp
  | broadcast bl => cases hl

end Untriggered

theorem untriggered_routine_never_tests (parseDuration : String → Except String Duration)
    (configs : List SynTestConfig) {allowed : Label → Prop} {a : Routines}
    (h : Reachable (step parseDuration configs) allowed Routines.init a) {i : Nat} {cfg : SynTestConfig}
    (hcfg : configs[i]? = some cfg) :
    ((∃ err, parseDuration cfg.«repeat» = .error err) → a.phase i = .starting ∨ a.phase i = .exited) ∧
    (hasTicker parseDuration cfg = false → cfg.dependsOn = [] →
      a.chan i = none ∧ a.phase i ≠ .connecting ∧ a.phase i ≠ .initialising ∧ a.phase i ≠ .testing ∧
      ∀ l a', step parseDuration configs a l = some a' → a.phase i = .waiting → a'.phase i ≠ .waiting →
        l = .cancel i) := by
  have hu := untriggered_of_reachable hcfg h
  refine ⟨hu.unparsed, fun ht hd => ⟨hu.noChan ht hd, ?_, ?_, ?_, fun l a' hs hwait hleave =>
    hu.eq_cancel hcfg ht hd hs hwait hleave⟩⟩
  all_goals
    rcases hu.idle ht hd with hp | hp | hp | hp <;> simp [hp]

/-- `time.ParseDuration` on the durations the example uses. -/
def parseRepeat (s : String) : Except String Duration :=
  if s = "1m" then .ok minute else if s = "0s" then .ok 0 else .error ("time: invalid duration " ++ s)

/-- A test with `Repeat: 0s` and no `DependsOn`. -/
def idleConfig : SynTestConfig :=
  { watchAllConfig with name := "dns-once", «repeat» := "0s", dependsOn := [] }

theorem untriggered_routine_never_tests_idle :
    run (step parseRepeat [idleConfig]) Routines.init [.start 0] = some (Routines.init.setPhase 0 .waiting) ∧
    ((∃ err, parseRepeat idleConfig.«repeat» = .error err) →
      (Routines.init.setPhase 0 .waiting).phase 0 = .starting ∨
        (Routines.init.setPhase 0 .waiting).phase 0 = .exited) ∧
    (hasTicker parseRepeat idleConfig = false → idleConfig.dependsOn = [] →
      (Routines.init.setPhase 0 .waiting).chan 0 = none ∧
      (Routines.init.setPhase 0 .waiting).phase 0 ≠ .connecting ∧
      (Routines.init.setPhase 0 .waiting).phase 0 ≠ .initialising ∧
      (Routines.init.setPhase 0 .waiting).phase 0 ≠ .testing ∧
      ∀ l a', step parseRepeat [idleConfig] (Routines.init.setPhase 0 .waiting) l = some a' →
        (Routines.init.setPhase 0 .waiting).phase 0 = .waiting → a'.phase 0 ≠ .waiting → l = .cancel 0) := by
  have hrun : run (step parseRepeat [idleConfig]) Routines.init [.start 0] = some (Routines.init.setPhase 0 .waiting) :=
    rfl
  have hreach : Reachable (step parseRepeat [idleConfig]) (fun _ => True) Routines.init
      (Routines.init.setPhase 0 .waiting) :=
    reachable_of_run hrun (fun _ _ => trivial) Relation.ReflTransGen.refl
  exact ⟨hrun, untriggered_routine_never_tests parseRepeat [idleConfig] hreach rfl⟩

end SyntheticHeart.Routine

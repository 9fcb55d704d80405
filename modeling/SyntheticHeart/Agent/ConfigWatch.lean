import SyntheticHeart.Agent.Sync
import SyntheticHeart.Transition.System

/-!
# The loop of `Start` and the Prometheus exporter (`configWatch`, `StartPrometheus`)

Once its goroutines run, `Start` loops on a `select`: a signal on `configChan` (the first
one, `"init"`, it sends itself) or a tick of its ticker runs `SyncConfig`, and when the sync
changed the tests the loop sends on `promConfigChange`, a channel of two slots, so that the
Prometheus exporter resets its gauges; `<-ctx.Done()` ends the loop, after which `Start`
waits for the tests and the exporters and unregisters the agent. The goroutine of
`StartPrometheus` runs `PrometheusExporter.Run`, whose `select` receives from
`promConfigChange`, only when the config file sets `prometheus.address` (the chart's
comment: "Whether to run prometheus"); otherwise it returns at once, and nothing ever
receives from `promConfigChange`.

`Watch` is the loop, the channel and the exporter's goroutine, and `watchStep` one move of
one of them. A sync is `syncSyntestPluginConfigs` on what it reads from Redis; the ticker
and the signals are not modelled, so a sync may start whenever the loop is in its `select`.

* `Stuck.run`: a loop blocked in its send on a full `promConfigChange` that no exporter
  drains stays there, whatever the other goroutines do, and the plugin manager no longer
  changes.
* `disabled_prometheus_blocks_sync_loop`: without a Prometheus address, at most three syncs
  change the tests; after the third the loop is stuck, and any agent reaches that state
  after three syncs that change its tests.
-/

namespace SyntheticHeart

/-- The slots of `promConfigChange`. -/
def promConfigChangeSize : Nat := 2

/-- Where the loop of `Start` is: in its `select`, blocked in `promConfigChange <- struct{}{}`
after a sync that changed the tests, or out of `configWatch`. -/
inductive WatchPc
  | select
  | sending
  | exited
  deriving DecidableEq, Repr

/-- Where the goroutine of `StartPrometheus` is: in the loop of `PrometheusExporter.Run`, or
returned. -/
inductive PromPc
  | running
  | returned
  deriving DecidableEq, Repr

/-- The loop of `Start`, the signals in `promConfigChange`, the exporter's goroutine and the
context; as ghost state, the number of syncs that changed the tests. -/
structure Watch where
  pm : PluginManager
  loop : WatchPc
  promConfigChange : Nat
  prom : PromPc
  ctxDone : Bool
  changedSyncs : Nat

/-- `Start` as it enters `configWatch`, with the `prometheus.address` of the config file. -/
def Watch.init (serverAddress : String) (pm : PluginManager) : Watch :=
  { pm := pm
    loop := .select
    promConfigChange := 0
    prom := if serverAddress ≠ "" then .running else .returned
    ctxDone := false
    changedSyncs := 0 }

/-- The moves: the loop syncs (on a signal or a tick), sends on `promConfigChange`, or takes
`<-ctx.Done()`; the exporter takes a signal and runs `Cleanup`, or takes `<-ctx.Done()`;
the context is cancelled (by the signal handler of `main`). -/
inductive WatchLabel
  | sync (snap : ConfigSnapshot)
  | send
  | cleanup
  | cancel
  | done
  | promDone

/-- One move. -/
def watchStep (w : Watch) : WatchLabel → Option Watch
  | .sync snap =>
    if w.loop = .select then
      match syncSyntestPluginConfigs w.pm snap with
      | .ok (pm, configChanged) =>
        some { w with
          pm := pm
          loop := if configChanged then .sending else .select
          changedSyncs := if configChanged then w.changedSyncs + 1 else w.changedSyncs }
      -- `Exit` sends SIGINT to the agent, whose handler cancels the context; the loop goes on
      | .error _ => some w
    else none
  | .send =>
    if w.loop = .sending ∧ w.promConfigChange < promConfigChangeSize then
      some { w with loop := .select, promConfigChange := w.promConfigChange + 1 }
    else none
  | .cleanup =>
    if w.prom = .running ∧ 0 < w.promConfigChange then
      some { w with promConfigChange := w.promConfigChange - 1 }
    else none
  | .cancel => if w.ctxDone = false then some { w with ctxDone := true } else none
  | .done => if w.loop = .select ∧ w.ctxDone = true then some { w with loop := .exited } else none
  | .promDone => if w.prom = .running ∧ w.ctxDone = true then some { w with prom := .returned } else none

/-! ## A send that nothing receives -/

section Stuck

variable {w w' : Watch} {l : WatchLabel}

/-- The loop is blocked in its send on a full `promConfigChange`, and the exporter that would
drain it has returned. -/
structure Stuck (w : Watch) : Prop where
  sending : w.loop = .sending
  full : w.promConfigChange = promConfigChangeSize
  noReceiver : w.prom = .returned

/-- Only the context moves: the loop cannot sync, send or take `<-ctx.Done()`, and the
exporter is gone. -/
theorem Stuck.step (h : Stuck w) (hs : watchStep w l = some w') : Stuck w' ∧ w'.pm = w.pm := by
  cases l with
  | sync snap =>
    simp [watchStep, h.sending] at hs
  | send =>
    simp [watchStep, h.full] at hs
  | cleanup =>
    simp [watchStep, h.noReceiver] at hs
  | cancel =>
    simp only [watchStep] at hs
    obtain ⟨-, hs⟩ := Option.ite_none_right_eq_some.mp hs
    cases hs
    exact ⟨⟨h.sending, h.full, h.noReceiver⟩, rfl⟩
  | done =>
    simp [watchStep, h.sending] at hs
  | promDone =>
    simp [watchStep, h.noReceiver] at hs

/-- The run lemma: a stuck loop stays stuck in every continuation. -/
theorem Stuck.run (h : Stuck w) {ls : List WatchLabel} (hrun : Transition.run watchStep w ls = some w') :
    Stuck w' ∧ w'.pm = w.pm := by
  induction ls generalizing w with
  | nil =>
    simp only [Transition.run, Option.some.injEq] at hrun
    subst hrun
    exact ⟨h, rfl⟩
  | cons l ls ih =>
    obtain ⟨w₁, hs, hrun⟩ := Option.bind_eq_some_iff.mp hrun
    obtain ⟨h₁, hpm₁⟩ := h.step hs
    obtain ⟨h', hpm'⟩ := ih h₁ hrun
    exact ⟨h', hpm'.trans hpm₁⟩

end Stuck

/-! ## Without a Prometheus address -/

section Disabled

variable {w w' : Watch} {l : WatchLabel}

/-- What holds of the loop when no exporter runs: every sync that changed the tests has put
its signal into `promConfigChange`, but the one the loop is still sending. -/
structure Disabled (w : Watch) : Prop where
  noReceiver : w.prom = .returned
  room : w.promConfigChange ≤ promConfigChangeSize
  count : w.changedSyncs = w.promConfigChange + if w.loop = .sending then 1 else 0

theorem disabled_init (pm : PluginManager) : Disabled (Watch.init "" pm) where
  noReceiver := rfl
  room := by simp [Watch.init]
  count := rfl

theorem Disabled.step (h : Disabled w) (hs : watchStep w l = some w') : Disabled w' := by
  have hcount := h.count
  cases l with
  | sync snap =>
    simp only [watchStep] at hs
    obtain ⟨hselect, hs⟩ := Option.ite_none_right_eq_some.mp hs
    split at hs
    · rename_i pm configChanged hsync
      cases hs
      -- a sync that changed the tests goes on to the send
      refine ⟨h.noReceiver, h.room, ?_⟩
      rw [hselect] at hcount
      cases configChanged <;> simp [hcount]
    · cases hs
      exact h
  | send =>
    simp only [watchStep] at hs
    obtain ⟨⟨hsending, hroom⟩, hs⟩ := Option.ite_none_right_eq_some.mp hs
    cases hs
    refine ⟨h.noReceiver, hroom, ?_⟩
    rw [hsending] at hcount
    simpa using hcount
  | cleanup =>
    simp [watchStep, h.noReceiver] at hs
  | cancel =>
    simp only [watchStep] at hs
    obtain ⟨-, hs⟩ := Option.ite_none_right_eq_some.mp hs
    cases hs
    exact ⟨h.noReceiver, h.room, hcount⟩
  | done =>
    simp only [watchStep] at hs
    obtain ⟨⟨hselect, -⟩, hs⟩ := Option.ite_none_right_eq_some.mp hs
    cases hs
    refine ⟨h.noReceiver, h.room, ?_⟩
    rw [hselect] at hcount
    simpa using hcount
  | promDone =>
    simp [watchStep, h.noReceiver] at hs

/-- The third sync that changed the tests leaves the loop stuck. -/
theorem Disabled.stuck (h : Disabled w) (h3 : w.changedSyncs = 3) : Stuck w := by
  have hcount := h.count
  have hroom := h.room
  unfold promConfigChangeSize at hroom
  by_cases hsending : w.loop = .sending
  · rw [if_pos hsending] at hcount
    exact ⟨hsending, by unfold promConfigChangeSize; omega, h.noReceiver⟩
  · rw [if_neg hsending] at hcount
    omega

theorem Disabled.changedSyncs_le (h : Disabled w) : w.changedSyncs ≤ 3 := by
  have hcount := h.count
  have hroom := h.room
  unfold promConfigChangeSize at hroom
  split at hcount <;> omega

end Disabled

theorem disabled_prometheus_blocks_sync_loop (pm : PluginManager) :
    (∀ w, Transition.Reachable watchStep (fun _ => True) (Watch.init "" pm) w →
      w.changedSyncs ≤ 3 ∧ (w.changedSyncs = 3 → w.loop = .sending ∧
        ∀ ls w', Transition.run watchStep w ls = some w' → w'.loop = .sending ∧ w'.pm = w.pm)) ∧
    ∀ pm₁ pm₂ pm₃ s₁ s₂ s₃, syncSyntestPluginConfigs pm s₁ = .ok (pm₁, true) →
      syncSyntestPluginConfigs pm₁ s₂ = .ok (pm₂, true) → syncSyntestPluginConfigs pm₂ s₃ = .ok (pm₃, true) →
      ∃ w, Transition.run watchStep (Watch.init "" pm) [.sync s₁, .send, .sync s₂, .send, .sync s₃] = some w ∧
        w.pm = pm₃ ∧ w.changedSyncs = 3 := by
  refine ⟨fun w hw => ?_, fun pm₁ pm₂ pm₃ s₁ s₂ s₃ h₁ h₂ h₃ => ?_⟩
  · have hd : Disabled w := hw.invariant (disabled_init pm) fun _ _ _ _ hi hs => hi.step hs
    refine ⟨hd.changedSyncs_le, fun h3 => ?_⟩
    have hstuck := hd.stuck h3
    exact ⟨hstuck.sending, fun ls w' hrun => ⟨(hstuck.run hrun).1.sending, (hstuck.run hrun).2⟩⟩
  · -- the loop takes the three syncs, and sends after the first two
    refine ⟨⟨pm₃, .sending, 2, .returned, false, 3⟩, ?_, rfl, rfl⟩
    simp [Transition.run, watchStep, Watch.init, promConfigChangeSize, h₁, h₂, h₃]

/-- Redis holding `ping/default` at version `v`. -/
def pingSnapshotAt (v : String) : ConfigSnapshot :=
  { summaries := .ok ((∅ : GoMap String SyntestConfigSummary).insert "ping/default"
      ⟨"ping", "default", "ping/default", v, ""⟩)
    fetch := fun _ => .ok { pingConfig with version := v } }

/-- Three new versions of `ping/default`, on an agent without a Prometheus address. -/
theorem disabled_prometheus_blocks_sync_loop_ping :
    ∃ w, Transition.run watchStep (Watch.init "" pingAgent)
        [.sync (pingSnapshotAt "2"), .send, .sync (pingSnapshotAt "3"), .send, .sync (pingSnapshotAt "4")] = some w ∧
      w.changedSyncs = 3 ∧ w.loop = .sending ∧
      ∀ ls w', Transition.run watchStep w ls = some w' → w'.loop = .sending ∧ w'.pm = w.pm := by
  obtain ⟨pm₁, h₁, pm₂, h₂, pm₃, h₃⟩ : ∃ pm₁, syncSyntestPluginConfigs pingAgent (pingSnapshotAt "2") = .ok (pm₁, true) ∧
      ∃ pm₂, syncSyntestPluginConfigs pm₁ (pingSnapshotAt "3") = .ok (pm₂, true) ∧
      ∃ pm₃, syncSyntestPluginConfigs pm₂ (pingSnapshotAt "4") = .ok (pm₃, true) :=
    ⟨_, rfl, _, rfl, _, rfl⟩
  obtain ⟨w, hrun, -, h3⟩ := (disabled_prometheus_blocks_sync_loop pingAgent).2 pm₁ pm₂ pm₃ _ _ _ h₁ h₂ h₃
  have hreach : Transition.Reachable watchStep (fun _ => True) (Watch.init "" pingAgent) w :=
    Transition.reachable_of_run hrun (fun _ _ => trivial) Relation.ReflTransGen.refl
  exact ⟨w, hrun, h3, ((disabled_prometheus_blocks_sync_loop pingAgent).1 w hreach).2 h3⟩

end SyntheticHeart

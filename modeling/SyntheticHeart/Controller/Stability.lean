import SyntheticHeart.Controller.Reconcile

/-!
# Successive reconciles of one test

The controller reconciles a test again whenever the object changes, and agents come and
go between two runs. What keeps the agents from restarting the test for nothing is that a
run changes little when little has changed:

* a run keeps the agent of the status while it is valid (`reconcile_agent_sticky`);
* the config a run writes is a function of the spec and of the outcome it records in the
  status (`writtenSelectors_of_decision`), so its version changes only with the outcome;
* a run that sees the active agents the previous run saw decides what that run decided
  (`reconcileAssignment_of_same_agents`), finds its version in Redis and writes nothing
  but the status.

`reconcile_stable` puts the three together for a run, any changes to Redis that keep the
test's config, and the next run.
-/

namespace SyntheticHeart

open GoMap

namespace Reconciler

/-- `configInRedis.Version` in `updateTestConfigInRedis`: the version of the config Redis
holds, `""` when the fetch fails. -/
def versionInRedis (store : Redis) (configId : String) : String :=
  match store.fetchTestConfig configId with
  | .ok c => c.version
  | .error _ => ""

/-- The node and pod-label selectors a reconcile writes, given the spec and the outcome it
records in the status: with an agent assigned, the checked selectors and `$agentId`; for
every valid agent, the checked selectors; otherwise the spec's own. -/
def writtenSelectors (synTest : V1.SyntheticTest) (agent : String) (deployed : Bool) :
    String × GoMap String String :=
  if deployed then
    if needsNodeAssignment synTest = true ∨ needsPodAssignment synTest = true then
      (checkedNode synTest, (checkedPodLabelSelector synTest).insert specialKeyAgentId agent)
    else (checkedNode synTest, checkedPodLabelSelector synTest)
  else (synTest.spec.node, synTest.spec.podLabelSelector)

section Writes

variable {activeAgents : GoMap String AgentStatus} {synTest : V1.SyntheticTest}

theorem writtenSelectors_of_decision {asg : Assignment} (h : Decision activeAgents synTest asg) :
    (asg.node, asg.podLabelSelector) = writtenSelectors synTest asg.agent asg.deployed := by
  cases h with
  | both => rfl
  | noValidAgents => rfl
  | assigned _ _ _ hneeds => simp [writtenSelectors, hneeds]
  | multiple hnode hpod => simp [writtenSelectors, hnode, hpod]

/-- What a reconcile reads of the object besides the status. -/
theorem writtenSelectors_status (st : V1.SyntheticTestStatus) (agent : String) (deployed : Bool) :
    writtenSelectors { synTest with status := st } agent deployed = writtenSelectors synTest agent deployed :=
  rfl

@[simp] theorem versionInRedis_writeTestConfigStatus (store : Redis) (configId statusId : String)
    (status : SyntestConfigStatus) :
    versionInRedis (store.writeTestConfigStatus statusId status) configId = versionInRedis store configId := rfl

/-- After `updateTestConfigInRedis`, Redis holds the version of the config it was given:
either it held it already, or it is written. -/
theorem versionInRedis_updateTestConfigInRedis (enc : Encoding) (store : Redis) (newAgent node : String)
    (sel : GoMap String String) :
    versionInRedis (updateTestConfigInRedis enc store synTest (computeSynTestConfigId synTest.name synTest.«namespace»)
        newAgent node sel) (computeSynTestConfigId synTest.name synTest.«namespace») =
      enc.configHash (newTestConfig synTest node sel) := by
  unfold updateTestConfigInRedis
  dsimp only
  split_ifs with h
  · exact h.1
  · simp [versionInRedis, Redis.fetchTestConfig, Redis.writeTestConfig, Redis.writeTestConfigStatus,
      computeSynTestConfigId, newTestConfig]

/-- `updateTestConfigInRedis` returns early, without `WriteTestConfig`, when Redis holds the
version of the config and the status names the agent. -/
theorem updateTestConfigInRedis_of_version (enc : Encoding) (store : Redis) (configId newAgent node : String)
    (sel : GoMap String String)
    (hversion : versionInRedis store configId = enc.configHash (newTestConfig synTest node sel))
    (hagent : synTest.status.agent = newAgent) :
    updateTestConfigInRedis enc store synTest configId newAgent node sel = store := by
  unfold updateTestConfigInRedis
  exact if_pos ⟨hversion, hagent⟩

end Writes

/-! ## Runs that see the same agents -/

section SameAgents

variable {synTest : V1.SyntheticTest}

theorem getValidAgentsForTest_congr {A A' : GoMap String AgentStatus} (hA : ∀ b, A'.lookup b = A.lookup b)
    {node : String} {sel : GoMap String String} {validAgents : GoMap String Bool}
    (hv : getValidAgentsForTest A synTest node sel = .ok validAgents) :
    ∃ validAgents', getValidAgentsForTest A' synTest node sel = .ok validAgents' ∧
      ∀ b, b ∈ validAgents' ↔ b ∈ validAgents := by
  have hchecks := getValidAgentsForTest_ok_iff.mp ⟨validAgents, hv⟩
  obtain ⟨validAgents', hv'⟩ := getValidAgentsForTest_ok_iff.mpr fun e he =>
    hchecks e (AList.mem_lookup_iff.mp ((hA e.1).symm.trans (AList.mem_lookup_iff.mpr he)))
  refine ⟨validAgents', hv', fun b => ?_⟩
  rw [mem_getValidAgentsForTest hv' b, mem_getValidAgentsForTest hv b, hA]

/-- A reconcile that sees the active agents the previous one saw, of the object that one
left, decides what that one decided, whatever it draws. -/
theorem reconcileAssignment_of_same_agents {A A' : GoMap String AgentStatus} {asg : Assignment}
    (h : Decision A synTest asg) (hA : ∀ b, A'.lookup b = A.lookup b) (r : Nat) :
    reconcileAssignment A' { synTest with status := ⟨asg.deployed, asg.agent, asg.message⟩ } r = .ok asg := by
  cases h with
  | both hnode hpod => exact reconcileAssignment_of_both r hnode hpod
  | noValidAgents hone v hv hempty =>
    obtain ⟨v', hv', hmem⟩ := getValidAgentsForTest_congr hA hv
    have hempty' : v'.entries = [] :=
      entries_eq_nil_iff.mpr fun b hb => not_mem_of_entries_nil hempty b ((hmem b).mp hb)
    exact reconcileAssignment_of_empty r hone hv' hempty'
  | assigned hone v hv hneeds a ha _ =>
    -- the agent it assigned is still valid, and it is the agent of the status
    obtain ⟨v', hv', hmem⟩ := getValidAgentsForTest_congr hA hv
    exact reconcileAssignment_of_sticky r hone hv' hneeds ((hmem a).mpr ha)
  | multiple hnode hpod v hv hne =>
    obtain ⟨v', hv', hmem⟩ := getValidAgentsForTest_congr hA hv
    have hne' : v'.entries ≠ [] := fun h' =>
      hne (entries_eq_nil_iff.mpr fun b hb => entries_eq_nil_iff.mp h' b ((hmem b).mpr hb))
    exact reconcileAssignment_of_multiple r hnode hpod hv' hne'

end SameAgents

/-! ## Two successive runs -/

section Runs

variable (enc : Encoding) (agentStatusDeadline : Duration)

/-- A run of a test that asks for one assignment changes the agent of the status only when
that agent is not valid at the run. -/
theorem reconcile_agent_sticky (store : Redis) (synTest : V1.SyntheticTest) (now : Time)
    (timestamp : String) (r : Nat)
    (hneeds : needsNodeAssignment synTest = true ∨ needsPodAssignment synTest = true)
    (hone : ¬(needsNodeAssignment synTest = true ∧ needsPodAssignment synTest = true))
    (hchange : (reconcile enc store synTest now timestamp agentStatusDeadline r).2.1.status.agent ≠
      synTest.status.agent) :
    ∃ validAgents, getValidAgentsForTest (Sync.fetchActiveAgents store now agentStatusDeadline) synTest
        (checkedNode synTest) (checkedPodLabelSelector synTest) = .ok validAgents ∧
      synTest.status.agent ∉ validAgents := by
  cases h : reconcileAssignment (Sync.fetchActiveAgents store now agentStatusDeadline) synTest r with
  | error result =>
    rw [reconcile_of_error h] at hchange
    exact absurd rfl hchange
  | ok asg =>
    rw [reconcile_of_ok h] at hchange
    cases decision_of_reconcileAssignment h with
    | both hnode hpod => exact absurd ⟨hnode, hpod⟩ hone
    | noValidAgents _ v hv hempty => exact ⟨v, hv, not_mem_of_entries_nil hempty _⟩
    | assigned _ v hv _ a _ hsticky => exact ⟨v, hv, fun hst => hchange (hsticky hst)⟩
    | multiple hnode hpod => simp [hnode, hpod] at hneeds

theorem reconcile_stable {store₀ : Redis} {synTest₀ : V1.SyntheticTest} {now₁ : Time} (timestamp₁ : String)
    {r₁ : Nat} {asg₁ : Assignment}
    (h₁ : reconcileAssignment (Sync.fetchActiveAgents store₀ now₁ agentStatusDeadline) synTest₀ r₁ = .ok asg₁)
    {store₁' : Redis}
    (hkeep : versionInRedis store₁' (computeSynTestConfigId synTest₀.name synTest₀.«namespace») =
      versionInRedis (reconcile enc store₀ synTest₀ now₁ timestamp₁ agentStatusDeadline r₁).1
        (computeSynTestConfigId synTest₀.name synTest₀.«namespace»))
    (now₂ : Time) (timestamp₂ : String) (r₂ : Nat) :
    let configId := computeSynTestConfigId synTest₀.name synTest₀.«namespace»
    let run₁ := reconcile enc store₀ synTest₀ now₁ timestamp₁ agentStatusDeadline r₁
    let run₂ := reconcile enc store₁' run₁.2.1 now₂ timestamp₂ agentStatusDeadline r₂
    ((needsNodeAssignment synTest₀ = true ∨ needsPodAssignment synTest₀ = true) →
        ¬(needsNodeAssignment synTest₀ = true ∧ needsPodAssignment synTest₀ = true) →
        run₂.2.1.status.agent ≠ run₁.2.1.status.agent →
        ∃ validAgents, getValidAgentsForTest (Sync.fetchActiveAgents store₁' now₂ agentStatusDeadline) run₁.2.1
            (checkedNode run₁.2.1) (checkedPodLabelSelector run₁.2.1) = .ok validAgents ∧
          run₁.2.1.status.agent ∉ validAgents) ∧
      (run₂.2.1.status.agent = run₁.2.1.status.agent → run₂.2.1.status.deployed = run₁.2.1.status.deployed →
        versionInRedis run₂.1 configId = versionInRedis store₁' configId) ∧
      ((∀ b, (Sync.fetchActiveAgents store₁' now₂ agentStatusDeadline).lookup b =
          (Sync.fetchActiveAgents store₀ now₁ agentStatusDeadline).lookup b) →
        run₂.1 = store₁'.writeTestConfigStatus configId ⟨asg₁.deployed, asg₁.message, asg₁.agent, timestamp₂⟩ ∧
          run₂.2.1 = run₁.2.1) := by
  have hdec₁ := decision_of_reconcileAssignment h₁
  dsimp only
  rw [reconcile_of_ok h₁] at hkeep ⊢
  dsimp only
  set synTest₁ := { synTest₀ with status := ⟨asg₁.deployed, asg₁.agent, asg₁.message⟩ }
  -- after the first run Redis holds the version of the config it wrote
  have hversion₁ : versionInRedis store₁' (computeSynTestConfigId synTest₀.name synTest₀.«namespace») =
      enc.configHash (newTestConfig synTest₁ asg₁.node asg₁.podLabelSelector) := by
    rw [hkeep, versionInRedis_writeTestConfigStatus, versionInRedis_updateTestConfigInRedis]
    rfl
  refine ⟨reconcile_agent_sticky enc agentStatusDeadline store₁' synTest₁ now₂ timestamp₂ r₂, ?_, fun hA => ?_⟩
  · -- the same outcome writes the same selectors, hence the same config
    cases h₂ : reconcileAssignment (Sync.fetchActiveAgents store₁' now₂ agentStatusDeadline) synTest₁ r₂ with
    | error result =>
      rw [reconcile_of_error h₂]
      exact fun _ _ => rfl
    | ok asg₂ =>
      rw [reconcile_of_ok h₂]
      intro hagent hdeployed
      have hsel : (asg₂.node, asg₂.podLabelSelector) = (asg₁.node, asg₁.podLabelSelector) := by
        rw [writtenSelectors_of_decision (decision_of_reconcileAssignment h₂), writtenSelectors_of_decision hdec₁,
          writtenSelectors_status]
        exact congrArg₂ _ hagent hdeployed
      obtain ⟨hnode, hpods⟩ := Prod.mk.inj hsel
      rw [hversion₁, versionInRedis_writeTestConfigStatus, versionInRedis_updateTestConfigInRedis, hnode, hpods]
  · -- the second run decides what the first decided, and finds its version in Redis
    rw [reconcile_of_ok (reconcileAssignment_of_same_agents hdec₁ hA r₂),
      updateTestConfigInRedis_of_version enc store₁' _ _ _ _ hversion₁ rfl]
    exact ⟨rfl, rfl⟩

/-- Redis with the two agents of `twoAgents`, which published their status at midnight on
2024-01-01. -/
def twoAgentsStore : Redis := { Redis.empty with agents := twoAgents }

theorem reconcile_stable_twoAgents :
    ∃ asg₁, reconcileAssignment (Sync.fetchActiveAgents twoAgentsStore 1704067201000000000 minute)
        pingOnOnePod 0 = .ok asg₁ ∧
      let enc : Encoding := ⟨fun c => c.nodeSelector, fun _ => ""⟩
      let run₁ := reconcile enc twoAgentsStore pingOnOnePod 1704067201000000000 "t1" minute 0
      (reconcile enc run₁.1 run₁.2.1 1704067201000000000 "t2" minute 7).1 =
        run₁.1.writeTestConfigStatus "ping/default" ⟨asg₁.deployed, asg₁.message, asg₁.agent, "t2"⟩ := by
  obtain ⟨asg₁, h₁⟩ : ∃ asg₁, reconcileAssignment (Sync.fetchActiveAgents twoAgentsStore 1704067201000000000 minute)
      pingOnOnePod 0 = .ok asg₁ := ⟨_, rfl⟩
  refine ⟨asg₁, h₁, ?_⟩
  have hA := Sync.fetchActiveAgents_congr 1704067201000000000 minute
    (@agents_reconcile pingOnOnePod ⟨fun c => c.nodeSelector, fun _ => ""⟩ twoAgentsStore
      1704067201000000000 "t1" minute 0)
  exact ((reconcile_stable ⟨fun c => c.nodeSelector, fun _ => ""⟩ minute "t1" h₁ rfl 1704067201000000000 "t2" 7).2.2
    fun b => by rw [hA]).1

end Runs

end Reconciler

end SyntheticHeart

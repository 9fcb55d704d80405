import SyntheticHeart.Controller.Sync
import SyntheticHeart.Go.Filepath
import SyntheticHeart.Go.Strings

/-!
# Reconciling a `SyntheticTest` (`synthetictest_controller.go`)

`Reconcile` writes the config of a test to Redis and, when the test asks for it, assigns
the test to one agent. A `$` in the node selector, or `$podName: $` in the pod-label
selector, asks for an assignment; asking for both is an error. For an assignment the
controller checks the agents against the selector with `$` read as `*` and without the
`$podName` key, keeps the agent of the status when it is still valid and otherwise picks
one, and writes the selector with `$agentId` set to that agent. Without an assignment the
selector is written as it is and every valid agent runs the test.

The decision (`reconcileAssignment`) is separated from the writes (`reconcile`): the agent,
node selector and pod-label selector passed to `updateTestConfigInRedis`, and the status
passed to `updateTestStatus`. The version hash and the raw config are computed by library
code (`Encoding`).

* `reconcile_agrees_with_agents`: the agents that accept the written config, by the
  agent's own check, are the assigned agent alone, none, or the controller's valid agents.
* `reconcile_stable`: the assignment is sticky, and a run that sees what the previous run
  saw writes no config.
* `reconcile_assigns_placeholder`: an agent that never published a status can be assigned.
-/

namespace SyntheticHeart

open GoMap

/-- The two encodings `Reconcile` leaves to library code: the version,
`ComputeHash(fmt.Sprintf("%v", config))`, and the raw config, `yaml.Marshal(spec)`. The
printed config is a function of its fields: `fmt` prints maps sorted by key, the nested
`Timeouts` through its `String` method, and the unexported state of a fresh message as
zero values. -/
structure Encoding where
  configHash : SynTestConfig → String
  marshalSpec : V1.SyntheticTestSpec → String

/-- What a reconcile returns to the controller runtime. -/
inductive ReconcileResult
  | done
  | requeueAfter (d : Duration)
  | error (msg : String)
  deriving DecidableEq, Repr

/-- The writes a reconcile decides on: the agent, node selector and pod-label selector
passed to `updateTestConfigInRedis`, the status passed to `updateTestStatus`, and the
result returned after them. -/
structure Assignment where
  agent : String
  node : String
  podLabelSelector : GoMap String String
  deployed : Bool
  message : String
  result : ReconcileResult

namespace Reconciler

/-- `strings.Contains(instance.Spec.Node, "$")`. -/
def needsNodeAssignment (synTest : V1.SyntheticTest) : Bool :=
  Strings.contains synTest.spec.node '$'

/-- `instance.Spec.PodLabelSelector[$podName] == "$"`. -/
def needsPodAssignment (synTest : V1.SyntheticTest) : Bool :=
  synTest.spec.podLabelSelector.lookup specialKeyPodName = some "$"

/-- The body of the loop of `getValidAgentsForTest`, on the agent `e.1` whose published
status is `e.2`. -/
def validAgentsStep (synTest : V1.SyntheticTest) (node : String) (podLabelSelector : GoMap String String)
    (validAgents : GoMap String Bool) (e : Σ _ : String, AgentStatus) : Except String (GoMap String Bool) :=
  match isAgentValidForSynTest e.2.agentConfig e.1 synTest.name synTest.«namespace» node
      podLabelSelector synTest.labels with
  | .error err => .error (wrap "error checking agent selector" err)
  | .ok true => .ok (validAgents.insert e.1 true)
  | .ok false => .ok validAgents

/-- `getValidAgentsForTest`: the active agents whose published config passes the selector
check, or the first error of that check. -/
def getValidAgentsForTest (activeAgents : GoMap String AgentStatus) (synTest : V1.SyntheticTest)
    (node : String) (podLabelSelector : GoMap String String) : Except String (GoMap String Bool) :=
  activeAgents.entries.foldlM (validAgentsStep synTest node podLabelSelector) ∅

/-- `SelectRandomAgent`, with `r` the value `rand.IntN` draws from: the agent at that
position in the map's iteration order. -/
def selectRandomAgent (validAgents : GoMap String Bool) (r : Nat) : Except String String :=
  let n := validAgents.entries.length
  let index := if 1 < n then r % (n - 1) else 0
  match validAgents.entries[index]? with
  | some e => .ok e.1
  | none => .error "error selecting random agent, index out of range"

/-- The `newTestConfig` of `updateTestConfigInRedis`, before its version is set. -/
def newTestConfig (synTest : V1.SyntheticTest) (node : String) (podLabelSelector : GoMap String String) :
    SynTestConfig :=
  { name := synTest.name
    version := ""
    labels := synTest.labels
    pluginName := synTest.spec.plugin
    displayName := synTest.spec.displayName
    description := synTest.spec.description
    importance := synTest.spec.importance
    «repeat» := synTest.spec.«repeat»
    nodeSelector := node
    podLabelSelector := podLabelSelector
    «namespace» := synTest.«namespace»
    dependsOn := synTest.spec.dependsOn
    timeouts := some (synTest.spec.timeouts.getD ⟨"", "", ""⟩)
    pluginRestartPolicy := synTest.spec.pluginRestartPolicy
    logWaitTime := synTest.spec.logWaitTime
    config := synTest.spec.config
    runtime := ∅ }

/-- `updateTestConfigInRedis`: the config is written, with its hash as the version, unless
Redis holds that version already and the agent is the one of the status. A failed fetch
reads as the zero config. -/
def updateTestConfigInRedis (enc : Encoding) (store : Redis) (synTest : V1.SyntheticTest)
    (configId newAgent node : String) (podLabelSelector : GoMap String String) : Redis :=
  let configInRedis := match store.fetchTestConfig configId with
    | .ok c => c.version
    | .error _ => ""
  let cfg := newTestConfig synTest node podLabelSelector
  let configHash := enc.configHash cfg
  if configInRedis = configHash ∧ synTest.status.agent = newAgent then store
  else store.writeTestConfig { cfg with version := configHash } (enc.marshalSpec synTest.spec)

/-- `updateTestStatus`: the status is written to Redis and to the object's status. -/
def updateTestStatus (store : Redis) (synTest : V1.SyntheticTest) (configId : String)
    (status : SyntestConfigStatus) : Redis × V1.SyntheticTest :=
  (store.writeTestConfigStatus configId status,
    { synTest with status := ⟨status.deployed, status.agent, status.message⟩ })

/-- The status message for a test that asks to be assigned both by node and by pod. -/
def bothAssignmentsMessage : String :=
  "error: config cant have \x27$\x27 in both node and podLabel selector, use only one"

/-- The status message for a test that no active agent may run. -/
def noValidAgentsMessage : String :=
  "error: no valid agents found to run the synthetic test on, retry after 1 minute"

/-- The node selector the agents are checked against: `$` reads as `*` when the test asks
to be assigned by node. -/
def checkedNode (synTest : V1.SyntheticTest) : String :=
  if needsNodeAssignment synTest then Strings.replaceAll synTest.spec.node '$' '*' else synTest.spec.node

/-- The pod-label selector the agents are checked against: without `$podName` when the
test asks to be assigned by pod. -/
def checkedPodLabelSelector (synTest : V1.SyntheticTest) : GoMap String String :=
  if needsPodAssignment synTest then synTest.spec.podLabelSelector.erase specialKeyPodName
  else synTest.spec.podLabelSelector

/-- The decisions of `Reconcile` for an object that exists, given the active agents and
the value `r` for a random pick; an error is a return before any write. -/
def reconcileAssignment (activeAgents : GoMap String AgentStatus) (synTest : V1.SyntheticTest)
    (r : Nat) : Except ReconcileResult Assignment :=
  let needsNode := needsNodeAssignment synTest
  let needsPod := needsPodAssignment synTest
  if needsNode ∧ needsPod then
    .ok { agent := "", node := synTest.spec.node, podLabelSelector := synTest.spec.podLabelSelector,
          deployed := false,
          message := bothAssignmentsMessage,
          result := .done }
  else
    let node := checkedNode synTest
    let podLabelSelector := checkedPodLabelSelector synTest
    match getValidAgentsForTest activeAgents synTest node podLabelSelector with
    | .error _ => .error (.requeueAfter (30 * second))
    | .ok validAgents =>
      if validAgents.entries.length = 0 then
        .ok { agent := "", node := synTest.spec.node, podLabelSelector := synTest.spec.podLabelSelector,
              deployed := false,
              message := noValidAgentsMessage,
              result := .requeueAfter minute }
      else if needsNode ∨ needsPod then
        let picked := if synTest.status.agent ∈ validAgents then .ok synTest.status.agent
          else selectRandomAgent validAgents r
        match picked with
        | .error err => .error (.error err)
        | .ok agent =>
          .ok { agent := agent, node := node,
                podLabelSelector := podLabelSelector.insert specialKeyAgentId agent,
                deployed := true, message := "deployed to agent", result := .done }
      else
        .ok { agent := "multiple", node := node, podLabelSelector := podLabelSelector,
              deployed := true, message := "deployed to agent", result := .done }

/-- `Reconcile` of an object that exists, at the instant `now` formatted as `timestamp`: the
store and the object after it, and its result. -/
def reconcile (enc : Encoding) (store : Redis) (synTest : V1.SyntheticTest) (now : Time)
    (timestamp : String) (agentStatusDeadline : Duration) (r : Nat) :
    Redis × V1.SyntheticTest × ReconcileResult :=
  let configId := computeSynTestConfigId synTest.name synTest.«namespace»
  let activeAgents := Sync.fetchActiveAgents store now agentStatusDeadline
  match reconcileAssignment activeAgents synTest r with
  | .error result => (store, synTest, result)
  | .ok asg =>
    let store := updateTestConfigInRedis enc store synTest configId asg.agent asg.node asg.podLabelSelector
    let (store, synTest) := updateTestStatus store synTest configId
      ⟨asg.deployed, asg.message, asg.agent, timestamp⟩
    (store, synTest, asg.result)

/-- `Reconcile` of an object that no longer exists: its config is deleted. -/
def reconcileNotFound (store : Redis) (name «namespace» : String) : Redis :=
  store.deleteTestConfig (computeSynTestConfigId name «namespace»)

/-! ## What a reconcile decides -/

section Decisions

variable {activeAgents : GoMap String AgentStatus} {synTest : V1.SyntheticTest}

/-- The four ways a reconcile that reaches its writes decides: both assignments asked
for, no valid agent, an agent assigned, or every valid agent. -/
inductive Decision (activeAgents : GoMap String AgentStatus) (synTest : V1.SyntheticTest) :
    Assignment → Prop
  | both (hnode : needsNodeAssignment synTest = true) (hpod : needsPodAssignment synTest = true) :
      Decision activeAgents synTest
        ⟨"", synTest.spec.node, synTest.spec.podLabelSelector, false, bothAssignmentsMessage, .done⟩
  | noValidAgents (hone : ¬(needsNodeAssignment synTest = true ∧ needsPodAssignment synTest = true))
      (validAgents : GoMap String Bool)
      (hvalid : getValidAgentsForTest activeAgents synTest (checkedNode synTest)
        (checkedPodLabelSelector synTest) = .ok validAgents)
      (hempty : validAgents.entries = []) :
      Decision activeAgents synTest
        ⟨"", synTest.spec.node, synTest.spec.podLabelSelector, false, noValidAgentsMessage,
          .requeueAfter minute⟩
  | assigned (hone : ¬(needsNodeAssignment synTest = true ∧ needsPodAssignment synTest = true))
      (validAgents : GoMap String Bool)
      (hvalid : getValidAgentsForTest activeAgents synTest (checkedNode synTest)
        (checkedPodLabelSelector synTest) = .ok validAgents)
      (hneeds : needsNodeAssignment synTest = true ∨ needsPodAssignment synTest = true)
      (agent : String) (hmem : agent ∈ validAgents)
      (hsticky : synTest.status.agent ∈ validAgents → agent = synTest.status.agent) :
      Decision activeAgents synTest
        ⟨agent, checkedNode synTest, (checkedPodLabelSelector synTest).insert specialKeyAgentId agent,
          true, "deployed to agent", .done⟩
  | multiple (hnode : needsNodeAssignment synTest = false) (hpod : needsPodAssignment synTest = false)
      (validAgents : GoMap String Bool)
      (hvalid : getValidAgentsForTest activeAgents synTest (checkedNode synTest)
        (checkedPodLabelSelector synTest) = .ok validAgents)
      (hne : validAgents.entries ≠ []) :
      Decision activeAgents synTest
        ⟨"multiple", checkedNode synTest, checkedPodLabelSelector synTest, true, "deployed to agent", .done⟩

theorem selectRandomAgent_mem {validAgents : GoMap String Bool} {r : Nat} {a : String}
    (h : selectRandomAgent validAgents r = .ok a) : a ∈ validAgents := by
  unfold selectRandomAgent at h
  dsimp only at h
  split at h
  · rename_i e he
    cases h
    exact List.mem_keys_of_mem (List.mem_of_getElem? he)
  · cases h

theorem decision_of_reconcileAssignment {r : Nat} {asg : Assignment}
    (h : reconcileAssignment activeAgents synTest r = .ok asg) : Decision activeAgents synTest asg := by
  unfold reconcileAssignment at h
  dsimp only at h
  by_cases hboth : needsNodeAssignment synTest = true ∧ needsPodAssignment synTest = true
  · rw [if_pos hboth] at h
    cases h
    exact .both hboth.1 hboth.2
  rw [if_neg hboth] at h
  cases hvalid : getValidAgentsForTest activeAgents synTest (checkedNode synTest)
      (checkedPodLabelSelector synTest) with
  | error e => rw [hvalid] at h; cases h
  | ok validAgents =>
    rw [hvalid] at h
    dsimp only at h
    by_cases hempty : validAgents.entries.length = 0
    · rw [if_pos hempty] at h
      cases h
      exact .noValidAgents hboth validAgents hvalid (List.length_eq_zero_iff.mp hempty)
    rw [if_neg hempty] at h
    by_cases hneeds : needsNodeAssignment synTest = true ∨ needsPodAssignment synTest = true
    · rw [if_pos hneeds] at h
      by_cases hst : synTest.status.agent ∈ validAgents
      · -- the agent of the status is still valid: it is kept
        rw [if_pos hst] at h
        cases h
        exact .assigned hboth validAgents hvalid hneeds _ hst (fun _ => rfl)
      · -- otherwise a valid agent is picked at random
        rw [if_neg hst] at h
        cases hpick : selectRandomAgent validAgents r with
        | error e => rw [hpick] at h; cases h
        | ok agent =>
          rw [hpick] at h
          cases h
          exact .assigned hboth validAgents hvalid hneeds agent (selectRandomAgent_mem hpick)
            (fun h' => absurd h' hst)
    · rw [if_neg hneeds] at h
      cases h
      simp only [not_or, Bool.not_eq_true] at hneeds
      exact .multiple hneeds.1 hneeds.2 validAgents hvalid (fun he => hempty (by simp [he]))

theorem not_mem_of_entries_nil {validAgents : GoMap String Bool} (h : validAgents.entries = [])
    (b : String) : b ∉ validAgents := by
  intro hmem
  have hkeys : b ∈ validAgents.entries.keys := AList.mem_keys.mpr hmem
  rw [h] at hkeys
  exact absurd hkeys (by simp)

theorem entries_eq_nil_iff {validAgents : GoMap String Bool} :
    validAgents.entries = [] ↔ ∀ b, b ∉ validAgents := by
  refine ⟨not_mem_of_entries_nil, fun h => ?_⟩
  cases he : validAgents.entries with
  | nil => rfl
  | cons e es =>
    have hmem : e.1 ∈ validAgents := by
      show e.1 ∈ validAgents.entries.keys
      rw [he]
      exact List.mem_cons_self
    exact absurd hmem (h e.1)

theorem selectRandomAgent_ok {validAgents : GoMap String Bool} (r : Nat) (h : validAgents.entries ≠ []) :
    ∃ a, selectRandomAgent validAgents r = .ok a := by
  have hn : 0 < validAgents.entries.length := List.length_pos_of_ne_nil h
  -- the drawn index is below `n - 1`, or it is `0`
  have hindex : (if 1 < validAgents.entries.length then r % (validAgents.entries.length - 1) else 0) <
      validAgents.entries.length := by
    split_ifs with h1
    · exact lt_of_lt_of_le (Nat.mod_lt _ (by omega)) (by omega)
    · exact hn
  unfold selectRandomAgent
  dsimp only
  rw [List.getElem?_eq_getElem hindex]
  exact ⟨_, rfl⟩

/-- The selector check of the active agents succeeds iff the check of each of them does. -/
theorem getValidAgentsForTest_ok_iff {node : String} {sel : GoMap String String} :
    (∃ validAgents, getValidAgentsForTest activeAgents synTest node sel = .ok validAgents) ↔
      ∀ e ∈ activeAgents.entries, ∃ b, isAgentValidForSynTest e.2.agentConfig e.1 synTest.name
        synTest.«namespace» node sel synTest.labels = .ok b := by
  suffices hloop : ∀ (es : List (Σ _ : String, AgentStatus)) (acc : GoMap String Bool),
      (∃ v, es.foldlM (validAgentsStep synTest node sel) acc = .ok v) ↔
        ∀ e ∈ es, ∃ b, isAgentValidForSynTest e.2.agentConfig e.1 synTest.name synTest.«namespace» node sel
          synTest.labels = .ok b from hloop _ ∅
  intro es
  induction es with
  | nil => exact fun acc => ⟨fun _ _ he => absurd he List.not_mem_nil, fun _ => ⟨acc, rfl⟩⟩
  | cons e es ih =>
    intro acc
    rw [List.foldlM_cons, List.forall_mem_cons]
    unfold validAgentsStep
    -- the loop stops at the first agent whose check fails
    cases hb : isAgentValidForSynTest e.2.agentConfig e.1 synTest.name synTest.«namespace» node sel
        synTest.labels with
    | error err => simp [bind, Except.bind]
    | ok b =>
      have hok : ∃ b', (Except.ok b : Except String Bool) = .ok b' := ⟨b, rfl⟩
      cases b
      · exact (ih acc).trans ⟨fun h => ⟨hok, h⟩, fun h => h.2⟩
      · exact (ih _).trans ⟨fun h => ⟨hok, h⟩, fun h => h.2⟩

/-- A reconcile returns before its writes only when the selector check fails. -/
theorem reconcileAssignment_ok {validAgents : GoMap String Bool} (r : Nat)
    (hv : getValidAgentsForTest activeAgents synTest (checkedNode synTest) (checkedPodLabelSelector synTest) =
      .ok validAgents) :
    ∃ asg, reconcileAssignment activeAgents synTest r = .ok asg := by
  unfold reconcileAssignment
  dsimp only
  by_cases hboth : needsNodeAssignment synTest = true ∧ needsPodAssignment synTest = true
  · rw [if_pos hboth]
    exact ⟨_, rfl⟩
  rw [if_neg hboth, hv]
  dsimp only
  by_cases hempty : validAgents.entries.length = 0
  · rw [if_pos hempty]
    exact ⟨_, rfl⟩
  rw [if_neg hempty]
  by_cases hneeds : needsNodeAssignment synTest = true ∨ needsPodAssignment synTest = true
  · rw [if_pos hneeds]
    by_cases hst : synTest.status.agent ∈ validAgents
    · rw [if_pos hst]
      exact ⟨_, rfl⟩
    · rw [if_neg hst]
      have hne : validAgents.entries ≠ [] := fun he => hempty (by simp [he])
      obtain ⟨a, ha⟩ := selectRandomAgent_ok r hne
      rw [ha]
      exact ⟨_, rfl⟩
  · rw [if_neg hneeds]
    exact ⟨_, rfl⟩

/-! ### One equation per branch of `reconcileAssignment` -/

theorem reconcileAssignment_of_both (r : Nat) (hnode : needsNodeAssignment synTest = true)
    (hpod : needsPodAssignment synTest = true) :
    reconcileAssignment activeAgents synTest r =
      .ok ⟨"", synTest.spec.node, synTest.spec.podLabelSelector, false, bothAssignmentsMessage, .done⟩ := by
  unfold reconcileAssignment
  exact if_pos ⟨hnode, hpod⟩

theorem reconcileAssignment_of_empty {validAgents : GoMap String Bool} (r : Nat)
    (hone : ¬(needsNodeAssignment synTest = true ∧ needsPodAssignment synTest = true))
    (hv : getValidAgentsForTest activeAgents synTest (checkedNode synTest) (checkedPodLabelSelector synTest) =
      .ok validAgents)
    (hempty : validAgents.entries = []) :
    reconcileAssignment activeAgents synTest r =
      .ok ⟨"", synTest.spec.node, synTest.spec.podLabelSelector, false, noValidAgentsMessage,
        .requeueAfter minute⟩ := by
  unfold reconcileAssignment
  dsimp only
  rw [if_neg hone, hv]
  dsimp only
  rw [if_pos (by simp [hempty])]

/-- The agent of the status is kept while it is valid. -/
theorem reconcileAssignment_of_sticky {validAgents : GoMap String Bool} (r : Nat)
    (hone : ¬(needsNodeAssignment synTest = true ∧ needsPodAssignment synTest = true))
    (hv : getValidAgentsForTest activeAgents synTest (checkedNode synTest) (checkedPodLabelSelector synTest) =
      .ok validAgents)
    (hneeds : needsNodeAssignment synTest = true ∨ needsPodAssignment synTest = true)
    (hst : synTest.status.agent ∈ validAgents) :
    reconcileAssignment activeAgents synTest r =
      .ok ⟨synTest.status.agent, checkedNode synTest,
        (checkedPodLabelSelector synTest).insert specialKeyAgentId synTest.status.agent, true,
        "deployed to agent", .done⟩ := by
  have hne : ¬validAgents.entries.length = 0 := fun h0 =>
    not_mem_of_entries_nil (List.length_eq_zero_iff.mp h0) _ hst
  unfold reconcileAssignment
  dsimp only
  rw [if_neg hone, hv]
  dsimp only
  rw [if_neg hne, if_pos hneeds, if_pos hst]

/-- Otherwise the agent is the random pick. -/
theorem reconcileAssignment_of_pick {validAgents : GoMap String Bool} (r : Nat)
    (hone : ¬(needsNodeAssignment synTest = true ∧ needsPodAssignment synTest = true))
    (hv : getValidAgentsForTest activeAgents synTest (checkedNode synTest) (checkedPodLabelSelector synTest) =
      .ok validAgents)
    (hneeds : needsNodeAssignment synTest = true ∨ needsPodAssignment synTest = true)
    (hst : synTest.status.agent ∉ validAgents) {agent : String}
    (hpick : selectRandomAgent validAgents r = .ok agent) :
    reconcileAssignment activeAgents synTest r =
      .ok ⟨agent, checkedNode synTest, (checkedPodLabelSelector synTest).insert specialKeyAgentId agent,
        true, "deployed to agent", .done⟩ := by
  have hne : ¬validAgents.entries.length = 0 := fun h0 =>
    not_mem_of_entries_nil (List.length_eq_zero_iff.mp h0) _ (selectRandomAgent_mem hpick)
  unfold reconcileAssignment
  dsimp only
  rw [if_neg hone, hv]
  dsimp only
  rw [if_neg hne, if_pos hneeds, if_neg hst, hpick]

theorem reconcileAssignment_of_multiple {validAgents : GoMap String Bool} (r : Nat)
    (hnode : needsNodeAssignment synTest = false) (hpod : needsPodAssignment synTest = false)
    (hv : getValidAgentsForTest activeAgents synTest (checkedNode synTest) (checkedPodLabelSelector synTest) =
      .ok validAgents)
    (hne : validAgents.entries ≠ []) :
    reconcileAssignment activeAgents synTest r =
      .ok ⟨"multiple", checkedNode synTest, checkedPodLabelSelector synTest, true, "deployed to agent", .done⟩ := by
  unfold reconcileAssignment
  dsimp only
  rw [if_neg (by simp [hnode]), hv]
  dsimp only
  rw [if_neg (by simpa using hne), if_neg (by simp [hnode, hpod])]

/-! ### The writes -/

/-- A reconcile that reaches its writes: the config, then the status. -/
theorem reconcile_of_ok {enc : Encoding} {store : Redis} {now : Time} {timestamp : String}
    {agentStatusDeadline : Duration} {r : Nat} {asg : Assignment}
    (h : reconcileAssignment (Sync.fetchActiveAgents store now agentStatusDeadline) synTest r = .ok asg) :
    reconcile enc store synTest now timestamp agentStatusDeadline r =
      ((updateTestConfigInRedis enc store synTest (computeSynTestConfigId synTest.name synTest.«namespace»)
            asg.agent asg.node asg.podLabelSelector).writeTestConfigStatus
          (computeSynTestConfigId synTest.name synTest.«namespace») ⟨asg.deployed, asg.message, asg.agent, timestamp⟩,
        { synTest with status := ⟨asg.deployed, asg.agent, asg.message⟩ }, asg.result) := by
  unfold reconcile
  dsimp only
  rw [h]
  rfl

/-- A reconcile that returns before its writes changes nothing. -/
theorem reconcile_of_error {enc : Encoding} {store : Redis} {now : Time} {timestamp : String}
    {agentStatusDeadline : Duration} {r : Nat} {result : ReconcileResult}
    (h : reconcileAssignment (Sync.fetchActiveAgents store now agentStatusDeadline) synTest r = .error result) :
    reconcile enc store synTest now timestamp agentStatusDeadline r = (store, synTest, result) := by
  unfold reconcile
  dsimp only
  rw [h]

/-- A reconcile writes configs and statuses only: the agents hash is left as it was. -/
theorem agents_reconcile (enc : Encoding) (store : Redis) (now : Time) (timestamp : String)
    (agentStatusDeadline : Duration) (r : Nat) :
    (reconcile enc store synTest now timestamp agentStatusDeadline r).1.agents = store.agents := by
  cases h : reconcileAssignment (Sync.fetchActiveAgents store now agentStatusDeadline) synTest r with
  | error result => rw [reconcile_of_error h]
  | ok asg =>
    rw [reconcile_of_ok h]
    unfold updateTestConfigInRedis
    dsimp only
    split_ifs <;> rfl

end Decisions

/-! ## The random pick

`rand.IntN(len(validAgents) - 1)` draws below `n - 1`, so of the `n` positions of the map's
iteration order the pick reaches all but the last one (for `n > 1`). -/

section RandomPick

variable {validAgents : GoMap String Bool}

theorem selectRandomAgent_of_index {r i : Nat} (hi : i < validAgents.entries.length)
    (hdraw : (if 1 < validAgents.entries.length then r % (validAgents.entries.length - 1) else 0) = i) :
    selectRandomAgent validAgents r = .ok validAgents.entries[i].1 := by
  unfold selectRandomAgent
  dsimp only
  rw [hdraw, List.getElem?_eq_getElem hi]

/-- The agents of a map have distinct keys, so the agent picked names the drawn position. -/
theorem index_of_selectRandomAgent {r i : Nat} (hi : i < validAgents.entries.length)
    (h : selectRandomAgent validAgents r = .ok validAgents.entries[i].1) :
    (if 1 < validAgents.entries.length then r % (validAgents.entries.length - 1) else 0) = i := by
  unfold selectRandomAgent at h
  dsimp only at h
  split at h
  · rename_i e he
    obtain ⟨hj, rfl⟩ := List.getElem?_eq_some_iff.mp he
    exact GoMap.index_eq_of_key_eq validAgents hj hi (Except.ok.inj h)
  · cases h

theorem exists_selectRandomAgent_iff {i : Nat} (hi : i < validAgents.entries.length) :
    (∃ r, selectRandomAgent validAgents r = .ok validAgents.entries[i].1) ↔
      i = 0 ∨ i + 1 < validAgents.entries.length := by
  constructor
  · rintro ⟨r, hr⟩
    have hdraw := index_of_selectRandomAgent hi hr
    split_ifs at hdraw with hmany
    · have hlt := Nat.mod_lt r (show 0 < validAgents.entries.length - 1 by omega)
      omega
    · exact .inl hdraw.symm
  · intro hpos
    refine ⟨i, selectRandomAgent_of_index hi ?_⟩
    split_ifs with hmany
    · rcases hpos with rfl | hlt
      · exact Nat.zero_mod _
      · exact Nat.mod_eq_of_lt (by omega)
    · omega

/-- The draw `0` picks the first agent of the iteration order. -/
theorem selectRandomAgent_insert_zero (a : String) (v : Bool) :
    selectRandomAgent (validAgents.insert a v) 0 = .ok a := by
  have hlen : 0 < (validAgents.insert a v).entries.length := by simp [AList.entries_insert]
  have hpick := selectRandomAgent_of_index (r := 0) hlen (by split_ifs <;> simp)
  simpa [AList.entries_insert] using hpick

theorem selectRandomAgent_skips_last (validAgents : GoMap String Bool)
    (hne : validAgents.entries ≠ []) :
    (∀ r, ∃ a, selectRandomAgent validAgents r = .ok a ∧ a ∈ validAgents) ∧
    (∀ i (hi : i < validAgents.entries.length),
      (∃ r, selectRandomAgent validAgents r = .ok validAgents.entries[i].1) ↔
        i = 0 ∨ i + 1 < validAgents.entries.length) ∧
    ∀ a ∈ validAgents, ∃ m : GoMap String Bool,
      (∀ k, m.lookup k = validAgents.lookup k) ∧ selectRandomAgent m 0 = .ok a := by
  refine ⟨fun r => ?_, fun i hi => exists_selectRandomAgent_iff hi, fun a ha => ?_⟩
  · obtain ⟨a, hpick⟩ := selectRandomAgent_ok r hne
    exact ⟨a, hpick, selectRandomAgent_mem hpick⟩
  · -- the same map iterated from `a`: `a` inserted again with its own value
    obtain ⟨v, hv⟩ := Option.isSome_iff_exists.mp (AList.lookup_isSome.mpr ha)
    refine ⟨validAgents.insert a v, fun k => ?_, selectRandomAgent_insert_zero a v⟩
    by_cases hk : k = a
    · subst hk
      rw [AList.lookup_insert, hv]
    · rw [AList.lookup_insert_ne hk]

/-- Three valid agents; `ofList` inserts each at the front, so `agent-0` comes last. -/
def threeAgents : GoMap String Bool :=
  ofList [("agent-0/synheart", true), ("agent-1/synheart", true), ("agent-2/synheart", true)]

theorem selectRandomAgent_skips_last_three :
    threeAgents.entries ≠ [] ∧ ¬∃ r, selectRandomAgent threeAgents r = .ok "agent-0/synheart" := by
  have hne : threeAgents.entries ≠ [] := by decide
  have h2 : 2 < threeAgents.entries.length := by decide
  have hlast : threeAgents.entries[2].1 = "agent-0/synheart" := rfl
  refine ⟨hne, fun h => ?_⟩
  rw [← hlast] at h
  have hpos := ((selectRandomAgent_skips_last threeAgents hne).2.1 2 (by decide)).mp h
  have hlen : threeAgents.entries.length = 3 := by decide
  omega

end RandomPick

/-! ## The agents' own check of the written config -/

section AgentCheck

/-- A name Kubernetes accepts for a node or a pod (a DNS subdomain name): lower-case
letters, digits, `-` and `.`. -/
def IsDnsSubdomain (s : String) : Prop :=
  ∀ c ∈ s.toList, ('a' ≤ c ∧ c ≤ 'z') ∨ ('0' ≤ c ∧ c ≤ '9') ∨ c = '-' ∨ c = '.'

instance (s : String) : Decidable (IsDnsSubdomain s) := List.decidableBAll _ _

/-- An agent's config as Kubernetes names make it: its node and pod names are DNS
subdomain names, and no key of its pod labels holds a `$`. -/
def KubernetesNamed (c : AgentConfig) : Prop :=
  IsDnsSubdomain c.runTimeInfo.nodeName ∧ IsDnsSubdomain c.runTimeInfo.podName ∧
    ∀ k ∈ c.runTimeInfo.podLabels, '$' ∉ k.toList

theorem outside_of_isDnsSubdomain {s : String} (h : IsDnsSubdomain s) :
    ∀ y ∈ s.toList, Filepath.Outside '$' y := by
  intro y hy
  right
  have hmax : max '$' '*' = '*' := by decide
  rw [hmax]
  rcases h y hy with ⟨ha, -⟩ | ⟨h0, -⟩ | rfl | rfl
  · exact lt_of_lt_of_le (by decide) ha
  · exact lt_of_lt_of_le (by decide) h0
  · decide
  · decide

theorem dollar_not_mem_of_isDnsSubdomain {s : String} (h : IsDnsSubdomain s) : '$' ∉ s.toList :=
  fun hd => Filepath.ne_of_outside (outside_of_isDnsSubdomain h '$' hd) rfl

/-- A pattern that is a lone `$` matches only the name `$`. -/
theorem match_dollar {name : String} (h : '$' ∉ name.toList) : Filepath.«match» "$" name = .ok false := by
  have hp : Filepath.parse "$".toList = .ok [.lit '$'] := by decide
  simp only [Filepath.«match», hp]
  cases hn : name.toList with
  | nil => rfl
  | cons x xs =>
    have hx : x ≠ '$' := fun hx => h (by rw [hn, hx]; exact List.mem_cons_self)
    simp [Filepath.chunks, Filepath.consTerm, Filepath.matchChunks, Filepath.findChunk,
      Filepath.matchChunk, Filepath.Term.accepts, hx]

/-- `$agentId` passes for the agent it names and no other. -/
theorem podLabelSelectorEntry_agentId {c : AgentConfig} (hc : KubernetesNamed c) (b v : String) :
    podLabelSelectorEntry c b specialKeyAgentId v = .ok true ↔ v = b := by
  have hk : c.runTimeInfo.podLabels.lookup "$agentId" = none :=
    AList.lookup_eq_none.mpr fun hmem => hc.2.2 _ hmem (by decide)
  unfold podLabelSelectorEntry specialKeyMatches
  by_cases hv : v = b
  · simp [hv]
  · simp [hv, hk, specialKeyAgentId, specialKeyAgentNs, specialKeyPodName]

/-- `$podName: $` passes for no agent. -/
theorem podLabelSelectorEntry_podName_dollar {c : AgentConfig} (hc : KubernetesNamed c) (b : String) :
    podLabelSelectorEntry c b specialKeyPodName "$" = .ok false := by
  have hk : c.runTimeInfo.podLabels.lookup "$podName" = none :=
    AList.lookup_eq_none.mpr fun hmem => hc.2.2 _ hmem (by decide)
  have hm := match_dollar (dollar_not_mem_of_isDnsSubdomain hc.2.1)
  unfold podLabelSelectorEntry specialKeyMatches matchWrapped
  simp [hk, hm, specialKeyAgentId, specialKeyAgentNs, specialKeyPodName]

/-- A node selector with `$` that matches a node name still matches it with `$` read as
`*`. -/
theorem matchWrapped_replaceAll {msg pattern name : String} (hn : IsDnsSubdomain name)
    (h : matchWrapped msg pattern name = .ok true) :
    matchWrapped msg (Strings.replaceAll pattern '$' '*') name = .ok true := by
  have he : Strings.replaceAll pattern '$' '*' = pattern.map (Filepath.repl '$') := by
    apply String.toList_injective
    simp [Strings.replaceAll, String.toList_map, Filepath.repl]
  have hm : Filepath.«match» pattern name = .ok true := by
    unfold matchWrapped at h
    split at h
    · cases h; assumption
    · cases h
  have hord : Filepath.Ordinary '$' := by unfold Filepath.Ordinary; decide
  unfold matchWrapped
  rw [he, Filepath.match_replace_star hord (outside_of_isDnsSubdomain hn) hm]

/-- The controller's check with `$` read as `*` passes for an agent whose own check of the
selector as written passes. -/
theorem check_replaceAll_of_check {c : AgentConfig} (hc : KubernetesNamed c)
    {b name ns node : String} {sel labels : GoMap String String}
    (h : isAgentValidForSynTest c b name ns node sel labels = .ok true) :
    isAgentValidForSynTest c b name ns (Strings.replaceAll node '$' '*') sel labels = .ok true := by
  rw [isAgentValidForSynTest_eq_ok_true] at h ⊢
  obtain ⟨hns, hnode, hlabels, hpods⟩ := h
  refine ⟨hns, fun hne => ?_, hlabels, hpods⟩
  have hnode' : node ≠ "" := by
    rintro rfl
    exact hne (by decide)
  exact matchWrapped_replaceAll hc.1 (hnode hnode')

/-- One visit of the loop of `getValidAgentsForTest` adds the visited agent exactly when
its check passes. -/
theorem mem_validAgentsStep {synTest : V1.SyntheticTest} {node : String} {sel : GoMap String String}
    {acc acc' : GoMap String Bool} {e : Σ _ : String, AgentStatus}
    (h : validAgentsStep synTest node sel acc e = .ok acc') (b : String) :
    b ∈ acc' ↔ b ∈ acc ∨ (e.1 = b ∧ isAgentValidForSynTest e.2.agentConfig e.1 synTest.name
      synTest.«namespace» node sel synTest.labels = .ok true) := by
  unfold validAgentsStep at h
  split at h <;> rename_i hcheck
  · cases h
  · cases h
    rw [AList.mem_insert, hcheck, eq_comm]
    simp [or_comm]
  · cases h
    simp [hcheck]

theorem mem_foldlM_validAgentsStep {synTest : V1.SyntheticTest} {node : String} {sel : GoMap String String}
    (b : String) : ∀ (es : List (Σ _ : String, AgentStatus)) (acc v : GoMap String Bool),
      es.foldlM (validAgentsStep synTest node sel) acc = .ok v →
        (b ∈ v ↔ b ∈ acc ∨ ∃ e ∈ es, e.1 = b ∧ isAgentValidForSynTest e.2.agentConfig e.1 synTest.name
          synTest.«namespace» node sel synTest.labels = .ok true)
  | [], acc, v, hv => by
    cases hv
    simp
  | e :: es, acc, v, hv => by
    rw [List.foldlM_cons] at hv
    cases hstep : validAgentsStep synTest node sel acc e with
    | error err =>
      rw [hstep] at hv
      cases hv
    | ok acc' =>
      rw [hstep] at hv
      rw [mem_foldlM_validAgentsStep b es acc' v hv, mem_validAgentsStep hstep, List.exists_mem_cons_iff,
        or_assoc]

/-- The active agents the controller finds valid: those whose published config passes
the check. -/
theorem mem_getValidAgentsForTest {activeAgents : GoMap String AgentStatus} {synTest : V1.SyntheticTest}
    {node : String} {sel : GoMap String String} {validAgents : GoMap String Bool}
    (h : getValidAgentsForTest activeAgents synTest node sel = .ok validAgents) (b : String) :
    b ∈ validAgents ↔ ∃ st, activeAgents.lookup b = some st ∧
      isAgentValidForSynTest st.agentConfig b synTest.name synTest.«namespace» node sel synTest.labels = .ok true := by
  rw [mem_foldlM_validAgentsStep b _ _ _ h]
  constructor
  · rintro (hempty | ⟨e, he, rfl, hc⟩)
    · simp at hempty
    · exact ⟨e.2, AList.mem_lookup_iff.mpr he, hc⟩
  · rintro ⟨st, hst, hc⟩
    exact .inr ⟨⟨b, st⟩, AList.mem_lookup_iff.mp hst, rfl, hc⟩

/-- The placeholder's config watches every namespace and expects no label of a test: it
accepts a test exactly when the node selector matches the empty node name and every entry
of the pod-label selector passes. -/
theorem isAgentValidForSynTest_zero_iff (agentId name ns node : String) (sel labels : GoMap String String) :
    isAgentValidForSynTest .zero agentId name ns node sel labels = .ok true ↔
      (node ≠ "" → matchWrapped "error matching nodeSelector" node "" = .ok true) ∧
        ∀ e ∈ sel.entries, podLabelSelectorEntry .zero agentId e.1 e.2 = .ok true := by
  rw [isAgentValidForSynTest_eq_ok_true]
  simp [AgentConfig.zero]

end AgentCheck

/-! ## The controller and the agents agree -/

section Agreement

variable {activeAgents : GoMap String AgentStatus} {synTest : V1.SyntheticTest}

/-- Where the written selectors are the checked ones, an agent accepts the written config
iff the controller found it valid. -/
theorem accepts_iff_mem {node : String} {sel : GoMap String String} {validAgents : GoMap String Bool}
    (hv : getValidAgentsForTest activeAgents synTest node sel = .ok validAgents) {b : String}
    {st : AgentStatus} (hst : activeAgents.lookup b = some st) :
    isAgentValidForSynTest st.agentConfig b synTest.name synTest.«namespace» node sel synTest.labels = .ok true ↔
      b ∈ validAgents := by
  rw [mem_getValidAgentsForTest hv b]
  constructor
  · intro hc
    exact ⟨st, hst, hc⟩
  · rintro ⟨st', hst', hc⟩
    rw [hst] at hst'
    cases hst'
    exact hc

/-- With an agent assigned, the written `$agentId` entry lets that agent alone accept. -/
theorem accepts_iff_of_assigned (hnames : ∀ b st, activeAgents.lookup b = some st → KubernetesNamed st.agentConfig)
    {validAgents : GoMap String Bool}
    (hv : getValidAgentsForTest activeAgents synTest (checkedNode synTest) (checkedPodLabelSelector synTest) =
      .ok validAgents)
    {a : String} (hmem : a ∈ validAgents) {b : String} {st : AgentStatus} (hst : activeAgents.lookup b = some st) :
    isAgentValidForSynTest st.agentConfig b synTest.name synTest.«namespace» (checkedNode synTest)
        ((checkedPodLabelSelector synTest).insert specialKeyAgentId a) synTest.labels = .ok true ↔ b = a := by
  have hb := hnames b st hst
  rw [isAgentValidForSynTest_eq_ok_true]
  constructor
  · rintro ⟨-, -, -, hpods⟩
    have hentry := (forall_entries_iff_lookup
      (P := fun k v => podLabelSelectorEntry st.agentConfig b k v = .ok true) _).mp hpods specialKeyAgentId a
      (by simp)
    exact ((podLabelSelectorEntry_agentId hb b a).mp hentry).symm
  · rintro rfl
    -- the assigned agent passed every entry of the checked selector
    have hcheck := (accepts_iff_mem hv hst).mpr hmem
    rw [isAgentValidForSynTest_eq_ok_true] at hcheck
    obtain ⟨hns, hnode, hlabels, hpods⟩ := hcheck
    refine ⟨hns, hnode, hlabels, ?_⟩
    rw [forall_entries_iff_lookup (P := fun k v => podLabelSelectorEntry st.agentConfig b k v = .ok true)]
      at hpods ⊢
    intro k v hkv
    by_cases hk : k = specialKeyAgentId
    · subst hk
      simp only [AList.lookup_insert, Option.some.injEq] at hkv
      subst hkv
      exact (podLabelSelectorEntry_agentId hb _ _).mpr rfl
    · rw [AList.lookup_insert_ne hk] at hkv
      exact hpods k v hkv

/-- With no valid agent, no agent accepts the selectors as the test wrote them. -/
theorem not_accepts_of_empty (hnames : ∀ b st, activeAgents.lookup b = some st → KubernetesNamed st.agentConfig)
    {validAgents : GoMap String Bool}
    (hv : getValidAgentsForTest activeAgents synTest (checkedNode synTest) (checkedPodLabelSelector synTest) =
      .ok validAgents)
    (hempty : validAgents.entries = []) {b : String} {st : AgentStatus} (hst : activeAgents.lookup b = some st) :
    isAgentValidForSynTest st.agentConfig b synTest.name synTest.«namespace» synTest.spec.node
      synTest.spec.podLabelSelector synTest.labels ≠ .ok true := by
  intro hacc
  have hb := hnames b st hst
  cases hpod : needsPodAssignment synTest
  · -- the pod-label selector is the checked one, and the node selector passes as checked
    have hsel : checkedPodLabelSelector synTest = synTest.spec.podLabelSelector := by
      simp [checkedPodLabelSelector, hpod]
    have hctrl : isAgentValidForSynTest st.agentConfig b synTest.name synTest.«namespace»
        (checkedNode synTest) (checkedPodLabelSelector synTest) synTest.labels = .ok true := by
      rw [hsel]
      unfold checkedNode
      split_ifs
      · exact check_replaceAll_of_check hb hacc
      · exact hacc
    exact not_mem_of_entries_nil hempty b ((accepts_iff_mem hv hst).mp hctrl)
  · -- `$podName: $` passes for no agent
    rw [isAgentValidForSynTest_eq_ok_true] at hacc
    have hlookup : synTest.spec.podLabelSelector.lookup specialKeyPodName = some "$" := by
      simpa [needsPodAssignment] using hpod
    have hentry := (forall_entries_iff_lookup
      (P := fun k v => podLabelSelectorEntry st.agentConfig b k v = .ok true) _).mp hacc.2.2.2
      specialKeyPodName "$" hlookup
    rw [podLabelSelectorEntry_podName_dollar hb] at hentry
    cases hentry

theorem checked_of_no_assignment (hnode : needsNodeAssignment synTest = false)
    (hpod : needsPodAssignment synTest = false) :
    checkedNode synTest = synTest.spec.node ∧ checkedPodLabelSelector synTest = synTest.spec.podLabelSelector := by
  simp [checkedNode, checkedPodLabelSelector, hnode, hpod]

theorem reconcile_agrees_with_agents {r : Nat} {asg : Assignment}
    (hnames : ∀ b st, activeAgents.lookup b = some st → KubernetesNamed st.agentConfig)
    (hone : ¬(needsNodeAssignment synTest = true ∧ needsPodAssignment synTest = true))
    (h : reconcileAssignment activeAgents synTest r = .ok asg) :
    let W := newTestConfig synTest asg.node asg.podLabelSelector
    ((needsNodeAssignment synTest = true ∨ needsPodAssignment synTest = true) → asg.deployed = true →
        ∀ b st, activeAgents.lookup b = some st →
          (isAgentValidForSynTest st.agentConfig b W.name W.«namespace» W.nodeSelector W.podLabelSelector
            W.labels = .ok true ↔ b = asg.agent)) ∧
      (∀ validAgents, getValidAgentsForTest activeAgents synTest (checkedNode synTest)
          (checkedPodLabelSelector synTest) = .ok validAgents → validAgents.entries = [] →
        ∀ b st, activeAgents.lookup b = some st →
          isAgentValidForSynTest st.agentConfig b W.name W.«namespace» W.nodeSelector W.podLabelSelector
            W.labels ≠ .ok true) ∧
      (needsNodeAssignment synTest = false → needsPodAssignment synTest = false →
        ∃ validAgents, getValidAgentsForTest activeAgents synTest synTest.spec.node
            synTest.spec.podLabelSelector = .ok validAgents ∧
          ∀ b st, activeAgents.lookup b = some st →
            (isAgentValidForSynTest st.agentConfig b W.name W.«namespace» W.nodeSelector W.podLabelSelector
              W.labels = .ok true ↔ b ∈ validAgents)) := by
  cases decision_of_reconcileAssignment h with
  | both hnode hpod => exact (hone ⟨hnode, hpod⟩).elim
  | noValidAgents _ validAgents hv hempty =>
    dsimp only
    refine ⟨fun _ hdep => by simp at hdep, fun _ _ _ b st hst => not_accepts_of_empty hnames hv hempty hst,
      fun hnode hpod => ?_⟩
    obtain ⟨hn, hs⟩ := checked_of_no_assignment hnode hpod
    rw [hn, hs] at hv
    exact ⟨validAgents, hv, fun b st hst => accepts_iff_mem hv hst⟩
  | assigned _ validAgents hv hneeds a hmem _ =>
    dsimp only
    refine ⟨fun _ _ b st hst => accepts_iff_of_assigned hnames hv hmem hst, fun v hv' hempty => ?_,
      fun hnode hpod => ?_⟩
    · rw [hv] at hv'
      cases hv'
      exact absurd hmem (not_mem_of_entries_nil hempty a)
    · simp [hnode, hpod] at hneeds
  | multiple hnode hpod validAgents hv hne =>
    dsimp only
    refine ⟨fun hneeds _ => by simp [hnode, hpod] at hneeds, fun v hv' hempty => ?_, fun _ _ => ?_⟩
    · rw [hv] at hv'
      cases hv'
      exact absurd hempty hne
    · obtain ⟨hn, hs⟩ := checked_of_no_assignment hnode hpod
      refine ⟨validAgents, by rw [← hn, ← hs]; exact hv, fun b st hst => ?_⟩
      exact accepts_iff_mem hv hst

/-- What the agent pod `agent-i` on the node `node-i` publishes about itself. -/
def podAgentInfo (i : String) : AgentInfo :=
  { nodeName := "node-" ++ i
    podName := "agent-" ++ i
    podLabels := ∅
    agentNamespace := "synheart" }

/-- The config the agent pod `agent-i` publishes. -/
def podAgentConfig (i : String) : AgentConfig :=
  { matchTestLabels := ∅
    runTimeInfo := podAgentInfo i
    matchNamespaceSet := ∅ }

theorem kubernetesNamed_podAgentConfig {i : String} (hi : IsDnsSubdomain i) :
    KubernetesNamed (podAgentConfig i) := by
  have hjoin : ∀ p : String, IsDnsSubdomain p → IsDnsSubdomain (p ++ i) := by
    intro p hp c hc
    rw [String.toList_append, List.mem_append] at hc
    rcases hc with hc | hc
    · exact hp c hc
    · exact hi c hc
  refine ⟨hjoin "node-" (by decide), hjoin "agent-" (by decide), ?_⟩
  simp [podAgentConfig, podAgentInfo]

/-- Two active agents. -/
def twoAgents : GoMap String AgentStatus :=
  ((∅ : GoMap String AgentStatus).insert "agent-0/synheart"
    ⟨[], "2024-01-01T00:00:00Z", podAgentConfig "0"⟩).insert "agent-1/synheart"
    ⟨[], "2024-01-01T00:00:00Z", podAgentConfig "1"⟩

/-- The spec of a test that asks to run on one pod, any of them. -/
def pingOnOnePodSpec : V1.SyntheticTestSpec :=
  { plugin := "ping"
    node := ""
    podLabelSelector := (∅ : GoMap String String).insert "$podName" "$"
    displayName := ""
    description := ""
    importance := ""
    «repeat» := "1m"
    dependsOn := []
    timeouts := none
    pluginRestartPolicy := ""
    logWaitTime := ""
    config := "" }

/-- That test, not yet assigned. -/
def pingOnOnePod : V1.SyntheticTest :=
  { name := "ping"
    «namespace» := "default"
    labels := ∅
    spec := pingOnOnePodSpec
    status := ⟨false, "", ""⟩ }

theorem reconcile_agrees_with_agents_twoAgents :
    ∃ asg, reconcileAssignment twoAgents pingOnOnePod 0 = .ok asg ∧ asg.deployed = true ∧
      ∀ b st, twoAgents.lookup b = some st →
        (isAgentValidForSynTest st.agentConfig b "ping" "default" asg.node asg.podLabelSelector ∅ = .ok true ↔
          b = asg.agent) := by
  have hnames : ∀ b st, twoAgents.lookup b = some st → KubernetesNamed st.agentConfig := by
    intro b st hst
    rw [twoAgents] at hst
    rcases (lookup_insert_eq_some _).mp hst with ⟨-, rfl⟩ | ⟨-, hst⟩
    · exact kubernetesNamed_podAgentConfig (by decide)
    · rcases (lookup_insert_eq_some _).mp hst with ⟨-, rfl⟩ | ⟨-, hst⟩
      · exact kubernetesNamed_podAgentConfig (by decide)
      · simp at hst
  obtain ⟨asg, h⟩ : ∃ asg, reconcileAssignment twoAgents pingOnOnePod 0 = .ok asg := ⟨_, rfl⟩
  have hdep : (match reconcileAssignment twoAgents pingOnOnePod 0 with
      | .ok asg => asg.deployed
      | .error _ => false) = true := by decide
  rw [h] at hdep
  refine ⟨asg, h, hdep, fun b st hst => ?_⟩
  exact (reconcile_agrees_with_agents hnames (by decide) h).1 (.inr (by decide)) hdep b st hst

end Agreement

/-! ## Agents that never published a status -/

section Placeholder

variable {store : Redis} {synTest : V1.SyntheticTest}

theorem parseRFC3339Nano_zero_statusTime : GoTime.parseRFC3339Nano AgentStatus.zero.statusTime = none := by
  decide

theorem reconcile_assigns_placeholder (enc : Encoding) (now : Time) (timestamp : String)
    (agentStatusDeadline : Duration) (r : Nat)
    (hzero : ∀ b st, store.fetchAllAgentStatus.lookup b = some st → st = .zero)
    (hne : store.fetchAllAgentStatus.entries ≠ [])
    (hnode : synTest.spec.node = "$") (hsel : synTest.spec.podLabelSelector = ∅) :
    let synTest' := (reconcile enc store synTest now timestamp agentStatusDeadline r).2.1
    synTest'.status.deployed = true ∧
      (Sync.fetchActiveAgents store now agentStatusDeadline).lookup synTest'.status.agent = some .zero ∧
      GoTime.parseRFC3339Nano AgentStatus.zero.statusTime = none := by
  set activeAgents := Sync.fetchActiveAgents store now agentStatusDeadline with hactive_def
  -- every agent of Redis is a placeholder, and stays active
  have hactive : ∀ b st, activeAgents.lookup b = some st ↔ store.fetchAllAgentStatus.lookup b = some st := by
    intro b st
    constructor
    · exact Sync.lookup_of_lookup_fetchActiveAgents now agentStatusDeadline
    · intro hst
      have hz := hzero b st hst
      subst hz
      exact Sync.lookup_fetchActiveAgents_of_unparsed now agentStatusDeadline hst parseRFC3339Nano_zero_statusTime
  -- the test asks to be assigned by node, and the checked selectors accept the placeholder
  have hneedsNode : needsNodeAssignment synTest = true := by
    rw [needsNodeAssignment, hnode]
    decide
  have hneedsPod : needsPodAssignment synTest = false := by
    simp [needsPodAssignment, hsel]
  have hnode' : checkedNode synTest = "*" := by
    rw [checkedNode, if_pos hneedsNode, hnode]
    decide
  have hsel' : checkedPodLabelSelector synTest = ∅ := by
    simp [checkedPodLabelSelector, hneedsPod, hsel]
  have hcheck : ∀ b st, activeAgents.lookup b = some st →
      isAgentValidForSynTest st.agentConfig b synTest.name synTest.«namespace» (checkedNode synTest)
        (checkedPodLabelSelector synTest) synTest.labels = .ok true := by
    intro b st hst
    rw [hzero b st ((hactive b st).mp hst), hnode', hsel']
    exact (isAgentValidForSynTest_zero_iff _ _ _ _ _ _).mpr ⟨fun _ => by decide, by simp⟩
  obtain ⟨validAgents, hv⟩ := getValidAgentsForTest_ok_iff.mpr
    fun e he => ⟨true, hcheck e.1 e.2 (AList.mem_lookup_iff.mpr he)⟩
  obtain ⟨asg, hasg⟩ := reconcileAssignment_ok r hv
  dsimp only
  rw [reconcile_of_ok hasg]
  cases decision_of_reconcileAssignment hasg with
  | both _ hpod => simp [hneedsPod] at hpod
  | noValidAgents _ v hv' hempty =>
    -- an agent of Redis is active and valid
    rw [hv] at hv'
    cases hv'
    obtain ⟨e, he⟩ := List.exists_mem_of_ne_nil _ hne
    have hst := (hactive e.1 e.2).mpr (AList.mem_lookup_iff.mpr he)
    exact absurd ((accepts_iff_mem hv hst).mp (hcheck e.1 e.2 hst)) (not_mem_of_entries_nil hempty e.1)
  | assigned _ v hv' _ a hmem _ =>
    rw [hv] at hv'
    cases hv'
    obtain ⟨st, hst, -⟩ := (mem_getValidAgentsForTest hv a).mp hmem
    have hz := hzero a st ((hactive a st).mp hst)
    subst hz
    exact ⟨rfl, hst, parseRFC3339Nano_zero_statusTime⟩
  | multiple hnode'' _ _ _ _ => simp [hneedsNode] at hnode''

/-- The Redis of a cluster with one agent pod, `agent-0`, that has not published a status
yet: the periodic sync registered it with the placeholder. -/
def registeredPodStore : Redis := Sync.agents Redis.empty (.ok [⟨"agent-0", "synheart"⟩])

/-- A test that asks to run on any one node. -/
def pingOnAnyNode : V1.SyntheticTest :=
  { pingOnOnePod with spec := { pingOnOnePodSpec with node := "$", podLabelSelector := ∅ } }

theorem reconcile_assigns_registered_pod :
    registeredPodStore.fetchAllAgentStatus.lookup "agent-0/synheart" = some .zero ∧
      let synTest' := (reconcile ⟨fun _ => "", fun _ => ""⟩ registeredPodStore pingOnAnyNode 0 "" minute 0).2.1
      synTest'.status.deployed = true ∧
        (Sync.fetchActiveAgents registeredPodStore 0 minute).lookup synTest'.status.agent = some .zero ∧
        GoTime.parseRFC3339Nano AgentStatus.zero.statusTime = none := by
  have hstore : registeredPodStore.fetchAllAgentStatus =
      (AList.singleton "agent-0/synheart" AgentStatus.zero : GoMap String AgentStatus) := rfl
  have hzero : ∀ b st, registeredPodStore.fetchAllAgentStatus.lookup b = some st → st = .zero := by
    intro b st hst
    rw [hstore] at hst
    have hmem := AList.mem_lookup_iff.mp hst
    rw [AList.singleton_entries, List.mem_singleton] at hmem
    cases hmem
    rfl
  have hlookup : registeredPodStore.fetchAllAgentStatus.lookup "agent-0/synheart" = some .zero := by
    rw [hstore]
    apply AList.mem_lookup_iff.mpr
    rw [AList.singleton_entries]
    exact List.mem_singleton_self _
  have hne : registeredPodStore.fetchAllAgentStatus.entries ≠ [] := by
    rw [hstore, AList.singleton_entries]
    exact List.cons_ne_nil _ _
  exact ⟨hlookup, reconcile_assigns_placeholder ⟨fun _ => "", fun _ => ""⟩ 0 "" minute 0 hzero hne rfl rfl⟩

end Placeholder

end Reconciler

end SyntheticHeart

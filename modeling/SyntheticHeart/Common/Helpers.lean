import SyntheticHeart.Common.Models
import SyntheticHeart.Go.Filepath
import SyntheticHeart.Go.Strings

/-!
# Identifiers and the agent selector (`common/helpers.go`)

Plugin, config and agent ids are `/`-joined names (`computePluginId`,
`computeSynTestConfigId`, `computeAgentId`), decoded by one split
(`getPluginIdComponents`). For `/`-free names the split gives the names back, and none of
the three ids is shared by two different sets of names (`pluginId_round_trip_injective`). `isAgentValidForSynTest` decides whether an agent runs a
test: the watched namespaces, the node selector, the labels the agent expects, and the
pod-label selector with its three special keys, in that order, each of which may end the
check with `false` or with an error.

The selector check is stated as a sequence of `checkThen` stages, the pod-label stage a
`rangeAll` loop over the selector map. Its main property, `isAgentValidForSynTest_eq_ok_true`,
characterises the runs that end in `(true, nil)`: every stage passes, every selector entry
passes, in any iteration order.
-/

namespace SyntheticHeart

open GoMap

/-! ## Identifiers -/

/-- `common.ComputePluginId`. -/
def computePluginId (testName «namespace» agentId : String) : String :=
  testName ++ "/" ++ «namespace» ++ "/" ++ agentId

/-- `common.ComputeSynTestConfigId`. -/
def computeSynTestConfigId (testName testNamespace : String) : String :=
  testName ++ "/" ++ testNamespace

/-- `common.ComputeAgentId`. -/
def computeAgentId (podName «namespace» : String) : String := podName ++ "/" ++ «namespace»

/-- The five results of `common.GetPluginIdComponents`; on error the names are empty. -/
structure PluginIdComponents where
  testName : String
  testNs : String
  podName : String
  podNs : String
  err : Option String
  deriving DecidableEq, Repr

/-- `common.GetPluginIdComponents`: the first four parts of the id split at `/`. -/
def getPluginIdComponents (pluginId : String) : PluginIdComponents :=
  match Strings.split pluginId '/' with
  | a :: b :: c :: d :: _ => ⟨a, b, c, d, none⟩
  | _ => ⟨"", "", "", "", some "invalid id, not enough components"⟩

theorem computePluginId_eq (testName testNs agentId : String) :
    computePluginId testName testNs agentId =
      computeSynTestConfigId testName testNs ++ "/" ++ agentId := rfl

/-- A `/`-free first part splits off a `/`-joined string uniquely. -/
theorem eq_of_append_slash_append {a a' r r' : String} (ha : '/' ∉ a.toList)
    (ha' : '/' ∉ a'.toList) (h : a ++ "/" ++ r = a' ++ "/" ++ r') : a = a' ∧ r = r' := by
  have hsplit := congrArg (Strings.split · '/') h
  rw [Strings.split_append_slash ha, Strings.split_append_slash ha'] at hsplit
  obtain ⟨rfl, -⟩ := List.cons.inj hsplit
  exact ⟨rfl, (String.append_right_inj _).mp h⟩

theorem split_computePluginId {n ns p pns : String} (hn : '/' ∉ n.toList) (hns : '/' ∉ ns.toList)
    (hp : '/' ∉ p.toList) (hpns : '/' ∉ pns.toList) :
    Strings.split (computePluginId n ns (computeAgentId p pns)) '/' = [n, ns, p, pns] := by
  have hid : computePluginId n ns (computeAgentId p pns) =
      n ++ "/" ++ (ns ++ "/" ++ (p ++ "/" ++ pns)) := by
    simp only [computePluginId, computeAgentId, String.append_assoc]
  rw [hid, Strings.split_append_slash hn, Strings.split_append_slash hns,
    Strings.split_append_slash hp, Strings.split_of_not_mem hpns]

theorem getPluginIdComponents_computePluginId {n ns p pns : String} (hn : '/' ∉ n.toList)
    (hns : '/' ∉ ns.toList) (hp : '/' ∉ p.toList) (hpns : '/' ∉ pns.toList) :
    getPluginIdComponents (computePluginId n ns (computeAgentId p pns)) = ⟨n, ns, p, pns, none⟩ := by
  rw [getPluginIdComponents, split_computePluginId hn hns hp hpns]

theorem computeSynTestConfigId_inj {n ns n' ns' : String} (hn : '/' ∉ n.toList)
    (hn' : '/' ∉ n'.toList) (h : computeSynTestConfigId n ns = computeSynTestConfigId n' ns') :
    n = n' ∧ ns = ns' :=
  eq_of_append_slash_append hn hn' h

theorem computeAgentId_inj {p pns p' pns' : String} (hp : '/' ∉ p.toList)
    (hp' : '/' ∉ p'.toList) (h : computeAgentId p pns = computeAgentId p' pns') :
    p = p' ∧ pns = pns' :=
  eq_of_append_slash_append hp hp' h

/-- The agent id may hold `/` itself: the test's name and namespace split off first. -/
theorem computePluginId_inj {n ns a n' ns' a' : String} (hn : '/' ∉ n.toList)
    (hns : '/' ∉ ns.toList) (hn' : '/' ∉ n'.toList) (hns' : '/' ∉ ns'.toList)
    (h : computePluginId n ns a = computePluginId n' ns' a') : n = n' ∧ ns = ns' ∧ a = a' := by
  have h' : n ++ "/" ++ (ns ++ "/" ++ a) = n' ++ "/" ++ (ns' ++ "/" ++ a') := by
    simpa only [computePluginId, String.append_assoc] using h
  obtain ⟨rfl, hrest⟩ := eq_of_append_slash_append hn hn' h'
  obtain ⟨rfl, rfl⟩ := eq_of_append_slash_append hns hns' hrest
  exact ⟨rfl, rfl, rfl⟩

theorem pluginId_round_trip_injective :
    (∀ n ns p pns : String, '/' ∉ n.toList → '/' ∉ ns.toList → '/' ∉ p.toList →
      '/' ∉ pns.toList →
      getPluginIdComponents (computePluginId n ns (computeAgentId p pns)) =
        ⟨n, ns, p, pns, none⟩) ∧
    (∀ n ns a n' ns' a' : String, '/' ∉ n.toList → '/' ∉ ns.toList → '/' ∉ n'.toList →
      '/' ∉ ns'.toList → computePluginId n ns a = computePluginId n' ns' a' →
      n = n' ∧ ns = ns' ∧ a = a') ∧
    (∀ n ns n' ns' : String, '/' ∉ n.toList → '/' ∉ n'.toList →
      computeSynTestConfigId n ns = computeSynTestConfigId n' ns' → n = n' ∧ ns = ns') ∧
    (∀ p pns p' pns' : String, '/' ∉ p.toList → '/' ∉ p'.toList →
      computeAgentId p pns = computeAgentId p' pns' → p = p' ∧ pns = pns') :=
  ⟨fun _ _ _ _ hn hns hp hpns => getPluginIdComponents_computePluginId hn hns hp hpns,
    fun _ _ _ _ _ _ hn hns hn' hns' h => computePluginId_inj hn hns hn' hns' h,
    fun _ _ _ _ hn hn' h => computeSynTestConfigId_inj hn hn' h,
    fun _ _ _ _ hp hp' h => computeAgentId_inj hp hp' h⟩

/-! ## The selector check -/

/-- `errors.Wrap(err, msg).Error()`. -/
def wrap (msg err : String) : String := msg ++ ": " ++ err

/-- `filepath.Match(pattern, name)`, its error wrapped with `msg`. -/
def matchWrapped (msg pattern name : String) : Except String Bool :=
  match Filepath.«match» pattern name with
  | .ok b => .ok b
  | .error _ => .error (wrap msg "syntax error in pattern")

/-- The check of a special key of the pod-label selector against the agent's `value`:
a match lets the entry pass, a mismatch falls through to the pod-label test. -/
def specialKeyMatches (special value k v : String) : Except String Bool :=
  if k = special then matchWrapped ("error matching " ++ special ++ " in podLabelSelector") v value
  else .ok false

/-- The body of the pod-label selector loop for the entry `k: v`: `ok true` continues,
`ok false` returns `(false, nil)`, an error returns it. -/
def podLabelSelectorEntry (agentConfig : AgentConfig) (agentId k v : String) : Except String Bool :=
  if k = specialKeyAgentId ∧ v = agentId then .ok true
  else
    match specialKeyMatches specialKeyAgentNs agentConfig.runTimeInfo.agentNamespace k v with
    | .error e => .error e
    | .ok true => .ok true
    | .ok false =>
      match specialKeyMatches specialKeyPodName agentConfig.runTimeInfo.podName k v with
      | .error e => .error e
      | .ok true => .ok true
      | .ok false =>
        match agentConfig.runTimeInfo.podLabels.lookup k with
        | some val => matchWrapped "error matching podLabelSelector" v val
        | none => .ok false

/-- `common.IsAgentValidForSynTest`. The test name is only logged. -/
def isAgentValidForSynTest (agentConfig : AgentConfig) (agentId _testName testNs testNodeSelector : String)
    (testPodLabelSelector testLabels : GoMap String String) : Except String Bool :=
  -- the watched namespaces
  checkThen
    (.ok (decide (agentConfig.matchNamespaceSet.entries.length = 0) ||
      getD agentConfig.matchNamespaceSet testNs false)) <|
  -- the node selector
  checkThen
    (if testNodeSelector ≠ "" then
      matchWrapped "error matching nodeSelector" testNodeSelector agentConfig.runTimeInfo.nodeName
    else .ok true) <|
  -- the labels the agent expects of a test, a missing label reading as ""
  checkThen
    (if 0 < agentConfig.matchTestLabels.entries.length then
      rangeAll (fun k v => .ok (getD testLabels k "" == v)) agentConfig.matchTestLabels.entries
    else .ok true) <|
  -- the pod-label selector
  checkThen
    (if 0 < testPodLabelSelector.entries.length then
      rangeAll (podLabelSelectorEntry agentConfig agentId) testPodLabelSelector.entries
    else .ok true) <|
  .ok true

end SyntheticHeart

namespace SyntheticHeart

open GoMap

/-- The selector check ends in `(true, nil)` iff every stage passes and every entry of
the pod-label selector passes, whatever the order of the maps. -/
theorem isAgentValidForSynTest_eq_ok_true (agentConfig : AgentConfig)
    (agentId testName testNs testNodeSelector : String)
    (testPodLabelSelector testLabels : GoMap String String) :
    isAgentValidForSynTest agentConfig agentId testName testNs testNodeSelector
        testPodLabelSelector testLabels = .ok true ↔
      (agentConfig.matchNamespaceSet.entries = [] ∨ getD agentConfig.matchNamespaceSet testNs false = true) ∧
      (testNodeSelector ≠ "" →
        matchWrapped "error matching nodeSelector" testNodeSelector
          agentConfig.runTimeInfo.nodeName = .ok true) ∧
      (∀ e ∈ agentConfig.matchTestLabels.entries, getD testLabels e.1 "" = e.2) ∧
      (∀ e ∈ testPodLabelSelector.entries,
        podLabelSelectorEntry agentConfig agentId e.1 e.2 = .ok true) := by
  have hlabels : (if 0 < agentConfig.matchTestLabels.entries.length then
        rangeAll (fun k v => .ok (getD testLabels k "" == v)) agentConfig.matchTestLabels.entries
      else (.ok true : Except String Bool)) = .ok true ↔
      ∀ e ∈ agentConfig.matchTestLabels.entries, getD testLabels e.1 "" = e.2 := by
    split_ifs with h
    · simp [rangeAll_eq_ok_true]
    · simp_all
  have hpods : (if 0 < testPodLabelSelector.entries.length then
        rangeAll (podLabelSelectorEntry agentConfig agentId) testPodLabelSelector.entries
      else (.ok true : Except String Bool)) = .ok true ↔
      ∀ e ∈ testPodLabelSelector.entries, podLabelSelectorEntry agentConfig agentId e.1 e.2 = .ok true := by
    split_ifs with h
    · exact rangeAll_eq_ok_true _ _
    · simp_all
  have hnode : (if testNodeSelector ≠ "" then
        matchWrapped "error matching nodeSelector" testNodeSelector agentConfig.runTimeInfo.nodeName
      else (.ok true : Except String Bool)) = .ok true ↔
      (testNodeSelector ≠ "" →
        matchWrapped "error matching nodeSelector" testNodeSelector
          agentConfig.runTimeInfo.nodeName = .ok true) := by
    split_ifs with h <;> simp [h]
  simp only [isAgentValidForSynTest, checkThen_eq_ok_true, hlabels, hpods, hnode]
  simp [List.length_eq_zero_iff]

/-! ## What the selector check accepts -/

/-- `filepath.Match` fails on the pattern alone: a pattern that parses matches every name
without error. -/
theorem match_ok_of_match_ok {pattern name : String} {b : Bool} (h : Filepath.«match» pattern name = .ok b)
    (name' : String) : ∃ b', Filepath.«match» pattern name' = .ok b' := by
  unfold Filepath.«match» at h ⊢
  cases hp : Filepath.parse pattern.toList with
  | error e => rw [hp] at h; cases h
  | ok ts => exact ⟨_, rfl⟩

theorem matchWrapped_eq_ok_true (msg pattern name : String) :
    matchWrapped msg pattern name = .ok true ↔ Filepath.«match» pattern name = .ok true := by
  unfold matchWrapped
  split <;> simp_all

theorem specialKeyMatches_eq_ok_true (special value k v : String) :
    specialKeyMatches special value k v = .ok true ↔ k = special ∧ Filepath.«match» v value = .ok true := by
  unfold specialKeyMatches
  split_ifs with hk
  · simp [hk, matchWrapped_eq_ok_true]
  · simp [hk]

theorem not_of_specialKeyMatches_eq_ok_false {special value k v : String}
    (h : specialKeyMatches special value k v = .ok false) :
    ¬ (k = special ∧ Filepath.«match» v value = .ok true) := fun hm => by
  rw [(specialKeyMatches_eq_ok_true _ _ _ _).mpr hm] at h
  cases h

theorem not_match_of_specialKeyMatches_error {special value k v e : String}
    (h : specialKeyMatches special value k v = .error e) :
    k = special ∧ ∀ name b, Filepath.«match» v name ≠ .ok b := by
  unfold specialKeyMatches at h
  split_ifs at h with hk
  refine ⟨hk, fun name b hb => ?_⟩
  obtain ⟨b', hb'⟩ := match_ok_of_match_ok hb value
  unfold matchWrapped at h
  rw [hb'] at h
  cases h

/-- A special key passes when it names the agent; whatever else happens, a selector
entry passes exactly when it matches the agent id, the agent namespace, the pod name, or
a pod label of its key. The error of a malformed pattern comes from the pattern alone. -/
theorem podLabelSelectorEntry_eq_ok_true (agentConfig : AgentConfig) (agentId k v : String) :
    podLabelSelectorEntry agentConfig agentId k v = .ok true ↔
      (k = specialKeyAgentId ∧ v = agentId) ∨
        (k = specialKeyAgentNs ∧ Filepath.«match» v agentConfig.runTimeInfo.agentNamespace = .ok true) ∨
        (k = specialKeyPodName ∧ Filepath.«match» v agentConfig.runTimeInfo.podName = .ok true) ∨
        ∃ val, agentConfig.runTimeInfo.podLabels.lookup k = some val ∧ Filepath.«match» v val = .ok true := by
  have hkeys : specialKeyAgentNs ≠ specialKeyPodName := by decide
  unfold podLabelSelectorEntry
  by_cases hid : k = specialKeyAgentId ∧ v = agentId
  · simp [hid]
  rw [if_neg hid]
  cases hns : specialKeyMatches specialKeyAgentNs agentConfig.runTimeInfo.agentNamespace k v with
  | error e =>
    -- a malformed pattern under `$agentNamespace` fails every other match as well
    obtain ⟨rfl, hbad⟩ := not_match_of_specialKeyMatches_error hns
    simp only [reduceCtorEq, false_iff]
    rintro (h | ⟨-, h⟩ | ⟨h, -⟩ | ⟨val, -, h⟩)
    · exact hid h
    · exact hbad _ _ h
    · exact hkeys h
    · exact hbad _ _ h
  | ok b =>
    cases b with
    | true =>
      obtain ⟨hk, hm⟩ := (specialKeyMatches_eq_ok_true _ _ _ _).mp hns
      simp only [true_iff]
      exact .inr (.inl ⟨hk, hm⟩)
    | false =>
      have hns' := not_of_specialKeyMatches_eq_ok_false hns
      dsimp only
      cases hpod : specialKeyMatches specialKeyPodName agentConfig.runTimeInfo.podName k v with
      | error e =>
        obtain ⟨rfl, hbad⟩ := not_match_of_specialKeyMatches_error hpod
        simp only [reduceCtorEq, false_iff]
        rintro (h | ⟨h, -⟩ | ⟨-, h⟩ | ⟨val, -, h⟩)
        · exact hid h
        · exact hkeys h.symm
        · exact hbad _ _ h
        · exact hbad _ _ h
      | ok b =>
        cases b with
        | true =>
          obtain ⟨hk, hm⟩ := (specialKeyMatches_eq_ok_true _ _ _ _).mp hpod
          simp only [true_iff]
          exact .inr (.inr (.inl ⟨hk, hm⟩))
        | false =>
          have hpod' := not_of_specialKeyMatches_eq_ok_false hpod
          dsimp only
          -- only the pod label of the key is left
          cases hval : agentConfig.runTimeInfo.podLabels.lookup k with
          | none =>
            simp only [Except.ok.injEq, Bool.false_eq_true, false_iff, reduceCtorEq, false_and,
              exists_false, or_false]
            rintro (h | h | h)
            · exact hid h
            · exact hns' h
            · exact hpod' h
          | some val =>
            rw [matchWrapped_eq_ok_true]
            constructor
            · intro h
              exact .inr (.inr (.inr ⟨val, rfl, h⟩))
            · rintro (h | h | h | ⟨val', hv, h⟩)
              · exact absurd h hid
              · exact absurd h hns'
              · exact absurd h hpod'
              · cases hv
                exact h


/-! ## The result and the iteration order of the selector -/

/-- An agent pod labelled `app: web, tier: backend`. -/
def webAgentConfig : AgentConfig :=
  { AgentConfig.zero with
    runTimeInfo :=
      { nodeName := "node-0", podName := "agent-0", agentNamespace := "synheart"
        podLabels := ((∅ : GoMap String String).insert "tier" "backend").insert "app" "web" } }

/-- The selector `app: db, tier: [` iterated with `app` first. -/
def selectorAppFirst : GoMap String String :=
  ((∅ : GoMap String String).insert "tier" "[").insert "app" "db"

/-- The same selector iterated with `tier` first. -/
def selectorTierFirst : GoMap String String :=
  ((∅ : GoMap String String).insert "app" "db").insert "tier" "["

theorem isAgentValidForSynTest_error_depends_on_order :
    (∀ (agentConfig : AgentConfig) (agentId testName testNs testNodeSelector : String)
        (testPodLabelSelector testLabels : GoMap String String),
      isAgentValidForSynTest agentConfig agentId testName testNs testNodeSelector
          testPodLabelSelector testLabels = .ok true ↔
        (agentConfig.matchNamespaceSet.entries = [] ∨
          getD agentConfig.matchNamespaceSet testNs false = true) ∧
        (testNodeSelector = "" ∨
          Filepath.«match» testNodeSelector agentConfig.runTimeInfo.nodeName = .ok true) ∧
        (∀ k v, agentConfig.matchTestLabels.lookup k = some v → getD testLabels k "" = v) ∧
        (∀ k v, testPodLabelSelector.lookup k = some v →
          (k = specialKeyAgentId ∧ v = agentId) ∨
          (k = specialKeyAgentNs ∧
            Filepath.«match» v agentConfig.runTimeInfo.agentNamespace = .ok true) ∨
          (k = specialKeyPodName ∧ Filepath.«match» v agentConfig.runTimeInfo.podName = .ok true) ∨
          ∃ val, agentConfig.runTimeInfo.podLabels.lookup k = some val ∧
            Filepath.«match» v val = .ok true)) ∧
    (∀ k, selectorAppFirst.lookup k = selectorTierFirst.lookup k) ∧
    isAgentValidForSynTest webAgentConfig "agent-0/synheart" "ping" "default" ""
      selectorAppFirst ∅ = .ok false ∧
    isAgentValidForSynTest webAgentConfig "agent-0/synheart" "ping" "default" ""
      selectorTierFirst ∅ = .error "error matching podLabelSelector: syntax error in pattern" := by
  refine ⟨?_, ?_, by decide, by decide⟩
  · intro agentConfig agentId testName testNs testNodeSelector testPodLabelSelector testLabels
    have hnode : (testNodeSelector ≠ "" → matchWrapped "error matching nodeSelector"
          testNodeSelector agentConfig.runTimeInfo.nodeName = .ok true) ↔
        (testNodeSelector = "" ∨
          Filepath.«match» testNodeSelector agentConfig.runTimeInfo.nodeName = .ok true) := by
      rw [matchWrapped_eq_ok_true, or_iff_not_imp_left]
    have hlabels := @GoMap.forall_entries_iff_lookup _ _ _
      (fun k v => getD testLabels k "" = v) agentConfig.matchTestLabels
    have hpods := @GoMap.forall_entries_iff_lookup _ _ _
      (fun k v => podLabelSelectorEntry agentConfig agentId k v = .ok true) testPodLabelSelector
    rw [isAgentValidForSynTest_eq_ok_true, hnode, hlabels, hpods]
    simp only [podLabelSelectorEntry_eq_ok_true]
  · -- one Go map: the two selectors differ only in the order of their entries
    intro k
    exact AList.perm_lookup (AList.insert_insert_of_ne _ (by decide))

end SyntheticHeart

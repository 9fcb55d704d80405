import SyntheticHeart.Agent.Startup

/-!
# The sync loop refines `SyncSyntestPluginConfigs`

`Agent.System` runs `SyncSyntestPluginConfigs` one visit at a time: `n` picks the next entry
of a pass, in any order, as Go's `range` over a map may, the loop waits in
`StopAndDeleteSynTest` for the goroutine of a stopped test, and the test goroutines and the
exporters move in between. `syncSyntestPluginConfigs` of `Agent.Sync` is the same function
run at once, over the entries in the order of the maps. Both leave a cache of one shape,
`Synced`: a config id without a summary is not cached, and one with a summary has the slot
its visit of the update pass gives it (`LatestSlot`); that shape fixes the config and the
version of every slot (`Synced.cachedVersion_eq`).

The invariant of a sync in progress (`SyncProgress`) says, for each pass, which slots keep
their value from the start of the sync (the entries still to visit, and the one whose
goroutine the loop waits for) and what the others hold.

* `sync_loop_refines_syncSyntestPluginConfigs`: every sync of the agent that returns to its
  `select`, in any interleaving with the other goroutines, caches the same configs at the
  same versions as `syncSyntestPluginConfigs` on the plugin manager it started from.
-/

namespace SyntheticHeart

open GoMap PluginManager

/-- The keys of a list without duplicate keys, after its `n`-th entry is removed. -/
theorem mem_keys_eraseIdx {β : Type} {l : List (Σ _ : String, β)} (hl : l.NodupKeys) {n : Nat}
    {e : Σ _ : String, β} (he : l[n]? = some e) (j : String) :
    j ∈ (l.eraseIdx n).keys ↔ j ∈ l.keys ∧ j ≠ e.1 := by
  obtain ⟨hn, hget⟩ := List.getElem?_eq_some_iff.mp he
  have hkn : n < l.keys.length := by simpa [List.keys] using hn
  have hkey : l.keys[n] = e.1 := by simp [List.keys, hget]
  have hnodup : l.keys.Nodup := hl
  rw [List.keys, ← List.eraseIdx_map, ← List.keys, ← hnodup.erase_getElem n hkn, hkey, hnodup.mem_erase_iff]
  exact and_comm

/-! ## Starting a test again -/

namespace PluginManager

variable {pm : PluginManager} {k v : String} {c : SynTestConfig}

theorem lookup_startIfValid_ne {j : String} (h : j ≠ k) :
    (pm.startIfValid k v c).syntheticTests.lookup j = pm.syntheticTests.lookup j := by
  unfold startIfValid
  split
  · rw [lookup_startTestRoutine_ne _ _ h]
    exact AList.lookup_insert_ne h
  · rfl

/-- A test the selectors accept is cached at its config and version. -/
theorem startIfValid_accepted
    (hacc : isAgentValidForSynTest pm.config pm.agentId c.name c.«namespace» c.nodeSelector
      c.podLabelSelector c.labels = .ok true) :
    ((pm.startIfValid k v c).syntheticTests.lookup k).map (fun st => (st.config, st.version)) = some (c, v) := by
  unfold startIfValid
  rw [hacc]
  exact lookup_startTestRoutine_self _ (AList.lookup_insert _)

theorem startIfValid_rejected
    (hacc : isAgentValidForSynTest pm.config pm.agentId c.name c.«namespace» c.nodeSelector
      c.podLabelSelector c.labels ≠ .ok true) :
    pm.startIfValid k v c = pm := by
  unfold startIfValid
  split
  · rename_i hok
    exact absurd hok hacc
  · rfl

end PluginManager

/-! ## What a whole sync leaves -/

section Synced

variable (pm₀ : PluginManager) (snap : ConfigSnapshot) (latest : GoMap String SyntestConfigSummary)

/-- The cache `slot` that a whole sync from `pm₀` leaves, as `syncSyntestPluginConfigs_slot`
describes the one of `SyncSyntestPluginConfigs`. -/
structure Synced (slot : String → Option SyntheticTest) : Prop where
  absent : ∀ k, k ∉ latest → slot k = none
  visited : ∀ k w, latest.lookup k = some w →
    LatestSlot snap pm₀.config pm₀.agentId k w (pm₀.syntheticTests.lookup k) (slot k)

/-- `LatestSlot` fixes the config and the version of the slot it leaves. -/
theorem LatestSlot.map_eq {config : AgentConfig} {agentId k : String} {w : SyntestConfigSummary}
    {old new₁ new₂ : Option SyntheticTest} (h₁ : LatestSlot snap config agentId k w old new₁)
    (h₂ : LatestSlot snap config agentId k w old new₂) :
    new₁.map (fun st => (st.config, st.version)) = new₂.map (fun st => (st.config, st.version)) := by
  unfold LatestSlot at h₁ h₂
  by_cases hver : old.map SyntheticTest.version = some w.version
  · rw [if_pos hver] at h₁ h₂
    rw [h₁, h₂]
  rw [if_neg hver] at h₁ h₂
  cases hf : snap.fetch k with
  | error err =>
    rw [hf] at h₁ h₂
    rw [h₁, h₂]
  | ok cfg =>
    rw [hf] at h₁ h₂
    -- accepted: both cache the fetched config; rejected: neither caches it
    by_cases hacc : isAgentValidForSynTest config agentId cfg.name cfg.«namespace» cfg.nodeSelector
        cfg.podLabelSelector cfg.labels = .ok true
    · rw [h₁.1 hacc, h₂.1 hacc]
    · rw [h₁.2 hacc, h₂.2 hacc]

variable {pm₀ snap latest}

theorem Synced.cachedVersion_eq {slot₁ slot₂ : String → Option SyntheticTest}
    (h₁ : Synced pm₀ snap latest slot₁) (h₂ : Synced pm₀ snap latest slot₂) (k : String) :
    (slot₁ k).map (fun st => (st.config, st.version)) = (slot₂ k).map (fun st => (st.config, st.version)) := by
  by_cases hk : k ∈ latest
  · obtain ⟨w, hw⟩ := Option.isSome_iff_exists.mp (AList.lookup_isSome.mpr hk)
    exact LatestSlot.map_eq snap (h₁.visited k w hw) (h₂.visited k w hw)
  · rw [h₁.absent k hk, h₂.absent k hk]

theorem synced_syncSyntestPluginConfigs {pm' : PluginManager} {configChanged : Bool}
    (hsum : snap.summaries = .ok latest) (h : syncSyntestPluginConfigs pm₀ snap = .ok (pm', configChanged)) :
    Synced pm₀ snap latest pm'.syntheticTests.lookup := by
  obtain ⟨habsent, hslot, -⟩ := syncSyntestPluginConfigs_slot snap pm₀ latest hsum h
  exact ⟨habsent, hslot⟩

end Synced

/-! ## A sync in progress -/

section Progress

variable (pm₀ : PluginManager) (snap : ConfigSnapshot) (latest : GoMap String SyntestConfigSummary)

/-- The slot of `k` after the deletion pass. -/
def deletedSlot (k : String) : Option SyntheticTest :=
  if k ∈ latest then pm₀.syntheticTests.lookup k else none

/-- The cache during the deletion pass: the cached entries `todo` still to visit, and the
config id `waiting` whose goroutine the loop waits for, keep their slots; the others have
the slot the pass gives them. -/
structure DeletionProgress (todo : List (Σ _ : String, SyntheticTest)) (waiting : Option String)
    (slot : String → Option SyntheticTest) : Prop where
  sublist : todo.Sublist pm₀.syntheticTests.entries
  waitingFresh : ∀ k, waiting = some k → k ∉ todo.keys ∧ k ∉ latest
  kept : ∀ k, k ∈ todo.keys ∨ waiting = some k → slot k = pm₀.syntheticTests.lookup k
  passed : ∀ k, k ∉ todo.keys → waiting ≠ some k → slot k = deletedSlot pm₀ latest k

/-- The cache during the update pass: a config id without a summary is not cached; one whose
summary is still to visit in `todo`, or whose older version the loop waits to delete, keeps
its slot; the others have the slot their visit gave them. -/
structure UpdateProgress (todo : List (Σ _ : String, SyntestConfigSummary)) (waiting : Option String)
    (slot : String → Option SyntheticTest) : Prop where
  sublist : todo.Sublist latest.entries
  waitingFresh : ∀ k, waiting = some k → k ∉ todo.keys
  absent : ∀ k, k ∉ latest → slot k = none
  pending : ∀ k, k ∈ todo.keys ∨ waiting = some k → slot k = pm₀.syntheticTests.lookup k
  visited : ∀ k w, latest.lookup k = some w → k ∉ todo.keys → waiting ≠ some k →
    LatestSlot snap pm₀.config pm₀.agentId k w (pm₀.syntheticTests.lookup k) (slot k)

/-- Where a sync that started from `pm₀` on `snap`, whose summaries are `latest`, has got to,
and what the cache `slot` holds there. -/
def SyncProgress (slot : String → Option SyntheticTest) : SyncPc → Prop
  | .idle => Synced pm₀ snap latest slot
  | .deletion snap' latest' todo =>
    snap' = snap ∧ latest' = latest ∧ DeletionProgress pm₀ latest todo none slot
  | .waitDeleted k snap' latest' todo =>
    snap' = snap ∧ latest' = latest ∧ DeletionProgress pm₀ latest todo (some k) slot
  | .update snap' todo => snap' = snap ∧ UpdateProgress pm₀ snap latest todo none slot
  | .waitChanged k v c snap' todo =>
    snap' = snap ∧ UpdateProgress pm₀ snap latest todo (some k) slot ∧ snap.fetch k = .ok c ∧
      ∃ w, latest.lookup k = some w ∧ w.version = v ∧
        (pm₀.syntheticTests.lookup k).map SyntheticTest.version ≠ some v

end Progress

/-! ## The deletion pass -/

section Deletion

variable {pm₀ : PluginManager} {latest : GoMap String SyntestConfigSummary}
  {todo : List (Σ _ : String, SyntheticTest)} {slot : String → Option SyntheticTest}

/-- The visit of a cached entry: it keeps its slot when it has a summary, and the loop waits
for its goroutine otherwise. -/
theorem DeletionProgress.visit (h : DeletionProgress pm₀ latest todo none slot) {n : Nat}
    {e : Σ _ : String, SyntheticTest} (he : todo[n]? = some e) :
    (e.1 ∈ latest → DeletionProgress pm₀ latest (todo.eraseIdx n) none slot) ∧
      (e.1 ∉ latest → DeletionProgress pm₀ latest (todo.eraseIdx n) (some e.1) slot) := by
  have hnodup : todo.NodupKeys := pm₀.syntheticTests.nodupKeys.sublist h.sublist
  have hkeys := mem_keys_eraseIdx hnodup he
  have he₁ : e.1 ∈ todo.keys := List.mem_keys_of_mem (List.mem_of_getElem? he)
  have hsub : (todo.eraseIdx n).Sublist pm₀.syntheticTests.entries :=
    (List.eraseIdx_sublist todo n).trans h.sublist
  refine ⟨fun hmem => ⟨hsub, fun k hk => (by cases hk), fun k hk => ?_, fun k hk _ => ?_⟩,
    fun hnot => ⟨hsub, fun k hk => ?_, fun k hk => ?_, fun k hk hw => ?_⟩⟩
  · rcases hk with hk | hk
    · exact h.kept k (.inl ((hkeys k).mp hk).1)
    · cases hk
  · -- the entry leaves `todo` with the slot it had, which is the one the pass gives it
    by_cases hke : k = e.1
    · subst hke
      rw [h.kept _ (.inl he₁), deletedSlot, if_pos hmem]
    · exact h.passed k (fun hk' => hk ((hkeys k).mpr ⟨hk', hke⟩)) (by simp)
  · cases hk
    exact ⟨fun hk => ((hkeys e.1).mp hk).2 rfl, hnot⟩
  · rcases hk with hk | hk
    · exact h.kept k (.inl ((hkeys k).mp hk).1)
    · cases hk
      exact h.kept _ (.inl he₁)
  · have hke : k ≠ e.1 := fun hke => hw (by rw [hke])
    exact h.passed k (fun hk' => hk ((hkeys k).mpr ⟨hk', hke⟩)) (by simp)

/-- The goroutine returned: the test without a summary is deleted. -/
theorem DeletionProgress.delete {k : String} (h : DeletionProgress pm₀ latest todo (some k) slot)
    {slot' : String → Option SyntheticTest} (hslot : ∀ j, slot' j = if j = k then none else slot j) :
    DeletionProgress pm₀ latest todo none slot' := by
  obtain ⟨hk, hnot⟩ := h.waitingFresh k rfl
  refine ⟨h.sublist, fun j hj => (by cases hj), fun j hj => ?_, fun j hj _ => ?_⟩
  · rcases hj with hj | hj
    · have hjk : j ≠ k := fun hjk => hk (hjk ▸ hj)
      rw [hslot j, if_neg hjk]
      exact h.kept j (.inl hj)
    · cases hj
  · rw [hslot j]
    by_cases hjk : j = k
    · rw [if_pos hjk, deletedSlot, if_neg (hjk ▸ hnot)]
    · rw [if_neg hjk]
      exact h.passed j hj (fun hw => hjk (Option.some.inj hw).symm)

/-- The end of the deletion pass: the update pass starts over every summary. -/
theorem DeletionProgress.update (snap : ConfigSnapshot) (h : DeletionProgress pm₀ latest [] none slot) :
    UpdateProgress pm₀ snap latest latest.entries none slot := by
  refine ⟨List.Sublist.refl _, fun k hk => (by cases hk), fun k hk => ?_, fun k hk => ?_,
    fun k w hw hk => ?_⟩
  · rw [h.passed k (by simp) (by simp), deletedSlot, if_neg hk]
  · rcases hk with hk | hk
    · have hmem : k ∈ latest := AList.mem_keys.mpr hk
      rw [h.passed k (by simp) (by simp), deletedSlot, if_pos hmem]
    · cases hk
  · exact absurd (AList.mem_keys.mpr (AList.lookup_isSome.mp (by simp [hw]))) hk

end Deletion

/-! ## The update pass -/

section Update

variable {pm₀ : PluginManager} {snap : ConfigSnapshot} {latest : GoMap String SyntestConfigSummary}
  {todo : List (Σ _ : String, SyntestConfigSummary)} {slot : String → Option SyntheticTest}

/-- The summary the update pass visits is that of its config id. -/
theorem UpdateProgress.lookup_of_getElem? (h : UpdateProgress pm₀ snap latest todo none slot) {n : Nat}
    {e : Σ _ : String, SyntestConfigSummary} (he : todo[n]? = some e) : latest.lookup e.1 = some e.2 :=
  AList.mem_lookup_iff.mpr (h.sublist.subset (List.mem_of_getElem? he))

/-- A visit that leaves the slot its config id should have, and no other change. -/
theorem UpdateProgress.visit (h : UpdateProgress pm₀ snap latest todo none slot) {n : Nat}
    {e : Σ _ : String, SyntestConfigSummary} (he : todo[n]? = some e) {slot' : String → Option SyntheticTest}
    (hframe : ∀ j, j ≠ e.1 → slot' j = slot j)
    (hslot : LatestSlot snap pm₀.config pm₀.agentId e.1 e.2 (pm₀.syntheticTests.lookup e.1) (slot' e.1)) :
    UpdateProgress pm₀ snap latest (todo.eraseIdx n) none slot' := by
  have hnodup : todo.NodupKeys := latest.nodupKeys.sublist h.sublist
  have hkeys := mem_keys_eraseIdx hnodup he
  have hw := h.lookup_of_getElem? he
  refine ⟨(List.eraseIdx_sublist todo n).trans h.sublist, fun k hk => (by cases hk), fun k hk => ?_,
    fun k hk => ?_, fun k w hkw hk _ => ?_⟩
  · -- a config id without a summary is not the one visited
    have hke : k ≠ e.1 := fun hke => hk (hke ▸ AList.lookup_isSome.mp (by simp [hw]))
    rw [hframe k hke]
    exact h.absent k hk
  · rcases hk with hk | hk
    · have ⟨hk', hke⟩ := (hkeys k).mp hk
      rw [hframe k hke]
      exact h.pending k (.inl hk')
    · cases hk
  · by_cases hke : k = e.1
    · subst hke
      rw [hw, Option.some.injEq] at hkw
      subst hkw
      exact hslot
    · rw [hframe k hke]
      exact h.visited k w hkw (fun hk' => hk ((hkeys k).mpr ⟨hk', hke⟩)) (by simp)

/-- A visit that stops a cached older version: the loop waits with the slot unchanged. -/
theorem UpdateProgress.wait (h : UpdateProgress pm₀ snap latest todo none slot) {n : Nat}
    {e : Σ _ : String, SyntestConfigSummary} (he : todo[n]? = some e) :
    UpdateProgress pm₀ snap latest (todo.eraseIdx n) (some e.1) slot := by
  have hnodup : todo.NodupKeys := latest.nodupKeys.sublist h.sublist
  have hkeys := mem_keys_eraseIdx hnodup he
  have he₁ : e.1 ∈ todo.keys := List.mem_keys_of_mem (List.mem_of_getElem? he)
  refine ⟨(List.eraseIdx_sublist todo n).trans h.sublist, fun k hk => ?_, h.absent, fun k hk => ?_,
    fun k w hkw hk hwait => ?_⟩
  · cases hk
    exact fun hk => ((hkeys e.1).mp hk).2 rfl
  · rcases hk with hk | hk
    · exact h.pending k (.inl ((hkeys k).mp hk).1)
    · cases hk
      exact h.pending _ (.inl he₁)
  · have hke : k ≠ e.1 := fun hke => hwait (by rw [hke])
    exact h.visited k w hkw (fun hk' => hk ((hkeys k).mpr ⟨hk', hke⟩)) (by simp)

/-- The goroutine of the older version returned: its config id gets the slot it should
have. -/
theorem UpdateProgress.restart {k : String} {w : SyntestConfigSummary}
    (h : UpdateProgress pm₀ snap latest todo (some k) slot) (hw : latest.lookup k = some w)
    {slot' : String → Option SyntheticTest} (hframe : ∀ j, j ≠ k → slot' j = slot j)
    (hslot : LatestSlot snap pm₀.config pm₀.agentId k w (pm₀.syntheticTests.lookup k) (slot' k)) :
    UpdateProgress pm₀ snap latest todo none slot' := by
  have hk := h.waitingFresh k rfl
  refine ⟨h.sublist, fun j hj => (by cases hj), fun j hj => ?_, fun j hj => ?_, fun j w' hjw hj _ => ?_⟩
  · have hjk : j ≠ k := fun hjk => hj (hjk ▸ AList.lookup_isSome.mp (by simp [hw]))
    rw [hframe j hjk]
    exact h.absent j hj
  · rcases hj with hj | hj
    · have hjk : j ≠ k := fun hjk => hk (hjk ▸ hj)
      rw [hframe j hjk]
      exact h.pending j (.inl hj)
    · cases hj
  · by_cases hjk : j = k
    · subst hjk
      rw [hw, Option.some.injEq] at hjw
      subst hjw
      exact hslot
    · rw [hframe j hjk]
      exact h.visited j w' hjw hj (fun hw' => hjk (Option.some.inj hw').symm)

/-- The end of the update pass: the sync leaves a `Synced` cache. -/
theorem UpdateProgress.synced (h : UpdateProgress pm₀ snap latest [] none slot) : Synced pm₀ snap latest slot :=
  ⟨h.absent, fun k w hw => h.visited k w hw (by simp) (by simp)⟩

end Update

/-! ## The steps of the sync loop -/

section Steps

variable {pm₀ pm : PluginManager} {snap : ConfigSnapshot} {latest : GoMap String SyntestConfigSummary}

/-- The visit of the update pass to the summary `e`, from the slots of a pass in progress. -/
theorem visitLatest_progress (hconfig : pm.config = pm₀.config) (hid : pm.agentId = pm₀.agentId)
    {todo : List (Σ _ : String, SyntestConfigSummary)} (h : UpdateProgress pm₀ snap latest todo none pm.syntheticTests.lookup)
    {n : Nat} {e : Σ _ : String, SyntestConfigSummary} (he : todo[n]? = some e) :
    SyncProgress pm₀ snap latest (visitLatest pm snap (todo.eraseIdx n) e.1 e.2).1.syntheticTests.lookup
      (visitLatest pm snap (todo.eraseIdx n) e.1 e.2).2 := by
  have he₁ : e.1 ∈ todo.keys := List.mem_keys_of_mem (List.mem_of_getElem? he)
  have hold : pm.syntheticTests.lookup e.1 = pm₀.syntheticTests.lookup e.1 := h.pending e.1 (.inl he₁)
  unfold visitLatest
  dsimp only
  by_cases hver : (pm.syntheticTests.lookup e.1).map SyntheticTest.version = some e.2.version
  · -- the cached version is the latest: the slot stays
    rw [if_pos hver]
    refine ⟨rfl, h.visit he (fun _ _ => rfl) ?_⟩
    rw [hold] at hver
    rw [LatestSlot, if_pos hver, hold]
  rw [if_neg hver]
  have hver₀ : (pm₀.syntheticTests.lookup e.1).map SyntheticTest.version ≠ some e.2.version := hold ▸ hver
  cases hf : snap.fetch e.1 with
  | error err =>
    refine ⟨rfl, h.visit he (fun _ _ => rfl) ?_⟩
    rw [LatestSlot, if_neg hver₀, hf, hold]
  | ok c =>
    dsimp only
    by_cases hcached : (pm.syntheticTests.lookup e.1).isSome
    · -- an older version is cached: the loop stops it and waits
      rw [if_pos hcached]
      refine ⟨rfl, ?_, hf, e.2, h.lookup_of_getElem? he, rfl, hver₀⟩
      rw [syntheticTests_stopSynTest]
      exact h.wait he
    · rw [if_neg hcached]
      have hnone : pm₀.syntheticTests.lookup e.1 = none := hold ▸ Option.not_isSome_iff_eq_none.mp hcached
      refine ⟨rfl, h.visit he (fun j hj => lookup_startIfValid_ne hj) ?_⟩
      rw [LatestSlot, if_neg hver₀, hf]
      refine ⟨fun hacc => ?_, fun hrej => ?_⟩
      · rw [← hconfig, ← hid] at hacc
        exact startIfValid_accepted hacc
      · rw [← hconfig, ← hid] at hrej
        rw [startIfValid_rejected hrej, hold, hnone]

/-- Every step of the sync loop keeps `SyncProgress`. -/
theorem syncStep_progress (hconfig : pm.config = pm₀.config) (hid : pm.agentId = pm₀.agentId)
    {n : Nat} {pc pc' : SyncPc} {pm' : PluginManager}
    (h : SyncProgress pm₀ snap latest pm.syntheticTests.lookup pc) (hs : syncStep pm n pc = some (pm', pc')) :
    SyncProgress pm₀ snap latest pm'.syntheticTests.lookup pc' := by
  cases pc with
  | idle => cases hs
  | deletion snap' latest' todo =>
    obtain ⟨rfl, rfl, h⟩ := h
    simp only [syncStep] at hs
    split at hs
    · rename_i e he
      obtain ⟨rfl, rfl⟩ := Prod.ext_iff.mp (Option.some.inj hs).symm
      unfold visitDeleted
      split_ifs with hmem
      · exact ⟨rfl, rfl, (h.visit he).1 hmem⟩
      · refine ⟨rfl, rfl, ?_⟩
        rw [syntheticTests_stopSynTest]
        exact (h.visit he).2 hmem
    · split_ifs at hs with hempty
      cases hs
      -- the deletion pass is over
      rw [List.isEmpty_iff] at hempty
      subst hempty
      exact ⟨rfl, h.update snap'⟩
  | waitDeleted k snap' latest' todo =>
    obtain ⟨rfl, rfl, h⟩ := h
    simp only [syncStep] at hs
    split_ifs at hs
    cases hs
    exact ⟨rfl, rfl, h.delete (lookup_deleteSynTest pm k)⟩
  | update snap' todo =>
    obtain ⟨rfl, h⟩ := h
    simp only [syncStep] at hs
    split at hs
    · rename_i e he
      obtain ⟨rfl, rfl⟩ := Prod.ext_iff.mp (Option.some.inj hs).symm
      exact visitLatest_progress hconfig hid h he
    · split_ifs at hs with hempty
      cases hs
      rw [List.isEmpty_iff] at hempty
      subst hempty
      exact h.synced
  | waitChanged k v c snap' todo =>
    obtain ⟨rfl, h, hf, w, hw, rfl, hver₀⟩ := h
    simp only [syncStep] at hs
    split_ifs at hs
    cases hs
    refine ⟨rfl, h.restart hw (fun j hj => ?_) ?_⟩
    · rw [lookup_startIfValid_ne hj, lookup_deleteSynTest, if_neg hj]
    · -- the older version is deleted, and the new one cached if the selectors accept it
      rw [LatestSlot, if_neg hver₀, hf]
      refine ⟨fun hacc => ?_, fun hrej => ?_⟩
      · rw [← hconfig, ← hid, ← config_deleteSynTest pm k, ← agentId_deleteSynTest pm k] at hacc
        exact startIfValid_accepted hacc
      · rw [← hconfig, ← hid, ← config_deleteSynTest pm k, ← agentId_deleteSynTest pm k] at hrej
        rw [startIfValid_rejected hrej, lookup_deleteSynTest, if_pos rfl]

end Steps

/-! ## The sync among the other goroutines -/

section Agent

variable {pm₀ : PluginManager} {snap : ConfigSnapshot} {latest : GoMap String SyntestConfigSummary}
  {a a' : Agent} {l : AgentLabel}

/-- The moves of the other goroutines leave the sync loop and the cache as they are. -/
theorem agentStep_sync_tests (hstart : ∀ snap, l ≠ .syncStart snap) (hsync : ∀ n, l ≠ .syncStep n)
    (hs : agentStep a l = some a') : a'.sync = a.sync ∧ a'.pm.syntheticTests = a.pm.syntheticTests := by
  obtain ⟨hpc, hpm⟩ := agentStep_other hstart hsync hs
  refine ⟨hpc, ?_⟩
  rcases hpm with ⟨i, input, hpm⟩ | ⟨store, hpm⟩
  · exact (syntheticTests_stepRoutine hpm).1
  · rw [hpm]

/-- A sync from `pm₀` on `snap`, whose summaries are `latest`, in progress in the agent `a`. -/
def Tracking (pm₀ : PluginManager) (snap : ConfigSnapshot) (latest : GoMap String SyntestConfigSummary)
    (a : Agent) : Prop :=
  SyncProgress pm₀ snap latest a.pm.syntheticTests.lookup a.sync ∧ a.pm.config = pm₀.config ∧
    a.pm.agentId = pm₀.agentId

/-- `SyncSyntestPluginConfigs` begins on the summaries it read. -/
theorem tracking_syncStart (hs : agentStep a (.syncStart snap) = some a') :
    ∃ latest, snap.summaries = .ok latest ∧ a'.pm = a.pm ∧ Tracking a.pm snap latest a' := by
  obtain ⟨pc, hpc, rfl⟩ := Option.map_eq_some_iff.mp hs
  unfold syncStart at hpc
  split at hpc
  · split at hpc
    · rename_i latest hlatest
      cases hpc
      -- the deletion pass starts over every cached test
      refine ⟨latest, hlatest, rfl, ⟨rfl, rfl, List.Sublist.refl _, fun k hk => (by cases hk),
        fun k _ => rfl, fun k hk _ => ?_⟩, rfl, rfl⟩
      have hnone : a.pm.syntheticTests.lookup k = none := AList.lookup_eq_none.mpr (fun hmem => hk hmem)
      rw [deletedSlot, hnone]
      split_ifs <;> rfl
    · cases hpc
  · cases hpc

theorem Tracking.step (h : Tracking pm₀ snap latest a) (hstart : ∀ snap, l ≠ .syncStart snap)
    (hs : agentStep a l = some a') : Tracking pm₀ snap latest a' := by
  obtain ⟨hprog, hconfig, hid⟩ := h
  obtain ⟨hconfig', hid'⟩ := (agentStep_change hs).config_agentId
  refine ⟨?_, hconfig'.trans hconfig, hid'.trans hid⟩
  by_cases hsync : ∃ n, l = .syncStep n
  · obtain ⟨n, rfl⟩ := hsync
    obtain ⟨⟨pm, pc⟩, hpc, rfl⟩ := Option.map_eq_some_iff.mp hs
    exact syncStep_progress hconfig hid hprog hpc
  · -- another goroutine moves
    obtain ⟨hpc, htests⟩ := agentStep_sync_tests hstart (fun n hn => hsync ⟨n, hn⟩) hs
    rw [hpc, htests]
    exact hprog

/-- The run lemma: the sync stays tracked while no other sync starts. -/
theorem Tracking.run (h : Tracking pm₀ snap latest a) {ls : List AgentLabel}
    (hls : ∀ l ∈ ls, ∀ s, l ≠ .syncStart s) (hrun : Transition.run agentStep a ls = some a') :
    Tracking pm₀ snap latest a' := by
  induction ls generalizing a with
  | nil =>
    simp only [Transition.run, Option.some.injEq] at hrun
    subst hrun
    exact h
  | cons l ls ih =>
    obtain ⟨a₁, hs, hrun⟩ := Option.bind_eq_some_iff.mp hrun
    exact ih (h.step (hls l List.mem_cons_self) hs) (fun l' hl' => hls l' (List.mem_cons_of_mem l hl')) hrun

end Agent

theorem sync_loop_refines_syncSyntestPluginConfigs {a₀ a₁ : Agent} {snap : ConfigSnapshot}
    {ls : List AgentLabel} (hrun : Transition.run agentStep a₀ (.syncStart snap :: ls) = some a₁)
    (hls : ∀ l ∈ ls, ∀ s, l ≠ .syncStart s) (hidle : a₁.sync = .idle) :
    ∃ pm' configChanged, syncSyntestPluginConfigs a₀.pm snap = .ok (pm', configChanged) ∧
      ∀ k, (a₁.pm.syntheticTests.lookup k).map (fun st => (st.config, st.version)) =
        (pm'.syntheticTests.lookup k).map (fun st => (st.config, st.version)) := by
  obtain ⟨a, hs, hrun⟩ := Option.bind_eq_some_iff.mp hrun
  obtain ⟨latest, hsum, hpm, htrack⟩ := tracking_syncStart hs
  have htrack₁ := htrack.run hls hrun
  -- back in its `select`, the loop has left a `Synced` cache
  have hsynced : Synced a₀.pm snap latest a₁.pm.syntheticTests.lookup := by
    have hprog := htrack₁.1
    rw [hidle] at hprog
    exact hprog
  obtain ⟨⟨pm', configChanged⟩, hatomic⟩ : ∃ r, syncSyntestPluginConfigs a₀.pm snap = .ok r := by
    simp only [syncSyntestPluginConfigs, hsum]
    exact ⟨_, rfl⟩
  exact ⟨pm', configChanged, hatomic,
    hsynced.cachedVersion_eq (synced_syncSyntestPluginConfigs hsum hatomic)⟩

theorem firstSync_idle :
    ∃ a, Transition.run agentStep pingAgentInit firstSync = some a ∧ a.sync = .idle :=
  ⟨_, rfl, rfl⟩

theorem sync_loop_refines_syncSyntestPluginConfigs_ping :
    ∃ a₁, Transition.run agentStep pingAgentInit firstSync = some a₁ ∧ a₁.sync = .idle ∧
      ∃ pm' configChanged,
        syncSyntestPluginConfigs pingAgentInit.pm pingSnapshot = .ok (pm', configChanged) ∧
        ∀ k, (a₁.pm.syntheticTests.lookup k).map (fun st => (st.config, st.version)) =
          (pm'.syntheticTests.lookup k).map (fun st => (st.config, st.version)) := by
  obtain ⟨a₁, ha₁, hidle⟩ := firstSync_idle
  have hls : ∀ l ∈ [AgentLabel.syncStep 0, .syncStep 0, .syncStep 0], ∀ s, l ≠ .syncStart s := by
    simp
  exact ⟨a₁, ha₁, hidle, sync_loop_refines_syncSyntestPluginConfigs ha₁ hls hidle⟩

end SyntheticHeart

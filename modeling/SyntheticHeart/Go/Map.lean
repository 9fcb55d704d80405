import Mathlib.Data.List.AList

/-!
# Go maps and `range` loops

A Go `map[K]V` is a finite map whose iteration order is unspecified and may differ
from one `range` loop to the next. It is modelled by Mathlib's `AList`: the lookup
is the content of the map, and the list of entries is the order in which one `range`
loop visits them. Every permutation of the entries is an `AList` with the same
lookups, so a statement over every `AList` covers every iteration order.

Three loop shapes occur in the programs modelled here.

* A loop whose body changes only the slot of the key it visits (a deletion pass, an
  update pass over a snapshot). `view_foldl_of_dlookup` relates the final slot of every
  visited key to its initial slot, `view_foldl_of_not_mem` keeps the others, and
  `flag_foldl_of_local` gives the final value of a flag that the body may raise, all
  independent of the order of the entries.
* A loop whose body writes the slot of each key it is given, so that the last write of a
  key wins (`view_foldl_last_write`), over a list of any elements.
* A loop whose body either continues or returns (`rangeAll`). It runs to completion,
  returning `true`, iff every entry continues (`rangeAll_eq_ok_true`), in any order.
-/

/-- A Go map `map[K]V`. -/
abbrev GoMap (K V : Type*) := AList fun _ : K => V

namespace GoMap

variable {K V : Type*} [DecidableEq K]

/-- `m[k]` for a map whose zero value is `d`: a missing key reads as the zero value. -/
def getD (m : GoMap K V) (k : K) (d : V) : V := (m.lookup k).getD d

/-- The map built from a list of key/value pairs by successive assignment. -/
def ofList (l : List (K × V)) : GoMap K V :=
  l.foldl (fun m p => m.insert p.1 p.2) ∅

@[simp] theorem getD_insert (m : GoMap K V) (k : K) (v d : V) :
    getD (m.insert k v) k d = v := by
  simp [getD]

/-- The map filled by `for _, k := range l { m[k] = v }`. -/
theorem getD_foldl_insert (l : List K) (m : GoMap K V) (k : K) (v d : V) :
    getD (l.foldl (fun m t => m.insert t v) m) k d = if k ∈ l then v else getD m k d := by
  induction l generalizing m with
  | nil => simp
  | cons t l ih =>
    rw [List.foldl_cons, ih]
    by_cases hk : k ∈ l
    · simp [hk]
    · by_cases hkt : k = t
      · subst hkt
        simp
      · simp [hk, hkt, getD, AList.lookup_insert_ne hkt]

theorem lookup_erase_eq_some (m : GoMap K V) {k j : K} {v : V} :
    (m.erase k).lookup j = some v ↔ j ≠ k ∧ m.lookup j = some v := by
  by_cases hj : j = k
  · subst hj
    simp
  · simp [AList.lookup_erase_ne hj, hj]

theorem lookup_insert_eq_some (m : GoMap K V) {k j : K} {v w : V} :
    (m.insert k w).lookup j = some v ↔ (j = k ∧ w = v) ∨ (j ≠ k ∧ m.lookup j = some v) := by
  by_cases hj : j = k
  · subst hj
    simp
  · simp [AList.lookup_insert_ne hj, hj]

theorem lookup_insert_of_lookup_eq_none (m : GoMap K V) {k j : K} {v w : V} (hk : m.lookup k = none)
    (hj : m.lookup j = some v) : (m.insert k w).lookup j = some v := by
  have hne : j ≠ k := by
    rintro rfl
    rw [hk] at hj
    cases hj
  rw [AList.lookup_insert_ne hne, hj]

/-- Two maps with the same lookups hold the same entries, in some order: they are one Go
map, iterated in two orders. -/
theorem entries_perm_of_lookup {m₁ m₂ : GoMap K V} (h : ∀ k, m₁.lookup k = m₂.lookup k) :
    m₁.entries.Perm m₂.entries := by
  rw [List.perm_ext_iff_of_nodup m₁.nodupKeys.nodup m₂.nodupKeys.nodup]
  rintro ⟨k, v⟩
  rw [← AList.mem_lookup_iff, ← AList.mem_lookup_iff, h]

omit [DecidableEq K] in
/-- A key stands at one position of the iteration order. -/
theorem index_eq_of_key_eq (m : GoMap K V) {i j : Nat} (hi : i < m.entries.length)
    (hj : j < m.entries.length) (h : m.entries[i].1 = m.entries[j].1) : i = j := by
  have hnodup : (m.entries.map Sigma.fst).Nodup := m.nodupKeys
  have hi' : i < (m.entries.map Sigma.fst).length := by simpa using hi
  have hj' : j < (m.entries.map Sigma.fst).length := by simpa using hj
  have hkey : (m.entries.map Sigma.fst)[i] = (m.entries.map Sigma.fst)[j] := by simpa using h
  exact hnodup.getElem_inj_iff.mp hkey

theorem forall_entries_iff_lookup {P : K → V → Prop} (m : GoMap K V) :
    (∀ e ∈ m.entries, P e.1 e.2) ↔ ∀ k v, m.lookup k = some v → P k v := by
  constructor
  · intro h k v hkv
    exact h ⟨k, v⟩ (AList.mem_lookup_iff.mp hkv)
  · intro h e he
    exact h e.1 e.2 (AList.mem_lookup_iff.mpr he)

/-! ## Loops that change one slot per key -/

section Local

variable {σ β W : Type*} (view : σ → K → β) (body : σ → K → W → σ)
  (rel : K → W → β → β → Prop) (inv : σ → Prop)

/-- A loop body run on the entry `(k, w)` keeps the loop invariant `inv`, leaves every
other key's slot alone, and changes the slot of `k` as `rel k w` allows. -/
structure LocalBody : Prop where
  keep : ∀ s k w, inv s → inv (body s k w)
  frame : ∀ s k w j, j ≠ k → view (body s k w) j = view s j
  update : ∀ s k w, inv s → rel k w (view s k) (view (body s k w) k)

variable {view body rel inv}

omit [DecidableEq K] in
theorem inv_foldl (h : LocalBody view body rel inv) :
    ∀ (es : List (Σ _ : K, W)) (s : σ), inv s → inv (es.foldl (fun s e => body s e.1 e.2) s) := by
  intro es
  induction es with
  | nil => intro s hs; exact hs
  | cons e es ih => intro s hs; exact ih _ (h.keep s e.1 e.2 hs)

omit [DecidableEq K] in
/-- A part of the state that no iteration changes is unchanged by the loop. -/
theorem foldl_keep {γ : Type*} (g : σ → γ) (hg : ∀ s k w, g (body s k w) = g s) :
    ∀ (es : List (Σ _ : K, W)) (s : σ), g (es.foldl (fun s e => body s e.1 e.2) s) = g s := by
  intro es
  induction es with
  | nil => intro s; rfl
  | cons e es ih => intro s; rw [List.foldl_cons, ih, hg]

omit [DecidableEq K] in
theorem view_foldl_of_not_mem (h : LocalBody view body rel inv) {j : K} :
    ∀ (es : List (Σ _ : K, W)) (s : σ), j ∉ es.keys →
      view (es.foldl (fun s e => body s e.1 e.2) s) j = view s j := by
  intro es
  induction es with
  | nil => intro s _; rfl
  | cons e es ih =>
    intro s hj
    have hne : j ≠ e.1 := fun hje => hj (hje ▸ List.mem_cons_self ..)
    have hrest : j ∉ es.keys := fun hm => hj (List.mem_cons_of_mem _ hm)
    rw [List.foldl_cons, ih _ hrest, h.frame s e.1 e.2 j hne]

/-- The slot of a visited key after a loop over entries with distinct keys is related by
`rel` to its slot before the loop: the other iterations do not touch it. -/
theorem view_foldl_of_dlookup (h : LocalBody view body rel inv) {j : K} {w : W} :
    ∀ (es : List (Σ _ : K, W)) (s : σ), inv s → es.NodupKeys → es.dlookup j = some w →
      rel j w (view s j) (view (es.foldl (fun s e => body s e.1 e.2) s) j) := by
  intro es
  induction es with
  | nil => intro s _ _ hj; simp at hj
  | cons e es ih =>
    intro s hs hnd hj
    obtain ⟨k, v⟩ := e
    rw [List.nodupKeys_cons] at hnd
    rw [List.foldl_cons]
    by_cases hjk : j = k
    · -- the iteration on `j` itself; the later ones leave its slot as it made it
      subst hjk
      rw [List.dlookup_cons_eq] at hj
      cases hj
      rw [view_foldl_of_not_mem h es _ hnd.1]
      exact h.update s j w hs
    · rw [List.dlookup_cons_ne _ _ hjk] at hj
      have hkeep := h.frame s k v j hjk
      simpa only [hkeep] using ih (body s k v) (h.keep s k v hs) hnd.2 hj

omit [DecidableEq K] in
/-- A flag that the body raises when the slot of its key calls for it: after a loop over
entries with distinct keys it is raised iff it was, or some entry's initial slot calls
for it. -/
theorem flag_foldl_of_local (h : LocalBody view body rel inv) (flag : σ → Bool)
    (raise : K → W → β → Bool)
    (hflag : ∀ s k w, inv s → flag (body s k w) = (flag s || raise k w (view s k))) :
    ∀ (es : List (Σ _ : K, W)) (s : σ), inv s → es.NodupKeys →
      flag (es.foldl (fun s e => body s e.1 e.2) s) =
        (flag s || es.any fun e => raise e.1 e.2 (view s e.1)) := by
  intro es
  induction es with
  | nil => intro s _ _; simp
  | cons e es ih =>
    intro s hs hnd
    obtain ⟨k, v⟩ := e
    rw [List.nodupKeys_cons] at hnd
    rw [List.foldl_cons, ih (body s k v) (h.keep s k v hs) hnd.2, hflag s k v hs]
    -- the entries after `k` see the slots the first iteration left them: the initial ones
    have hrest : (es.any fun e => raise e.1 e.2 (view (body s k v) e.1)) =
        es.any fun e => raise e.1 e.2 (view s e.1) := by
      apply Bool.eq_iff_iff.mpr
      simp only [List.any_eq_true]
      refine exists_congr fun e => and_congr_right fun he => ?_
      have hne : e.1 ≠ k := by
        rintro rfl
        exact hnd.1 (List.mem_keys_of_mem (s := e) he)
      rw [h.frame s k v e.1 hne]
    rw [hrest, List.any_cons, Bool.or_assoc]

end Local

/-! ## Loops whose last write wins -/

section LastWrite

variable {σ α W : Type*} (view : σ → K → Option W) (body : σ → α → σ) (writes : K → α → Bool) (val : α → W)

omit [DecidableEq K] in
/-- A loop over any list whose body writes `val x` into the slot of every key `k` with
`writes k x`, and leaves the other slots: each slot ends with the value of the last element
that writes it, or with the value it had. -/
theorem view_foldl_last_write
    (hbody : ∀ s x k, view (body s x) k = if writes k x then some (val x) else view s k) (k : K) :
    ∀ (l : List α) (s : σ), view (l.foldl body s) k = ((l.filter (writes k)).getLast?.map val).or (view s k)
  | [], s => by simp
  | x :: l, s => by
    rw [List.foldl_cons, view_foldl_last_write hbody k l, hbody, List.filter_cons]
    by_cases hx : writes k x = true
    · cases hl : (l.filter (writes k)).getLast? <;> simp [hx, hl, List.getLast?_cons]
    · simp [hx]

/-- In a list of entries with distinct keys, the last entry of a key is its only one. -/
theorem getLast?_filter_key {l : List (Σ _ : K, V)} (hl : l.NodupKeys) (k : K) :
    ((l.filter fun e => decide (e.1 = k)).getLast?.map fun e => e.2) = l.dlookup k := by
  induction l with
  | nil => rfl
  | cons e l ih =>
    obtain ⟨j, v⟩ := e
    rw [List.nodupKeys_cons] at hl
    by_cases hj : j = k
    · subst hj
      -- no later entry has the key
      have hnil : l.filter (fun e => decide (e.1 = j)) = [] := by
        rw [List.filter_eq_nil_iff]
        intro e he hej
        exact hl.1 (by simpa [of_decide_eq_true hej] using List.mem_keys_of_mem he)
      simp [hnil]
    · rw [List.filter_cons, if_neg (by simpa using hj), ih hl.2, List.dlookup_cons_ne _ _ (Ne.symm hj)]

/-- Assigning the entries of a map, in its own order, to an empty map gives its lookups back. -/
theorem lookup_foldl_insert_entries (m : GoMap K V) (k : K) :
    (m.entries.foldl (fun (m' : GoMap K V) e => m'.insert e.1 e.2) ∅).lookup k = m.lookup k := by
  have h := view_foldl_last_write (fun (m' : GoMap K V) k => m'.lookup k)
    (fun (m' : GoMap K V) (e : Σ _ : K, V) => m'.insert e.1 e.2) (fun k e => decide (e.1 = k)) (fun e => e.2)
    (fun m' e j => ?_) k m.entries ∅
  · rw [h, getLast?_filter_key m.nodupKeys k]
    simp [AList.lookup]
  · by_cases hj : e.1 = j
    · subst hj
      simp
    · simp [hj, AList.lookup_insert_ne (Ne.symm hj)]

/-- A loop that assigns to the key of each element a value of that key alone: every key of
the list ends with that value, whichever of its elements came last. -/
theorem lookup_foldl_insert_of_mem {α : Type*} (key : α → K) (g : K → V) (l : List α) (m : GoMap K V)
    {k : K} (hk : k ∈ l.map key) :
    (l.foldl (fun m a => m.insert (key a) (g (key a))) m).lookup k = some (g k) := by
  have h := view_foldl_last_write (fun (m' : GoMap K V) k => m'.lookup k)
    (fun (m' : GoMap K V) a => m'.insert (key a) (g (key a))) (fun k a => decide (key a = k))
    (fun a => g (key a)) (fun m' a j => ?_) k l m
  · rw [h]
    obtain ⟨a, ha, rfl⟩ := List.mem_map.mp hk
    -- the filter holds `a`, so its last element is some element of key `key a`
    have hne : l.filter (fun b => decide (key b = key a)) ≠ [] :=
      List.ne_nil_of_mem (List.mem_filter.mpr ⟨ha, by simp⟩)
    obtain ⟨b, hb⟩ := Option.isSome_iff_exists.mp (List.getLast?_isSome.mpr hne)
    have hkey : key b = key a := by
      simpa using (List.mem_filter.mp (List.mem_of_getLast? hb)).2
    simp [hb, hkey]
  · by_cases hj : key a = j
    · subst hj
      simp
    · simp [hj, AList.lookup_insert_ne (Ne.symm hj)]

end LastWrite

/-! ## Loops that continue or return -/

/-- A check that either lets the code go on (`ok true`) or makes the function return its
result (`ok false`, or an error); `next` runs only in the first case. -/
def checkThen {ε : Type*} (r : Except ε Bool) (next : Except ε Bool) : Except ε Bool :=
  match r with
  | .ok true => next
  | r => r

omit [DecidableEq K] in
@[simp] theorem checkThen_eq_ok_true {ε : Type*} (r next : Except ε Bool) :
    checkThen r next = .ok true ↔ r = .ok true ∧ next = .ok true := by
  unfold checkThen
  rcases r with e | _ | _ <;> simp

/-- A `range` loop whose body returns `ok true` to continue, and `ok false` or an error
to return that result at once; the loop returns `ok true` when every entry continues. -/
def rangeAll {ε : Type*} (check : K → V → Except ε Bool) : List (Σ _ : K, V) → Except ε Bool
  | [] => .ok true
  | e :: es => checkThen (check e.1 e.2) (rangeAll check es)

omit [DecidableEq K] in
theorem rangeAll_eq_ok_true {ε : Type*} (check : K → V → Except ε Bool) :
    ∀ es : List (Σ _ : K, V), rangeAll check es = .ok true ↔ ∀ e ∈ es, check e.1 e.2 = .ok true := by
  intro es
  induction es with
  | nil => simp [rangeAll]
  | cons e es ih => simp [rangeAll, ih]

end GoMap

import Mathlib.Data.List.Basic

/-!
# The `strings` functions the programs use

`strings.Split`, `strings.ReplaceAll`, `strings.Contains` and `strings.Trim` are called
with a one-character separator, old string, substring and cutset throughout, and are
modelled for that case over the characters of the string, as are `strings.HasPrefix` and
`strings.TrimPrefix`. `split_append` and `split_of_not_mem` are the facts
every decoder of a `/`-joined identifier rests on: a part without the separator splits off
at the first separator, and the last part is left whole. `splitChars` is Mathlib's
`List.splitOn` (`splitChars_eq_splitOn`), so that parts joined by the separator split back
into those parts (`split_intercalate`); `trim_wrap` removes a quote on each side of a string
that neither starts nor ends with one.
-/

namespace Strings

/-- The parts of a character list around each occurrence of `sep`. -/
def splitChars (sep : Char) : List Char → List (List Char)
  | [] => [[]]
  | x :: xs =>
    if x = sep then [] :: splitChars sep xs
    else
      match splitChars sep xs with
      | p :: ps => (x :: p) :: ps
      | [] => [[x]]

/-- `strings.Split(s, sep)` for a one-character `sep`. -/
def split (s : String) (sep : Char) : List String := (splitChars sep s.toList).map String.ofList

/-- `strings.ReplaceAll(s, old, new)` for one-character `old` and `new`. -/
def replaceAll (s : String) (old new : Char) : String :=
  String.ofList (s.toList.map fun x => if x = old then new else x)

/-- `strings.Contains(s, substr)` for a one-character `substr`. -/
def contains (s : String) (c : Char) : Bool := s.toList.contains c

/-- `strings.HasPrefix(s, prefix)`. -/
def hasPrefix (s pre : String) : Bool := pre.toList.isPrefixOf s.toList

/-- `strings.TrimPrefix(s, prefix)`. -/
def trimPrefix (s pre : String) : String :=
  if hasPrefix s pre then String.ofList (s.toList.drop pre.toList.length) else s

/-- `strings.Trim(s, cutset)` for a one-character `cutset`: the trailing and then the leading
occurrences of `c` removed. -/
def trim (s : String) (c : Char) : String :=
  String.ofList ((s.toList.reverse.dropWhile (· == c)).reverse.dropWhile (· == c))

/-- A list without the separator is one part, and it is glued to the first part of
what follows it. -/
theorem splitChars_append {sep : Char} :
    ∀ {a : List Char}, sep ∉ a → ∀ b, splitChars sep (a ++ sep :: b) = a :: splitChars sep b
  | [], _, b => by simp [splitChars]
  | x :: a, ha, b => by
    rw [List.mem_cons, not_or] at ha
    have hx : x ≠ sep := fun e => ha.1 e.symm
    rw [List.cons_append, splitChars, if_neg hx, splitChars_append ha.2 b]

/-- A list without the separator is its only part. -/
theorem splitChars_of_not_mem {sep : Char} : ∀ {a : List Char}, sep ∉ a → splitChars sep a = [a]
  | [], _ => rfl
  | x :: a, ha => by
    rw [List.mem_cons, not_or] at ha
    rw [splitChars, if_neg (fun e => ha.1 e.symm), splitChars_of_not_mem ha.2]

theorem split_of_not_mem {a : String} {sep : Char} (ha : sep ∉ a.toList) : split a sep = [a] := by
  simp [split, splitChars_of_not_mem ha]

/-- Splitting `a ++ sep ++ b` at `sep`, for a first part `a` without it. -/
theorem split_append {a : String} {sep : Char} (ha : sep ∉ a.toList) (b : String) :
    split (a ++ String.singleton sep ++ b) sep = a :: split b sep := by
  simp [split, String.toList_append, splitChars_append ha]

/-- `split_append` for the separator `/` of the identifiers and paths. -/
theorem split_append_slash {a : String} (ha : '/' ∉ a.toList) (b : String) :
    split (a ++ "/" ++ b) '/' = a :: split b '/' :=
  split_append ha b

theorem hasPrefix_iff {s pre : String} : hasPrefix s pre = true ↔ ∃ t, s = pre ++ t := by
  rw [hasPrefix, List.isPrefixOf_iff_prefix]
  constructor
  · rintro ⟨t, ht⟩
    exact ⟨String.ofList t, String.toList_injective (by simp [String.toList_append, ht])⟩
  · rintro ⟨t, rfl⟩
    exact ⟨t.toList, by simp [String.toList_append]⟩

@[simp] theorem hasPrefix_append (pre t : String) : hasPrefix (pre ++ t) pre = true :=
  hasPrefix_iff.mpr ⟨t, rfl⟩

@[simp] theorem trimPrefix_append (pre t : String) : trimPrefix (pre ++ t) pre = t := by
  rw [trimPrefix, if_pos (hasPrefix_append pre t)]
  simp [String.toList_append]

/-! ## Parts joined by the separator -/

theorem splitChars_eq_splitOn (sep : Char) : ∀ l : List Char, splitChars sep l = l.splitOn sep
  | [] => rfl
  | x :: xs => by
    obtain ⟨p, ps, hps⟩ := List.exists_cons_of_ne_nil (List.splitOnP_ne_nil (· == sep) xs)
    have hrest : splitChars sep xs = p :: ps := by
      rw [splitChars_eq_splitOn sep xs]
      exact hps
    rw [splitChars, hrest, List.splitOn, List.splitOnP_cons_eq_if_modifyHead, hps]
    by_cases hx : x = sep
    · simp [hx]
    · simp [hx]

/-- Parts without the separator, joined by it, split back into those parts. -/
theorem split_intercalate {sep : Char} {ls : List String} (h : ∀ s ∈ ls, sep ∉ s.toList) (hne : ls ≠ []) :
    split ((String.singleton sep).intercalate ls) sep = ls := by
  have hsep : (String.singleton sep).toList = [sep] := by simp
  rw [split, String.toList_intercalate, splitChars_eq_splitOn, hsep,
    List.splitOn_intercalate sep (by simpa using h) (by simpa using hne)]
  simp

/-- A separator splits what stands before it from what stands after it, whatever either
part holds. -/
theorem split_append_sep (a b : String) (sep : Char) :
    split (a ++ String.singleton sep ++ b) sep = split a sep ++ split b sep := by
  simp only [split, String.toList_append, String.toList_singleton, splitChars_eq_splitOn, List.splitOn]
  rw [List.append_assoc, List.singleton_append, List.splitOnP_append_cons _ _ (by simp)]
  simp

/-- Parts without the separator, each followed by it, split into those parts and an empty
last part. -/
theorem split_join_append {sep : Char} :
    ∀ {vs : List String}, (∀ v ∈ vs, sep ∉ v.toList) →
      split (String.join (vs.map (· ++ String.singleton sep))) sep = vs ++ [""]
  | [], _ => rfl
  | v :: vs, h => by
    rw [List.map_cons, String.join_cons, split_append (h v List.mem_cons_self),
      split_join_append fun w hw => h w (List.mem_cons_of_mem v hw)]
    rfl

/-- A part holds no separator, and only characters of the string split. -/
theorem mem_splitChars {sep : Char} : ∀ {l p : List Char}, p ∈ splitChars sep l → sep ∉ p ∧ p ⊆ l
  | [], p, hp => by
    rw [splitChars, List.mem_singleton] at hp
    subst hp
    simp
  | x :: xs, p, hp => by
    rw [splitChars] at hp
    split_ifs at hp with hx
    · rcases List.mem_cons.mp hp with rfl | hp
      · simp
      · obtain ⟨hsep, hsub⟩ := mem_splitChars hp
        exact ⟨hsep, fun y hy => List.subset_cons_self x xs (hsub hy)⟩
    · split at hp
      · rename_i q qs hq
        -- the first part of `xs` takes `x` in front of it
        have hq' : q ∈ splitChars sep xs := hq ▸ List.mem_cons_self
        rcases List.mem_cons.mp hp with rfl | hp
        · obtain ⟨hsep, hsub⟩ := mem_splitChars hq'
          rw [List.mem_cons, not_or]
          exact ⟨⟨fun e => hx e.symm, hsep⟩, List.cons_subset_cons x hsub⟩
        · obtain ⟨hsep, hsub⟩ := mem_splitChars (hq ▸ List.mem_cons_of_mem q hp)
          exact ⟨hsep, fun y hy => List.subset_cons_self x xs (hsub hy)⟩
      · rw [List.mem_singleton] at hp
        subst hp
        simpa using fun e => hx e.symm

theorem mem_split {s p : String} {sep : Char} (hp : p ∈ split s sep) : sep ∉ p.toList ∧ p.toList ⊆ s.toList := by
  obtain ⟨q, hq, rfl⟩ := List.mem_map.mp hp
  simpa using mem_splitChars hq

/-! ## Trimming -/

section Trim

variable {c : Char}

theorem dropWhile_beq_of_head : ∀ {l : List Char}, l.head? ≠ some c → l.dropWhile (· == c) = l
  | [], _ => rfl
  | x :: xs, h => by
    have hx : x ≠ c := fun e => h (by rw [e]; rfl)
    simp [hx]

theorem head?_dropWhile_beq (l : List Char) : (l.dropWhile (· == c)).head? ≠ some c := by
  have h := List.head?_dropWhile_not (· == c) l
  intro he
  rw [he] at h
  simp at h

/-- Trimming `c` around a string that neither starts nor ends with `c` gives that string. -/
theorem trim_wrap {v : String} (hhead : v.toList.head? ≠ some c) (hlast : v.toList.getLast? ≠ some c) :
    trim (String.singleton c ++ v ++ String.singleton c) c = v := by
  apply String.toList_injective
  have hl : (String.singleton c ++ v ++ String.singleton c).toList = c :: (v.toList ++ [c]) := by simp
  rw [trim, String.toList_ofList, hl]
  generalize v.toList = l at hhead hlast ⊢
  have hrev : (c :: (l ++ [c])).reverse = c :: (l.reverse ++ [c]) := by simp
  rw [hrev, List.dropWhile_cons_of_pos (by simp)]
  rcases List.eq_nil_or_concat l with rfl | ⟨l', x, rfl⟩
  · simp
  · -- the last character of `v` is not `c`, so only the closing `c` goes
    rw [List.concat_eq_append] at hhead hlast ⊢
    have hx : x ≠ c := fun e => hlast (by simp [e])
    have hrest : (List.reverse (l' ++ [x]) ++ [c]).dropWhile (· == c) = (l' ++ [x]).reverse ++ [c] :=
      dropWhile_beq_of_head (by simp [hx])
    rw [hrest]
    simp only [List.reverse_append, List.reverse_reverse, List.reverse_cons, List.reverse_nil, List.nil_append,
      List.singleton_append]
    rw [List.dropWhile_cons_of_pos (by simp)]
    exact dropWhile_beq_of_head hhead

theorem head?_trim (s : String) : (trim s c).toList.head? ≠ some c := by
  rw [trim, String.toList_ofList]
  exact head?_dropWhile_beq _

theorem getLast?_trim (s : String) : (trim s c).toList.getLast? ≠ some c := by
  rw [trim, String.toList_ofList]
  -- what the leading pass leaves ends where the trailing pass left the string
  generalize hl : (s.toList.reverse.dropWhile (· == c)).reverse = l
  have hlast : l.getLast? ≠ some c := by
    rw [← hl, List.getLast?_reverse]
    exact head?_dropWhile_beq _
  by_cases hne : l.dropWhile (· == c) = []
  · simp [hne]
  · rw [List.getLast?_eq_some_getLast hne, (List.dropWhile_suffix _).getLast hne, ← List.getLast?_eq_some_getLast]
    exact hlast

theorem trim_subset (s : String) : (trim s c).toList ⊆ s.toList := by
  rw [trim, String.toList_ofList]
  intro x hx
  have h₁ := (List.dropWhile_sublist (· == c)).subset hx
  rw [List.mem_reverse] at h₁
  exact List.mem_reverse.mp ((List.dropWhile_sublist (· == c)).subset h₁)

end Trim

end Strings

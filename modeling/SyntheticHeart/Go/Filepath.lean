import Mathlib

/-!
# Shell patterns: Go's `path/filepath.Match`

`Match(pattern, name)` reports whether `name` matches the shell pattern `pattern`, or
`ErrBadPattern` when the pattern is malformed. Its documented grammar is

    pattern:  { term }
    term:     '*'  (any sequence of non-separator characters)
              '?'  (any single non-separator character)
              '[' [ '^' ] { character-range } ']'   (a non-empty character class)
              c    (the character c, c not '*', '?', '\\', '[')
              '\\' c
    character-range:  c (c not '\\', '-', ']')  |  '\\' c  |  lo '-' hi

The pattern is read by a one-character-at-a-time automaton (`step`, `parse`) that
follows `scanChunk`, `matchChunk` and `getEsc` of the Go library: a range bound must be
followed by another character, `-` and `]` cannot start a range, and a class needs at
least one range. The terms are then cut into chunks at the stars (`chunks`) and matched
against the name as `Match` does (`matchChunks`): each chunk at the first place it matches,
found by skipping characters after a star (`skipSearch`), with no return to an earlier
chunk. Since Go 1.16 `Match` validates the whole pattern on every path, so the error depends
on the pattern alone. Names and patterns are sequences of characters; the separator is `/`.
Go's search after a star moves by bytes, the model's by characters: the two agree on names
of ASCII characters, as the Kubernetes names that the controller matches are.

The main result is `match_replace_star`: replacing an ordinary character `c` of a
pattern by `*` keeps every match of a name whose characters all lie outside the
interval between `c` and `*`.
-/

namespace Filepath

/-- A term of a parsed pattern. -/
inductive Term
  | star
  | any
  | cls (negated : Bool) (ranges : List (Char × Char))
  | lit (c : Char)
  deriving DecidableEq, Repr

/-- `filepath.ErrBadPattern`. -/
structure ErrBadPattern where
  deriving DecidableEq, Repr

/-- The states of the pattern reader. Inside a class, `rs` holds the ranges read so far
and `neg` whether the class is negated. -/
inductive PState
  | top
  | esc
  | classOpen
  | item (neg : Bool) (rs : List (Char × Char))
  | escLo (neg : Bool) (rs : List (Char × Char))
  | lo (neg : Bool) (rs : List (Char × Char)) (l : Char)
  | dash (neg : Bool) (rs : List (Char × Char)) (l : Char)
  | escHi (neg : Bool) (rs : List (Char × Char)) (l : Char)
  | hi (neg : Bool) (rs : List (Char × Char)) (l h : Char)
  deriving DecidableEq, Repr

/-- Reading a character where a class expects a range or its closing `]`. -/
def itemStep (neg : Bool) (rs : List (Char × Char)) (c : Char) :
    Except ErrBadPattern (PState × Option Term) :=
  if c = ']' then
    if rs.isEmpty then .error {} else .ok (.top, some (.cls neg rs))
  else if c = '-' then .error {}
  else if c = '\\' then .ok (.escLo neg rs, none)
  else .ok (.lo neg rs c, none)

/-- One character of the pattern: the next state and the term it completes, if any. -/
def step : PState → Char → Except ErrBadPattern (PState × Option Term)
  | .top, c =>
    if c = '*' then .ok (.top, some .star)
    else if c = '?' then .ok (.top, some .any)
    else if c = '[' then .ok (.classOpen, none)
    else if c = '\\' then .ok (.esc, none)
    else .ok (.top, some (.lit c))
  | .esc, c => .ok (.top, some (.lit c))
  | .classOpen, c => if c = '^' then .ok (.item true [], none) else itemStep false [] c
  | .item neg rs, c => itemStep neg rs c
  | .escLo neg rs, c => .ok (.lo neg rs c, none)
  | .lo neg rs l, c => if c = '-' then .ok (.dash neg rs l, none) else itemStep neg (rs ++ [(l, l)]) c
  | .dash neg rs l, c =>
    if c = ']' ∨ c = '-' then .error {}
    else if c = '\\' then .ok (.escHi neg rs l, none)
    else .ok (.hi neg rs l c, none)
  | .escHi neg rs l, c => .ok (.hi neg rs l c, none)
  | .hi neg rs l h, c => itemStep neg (rs ++ [(l, h)]) c

/-- The terms of the rest of a pattern read from state `st`. Only `top` may end it. -/
def parseFrom : PState → List Char → Except ErrBadPattern (List Term)
  | .top, [] => .ok []
  | _, [] => .error {}
  | st, c :: cs =>
    match step st c with
    | .error e => .error e
    | .ok (st', none) => parseFrom st' cs
    | .ok (st', some t) => (t :: ·) <$> parseFrom st' cs

/-- The terms of a pattern, or `ErrBadPattern`. -/
def parse (pattern : List Char) : Except ErrBadPattern (List Term) := parseFrom .top pattern

/-- `lo <= c && c <= hi` for some range of the class. -/
def inRanges (rs : List (Char × Char)) (c : Char) : Bool := rs.any fun r => r.1 ≤ c && c ≤ r.2

/-- Whether a term other than a star takes the character `c` of the name: `?` any but the
separator, a class the characters in its ranges (or outside them when negated), a literal
itself. -/
def Term.accepts : Term → Char → Bool
  | .star, _ => false
  | .any, c => c != '/'
  | .cls neg rs, c => inRanges rs c != neg
  | .lit d, c => c == d

/-- A term that is not a star joins the chunk after it, unless stars lead that chunk. -/
def consTerm (t : Term) : List (Bool × List Term) → List (Bool × List Term)
  | (false, chunk) :: rest => (false, t :: chunk) :: rest
  | rest => (false, [t]) :: rest

/-- A star leads the chunk after it; a star at the end is a chunk of no terms. -/
def consStar : List (Bool × List Term) → List (Bool × List Term)
  | (_, chunk) :: rest => (true, chunk) :: rest
  | [] => [(true, [])]

/-- The terms cut as `scanChunk` cuts the pattern: each chunk with whether stars lead it, and
its terms up to the next star. -/
def chunks : List Term → List (Bool × List Term)
  | [] => []
  | t :: ts => if t = .star then consStar (chunks ts) else consTerm t (chunks ts)

/-- `matchChunk`: the terms of a chunk take a prefix of the name; the rest of the name. -/
def matchChunk : List Term → List Char → Option (List Char)
  | [], s => some s
  | _ :: _, [] => none
  | t :: ts, c :: s => if t.accepts c then matchChunk ts s else none

/-- The loop of `Match` after a star: skip one more character of the name, which must not be
the separator, and try the chunk again, until it matches; the last chunk must take the
whole rest of the name. -/
def skipSearch (chunk : List Term) (last : Bool) : List Char → Option (List Char)
  | [] => none
  | c :: s =>
    if c = '/' then none
    else
      match matchChunk chunk s with
      | some t => if last && !t.isEmpty then skipSearch chunk last s else some t
      | none => skipSearch chunk last s

/-- Where `Match` finds a chunk: at the start of the name, or after a star by the skip search;
the rest of the name. The last chunk must take the whole name. -/
def findChunk (star : Bool) (chunk : List Term) (last : Bool) (name : List Char) :
    Option (List Char) :=
  let here := (matchChunk chunk name).filter fun t => t.isEmpty || !last
  if star then here.or (skipSearch chunk last name) else here

/-- The loop of `Match` over the chunks: each chunk is matched at the first place it can be,
and an earlier chunk is never tried again. -/
def matchChunks : List (Bool × List Term) → List Char → Bool
  | [], name => name.isEmpty
  | (star, chunk) :: rest, name =>
    -- a trailing star takes the rest of the name unless it has a separator
    if star ∧ chunk = [] then !name.contains '/'
    else
      match findChunk star chunk rest.isEmpty name with
      | some t => matchChunks rest t
      | none => false

/-- `filepath.Match(pattern, name)`. -/
def «match» (pattern name : String) : Except ErrBadPattern Bool :=
  (fun ts => matchChunks (chunks ts) name.toList) <$> parse pattern.toList

example : «match» "node-*" "node-1" = .ok true := by decide
example : «match» "[a-" "a" = .error {} := by decide
/-- The first star commits to the first place its chunk matches: `[^x]` takes the `a`, and the
second star cannot skip the separator. -/
example : «match» "*[^x]*y" "a/y" = .ok false := by decide

/-! ## What a match reads of the terms

A match reads of a term only whether it is a star and which characters it takes, so two
patterns whose terms agree on that for the characters of a name match it alike
(`matchChunks_alike`). Every term of a pattern that matches a name took a character of the
name (`accepts_of_matchChunks`). -/

/-- The terms of the chunks, in order. -/
theorem flatMap_chunks : ∀ ts : List Term,
    (chunks ts).flatMap Prod.snd = ts.filter fun t => t != .star
  | [] => rfl
  | t :: ts => by
    by_cases hs : t = .star
    · -- a star adds no term: it only marks the chunk after it
      rw [chunks, if_pos hs, List.filter_cons_of_neg (by simp [hs]), ← flatMap_chunks ts]
      rcases chunks ts with _ | ⟨⟨b, chunk⟩, rest⟩ <;> rfl
    · rw [chunks, if_neg hs, List.filter_cons_of_pos (by simpa using hs), ← flatMap_chunks ts]
      rcases chunks ts with _ | ⟨⟨_ | _, chunk⟩, rest⟩ <;> rfl

/-- A chunk of no terms comes last: `chunks` makes one only for a trailing star. -/
def ChunksShape : List (Bool × List Term) → Prop
  | [] => True
  | [_] => True
  | p :: q :: rest => p.2 ≠ [] ∧ ChunksShape (q :: rest)

theorem ChunksShape.tail {p : Bool × List Term} {rest : List (Bool × List Term)}
    (h : ChunksShape (p :: rest)) : ChunksShape rest := by
  rcases rest with _ | ⟨q, rest⟩
  · trivial
  · exact h.2

theorem ChunksShape.eq_nil {p : Bool × List Term} {rest : List (Bool × List Term)}
    (h : ChunksShape (p :: rest)) (hp : p.2 = []) : rest = [] := by
  rcases rest with _ | ⟨q, rest⟩
  · rfl
  · exact absurd hp h.1

theorem chunks_shape : ∀ ts : List Term, ChunksShape (chunks ts)
  | [] => trivial
  | t :: ts => by
    have ih := chunks_shape ts
    by_cases hs : t = .star
    · rw [chunks, if_pos hs]
      rcases hc : chunks ts with _ | ⟨⟨b, chunk⟩, _ | ⟨q, rest⟩⟩ <;> rw [hc] at ih
      · trivial
      · trivial
      · exact ih
    · rw [chunks, if_neg hs]
      rcases hc : chunks ts with _ | ⟨⟨_ | _, chunk⟩, _ | ⟨q, rest⟩⟩ <;> rw [hc] at ih
      · trivial
      · trivial
      · exact ⟨List.cons_ne_nil _ _, ih.2⟩
      · exact ⟨List.cons_ne_nil _ _, trivial⟩
      · exact ⟨List.cons_ne_nil _ _, ih⟩

theorem suffix_of_matchChunk : ∀ {chunk : List Term} {s t : List Char},
    matchChunk chunk s = some t → t <:+ s
  | [], s, t, h => by
    simp only [matchChunk, Option.some.injEq] at h
    rw [h]
  | _ :: _, [], _, h => by simp [matchChunk] at h
  | x :: chunk, y :: s, t, h => by
    simp only [matchChunk] at h
    split_ifs at h
    exact (suffix_of_matchChunk h).trans (List.suffix_cons y s)

theorem accepts_of_matchChunk : ∀ {chunk : List Term} {s t : List Char},
    matchChunk chunk s = some t → ∀ x ∈ chunk, ∃ y ∈ s, x.accepts y = true
  | [], _, _, _ => by simp
  | _ :: _, [], _, h => by simp [matchChunk] at h
  | x :: chunk, y :: s, t, h => by
    simp only [matchChunk] at h
    split_ifs at h with hx
    intro z hz
    rcases List.mem_cons.mp hz with rfl | hz
    · exact ⟨y, List.mem_cons_self, hx⟩
    · obtain ⟨w, hw, hacc⟩ := accepts_of_matchChunk h z hz
      exact ⟨w, List.mem_cons_of_mem _ hw, hacc⟩

/-- What the skip search finds is where the chunk matches a suffix of the name. -/
theorem matchChunk_of_skipSearch {chunk : List Term} {last : Bool} :
    ∀ {s t : List Char}, skipSearch chunk last s = some t →
      ∃ s', s' <:+ s ∧ matchChunk chunk s' = some t
  | [], _, h => by simp [skipSearch] at h
  | y :: s, t, h => by
    simp only [skipSearch] at h
    split_ifs at h
    -- the chunk matches after skipping `y`, or the search goes on from `s`
    have hnext : skipSearch chunk last s = some t → ∃ s', s' <:+ y :: s ∧ matchChunk chunk s' = some t :=
      fun hs => by
        obtain ⟨s', hsuf, hm⟩ := matchChunk_of_skipSearch hs
        exact ⟨s', hsuf.trans (List.suffix_cons y s), hm⟩
    split at h
    · rename_i t' ht'
      split_ifs at h
      · exact hnext h
      · cases h
        exact ⟨s, List.suffix_cons y s, ht'⟩
    · exact hnext h

theorem matchChunk_of_findChunk {star : Bool} {chunk : List Term} {last : Bool} {name t : List Char}
    (h : findChunk star chunk last name = some t) :
    ∃ s', s' <:+ name ∧ matchChunk chunk s' = some t := by
  have hhere : (matchChunk chunk name).filter (fun t => t.isEmpty || !last) = some t →
      ∃ s', s' <:+ name ∧ matchChunk chunk s' = some t := fun hf =>
    ⟨name, List.suffix_refl name, (Option.filter_eq_some_iff.mp hf).1⟩
  unfold findChunk at h
  split_ifs at h
  · cases hf : (matchChunk chunk name).filter (fun t => t.isEmpty || !last) with
    | some t' =>
      rw [hf, Option.some_or] at h
      exact hhere (h ▸ hf)
    | none =>
      rw [hf, Option.none_or] at h
      exact matchChunk_of_skipSearch h
  · exact hhere h

theorem suffix_of_findChunk {star : Bool} {chunk : List Term} {last : Bool} {name t : List Char}
    (h : findChunk star chunk last name = some t) : t <:+ name := by
  obtain ⟨s', hsuf, hm⟩ := matchChunk_of_findChunk h
  exact (suffix_of_matchChunk hm).trans hsuf

/-- Every term of a pattern that matches a name took a character of the name. -/
theorem accepts_of_matchChunks : ∀ {cs : List (Bool × List Term)} {n : List Char},
    ChunksShape cs → matchChunks cs n = true →
      ∀ x ∈ cs.flatMap Prod.snd, ∃ y ∈ n, x.accepts y = true
  | [], _, _, _ => by simp
  | (star, chunk) :: rest, n, hshape, h => by
    simp only [matchChunks] at h
    split_ifs at h with htrail
    · -- a trailing star: no terms, and no chunk after it
      rw [hshape.eq_nil htrail.2, htrail.2]
      simp
    · split at h
      · rename_i t hf
        obtain ⟨s', hsuf, hm⟩ := matchChunk_of_findChunk hf
        intro x hx
        rw [List.flatMap_cons, List.mem_append] at hx
        rcases hx with hx | hx
        · obtain ⟨y, hy, hacc⟩ := accepts_of_matchChunk hm x hx
          exact ⟨y, hsuf.subset hy, hacc⟩
        · obtain ⟨y, hy, hacc⟩ := accepts_of_matchChunks hshape.tail h x hx
          exact ⟨y, (suffix_of_findChunk hf).subset hy, hacc⟩
      · cases h

section Alike

variable {P : Char → Prop}

/-- Two terms alike on the characters `P` holds of: both stars or neither, and taking the same
of those characters. -/
def TermAlike (P : Char → Prop) (t t' : Term) : Prop :=
  (t = .star ↔ t' = .star) ∧ ∀ y, P y → t.accepts y = t'.accepts y

/-- Two chunks alike: both led by stars or neither, with terms alike. -/
def ChunkAlike (P : Char → Prop) (p p' : Bool × List Term) : Prop :=
  p.1 = p'.1 ∧ List.Forall₂ (TermAlike P) p.2 p'.2

theorem consTerm_alike {t t' : Term} {cs cs' : List (Bool × List Term)} (ht : TermAlike P t t')
    (h : List.Forall₂ (ChunkAlike P) cs cs') :
    List.Forall₂ (ChunkAlike P) (consTerm t cs) (consTerm t' cs') := by
  cases h with
  | nil => exact .cons ⟨rfl, .cons ht .nil⟩ .nil
  | @cons p p' cs cs' hp hrest =>
    obtain ⟨b, chunk⟩ := p
    obtain ⟨b', chunk'⟩ := p'
    obtain ⟨hb, hchunk⟩ := hp
    dsimp only at hb hchunk
    subst hb
    cases b
    · exact .cons ⟨rfl, .cons ht hchunk⟩ hrest
    · exact .cons ⟨rfl, .cons ht .nil⟩ (.cons ⟨rfl, hchunk⟩ hrest)

theorem consStar_alike {cs cs' : List (Bool × List Term)} (h : List.Forall₂ (ChunkAlike P) cs cs') :
    List.Forall₂ (ChunkAlike P) (consStar cs) (consStar cs') := by
  cases h with
  | nil => exact .cons ⟨rfl, .nil⟩ .nil
  | cons hp hrest => exact .cons ⟨rfl, hp.2⟩ hrest

theorem chunks_alike {ts ts' : List Term} (h : List.Forall₂ (TermAlike P) ts ts') :
    List.Forall₂ (ChunkAlike P) (chunks ts) (chunks ts') := by
  induction h with
  | nil => exact .nil
  | @cons t t' ts ts' ht _ ih =>
    by_cases hs : t = .star
    · rw [chunks, chunks, if_pos hs, if_pos (ht.1.mp hs)]
      exact consStar_alike ih
    · rw [chunks, chunks, if_neg hs, if_neg (fun h' => hs (ht.1.mpr h'))]
      exact consTerm_alike ht ih

theorem matchChunk_alike {chunk chunk' : List Term} (h : List.Forall₂ (TermAlike P) chunk chunk') :
    ∀ s, (∀ y ∈ s, P y) → matchChunk chunk s = matchChunk chunk' s := by
  induction h with
  | nil => intro s _; rfl
  | @cons t t' chunk chunk' ht _ ih =>
    intro s hs
    cases s with
    | nil => rfl
    | cons y s =>
      simp only [matchChunk, ht.2 y (hs y List.mem_cons_self),
        ih s fun z hz => hs z (List.mem_cons_of_mem _ hz)]

theorem skipSearch_alike {chunk chunk' : List Term} (h : List.Forall₂ (TermAlike P) chunk chunk')
    (last : Bool) : ∀ s, (∀ y ∈ s, P y) → skipSearch chunk last s = skipSearch chunk' last s
  | [], _ => rfl
  | y :: s, hs => by
    have hs' : ∀ z ∈ s, P z := fun z hz => hs z (List.mem_cons_of_mem _ hz)
    simp only [skipSearch, matchChunk_alike h s hs', skipSearch_alike h last s hs']

theorem findChunk_alike {chunk chunk' : List Term} (h : List.Forall₂ (TermAlike P) chunk chunk')
    (star last : Bool) {name : List Char} (hn : ∀ y ∈ name, P y) :
    findChunk star chunk last name = findChunk star chunk' last name := by
  simp only [findChunk, matchChunk_alike h name hn, skipSearch_alike h last name hn]

/-- Two patterns whose terms are alike on the characters of a name match it alike. -/
theorem matchChunks_alike {cs cs' : List (Bool × List Term)} (h : List.Forall₂ (ChunkAlike P) cs cs') :
    ∀ n, (∀ y ∈ n, P y) → matchChunks cs n = matchChunks cs' n := by
  induction h with
  | nil => intro n _; rfl
  | @cons p p' cs cs' hp hrest ih =>
    intro n hn
    obtain ⟨star, chunk⟩ := p
    obtain ⟨star', chunk'⟩ := p'
    obtain ⟨hstar, hchunk⟩ := hp
    dsimp only at hstar hchunk
    subst hstar
    have hnil : chunk = [] ↔ chunk' = [] := by
      rw [← List.length_eq_zero_iff, ← List.length_eq_zero_iff, hchunk.length_eq]
    have hlast : cs.isEmpty = cs'.isEmpty := by
      rw [Bool.eq_iff_iff, List.isEmpty_iff, List.isEmpty_iff, ← List.length_eq_zero_iff,
        ← List.length_eq_zero_iff, hrest.length_eq]
    simp only [matchChunks, hnil, hlast, findChunk_alike hchunk star cs'.isEmpty hn]
    -- the chunk is found at the same place; the rest of the name is a suffix of it
    split_ifs
    · rfl
    · cases hf : findChunk star chunk' cs'.isEmpty n with
      | none => rfl
      | some t => exact ih t fun y hy => hn y ((suffix_of_findChunk hf).subset hy)

end Alike

end Filepath

/-! ## Replacing an ordinary character by `*` -/

namespace Filepath

section Replace

variable (c : Char)

/-- The character `c` of a pattern replaced by `*`. -/
def repl (x : Char) : Char := if x = c then '*' else x

/-- A character that no state of the reader treats specially. -/
def Ordinary : Prop :=
  c ≠ '*' ∧ c ≠ '?' ∧ c ≠ '[' ∧ c ≠ '\\' ∧ c ≠ ']' ∧ c ≠ '-' ∧ c ≠ '^'

/-- A name character on which `c` and `*` compare alike with every character. -/
def Outside (x : Char) : Prop := x < min c '*' ∨ max c '*' < x

/-- The class ranges with `c` replaced by `*` in their bounds. -/
def replRanges (rs : List (Char × Char)) : List (Char × Char) :=
  rs.map fun r => (repl c r.1, repl c r.2)

/-- The reader's state after reading the replaced pattern. -/
@[simp] def PState.repl : PState → PState
  | .top => .top
  | .esc => .esc
  | .classOpen => .classOpen
  | .item neg rs => .item neg (replRanges c rs)
  | .escLo neg rs => .escLo neg (replRanges c rs)
  | .lo neg rs l => .lo neg (replRanges c rs) (Filepath.repl c l)
  | .dash neg rs l => .dash neg (replRanges c rs) (Filepath.repl c l)
  | .escHi neg rs l => .escHi neg (replRanges c rs) (Filepath.repl c l)
  | .hi neg rs l h => .hi neg (replRanges c rs) (Filepath.repl c l) (Filepath.repl c h)

/-- How a term read from the replaced pattern relates to the original one: an
unescaped `c` becomes a star, an escaped one the literal `*`, class bounds `c`
become `*`. -/
inductive TermRepl : Term → Term → Prop
  | star : TermRepl .star .star
  | any : TermRepl .any .any
  | cls (neg : Bool) (rs : List (Char × Char)) : TermRepl (.cls neg rs) (.cls neg (replRanges c rs))
  | lit (x : Char) : TermRepl (.lit x) (.lit (repl c x))
  | litStar : TermRepl (.lit c) .star

/-- Two results of `step`, the second on the replaced character. -/
def StepRepl : Except ErrBadPattern (PState × Option Term) →
    Except ErrBadPattern (PState × Option Term) → Prop
  | .error _, .error _ => True
  | .ok (s, none), .ok (s', none) => s' = PState.repl c s
  | .ok (s, some t), .ok (s', some t') => s' = PState.repl c s ∧ TermRepl c t t'
  | _, _ => False

variable {c}

@[simp] theorem repl_self : repl c c = '*' := by simp [repl]

theorem repl_of_ne {x : Char} (h : x ≠ c) : repl c x = x := by simp [repl, h]

@[simp] theorem replRanges_nil : replRanges c [] = [] := rfl

@[simp] theorem replRanges_isEmpty (rs : List (Char × Char)) :
    (replRanges c rs).isEmpty = rs.isEmpty := by
  cases rs <;> simp [replRanges]

theorem replRanges_append (rs : List (Char × Char)) (l h : Char) :
    replRanges c (rs ++ [(l, h)]) = replRanges c rs ++ [(repl c l, repl c h)] := by
  simp [replRanges]

theorem itemStep_repl (hc : Ordinary c) (neg : Bool) (rs : List (Char × Char)) (x : Char) :
    StepRepl c (itemStep neg rs x) (itemStep neg (replRanges c rs) (repl c x)) := by
  obtain ⟨h1, h2, h3, h4, h5, h6, h7⟩ := hc
  by_cases hx : x = c
  · subst hx
    simp [itemStep, StepRepl, PState.repl, h4, h5, h6]
  · rw [repl_of_ne hx]
    by_cases hb : x = ']'
    · subst hb
      cases rs <;> simp [itemStep, StepRepl, PState.repl, TermRepl.cls]
    · by_cases hd : x = '-'
      · simp [itemStep, StepRepl, hd]
      · by_cases he : x = '\\'
        · simp [itemStep, StepRepl, PState.repl, he]
        · simp [itemStep, StepRepl, PState.repl, hb, hd, he, repl_of_ne hx]

theorem step_repl (hc : Ordinary c) (st : PState) (x : Char) :
    StepRepl c (step st x) (step (PState.repl c st) (repl c x)) := by
  have hc' := hc
  obtain ⟨h1, h2, h3, h4, h5, h6, h7⟩ := hc'
  cases st with
  | top =>
    by_cases hx : x = c
    · subst hx
      simp [step, StepRepl, PState.repl, h1, h2, h3, h4, TermRepl.litStar]
    · have hl := TermRepl.lit (c := c) x
      rw [repl_of_ne hx] at hl ⊢
      simp only [step]
      split_ifs <;> simp_all [StepRepl, PState.repl, TermRepl.star, TermRepl.any]
  | esc => simp [step, StepRepl, PState.repl, TermRepl.lit]
  | classOpen =>
    by_cases hx : x = c
    · subst hx
      simpa [step, h7] using itemStep_repl hc false [] x
    · rw [repl_of_ne hx]
      by_cases hh : x = '^'
      · simp [step, StepRepl, PState.repl, hh]
      · simpa [step, hh, repl_of_ne hx] using itemStep_repl hc false [] x
  | item neg rs => exact itemStep_repl hc neg rs x
  | escLo neg rs => simp [step, StepRepl, PState.repl]
  | lo neg rs l =>
    by_cases hd : x = '-'
    · have hxc : x ≠ c := fun e => h6 (e ▸ hd)
      simp [step, StepRepl, PState.repl, hd, repl_of_ne (hd ▸ hxc)]
    · have hd' : repl c x ≠ '-' := by
        by_cases hx : x = c
        · subst hx; simp
        · rwa [repl_of_ne hx]
      simpa [step, hd, hd', replRanges_append] using itemStep_repl hc neg (rs ++ [(l, l)]) x
  | dash neg rs l =>
    by_cases hx : x = c
    · subst hx
      simp [step, StepRepl, PState.repl, h4, h5, h6]
    · rw [repl_of_ne hx]
      simp only [step]
      split_ifs <;> simp_all [StepRepl, PState.repl, repl_of_ne hx]
  | escHi neg rs l => simp [step, StepRepl, PState.repl]
  | hi neg rs l h => simpa [step, replRanges_append] using itemStep_repl hc neg (rs ++ [(l, h)]) x

theorem parseFrom_repl (hc : Ordinary c) :
    ∀ (cs : List Char) (st : PState) (ts : List Term), parseFrom st cs = .ok ts →
      ∃ ts', parseFrom (PState.repl c st) (cs.map (repl c)) = .ok ts' ∧
        List.Forall₂ (TermRepl c) ts ts' := by
  intro cs
  induction cs with
  | nil =>
    intro st ts h
    cases st
    case top =>
      simp only [parseFrom, Except.ok.injEq] at h
      subst h
      exact ⟨[], rfl, List.Forall₂.nil⟩
    all_goals simp [parseFrom] at h
  | cons x cs ih =>
    intro st ts h
    have hs := step_repl hc st x
    simp only [parseFrom, List.map_cons] at h ⊢
    -- the two readers take the same kind of step; the induction follows the rest
    rcases hr : step st x with e | ⟨st₁, _ | t⟩ <;> rw [hr] at h hs
    · cases h
    · rcases hr' : step (PState.repl c st) (repl c x) with e' | ⟨st₁', _ | t'⟩ <;>
        rw [hr'] at hs <;> simp only [StepRepl] at hs
      subst hs
      exact ih st₁ ts h
    · rcases hr' : step (PState.repl c st) (repl c x) with e' | ⟨st₁', _ | t'⟩ <;>
        rw [hr'] at hs <;> simp only [StepRepl] at hs
      obtain ⟨rfl, ht⟩ := hs
      dsimp only at h
      cases hp : parseFrom st₁ cs with
      | error e => rw [hp] at h; cases h
      | ok ts₁ =>
        rw [hp] at h
        cases h
        obtain ⟨ts₁', h₁', hrel⟩ := ih st₁ ts₁ hp
        exact ⟨t' :: ts₁', by dsimp only; rw [h₁']; rfl, List.Forall₂.cons ht hrel⟩

theorem repl_le_iff {x l : Char} (hx : Outside c x) : repl c l ≤ x ↔ l ≤ x := by
  by_cases hl : l = c
  · subst hl
    simp only [repl_self]
    rcases hx with hx | hx
    · exact ⟨fun h => absurd (lt_of_lt_of_le hx (min_le_right _ _)) (not_lt.mpr h),
        fun h => absurd (lt_of_lt_of_le hx (min_le_left _ _)) (not_lt.mpr h)⟩
    · exact ⟨fun _ => le_of_lt (lt_of_le_of_lt (le_max_left _ _) hx),
        fun _ => le_of_lt (lt_of_le_of_lt (le_max_right _ _) hx)⟩
  · rw [repl_of_ne hl]

theorem le_repl_iff {x h : Char} (hx : Outside c x) : x ≤ repl c h ↔ x ≤ h := by
  by_cases hh : h = c
  · subst hh
    simp only [repl_self]
    rcases hx with hx | hx
    · exact ⟨fun _ => le_of_lt (lt_of_lt_of_le hx (min_le_left _ _)),
        fun _ => le_of_lt (lt_of_lt_of_le hx (min_le_right _ _))⟩
    · exact ⟨fun h => absurd (lt_of_le_of_lt (le_max_right _ _) hx) (not_lt.mpr h),
        fun h => absurd (lt_of_le_of_lt (le_max_left _ _) hx) (not_lt.mpr h)⟩
  · rw [repl_of_ne hh]

theorem inRanges_repl {x : Char} (hx : Outside c x) (rs : List (Char × Char)) :
    inRanges (replRanges c rs) x = inRanges rs x := by
  simp only [inRanges, replRanges, List.any_map]
  congr 1
  funext r
  simp [Function.comp, repl_le_iff hx, le_repl_iff hx]

theorem ne_of_outside {x : Char} (hx : Outside c x) : x ≠ c := by
  rintro rfl
  rcases hx with hx | hx
  · exact absurd hx (not_lt.mpr (min_le_left _ _))
  · exact absurd hx (not_lt.mpr (le_max_left _ _))

/-- Without a literal `c`, a term and its replacement take the same characters outside the
interval between `c` and `*`. -/
theorem termAlike_of_termRepl {t t' : Term} (ht : TermRepl c t t') (hlit : t ≠ .lit c) :
    TermAlike (Outside c) t t' := by
  cases ht with
  | star => exact ⟨Iff.rfl, fun _ _ => rfl⟩
  | any => exact ⟨Iff.rfl, fun _ _ => rfl⟩
  | cls neg rs => exact ⟨by simp, fun y hy => by simp only [Term.accepts, inRanges_repl hy]⟩
  | lit x =>
    have hx : x ≠ c := fun e => hlit (e ▸ rfl)
    rw [repl_of_ne hx]
    exact ⟨Iff.rfl, fun _ _ => rfl⟩
  | litStar => exact absurd rfl hlit

theorem alike_of_termRepl {ts ts' : List Term} (hrel : List.Forall₂ (TermRepl c) ts ts')
    (hlit : Term.lit c ∉ ts) : List.Forall₂ (TermAlike (Outside c)) ts ts' := by
  induction hrel with
  | nil => exact .nil
  | cons ht _ ih =>
    rw [List.mem_cons, not_or] at hlit
    exact .cons (termAlike_of_termRepl ht fun e => hlit.1 e.symm) (ih hlit.2)

theorem matchChunks_repl {ts ts' : List Term} (hrel : List.Forall₂ (TermRepl c) ts ts')
    {n : List Char} (hn : ∀ y ∈ n, Outside c y) (h : matchChunks (chunks ts) n = true) :
    matchChunks (chunks ts') n = true := by
  by_cases hlit : Term.lit c ∈ ts
  · -- a literal `c` takes only the character `c`, which the name lacks
    have hmem : Term.lit c ∈ (chunks ts).flatMap Prod.snd := by
      rw [flatMap_chunks]
      exact List.mem_filter.mpr ⟨hlit, by simp⟩
    obtain ⟨y, hy, hacc⟩ := accepts_of_matchChunks (chunks_shape ts) h _ hmem
    simp only [Term.accepts, beq_iff_eq] at hacc
    exact absurd hacc (ne_of_outside (hn y hy))
  · rw [← matchChunks_alike (chunks_alike (alike_of_termRepl hrel hlit)) n hn]
    exact h

/-- Replacing an ordinary character `c` of a pattern by `*` keeps every match of a name
whose characters lie outside the interval between `c` and `*`. -/
theorem match_replace_star (hc : Ordinary c) {pattern name : String}
    (hn : ∀ y ∈ name.toList, Outside c y) (h : «match» pattern name = .ok true) :
    «match» (pattern.map (repl c)) name = .ok true := by
  simp only [«match», parse] at h ⊢
  cases hp : parseFrom .top pattern.toList with
  | error e => rw [hp] at h; cases h
  | ok ts =>
    rw [hp] at h
    have hm : matchChunks (chunks ts) name.toList = true := by simpa using h
    obtain ⟨ts', hp', hrel⟩ := parseFrom_repl hc pattern.toList .top ts hp
    rw [String.toList_map]
    simp only [PState.repl] at hp'
    rw [hp']
    simpa using matchChunks_repl hrel hn hm

end Replace

end Filepath

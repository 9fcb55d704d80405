import Mathlib.Logic.Relation

/-!
# Labelled transition systems given by a step function

A concurrent program is a state and a partial step function: the label names the
thread that moves and what it reads from outside (a clock, the result of a call), and
the step is `none` when that thread cannot move. Every interleaving is a sequence of
labels. An assumption about the environment (what the other side of a call may return)
is a predicate `allowed` on labels.

* `Reachable step allowed init s`: `s` is reached from `init` by steps whose labels are
  allowed.
* `Reachable.invariant`: an invariant that holds initially and is kept by every allowed
  step holds in every reachable state.
* `run step s ls` performs the labels `ls` in order (`run_append` splits a run);
  `reachable_of_run` turns a concrete run into a reachable state, which is how a bad
  interleaving is exhibited.
* `run_invariant`: an invariant of a state and of the labels that reached it holds after
  every run, which is how a property of the order of the steps is proved.
* `length_add_le_of_run`: when every allowed step lowers a measure, no run is longer than
  the measure of its first state, so every interleaving ends.
* `exists_run_of_rank`: when, outside a goal, some step always lowers a rank, the goal can
  always be brought about, which is how a program is shown never to block for good.
-/

namespace Transition

variable {S L : Type*} (step : S → L → Option S) (allowed : L → Prop)

/-- One step by an allowed label. -/
def Step (s s' : S) : Prop := ∃ l, allowed l ∧ step s l = some s'

/-- The states reachable from `init` by allowed steps. -/
def Reachable (init : S) : S → Prop := Relation.ReflTransGen (Step step allowed) init

/-- The labels performed in order, as long as each is enabled. -/
def run : S → List L → Option S
  | s, [] => some s
  | s, l :: ls => (step s l).bind fun s' => run s' ls

variable {step allowed}

/-- Reachable states satisfy every predicate that holds initially and is preserved by
every allowed step. -/
theorem Reachable.invariant {I : S → Prop} {init s : S} (h : Reachable step allowed init s)
    (h₀ : I init) (hstep : ∀ s l s', allowed l → I s → step s l = some s' → I s') : I s := by
  induction h with
  | refl => exact h₀
  | tail _ hst ih =>
    obtain ⟨l, hl, hs⟩ := hst
    exact hstep _ _ _ hl ih hs

theorem Reachable.tail {init s s' : S} {l : L} (h : Reachable step allowed init s) (hl : allowed l)
    (hs : step s l = some s') : Reachable step allowed init s' :=
  Relation.ReflTransGen.tail h ⟨l, hl, hs⟩

theorem run_append (s : S) (ls ls' : List L) :
    run step s (ls ++ ls') = (run step s ls).bind fun s' => run step s' ls' := by
  induction ls generalizing s with
  | nil => rfl
  | cons l ls ih =>
    simp only [List.cons_append, run]
    cases step s l with
    | none => rfl
    | some s₁ => exact ih s₁

theorem reachable_of_run : ∀ {s s' : S} {ls : List L}, run step s ls = some s' → (∀ l ∈ ls, allowed l) →
    ∀ {init : S}, Reachable step allowed init s → Reachable step allowed init s'
  | s, s', [], h, _, _, hr => by
    simp only [run, Option.some.injEq] at h
    exact h ▸ hr
  | s, s', l :: ls, h, hls, _, hr => by
    simp only [run] at h
    cases hl : step s l with
    | none => rw [hl] at h; cases h
    | some s₁ =>
      rw [hl, Option.bind_some] at h
      exact reachable_of_run h (fun l' hl' => hls l' (List.mem_cons_of_mem l hl'))
        (hr.tail (hls l List.mem_cons_self) hl)

/-- The run lemma of an invariant of a state and of the labels performed to reach it: when
performing one more label keeps it, it holds after every run from a state where it holds. -/
theorem run_invariant {I : List L → S → Prop}
    (hstep : ∀ ls s l s', I ls s → step s l = some s' → I (ls ++ [l]) s') :
    ∀ {ls ls₀ : List L} {s₀ s : S}, I ls₀ s₀ → run step s₀ ls = some s → I (ls₀ ++ ls) s
  | [], ls₀, s₀, s, h₀, h => by
    simp only [run, Option.some.injEq] at h
    subst h
    simpa using h₀
  | l :: ls, ls₀, s₀, s, h₀, h => by
    obtain ⟨s₁, hs, h⟩ := Option.bind_eq_some_iff.mp h
    have hrest := run_invariant hstep (hstep ls₀ s₀ l s₁ h₀ hs) h
    simpa using hrest

/-- A measure that every allowed step lowers bounds the length of every allowed run. -/
theorem length_add_le_of_run {μ : S → Nat}
    (hμ : ∀ s l s', allowed l → step s l = some s' → μ s' < μ s) :
    ∀ {s s' : S} {ls : List L}, run step s ls = some s' → (∀ l ∈ ls, allowed l) →
      ls.length + μ s' ≤ μ s
  | s, s', [], h, _ => by
    simp only [run, Option.some.injEq] at h
    subst h
    simp
  | s, s', l :: ls, h, hls => by
    simp only [run] at h
    cases hl : step s l with
    | none => rw [hl] at h; cases h
    | some s₁ =>
      rw [hl, Option.bind_some] at h
      have hrest := length_add_le_of_run hμ h (fun l' hl' => hls l' (List.mem_cons_of_mem l hl'))
      have hlt := hμ s l s₁ (hls l List.mem_cons_self) hl
      simp only [List.length_cons]
      omega

/-- The ranking-function argument for a goal that can always be brought about: when from
every state of `I` outside the goal some label of `P` leads to a state of `I` of lower rank,
a run of such labels reaches a state of `I` in the goal from every state of `I`. -/
theorem exists_run_of_rank {I goal : S → Prop} {P : L → Prop} (μ : S → Nat)
    (hprog : ∀ s, I s → ¬ goal s → ∃ l s', P l ∧ step s l = some s' ∧ I s' ∧ μ s' < μ s) :
    ∀ s, I s → ∃ ls s', (∀ l ∈ ls, P l) ∧ run step s ls = some s' ∧ I s' ∧ goal s' := by
  intro s hs
  -- strong induction on the rank of the state we start from
  induction hμ : μ s using Nat.strongRecOn generalizing s with
  | _ n ih =>
    by_cases hg : goal s
    · exact ⟨[], s, by simp, rfl, hs, hg⟩
    obtain ⟨l, s', hl, hst, hs', hlt⟩ := hprog s hs hg
    obtain ⟨ls, s'', hls, hrun, hs'', hg''⟩ := ih (μ s') (hμ ▸ hlt) s' hs' rfl
    refine ⟨l :: ls, s'', ?_, ?_, hs'', hg''⟩
    · intro l' hl'
      rcases List.mem_cons.mp hl' with rfl | hl'
      · exact hl
      · exact hls l' hl'
    · simp only [run, hst, Option.bind_some, hrun]

end Transition

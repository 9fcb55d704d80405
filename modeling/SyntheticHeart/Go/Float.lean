import Mathlib

/-!
# float64 values and `strconv.ParseFloat`

A Go `float64` is modelled by the value it stands for: a decimal `m / 10^k`, an infinity,
or `NaN`. Comparisons follow IEEE 754: every comparison with `NaN` is false. Decimals are
compared by cross-multiplying, so that comparisons evaluate; `Decimal.val` gives the
rational a decimal stands for, and `Decimal.lt_iff` connects the two.

`float64(k)` of a natural rounds `k` to 53 significant bits, half to even (`roundNat`).

`strconv.ParseFloat(s, 64)` is modelled for the decimal syntax of Go floating-point
literals (an optional sign, digits with an optional point, an optional exponent) and for
the special strings `NaN`, `Inf` and `Infinity`, case-insensitive and the infinities
optionally signed. A decimal string stands for its exact value; values too large for a
float64 are `ErrRange`, and values below half the smallest subnormal read as zero. The
nearest float64 differs from the exact value by a relative `2⁻⁵³`, which changes no
comparison of a string of at most fifteen significant digits with `0`, `0.5` or `1`.
Hexadecimal literals and digit-separating underscores are read as syntax errors.

The main result is the round trip of decimal digits: `readDigits` of `Nat.toDigits 10 a`
reads `a` back (`readDigits_toDigits`), and `parseFloat_fixed5` reads a fixed-point string
`a.ddddd` as `a + d / 10⁵`.
-/

/-- The decimal `mant / 10 ^ scale`. -/
structure Decimal where
  mant : Int
  scale : Nat
  deriving DecidableEq, Repr

namespace Decimal

/-- The rational a decimal stands for. -/
def val (x : Decimal) : ℚ := x.mant / 10 ^ x.scale

/-- `x < y`, by cross-multiplying. -/
def lt (x y : Decimal) : Bool := decide (x.mant * 10 ^ y.scale < y.mant * 10 ^ x.scale)

/-- `x == y`, by cross-multiplying. -/
def eq (x y : Decimal) : Bool := decide (x.mant * 10 ^ y.scale = y.mant * 10 ^ x.scale)

/-- Whether a magnitude rounds to infinity: it is at least halfway between the largest
float64 and `2¹⁰²⁴`. -/
def overflows (x : Decimal) : Bool := decide ((2 ^ 1024 - 2 ^ 970) * 10 ^ x.scale ≤ x.mant.natAbs)

/-- Whether a magnitude rounds to zero: it is at most half the smallest subnormal. -/
def underflows (x : Decimal) : Bool := decide (x.mant.natAbs * 2 ^ 1075 ≤ 10 ^ x.scale)

theorem lt_iff (x y : Decimal) : x.lt y = true ↔ x.val < y.val := by
  have hx : (0 : ℚ) < 10 ^ x.scale := by positivity
  have hy : (0 : ℚ) < 10 ^ y.scale := by positivity
  rw [lt, decide_eq_true_iff, val, val, div_lt_div_iff₀ hx hy]
  exact_mod_cast Iff.rfl

theorem eq_iff (x y : Decimal) : x.eq y = true ↔ x.val = y.val := by
  have hx : (10 : ℚ) ^ x.scale ≠ 0 := by positivity
  have hy : (10 : ℚ) ^ y.scale ≠ 0 := by positivity
  rw [eq, decide_eq_true_iff, val, val, div_eq_div_iff hx hy]
  exact_mod_cast Iff.rfl

end Decimal

/-- A Go `float64`. -/
inductive GoFloat
  | finite (x : Decimal)
  | inf (neg : Bool)
  | nan
  deriving DecidableEq, Repr

namespace GoFloat

/-- `x < y`; false when either side is `NaN`. -/
def lt : GoFloat → GoFloat → Bool
  | finite a, finite b => a.lt b
  | finite _, inf neg => !neg
  | inf neg, finite _ => neg
  | inf n₁, inf n₂ => n₁ && !n₂
  | _, _ => false

/-- `x == y`; false when either side is `NaN`. -/
def eq : GoFloat → GoFloat → Bool
  | finite a, finite b => a.eq b
  | inf n₁, inf n₂ => n₁ == n₂
  | _, _ => false

/-- `float64(k)`: `k` rounded to 53 significant bits, half to even. -/
def roundNat (k : Nat) : Nat :=
  if k < 2 ^ 53 then k
  else
    let e := Nat.log2 k - 52
    let q := k / 2 ^ e
    let r := k % 2 ^ e
    let q := if 2 * r > 2 ^ e ∨ (2 * r = 2 ^ e ∧ q % 2 = 1) then q + 1 else q
    q * 2 ^ e

theorem roundNat_of_lt {k : Nat} (h : k < 2 ^ 53) : roundNat k = k := by
  rw [roundNat, if_pos h]

end GoFloat

namespace Strconv

/-! ## Digits -/

/-- The value of the digits `cs` read after the value `v`. -/
def digitsVal (v : Nat) (cs : List Char) : Nat := cs.foldl (fun v c => 10 * v + (c.toNat - 48)) v

/-- Reads a run of decimal digits onto `v`, counting them onto `n`; stops at the first
character that is not a digit. -/
def readDigits : Nat → Nat → List Char → Nat × Nat × List Char
  | v, n, c :: cs => if c.isDigit then readDigits (10 * v + (c.toNat - 48)) (n + 1) cs else (v, n, c :: cs)
  | v, n, [] => (v, n, [])

theorem readDigits_append (rest : List Char) :
    ∀ (ds : List Char) (v n : Nat), (∀ c ∈ ds, c.isDigit) →
      readDigits v n (ds ++ rest) = readDigits (digitsVal v ds) (n + ds.length) rest
  | [], v, n, _ => rfl
  | c :: ds, v, n, h => by
    have hc : c.isDigit = true := h c List.mem_cons_self
    rw [List.cons_append, readDigits, if_pos hc,
      readDigits_append rest ds _ _ fun d hd => h d (List.mem_cons_of_mem c hd)]
    simp only [digitsVal, List.foldl_cons, List.length_cons]
    congr 1
    omega

theorem readDigits_stop {c : Char} (hc : c.isDigit = false) (v n : Nat) (cs : List Char) :
    readDigits v n (c :: cs) = (v, n, c :: cs) := by
  simp [readDigits, hc]

theorem readDigits_nil (v n : Nat) : readDigits v n [] = (v, n, []) := rfl

theorem digitsVal_append (v : Nat) (ds es : List Char) :
    digitsVal v (ds ++ es) = digitsVal (digitsVal v ds) es := by
  simp [digitsVal, List.foldl_append]

theorem digitsVal_digitChar {d : Nat} (hd : d < 10) (v : Nat) : digitsVal v [d.digitChar] = 10 * v + d := by
  simp [digitsVal, Nat.toNat_digitChar_sub_48_of_lt_ten hd]

/-- The digits of `a` read after `v` give `v` shifted by their count, plus `a`. -/
theorem digitsVal_toDigits (a : Nat) :
    ∀ v, digitsVal v (Nat.toDigits 10 a) = v * 10 ^ (Nat.toDigits 10 a).length + a := by
  induction a using Nat.strong_induction_on with
  | _ a ih =>
    intro v
    rw [Nat.toDigits_eq_if (by decide)]
    split
    · rename_i ha
      rw [digitsVal_digitChar ha]
      simp
      ring
    · rename_i ha
      rw [digitsVal_append, ih (a / 10) (by omega), digitsVal_digitChar (Nat.mod_lt a (by decide)),
        List.length_append, List.length_singleton, pow_succ]
      have := Nat.div_add_mod a 10
      nlinarith

theorem isDigit_of_mem_toDigits {a : Nat} {c : Char} (hc : c ∈ Nat.toDigits 10 a) : c.isDigit = true :=
  Nat.isDigit_of_mem_toDigits (by decide) (by decide) hc

theorem digitsVal_replicate_zero (v k : Nat) : digitsVal v (List.replicate k '0') = v * 10 ^ k := by
  induction k generalizing v with
  | zero => simp [digitsVal]
  | succ k ih =>
    have h0 : digitsVal v ['0'] = 10 * v := rfl
    rw [List.replicate_succ, ← List.singleton_append, digitsVal_append, h0, ih]
    ring

/-! ## ParseFloat -/

/-- An optional leading sign: whether it is `-`, and what follows it. -/
def splitSign : List Char → Bool × List Char
  | '+' :: body => (false, body)
  | '-' :: body => (true, body)
  | body => (false, body)

/-- Whether `s` is `p` up to the case of ASCII letters. -/
def eqIgnoreCase (s p : List Char) : Bool := s.map Char.toLower == p

/-- The special strings: `Inf` and `Infinity` with an optional sign, and `NaN` without. -/
def special (cs : List Char) : Option GoFloat :=
  let (neg, body) := splitSign cs
  if eqIgnoreCase body "inf".toList || eqIgnoreCase body "infinity".toList then some (.inf neg)
  else if eqIgnoreCase cs "nan".toList then some .nan
  else none

/-- The exponent of a decimal literal: `e` or `E`, an optional sign, and digits. -/
def exponent : List Char → Option Int
  | [] => some 0
  | c :: cs =>
    if c = 'e' ∨ c = 'E' then
      let (neg, ds) := splitSign cs
      match readDigits 0 0 ds with
      | (e, n, []) => if n = 0 then none else some (if neg then -(e : Int) else e)
      | _ => none
    else none

/-- The value of an unsigned decimal literal: digits with an optional point, at least one
digit, and an optional exponent. -/
def decimal (cs : List Char) : Option Decimal :=
  let (ip, ni, r) := readDigits 0 0 cs
  let (m, nf, r) := match r with
    | '.' :: r => readDigits ip 0 r
    | r => (ip, 0, r)
  if ni + nf = 0 then none
  else (exponent r).map fun e =>
    if (nf : Int) ≤ e then ⟨m * 10 ^ (e - nf).toNat, 0⟩ else ⟨m, (nf - e).toNat⟩

/-- `strconv.ParseFloat(s, 64)`. -/
def parseFloat (s : String) : Except String GoFloat :=
  match special s.toList with
  | some f => .ok f
  | none =>
    let (neg, body) := splitSign s.toList
    match decimal body with
    | none => .error ("strconv.ParseFloat: parsing " ++ s ++ ": invalid syntax")
    | some x =>
      if x.overflows then .error ("strconv.ParseFloat: parsing " ++ s ++ ": value out of range")
      else if x.underflows then .ok (.finite ⟨0, 0⟩)
      else .ok (.finite (if neg then ⟨-x.mant, x.scale⟩ else x))

example : parseFloat "0.50000" = .ok (.finite ⟨50000, 5⟩) := by decide +kernel
example : parseFloat "1e-3" = .ok (.finite ⟨1, 3⟩) := by decide +kernel
example : parseFloat "-Inf" = .ok (.inf true) := by decide

theorem toLower_of_isDigit {c : Char} (hc : c.isDigit = true) : c.toLower = c := by
  unfold Char.toLower
  rw [dif_neg]
  simp only [Char.isDigit, Bool.and_eq_true, decide_eq_true_eq] at hc
  intro h
  have h1 := hc.2
  have h2 := h.1
  simp only [UInt32.le_iff_toNat_le] at h1 h2
  simp at h1 h2
  omega

theorem eqIgnoreCase_of_isDigit {c d : Char} (hc : c.isDigit = true) (hd : d.isDigit = false)
    (cs ds : List Char) : eqIgnoreCase (c :: cs) (d :: ds) = false := by
  have hne : c ≠ d := by
    rintro rfl
    rw [hc] at hd
    cases hd
  simp [eqIgnoreCase, toLower_of_isDigit hc, hne]

theorem splitSign_of_isDigit {c : Char} (hc : c.isDigit = true) (cs : List Char) :
    splitSign (c :: cs) = (false, c :: cs) := by
  unfold splitSign
  split
  · rename_i h
    cases h
    cases hc
  · rename_i h
    cases h
    cases hc
  · rfl

/-- A string that starts with a digit is no special string. -/
theorem special_of_isDigit {c : Char} (hc : c.isDigit = true) (cs : List Char) : special (c :: cs) = none := by
  simp [special, splitSign_of_isDigit hc, eqIgnoreCase_of_isDigit hc]

/-- A digit string reads by its decimal value, when that value neither overflows nor
underflows. -/
theorem parseFloat_of_decimal {s : String} {c : Char} {cs : List Char} (hs : s.toList = c :: cs)
    (hc : c.isDigit = true) {x : Decimal} (hx : decimal s.toList = some x) (ho : x.overflows = false)
    (hu : x.underflows = false) : parseFloat s = .ok (.finite x) := by
  rw [parseFloat, hs, special_of_isDigit hc]
  dsimp only
  rw [splitSign_of_isDigit hc]
  dsimp only
  rw [← hs, hx]
  simp [ho, hu]

/-- A fixed-point string `a.ddddd`, its fraction `d` padded with zeros to five digits. -/
def fixed5 (a d : Nat) : String :=
  toString a ++ "." ++ String.ofList (List.replicate (5 - (toString d).length) '0') ++ toString d

theorem readDigits_toDigits (a v n : Nat) (rest : List Char) (hrest : ∀ c ∈ rest.head?, c.isDigit = false) :
    readDigits v n (Nat.toDigits 10 a ++ rest) =
      (v * 10 ^ (Nat.toDigits 10 a).length + a, n + (Nat.toDigits 10 a).length, rest) := by
  rw [readDigits_append rest _ _ _ fun c hc => isDigit_of_mem_toDigits hc, digitsVal_toDigits]
  cases rest with
  | nil => rfl
  | cons c cs => exact readDigits_stop (hrest c rfl) _ _ cs

theorem toList_fixed5 (a d : Nat) :
    (fixed5 a d).toList =
      Nat.toDigits 10 a ++ '.' :: (List.replicate (5 - (Nat.toDigits 10 d).length) '0' ++ Nat.toDigits 10 d) := by
  simp [fixed5, Nat.repr_eq_ofList_toDigits, String.length_ofList]

/-- `a.ddddd` reads as `a + d / 10⁵` when `d` has at most five digits. -/
theorem decimal_fixed5 (a d : Nat) (hd : d < 100000) :
    decimal (fixed5 a d).toList = some ⟨((a * 100000 + d : ℕ) : ℤ), 5⟩ := by
  have hlen : (Nat.toDigits 10 d).length ≤ 5 := (Nat.length_toDigits_le_iff (by decide) (by decide)).mpr hd
  -- the integer part stops at the point
  have hint := readDigits_toDigits a 0 0 ('.' :: (List.replicate (5 - (Nat.toDigits 10 d).length) '0' ++
    Nat.toDigits 10 d)) (by simp)
  -- the fraction runs to the end: the zeros, then the digits of `d`
  have hfrac : readDigits a 0 (List.replicate (5 - (Nat.toDigits 10 d).length) '0' ++ Nat.toDigits 10 d) =
      (a * 100000 + d, 5, []) := by
    rw [readDigits_append _ _ _ _ fun c hc => by rw [(List.mem_replicate.mp hc).2]; rfl,
      digitsVal_replicate_zero, List.length_replicate, ← List.append_nil (Nat.toDigits 10 d),
      readDigits_toDigits d _ _ [] (by simp), List.append_nil]
    have h5 : 5 - (Nat.toDigits 10 d).length + (Nat.toDigits 10 d).length = 5 := by omega
    rw [zero_add, h5, mul_assoc, ← pow_add, h5]
    norm_num
  rw [toList_fixed5, decimal, hint]
  simp only [zero_mul, zero_add]
  rw [hfrac]
  simp [exponent]

/-- A five-place decimal below `2⁸²` neither overflows nor, unless it is zero, underflows. -/
theorem overflows_fixed5 {N : Nat} (hN : N < 2 ^ 82) : (⟨(N : ℤ), 5⟩ : Decimal).overflows = false := by
  have h1 : 2 ^ 970 ≤ 2 ^ 1023 := by apply Nat.pow_le_pow_right <;> norm_num
  have h2 : 2 ^ 82 ≤ 2 ^ 1023 := by apply Nat.pow_le_pow_right <;> norm_num
  have h3 : 2 ^ 1024 = 2 * 2 ^ 1023 := by rw [pow_succ, mul_comm]
  simp only [Decimal.overflows, decide_eq_false_iff_not, not_le, Int.natAbs_natCast]
  rw [h3]
  generalize 2 ^ 1023 = x at *
  generalize 2 ^ 970 = y at *
  generalize 2 ^ 82 = z at *
  norm_num
  omega

theorem underflows_fixed5 {N : Nat} (hN : N ≠ 0) : (⟨(N : ℤ), 5⟩ : Decimal).underflows = false := by
  have h1 : 2 ^ 17 ≤ 2 ^ 1075 := by apply Nat.pow_le_pow_right <;> norm_num
  simp only [Decimal.underflows, decide_eq_false_iff_not, not_le, Int.natAbs_natCast]
  calc 10 ^ 5 < 1 * 2 ^ 17 := by norm_num
    _ ≤ N * 2 ^ 1075 := Nat.mul_le_mul (Nat.one_le_iff_ne_zero.mpr hN) h1

/-- `a.ddddd` parses to `a + d / 10⁵`. -/
theorem parseFloat_fixed5 {a d : Nat} (hd : d < 100000) (ha : a < 2 ^ 64) :
    ∃ x, parseFloat (fixed5 a d) = .ok (.finite x) ∧ x.val = ((a * 100000 + d : ℕ) : ℚ) / 10 ^ 5 := by
  obtain ⟨c, cs, hcs⟩ : ∃ c cs, Nat.toDigits 10 a = c :: cs := List.exists_cons_of_ne_nil Nat.toDigits_ne_nil
  have hc : c.isDigit = true := isDigit_of_mem_toDigits (by rw [hcs]; exact List.mem_cons_self)
  have hs : (fixed5 a d).toList = c :: (cs ++ '.' ::
      (List.replicate (5 - (Nat.toDigits 10 d).length) '0' ++ Nat.toDigits 10 d)) := by
    rw [toList_fixed5, hcs, List.cons_append]
  have ho := overflows_fixed5 (N := a * 100000 + d) (by omega)
  by_cases hz : a * 100000 + d = 0
  · -- zero underflows, and reads as zero
    have hu : (⟨((a * 100000 + d : ℕ) : ℤ), 5⟩ : Decimal).underflows = true := by
      simp only [Decimal.underflows, hz, Nat.cast_zero, Int.natAbs_zero, zero_mul, Nat.zero_le,
        decide_true]
    refine ⟨⟨0, 0⟩, ?_, by simp [Decimal.val, hz]⟩
    rw [parseFloat, hs, special_of_isDigit hc]
    dsimp only
    rw [splitSign_of_isDigit hc, ← hs, decimal_fixed5 a d hd]
    simp only [ho, hu, Bool.false_eq_true, if_false, if_true]
  · refine ⟨_, parseFloat_of_decimal hs hc (decimal_fixed5 a d hd) ho (underflows_fixed5 hz), ?_⟩
    simp [Decimal.val]

end Strconv

import Mathlib.Data.Int.Log
import Mathlib.Algebra.Order.Floor.Ring
import Mathlib.Data.Rat.Floor
import Mathlib.Data.Nat.Digits.Lemmas
import Mathlib.Tactic.Linarith

/-!
# Decimal floating point

A finite `Decimal` is a sign, a coefficient and an exponent. Two of them compare by value, while
their texts keep what was written. Arithmetic rounds its exact result to the precision of the
context, to nearest and ties to even, so on values it is exact arithmetic followed by `rounded`.
-/

namespace ControlAssurance.Lib

structure Decimal where
  negative : Bool
  coefficient : Nat
  exponent : Int
deriving DecidableEq

namespace Decimal

def value (d : Decimal) : ℚ :=
  (if d.negative then -1 else 1) * d.coefficient * (10 : ℚ) ^ d.exponent

/-- `len(d.as_tuple().digits)`. -/
def digitCount (d : Decimal) : Nat := max 1 (Nat.digits 10 d.coefficient).length

/-- Take the trailing zeros off a coefficient, at most `fuel` of them. -/
def stripZeros : Nat → Nat → Int → Nat × Int
  | 0, coefficient, exponent => (coefficient, exponent)
  | fuel + 1, coefficient, exponent =>
    if coefficient % 10 = 0 then stripZeros fuel (coefficient / 10) (exponent + 1)
    else (coefficient, exponent)

/-- The spelling that a value has in JSON, where no digit of it is redundant. -/
def canonical (d : Decimal) : Decimal :=
  if d.coefficient = 0 then ⟨false, 0, 0⟩
  else
    let (coefficient, exponent) := stripZeros d.digitCount d.coefficient d.exponent
    ⟨d.negative, coefficient, exponent⟩

/-! ## One spelling of a number -/

theorem stripZeros_value : ∀ (fuel c : Nat) (e : Int),
    ((stripZeros fuel c e).1 : ℚ) * 10 ^ (stripZeros fuel c e).2 = c * 10 ^ e
  | 0, _, _ => rfl
  | fuel + 1, c, e => by
    rw [stripZeros]
    by_cases hc : c % 10 = 0
    · rw [if_pos hc, stripZeros_value fuel]
      have hsplit : ((c / 10 : ℕ) : ℚ) * 10 = c := by
        have hmul : c / 10 * 10 = c := Nat.div_mul_cancel (Nat.dvd_of_mod_eq_zero hc)
        exact_mod_cast hmul
      rw [zpow_add_one₀ (by norm_num), mul_comm ((10 : ℚ) ^ e) 10, ← mul_assoc, hsplit]
    · rw [if_neg hc]

theorem stripZeros_last : ∀ (fuel c : Nat) (e : Int), c ≠ 0 → c < 10 ^ fuel →
    ¬10 ∣ (stripZeros fuel c e).1
  | 0, c, _, hne, hlt => by
    rw [pow_zero] at hlt
    omega
  | fuel + 1, c, e, hne, hlt => by
    rw [stripZeros]
    by_cases hc : c % 10 = 0
    · rw [if_pos hc]
      rw [pow_succ] at hlt
      exact stripZeros_last fuel _ _ (by omega) (by omega)
    · rw [if_neg hc]
      omega

theorem coefficient_lt (d : Decimal) : d.coefficient < 10 ^ d.digitCount :=
  (Nat.lt_base_pow_length_digits (by norm_num)).trans_le
    (Nat.pow_le_pow_right (by norm_num) (le_max_right _ _))

/-- A coefficient without a last zero and its exponent are determined by their product. -/
theorem spelling_unique {c c' : Nat} {e e' : Int} (hc : ¬10 ∣ c) (hc' : ¬10 ∣ c')
    (h : (c : ℚ) * 10 ^ e = c' * 10 ^ e') : c = c' ∧ e = e' := by
  have hstep : ∀ {c c' : Nat} {e e' : Int}, ¬10 ∣ c → (c : ℚ) * 10 ^ e = c' * 10 ^ e' → e' ≤ e := by
    intro c c' e e' hc h
    by_contra hlt
    obtain ⟨n, hn⟩ : ∃ n : ℕ, e' = e + (n + 1 : ℕ) := ⟨(e' - e - 1).toNat, by omega⟩
    have hne : (10 : ℚ) ^ e ≠ 0 := zpow_ne_zero _ (by norm_num)
    have hscaled : (c : ℚ) = c' * 10 ^ (n + 1) := by
      rw [hn, zpow_add₀ (by norm_num), zpow_natCast] at h
      have hcancel : (c : ℚ) * 10 ^ e = c' * 10 ^ (n + 1) * 10 ^ e := by rw [h]; ring
      exact mul_right_cancel₀ hne hcancel
    have hnat : c = c' * 10 ^ (n + 1) := by exact_mod_cast hscaled
    exact hc (hnat ▸ Dvd.dvd.mul_left (dvd_pow_self 10 (by omega)) c')
  have he : e = e' := le_antisymm (hstep hc' h.symm) (hstep hc h)
  refine ⟨?_, he⟩
  rw [he] at h
  exact_mod_cast mul_right_cancel₀ (zpow_ne_zero _ (by norm_num)) h

theorem value_canonical (d : Decimal) : d.canonical.value = d.value := by
  unfold canonical
  by_cases hzero : d.coefficient = 0
  · rw [if_pos hzero]
    simp [value, hzero]
  · rw [if_neg hzero]
    have hvalue := stripZeros_value d.digitCount d.coefficient d.exponent
    simp only [value, mul_assoc, hvalue]

theorem canonical_last {d : Decimal} (h : d.coefficient ≠ 0) : ¬10 ∣ d.canonical.coefficient := by
  unfold canonical
  rw [if_neg h]
  exact stripZeros_last _ _ _ h d.coefficient_lt

theorem value_eq_zero {d : Decimal} : d.value = 0 ↔ d.coefficient = 0 := by
  have hpow : (10 : ℚ) ^ d.exponent ≠ 0 := zpow_ne_zero _ (by norm_num)
  unfold value
  split_ifs <;> simp [hpow]

/-- **Two decimals have one canonical spelling when they are one number.** -/
theorem canonical_eq_iff {a b : Decimal} : a.canonical = b.canonical ↔ a.value = b.value := by
  constructor
  · intro h
    rw [← value_canonical a, h, value_canonical]
  · intro h
    by_cases ha : a.coefficient = 0
    · have hb : b.coefficient = 0 := value_eq_zero.mp (h ▸ value_eq_zero.mpr ha)
      unfold canonical
      rw [if_pos ha, if_pos hb]
    · have hb : b.coefficient ≠ 0 := fun hb => ha (value_eq_zero.mp (h.trans (value_eq_zero.mpr hb)))
      have hlastA := canonical_last ha
      have hlastB := canonical_last hb
      have hvalue : a.canonical.value = b.canonical.value := by
        rw [value_canonical, value_canonical, h]
      generalize a.canonical = x at *
      generalize b.canonical = y at *
      have hmagnitude : ∀ d : Decimal, |d.value| = d.coefficient * 10 ^ d.exponent := by
        intro d
        have hpos : (0 : ℚ) ≤ d.coefficient * 10 ^ d.exponent :=
          mul_nonneg (Nat.cast_nonneg _) (zpow_nonneg (by norm_num) _)
        unfold value
        split_ifs
        · rw [neg_one_mul, neg_mul, abs_neg, abs_of_nonneg hpos]
        · rw [one_mul, abs_of_nonneg hpos]
      have hspelling := spelling_unique hlastA hlastB
        ((hmagnitude x).symm.trans ((congrArg _ hvalue).trans (hmagnitude y)))
      have hpositive : (0 : ℚ) < x.coefficient * 10 ^ x.exponent := by
        have hcoefficient : 0 < x.coefficient := Nat.pos_of_ne_zero fun hzero =>
          hlastA (hzero ▸ dvd_zero 10)
        exact mul_pos (by exact_mod_cast hcoefficient) (zpow_pos (by norm_num) _)
      obtain ⟨sx, cx, ex⟩ := x
      obtain ⟨sy, cy, ey⟩ := y
      obtain ⟨rfl, rfl⟩ : cx = cy ∧ ex = ey := hspelling
      cases sx <;> cases sy
      · rfl
      · simp only [value] at hvalue hpositive
        norm_num at hvalue
        linarith
      · simp only [value] at hvalue hpositive
        norm_num at hvalue
        linarith
      · rfl

end Decimal

/-- The integer nearest to a number, the even one of two. -/
def roundHalfEven (x : ℚ) : Int :=
  if x - ⌊x⌋ < 1 / 2 then ⌊x⌋
  else if 1 / 2 < x - ⌊x⌋ then ⌊x⌋ + 1
  else if ⌊x⌋ % 2 = 0 then ⌊x⌋
  else ⌊x⌋ + 1

/-- A number rounded to so many significant digits. -/
def rounded (precision : Nat) (x : ℚ) : ℚ :=
  if x = 0 then 0
  else
    let scale : Int := precision - 1 - Int.log 10 |x|
    roundHalfEven (x * (10 : ℚ) ^ scale) * (10 : ℚ) ^ (-scale)

end ControlAssurance.Lib

import Mathlib.Tactic.Linarith
import Mathlib.Tactic.Ring
import ControlAssurance.Lib.Decimal

/-!
# Rounding to significant digits

Rounding to nearest keeps the order of nonnegative numbers (`rounded_mono`). It does not keep the
comparison with a third number: `CarriedOver` and `CarriedUnder` say how near a bound has to be
for the digits after the last significant one to change it.
-/

namespace ControlAssurance.Lib

/-! ## To an integer -/

theorem floor_le_roundHalfEven (x : ℚ) : ⌊x⌋ ≤ roundHalfEven x := by
  unfold roundHalfEven
  split_ifs <;> omega

theorem roundHalfEven_le_floor (x : ℚ) : roundHalfEven x ≤ ⌊x⌋ + 1 := by
  unfold roundHalfEven
  split_ifs <;> omega

theorem roundHalfEven_intCast (n : ℤ) : roundHalfEven n = n := by
  unfold roundHalfEven
  rw [Int.floor_intCast, sub_self, if_pos (by norm_num)]

variable {x y : ℚ} {precision : Nat}

/-- Within one unit the nearest integer only moves up. -/
theorem roundHalfEven_le_of_floor (hfloor : ⌊x⌋ = ⌊y⌋) (h : x ≤ y) :
    roundHalfEven x ≤ roundHalfEven y := by
  have hfraction : x - ⌊x⌋ ≤ y - ⌊y⌋ := by
    rw [hfloor]
    exact sub_le_sub_right h _
  unfold roundHalfEven
  rw [hfloor] at hfraction ⊢
  split_ifs with hx hy hy' heven hx' hy hy' heven hx'' hy hy' hy hy' <;>
    first
      | omega
      | (exfalso; linarith)

theorem roundHalfEven_mono (h : x ≤ y) : roundHalfEven x ≤ roundHalfEven y := by
  rcases (Int.floor_le_floor h).lt_or_eq with hlt | heq
  · have hx := roundHalfEven_le_floor x
    have hy := floor_le_roundHalfEven y
    omega
  · exact roundHalfEven_le_of_floor heq h

/-! ## To significant digits -/

/-- The power of ten that a number of this magnitude is scaled by. -/
def digitScale (precision : Nat) (x : ℚ) : Int := precision - 1 - Int.log 10 |x|

theorem rounded_zero (precision : Nat) : rounded precision 0 = 0 := if_pos rfl

theorem rounded_of_ne (h : x ≠ 0) :
    rounded precision x
      = roundHalfEven (x * (10 : ℚ) ^ digitScale precision x)
        * (10 : ℚ) ^ (-digitScale precision x) := if_neg h

theorem ten_zpow_pos (z : ℤ) : (0 : ℚ) < 10 ^ z := zpow_pos (by norm_num) z

theorem rounded_nonneg (h : 0 ≤ x) : 0 ≤ rounded precision x := by
  by_cases hx : x = 0
  · rw [hx, rounded_zero]
  · rw [rounded_of_ne hx]
    have hscaled : (0 : ℚ) ≤ x * 10 ^ digitScale precision x :=
      mul_nonneg h (ten_zpow_pos _).le
    have hround : (0 : ℤ) ≤ roundHalfEven (x * 10 ^ digitScale precision x) :=
      le_trans (Int.floor_nonneg.mpr hscaled) (floor_le_roundHalfEven _)
    exact mul_nonneg (by exact_mod_cast hround) (ten_zpow_pos _).le

/-- A rounded number reaches at most the next power of ten. -/
theorem rounded_le_zpow (h : 0 < x) :
    rounded precision x ≤ 10 ^ (Int.log 10 x + 1) := by
  have hscale : digitScale precision x = precision - 1 - Int.log 10 x := by
    rw [digitScale, abs_of_pos h]
  have hbelow : x * 10 ^ digitScale precision x ≤ ((10 ^ precision : ℤ) : ℚ) := by
    have hx : x ≤ 10 ^ (Int.log 10 x + 1) := (Int.lt_zpow_succ_log_self (by norm_num) x).le
    calc x * 10 ^ digitScale precision x
        ≤ 10 ^ (Int.log 10 x + 1) * 10 ^ digitScale precision x :=
          mul_le_mul_of_nonneg_right hx (ten_zpow_pos _).le
      _ = 10 ^ (precision : ℤ) := by
          rw [← zpow_add₀ (by norm_num), hscale]
          congr 1
          omega
      _ = ((10 ^ precision : ℤ) : ℚ) := by
          rw [zpow_natCast]
          norm_cast
  have hround := roundHalfEven_mono hbelow
  rw [roundHalfEven_intCast] at hround
  rw [rounded_of_ne h.ne']
  calc (roundHalfEven (x * 10 ^ digitScale precision x) : ℚ) * 10 ^ (-digitScale precision x)
      ≤ ((10 ^ precision : ℤ) : ℚ) * 10 ^ (-digitScale precision x) :=
        mul_le_mul_of_nonneg_right (by exact_mod_cast hround) (ten_zpow_pos _).le
    _ = 10 ^ (precision : ℤ) * 10 ^ (-digitScale precision x) := by
        rw [zpow_natCast]
        norm_cast
    _ = 10 ^ (Int.log 10 x + 1) := by
        rw [← zpow_add₀ (by norm_num), hscale]
        congr 1
        omega

/-- It does not fall below its own power of ten. -/
theorem zpow_le_rounded (hprecision : 1 ≤ precision) (h : 0 < x) :
    10 ^ Int.log 10 x ≤ rounded precision x := by
  have hscale : digitScale precision x = precision - 1 - Int.log 10 x := by
    rw [digitScale, abs_of_pos h]
  have hpower : ((10 ^ (precision - 1) : ℤ) : ℚ) = 10 ^ ((precision : ℤ) - 1) := by
    have hcast : ((precision : ℤ) - 1) = ((precision - 1 : ℕ) : ℤ) := by omega
    rw [hcast, zpow_natCast]
    norm_cast
  have habove : ((10 ^ (precision - 1) : ℤ) : ℚ) ≤ x * 10 ^ digitScale precision x := by
    have hx : (10 : ℚ) ^ Int.log 10 x ≤ x := Int.zpow_log_le_self (by norm_num) h
    calc ((10 ^ (precision - 1) : ℤ) : ℚ) = 10 ^ ((precision : ℤ) - 1) := hpower
      _ = 10 ^ Int.log 10 x * 10 ^ digitScale precision x := by
          rw [← zpow_add₀ (by norm_num), hscale]
          congr 1
          omega
      _ ≤ x * 10 ^ digitScale precision x := mul_le_mul_of_nonneg_right hx (ten_zpow_pos _).le
  have hround := roundHalfEven_mono habove
  rw [roundHalfEven_intCast] at hround
  rw [rounded_of_ne h.ne']
  calc (10 : ℚ) ^ Int.log 10 x = 10 ^ ((precision : ℤ) - 1) * 10 ^ (-digitScale precision x) := by
        rw [← zpow_add₀ (by norm_num), hscale]
        congr 1
        omega
    _ = ((10 ^ (precision - 1) : ℤ) : ℚ) * 10 ^ (-digitScale precision x) := by rw [hpower]
    _ ≤ (roundHalfEven (x * 10 ^ digitScale precision x) : ℚ) * 10 ^ (-digitScale precision x) :=
        mul_le_mul_of_nonneg_right (by exact_mod_cast hround) (ten_zpow_pos _).le

/-- **Rounding keeps the order of nonnegative numbers.** -/
theorem rounded_mono (hprecision : 1 ≤ precision) (hx : 0 ≤ x)
    (h : x ≤ y) : rounded precision x ≤ rounded precision y := by
  rcases hx.lt_or_eq with hpos | rfl
  · have hypos := hpos.trans_le h
    rcases (Int.log_mono_right (b := 10) hpos h).lt_or_eq with hlt | heq
    · -- a power of ten separates the two
      calc rounded precision x ≤ 10 ^ (Int.log 10 x + 1) := rounded_le_zpow hpos
        _ ≤ 10 ^ Int.log 10 y := zpow_le_zpow_right₀ (by norm_num) (by omega)
        _ ≤ rounded precision y := zpow_le_rounded hprecision hypos
    · -- both are scaled alike
      have hscale : digitScale precision x = digitScale precision y := by
        rw [digitScale, digitScale, abs_of_pos hpos, abs_of_pos hypos, heq]
      rw [rounded_of_ne hpos.ne', rounded_of_ne hypos.ne', hscale]
      have hround : roundHalfEven (x * 10 ^ digitScale precision y)
          ≤ roundHalfEven (y * 10 ^ digitScale precision y) :=
        roundHalfEven_mono (mul_le_mul_of_nonneg_right h (ten_zpow_pos _).le)
      exact mul_le_mul_of_nonneg_right (by exact_mod_cast hround) (ten_zpow_pos _).le
  · rw [rounded_zero]
    exact rounded_nonneg h

/-! ## Signs -/

theorem roundHalfEven_neg (x : ℚ) : roundHalfEven (-x) = -roundHalfEven x := by
  by_cases hx : x = ⌊x⌋
  · rw [hx]
    have hneg : (-(⌊x⌋ : ℚ)) = ((-⌊x⌋ : ℤ) : ℚ) := by push_cast; rfl
    rw [hneg, roundHalfEven_intCast, roundHalfEven_intCast]
  · have hlt : (⌊x⌋ : ℚ) < x := lt_of_le_of_ne (Int.floor_le x) (Ne.symm hx)
    have hup : x < ⌊x⌋ + 1 := Int.lt_floor_add_one x
    have hfloor : ⌊-x⌋ = -⌊x⌋ - 1 := by
      rw [Int.floor_eq_iff]
      push_cast
      constructor <;> linarith
    unfold roundHalfEven
    rw [hfloor]
    push_cast
    split_ifs <;> first | omega | (exfalso; linarith)

theorem rounded_neg (precision : Nat) (x : ℚ) : rounded precision (-x) = -rounded precision x := by
  by_cases hx : x = 0
  · rw [hx, neg_zero, rounded_zero, neg_zero]
  · have hscale : digitScale precision (-x) = digitScale precision x := by
      rw [digitScale, digitScale, abs_neg]
    rw [rounded_of_ne (neg_ne_zero.mpr hx), rounded_of_ne hx, hscale, neg_mul, roundHalfEven_neg]
    push_cast
    ring

/-- The magnitude of a rounded number is its rounded magnitude. -/
theorem abs_rounded (precision : Nat) (x : ℚ) : |rounded precision x| = rounded precision |x| := by
  rcases le_total 0 x with h | h
  · rw [abs_of_nonneg h, abs_of_nonneg (rounded_nonneg h)]
  · have hneg : 0 ≤ rounded precision (-x) := rounded_nonneg (neg_nonneg.mpr h)
    rw [abs_of_nonpos h, ← abs_neg, ← rounded_neg, abs_of_nonneg hneg]

/-! ## Comparisons -/

/-- The unit of the last significant digit of `x`. -/
def lastPlace (precision : Nat) (x : ℚ) : ℚ := 10 ^ (-digitScale precision x)

/-- What the digits after that one amount to, in this unit. -/
def beyond (precision : Nat) (x : ℚ) : ℚ := Int.fract (x * 10 ^ digitScale precision x)

/-- They amount to more than one half, or to one half after an odd digit. -/
def RoundsUp (precision : Nat) (x : ℚ) : Prop :=
  1 / 2 < beyond precision x
    ∨ beyond precision x = 1 / 2 ∧ ⌊x * 10 ^ digitScale precision x⌋ % 2 ≠ 0

instance (precision : Nat) (x : ℚ) : Decidable (RoundsUp precision x) :=
  inferInstanceAs (Decidable (_ ∨ _))

theorem lastPlace_pos : 0 < lastPlace precision x := ten_zpow_pos _

theorem scaled_lastPlace :
    x * 10 ^ digitScale precision x * lastPlace precision x = x := by
  unfold lastPlace
  rw [mul_assoc, ← zpow_add₀ (by norm_num), add_neg_cancel, zpow_zero, mul_one]

theorem roundHalfEven_up (h : 1 / 2 < Int.fract x ∨ Int.fract x = 1 / 2 ∧ ⌊x⌋ % 2 ≠ 0) :
    (roundHalfEven x : ℚ) = x + (1 - Int.fract x) := by
  have hfract : x - ⌊x⌋ = Int.fract x := rfl
  have hup : roundHalfEven x = ⌊x⌋ + 1 := by
    unfold roundHalfEven
    rw [hfract]
    rcases h with hmore | ⟨hhalf, hodd⟩
    · rw [if_neg (not_lt.mpr hmore.le), if_pos hmore]
    · rw [if_neg hhalf.ge.not_gt, if_neg hhalf.le.not_gt, if_neg hodd]
  rw [hup, ← hfract]
  push_cast
  ring

theorem roundHalfEven_down (h : ¬(1 / 2 < Int.fract x ∨ Int.fract x = 1 / 2 ∧ ⌊x⌋ % 2 ≠ 0)) :
    (roundHalfEven x : ℚ) = x - Int.fract x := by
  have hfract : x - ⌊x⌋ = Int.fract x := rfl
  rw [not_or, not_lt, not_and, not_not] at h
  have hdown : roundHalfEven x = ⌊x⌋ := by
    unfold roundHalfEven
    rw [hfract]
    rcases h.1.lt_or_eq with hless | hhalf
    · rw [if_pos hless]
    · rw [if_neg hhalf.ge.not_gt, if_neg hhalf.le.not_gt, if_pos (h.2 hhalf)]
  rw [hdown, ← hfract]
  ring

theorem rounded_scaled (precision : Nat) (x : ℚ) : rounded precision x
    = roundHalfEven (x * 10 ^ digitScale precision x) * lastPlace precision x := by
  by_cases hx : x = 0
  · subst hx
    have hzero : roundHalfEven 0 = 0 := roundHalfEven_intCast 0
    rw [rounded_zero, zero_mul, hzero, Int.cast_zero, zero_mul]
  · exact rounded_of_ne hx

/-- Rounding up fills the digits after the last place up to one unit of it. -/
theorem rounded_up (h : RoundsUp precision x) :
    rounded precision x = x + (1 - beyond precision x) * lastPlace precision x := by
  rw [rounded_scaled, roundHalfEven_up h, add_mul, scaled_lastPlace]
  rfl

/-- Rounding down drops them. -/
theorem rounded_down (h : ¬RoundsUp precision x) :
    rounded precision x = x - beyond precision x * lastPlace precision x := by
  rw [rounded_scaled, roundHalfEven_down h, sub_mul, scaled_lastPlace]
  rfl

/-- `bound` is at most `x`, but not by the digits that are dropped; or it exceeds `x`, but by no
more than what fills these up. -/
def CarriedOver (precision : Nat) (x bound : ℚ) : Prop :=
  if RoundsUp precision x then
    x < bound ∧ bound - x ≤ (1 - beyond precision x) * lastPlace precision x
  else
    bound ≤ x ∧ x - bound < beyond precision x * lastPlace precision x

/-- `bound` is below `x`, by no more than the digits that are dropped; or it is at least `x`, but
not by what fills these up. -/
def CarriedUnder (precision : Nat) (x bound : ℚ) : Prop :=
  if RoundsUp precision x then
    x ≤ bound ∧ bound - x < (1 - beyond precision x) * lastPlace precision x
  else
    bound < x ∧ x - bound ≤ beyond precision x * lastPlace precision x

/-- What is dropped, and what is filled up. -/
theorem shifts_nonneg (precision : Nat) (x : ℚ) :
    0 ≤ beyond precision x * lastPlace precision x
      ∧ 0 < (1 - beyond precision x) * lastPlace precision x :=
  ⟨mul_nonneg (Int.fract_nonneg _) lastPlace_pos.le,
    mul_pos (sub_pos.mpr (Int.fract_lt_one _)) lastPlace_pos⟩

/-- Rounding keeps the order of `x` and `bound`, unless it carries `x` under `bound`. -/
theorem not_carriedUnder {bound : ℚ} :
    ¬CarriedUnder precision x bound ↔ (rounded precision x ≤ bound ↔ x ≤ bound) := by
  obtain ⟨hdropped, hfilled⟩ := shifts_nonneg precision x
  unfold CarriedUnder
  by_cases hup : RoundsUp precision x
  · rw [if_pos hup, rounded_up hup]
    constructor
    · intro h
      exact ⟨fun hle => by linarith, fun hle => by linarith [not_lt.mp fun hlt => h ⟨hle, hlt⟩]⟩
    · rintro h ⟨hle, hlt⟩
      linarith [h.mpr hle]
  · rw [if_neg hup, rounded_down hup]
    constructor
    · intro h
      exact ⟨fun hle => not_lt.mp fun hlt => h ⟨hlt, by linarith⟩, fun hle => by linarith⟩
    · rintro h ⟨hlt, hle⟩
      linarith [h.mp (by linarith)]

/-- The same where `bound` is at most `x`. -/
theorem not_carriedOver {bound : ℚ} :
    ¬CarriedOver precision x bound ↔ (bound ≤ rounded precision x ↔ bound ≤ x) := by
  obtain ⟨hdropped, hfilled⟩ := shifts_nonneg precision x
  unfold CarriedOver
  by_cases hup : RoundsUp precision x
  · rw [if_pos hup, rounded_up hup]
    constructor
    · intro h
      exact ⟨fun hle => not_lt.mp fun hlt => h ⟨hlt, by linarith⟩, fun hle => by linarith⟩
    · rintro h ⟨hlt, hle⟩
      linarith [h.mp (by linarith)]
  · rw [if_neg hup, rounded_down hup]
    constructor
    · intro h
      exact ⟨fun hle => by linarith, fun hle => by linarith [not_lt.mp fun hlt => h ⟨hle, hlt⟩]⟩
    · rintro h ⟨hle, hlt⟩
      linarith [h.mpr hle]

end ControlAssurance.Lib

import Mathlib.Algebra.Order.Round
import Mathlib.Data.Int.Log
import Mathlib.Data.Rat.Floor
import Mathlib.Tactic.Linarith
import Mathlib.Tactic.Positivity
import Mathlib.Tactic.Ring

/-!
# Rounding to a floating-point format

A number is rounded to the nearest multiple of the unit of its binade, and to
the even one of two that are equally near.  The numbers that are rounded to a
power of two reach half a unit below it and half a unit above it, where the unit
doubles.
-/

namespace Number

/-- The nearest integer, the even one of two. -/
def roundEven (number : ℚ) : ℤ :=
  let low := ⌊number⌋
  if number - low < 1 / 2 then low
  else if 1 / 2 < number - low then low + 1
  else if low % 2 = 0 then low
  else low + 1

/-- The whole number without the fraction. -/
def towardZero (number : ℚ) : ℤ :=
  if 0 ≤ number then ⌊number⌋ else ⌈number⌉

@[simp] theorem towardZero_intCast (whole : ℤ) :
    towardZero whole = whole := by simp [towardZero]

section Whole

variable {number other : ℚ} {whole : ℤ}

@[simp] theorem roundEven_intCast (whole : ℤ) :
    roundEven whole = whole := by simp [roundEven]

theorem floor_le_roundEven : ⌊number⌋ ≤ roundEven number := by
  unfold roundEven
  dsimp only
  split
  · exact le_rfl
  · split
    · omega
    · split <;> omega

theorem roundEven_le_floor_add_one : roundEven number ≤ ⌊number⌋ + 1 := by
  unfold roundEven
  dsimp only
  split
  · omega
  · split
    · omega
    · split <;> omega

theorem roundEven_mono (ordered : number ≤ other) :
    roundEven number ≤ roundEven other := by
  rcases (Int.floor_le_floor ordered).lt_or_eq with below | same
  · calc
      roundEven number ≤ ⌊number⌋ + 1 := roundEven_le_floor_add_one
      _ ≤ ⌊other⌋ := below
      _ ≤ roundEven other := floor_le_roundEven
  · unfold roundEven
    dsimp only
    rw [same]
    have close : number - (⌊other⌋ : ℚ) ≤ other - (⌊other⌋ : ℚ) := by linarith
    split_ifs <;> first | omega | (exfalso; linarith)

theorem roundEven_le (bounded : number ≤ whole) : roundEven number ≤ whole := by
  simpa using roundEven_mono bounded

theorem le_roundEven (bounded : whole ≤ number) : whole ≤ roundEven number := by
  simpa using roundEven_mono bounded

theorem roundEven_eq_iff_of_even (even : whole % 2 = 0) :
    roundEven number = whole ↔
      (whole : ℚ) - 1 / 2 ≤ number ∧ number ≤ whole + 1 / 2 := by
  have low := Int.floor_le number
  have high := Int.lt_floor_add_one number
  constructor
  · intro rounded
    subst rounded
    unfold roundEven at even ⊢
    dsimp only at even ⊢
    split_ifs at even ⊢ <;> push_cast <;> constructor <;> linarith
  · rintro ⟨above, below⟩
    have cases : ⌊number⌋ = whole ∨ ⌊number⌋ = whole - 1 := by
      have notAbove : ⌊number⌋ < whole + 1 := by
        rw [Int.floor_lt]
        push_cast
        linarith
      have notBelow : whole - 1 ≤ ⌊number⌋ := by
        rw [Int.le_floor]
        push_cast
        linarith
      omega
    unfold roundEven
    dsimp only
    rcases cases with same | less
    · rw [same]
      split_ifs <;> first | rfl | (exfalso; linarith)
    · rw [less]
      push_cast
      split_ifs <;> first | omega | (exfalso; linarith)

end Whole

/-- A binary floating-point format. -/
structure Format where
  fraction : ℕ
  lowest : ℤ
  limit : ℤ

/-- The format of double precision. -/
def binary64 : Format where
  fraction := 52
  lowest := -1074
  limit := 1024

/-- A number of a format, or an infinity. -/
inductive Double
  | finite (value : ℚ)
  | infinite (negative : Bool)
  deriving DecidableEq

namespace Format

variable (format : Format)

/-- The exponent of the unit in the last place. -/
def unit (number : ℚ) : ℤ :=
  max (Int.log 2 |number| - format.fraction) format.lowest

/-- The nearest multiple of the unit. -/
def rounded (number : ℚ) : ℚ :=
  roundEven (number / 2 ^ format.unit number) * 2 ^ format.unit number

/-- The double next to a number. -/
def nearest (number : ℚ) : Double :=
  if |format.rounded number| < 2 ^ format.limit then .finite (format.rounded number)
  else .infinite (decide (number < 0))

variable {format : Format} {number : ℚ} {whole power : ℤ}

theorem unit_pos : (0 : ℚ) < 2 ^ format.unit number :=
  zpow_pos two_pos _

theorem rounded_le (bounded : number ≤ whole * 2 ^ format.unit number) :
    format.rounded number ≤ whole * 2 ^ format.unit number := by
  have scaled : number / 2 ^ format.unit number ≤ whole := (div_le_iff₀ unit_pos).mpr bounded
  exact mul_le_mul_of_nonneg_right (by exact_mod_cast roundEven_le scaled) unit_pos.le

theorem le_rounded (bounded : whole * 2 ^ format.unit number ≤ number) :
    whole * 2 ^ format.unit number ≤ format.rounded number := by
  have scaled : whole ≤ number / 2 ^ format.unit number := (le_div_iff₀ unit_pos).mpr bounded
  exact mul_le_mul_of_nonneg_right (by exact_mod_cast le_roundEven scaled) unit_pos.le

theorem rounded_of_multiple
    (multiple : number = whole * 2 ^ format.unit number) :
    format.rounded number = number :=
  le_antisymm (by simpa [← multiple] using rounded_le multiple.le)
    (by simpa [← multiple] using le_rounded multiple.ge)

theorem zpow_eq_mul_unit (fits : format.unit number ≤ power) :
    ((2 ^ (power - format.unit number).toNat : ℤ) : ℚ) *
      2 ^ format.unit number = 2 ^ power := by
  rw [Int.cast_pow, Int.cast_ofNat, ← zpow_natCast, Int.toNat_of_nonneg (by omega),
    ← zpow_add₀ two_ne_zero, Int.sub_add_cancel]

theorem rounded_le_zpow
    (fits : format.unit number ≤ power)
    (bounded : number ≤ 2 ^ power) :
    format.rounded number ≤ 2 ^ power := by
  rw [← zpow_eq_mul_unit fits] at bounded ⊢
  exact rounded_le bounded

theorem zpow_le_rounded
    (fits : format.unit number ≤ power)
    (bounded : 2 ^ power ≤ number) :
    2 ^ power ≤ format.rounded number := by
  rw [← zpow_eq_mul_unit fits] at bounded ⊢
  exact le_rounded bounded

theorem rounded_eq_iff_of_even (even : whole % 2 = 0) :
    format.rounded number = whole * 2 ^ format.unit number ↔
      (whole : ℚ) * 2 ^ format.unit number - 2 ^ (format.unit number - 1) ≤
        number ∧
      number ≤ whole * 2 ^ format.unit number +
        2 ^ (format.unit number - 1) := by
  have positive : (0 : ℚ) < 2 ^ format.unit number := unit_pos
  have half : (2 : ℚ) ^ (format.unit number - 1) = 1 / 2 * 2 ^ format.unit number := by
    rw [zpow_sub_one₀ two_ne_zero]
    ring
  rw [rounded, mul_left_inj' positive.ne', Int.cast_inj, roundEven_eq_iff_of_even even,
    half, ← sub_mul, ← add_mul, le_div_iff₀ positive, div_le_iff₀ positive]

theorem unit_eq
    (normal : format.lowest + format.fraction ≤ Int.log 2 |number|) :
    format.unit number = Int.log 2 |number| - format.fraction := by
  unfold unit
  omega

theorem rounded_neg_zpow (normal : format.lowest + format.fraction ≤ power) :
    format.rounded (-2 ^ power) = -2 ^ power := by
  have log : Int.log 2 |(-2 ^ power : ℚ)| = power := by
    rw [abs_neg, abs_of_pos (zpow_pos two_pos _)]
    exact_mod_cast @Int.log_zpow ℚ _ _ _ _ 2 one_lt_two power
  have unit := @unit_eq format (-2 ^ power) (by rw [log]; exact normal)
  have scaled := @zpow_eq_mul_unit format (-2 ^ power) power (by omega)
  refine @rounded_of_multiple format _ (-2 ^ (power - format.unit (-2 ^ power)).toNat) ?_
  rw [Int.cast_neg, neg_mul, scaled]

theorem one_le_rounded
    (coarse : format.lowest ≤ 0)
    (large : 1 ≤ number) :
    1 ≤ format.rounded number := by
  have positive : 0 < number := one_pos.trans_le large
  have inside := @Int.zpow_log_le_self ℚ _ _ _ _ 2 number one_lt_two positive
  push_cast at inside
  have log : 0 ≤ Int.log 2 number := by
    rw [← Int.zpow_le_iff_le_log one_lt_two positive]
    simpa using large
  refine (one_le_zpow₀ one_le_two log).trans (zpow_le_rounded ?_ inside)
  rw [unit, abs_of_pos positive]
  omega

theorem rounded_eq_zpow_iff
    (precise : 1 ≤ format.fraction)
    (normal : format.lowest + format.fraction < power) :
    format.rounded number = 2 ^ power ↔
      (2 : ℚ) ^ power - 2 ^ (power - format.fraction - 2) ≤ number ∧
      number ≤ 2 ^ power + 2 ^ (power - format.fraction - 1) := by
  have low : (2 : ℚ) ^ (power - format.fraction - 2) ≤ 2 ^ (power - 1) :=
    zpow_le_zpow_right₀ one_le_two (by omega)
  have halves : (2 : ℚ) ^ power = 2 ^ (power - 1) + 2 ^ (power - 1) := by
    rw [← two_mul, ← zpow_one_add₀ two_ne_zero]
    congr 1
    omega
  have positive : (0 : ℚ) < 2 ^ (power - 1) := zpow_pos two_pos _
  rcases le_or_gt number 0 with nonpositive | positiveNumber
  · have least : format.rounded number ≤ 0 := by
      simpa using @rounded_le format number 0 (by simpa using nonpositive)
    constructor
    · intro same
      linarith
    · rintro ⟨above, -⟩
      linarith
  have size : |number| = number := abs_of_pos positiveNumber
  have inside := @Int.zpow_log_le_self ℚ _ _ _ _ 2 number one_lt_two positiveNumber
  have outside := @Int.lt_zpow_succ_log_self ℚ _ _ _ _ 2 one_lt_two number
  push_cast at inside outside
  have binades : Int.log 2 number < power - 1 ∨ Int.log 2 number = power - 1 ∨
      Int.log 2 number = power ∨ power < Int.log 2 number := by
    omega
  rcases binades with below | last | first | above
  · -- The number is at most half the power, and so is what it is rounded to.
    have bounded : number ≤ 2 ^ (power - 1) :=
      outside.le.trans (zpow_le_zpow_right₀ one_le_two (by omega))
    have least : format.rounded number ≤ 2 ^ (power - 1) := by
      refine rounded_le_zpow ?_ bounded
      rw [unit, size]
      omega
    have closer : (2 : ℚ) ^ (power - format.fraction - 2) < 2 ^ (power - 1) :=
      zpow_lt_zpow_right₀ one_lt_two (by omega)
    constructor
    · intro same
      linarith
    · rintro ⟨near, -⟩
      linarith
  · -- In the binade below the power the unit is half as large.
    have unit : format.unit number = power - 1 - format.fraction := by
      rw [unit_eq (by rw [size]; omega), size, last]
    have scaled := @zpow_eq_mul_unit format number power (by omega)
    have even : (2 : ℤ) ^ (power - format.unit number).toNat % 2 = 0 := by
      rw [show (power - format.unit number).toNat = format.fraction + 1 by omega, pow_succ]
      omega
    rw [← scaled, rounded_eq_iff_of_even even, scaled, unit]
    have bounded : number < 2 ^ power := by rwa [last, Int.sub_add_cancel] at outside
    have upper : (0 : ℚ) < 2 ^ (power - format.fraction - 1) := zpow_pos two_pos _
    have lower : (0 : ℚ) < 2 ^ (power - 1 - format.fraction - 1) := zpow_pos two_pos _
    rw [show power - 1 - format.fraction - 1 = power - format.fraction - 2 by omega] at lower ⊢
    constructor
    · rintro ⟨near, -⟩
      exact ⟨near, by linarith⟩
    · rintro ⟨near, -⟩
      exact ⟨near, by linarith⟩
  · have unit : format.unit number = power - format.fraction := by
      rw [unit_eq (by rw [size]; omega), size, first]
    have scaled := @zpow_eq_mul_unit format number power (by omega)
    have even : (2 : ℤ) ^ (power - format.unit number).toNat % 2 = 0 := by
      rw [show (power - format.unit number).toNat = format.fraction by omega]
      obtain ⟨bits, same⟩ := Nat.exists_eq_add_of_le' precise
      rw [same, pow_succ]
      omega
    rw [← scaled, rounded_eq_iff_of_even even, scaled, unit]
    rw [first] at inside
    have lower : (0 : ℚ) < 2 ^ (power - format.fraction - 2) := zpow_pos two_pos _
    have upper : (0 : ℚ) < 2 ^ (power - format.fraction - 1) := zpow_pos two_pos _
    constructor
    · rintro ⟨-, near⟩
      exact ⟨by linarith, near⟩
    · rintro ⟨-, near⟩
      exact ⟨by linarith, near⟩
  · -- The number is at least twice the power, and so is what it is rounded to.
    have bounded : (2 : ℚ) ^ (power + 1) ≤ number :=
      (zpow_le_zpow_right₀ one_le_two (by omega)).trans inside
    have most : (2 : ℚ) ^ (power + 1) ≤ format.rounded number := by
      have unit := @unit_eq format number (by rw [size]; omega)
      rw [size] at unit
      exact (zpow_le_zpow_right₀ one_le_two (by omega)).trans
        (zpow_le_rounded (by omega) inside)
    have doubled : (2 : ℚ) ^ (power + 1) = 2 ^ power + 2 ^ power := by
      rw [zpow_add_one₀ two_ne_zero]
      ring
    have closer : (2 : ℚ) ^ (power - format.fraction - 1) < 2 ^ power :=
      zpow_lt_zpow_right₀ one_lt_two (by omega)
    constructor
    · intro same
      linarith
    · rintro ⟨-, near⟩
      linarith

end Format

end Number

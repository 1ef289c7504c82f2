import Mathlib

/-! Rounding a rational to the nearest integer, or to so many digits, with ties to the even one. -/
namespace Rounding

/-- The nearest integer, and the even one of two that are equally near. -/
def halfEven (q : ℚ) : ℤ :=
  let down := ⌊q⌋
  let rest := q - down
  if rest < 1 / 2 then down else if 1 / 2 < rest then down + 1
  else if down % 2 = 0 then down else down + 1

theorem halfEven_eq (q : ℚ) : halfEven q = ⌊q⌋ ∨ halfEven q = ⌊q⌋ + 1 := by
  unfold halfEven
  dsimp only
  split_ifs
  · exact .inl rfl
  · exact .inr rfl
  · exact .inl rfl
  · exact .inr rfl

/-- Between two integers the larger number is not rounded to the smaller one. -/
theorem halfEven_le_of_floor_eq {q q' : ℚ} (h : q ≤ q') (hfloor : ⌊q⌋ = ⌊q'⌋) :
    halfEven q ≤ halfEven q' := by
  have hrest : q - ⌊q'⌋ ≤ q' - ⌊q'⌋ := by linarith
  unfold halfEven
  dsimp only
  rw [hfloor]
  split_ifs <;> first | omega | linarith

theorem halfEven_mono : Monotone halfEven := by
  intro q q' h
  rcases (Int.floor_mono h).eq_or_lt with heq | hlt
  · exact halfEven_le_of_floor_eq h heq
  · have hq : halfEven q ≤ ⌊q⌋ + 1 := by rcases halfEven_eq q with hq | hq <;> omega
    have hq' : ⌊q'⌋ ≤ halfEven q' := by rcases halfEven_eq q' with hq' | hq' <;> omega
    omega

@[simp] theorem halfEven_intCast (n : ℤ) : halfEven n = n := by
  simp [halfEven]

/-- `round(q, digits)`. -/
def toDigits (digits : ℕ) (q : ℚ) : ℚ := halfEven (q * 10 ^ digits) / 10 ^ digits

theorem toDigits_mono (digits : ℕ) : Monotone (toDigits digits) := by
  intro q q' h
  have hpos : (0 : ℚ) < 10 ^ digits := by positivity
  have hscaled : q * 10 ^ digits ≤ q' * 10 ^ digits := mul_le_mul_of_nonneg_right h hpos.le
  have hrounded : (halfEven (q * 10 ^ digits) : ℚ) ≤ halfEven (q' * 10 ^ digits) :=
    Int.cast_le.mpr (halfEven_mono hscaled)
  exact div_le_div_of_nonneg_right hrounded hpos.le

/-- A number that has no more digits stays as it is. -/
theorem toDigits_of_int {digits : ℕ} {q : ℚ} {n : ℤ} (h : q * 10 ^ digits = n) :
    toDigits digits q = q := by
  have hpos : (0 : ℚ) < 10 ^ digits := by positivity
  rw [toDigits, h, halfEven_intCast, ← h]
  exact mul_div_cancel_right₀ q hpos.ne'

theorem abs_halfEven_sub_le (q : ℚ) : |halfEven q - q| ≤ 1 / 2 := by
  have hlow := Int.floor_le q
  have hhigh := Int.lt_floor_add_one q
  unfold halfEven
  dsimp only
  split_ifs <;> push_cast <;> rw [abs_le] <;> constructor <;> linarith

/-- Rounding moves a number by half of its last digit at most. -/
theorem abs_toDigits_sub_le (digits : ℕ) (q : ℚ) :
    |toDigits digits q - q| ≤ 1 / (2 * 10 ^ digits) := by
  have hpos : (0 : ℚ) < 10 ^ digits := by positivity
  have hscaled : toDigits digits q - q = (halfEven (q * 10 ^ digits) - q * 10 ^ digits) / 10 ^ digits := by
    rw [toDigits, sub_div, mul_div_cancel_right₀ q hpos.ne']
  calc |toDigits digits q - q|
      = |halfEven (q * 10 ^ digits) - q * 10 ^ digits| / 10 ^ digits := by
        rw [hscaled, abs_div, abs_of_pos hpos]
    _ ≤ 1 / 2 / 10 ^ digits := div_le_div_of_nonneg_right (abs_halfEven_sub_le _) hpos.le
    _ = 1 / (2 * 10 ^ digits) := div_div _ _ _

end Rounding

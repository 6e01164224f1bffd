/-
Nav3D.Lib.PlaneAngle — angles of the plane as real numbers.

`atan2` and `fmod` are the functions of the C library and `normalizeAngle`
is the function of the `angles` library, on real numbers. Two of their
results are compared as elements of `Real.Angle`, that is up to a multiple
of 2 pi.
-/
import Mathlib.Analysis.SpecialFunctions.Complex.Arg
import Nav3D.Lib.Numerals

namespace PlaneAngle

open Real

/-- `std::atan2`. -/
noncomputable def atan2 (y x : ℝ) : ℝ := Complex.arg ⟨x, y⟩

/-- `std::fmod`, whose quotient is rounded towards zero. -/
noncomputable def fmod (x m : ℝ) : ℝ :=
  x - m * (if 0 ≤ x / m then (⌊x / m⌋ : ℝ) else (⌈x / m⌉ : ℝ))

/-- `angles::normalize_angle`. -/
noncomputable def normalizeAngle (angle : ℝ) : ℝ :=
  let result := fmod (angle + π) (2 * π)
  if result ≤ 0 then result + π else result - π

/-! ## `fmod` -/

variable {m : ℝ}

theorem fmod_of_nonneg (hm : 0 < m) {x : ℝ} (hx : 0 ≤ x) : 0 ≤ fmod x m ∧ fmod x m < m := by
  have hdiv : 0 ≤ x / m := div_nonneg hx hm.le
  have hx' : x = m * (x / m) := by field_simp
  have hlow := mul_le_mul_of_nonneg_left (Int.floor_le (x / m)) hm.le
  have hhigh := mul_lt_mul_of_pos_left (Int.lt_floor_add_one (x / m)) hm
  rw [fmod, if_pos hdiv]
  constructor <;> linarith

theorem fmod_of_neg (hm : 0 < m) {x : ℝ} (hx : x < 0) : -m < fmod x m ∧ fmod x m ≤ 0 := by
  have hdiv : ¬ 0 ≤ x / m := not_le.mpr (div_neg_of_neg_of_pos hx hm)
  have hx' : x = m * (x / m) := by field_simp
  have hlow := mul_le_mul_of_nonneg_left (Int.le_ceil (x / m)) hm.le
  have hhigh := mul_lt_mul_of_pos_left (Int.ceil_lt_add_one (x / m)) hm
  rw [fmod, if_neg hdiv]
  constructor <;> linarith

/-- A remainder differs from the number by a multiple of the divisor. -/
theorem exists_fmod_eq (x m : ℝ) : ∃ k : ℤ, fmod x m = x - m * k := by
  unfold fmod
  split
  · exact ⟨⌊x / m⌋, rfl⟩
  · exact ⟨⌈x / m⌉, rfl⟩

/-! ## `normalizeAngle` -/

theorem normalizeAngle_mem (angle : ℝ) : normalizeAngle angle ∈ Set.Ioc (-π) π := by
  have hbounds : -(2 * π) < fmod (angle + π) (2 * π) ∧ fmod (angle + π) (2 * π) < 2 * π := by
    rcases le_or_gt 0 (angle + π) with h | h
    · obtain ⟨hlow, hhigh⟩ := fmod_of_nonneg two_pi_pos h
      exact ⟨by linarith [two_pi_pos], hhigh⟩
    · obtain ⟨hlow, hhigh⟩ := fmod_of_neg two_pi_pos h
      exact ⟨hlow, by linarith [two_pi_pos]⟩
  obtain ⟨hlow, hhigh⟩ := hbounds
  simp only [normalizeAngle, Set.mem_Ioc]
  split
  · next h => constructor <;> linarith
  · next h => constructor <;> linarith

theorem coe_normalizeAngle (angle : ℝ) : (normalizeAngle angle : Angle) = angle := by
  obtain ⟨k, hk⟩ := exists_fmod_eq (angle + π) (2 * π)
  rw [Angle.angle_eq_iff_two_pi_dvd_sub]
  simp only [normalizeAngle, hk]
  split
  · exact ⟨1 - k, by push_cast; ring⟩
  · exact ⟨-k, by push_cast; ring⟩

/-- The normalized angle is the representative in (-pi, pi]. -/
theorem normalizeAngle_eq_toReal (angle : ℝ) : normalizeAngle angle = (angle : Angle).toReal := by
  rw [← coe_normalizeAngle angle]
  exact (Angle.toReal_coe_eq_self_iff_mem_Ioc.mpr (normalizeAngle_mem angle)).symm

theorem normalizeAngle_of_mem {angle : ℝ} (h : angle ∈ Set.Ioc (-π) π) :
    normalizeAngle angle = angle := by
  rw [normalizeAngle_eq_toReal]
  exact Angle.toReal_coe_eq_self_iff_mem_Ioc.mpr h

/-! ## `atan2` -/

/-- Only the direction matters. -/
theorem atan2_mul {r : ℝ} (hr : 0 < r) (y x : ℝ) : atan2 (r * y) (r * x) = atan2 y x := by
  have hmul : (⟨r * x, r * y⟩ : ℂ) = r * ⟨x, y⟩ := by
    apply Complex.ext <;> simp
  rw [atan2, hmul, Complex.arg_real_mul _ hr, atan2]

theorem atan2_zero {x : ℝ} (hx : 0 ≤ x) : atan2 0 x = 0 :=
  Complex.arg_ofReal_of_nonneg hx

theorem atan2_zero_of_neg {x : ℝ} (hx : x < 0) : atan2 0 x = π :=
  Complex.arg_ofReal_of_neg hx

theorem atan2_pos_zero {y : ℝ} (hy : 0 < y) : atan2 y 0 = π / 2 :=
  Complex.arg_eq_pi_div_two_iff.mpr ⟨rfl, hy⟩

/-- The direction of a vector that is given by its angle. -/
theorem coe_atan2_sin_cos (θ : ℝ) : (atan2 (sin θ) (cos θ) : Angle) = θ := by
  have hdir := Complex.arg_cos_add_sin_mul_I_coe_angle (θ : Angle)
  rw [Angle.cos_coe, Angle.sin_coe] at hdir
  rw [atan2, Complex.mk_eq_add_mul_I]
  exact hdir

/-- Exchanging the two axes reflects the angle. -/
theorem coe_atan2_swap {x y : ℝ} (h : x ≠ 0 ∨ y ≠ 0) :
    (atan2 x y : Angle) = (-atan2 y x + π / 2 : ℝ) := by
  have hne : (⟨x, y⟩ : ℂ) ≠ 0 := by
    intro hzero
    rw [Complex.ext_iff] at hzero
    rcases h with hx | hy
    · exact hx hzero.1
    · exact hy hzero.2
  have hconj : (starRingEnd ℂ) ⟨x, y⟩ ≠ 0 := by simpa using hne
  have hmul : (⟨y, x⟩ : ℂ) = (starRingEnd ℂ) ⟨x, y⟩ * Complex.I := by
    apply Complex.ext <;> simp
  rw [atan2, hmul, Complex.arg_mul_coe_angle hconj Complex.I_ne_zero, Complex.arg_conj_coe_angle,
    Complex.arg_I, atan2, Angle.coe_add, Angle.coe_neg]

end PlaneAngle

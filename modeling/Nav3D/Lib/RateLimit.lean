/-
Nav3D.Lib.RateLimit — a velocity that is driven by a desired acceleration
under limits on the jerk, the acceleration and the velocity.

`limit m x` cuts `x` to [-m, m]. Cutting moves a value towards every value
that is within the limits (`abs_limit_sub_le_of_le`), so a later limit keeps
what an earlier one has established, if the state before the step was within
the later limit. Where it was not, the cut itself is the change
(`abs_limit_sub_eq`).
-/
import Mathlib.Algebra.Order.Field.Basic
import Mathlib.Tactic.Linarith
import Mathlib.Tactic.Ring

namespace RateLimit

variable {K : Type*} [Field K] [LinearOrder K]

/-- `std::copysign`. -/
def copysign (mag sgn : K) : K := if sgn < 0 then -|mag| else |mag|

/-- `if (std::abs(x) > m) x = std::copysign(m, x);` -/
def limit (m x : K) : K := if m < |x| then copysign m x else x

/-- The limits of one axis. -/
structure Limits (K : Type*) where
  jerk : K
  acc : K
  vel : K

/-- The velocity and the acceleration of one axis. -/
structure Motion (K : Type*) where
  vel : K
  acc : K
  deriving DecidableEq

/-- One step of `dt` towards a desired acceleration: the limits are applied
in the order jerk, acceleration, velocity. -/
def Limits.step (lim : Limits K) (dt desiredAcc : K) (motion : Motion K) : Motion K :=
  let jerk := limit lim.jerk ((desiredAcc - motion.acc) / dt)
  let acc := limit lim.acc (motion.acc + jerk * dt)
  { vel := limit lim.vel (motion.vel + acc * dt), acc := acc }

/-- No limit is negative. -/
structure Limits.Nonneg (lim : Limits K) : Prop where
  jerk : 0 ≤ lim.jerk
  acc : 0 ≤ lim.acc
  vel : 0 ≤ lim.vel

variable {m x y : K}

/-! ## Cutting a value -/

theorem limit_of_abs_le (h : |x| ≤ m) : limit m x = x := by
  simp [limit, not_lt.mpr h]

variable [IsStrictOrderedRing K]

theorem limit_of_lt (hm : 0 ≤ m) (h : m < x) : limit m x = m := by
  have hx : 0 < x := lt_of_le_of_lt hm h
  simp [limit, copysign, abs_of_pos hx, h, not_lt.mpr hx.le, abs_of_nonneg hm]

theorem limit_of_lt_neg (hm : 0 ≤ m) (h : x < -m) : limit m x = -m := by
  have hx : x < 0 := by linarith
  have habs : m < |x| := by rw [abs_of_neg hx]; linarith
  simp [limit, copysign, habs, hx, abs_of_nonneg hm]

/-- The three cases of a cut. -/
theorem limit_cases (hm : 0 ≤ m) (x : K) :
    |x| ≤ m ∧ limit m x = x ∨ m < x ∧ limit m x = m ∨ x < -m ∧ limit m x = -m := by
  rcases le_or_gt |x| m with h | h
  · exact .inl ⟨h, limit_of_abs_le h⟩
  · rcases lt_abs.mp h with hpos | hneg
    · exact .inr (.inl ⟨hpos, limit_of_lt hm hpos⟩)
    · have hx : x < -m := by linarith
      exact .inr (.inr ⟨hx, limit_of_lt_neg hm hx⟩)

theorem abs_limit_le (hm : 0 ≤ m) (x : K) : |limit m x| ≤ m := by
  rcases limit_cases hm x with ⟨h, heq⟩ | ⟨_, heq⟩ | ⟨_, heq⟩
  · rw [heq]; exact h
  · rw [heq, abs_of_nonneg hm]
  · rw [heq, abs_neg, abs_of_nonneg hm]

/-- From any `y`, a cut value is not farther than the value, or it is as far
as `y` exceeds the limit. -/
theorem abs_limit_sub_le (hm : 0 ≤ m) (x y : K) : |limit m x - y| ≤ max |x - y| (|y| - m) := by
  rcases limit_cases hm x with ⟨_, heq⟩ | ⟨hx, heq⟩ | ⟨hx, heq⟩
  · rw [heq]; exact le_max_left ..
  · rw [heq]
    rcases le_total y m with hy | hy
    · refine le_max_of_le_left ?_
      rw [abs_of_nonneg (by linarith : (0 : K) ≤ m - y), abs_of_nonneg (by linarith)]
      linarith
    · refine le_max_of_le_right ?_
      rw [abs_of_nonpos (by linarith : m - y ≤ 0), abs_of_nonneg (by linarith : (0 : K) ≤ y)]
      linarith
  · rw [heq]
    rcases le_total (-m) y with hy | hy
    · refine le_max_of_le_left ?_
      rw [abs_of_nonpos (by linarith : -m - y ≤ 0), abs_of_nonpos (by linarith : x - y ≤ 0)]
      linarith
    · refine le_max_of_le_right ?_
      rw [abs_of_nonneg (by linarith : (0 : K) ≤ -m - y), abs_of_nonpos (by linarith : y ≤ 0)]
      linarith

/-- A cut moves a value towards every value within the limit. -/
theorem abs_limit_sub_le_of_le (hm : 0 ≤ m) (hy : |y| ≤ m) (x : K) :
    |limit m x - y| ≤ |x - y| := by
  have hwithin : |y| - m ≤ |x - y| := by linarith [abs_nonneg (x - y)]
  have hle := abs_limit_sub_le hm x y
  rwa [max_eq_left hwithin] at hle

/-- A value beyond the limit is cut by what it exceeds it, if it would have
moved by less. -/
theorem abs_limit_sub_eq (hm : 0 ≤ m) (h : |x - y| < |y| - m) : |limit m x - y| = |y| - m := by
  obtain ⟨hlow, hhigh⟩ := abs_lt.mp h
  rcases le_total 0 y with hy | hy
  · rw [abs_of_nonneg hy] at hlow hhigh ⊢
    have hcut : m < x := by linarith
    rw [limit_of_lt hm hcut, abs_of_nonpos (by linarith : m - y ≤ 0)]
    ring
  · rw [abs_of_nonpos hy] at hlow hhigh ⊢
    have hcut : x < -m := by linarith
    rw [limit_of_lt_neg hm hcut, abs_of_nonneg (by linarith : (0 : K) ≤ -m - y)]
    ring

/-! ## One step -/

variable {lim : Limits K} {dt : K}

theorem Limits.abs_step_acc_le (hacc : 0 ≤ lim.acc) (dt desiredAcc : K) (motion : Motion K) :
    |(lim.step dt desiredAcc motion).acc| ≤ lim.acc := abs_limit_le hacc _

theorem Limits.abs_step_vel_le (hvel : 0 ≤ lim.vel) (dt desiredAcc : K) (motion : Motion K) :
    |(lim.step dt desiredAcc motion).vel| ≤ lim.vel := abs_limit_le hvel _

/-- The limit of the acceleration keeps the limit of the jerk. -/
theorem Limits.abs_step_acc_sub_le (h : lim.Nonneg) (hdt : 0 < dt) (desiredAcc : K)
    {motion : Motion K} (hmotion : |motion.acc| ≤ lim.acc) :
    |(lim.step dt desiredAcc motion).acc - motion.acc| ≤ lim.jerk * dt := by
  let jerk := limit lim.jerk ((desiredAcc - motion.acc) / dt)
  have hjerk : |jerk| ≤ lim.jerk := abs_limit_le h.jerk _
  calc |(lim.step dt desiredAcc motion).acc - motion.acc|
      ≤ |motion.acc + jerk * dt - motion.acc| := abs_limit_sub_le_of_le h.acc hmotion _
    _ = |jerk| * dt := by rw [add_sub_cancel_left, abs_mul, abs_of_pos hdt]
    _ ≤ lim.jerk * dt := mul_le_mul_of_nonneg_right hjerk hdt.le

/-- How far the velocity would move without its limit. -/
theorem Limits.abs_vel_add_sub_le (hacc : 0 ≤ lim.acc) (hdt : 0 < dt) (desiredAcc : K)
    (motion : Motion K) :
    |motion.vel + (lim.step dt desiredAcc motion).acc * dt - motion.vel| ≤ lim.acc * dt := by
  rw [add_sub_cancel_left, abs_mul, abs_of_pos hdt]
  exact mul_le_mul_of_nonneg_right (lim.abs_step_acc_le hacc dt desiredAcc motion) hdt.le

/-- The velocity changes by what the acceleration allows, or it is cut. -/
theorem Limits.abs_step_vel_sub_le (h : lim.Nonneg) (hdt : 0 < dt) (desiredAcc : K)
    (motion : Motion K) :
    |(lim.step dt desiredAcc motion).vel - motion.vel| ≤
      max (lim.acc * dt) (|motion.vel| - lim.vel) :=
  (abs_limit_sub_le h.vel _ _).trans
    (max_le_max_right _ (lim.abs_vel_add_sub_le h.acc hdt desiredAcc motion))

/-- The acceleration accounts for the change of the velocity exactly if the
velocity does not exceed its limit by more. -/
theorem Limits.abs_step_vel_sub_le_iff (h : lim.Nonneg) (hdt : 0 < dt) (desiredAcc : K)
    (motion : Motion K) :
    |(lim.step dt desiredAcc motion).vel - motion.vel| ≤ lim.acc * dt ↔
      |motion.vel| - lim.vel ≤ lim.acc * dt := by
  constructor
  · intro hle
    by_contra hcut
    have hmove := lim.abs_vel_add_sub_le h.acc hdt desiredAcc motion
    have heq : |(lim.step dt desiredAcc motion).vel - motion.vel| = |motion.vel| - lim.vel :=
      abs_limit_sub_eq h.vel (lt_of_le_of_lt hmove (not_le.mp hcut))
    rw [heq] at hle
    exact hcut hle
  · intro hle
    have hmax := lim.abs_step_vel_sub_le h hdt desiredAcc motion
    rwa [max_eq_left hle] at hmax

end RateLimit

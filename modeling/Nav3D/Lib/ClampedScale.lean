/-
Nav3D.Lib.ClampedScale — a value scaled from one range to another and cut
to the second one.

`clampedScale lo hi a b` takes `a` to `lo` and `b` to `hi` and is linear
between. With `lo ≤ hi` its values are in the second range. It grows with
its argument if `a < b`, and falls if `b < a`; from a given point on it
does not fall exactly if it is constant there or `a < b`
(`monotoneOn_clampedScale_iff`).
-/
import Mathlib.Algebra.Order.Field.Basic
import Mathlib.Order.Monotone.Basic
import Mathlib.Tactic.Linarith

namespace ClampedScale

variable {K : Type*} [Field K] [LinearOrder K]

/-- The scaled value, cut at `hi` first. -/
def clampedScale (lo hi a b x : K) : K := max (min ((x - a) / (b - a) * (hi - lo) + lo) hi) lo

variable {lo hi a b x y : K}

theorem le_clampedScale : lo ≤ clampedScale lo hi a b x := le_max_right ..

theorem clampedScale_le (h : lo ≤ hi) : clampedScale lo hi a b x ≤ hi :=
  max_le (min_le_right ..) h

/-- One value for all arguments. -/
theorem clampedScale_const : clampedScale lo lo a b x = lo := by
  simp [clampedScale]

theorem clampedScale_self (h : lo ≤ hi) : clampedScale lo hi a b a = lo := by
  simp [clampedScale, h]

variable [IsStrictOrderedRing K]

theorem clampedScale_mono (h : lo ≤ hi) (hab : a < b) : Monotone (clampedScale lo hi a b) := by
  intro x y hxy
  have hscale : (x - a) / (b - a) * (hi - lo) ≤ (y - a) / (b - a) * (hi - lo) := by
    apply mul_le_mul_of_nonneg_right _ (sub_nonneg.mpr h)
    exact div_le_div_of_nonneg_right (by linarith) (sub_pos.mpr hab).le
  unfold clampedScale
  exact max_le_max_right _ (min_le_min_right _ (by linarith))

/-- With the first range reversed, nothing above `a` is above `lo`. -/
theorem clampedScale_of_le (h : lo ≤ hi) (hba : b < a) (hx : a ≤ x) :
    clampedScale lo hi a b x = lo := by
  have hscale : (x - a) / (b - a) * (hi - lo) ≤ 0 := by
    apply mul_nonpos_of_nonpos_of_nonneg _ (sub_nonneg.mpr h)
    exact div_nonpos_of_nonneg_of_nonpos (sub_nonneg.mpr hx) (by linarith)
  apply max_eq_right
  exact (min_le_left ..).trans (by linarith)

/-- And everything below `a` is. -/
theorem lt_clampedScale_of_lt (h : lo < hi) (hba : b < a) (hx : x < a) :
    lo < clampedScale lo hi a b x := by
  have hscale : 0 < (x - a) / (b - a) * (hi - lo) := by
    apply mul_pos _ (sub_pos.mpr h)
    exact div_pos_of_neg_of_neg (by linarith) (by linarith)
  exact lt_max_of_lt_left (lt_min (by linarith) h)

/-- From `c` on, the value never falls. -/
theorem monotoneOn_clampedScale_iff {c : K} (h : lo ≤ hi) (hab : a ≠ b) :
    MonotoneOn (clampedScale lo hi a b) (Set.Ici c) ↔ lo = hi ∨ a < b ∨ a ≤ c := by
  constructor
  · intro hmono
    by_contra hnot
    simp only [not_or, not_lt, not_le] at hnot
    obtain ⟨hne, hle, hca⟩ := hnot
    have hlo : lo < hi := lt_of_le_of_ne h hne
    have hba : b < a := lt_of_le_of_ne hle (Ne.symm hab)
    have hfalls := hmono Set.self_mem_Ici (Set.mem_Ici.mpr hca.le) hca.le
    rw [clampedScale_self h] at hfalls
    exact absurd (lt_clampedScale_of_lt hlo hba hca) (not_lt.mpr hfalls)
  · rintro (rfl | hlt | hle) x hx y hy hxy
    · rw [clampedScale_const, clampedScale_const]
    · exact clampedScale_mono h hlt hxy
    · rcases lt_or_gt_of_ne hab with hlt | hgt
      · exact clampedScale_mono h hlt hxy
      · rw [clampedScale_of_le h hgt (hle.trans hx), clampedScale_of_le h hgt (hle.trans hy)]

end ClampedScale

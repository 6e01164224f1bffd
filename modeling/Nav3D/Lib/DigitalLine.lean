/-
Nav3D.Lib.DigitalLine — the digital line of a slope between 0 and 1, with an
integer accumulator.

A line that takes `a` minor steps in `d` major ones is drawn by adding `a` to
an accumulator in each major step and taking a minor step, and `d` away,
whenever it reaches `d`. From half of `d` on, the accumulator and the number
of minor steps are the remainder and the quotient of one division, which
gives the end of the line and the distance from it.

`IsLine` says what a list of cells has to be to draw the line between two
cells, the coordinate of the longer side first; the cells of the accumulator
do (`isLine_points`).
-/
import Mathlib.Algebra.Order.Field.Basic
import Mathlib.Algebra.Order.Group.Unbundled.Int
import Mathlib.Data.List.Nodup
import Mathlib.Data.List.Range
import Mathlib.Data.Rat.Cast.Order
import Mathlib.Tactic.FieldSimp
import Mathlib.Tactic.Linarith
import Mathlib.Tactic.Ring

namespace DigitalLine

/-! ## The accumulator -/

/-- The minor steps taken in `k` major ones. -/
def minor (d a : Int) (k : Nat) : Int := (d / 2 + k * a) / d

/-- What is in the accumulator after `k` major steps. -/
def accumulator (d a : Int) (k : Nat) : Int := (d / 2 + k * a) % d

variable {d a : Int} {k : Nat}

theorem minor_zero (hd : 0 ≤ d) : minor d a 0 = 0 := by
  simp only [minor, Nat.cast_zero, zero_mul, add_zero]
  rcases hd.eq_or_lt with h | h
  · simp [← h]
  · exact Int.ediv_eq_zero_of_lt (by omega) (by omega)

theorem accumulator_zero (hd : 0 ≤ d) : accumulator d a 0 = d / 2 := by
  simp only [accumulator, Nat.cast_zero, zero_mul, add_zero]
  rcases hd.eq_or_lt with h | h
  · simp [← h]
  · exact Int.emod_eq_of_lt (by omega) (by omega)

theorem minor_mul_add_accumulator : minor d a k * d + accumulator d a k = d / 2 + k * a := by
  rw [minor, accumulator, mul_comm]
  exact Int.mul_ediv_add_emod _ _

theorem accumulator_nonneg (hd : 0 < d) : 0 ≤ accumulator d a k := Int.emod_nonneg _ (by omega)

theorem accumulator_lt (hd : 0 < d) : accumulator d a k < d := Int.emod_lt_of_pos _ hd

/-- The quotient and the remainder are known by their sum. -/
theorem minor_unique (hd : 0 < d) {q r : Int} (hsum : q * d + r = d / 2 + k * a) (hr : 0 ≤ r)
    (hlt : r < d) : minor d a k = q ∧ accumulator d a k = r := by
  rw [minor, accumulator, ← hsum, add_comm, mul_comm]
  constructor
  · rw [Int.add_mul_ediv_left _ _ (by omega), Int.ediv_eq_zero_of_lt hr hlt, zero_add]
  · rw [Int.add_mul_emod_self_left, Int.emod_eq_of_lt hr hlt]

/-- A step in which the accumulator reaches `d`. -/
theorem step_carry (hd : 0 < d) (had : a ≤ d) (h : d ≤ accumulator d a k + a) :
    minor d a (k + 1) = minor d a k + 1 ∧
      accumulator d a (k + 1) = accumulator d a k + a - d := by
  have hsum := minor_mul_add_accumulator (d := d) (a := a) (k := k)
  have hlt := accumulator_lt (a := a) (k := k) hd
  apply minor_unique hd
  · push_cast
    linarith
  · omega
  · omega

/-- A step in which it does not. -/
theorem step_stay (hd : 0 < d) (ha : 0 ≤ a) (h : accumulator d a k + a < d) :
    minor d a (k + 1) = minor d a k ∧ accumulator d a (k + 1) = accumulator d a k + a := by
  have hsum := minor_mul_add_accumulator (d := d) (a := a) (k := k)
  have hnonneg := accumulator_nonneg (a := a) (k := k) hd
  apply minor_unique hd
  · push_cast
    linarith
  · omega
  · omega

/-- At most one minor step in a major one. -/
theorem minor_succ (hd : 0 < d) (ha : 0 ≤ a) (had : a ≤ d) :
    minor d a (k + 1) = minor d a k ∨ minor d a (k + 1) = minor d a k + 1 := by
  by_cases h : d ≤ accumulator d a k + a
  · exact .inr (step_carry hd had h).1
  · exact .inl (step_stay hd ha (not_le.mp h)).1

theorem minor_nonneg (ha : 0 ≤ a) (had : a ≤ d) : 0 ≤ minor d a k := by
  apply Int.ediv_nonneg
  · have : 0 ≤ (k : Int) * a := mul_nonneg (Int.natCast_nonneg k) ha
    omega
  · omega

theorem minor_le (ha : 0 ≤ a) (had : a ≤ d) : minor d a k ≤ k := by
  induction k with
  | zero => simp [minor_zero (ha.trans had)]
  | succ k ih =>
    rcases (ha.trans had).eq_or_lt with h | h
    · simp only [minor, ← h, Int.ediv_zero]
      omega
    · rcases minor_succ (k := k) h ha had with hsame | hnext
      · push_cast
        omega
      · push_cast
        omega

/-- All the minor steps have been taken at the end. -/
theorem minor_end (ha : 0 ≤ a) (had : a ≤ d) : minor d a d.toNat = a := by
  rcases (ha.trans had).eq_or_lt with h | h
  · have hzero : a = 0 := by omega
    simp [minor, ← h, hzero]
  · have hsum : a * d + d / 2 = d / 2 + (d.toNat : Int) * a := by
      rw [Int.toNat_of_nonneg (by omega)]
      ring
    exact (minor_unique h hsum (by omega) (by omega)).1

/-- The digital line is within half a step of the exact one. -/
theorem minor_near (hd : 0 ≤ d) (hk : (k : Int) ≤ d) : 2 * |minor d a k * d - k * a| ≤ d := by
  rcases hd.eq_or_lt with h | h
  · have hzero : k = 0 := by omega
    simp [← h, hzero]
  · have hsum := minor_mul_add_accumulator (d := d) (a := a) (k := k)
    have hnonneg := accumulator_nonneg (a := a) (k := k) h
    have hlt := accumulator_lt (a := a) (k := k) h
    have hdiff : minor d a k * d - k * a = d / 2 - accumulator d a k := by linarith
    have hhalf : |d / 2 - accumulator d a k| ≤ d / 2 := abs_le.mpr ⟨by omega, by omega⟩
    rw [hdiff]
    omega

/-! ## Lines between cells -/

/-- The direction in which `b` is from `a`. -/
def direction (a b : Int) : Int := if b ≥ a then 1 else -1

theorem direction_mul_abs (a b : Int) : direction a b * |b - a| = b - a := by
  simp only [direction]
  split
  · rw [abs_of_nonneg (by omega), one_mul]
  · rw [abs_of_nonpos (by omega)]
    ring

theorem abs_direction (a b : Int) : |direction a b| = 1 := by
  simp only [direction]
  split <;> simp

/-- A step of exactly one on the first axis and of at most one on the
second. -/
def Adjacent (c c' : Int × Int) : Prop := |c'.1 - c.1| = 1 ∧ |c'.2 - c.2| ≤ 1

/-- A point of the exact line from `(p0, q0)` to `(p1, q1)` has the same
first coordinate and is within half a cell on the second axis. -/
def NearLine (p0 q0 p1 q1 : Int) (c : Int × Int) : Prop :=
  ∃ t : ℚ, 0 ≤ t ∧ t ≤ 1 ∧ (c.1 : ℚ) = p0 + t * (p1 - p0) ∧
    |(c.2 : ℚ) - (q0 + t * (q1 - q0))| ≤ 1 / 2

/-- The cells of a line whose longer side is along the first axis. -/
structure IsLine (p0 q0 p1 q1 : Int) (cells : List (Int × Int)) : Prop where
  length : (cells.length : Int) = |p1 - p0| + 1
  first : cells.head? = some (p0, q0)
  last : cells.getLast? = some (p1, q1)
  adjacent : cells.IsChain Adjacent
  nodup : cells.Nodup
  near : ∀ c ∈ cells, NearLine p0 q0 p1 q1 c

/-- The cell after `k` steps. -/
def point (p0 q0 p1 q1 : Int) (k : Nat) : Int × Int :=
  (p0 + k * direction p0 p1, q0 + minor |p1 - p0| |q1 - q0| k * direction q0 q1)

section Lines

variable {p0 q0 p1 q1 : Int}

theorem point_zero : point p0 q0 p1 q1 0 = (p0, q0) := by
  simp [point, minor_zero (abs_nonneg (p1 - p0))]

theorem point_last (h : |q1 - q0| ≤ |p1 - p0|) :
    point p0 q0 p1 q1 |p1 - p0|.toNat = (p1, q1) := by
  have hp := direction_mul_abs p0 p1
  have hq := direction_mul_abs q0 q1
  rw [point, minor_end (abs_nonneg _) h, Int.toNat_of_nonneg (abs_nonneg _), mul_comm, hp,
    mul_comm, hq]
  simp

theorem adjacent_point (h : |q1 - q0| ≤ |p1 - p0|) {k : Nat} (hk : (k : Int) < |p1 - p0|) :
    Adjacent (point p0 q0 p1 q1 k) (point p0 q0 p1 q1 (k + 1)) := by
  have hpos : 0 < |p1 - p0| := by omega
  constructor
  · have hstep : p0 + ((k + 1 : Nat) : Int) * direction p0 p1 - (p0 + k * direction p0 p1) =
        direction p0 p1 := by
      push_cast
      ring
    simp only [point, hstep, abs_direction]
  · simp only [point]
    rcases minor_succ (k := k) hpos (abs_nonneg (q1 - q0)) h with hsame | hnext
    · simp [hsame]
    · have hstep : q0 + minor |p1 - p0| |q1 - q0| (k + 1) * direction q0 q1 -
          (q0 + minor |p1 - p0| |q1 - q0| k * direction q0 q1) = direction q0 q1 := by
        rw [hnext]
        ring
      rw [hstep, abs_direction]

/-- The coordinates on the first axis are all different. -/
theorem point_injective : Function.Injective (point p0 q0 p1 q1) := by
  intro j k hjk
  have hfirst : (j : Int) * direction p0 p1 = k * direction p0 p1 := by
    have := congrArg Prod.fst hjk
    simpa [point] using this
  have hne : direction p0 p1 ≠ 0 := by
    intro hzero
    have := abs_direction p0 p1
    simp [hzero] at this
  exact_mod_cast mul_right_cancel₀ hne hfirst

/-- The bound on the accumulator, divided by the length of the line. -/
theorem abs_offset_le {d m k a e : ℚ} (hd : 0 < d) (he : |e| = 1)
    (h : 2 * |m * d - k * a| ≤ d) : |m * e - k / d * (e * a)| ≤ 1 / 2 := by
  have hoff : m * e - k / d * (e * a) = e * ((m * d - k * a) / d) := by
    field_simp
  rw [hoff, abs_mul, he, one_mul, abs_div, abs_of_pos hd, div_le_iff₀ hd]
  linarith

theorem near_point {k : Nat} (hk : (k : Int) ≤ |p1 - p0|) :
    NearLine p0 q0 p1 q1 (point p0 q0 p1 q1 k) := by
  rcases (abs_nonneg (p1 - p0)).eq_or_lt with hzero | hpos
  · have hk0 : k = 0 := by omega
    refine ⟨0, le_refl _, zero_le_one, ?_, ?_⟩
    · simp [hk0, point_zero]
    · simp [hk0, point_zero]
  · have hnear := minor_near (a := |q1 - q0|) (abs_nonneg (p1 - p0)) hk
    have hp := direction_mul_abs p0 p1
    have hq := direction_mul_abs q0 q1
    have hunit := abs_direction q0 q1
    simp only [NearLine, point]
    -- from here on the two lengths are numbers of their own
    generalize minor |p1 - p0| |q1 - q0| k = m at hnear ⊢
    generalize |p1 - p0| = d at hk hpos hnear hp
    generalize |q1 - q0| = a at hnear hq
    have hd : (0 : ℚ) < d := by exact_mod_cast hpos
    have hp' : (p1 : ℚ) - p0 = direction p0 p1 * d := by exact_mod_cast hp.symm
    have hq' : (q1 : ℚ) - q0 = direction q0 q1 * a := by exact_mod_cast hq.symm
    refine ⟨k / d, div_nonneg (Nat.cast_nonneg k) hd.le, ?_, ?_, ?_⟩
    · rw [div_le_one₀ hd]
      exact_mod_cast hk
    · rw [hp']
      push_cast
      field_simp
    · rw [hq']
      push_cast
      rw [add_sub_add_left_eq_sub]
      exact abs_offset_le hd (by exact_mod_cast hunit) (by exact_mod_cast hnear)

/-- **The digital line.** -/
theorem isLine_points (h : |q1 - q0| ≤ |p1 - p0|) :
    IsLine p0 q0 p1 q1 ((List.range (|p1 - p0|.toNat + 1)).map (point p0 q0 p1 q1)) where
  length := by simp
  first := by simp [List.range_succ_eq_map, point_zero]
  last := by simp [List.range_succ, point_last h]
  adjacent := by
    rw [List.isChain_map, List.isChain_range_succ]
    intro k hk
    exact adjacent_point h (by omega)
  nodup := List.Nodup.map point_injective List.nodup_range
  near := by
    have hnonneg := abs_nonneg (p1 - p0)
    intro c hc
    obtain ⟨k, hk, rfl⟩ := List.mem_map.mp hc
    rw [List.mem_range] at hk
    exact near_point (by omega)

end Lines

end DigitalLine

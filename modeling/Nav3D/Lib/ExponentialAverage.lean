/-
Nav3D.Lib.ExponentialAverage — a first-order filter over a list of samples.

Each sample moves the average by a fixed share `a` of its difference. The
average stays where its start and all samples are (`abs_average_sub_le`),
and samples that stay close to a value bring it there, what is left of the
rest shrinking by `1 - a` with each of them (`abs_average_append_le`).
-/
import Mathlib.Algebra.Order.Field.Basic
import Mathlib.Tactic.Linarith
import Mathlib.Tactic.Ring

namespace ExponentialAverage

variable {K : Type*} [Field K]

/-- One sample with the share `a`. -/
def blend (a average sample : K) : K := a * sample + (1 - a) * average

/-- The average of samples, newest first. -/
def average (a start : K) : List K → K
  | [] => start
  | sample :: samples => blend a (average a start samples) sample

theorem average_append (a start : K) (recent older : List K) :
    average a start (recent ++ older) = average a (average a start older) recent := by
  induction recent with
  | nil => rfl
  | cons sample recent ih => rw [List.cons_append, average, ih, average]

variable [LinearOrder K] [IsStrictOrderedRing K] {a start c bound rest : K} {samples : List K}

/-- One sample leaves `1 - a` of what the average was off. -/
theorem abs_blend_sub_le (ha0 : 0 ≤ a) (ha1 : a ≤ 1) (average sample : K) :
    |blend a average sample - c| ≤ a * |sample - c| + (1 - a) * |average - c| := by
  have hsplit : blend a average sample - c = a * (sample - c) + (1 - a) * (average - c) := by
    rw [blend]
    ring
  calc |blend a average sample - c| = |a * (sample - c) + (1 - a) * (average - c)| := by rw [hsplit]
    _ ≤ |a * (sample - c)| + |(1 - a) * (average - c)| := abs_add_le _ _
    _ = a * |sample - c| + (1 - a) * |average - c| := by
      rw [abs_mul, abs_mul, abs_of_nonneg ha0, abs_of_nonneg (sub_nonneg.mpr ha1)]

/-- Samples that are close to `c` bring the average there. By induction on
the samples. -/
theorem abs_average_sub_le_add (ha0 : 0 ≤ a) (ha1 : a ≤ 1) (hbound : 0 ≤ bound)
    (hsamples : ∀ sample ∈ samples, |sample - c| ≤ bound) (hstart : |start - c| ≤ rest) :
    |average a start samples - c| ≤ bound + (1 - a) ^ samples.length * rest := by
  have ha : 0 ≤ 1 - a := sub_nonneg.mpr ha1
  induction samples with
  | nil =>
    rw [average, List.length_nil, pow_zero, one_mul]
    exact hstart.trans (le_add_of_nonneg_left hbound)
  | cons sample samples ih =>
    obtain ⟨hsample, hrest⟩ := List.forall_mem_cons.mp hsamples
    have haverage := mul_le_mul_of_nonneg_left (ih hrest) ha
    have hnew := mul_le_mul_of_nonneg_left hsample ha0
    calc |average a start (sample :: samples) - c|
        ≤ a * |sample - c| + (1 - a) * |average a start samples - c| :=
          abs_blend_sub_le ha0 ha1 _ _
      _ ≤ a * bound + (1 - a) * (bound + (1 - a) ^ samples.length * rest) :=
          add_le_add hnew haverage
      _ = bound + (1 - a) ^ (sample :: samples).length * rest := by
          rw [List.length_cons]
          ring

/-- The average stays where the start and the samples are. -/
theorem abs_average_sub_le (ha0 : 0 ≤ a) (ha1 : a ≤ 1) (hstart : |start - c| ≤ rest)
    (hsamples : ∀ sample ∈ samples, |sample - c| ≤ rest) :
    |average a start samples - c| ≤ rest := by
  induction samples with
  | nil => exact hstart
  | cons sample samples ih =>
    obtain ⟨hsample, hrest⟩ := List.forall_mem_cons.mp hsamples
    have haverage := mul_le_mul_of_nonneg_left (ih hrest) (sub_nonneg.mpr ha1)
    have hnew := mul_le_mul_of_nonneg_left hsample ha0
    have hblend := abs_blend_sub_le (c := c) ha0 ha1 (average a start samples) sample
    rw [average]
    linarith

/-- **Tracking.** Whatever the older samples are within `rest` of `c`, recent
ones within `bound` of it bring the average back. -/
theorem abs_average_append_le {recent older : List K} (ha0 : 0 ≤ a) (ha1 : a ≤ 1)
    (hbound : 0 ≤ bound) (hstart : |start - c| ≤ rest)
    (holder : ∀ sample ∈ older, |sample - c| ≤ rest)
    (hrecent : ∀ sample ∈ recent, |sample - c| ≤ bound) :
    |average a start (recent ++ older) - c| ≤ bound + (1 - a) ^ recent.length * rest := by
  rw [average_append]
  exact abs_average_sub_le_add ha0 ha1 hbound hrecent (abs_average_sub_le ha0 ha1 hstart holder)

end ExponentialAverage

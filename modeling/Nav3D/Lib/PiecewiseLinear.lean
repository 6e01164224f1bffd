/-
Nav3D.Lib.PiecewiseLinear — points at increasing times and the piecewise
linear path through them.

A time between the first and the last one lies in exactly one segment, open
at its start and closed at its end (`segment_unique`), however it has been
found; there the path is the affine map between the two points
(`interpolate_eq`).
-/
import Mathlib.Algebra.Order.Field.Basic
import Mathlib.LinearAlgebra.AffineSpace.AffineMap
import Mathlib.Tactic.Linarith

namespace PiecewiseLinear

section Times

variable {α K : Type*} [LinearOrder K]

/-- The times of the list increase. -/
def Increasing (time : α → K) (points : List α) : Prop :=
  points.IsChain fun a b => time a < time b

/-- Time `t` lies after `a` and not after `b`, which are points `i` and
`i + 1`. -/
structure Segment (time : α → K) (points : List α) (t : K) (i : Nat) (a b : α) : Prop where
  start : points[i]? = some a
  finish : points[i + 1]? = some b
  after : time a < t
  until_finish : t ≤ time b

variable {time : α → K} {points : List α} {t : K} {i j : Nat} {a b a' b' : α}

theorem Increasing.lt (h : Increasing time points) (hi : points[i]? = some a)
    (hj : points[j]? = some b) (hij : i < j) : time a < time b := by
  have hpairwise : points.Pairwise fun a b => time a < time b :=
    (List.isChain_map time).mpr h |>.pairwise |> List.pairwise_map.mp
  obtain ⟨hilt, rfl⟩ := List.getElem?_eq_some_iff.mp hi
  obtain ⟨hjlt, rfl⟩ := List.getElem?_eq_some_iff.mp hj
  exact List.pairwise_iff_getElem.mp hpairwise i j hilt hjlt hij

theorem Increasing.le (h : Increasing time points) (hi : points[i]? = some a)
    (hj : points[j]? = some b) (hij : i ≤ j) : time a ≤ time b := by
  rcases Nat.eq_or_lt_of_le hij with rfl | hlt
  · rw [hi] at hj
    cases hj
    exact le_refl _
  · exact (h.lt hi hj hlt).le

/-- A segment does not begin after another one that holds the same time. -/
theorem Segment.not_lt (h : Increasing time points) (hi : Segment time points t i a b)
    (hj : Segment time points t j a' b') : ¬ i < j := by
  intro hij
  have hle := h.le hi.finish hj.start hij
  exact absurd (hi.until_finish.trans hle) (not_le.mpr hj.after)

theorem segment_unique (h : Increasing time points) (hi : Segment time points t i a b)
    (hj : Segment time points t j a' b') : i = j :=
  Nat.le_antisymm (Nat.le_of_not_lt (hj.not_lt h hi)) (Nat.le_of_not_lt (hi.not_lt h hj))

end Times

section Points

variable {K V : Type*} [Field K] [LinearOrder K] [AddCommGroup V] [Module K V]

/-- The path through the points, by a search for the segment from the first
one on. -/
def interpolate : List (K × V) → K → V
  | [], _ => 0
  | [a], _ => a.2
  | a :: b :: points, t =>
    if t ≤ b.1 then AffineMap.lineMap a.2 b.2 ((t - a.1) / (b.1 - a.1))
    else interpolate (b :: points) t

/-- In its segment a time has its point between two of the given ones. By
induction on the number of the segment. -/
theorem interpolate_eq {points : List (K × V)} (h : Increasing Prod.fst points) {t : K} {i : Nat}
    {a b : K × V} (hi : Segment Prod.fst points t i a b) :
    interpolate points t = AffineMap.lineMap a.2 b.2 ((t - a.1) / (b.1 - a.1)) := by
  induction i generalizing points with
  | zero =>
    obtain ⟨hstart, hfinish, -, huntil⟩ := hi
    match points, hstart, hfinish with
    | _ :: _ :: _, rfl, rfl => exact if_pos huntil
  | succ i ih =>
    obtain ⟨hstart, hfinish, hafter, huntil⟩ := hi
    match points, hstart, hfinish with
    | c :: d :: points, hstart, hfinish =>
      have hle : d.1 ≤ a.1 :=
        h.le (i := 1) (j := i + 1) rfl hstart (Nat.succ_le_succ (Nat.zero_le i))
      rw [interpolate, if_neg (not_le.mpr (lt_of_le_of_lt hle hafter))]
      exact ih (List.isChain_cons_cons.mp h).2 ⟨hstart, hfinish, hafter, huntil⟩

end Points

end PiecewiseLinear

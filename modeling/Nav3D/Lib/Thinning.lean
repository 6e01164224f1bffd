/-
Nav3D.Lib.Thinning — rows of points that are thinned out.

A selection is a list of indices. `Spaced` is one that keeps the ends and
starts anew wherever the length since the last kept point has reached the
spacing. `evenIndex` spreads a number of indices evenly over a row: with
fewer indices than points it strictly increases, from the first point to the
last one.
-/
import Mathlib.Algebra.Order.Floor.Semiring
import Mathlib.Algebra.Order.Field.Basic
import Mathlib.Data.List.Chain
import Mathlib.Data.Nat.Cast.Order.Field
import Mathlib.Tactic.Linarith
import Mathlib.Tactic.Positivity
import Mathlib.Tactic.Ring
import Nav3D.Lib.ArcLength
import Nav3D.Lib.Numerals

namespace Thinning

open ArcLength

/-! ## Selections -/

/-- `out` holds the points at the indices `kept`, all of which are in range. -/
def Selects {α : Type*} (points : List α) (kept : List Nat) (out : List α) : Prop :=
  out.map some = kept.map (points[·]?)

section Selects

variable {α : Type*} {points : List α} {kept : List Nat} {out : List α} {i : Nat} {p : α}

theorem selects_nil : Selects points [] [] := rfl

theorem Selects.cons (hp : points[i]? = some p) (h : Selects points kept out) :
    Selects points (i :: kept) (p :: out) := by
  simp [Selects, hp]
  exact h

theorem selects_filterMap (h : ∀ i ∈ kept, i < points.length) :
    Selects points kept (kept.filterMap (points[·]?)) := by
  induction kept with
  | nil => exact selects_nil
  | cons i kept ih =>
    obtain ⟨p, hp⟩ : ∃ p, points[i]? = some p :=
      Option.isSome_iff_exists.mp (by simp [h i (by simp)])
    rw [List.filterMap_cons_some hp]
    exact (ih fun j hj => h j (by simp [hj])).cons hp

end Selects

/-! ## Spacing -/

section Spaced

variable {α K : Type*} [AddCommGroup K] [LinearOrder K] (distance : α → α → K) (points : List α)
  (spacing : K)

/-- Point `b` is kept next after point `a`: the length between them reaches
the spacing, or `b` is the last point, and up to the point before `b` it does
not. -/
structure NextKept (a b : Nat) : Prop where
  lt : a < b
  reached : spacing ≤ arcLength distance points a b ∨ b + 1 = points.length
  not_before : arcLength distance points a (b - 1) < spacing

/-- Both ends are kept, and each index is kept next after the one before. -/
structure Spaced (kept : List Nat) : Prop where
  first : kept.head? = some 0
  last : kept.getLast? = some (points.length - 1)
  next : kept.IsChain (NextKept distance points spacing)

variable {distance points spacing}

/-- No index is kept twice. -/
theorem Spaced.increasing {kept : List Nat} (h : Spaced distance points spacing kept) :
    kept.Pairwise (· < ·) := by
  apply List.IsChain.pairwise
  exact h.next.imp fun a b hab => hab.lt

end Spaced

/-! ## Even indices -/

section Even

variable {K : Type*} [Field K] [LinearOrder K] [IsStrictOrderedRing K] [FloorSemiring K]
  {last keep i : Nat}

variable (K) in
/-- Index `i` of `keep` indices that are spread evenly from 0 to `last`. -/
def evenIndex (last keep i : Nat) : Nat :=
  ⌊(i : K) * ((last : K) / ((keep - 1 : Nat) : K)) + 1 / 2⌋₊

theorem evenIndex_zero : evenIndex K last keep 0 = 0 := by
  have hhalf : (1 / 2 : K) < 1 := one_half_lt_one
  simpa [evenIndex, Nat.floor_eq_zero] using hhalf

theorem evenIndex_last (h : 2 ≤ keep) : evenIndex K last keep (keep - 1) = last := by
  have hne : ((keep - 1 : Nat) : K) ≠ 0 := by
    rw [Nat.cast_ne_zero]
    omega
  rw [evenIndex, mul_div_cancel₀ _ hne, Nat.floor_eq_iff (by positivity)]
  constructor
  · linarith [one_half_pos (α := K)]
  · linarith [one_half_lt_one (α := K)]

/-- With more points than indices the step is at least one. -/
theorem evenIndex_lt_succ (h : 2 ≤ keep) (hlast : keep ≤ last) :
    evenIndex K last keep i < evenIndex K last keep (i + 1) := by
  have hpos : (0 : K) < ((keep - 1 : Nat) : K) := by
    rw [Nat.cast_pos]
    omega
  have hstep : (1 : K) ≤ (last : K) / ((keep - 1 : Nat) : K) := by
    rw [le_div_iff₀ hpos, one_mul, Nat.cast_le]
    omega
  have hsum : (i : K) * ((last : K) / ((keep - 1 : Nat) : K)) + 1 / 2 + 1 ≤
      ((i + 1 : Nat) : K) * ((last : K) / ((keep - 1 : Nat) : K)) + 1 / 2 := by
    push_cast
    linarith
  have hfloor := Nat.floor_le_floor hsum
  rw [Nat.floor_add_one (by positivity)] at hfloor
  exact hfloor

theorem evenIndex_strictMono (h : 2 ≤ keep) (hlast : keep ≤ last) :
    StrictMono (evenIndex K last keep) :=
  strictMono_nat_of_lt_succ fun _ => evenIndex_lt_succ h hlast

end Even

end Thinning

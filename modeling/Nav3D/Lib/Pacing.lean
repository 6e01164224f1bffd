/-
Nav3D.Lib.Pacing — times that keep a distance.

`Paced period times` says of times, newest first, that no two of them are
less than `period` apart. A new time need only keep the distance to the
newest one (`Paced.cons`). A window of any width holds no more of them than
fit into it (`Paced.window`).
-/
import Mathlib.Algebra.Order.Group.Int
import Mathlib.Data.List.Basic
import Mathlib.Order.Lattice
import Mathlib.Tactic.Common

namespace Pacing

variable {T : Type*} [AddCommGroup T] [LinearOrder T] [IsOrderedAddMonoid T]

/-- No two times, newest first, are less than `period` apart. -/
def Paced (period : T) (times : List T) : Prop := times.Pairwise fun t t' => t' + period ≤ t

variable {period t : T} {times : List T}

omit [IsOrderedAddMonoid T] in
theorem paced_nil : Paced period ([] : List T) := List.Pairwise.nil

/-- A new time keeps the distance to all if it does so to the newest. -/
theorem Paced.cons (h : Paced period times) (hperiod : 0 ≤ period)
    (hhead : ∀ t' ∈ times.head?, t' + period ≤ t) : Paced period (t :: times) := by
  refine List.pairwise_cons.mpr ⟨?_, h⟩
  cases times with
  | nil => exact fun t' ht' => absurd ht' List.not_mem_nil
  | cons newest rest =>
    have hnewest : newest + period ≤ t := hhead newest rfl
    obtain ⟨hrest, -⟩ := List.pairwise_cons.mp h
    intro t' ht'
    rcases List.mem_cons.mp ht' with rfl | ht'
    · exact hnewest
    · -- the newest one lies between
      calc t' + period ≤ newest := hrest t' ht'
        _ ≤ newest + period := le_add_of_nonneg_right hperiod
        _ ≤ t := hnewest

/-- From a time that is not before `a`, there is room for the others. -/
theorem Paced.room {a : T} (h : Paced period (t :: times)) (ha : ∀ t' ∈ t :: times, a ≤ t') :
    a + times.length • period ≤ t := by
  induction times generalizing t with
  | nil =>
    rw [List.length_nil, zero_nsmul, add_zero]
    exact ha t List.mem_cons_self
  | cons t' rest ih =>
    obtain ⟨hhead, htail⟩ := List.pairwise_cons.mp h
    have hrest := ih htail fun s hs => ha s (List.mem_cons_of_mem _ hs)
    rw [List.length_cons, succ_nsmul, ← add_assoc]
    calc a + rest.length • period + period ≤ t' + period := add_le_add_left hrest period
      _ ≤ t := hhead t' List.mem_cons_self

/-- **Windows.** All but one of the times between `a` and `b` have room
there. -/
theorem Paced.window (h : Paced period times) (a b : T) :
    let inside := times.filter fun t => a ≤ t ∧ t ≤ b
    inside = [] ∨ a + (inside.length - 1) • period ≤ b := by
  intro inside
  have hpaced : Paced period inside := h.filter _
  have hinside : ∀ t ∈ inside, a ≤ t ∧ t ≤ b := fun t ht => by
    simpa using (List.mem_filter.mp ht).2
  cases hlist : inside with
  | nil => exact .inl rfl
  | cons newest rest =>
    right
    rw [hlist] at hpaced hinside
    have hroom := hpaced.room fun t ht => (hinside t ht).1
    rw [List.length_cons, Nat.add_sub_cancel]
    exact hroom.trans (hinside newest List.mem_cons_self).2

/-- Windows of integers. No time is needed for a period that is negative. -/
theorem window_mul_le {period : Int} {times : List Int} (h : 0 ≤ period → Paced period times)
    {a b : Int} (hab : a ≤ b) :
    (((times.filter fun t => a ≤ t ∧ t ≤ b).length - 1 : Nat) : Int) * period ≤ b - a := by
  rcases Int.le_total 0 period with hperiod | hperiod
  · rcases (h hperiod).window a b with hnone | hroom
    · rw [hnone]
      simpa using hab
    · rw [Int.nsmul_eq_mul] at hroom
      omega
  · have hneg := Int.mul_nonpos_of_nonneg_of_nonpos
      (Int.natCast_nonneg ((times.filter fun t => a ≤ t ∧ t ≤ b).length - 1)) hperiod
    omega

end Pacing

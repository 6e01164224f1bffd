/-
Nav3D.Lib.Attempts — tasks that are attempted again when they fail.

The attempts of all tasks are numbered in order, and whether an attempt
fails depends on its number. A task ends with the first attempt that does
not fail, if that comes within the retries (`Series`). Tasks done one after
the other are counted by the attempts that have not failed (`Done.count`),
and a row of failures too long for one task cannot come before
(`Done.not_givesUp`).
-/
import Mathlib.Data.Nat.Count

namespace Attempts

variable (fails : Nat → Prop) (retries : Nat)

/-- A task whose first attempt is `a`: `r` attempts fail and the next one does
not. -/
structure Series (a r : Nat) : Prop where
  le : r ≤ retries
  failing : ∀ j < r, fails (a + j)
  ends : ¬ fails (a + r)

/-- `m` tasks have been done in the attempts before `a`. -/
inductive Done : Nat → Nat → Prop
  | zero : Done 0 0
  | succ {m a r : Nat} : Done m a → Series fails retries a r → Done (m + 1) (a + r + 1)

variable {fails retries} {m a r i : Nat}

/-- A first attempt that does not fail. -/
theorem series_zero (h : ¬ fails a) : Series fails retries a 0 where
  le := Nat.zero_le retries
  failing := fun j hj => absurd hj (Nat.not_lt_zero j)
  ends := h

/-- A first attempt that fails. -/
theorem Series.succ (h : Series fails retries (a + 1) r) (hfails : fails a) :
    Series fails (retries + 1) a (r + 1) where
  le := Nat.succ_le_succ h.le
  failing := by
    intro j hj
    cases j with
    | zero => exact hfails
    | succ j =>
      have hj' := h.failing j (by omega)
      rwa [show a + 1 + j = a + (j + 1) by omega] at hj'
  ends := by
    have hends := h.ends
    rwa [show a + 1 + r = a + (r + 1) by omega] at hends

/-- Between an attempt of a task that is done and the end of the task there
are at most the retries. -/
theorem Done.exists_ends (h : Done fails retries m a) (hi : i < a) :
    ∃ j ≤ retries, i + j < a ∧ ¬ fails (i + j) := by
  induction h with
  | zero => omega
  | @succ m a r _ hseries ih =>
    by_cases hbefore : i < a
    · obtain ⟨j, hj, hlt, hends⟩ := ih hbefore
      exact ⟨j, hj, by omega, hends⟩
    · have hle := hseries.le
      refine ⟨a + r - i, by omega, by omega, ?_⟩
      rw [show i + (a + r - i) = a + r by omega]
      exact hseries.ends

variable [DecidablePred fails]

/-- Each task has one attempt that does not fail. -/
theorem Done.count (h : Done fails retries m a) : Nat.count (fun i => ¬ fails i) a = m := by
  induction h with
  | zero => simp
  | @succ m a r _ hseries ih =>
    have hnone : Nat.count (fun j => ¬ fails (a + j)) r = 0 := by
      rw [Nat.count_iff_forall_not]
      intro j hj
      simpa using hseries.failing j hj
    rw [Nat.count_succ, Nat.count_add, ih, hnone, if_pos hseries.ends]

variable (fails retries) in
/-- More attempts than one task may have fail in a row, before `n` have not
failed. -/
def GivesUp (n : Nat) : Prop :=
  ∃ i, Nat.count (fun i => ¬ fails i) i < n ∧ ∀ j ≤ retries, fails (i + j)

/-- Then `n` tasks are not done. -/
theorem Done.not_givesUp (h : Done fails retries m a) : ¬ GivesUp fails retries m := by
  rintro ⟨i, hcount, hfails⟩
  have hi : i < a := by
    by_contra hle
    have hmono := Nat.count_monotone (fun i => ¬ fails i) (not_lt.mp hle)
    rw [h.count] at hmono
    omega
  obtain ⟨j, hj, -, hends⟩ := h.exists_ends hi
  exact hends (hfails j hj)

end Attempts

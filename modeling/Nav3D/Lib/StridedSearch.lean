/-
Nav3D.Lib.StridedSearch — a search that looks at every `step`th element of
a row, at most at `budget` of them, until one fails.

The search ends in one of three ways (`search_cases`), and the element that
ends it is unique (`Sampled.unique`). A search that finds nothing has covered
the elements below `step * budget` and no others (`search_covers_iff`).
-/
import Mathlib.Tactic.Ring

namespace StridedSearch

variable {ε : Type}

/-- The search from element `i` on, with a number of looks that are left. It
returns the first element that fails, and an exception of a look ends it. -/
def search (answer : Nat → Except ε Bool) (length step : Nat) :
    Nat → Nat → Except ε (Option Nat)
  | 0, _ => .ok none
  | budget + 1, i =>
    if i < length then
      match answer i with
      | .error e => .error e
      | .ok false => .ok (some i)
      | .ok true => search answer length step budget (i + step)
    else .ok none

/-- A search from element `i` on comes to its sample `k`. -/
structure Sampled (answer : Nat → Except ε Bool) (length step budget i k : Nat) : Prop where
  within : k < budget
  inside : i + k * step < length
  before : ∀ j < k, answer (i + j * step) = .ok true

variable {answer : Nat → Except ε Bool} {length step budget i k : Nat}

theorem Sampled.zero (h : i < length) : Sampled answer length step (budget + 1) i 0 where
  within := Nat.succ_pos budget
  inside := by simpa using h
  before j hj := absurd hj (Nat.not_lt_zero j)

theorem Sampled.succ (hfirst : answer i = .ok true)
    (h : Sampled answer length step budget (i + step) k) :
    Sampled answer length step (budget + 1) i (k + 1) where
  within := Nat.succ_lt_succ h.within
  inside := by
    have hinside := h.inside
    have hindex : i + (k + 1) * step = i + step + k * step := by ring
    omega
  before j hj := by
    cases j with
    | zero => simpa using hfirst
    | succ j =>
      have hindex : i + (j + 1) * step = i + step + j * step := by ring
      rw [hindex]
      exact h.before j (Nat.lt_of_succ_lt_succ hj)

/-- Only one sample ends the search. -/
theorem Sampled.unique {k' : Nat} (h : Sampled answer length step budget i k)
    (h' : Sampled answer length step budget i k') (hends : answer (i + k * step) ≠ .ok true)
    (hends' : answer (i + k' * step) ≠ .ok true) : k = k' := by
  rcases Nat.lt_trichotomy k k' with hlt | heq | hgt
  · exact absurd (h'.before k hlt) hends
  · exact heq
  · exact absurd (h.before k' hgt) hends'

/-- The ways a search may end. -/
inductive Outcome (answer : Nat → Except ε Bool) (length step budget i : Nat) :
    Except ε (Option Nat) → Prop where
  | none : (∀ k, k < budget → i + k * step < length → answer (i + k * step) = .ok true) →
      Outcome answer length step budget i (.ok none)
  | found (k : Nat) : Sampled answer length step budget i k → answer (i + k * step) = .ok false →
      Outcome answer length step budget i (.ok (some (i + k * step)))
  | raised (k : Nat) (e : ε) : Sampled answer length step budget i k →
      answer (i + k * step) = .error e → Outcome answer length step budget i (.error e)

/-- By induction on the looks that are left. -/
theorem search_cases (answer : Nat → Except ε Bool) (length step budget i : Nat) :
    Outcome answer length step budget i (search answer length step budget i) := by
  induction budget generalizing i with
  | zero => exact .none fun k hk => absurd hk (Nat.not_lt_zero k)
  | succ budget ih =>
    rw [search]
    split
    · next hin =>
      have hzero : i + 0 * step = i := by omega
      cases hfirst : answer i with
      | error e => exact .raised 0 e (.zero hin) (by rw [hzero, hfirst])
      | ok valid =>
        cases valid with
        | false =>
          have hfound : Outcome answer length step (budget + 1) i (.ok (some (i + 0 * step))) :=
            .found 0 (.zero hin) (by rw [hzero, hfirst])
          rwa [hzero] at hfound
        | true =>
          have hindex : ∀ k, i + step + k * step = i + (k + 1) * step := fun k => by ring
          have hrest := ih (i + step)
          simp only
          generalize search answer length step budget (i + step) = result at hrest
          cases hrest with
          | none hall =>
            refine .none fun k hk hinside => ?_
            cases k with
            | zero => rw [hzero, hfirst]
            | succ k =>
              rw [← hindex] at hinside ⊢
              exact hall k (Nat.lt_of_succ_lt_succ hk) hinside
          | found k hsampled hanswer =>
            rw [hindex] at hanswer ⊢
            exact .found (k + 1) (hsampled.succ hfirst) hanswer
          | raised k e hsampled hanswer =>
            rw [hindex] at hanswer
            exact .raised (k + 1) e (hsampled.succ hfirst) hanswer
    · next hout => exact .none fun k _ hinside => absurd hinside (by omega)

/-- The sample that ends the search is the answer. -/
theorem Sampled.outcome {result : Except ε (Option Nat)}
    (hresult : Outcome answer length step budget i result)
    (h : Sampled answer length step budget i k) (hends : answer (i + k * step) ≠ .ok true) :
    (answer (i + k * step) = .ok false → result = .ok (some (i + k * step))) ∧
      ∀ e, answer (i + k * step) = .error e → result = .error e := by
  cases hresult with
  | none hall => exact absurd (hall k h.within h.inside) hends
  | found k' h' hanswer =>
    obtain rfl := h.unique h' hends (by simp [hanswer])
    exact ⟨fun _ => rfl, fun e he => by simp [hanswer] at he⟩
  | raised k' e' h' hanswer =>
    obtain rfl := h.unique h' hends (by simp [hanswer])
    exact ⟨fun hfalse => by simp [hanswer] at hfalse, fun e he => by simpa [hanswer] using he⟩

theorem search_eq_some_iff {j : Nat} : search answer length step budget i = .ok (some j) ↔
    ∃ k, Sampled answer length step budget i k ∧ answer (i + k * step) = .ok false ∧
      j = i + k * step := by
  have hcases := search_cases answer length step budget i
  constructor
  · intro h
    rw [h] at hcases
    cases hcases with
    | found k hsampled hanswer => exact ⟨k, hsampled, hanswer, rfl⟩
  · rintro ⟨k, hsampled, hanswer, rfl⟩
    exact (hsampled.outcome hcases (by simp [hanswer])).1 hanswer

theorem search_eq_error_iff {e : ε} : search answer length step budget i = .error e ↔
    ∃ k, Sampled answer length step budget i k ∧ answer (i + k * step) = .error e := by
  have hcases := search_cases answer length step budget i
  constructor
  · intro h
    rw [h] at hcases
    cases hcases with
    | raised k _ hsampled hanswer => exact ⟨k, hsampled, hanswer⟩
  · rintro ⟨k, hsampled, hanswer⟩
    exact (hsampled.outcome hcases (by simp [hanswer])).2 e hanswer

/-- After a search from the first element on that finds nothing, an element
lies less than `step` after a sample that has passed exactly if the budget
reaches it. -/
theorem search_covers_iff (hstep : 0 < step)
    (h : search answer length step budget 0 = .ok none) {j : Nat} (hj : j < length) :
    (∃ k, Sampled answer length step budget 0 k ∧ answer (k * step) = .ok true ∧
      k * step ≤ j ∧ j ≤ k * step + (step - 1)) ↔ j < step * budget := by
  constructor
  · rintro ⟨k, hsampled, -, -, hle⟩
    have hmul : (k + 1) * step ≤ budget * step := Nat.mul_le_mul_right step hsampled.within
    rw [Nat.succ_mul, Nat.mul_comm budget] at hmul
    omega
  · intro hreach
    have hcases := search_cases answer length step budget 0
    rw [h] at hcases
    cases hcases with
    | none hall =>
      have hle : j / step * step ≤ j := Nat.div_mul_le_self j step
      have hlt : j < j / step * step + step := Nat.lt_div_mul_add hstep
      have hwithin : j / step < budget := Nat.div_lt_of_lt_mul hreach
      have hpassed : ∀ k, k ≤ j / step → answer (0 + k * step) = .ok true := by
        intro k hk
        have hmul : k * step ≤ j / step * step := Nat.mul_le_mul_right step hk
        exact hall k (lt_of_le_of_lt hk hwithin) (by omega)
      refine ⟨j / step, ⟨hwithin, by omega, fun k hk => hpassed k (Nat.le_of_lt hk)⟩, ?_, hle,
        by omega⟩
      simpa using hpassed (j / step) (le_refl _)

end StridedSearch

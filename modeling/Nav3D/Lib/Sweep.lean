/-
Nav3D.Lib.Sweep — a pass over a list that moves each element to a target
state and gives up at the first element that cannot be moved.

`sweep ok target as σ` is the state of every element after the pass, when
an element in state `st` can be moved exactly if `ok st`. It moves the
elements of the longest leading part of `as` that is `ok` and no other
(`sweep_apply`), so it reaches every element exactly if all are `ok`
(`sweep_all`). `takeWhile_of_pairwise` turns the elements that a pass
reached into a condition on pairs of elements.
-/
import Mathlib.Data.List.Basic
import Mathlib.Data.List.Nodup
import Mathlib.Data.List.TakeWhile
import Mathlib.Logic.Function.Basic

namespace Sweep

variable {α S : Type*}

/-- The states after the pass. -/
def sweep [DecidableEq α] (ok : S → Bool) (target : S) : List α → (α → S) → α → S
  | [], σ => σ
  | a :: as, σ => if ok (σ a) then sweep ok target as (Function.update σ a target) else σ

/-- In a list without repetition, every element with `q` lies in the
leading part that satisfies `p` exactly if everything before an element
with `q` satisfies `p`. -/
theorem takeWhile_of_pairwise {p : α → Bool} {q : α → Prop} (hq : ∀ a, q a → p a = true)
    {as : List α} (hnd : as.Nodup) :
    (∀ a ∈ as, q a → a ∈ as.takeWhile p) ↔ as.Pairwise fun a b => q b → p a = true := by
  induction as with
  | nil => simp
  | cons x xs ih =>
    obtain ⟨hx, hxs⟩ := List.nodup_cons.mp hnd
    rw [List.pairwise_cons, ← ih hxs]
    cases hpx : p x with
    | false =>
      rw [List.takeWhile_cons_of_neg (by simp [hpx])]
      constructor
      · intro h
        have hno : ∀ a ∈ xs, ¬ q a := fun a ha hqa => nomatch h a (List.mem_cons_of_mem x ha) hqa
        exact ⟨fun a ha hqa => absurd hqa (hno a ha), fun a ha hqa => absurd hqa (hno a ha)⟩
      · rintro ⟨h, -⟩ a ha hqa
        rcases List.mem_cons.mp ha with rfl | ha
        · rw [hq a hqa] at hpx
          cases hpx
        · cases h a ha hqa
    | true =>
      rw [List.takeWhile_cons_of_pos hpx]
      constructor
      · refine fun h => ⟨fun _ _ _ => rfl, fun a ha hqa => ?_⟩
        rcases List.mem_cons.mp (h a (List.mem_cons_of_mem x ha) hqa) with rfl | hmem
        · exact absurd ha hx
        · exact hmem
      · rintro ⟨-, h⟩ a ha hqa
        rcases List.mem_cons.mp ha with rfl | ha
        · exact List.mem_cons_self
        · exact List.mem_cons_of_mem x (h a ha hqa)

variable [DecidableEq α] {ok : S → Bool} {target : S}

/-- Whether an element can be moved does not change when one is moved. -/
theorem ok_update (htarget : ok target = true) {σ : α → S} {a : α} (ha : ok (σ a) = true) (b : α) :
    ok (Function.update σ a target b) = ok (σ b) := by
  by_cases hb : b = a
  · subst hb
    rw [Function.update_self, htarget, ha]
  · rw [Function.update_of_ne hb]

/-- The pass moves the leading elements that are `ok`. -/
theorem sweep_apply (htarget : ok target = true) (as : List α) (σ : α → S) (b : α) :
    sweep ok target as σ b = if b ∈ as.takeWhile (fun a => ok (σ a)) then target else σ b := by
  induction as generalizing σ with
  | nil => simp [sweep]
  | cons a as ih =>
    cases ha : ok (σ a) with
    | false => simp [sweep, ha]
    | true =>
      have hsame : (fun c => ok (Function.update σ a target c)) = fun c => ok (σ c) :=
        funext fun c => ok_update htarget ha c
      rw [sweep, if_pos ha, ih, hsame, List.takeWhile_cons, if_pos ha]
      by_cases hb : b = a
      · subst hb
        simp
      · simp [hb]

/-- An element ends in the target state or in its own. -/
theorem sweep_eq_or (htarget : ok target = true) (as : List α) (σ : α → S) (b : α) :
    sweep ok target as σ b = target ∨ sweep ok target as σ b = σ b := by
  rw [sweep_apply htarget]
  split
  · exact Or.inl rfl
  · exact Or.inr rfl

/-- An element that cannot be moved is left alone. -/
theorem sweep_of_not_ok (htarget : ok target = true) (as : List α) {σ : α → S} {b : α}
    (hb : ok (σ b) = false) : sweep ok target as σ b = σ b := by
  rw [sweep_apply htarget, if_neg]
  intro hmem
  have hok := List.mem_takeWhile_imp hmem
  rw [hb] at hok
  cases hok

/-- The pass reaches every element exactly if all can be moved. -/
theorem sweep_all (htarget : ok target = true) (as : List α) (σ : α → S) :
    (∀ b ∈ as, sweep ok target as σ b = target) ↔ ∀ b ∈ as, ok (σ b) = true := by
  constructor
  · intro h b hb
    cases hok : ok (σ b) with
    | true => rfl
    | false =>
      have hstay := sweep_of_not_ok htarget as hok
      rw [h b hb] at hstay
      rw [← hstay, htarget] at hok
      cases hok
  · intro h b hb
    have hfull : as.takeWhile (fun a => ok (σ a)) = as := List.takeWhile_eq_self_iff.mpr h
    rw [sweep_apply htarget, if_pos (hfull.symm ▸ hb)]

end Sweep

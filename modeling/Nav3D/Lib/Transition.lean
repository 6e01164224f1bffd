/-
Nav3D.Lib.Transition — labelled transition systems whose labels act by a
partial function, with reachability under a side condition on the steps.

A `System` says in which states it may start and what each label does; a
label that is not enabled does nothing (`none`). Every source of
nondeterminism (which party moves, what the environment answers) is put
into the label, so a finite run is a list of labels and evaluates.

`Reach C` is reachability by steps that all meet `C`. Taking `C` to be
`anyStep` gives plain reachability; taking it to be the condition under
which a defect is avoided gives the states of the runs that avoid it. The
invariant rule (`Reach.invariant`) and the projection rule
(`Reach.project`) are stated once for all `C`.
-/
import Mathlib.Data.List.Basic
import Mathlib.Tactic.Common

namespace Transition

/-- Where a system starts and what each label does. -/
structure System (σ : Type*) (ℓ : Type*) where
  init : σ → Prop
  step : σ → ℓ → Option σ

namespace System

variable {σ τ ℓ κ : Type*} (S : System σ ℓ)

/-- The side condition that admits every step. -/
def anyStep : σ → ℓ → Prop := fun _ _ => True

instance (s : σ) (l : ℓ) : Decidable (anyStep s l) := isTrue trivial

/-! ## Runs as label lists -/

/-- The state after performing the labels of a list in order. -/
def run (s : σ) (ls : List ℓ) : Option σ := ls.foldlM S.step s

@[simp] theorem run_nil (s : σ) : S.run s [] = some s := rfl

@[simp] theorem run_cons (s : σ) (l : ℓ) (ls : List ℓ) :
    S.run s (l :: ls) = (S.step s l).bind (S.run · ls) := rfl

/-! ## Reachability under a side condition -/

/-- Reachable from an initial state by steps that all meet `C`. -/
inductive Reach (C : σ → ℓ → Prop) : σ → Prop
  | init {s : σ} : S.init s → Reach C s
  | step {s s' : σ} {l : ℓ} : Reach C s → C s l → S.step s l = some s' → Reach C s'

/-- A path of steps that all meet `C`, with its labels. -/
inductive Path (C : σ → ℓ → Prop) : σ → List ℓ → σ → Prop
  | nil (s : σ) : Path C s [] s
  | cons {s s' s'' : σ} {l : ℓ} {ls : List ℓ} :
      C s l → S.step s l = some s' → Path C s' ls s'' → Path C s (l :: ls) s''

variable {S}

/-- **Invariant rule**: what holds at the start and is preserved by every
admitted step holds of every state reached. -/
theorem Reach.invariant {C : σ → ℓ → Prop} {s : σ} (h : S.Reach C s) (I : σ → Prop)
    (h0 : ∀ s, S.init s → I s)
    (hstep : ∀ s l s', I s → C s l → S.step s l = some s' → I s') : I s := by
  induction h with
  | init hs => exact h0 _ hs
  | step _ hc hs ih => exact hstep _ _ _ ih hc hs

/-- A path can be appended to the way its first state was reached. -/
theorem Reach.path {C : σ → ℓ → Prop} {s s' : σ} {ls : List ℓ} (h : S.Reach C s)
    (hp : S.Path C s ls s') : S.Reach C s' := by
  induction hp with
  | nil => exact h
  | cons hc hs _ ih => exact ih (.step h hc hs)

/-- The invariant rule along a path: the condition may look at the label. -/
theorem Path.invariant {C : σ → ℓ → Prop} {s s' : σ} {ls : List ℓ}
    (h : S.Path C s ls s') (I : σ → Prop) (h0 : I s)
    (hstep : ∀ t l t', l ∈ ls → I t → C t l → S.step t l = some t' → I t') : I s' := by
  induction h with
  | nil => exact h0
  | cons hc hs _ ih =>
    refine ih (hstep _ _ _ (List.mem_cons_self ..) h0 hc hs) ?_
    exact fun s l s' hl => hstep s l s' (List.mem_cons_of_mem _ hl)

/-- The run of `ls` from `s`, given up at the first step that does not meet
`C`: a run that evaluates this way is a path under `C`. -/
def runWhile (C : σ → ℓ → Prop) [∀ s l, Decidable (C s l)] (S : System σ ℓ) (s : σ) :
    List ℓ → Option σ
  | [] => some s
  | l :: ls => if C s l then (S.step s l).bind fun s' => runWhile C S s' ls else none

/-- A run that keeps to `C` is a path under `C`. -/
theorem path_of_runWhile {C : σ → ℓ → Prop} [∀ s l, Decidable (C s l)] {s s' : σ}
    {ls : List ℓ} (h : runWhile C S s ls = some s') : S.Path C s ls s' := by
  induction ls generalizing s with
  | nil => cases h; exact .nil _
  | cons l ls ih =>
    rw [runWhile] at h
    split at h
    · next hc =>
      rw [Option.bind_eq_some_iff] at h
      obtain ⟨t, ht, hrun⟩ := h
      exact .cons hc ht (ih hrun)
    · cases h

/-- What a run that keeps to `C` is seen to end with, by evaluation, holds
of some reachable state. -/
theorem exists_reach_of_runWhile (C : σ → ℓ → Prop) [∀ s l, Decidable (C s l)] {s : σ}
    (ls : List ℓ) (P : σ → Bool) (h0 : S.init s)
    (h : (runWhile C S s ls).any P = true) : ∃ s', S.Reach C s' ∧ P s' = true := by
  rw [Option.any_eq_true] at h
  obtain ⟨s', hs', hP⟩ := h
  exact ⟨s', (Reach.init h0).path (path_of_runWhile hs'), hP⟩

/-! ## Projection onto another system -/

/-- **Projection rule**: when every step of `S` maps to a step of `T` or
leaves the projected state alone, a reachable state of `S` projects to a
reachable state of `T`. -/
theorem Reach.project {T : System τ κ} {C : σ → ℓ → Prop} {D : τ → κ → Prop}
    (f : σ → τ) (hinit : ∀ s, S.init s → T.init (f s))
    (hstep : ∀ s l s', S.Reach C s → C s l → S.step s l = some s' →
      f s' = f s ∨ ∃ k, D (f s) k ∧ T.step (f s) k = some (f s'))
    {s : σ} (h : S.Reach C s) : T.Reach D (f s) := by
  induction h with
  | init hs => exact .init (hinit _ hs)
  | step hr hc hs ih =>
    rcases hstep _ _ _ hr hc hs with heq | ⟨k, hk, ht⟩
    · rw [heq]; exact ih
    · exact .step ih hk ht

end System

end Transition

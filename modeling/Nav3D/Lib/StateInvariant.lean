/-
Nav3D.Lib.StateInvariant — invariants and triples of computations with a
state and exceptions.

`Preserves I x` says that `x`, started where `I` holds, ends where `I`
holds, whether it returns or throws. `Triple P x Q E` says that `x`,
started where `P` holds, either returns where `Q` holds of the value and
the state or throws where `E` holds of the exception and the state.
Sequencing, choice, `tryCatch` and the basic computations each have one
rule; a program is followed by its rules.
-/
import Mathlib.Tactic.Common

namespace StateInvariant

universe u

variable {ε σ : Type u} {α β : Type u}

/-- The state a computation ends in. -/
def finalState : EStateM.Result ε σ α → σ
  | .ok _ s => s
  | .error _ s => s

/-- `x` keeps `I`, also when it throws. -/
def Preserves (I : σ → Prop) (x : EStateM ε σ α) : Prop := ∀ s, I s → I (finalState (x.run s))

variable {I : σ → Prop}

theorem preserves_pure (a : α) : Preserves I (pure a : EStateM ε σ α) := fun _ h => h

theorem preserves_modify {f : σ → σ} (hf : ∀ s, I s → I (f s)) :
    Preserves I (modify f : EStateM ε σ PUnit) := hf

theorem preserves_bind {x : EStateM ε σ α} {f : α → EStateM ε σ β} (hx : Preserves I x)
    (hf : ∀ a, Preserves I (f a)) : Preserves I (x >>= f) := by
  intro s hs
  have hrun := hx s hs
  rw [EStateM.run_bind]
  cases h : x.run s with
  | ok a s' =>
    rw [h] at hrun
    exact hf a s' hrun
  | error e s' =>
    rw [h] at hrun
    exact hrun

/-! ## Triples -/

/-- From `P`, `x` returns with `Q` or throws with `E`. -/
def Triple (P : σ → Prop) (x : EStateM ε σ α) (Q : α → σ → Prop) (E : ε → σ → Prop) : Prop :=
  ∀ s, P s → match x.run s with
    | .ok a s' => Q a s'
    | .error e s' => E e s'

variable {P P' : σ → Prop} {Q : α → σ → Prop} {E : ε → σ → Prop} {x : EStateM ε σ α}

theorem Triple.ok (h : Triple P x Q E) {s s' : σ} {a : α} (hP : P s) (hx : x.run s = .ok a s') :
    Q a s' := by
  have := h s hP
  rwa [hx] at this

theorem Triple.error (h : Triple P x Q E) {s s' : σ} {e : ε} (hP : P s)
    (hx : x.run s = .error e s') : E e s' := by
  have := h s hP
  rwa [hx] at this

/-- What holds however the computation ends. -/
theorem Triple.finalState {S : σ → Prop} (h : Triple P x (fun _ => S) (fun _ => S)) {s : σ}
    (hP : P s) : S (finalState (x.run s)) := by
  have hrun := h s hP
  cases hx : x.run s with
  | ok a s' =>
    rw [hx] at hrun
    exact hrun
  | error e s' =>
    rw [hx] at hrun
    exact hrun

/-- A triple is proved state by state. -/
theorem triple_start (h : ∀ s, P s → Triple (· = s) x Q E) : Triple P x Q E :=
  fun s hs => h s hs s rfl

theorem triple_pure {a : α} (h : ∀ s, P s → Q a s) :
    Triple P (pure a : EStateM ε σ α) Q E := h

theorem triple_throw {e : ε} (h : ∀ s, P s → E e s) :
    Triple P (throw e : EStateM ε σ α) Q E := h

theorem triple_modify {f : σ → σ} {Q : PUnit → σ → Prop} (h : ∀ s, P s → Q ⟨⟩ (f s)) :
    Triple P (modify f : EStateM ε σ PUnit) Q E := h

theorem triple_set {s' : σ} {Q : PUnit → σ → Prop} (h : ∀ s, P s → Q ⟨⟩ s') :
    Triple P (set s' : EStateM ε σ PUnit) Q E := h

/-- Reading the state: what follows may use that it has been read. -/
theorem triple_get_bind {Q : β → σ → Prop} {f : σ → EStateM ε σ β}
    (h : ∀ s, P s → Triple (· = s) (f s) Q E) : Triple P (get >>= f) Q E :=
  fun s hs => h s hs s rfl

theorem triple_bind {R : β → σ → Prop} {f : α → EStateM ε σ β} (hx : Triple P x Q E)
    (hf : ∀ a, Triple (Q a) (f a) R E) : Triple P (x >>= f) R E := by
  intro s hs
  have hrun := hx s hs
  rw [EStateM.run_bind]
  cases h : x.run s with
  | ok a s' =>
    rw [h] at hrun
    exact hf a s' hrun
  | error e s' =>
    rw [h] at hrun
    exact hrun

theorem triple_ite {c : Prop} [Decidable c] {y : EStateM ε σ α}
    (hx : c → Triple P x Q E) (hy : ¬c → Triple P y Q E) :
    Triple P (if c then x else y) Q E := by
  split
  · next h => exact hx h
  · next h => exact hy h

theorem triple_conseq {Q' : α → σ → Prop} {E' : ε → σ → Prop} (h : Triple P' x Q' E')
    (hP : ∀ s, P s → P' s) (hQ : ∀ a s, Q' a s → Q a s) (hE : ∀ e s, E' e s → E e s) :
    Triple P x Q E := by
  intro s hs
  have hrun := h s (hP s hs)
  cases hx : x.run s with
  | ok a s' =>
    rw [hx] at hrun
    exact hQ a s' hrun
  | error e s' =>
    rw [hx] at hrun
    exact hE e s' hrun

/-- A triple from a stronger start. -/
theorem triple_pre {I : σ → Prop} (h : Triple I x Q E) (hP : ∀ s, P s → I s) : Triple P x Q E :=
  triple_conseq h hP (fun _ _ hs => hs) (fun _ _ he => he)

/-- A triple to a weaker end. -/
theorem triple_post {Q' : α → σ → Prop} (h : Triple P x Q' E) (hQ : ∀ a s, Q' a s → Q a s) :
    Triple P x Q E :=
  triple_conseq h (fun _ hs => hs) hQ (fun _ _ he => he)

/-- What cannot throw may be followed by any handler. -/
theorem triple_total (h : Triple P x Q fun _ _ => False) : Triple P x Q E :=
  triple_conseq h (fun _ hs => hs) (fun _ _ hs => hs) (fun _ _ hf => hf.elim)

/-- Two triples of one computation. -/
theorem triple_and {Q' : α → σ → Prop} {E' : ε → σ → Prop} (h : Triple P x Q E)
    (h' : Triple P x Q' E') :
    Triple P x (fun a s => Q a s ∧ Q' a s) (fun e s => E e s ∧ E' e s) := by
  intro s hs
  have hrun := h s hs
  have hrun' := h' s hs
  cases hx : x.run s with
  | ok a s' =>
    rw [hx] at hrun hrun'
    exact ⟨hrun, hrun'⟩
  | error e s' =>
    rw [hx] at hrun hrun'
    exact ⟨hrun, hrun'⟩

/-- A triple may speak of the run itself. -/
theorem triple_run {s : σ} (h : Triple (· = s) x Q E) :
    Triple (· = s) x (fun a s' => x.run s = .ok a s' ∧ Q a s') E := by
  rintro s' rfl
  have hrun := h s' rfl
  cases hx : x.run s' with
  | ok a s' =>
    rw [hx] at hrun
    exact ⟨rfl, hrun⟩
  | error e s' =>
    rw [hx] at hrun
    exact hrun

/-- A handler starts in the state that the exception left. -/
theorem triple_tryCatch {E' : ε → σ → Prop} {handle : ε → EStateM ε σ α}
    (hx : Triple P x Q E') (hh : ∀ e, Triple (E' e) (handle e) Q E) :
    Triple P (tryCatch x handle) Q E := by
  intro s hs
  have hrun := hx s hs
  have hcatch : (tryCatch x handle : EStateM ε σ α).run s = match x.run s with
      | .ok a s' => .ok a s'
      | .error e s' => (handle e).run s' := by
    show EStateM.tryCatch x handle s = _
    unfold EStateM.tryCatch EStateM.run
    cases x s <;> rfl
  rw [hcatch]
  cases h : x.run s with
  | ok a s' =>
    rw [h] at hrun
    exact hrun
  | error e s' =>
    rw [h] at hrun
    exact hh e s' hrun

/-! ## A part of the state -/

/-- Run `x` on the part of the state that `view` reads and `put` writes. -/
def zoom {τ : Type u} (view : σ → τ) (put : τ → σ → σ) (x : EStateM ε τ α) : EStateM ε σ α :=
  fun s => match x.run (view s) with
    | .ok a t => .ok a (put t s)
    | .error e t => .error e (put t s)

theorem triple_zoom {τ : Type u} {view : σ → τ} {put : τ → σ → σ} {x : EStateM ε τ α} {s : σ}
    {Q : α → τ → Prop} {E : ε → τ → Prop} (h : Triple (· = view s) x Q E) :
    Triple (· = s) (zoom view put x) (fun a s' => ∃ t, Q a t ∧ s' = put t s)
      (fun e s' => ∃ t, E e t ∧ s' = put t s) := by
  rintro s' rfl
  have hrun := h (view s') rfl
  have hzoom : (zoom view put x).run s' = match x.run (view s') with
      | .ok a t => .ok a (put t s')
      | .error e t => .error e (put t s') := rfl
  rw [hzoom]
  cases hx : x.run (view s') with
  | ok a t =>
    rw [hx] at hrun
    exact ⟨t, hrun, rfl⟩
  | error e t =>
    rw [hx] at hrun
    exact ⟨t, hrun, rfl⟩

end StateInvariant

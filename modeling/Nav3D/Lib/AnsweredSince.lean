/-
Nav3D.Lib.AnsweredSince — a component that is asked, reset and configured.

Asking gives an answer and may change the members. The bench keeps, newest
first, what has been asked since the last reset, with the members that were
asked and the answer. `invariant_of_reach` reduces a property of the members
and that record to the three operations.
-/
import Nav3D.Lib.Transition

namespace AnsweredSince

/-- A component: `μ` are its members, `α` what it is asked, `β` what it
answers and `π` how it is configured. -/
structure Component (μ α β π : Type) where
  ask : α → μ → β × μ
  reset : μ → μ
  configure : π → μ → μ

/-- A question with its answer. -/
structure Answered (μ α β : Type) where
  members : μ
  input : α
  answer : β
  deriving DecidableEq

/-- The component with what it has answered since the last reset. -/
structure Bench (μ α β : Type) where
  members : μ
  recent : List (Answered μ α β)

inductive Label (α π : Type) where
  | ask (input : α)
  | reset
  | configure (p : π)

/-- Every answer of a record, with what was answered before it. -/
def EachAnswer {μ α β : Type} (Q : Answered μ α β → List (Answered μ α β) → Prop) :
    List (Answered μ α β) → Prop
  | [] => True
  | r :: earlier => Q r earlier ∧ EachAnswer Q earlier

theorem EachAnswer.append {μ α β : Type} {Q : Answered μ α β → List (Answered μ α β) → Prop}
    {later recent : List (Answered μ α β)} (h : EachAnswer Q (later ++ recent)) :
    EachAnswer Q recent := by
  induction later with
  | nil => exact h
  | cons r later ih => exact ih h.2

namespace Component

variable {μ α β π : Type} (component : Component μ α β π)

def step (s : Bench μ α β) : Label α π → Bench μ α β
  | .ask input =>
    ⟨(component.ask input s.members).2,
      ⟨s.members, input, (component.ask input s.members).1⟩ :: s.recent⟩
  | .reset => ⟨component.reset s.members, []⟩
  | .configure p => { s with members := component.configure p s.members }

/-- Any order of the operations. -/
def system (start : μ) : Transition.System (Bench μ α β) (Label α π) where
  init := fun s => s = ⟨start, []⟩
  step := fun s l => some (component.step s l)

variable {component} {start : μ}

/-- **Runs of a component.** -/
theorem invariant_of_reach {C : Bench μ α β → Label α π → Prop} {s : Bench μ α β}
    (h : (component.system start).Reach C s) (I : μ → List (Answered μ α β) → Prop)
    (hstart : I start [])
    (hask : ∀ m recent input, C ⟨m, recent⟩ (.ask input) → I m recent →
      I (component.ask input m).2 (⟨m, input, (component.ask input m).1⟩ :: recent))
    (hreset : ∀ m recent, I m recent → I (component.reset m) [])
    (hconfigure : ∀ m recent p, I m recent → I (component.configure p m) recent) :
    I s.members s.recent := by
  refine h.invariant (fun s => I s.members s.recent) ?_ ?_
  · intro s hs
    rw [show s = ⟨start, []⟩ from hs]
    exact hstart
  · intro s l s' hs hl hstep
    cases hstep
    cases l with
    | ask input => exact hask s.members s.recent input hl hs
    | reset => exact hreset s.members s.recent hs
    | configure p => exact hconfigure s.members s.recent p hs

end Component

end AnsweredSince

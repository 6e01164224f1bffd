/-
Nav3D.Lib.ManagedNode — the state machine of a ROS 2 lifecycle node around
arbitrary callbacks.

A transition that the state knows runs its callback, and what the callback
returns decides about the next state: an exception counts as an error, which
`onError` handles. Everything else that can happen to the members is an
`other` step. A process that has crashed does nothing more.

`invariant_of_reach` reduces a property of every state that is reached to
the callbacks: each of them is looked at in the states that know its
transition.
-/
import Nav3D.Lib.Transition

namespace ManagedNode

/-- The primary states. -/
inductive State where
  | unconfigured
  | inactive
  | active
  | finalized
  deriving DecidableEq, Repr

/-- The transitions that can be asked for. -/
inductive Transition where
  | configure
  | cleanup
  | activate
  | deactivate
  | shutdown
  deriving DecidableEq, Repr

/-- What a callback returns. -/
inductive CallbackReturn where
  | success
  | failure
  | error
  deriving DecidableEq, Repr

/-- The states that know a transition. -/
def Transition.isLegal : Transition → State → Bool
  | .configure, .unconfigured => true
  | .cleanup, .inactive => true
  | .activate, .inactive => true
  | .deactivate, .active => true
  | .shutdown, .finalized => false
  | .shutdown, _ => true
  | _, _ => false

/-- Where it leads on SUCCESS. -/
def Transition.goal : Transition → State
  | .configure => .inactive
  | .cleanup => .unconfigured
  | .activate => .active
  | .deactivate => .inactive
  | .shutdown => .finalized

/-- Where it leads on FAILURE. -/
def Transition.failed (st : State) : Transition → State
  | .shutdown => .finalized
  | _ => st

/-- The callbacks of a node with members `M`. What the outside answers in a
callback is an `ι`. -/
structure Node (M ι ο : Type) where
  start : M
  callback : Transition → ι → M → CallbackReturn × M
  onError : M → CallbackReturn × M
  other : ο → M → M
  crashed : M → Bool

/-- A node in one of its states. -/
structure Managed (M : Type) where
  state : State
  members : M

/-- A transition, or another step. -/
inductive Label (ι ο : Type) where
  | change (t : Transition) (answers : ι)
  | other (o : ο)

namespace Node

variable {M ι ο : Type} (node : Node M ι ο)

/-- The state and the members after a callback. -/
def settle (t : Transition) (st : State) : CallbackReturn × M → Managed M
  | (.success, m) => ⟨t.goal, m⟩
  | (.failure, m) => ⟨t.failed st, m⟩
  | (.error, m) =>
    ⟨if (node.onError m).1 = .success then .unconfigured else .finalized, (node.onError m).2⟩

/-- One step. A state refuses a transition that it does not know. -/
def step (s : Managed M) : Label ι ο → Option (Managed M)
  | .change t answers =>
    if node.crashed s.members = false ∧ t.isLegal s.state = true then
      some (node.settle t s.state (node.callback t answers s.members))
    else none
  | .other o =>
    if node.crashed s.members = false then some { s with members := node.other o s.members }
    else none

/-- The node with any order of steps. -/
def system : Transition.System (Managed M) (Label ι ο) where
  init := fun s => s = ⟨.unconfigured, node.start⟩
  step := node.step

variable {node}

/-- What a callback leaves, when `onError` changes nothing. -/
theorem members_settle (herror : ∀ m, (node.onError m).2 = m) (t : Transition) (st : State)
    (r : CallbackReturn × M) : (node.settle t st r).members = r.2 := by
  obtain ⟨ret, m⟩ := r
  cases ret with
  | success => rfl
  | failure => rfl
  | error => exact herror m

/-- **Runs of a node.** `I st` holds of the members in the state `st`. -/
theorem invariant_of_reach {C : Managed M → Label ι ο → Prop} {s : Managed M}
    (h : node.system.Reach C s) (I : State → M → Prop) (hstart : I .unconfigured node.start)
    (hchange : ∀ st m t answers, node.crashed m = false → t.isLegal st = true →
      C ⟨st, m⟩ (.change t answers) → I st m →
      I (node.settle t st (node.callback t answers m)).state
        (node.settle t st (node.callback t answers m)).members)
    (hother : ∀ st m o, node.crashed m = false → C ⟨st, m⟩ (.other o) → I st m →
      I st (node.other o m)) :
    I s.state s.members := by
  refine h.invariant (fun s => I s.state s.members) ?_ ?_
  · intro s hs
    rw [show s = ⟨.unconfigured, node.start⟩ from hs]
    exact hstart
  · intro s l s' hs hl hstep
    cases l with
    | change t answers =>
      simp only [system, step] at hstep
      split at hstep
      · next hguard =>
        cases hstep
        exact hchange s.state s.members t answers hguard.1 hguard.2 hl hs
      · cases hstep
    | other o =>
      simp only [system, step] at hstep
      split at hstep
      · next hguard =>
        cases hstep
        exact hother s.state s.members o hguard hl hs
      · cases hstep

end Node

end ManagedNode

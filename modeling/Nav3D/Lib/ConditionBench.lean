/-
Nav3D.Lib.ConditionBench — a condition on a bench.

A condition is given by its `tick()` as a function of whether the node was
active, of what it reads and of its members. Its parent ticks it, halts it or
resets its status as it likes. The bench records, newest first, what each
tick has read and returned; the ticks since the one that last found the node
inactive are the current activation.
-/
import Nav3D.Lib.NodeBench

namespace BT

open Transition

/-- A tick of a condition: what it has read, whether the node was inactive,
and what it has returned. -/
structure ConditionEvent (ι : Type) where
  inputs : ι
  starts : Bool
  result : NodeStatus
  deriving DecidableEq

/-- The ticks from the last start on. -/
def ConditionEvent.activation {ι : Type} : List (ConditionEvent ι) → List (ConditionEvent ι)
  | [] => []
  | e :: trace => if e.starts then [e] else e :: activation trace

/-- A condition with members `μ` and what has happened. -/
structure ConditionBench (μ ι : Type) where
  status : NodeStatus
  members : μ
  trace : List (ConditionEvent ι)
  deriving DecidableEq

namespace ConditionBench

variable {μ ι : Type}

def cell : StatusCell (ConditionBench μ ι) where
  status := ConditionBench.status
  setStatus status s := { s with status := status }

/-- The `tick()` of a condition: the status that it returns and its members
then, from whether it was active, what it reads and its members. -/
abbrev Tick (μ ι : Type) : Type := Bool → ι → μ → NodeStatus × μ

/-- A tick with what it does on record. -/
def recorded (tick : Tick μ ι) (inputs : ι) (s : ConditionBench μ ι) :
    NodeStatus × ConditionBench μ ι :=
  let (status, members) := tick s.status.isActive inputs s.members
  (status, { s with
    members := members
    trace := ⟨inputs, !s.status.isActive, status⟩ :: s.trace })

/-- The condition whose `tick()` is given. -/
def node (tick : Tick μ ι) (inputs : ι) : TreeNode Empty (ConditionBench μ ι) :=
  leaf cell (modifyGet (recorded tick inputs))

/-- What happens to the condition. -/
inductive Label (ι : Type) where
  | executeTick (inputs : ι)
  | halt
  | haltChild
  | resetStatus

/-- Its halt, which does not look at what it reads. -/
def halted : TreeNode Empty (ConditionBench μ ι) := leaf cell (pure .idle)

def stepLabel (tick : Tick μ ι) (s : ConditionBench μ ι) : Label ι → ConditionBench μ ι
  | .executeTick inputs => StateInvariant.finalState ((node tick inputs).executeTick.run s)
  | .halt => StateInvariant.finalState (halted.halt.run s)
  | .haltChild => StateInvariant.finalState (halted.haltChild.run s)
  | .resetStatus => { s with status := .idle }

/-- Its runs from when it is created. -/
def system (tick : Tick μ ι) (start : μ) : System (ConditionBench μ ι) (Label ι) where
  init := fun s => s = ⟨.idle, start, []⟩
  step := fun s l => some (stepLabel tick s l)

variable {tick : Tick μ ι} {start : μ}

/-- A tick. -/
theorem stepLabel_executeTick (tick : Tick μ ι) (s : ConditionBench μ ι) (inputs : ι) :
    (stepLabel tick s (.executeTick inputs)).members =
        (tick s.status.isActive inputs s.members).2 ∧
      (stepLabel tick s (.executeTick inputs)).trace =
        ⟨inputs, !s.status.isActive, (tick s.status.isActive inputs s.members).1⟩ :: s.trace := by
  generalize hresult : tick s.status.isActive inputs s.members = result
  obtain ⟨status, members⟩ := result
  have hrun : (node tick inputs).tick.run s = .ok status { s with
      members := members, trace := ⟨inputs, !s.status.isActive, status⟩ :: s.trace } := by
    show EStateM.Result.ok _ _ = _
    rw [hresult]
  simp only [stepLabel, TreeNode.executeTick, EStateM.run_bind, hrun]
  cases status <;> exact ⟨rfl, rfl⟩

/-- A halt or a reset makes the status IDLE. -/
theorem stepLabel_others (s : ConditionBench μ ι) {l : Label ι}
    (hl : ∀ inputs, l ≠ .executeTick inputs) : stepLabel tick s l = { s with status := .idle } := by
  obtain ⟨status, members, trace⟩ := s
  cases l with
  | executeTick inputs => exact absurd rfl (hl inputs)
  | haltChild => cases status <;> rfl
  | _ => rfl

/-- **Runs of a condition.** `I b` is what is known when the node is active
(`b` is true) or not; a tick may make it either. -/
theorem invariant_of_reach {C : ConditionBench μ ι → Label ι → Prop} {s : ConditionBench μ ι}
    (h : (system tick start).Reach C s) (I : Bool → μ → List (ConditionEvent ι) → Prop)
    (hstart : I false start [])
    (hweaken : ∀ members trace, I true members trace → I false members trace)
    (htick : ∀ (s : ConditionBench μ ι) inputs, I s.status.isActive s.members s.trace →
      C s (.executeTick inputs) →
      I true (tick s.status.isActive inputs s.members).2
        (⟨inputs, !s.status.isActive, (tick s.status.isActive inputs s.members).1⟩ :: s.trace)) :
    I s.status.isActive s.members s.trace := by
  have hreset : ∀ b members trace, I b members trace → I false members trace := by
    intro b members trace hI
    cases b with
    | true => exact hweaken members trace hI
    | false => exact hI
  refine h.invariant (fun s => I s.status.isActive s.members s.trace) ?_ ?_
  · rintro s rfl
    exact hstart
  · intro s l s' hs hl hstep
    cases hstep
    cases l with
    | executeTick inputs =>
      obtain ⟨hmembers, htrace⟩ := stepLabel_executeTick tick s inputs
      rw [hmembers, htrace]
      have hafter := htick s inputs hs hl
      cases (stepLabel tick s (.executeTick inputs)).status.isActive with
      | true => exact hafter
      | false => exact hweaken _ _ hafter
    | _ =>
      rw [stepLabel_others s (by simp)]
      exact hreset _ _ _ hs

end ConditionBench

end BT

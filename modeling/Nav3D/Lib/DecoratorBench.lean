/-
Nav3D.Lib.DecoratorBench — a decorator on a bench.

The child does what it is told in each tick: it leaves a status, returns
one or throws. The parent ticks the decorator with what it is to read, halts
it or resets its status as it likes, and a halt of the child may throw. The
bench records, newest first, the ticks of the decorator, those of its child
and what the decorator has returned. The events since the tick that has
last found the decorator inactive are the current activation.

`stepLabel_executeTick` gives a step from the run of `tick()` alone, and
`step_others` says what is left to a halt or a reset: statuses become IDLE.
-/
import Nav3D.Lib.NodeBench

namespace BT

open StateInvariant Transition

/-! ## The trace -/

/-- What a child does in one tick: the status that it has when `tick()`
ends, and what `tick()` returns, none for an exception. -/
structure ChildAnswer where
  leaves : NodeStatus
  result : Option NodeStatus
  deriving DecidableEq

/-- The status of the child when its `executeTick()` is over. -/
def ChildAnswer.left (a : ChildAnswer) : NodeStatus :=
  match a.result with
  | none | some .skipped => a.leaves
  | some status => status

/-- The decorator is ticked with `inputs`, `starts` if it was inactive; the
child is ticked, `running` if it was RUNNING, with `result`; the decorator
has returned. -/
inductive DecoratorEvent (ι : Type) where
  | ticked (inputs : ι) (starts : Bool)
  | child (inputs : ι) (running : Bool) (result : Option NodeStatus)
  | returned (status : NodeStatus)
  deriving DecidableEq

variable {ι : Type}

/-- The events from the last start on. -/
def DecoratorEvent.activation : List (DecoratorEvent ι) → List (DecoratorEvent ι)
  | [] => []
  | .ticked inputs true :: _ => [.ticked inputs true]
  | e :: trace => e :: activation trace

/-- The child has been ticked. -/
def DecoratorEvent.isChild : DecoratorEvent ι → Bool
  | .child _ _ _ => true
  | _ => false

/-- The event that a decorator has returned the answer of its child, unless
the child has thrown. For IDLE it returns FAILURE. -/
def DecoratorEvent.returnEvent : Option NodeStatus → List (DecoratorEvent ι)
  | none => []
  | some .idle => [.returned .failure]
  | some status => [.returned status]

namespace DecoratorEvent

@[simp] theorem activation_started (inputs : ι) (trace : List (DecoratorEvent ι)) :
    activation (.ticked inputs true :: trace) = [.ticked inputs true] := rfl

@[simp] theorem activation_continued (inputs : ι) (trace : List (DecoratorEvent ι)) :
    activation (.ticked inputs false :: trace) = .ticked inputs false :: activation trace := rfl

@[simp] theorem activation_childTicked (inputs : ι) (running : Bool)
    (result : Option NodeStatus) (trace : List (DecoratorEvent ι)) :
    activation (.child inputs running result :: trace) =
      .child inputs running result :: activation trace := rfl

@[simp] theorem activation_hasReturned (status : NodeStatus) (trace : List (DecoratorEvent ι)) :
    activation (.returned status :: trace) = .returned status :: activation trace := rfl

end DecoratorEvent

/-! ## The bench -/

/-- A decorator with members `μ`, its child's status and what has happened. -/
structure DecoratorBench (μ ι : Type) where
  status : NodeStatus
  childStatus : NodeStatus
  members : μ
  trace : List (DecoratorEvent ι)
  deriving DecidableEq

namespace DecoratorBench

variable {μ : Type}

/-- Where the status of the decorator is kept. -/
def cell : StatusCell (DecoratorBench μ ι) where
  status := DecoratorBench.status
  setStatus status s := { s with status := status }

def memberCell : MemberCell μ (DecoratorBench μ ι) where
  toStatusCell := cell
  members := DecoratorBench.members
  setMembers m s := { s with members := m }

def childCell : StatusCell (DecoratorBench μ ι) where
  status := DecoratorBench.childStatus
  setStatus status s := { s with childStatus := status }

def log (e : DecoratorEvent ι) (s : DecoratorBench μ ι) : DecoratorBench μ ι :=
  { s with trace := e :: s.trace }

/-- The child has been ticked. -/
def tickedChild (inputs : ι) (a : ChildAnswer) (s : DecoratorBench μ ι) : DecoratorBench μ ι :=
  { s with
    childStatus := a.leaves
    trace := .child inputs (s.childStatus == .running) a.result :: s.trace }

/-- The child when it is not ticked. Its `halt()` may throw. -/
def idleChild (haltThrows : Bool) : TreeNode Unit (DecoratorBench μ ι) where
  toStatusCell := childCell
  tick := throw ()
  halt := if haltThrows then throw () else modify (childCell.setStatus .idle)

/-- The child, with what it does in a tick. -/
def child (inputs : ι) (a : ChildAnswer) : TreeNode Unit (DecoratorBench μ ι) where
  toStatusCell := childCell
  tick := do
    modify (tickedChild inputs a)
    match a.result with
    | some status => return status
    | none => throw ()
  halt := modify (childCell.setStatus .idle)

/-- The `tick()` of a decorator, with what it reads and its child. -/
abbrev Tick (μ ι : Type) : Type :=
  ι → TreeNode Unit (DecoratorBench μ ι) → EStateM Unit (DecoratorBench μ ι) NodeStatus

/-- The decorator whose `tick()` is given. -/
def node (tick : Tick μ ι) (inputs : ι) (a : ChildAnswer) : TreeNode Unit (DecoratorBench μ ι) :=
  decorator cell (child inputs a) (tick inputs (child inputs a))

/-- Its halt, which does not look at what it reads. -/
def halted (haltThrows : Bool) : TreeNode Unit (DecoratorBench μ ι) :=
  decorator cell (idleChild haltThrows) (throw ())

/-- A tick by the parent. -/
def tickNode (tick : Tick μ ι) (inputs : ι) (a : ChildAnswer) :
    EStateM Unit (DecoratorBench μ ι) PUnit := do
  modify fun s => s.log (.ticked inputs (!s.status.isActive))
  let status ← (node tick inputs a).executeTick
  modify (log (.returned status))

/-- What happens to the decorator. -/
inductive Label (ι : Type) where
  | executeTick (inputs : ι) (a : ChildAnswer)
  | halt (haltThrows : Bool)
  | haltChild (haltThrows : Bool)
  | resetStatus

def stepLabel (tick : Tick μ ι) (s : DecoratorBench μ ι) : Label ι → DecoratorBench μ ι
  | .executeTick inputs a => finalState ((tickNode tick inputs a).run s)
  | .halt haltThrows => finalState ((halted haltThrows).halt.run s)
  | .haltChild haltThrows => finalState ((halted haltThrows).haltChild.run s)
  | .resetStatus => { s with status := .idle }

/-- A decorator that has been created. -/
def created (start : μ) : DecoratorBench μ ι := ⟨.idle, .idle, start, []⟩

/-- Its runs. -/
def system (tick : Tick μ ι) (start : μ) : System (DecoratorBench μ ι) (Label ι) where
  init := fun s => s = created start
  step := fun s l => some (stepLabel tick s l)

/-! ## One step -/

/-- The tick of the child. -/
def afterChild (inputs : ι) (a : ChildAnswer) (s : DecoratorBench μ ι) :
    EStateM.Result Unit (DecoratorBench μ ι) NodeStatus :=
  match a.result with
  | none => .error () (s.tickedChild inputs a)
  | some status => .ok status { s.tickedChild inputs a with childStatus := a.left }

theorem child_executeTick (inputs : ι) (a : ChildAnswer) (s : DecoratorBench μ ι) :
    (child inputs a).executeTick.run s = afterChild inputs a s := by
  obtain ⟨leaves, result⟩ := a
  rcases result with _ | _ | _ | _ | _ | _ <;> rfl

/-- What `executeTick()` adds: it takes the status over and resets a child
that has completed. -/
def endTick (status : NodeStatus) (s : DecoratorBench μ ι) : DecoratorBench μ ι where
  status := if status = .skipped then s.status else status
  childStatus := if s.childStatus.isCompleted then .idle else s.childStatus
  members := s.members
  trace := .returned status :: s.trace

/-- The bench when `tick()` is over. -/
def afterTick : EStateM.Result Unit (DecoratorBench μ ι) NodeStatus → DecoratorBench μ ι
  | .error _ s => s
  | .ok status s => s.endTick status

/-- The bench before `tick()`. -/
def beforeTick (inputs : ι) (s : DecoratorBench μ ι) : DecoratorBench μ ι :=
  s.log (.ticked inputs (!s.status.isActive))

theorem stepLabel_executeTick (tick : Tick μ ι) (s : DecoratorBench μ ι) (inputs : ι)
    (a : ChildAnswer) :
    stepLabel tick s (.executeTick inputs a) =
      afterTick ((tick inputs (child inputs a)).run (s.beforeTick inputs)) := by
  simp only [stepLabel, tickNode, TreeNode.executeTick, node, decorator, EStateM.run_bind,
    EStateM.run_modify, beforeTick]
  cases (tick inputs (child inputs a)).run (s.log (.ticked inputs (!s.status.isActive))) with
  | error _ s' => rfl
  | ok status s' =>
    by_cases hskipped : status = .skipped
    · by_cases hcompleted : s'.childStatus.isCompleted = true
      · simp [hskipped, hcompleted, afterTick, endTick, log, child, childCell,
          TreeNode.resetStatus, finalState]
      · simp [hskipped, hcompleted, afterTick, endTick, log, child, childCell, finalState]
    · by_cases hcompleted : s'.childStatus.isCompleted = true
      · simp [hskipped, hcompleted, afterTick, endTick, log, child, childCell, cell,
          TreeNode.resetStatus, finalState]
      · simp [hskipped, hcompleted, afterTick, endTick, log, child, childCell, cell, finalState]

/-- Some statuses have become IDLE. -/
structure Reset (s s' : DecoratorBench μ ι) : Prop where
  members : s'.members = s.members
  trace : s'.trace = s.trace
  status : s'.status = s.status ∨ s'.status = .idle
  childStatus : s'.childStatus = s.childStatus ∨ s'.childStatus = .idle

theorem reset_halt (haltThrows : Bool) (s : DecoratorBench μ ι) :
    Reset s (finalState ((halted haltThrows).halt.run s)) := by
  obtain ⟨status, childStatus, members, trace⟩ := s
  cases childStatus <;> cases haltThrows <;>
    exact ⟨rfl, rfl, by first | exact .inl rfl | exact .inr rfl,
      by first | exact .inl rfl | exact .inr rfl⟩

theorem reset_haltChild (haltThrows : Bool) (s : DecoratorBench μ ι) :
    Reset s (finalState ((halted haltThrows).haltChild.run s)) := by
  obtain ⟨status, childStatus, members, trace⟩ := s
  cases status <;> cases childStatus <;> cases haltThrows <;>
    exact ⟨rfl, rfl, by first | exact .inl rfl | exact .inr rfl,
      by first | exact .inl rfl | exact .inr rfl⟩

/-- A halt or a reset. -/
theorem reset_stepLabel (tick : Tick μ ι) (s : DecoratorBench μ ι) {l : Label ι}
    (hl : ∀ inputs a, l ≠ .executeTick inputs a) : Reset s (stepLabel tick s l) := by
  cases l with
  | executeTick inputs a => exact absurd rfl (hl inputs a)
  | halt haltThrows => exact reset_halt haltThrows s
  | haltChild haltThrows => exact reset_haltChild haltThrows s
  | resetStatus => exact ⟨rfl, rfl, .inr rfl, .inl rfl⟩

/-- **Runs of a decorator.** What every admitted tick keeps, and every reset,
holds in every state reached. -/
theorem invariant_of_reach {tick : Tick μ ι} {start : μ}
    {C : DecoratorBench μ ι → Label ι → Prop} {s : DecoratorBench μ ι}
    (h : (system tick start).Reach C s) (I : DecoratorBench μ ι → Prop)
    (hstart : I (created start))
    (htick : ∀ s inputs a, I s → C s (.executeTick inputs a) →
      I (afterTick ((tick inputs (child inputs a)).run (s.beforeTick inputs))))
    (hreset : ∀ s s', I s → Reset s s' → I s') : I s := by
  refine h.invariant I ?_ ?_
  · rintro s rfl
    exact hstart
  · intro s l s' hs hl hstep
    cases hstep
    cases l with
    | executeTick inputs a =>
      rw [stepLabel_executeTick]
      exact htick s inputs a hs hl
    | _ => exact hreset s _ hs (reset_stepLabel tick s (by simp))

end DecoratorBench

end BT

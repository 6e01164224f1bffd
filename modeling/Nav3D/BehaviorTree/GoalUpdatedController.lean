/-
Nav3D.BehaviorTree.GoalUpdatedController — the decorator that ticks its
child again when the goal has changed
(`plugins/decorator/goal_updated_controller.cpp`).

The decorator compares the goals on the blackboard with those of its last
tick and keeps the outcome in `goal_was_updated_`. Every tick of the child
clears the flag, also one that only continues a RUNNING child, which has
read its goal when it started (`ComputePathToPose`). A child that completes
in such a tick is not started again for the new goal
(`goal_update_lost`). `goal_updates_seen` says that nothing else loses an
update.

What a child does in a tick is an argument. `seen` and `childTicks` are not
members of the decorator: they record the goals at the last tick that has
started the child, and how often it has been ticked. An entry that does not
exist is read as a default message. The decorator does not look at the
blackboard after it has ticked its child, so what the child writes in a tick
is a write after the tick.
-/
import Nav3D.Lib.BehaviorTree
import Nav3D.Lib.Transition

namespace Nav3D.BehaviorTree.GoalUpdatedController

open BT StateInvariant Transition

/-- The entries `goal` and `goals`, from the ports or from the blackboard. -/
structure Entries (G L : Type) where
  goal : Option G
  goals : Option L
  deriving DecidableEq

/-- The decorator, its child's status and the entries. -/
structure State (G L : Type) where
  status : NodeStatus
  childStatus : NodeStatus
  goalWasUpdated : Bool
  goal : G
  goals : L
  entries : Entries G L
  childTicks : Nat
  seen : Option (G × L)
  deriving DecidableEq

section Controller

variable {G L : Type} [DecidableEq G] [DecidableEq L] [Inhabited G] [Inhabited L]

/-- `getInputOrBlackboard`: an entry that does not exist leaves the value. -/
def getInputOrBlackboard {α : Type} (entry : Option α) (value : α) : α := entry.getD value

/-- `current_goal` and `current_goals`. -/
def Entries.current (entries : Entries G L) : G × L :=
  (getInputOrBlackboard entries.goal default, getInputOrBlackboard entries.goals default)

/-! ## The nodes -/

/-- What the child does in one tick: the status that it has when `tick()`
ends, and what `tick()` returns, none for an exception. -/
structure ChildTick where
  leaves : NodeStatus
  result : Option NodeStatus
  deriving DecidableEq

/-- The child has been ticked. -/
def State.tickedChild (s : State G L) (t : ChildTick) : State G L :=
  { s with
    seen := if s.childStatus = .running then s.seen else some s.entries.current
    childTicks := s.childTicks + 1
    childStatus := t.leaves }

def childCell : StatusCell (State G L) where
  status := State.childStatus
  setStatus status s := { s with childStatus := status }

/-- The child, with what it does in a tick and whether its `halt()` throws. -/
def child (t : ChildTick) (haltThrows : Bool) : TreeNode Unit (State G L) where
  toStatusCell := childCell
  tick := do
    modify fun s => s.tickedChild t
    match t.result with
    | some status => return status
    | none => throw ()
  halt := if haltThrows then throw () else modify (childCell.setStatus .idle)

def cell : StatusCell (State G L) where
  status := State.status
  setStatus status s := { s with status := status }

/-- The start of `tick()`: a new activation. -/
def State.activate (s : State G L) : State G L :=
  if s.status.isActive then s
  else
    { s with
      goals := getInputOrBlackboard s.entries.goals s.goals
      goal := getInputOrBlackboard s.entries.goal s.goal
      goalWasUpdated := true }

/-- The comparison with the current goals. -/
def State.compareGoals (s : State G L) : State G L :=
  if s.goal ≠ s.entries.current.1 ∨ s.goals ≠ s.entries.current.2 then
    { s with goal := s.entries.current.1, goals := s.entries.current.2, goalWasUpdated := true }
  else s

/-- `GoalUpdatedController::tick()`. -/
def tick (child : TreeNode Unit (State G L)) : EStateM Unit (State G L) NodeStatus := do
  modify State.activate
  modify (cell.setStatus .running)
  modify State.compareGoals
  let s ← get
  if child.status s = .running ∨ s.goalWasUpdated = true then do
    modify fun s => { s with goalWasUpdated := false }
    child.executeTick
  else return s.status

def controller (child : TreeNode Unit (State G L)) : TreeNode Unit (State G L) :=
  decorator cell child (tick child)

/-! ## Runs -/

/-- What happens to the decorator: its parent ticks it, halts it or resets
its status, and anything else writes the entries. -/
inductive Label (G L : Type) where
  | write (entries : Entries G L)
  | executeTick (t : ChildTick)
  | halt (haltThrows : Bool)
  | haltChild (haltThrows : Bool)
  | resetStatus

def stepLabel (s : State G L) : Label G L → State G L
  | .write entries => { s with entries := entries }
  | .executeTick t => finalState ((controller (child t false)).executeTick.run s)
  | .halt haltThrows => finalState ((controller (child ⟨.idle, none⟩ haltThrows)).halt.run s)
  | .haltChild haltThrows =>
    finalState ((controller (child ⟨.idle, none⟩ haltThrows)).haltChild.run s)
  | .resetStatus => { s with status := .idle }

/-- From a tree that has been created. -/
def system : System (State G L) (Label G L) where
  init := fun s => s.status = .idle ∧ s.childStatus = .idle ∧ s.seen = none
  step := fun s l => some (stepLabel s l)

/-! ## One tick -/

/-- The tick is to start the child. -/
def State.Due (s : State G L) : Prop :=
  s.status.isActive = false ∨ s.goalWasUpdated = true ∨ (s.goal, s.goals) ≠ s.entries.current

instance (s : State G L) : Decidable s.Due := inferInstanceAs (Decidable (_ ∨ _ ∨ _))

/-- The decorator before it decides. -/
def State.prepared (s : State G L) : State G L :=
  { s with
    status := .running
    goal := s.entries.current.1
    goals := s.entries.current.2
    goalWasUpdated := decide s.Due }

theorem compareGoals_eq (s : State G L) :
    s.compareGoals =
      { s with
        goal := s.entries.current.1
        goals := s.entries.current.2
        goalWasUpdated := s.goalWasUpdated || decide ((s.goal, s.goals) ≠ s.entries.current) } := by
  unfold State.compareGoals
  by_cases hsame : (s.goal, s.goals) = s.entries.current
  · obtain ⟨hgoal, hgoals⟩ := Prod.ext_iff.mp hsame
    simp only at hgoal hgoals
    have hflag : decide ((s.goal, s.goals) ≠ s.entries.current) = false := by simp [hsame]
    rw [if_neg (by simp [hgoal, hgoals]), hflag, Bool.or_false, ← hgoal, ← hgoals]
  · have hchanged : s.goal ≠ s.entries.current.1 ∨ s.goals ≠ s.entries.current.2 := by
      by_contra hnot
      simp only [ne_eq, not_or, not_not] at hnot
      exact hsame (Prod.ext hnot.1 hnot.2)
    rw [if_pos hchanged]
    simp [hsame]

theorem prepared_eq (s : State G L) :
    State.compareGoals (cell.setStatus .running (State.activate s)) = s.prepared := by
  rw [compareGoals_eq]
  by_cases hactive : s.status.isActive = true
  · simp [State.activate, State.prepared, State.Due, cell, hactive]
  · simp [State.activate, State.prepared, State.Due, cell, hactive]

omit [DecidableEq G] [DecidableEq L] in
/-- The tick of the child. -/
theorem child_executeTick (t : ChildTick) (haltThrows : Bool) (s : State G L) :
    (child t haltThrows).executeTick.run s =
      match t.result with
      | none => .error () (s.tickedChild t)
      | some status =>
        .ok status { s.tickedChild t with
          childStatus := if status = .skipped then t.leaves else status } := by
  obtain ⟨leaves, result⟩ := t
  rcases result with _ | _ | _ | _ | _ | _ <;> rfl

/-- The decorator's `tick()`. -/
theorem tick_run (t : ChildTick) (haltThrows : Bool) (s : State G L) :
    (tick (child t haltThrows)).run s =
      if s.childStatus = .running ∨ s.Due then
        (child t haltThrows).executeTick.run { s.prepared with goalWasUpdated := false }
      else .ok .running s.prepared := by
  have hflag : s.prepared.goalWasUpdated = true ↔ s.Due := decide_eq_true_iff
  have hchild : (child t haltThrows).status s.prepared = s.childStatus := rfl
  simp only [tick, EStateM.run_bind, EStateM.run_modify, EStateM.run_get, prepared_eq, hflag, hchild]
  split
  · simp only [EStateM.run_bind, EStateM.run_modify]
  · rfl

/-- What the decorator's `executeTick()` adds: it takes the status over and
resets a child that has completed. -/
def State.endTick (status : NodeStatus) (s : State G L) : State G L :=
  { s with
    status := if status = .skipped then s.status else status
    childStatus := if s.childStatus.isCompleted then .idle else s.childStatus }

theorem stepLabel_of_tick {s : State G L} {t : ChildTick}
    {x : EStateM.Result Unit (State G L) NodeStatus} (hx : (tick (child t false)).run s = x) :
    stepLabel s (.executeTick t) =
      match x with
      | .error _ s' => s'
      | .ok status s' => s'.endTick status := by
  simp only [stepLabel, TreeNode.executeTick, controller, decorator, EStateM.run_bind, hx]
  cases x with
  | error _ s' => rfl
  | ok status s' =>
    by_cases hskipped : status = .skipped
    · by_cases hcompleted : s'.childStatus.isCompleted = true
      · simp [hskipped, hcompleted, State.endTick, child, childCell, TreeNode.resetStatus, finalState]
      · simp [hskipped, hcompleted, State.endTick, child, childCell, finalState]
    · by_cases hcompleted : s'.childStatus.isCompleted = true
      · simp [hskipped, hcompleted, State.endTick, child, childCell, cell, TreeNode.resetStatus,
          finalState]
      · simp [hskipped, hcompleted, State.endTick, child, childCell, cell, finalState]

/-- The status of the child after a tick of the decorator that has ticked
it: one that has completed has been reset. -/
def ChildTick.childAfter (t : ChildTick) : NodeStatus :=
  match t.result with
  | none => t.leaves
  | some status =>
    let left := if status = .skipped then t.leaves else status
    if left.isCompleted then .idle else left

/-- The status of the decorator after it has ticked its child. -/
def ChildTick.after (t : ChildTick) : NodeStatus :=
  match t.result with
  | none | some .skipped => .running
  | some status => status

/-- What a tick of the decorator does. -/
theorem stepLabel_executeTick (s : State G L) (t : ChildTick) :
    stepLabel s (.executeTick t) =
      if s.childStatus = .running ∨ s.Due then
        { s.prepared.tickedChild t with
          goalWasUpdated := false, childStatus := t.childAfter, status := t.after }
      else s.prepared.endTick .running := by
  have hrun := tick_run t false s
  split
  · next hticks =>
    rw [if_pos hticks, child_executeTick] at hrun
    rw [stepLabel_of_tick hrun]
    obtain ⟨leaves, result⟩ := t
    rcases result with _ | _ | _ | _ | _ | _ <;> rfl
  · next hnot =>
    rw [if_neg hnot] at hrun
    rw [stepLabel_of_tick hrun]

theorem stepLabel_halt (s : State G L) (haltThrows : Bool) :
    stepLabel s (.halt haltThrows) =
      if s.childStatus = .running ∧ haltThrows = true then s
      else { s with status := .idle, childStatus := .idle } := by
  obtain ⟨status, childStatus, updated, goal, goals, entries, ticks, seen⟩ := s
  cases childStatus <;> cases haltThrows <;> rfl

theorem stepLabel_haltChild (s : State G L) (haltThrows : Bool) :
    stepLabel s (.haltChild haltThrows) =
      if s.status = .running then stepLabel s (.halt haltThrows) else { s with status := .idle } := by
  rw [stepLabel_halt]
  obtain ⟨status, childStatus, updated, goal, goals, entries, ticks, seen⟩ := s
  cases status <;> cases childStatus <;> cases haltThrows <;> rfl

/-! ## What the child has seen -/

/-- A tick that does not tick a child that is not RUNNING finds the goals of
its last start. -/
def SeenByChild (s : State G L) : Prop :=
  ∀ t, s.childStatus ≠ .running → (stepLabel s (.executeTick t)).childTicks = s.childTicks →
    s.seen = some s.entries.current

/-- A tick that ends a RUNNING child, and not the activation, finds the goals
of its last start. -/
def EndsInTime (s : State G L) : Label G L → Prop
  | .executeTick t =>
    s.childStatus = .running → t.childAfter ≠ .running → t.after.isActive = true →
      s.seen = some s.entries.current
  | _ => True

instance (s : State G L) : (l : Label G L) → Decidable (EndsInTime s l)
  | .executeTick _ => inferInstanceAs (Decidable (_ → _ → _ → _))
  | .write _ | .halt _ | .haltChild _ | .resetStatus => isTrue trivial

/-- The decorator does not tick its child if the tick is not due. -/
theorem seenByChild_iff (s : State G L) :
    SeenByChild s ↔ (s.childStatus ≠ .running → ¬ s.Due → s.seen = some s.entries.current) := by
  constructor
  · intro h hchild hdue
    refine h ⟨.idle, none⟩ hchild ?_
    rw [stepLabel_executeTick, if_neg (not_or.mpr ⟨hchild, hdue⟩)]
    rfl
  · intro h t hchild hticks
    by_cases hdue : s.Due
    · rw [stepLabel_executeTick, if_pos (Or.inr hdue)] at hticks
      exact absurd hticks (Nat.succ_ne_self s.childTicks)
    · exact h hchild hdue

/-- What the flag says in an activation. -/
def Inv (s : State G L) : Prop :=
  s.status.isActive = true → s.childStatus ≠ .running → s.goalWasUpdated = false →
    s.seen = some (s.goal, s.goals)

theorem Inv.seenByChild {s : State G L} (h : Inv s) : SeenByChild s := by
  rw [seenByChild_iff]
  intro hchild hdue
  simp only [State.Due, not_or, Bool.not_eq_false, Bool.not_eq_true, ne_eq, not_not] at hdue
  rw [← hdue.2.2]
  exact h hdue.1 hchild hdue.2.1

omit [DecidableEq G] [DecidableEq L] [Inhabited G] [Inhabited L] in
/-- After a halt there is no activation. -/
theorem inv_of_idle {s : State G L} (h : s.status = .idle) : Inv s := by
  intro hactive
  rw [h] at hactive
  exact absurd hactive (by decide)

theorem inv_halt {s : State G L} (h : Inv s) (haltThrows : Bool) :
    Inv (stepLabel s (.halt haltThrows)) := by
  rw [stepLabel_halt]
  split
  · exact h
  · exact inv_of_idle rfl

theorem inv_executeTick {s : State G L} (h : Inv s) (t : ChildTick)
    (ht : EndsInTime s (.executeTick t)) : Inv (stepLabel s (.executeTick t)) := by
  rw [stepLabel_executeTick]
  split
  · next hticks =>
    intro hactive hchild _
    show (if s.childStatus = .running then s.seen else some s.entries.current) = _
    split
    · -- the child was RUNNING and has been continued
      next hrunning => exact ht hrunning hchild hactive
    · rfl
  · next hnot =>
    -- not ticked: the goals are those of the last tick
    obtain ⟨hchild, hdue⟩ := not_or.mp hnot
    intro _ _ _
    exact (seenByChild_iff s).mp h.seenByChild hchild hdue

theorem inv_step {s : State G L} (h : Inv s) (l : Label G L) (hl : EndsInTime s l) :
    Inv (stepLabel s l) := by
  cases l with
  | write entries => exact h
  | resetStatus => exact inv_of_idle rfl
  | halt haltThrows => exact inv_halt h haltThrows
  | haltChild haltThrows =>
    rw [stepLabel_haltChild]
    split
    · exact inv_halt h haltThrows
    · exact inv_of_idle rfl
  | executeTick t => exact inv_executeTick h t hl

theorem inv_of_reach {s : State G L} (h : system.Reach EndsInTime s) : Inv s := by
  refine h.invariant Inv ?_ ?_
  · rintro s ⟨hidle, -, -⟩
    exact inv_of_idle hidle
  · intro s l s' hs hl hstep
    cases hstep
    exact inv_step hs l hl

/-- **Goal updates.** In every run in which no tick ends a RUNNING child
with other goals than those of its last start, a tick that does not tick a
child that is not RUNNING finds the goals of its last start. In every state
of such a run, a step keeps this exactly if it meets the condition. -/
theorem goal_updates_seen {s : State G L} (h : system.Reach EndsInTime s) :
    SeenByChild s ∧ ∀ l s', system.step s l = some s' → (SeenByChild s' ↔ EndsInTime s l) := by
  have hinv := inv_of_reach h
  refine ⟨hinv.seenByChild, fun l s' hstep => ?_⟩
  cases hstep
  refine ⟨fun hseen => ?_, fun hl => (inv_step hinv l hl).seenByChild⟩
  cases l with
  | executeTick t =>
    intro hrunning hchild hactive
    rw [seenByChild_iff, stepLabel_executeTick, if_pos (Or.inl hrunning)] at hseen
    have hsame := hseen hchild (by simp [State.Due, State.tickedChild, State.prepared, hactive])
    simpa [State.tickedChild, State.prepared, hrunning] using hsame
  | _ => trivial

/-! ### A goal that changes while the child is RUNNING -/

/-- The tree as it is created. -/
def created : State Nat (List Nat) where
  status := .idle
  childStatus := .idle
  goalWasUpdated := false
  goal := 0
  goals := []
  entries := ⟨none, none⟩
  childTicks := 0
  seen := none

/-- The child starts for goal 1 and completes in the tick after. -/
def startedAndCompleted : List (Label Nat (List Nat)) :=
  [.write ⟨some 1, some [1]⟩, .executeTick ⟨.running, some .running⟩,
    .executeTick ⟨.success, some .success⟩]

/-- After this run the child has seen the goals. -/
theorem goal_updates_seen_completed :
    ∃ s : State Nat (List Nat), s.seen = some (1, [1]) ∧ SeenByChild s := by
  obtain ⟨s, hreach, hs⟩ := System.exists_reach_of_runWhile (S := system) EndsInTime
    startedAndCompleted (fun s => s.seen = some (1, [1])) (s := created) ⟨rfl, rfl, rfl⟩ (by decide)
  exact ⟨s, of_decide_eq_true hs, (goal_updates_seen hreach).1⟩

/-- The goal becomes 2 while the child is RUNNING, and the child completes
in the tick that notices it. -/
def updatedWhileRunning : List (Label Nat (List Nat)) :=
  [.write ⟨some 1, some [1]⟩, .executeTick ⟨.running, some .running⟩,
    .write ⟨some 2, some [2]⟩, .executeTick ⟨.success, some .success⟩]

/-- The next tick does not start the child for goal 2. -/
theorem goal_update_lost :
    ¬ ∀ s : State Nat (List Nat), system.Reach System.anyStep s → SeenByChild s := by
  intro hclaim
  obtain ⟨s, hreach, hs⟩ := System.exists_reach_of_runWhile (S := system) System.anyStep
    updatedWhileRunning
    (fun s => s.childStatus ≠ .running ∧ ¬ s.Due ∧ s.seen ≠ some s.entries.current)
    (s := created) ⟨rfl, rfl, rfl⟩ (by decide)
  obtain ⟨hchild, hdue, hseen⟩ := of_decide_eq_true hs
  exact hseen ((seenByChild_iff s).mp (hclaim s hreach) hchild hdue)

end Controller

end Nav3D.BehaviorTree.GoalUpdatedController

/-
Nav3D.BehaviorTree.ChildLeftRunning — two decorators and the child that
they leave behind (`plugins/decorator/path_longer_on_approach.cpp`,
`plugins/decorator/distance_controller.cpp`, `robot_utils.cpp`).

A parent halts only a RUNNING node, and a decorator resets a child that has
completed. So a decorator that completes while its child is RUNNING leaves
it to run without being ticked. `PathLongerOnApproach` does so when its
guard fails while the child is RUNNING, and `DistanceController` when the
pose of the robot is not available (`child_left_running`).
`child_finished` says that these are the only ways.

What the child does in a tick is an argument. `returns` is no member: it
records what `tick()` has returned and the status of the child then.
-/
import Nav3D.BehaviorTree.GoalUpdatedController
import Nav3D.BtNavigator.Progress

namespace Nav3D.BehaviorTree.ChildLeftRunning

open BT StateInvariant Transition
open Nav3D.BtNavigator (Numbers euclideanDistance calculatePathLength)
open Nav3D.Px4 (Vec3 Pose)
open GoalUpdatedController (ChildTick)

/-! ## A decorator and its child -/

/-- A decorator with members `μ`, its child's status and what has been
returned. -/
structure Decorated (μ : Type) where
  status : NodeStatus
  childStatus : NodeStatus
  members : μ
  returns : List (NodeStatus × NodeStatus)

section Decorated

variable {μ ι : Type}

def cell : StatusCell (Decorated μ) where
  status := Decorated.status
  setStatus status s := { s with status := status }

def childCell : StatusCell (Decorated μ) where
  status := Decorated.childStatus
  setStatus status s := { s with childStatus := status }

/-- The child, with what it does in a tick and whether its `halt()` throws. -/
def child (t : ChildTick) (haltThrows : Bool) : TreeNode Unit (Decorated μ) where
  toStatusCell := childCell
  tick := do
    modify (childCell.setStatus t.leaves)
    match t.result with
    | some status => return status
    | none => throw ()
  halt := if haltThrows then throw () else modify (childCell.setStatus .idle)

/-- Write the members. -/
def update (f : μ → μ) : EStateM Unit (Decorated μ) PUnit :=
  modify fun s => { s with members := f s.members }

/-- `tick()` with its return recorded. -/
def recorded (tick : EStateM Unit (Decorated μ) NodeStatus) :
    EStateM Unit (Decorated μ) NodeStatus := do
  let status ← tick
  modify fun s => { s with returns := (status, s.childStatus) :: s.returns }
  return status

/-- What happens to the decorator, with what its tick reads. -/
inductive Label (ι : Type) where
  | executeTick (inputs : ι) (t : ChildTick)
  | halt (haltThrows : Bool)
  | haltChild (haltThrows : Bool)
  | resetStatus

/-- The decorator whose `tick()` is given. -/
def node (tick : ι → TreeNode Unit (Decorated μ) → EStateM Unit (Decorated μ) NodeStatus)
    (inputs : ι) (t : ChildTick) : TreeNode Unit (Decorated μ) :=
  decorator cell (child t false) (recorded (tick inputs (child t false)))

/-- Its halt, which does not look at what it reads. -/
def halted (haltThrows : Bool) : TreeNode Unit (Decorated μ) :=
  decorator cell (child ⟨.idle, none⟩ haltThrows) (pure .idle)

def stepLabel (tick : ι → TreeNode Unit (Decorated μ) → EStateM Unit (Decorated μ) NodeStatus)
    (s : Decorated μ) : Label ι → Decorated μ
  | .executeTick inputs t => finalState ((node tick inputs t).executeTick.run s)
  | .halt haltThrows => finalState ((halted haltThrows).halt.run s)
  | .haltChild haltThrows => finalState ((halted haltThrows).haltChild.run s)
  | .resetStatus => { s with status := .idle }

/-- From a tree that has been created. -/
def decoratorSystem
    (tick : ι → TreeNode Unit (Decorated μ) → EStateM Unit (Decorated μ) NodeStatus)
    (start : μ) : System (Decorated μ) (Label ι) where
  init := fun s => s = ⟨.idle, .idle, start, []⟩
  step := fun s l => some (stepLabel tick s l)

/-- Whenever `tick()` has returned SUCCESS or FAILURE, the child was not
RUNNING. -/
def Finished (s : Decorated μ) : Prop :=
  ∀ r ∈ s.returns, r.1.isCompleted = true → r.2 ≠ .running

/-! ### One tick -/

/-- `tick()` has returned; `left` says whether it completes and leaves its
child RUNNING. -/
def TickLeaves (returns : List (NodeStatus × NodeStatus)) (left : Prop) (status : NodeStatus)
    (s : Decorated μ) : Prop :=
  s.returns = returns ∧ ((status.isCompleted = true ∧ s.childStatus = .running) ↔ left)

/-- `tick()` has thrown. -/
def TickThrows (returns : List (NodeStatus × NodeStatus)) (left : Prop) (_ : Unit)
    (s : Decorated μ) : Prop :=
  s.returns = returns ∧ ¬ left

variable {returns : List (NodeStatus × NodeStatus)} {left : Prop} {s : Decorated μ}

theorem triple_child (t : ChildTick) (hleft : ¬ left) :
    Triple (fun s : Decorated μ => s.returns = returns) (child t false).executeTick
      (fun status s => s.returns = returns ∧ (status ≠ .skipped → s.childStatus = status))
      (TickThrows returns left) := by
  refine triple_executeTick (T := fun status (s : Decorated μ) =>
    s.returns = returns ∧ (status ≠ .skipped → s.childStatus = status)) ?_ fun status =>
      triple_pure fun _ hs => hs
  refine triple_bind (Q := fun _ (s : Decorated μ) => s.returns = returns)
    (triple_modify fun _ hs => hs) fun _ => ?_
  cases t.result with
  | none => exact triple_throw fun _ hs => ⟨hs, hleft⟩
  | some status =>
    refine triple_pure fun s hs => ?_
    split
    · next hskipped => exact ⟨hs, fun hnot => absurd hskipped hnot⟩
    · exact ⟨hs, fun _ => rfl⟩

theorem triple_resetChild (t : ChildTick) {E : Unit → Decorated μ → Prop} :
    Triple (fun s : Decorated μ => s.returns = returns) (child t false).haltChild
      (fun _ s => s.returns = returns ∧ s.childStatus = .idle) E :=
  triple_haltChild (M := fun s => s.returns = returns) (triple_modify fun _ hs => hs.1)
    (fun _ hs => ⟨hs, rfl⟩) (fun _ hs _ => ⟨hs, rfl⟩)

/-- A tick keeps what has been returned finished exactly if it does not
leave its child. -/
theorem finished_executeTick
    {tick : ι → TreeNode Unit (Decorated μ) → EStateM Unit (Decorated μ) NodeStatus}
    {inputs : ι} {t : ChildTick} (hs : Finished s)
    (htick : Triple (· = s) (tick inputs (child t false)) (TickLeaves s.returns left)
      (TickThrows s.returns left)) :
    Finished (stepLabel tick s (.executeTick inputs t)) ↔ ¬ left := by
  refine Triple.finalState (P := (· = s)) (S := fun s' => Finished s' ↔ ¬ left) ?_ rfl
  refine triple_decorator (T := fun _ s' => Finished s' ↔ ¬ left) (fun _ _ _ h => h)
    (fun _ _ _ h => h) ?_
  refine triple_bind (triple_conseq htick (fun _ h => h) (fun _ _ h => h) ?_) fun status => ?_
  · rintro _ s' ⟨hreturns, hleft⟩
    refine ⟨fun _ => hleft, fun _ => ?_⟩
    unfold Finished
    rw [hreturns]
    exact hs
  · refine triple_bind (triple_modify (Q := fun _ s' => Finished s' ↔ ¬ left) ?_) fun _ =>
      triple_pure fun _ h => h
    rintro s' ⟨hreturns, hleft⟩
    unfold Finished
    rw [List.forall_mem_cons, hreturns, ← hleft, not_and]
    exact and_iff_left hs

/-- Nothing else returns. -/
theorem finished_halt
    {tick : ι → TreeNode Unit (Decorated μ) → EStateM Unit (Decorated μ) NodeStatus}
    (hs : Finished s) {l : Label ι} (hl : ∀ inputs t, l ≠ .executeTick inputs t) :
    Finished (stepLabel tick s l) := by
  have hchild : ∀ haltThrows, Triple Finished
      (child (μ := μ) ⟨.idle, none⟩ haltThrows).haltChild (fun _ => Finished)
      (fun _ => Finished) := by
    intro haltThrows
    refine triple_haltChild_ignored (fun _ _ h => h) ?_
    cases haltThrows with
    | true => exact triple_throw fun _ h => h
    | false => exact triple_modify fun _ h => h
  cases l with
  | executeTick inputs t => exact absurd rfl (hl inputs t)
  | resetStatus => exact hs
  | halt haltThrows =>
    exact (halt_decorator (fun _ _ h => h) (hchild haltThrows)).finalState hs
  | haltChild haltThrows =>
    exact (haltChild_decorator (fun _ _ h => h) (hchild haltThrows)).finalState hs

/-- What each tick keeps under a condition, every run under it keeps. -/
theorem finished_of_reach
    {tick : ι → TreeNode Unit (Decorated μ) → EStateM Unit (Decorated μ) NodeStatus} {start : μ}
    {C : Decorated μ → Label ι → Prop}
    (htick : ∀ inputs t s, Triple (· = s) (tick inputs (child t false))
      (TickLeaves s.returns (¬ C s (.executeTick inputs t)))
      (TickThrows s.returns (¬ C s (.executeTick inputs t))))
    (hother : ∀ s l, (∀ inputs t, l ≠ .executeTick inputs t) → C s l)
    (h : (decoratorSystem tick start).Reach C s) :
    Finished s ∧
      ∀ l s', (decoratorSystem tick start).step s l = some s' → (Finished s' ↔ C s l) := by
  have hstep : ∀ s, Finished s → ∀ l, Finished (stepLabel tick s l) ↔ C s l := by
    intro s hs l
    by_cases hl : ∃ inputs t, l = .executeTick inputs t
    · obtain ⟨inputs, t, rfl⟩ := hl
      exact (finished_executeTick hs (htick inputs t s)).trans not_not
    · have hnot : ∀ inputs t, l ≠ .executeTick inputs t := fun inputs t heq => hl ⟨inputs, t, heq⟩
      exact iff_of_true (finished_halt hs hnot) (hother s l hnot)
  have hs : Finished s := by
    refine h.invariant Finished ?_ ?_
    · rintro s rfl r hr
      cases hr
    · intro s l s' hs hl hrun
      cases hrun
      exact (hstep s hs l).mpr hl
  refine ⟨hs, fun l s' hrun => ?_⟩
  cases hrun
  exact hstep s hs l

end Decorated

/-! ## `PathLongerOnApproach` -/

namespace PathLongerOnApproach

variable {K : Type} [Field K] [LinearOrder K] (numbers : Numbers K)

/-- The members of a `PathLongerOnApproach`. -/
structure Members (K : Type) where
  newPath : List (Pose K)
  oldPath : List (Pose K)
  proxLen : K
  lengthFactor : K
  firstTime : Bool

def Members.initial : Members K where
  newPath := []
  oldPath := []
  proxLen := numbers.max
  lengthFactor := numbers.max
  firstTime := true

/-- The ports. -/
structure Ports (K : Type) where
  path : Option (List (Pose K))
  proxLen : Option K
  lengthFactor : Option K

/-- `getInput`, which leaves a member if it fails. -/
def Members.getInput (ports : Ports K) (m : Members K) : Members K :=
  { m with
    newPath := ports.path.getD m.newPath
    proxLen := ports.proxLen.getD m.proxLen
    lengthFactor := ports.lengthFactor.getD m.lengthFactor }

/-- `isPathUpdated`. -/
def isPathUpdated (newPath oldPath : List (Pose K)) : Bool :=
  oldPath.length ≠ 0 && newPath.length ≠ 0 && newPath.length ≠ oldPath.length &&
    oldPath.getLast?.map Pose.position = newPath.getLast?.map Pose.position

/-- `isRobotInGoalProximity`. -/
def isRobotInGoalProximity (oldPath : List (Pose K)) (proxLeng : K) : Bool :=
  calculatePathLength numbers oldPath 0 < proxLeng

/-- `isNewPathLonger`. -/
def isNewPathLonger (newPath oldPath : List (Pose K)) (lengthFactor : K) : Bool :=
  calculatePathLength numbers newPath 0 > lengthFactor * calculatePathLength numbers oldPath 0

/-- The check whether the goal has changed. -/
def Members.checkGoal (m : Members K) : Members K :=
  if m.firstTime = false ∧
      (m.oldPath = [] ∨ m.newPath = [] ∨ m.oldPath.getLast? ≠ m.newPath.getLast?) then
    { m with firstTime := true }
  else m

/-- The condition for ticking the child. -/
def Members.longer (m : Members K) : Bool :=
  isPathUpdated m.newPath m.oldPath && isRobotInGoalProximity numbers m.oldPath m.proxLen &&
    isNewPathLonger numbers m.newPath m.oldPath m.lengthFactor && !m.firstTime

/-- The part of `PathLongerOnApproach::tick()` that ticks the child. -/
def tickChild (child : TreeNode Unit (Decorated (Members K))) :
    EStateM Unit (Decorated (Members K)) NodeStatus := do
  match ← child.executeTick with
  | .skipped => return .skipped
  | .running => return .running
  | .success => do
    update fun m => { m with oldPath := m.newPath }
    child.haltChild
    return .success
  | .failure => do
    update fun m => { m with oldPath := m.newPath }
    child.haltChild
    return .failure
  | .idle => do
    update fun m => { m with oldPath := m.newPath }
    return .failure

/-- `PathLongerOnApproach::tick()`. -/
def tick (ports : Ports K) (child : TreeNode Unit (Decorated (Members K))) :
    EStateM Unit (Decorated (Members K)) NodeStatus := do
  update (·.getInput ports)
  update Members.checkGoal
  modify (cell.setStatus .running)
  if (← get).members.longer numbers then tickChild child
  else do
    update fun m => { m with oldPath := m.newPath, firstTime := false }
    return .success

def system : System (Decorated (Members K)) (Label (Ports K)) :=
  decoratorSystem (tick numbers) (Members.initial numbers)

/-- A tick with a RUNNING child finds the guard true. -/
def Continues (s : Decorated (Members K)) : Label (Ports K) → Prop
  | .executeTick ports _ =>
    s.childStatus = .running → (s.members.getInput ports).checkGoal.longer numbers = true
  | _ => True

instance (s : Decorated (Members K)) : (l : Label (Ports K)) → Decidable (Continues numbers s l)
  | .executeTick _ _ => inferInstanceAs (Decidable (_ → _))
  | .halt _ | .haltChild _ | .resetStatus => isTrue trivial

omit [Field K] [LinearOrder K] in
/-- The part that ticks the child leaves none RUNNING. -/
theorem triple_tickChild (t : ChildTick) {returns : List (NodeStatus × NodeStatus)} {left : Prop}
    (hleft : ¬ left) :
    Triple (fun s : Decorated (Members K) => s.returns = returns) (tickChild (child t false))
      (TickLeaves returns left) (TickThrows returns left) := by
  refine triple_bind (triple_child t hleft) fun status => ?_
  -- a child that has completed is reset
  have hreset : ∀ result : NodeStatus, Triple (fun s : Decorated (Members K) =>
      s.returns = returns ∧ (status ≠ .skipped → s.childStatus = status))
      (do
        update fun m => { m with oldPath := m.newPath }
        (child t false).haltChild
        return result)
      (TickLeaves returns left) (TickThrows returns left) := by
    intro result
    refine triple_bind (Q := fun _ (s : Decorated (Members K)) => s.returns = returns)
      (triple_modify fun _ hs => hs.1) fun _ => ?_
    refine triple_bind (triple_resetChild t) fun _ => triple_pure fun s hs => ⟨hs.1, ?_⟩
    simp [hs.2, hleft]
  cases status with
  | skipped => exact triple_pure fun s hs => ⟨hs.1, by simp [NodeStatus.isCompleted, hleft]⟩
  | running => exact triple_pure fun s hs => ⟨hs.1, by simp [NodeStatus.isCompleted, hleft]⟩
  | success => exact hreset .success
  | failure => exact hreset .failure
  | idle =>
    refine triple_bind (Q := fun _ (s : Decorated (Members K)) =>
      s.returns = returns ∧ s.childStatus = .idle)
      (triple_modify fun _ hs => ⟨hs.1, hs.2 (by simp)⟩) fun _ =>
        triple_pure fun s hs => ⟨hs.1, ?_⟩
    simp [hs.2, hleft]

theorem triple_tick (ports : Ports K) (t : ChildTick) (s : Decorated (Members K)) :
    Triple (· = s) (tick numbers ports (child t false))
      (TickLeaves s.returns (¬ Continues numbers s (.executeTick ports t)))
      (TickThrows s.returns (¬ Continues numbers s (.executeTick ports t))) := by
  refine triple_bind (Q := fun _ s' => s' = { s with members := s.members.getInput ports })
    (triple_modify ?_) fun _ => ?_
  · rintro _ rfl
    rfl
  refine triple_bind
    (Q := fun _ s' => s' = { s with members := (s.members.getInput ports).checkGoal })
    (triple_modify ?_) fun _ => ?_
  · rintro _ rfl
    rfl
  refine triple_bind (Q := fun _ s' => s' =
      { s with members := (s.members.getInput ports).checkGoal, status := .running })
    (triple_modify ?_) fun _ => ?_
  · rintro _ rfl
    rfl
  refine triple_get_bind fun s' hs' => triple_ite (fun hlonger => ?_) (fun hnot => ?_)
  · rw [hs'] at hlonger
    refine triple_pre (triple_tickChild t (not_not.mpr fun _ => hlonger)) ?_
    rintro _ rfl
    rw [hs']
  · -- the guard fails and SUCCESS is returned
    rw [hs'] at hnot
    refine triple_bind (Q := fun _ s'' => s''.returns = s.returns ∧
      s''.childStatus = s.childStatus) (triple_modify ?_) fun _ => triple_pure fun s'' hs => ?_
    · rintro _ rfl
      rw [hs']
      exact ⟨rfl, rfl⟩
    · refine ⟨hs.1, ?_⟩
      rw [hs.2]
      simp [Continues, NodeStatus.isCompleted, hnot]

end PathLongerOnApproach

/-! ## `DistanceController` -/

namespace DistanceController

variable {K : Type} [Field K] [LinearOrder K] (numbers : Numbers K)

/-- The members of a `DistanceController`. -/
structure Members (K : Type) where
  startPose : Pose K
  distance : K
  firstTime : Bool

/-- What the lookups of one tick find: when the activation starts, for the
current pose, and after the child has succeeded. -/
structure Lookups (K : Type) where
  started : Option (Pose K)
  current : Option (Pose K)
  succeeded : Option (Pose K)

/-- `getCurrentPose` into `start_pose_`, which a failed lookup leaves at the
robot's own frame. -/
def Members.getCurrentPose (lookup : Option (Pose K)) (m : Members K) : Members K :=
  { m with startPose := lookup.getD ⟨⟨0, 0, 0⟩, ⟨0, 0, 0, 1⟩⟩ }

/-- The part of `DistanceController::tick()` that ticks the child. -/
def tickChild (lookups : Lookups K) (child : TreeNode Unit (Decorated (Members K))) :
    EStateM Unit (Decorated (Members K)) NodeStatus := do
  update fun m => { m with firstTime := false }
  match ← child.executeTick with
  | .skipped => return .skipped
  | .running => return .running
  | .success => do
    update (·.getCurrentPose lookups.succeeded)
    return if lookups.succeeded.isSome then .success else .failure
  | .failure => return .failure
  | .idle => return .failure

/-- `DistanceController::tick()` from the second lookup. -/
def tickActive (lookups : Lookups K) (child : TreeNode Unit (Decorated (Members K))) :
    EStateM Unit (Decorated (Members K)) NodeStatus := do
  modify (cell.setStatus .running)
  match lookups.current with
  | none => return .failure
  | some currentPose => do
    let s ← get
    let travelled := euclideanDistance numbers s.members.startPose currentPose
    if s.members.firstTime = true ∨ child.status s = .running ∨ travelled ≥ s.members.distance then
      tickChild lookups child
    else return s.status

/-- `DistanceController::tick()`. -/
def tick (lookups : Lookups K) (child : TreeNode Unit (Decorated (Members K))) :
    EStateM Unit (Decorated (Members K)) NodeStatus := do
  if (← get).status.isActive then tickActive numbers lookups child
  else do
    update (·.getCurrentPose lookups.started)
    if lookups.started.isSome then do
      update fun m => { m with firstTime := true }
      tickActive numbers lookups child
    else return .failure

/-- With its port `distance` and the pose that `start_pose_` begins with. -/
def system (distance : K) : System (Decorated (Members K)) (Label (Lookups K)) :=
  decoratorSystem (tick numbers) ⟨⟨⟨0, 0, 0⟩, ⟨0, 0, 0, 1⟩⟩, distance, false⟩

/-- A tick with a RUNNING child finds the pose of the robot. -/
def Continues (s : Decorated (Members K)) : Label (Lookups K) → Prop
  | .executeTick lookups _ =>
    s.childStatus = .running →
      (s.status.isActive = false → lookups.started.isSome = true) ∧ lookups.current.isSome = true
  | _ => True

instance (s : Decorated (Members K)) : (l : Label (Lookups K)) → Decidable (Continues s l)
  | .executeTick _ _ => inferInstanceAs (Decidable (_ → _))
  | .halt _ | .haltChild _ | .resetStatus => isTrue trivial

variable {returns : List (NodeStatus × NodeStatus)} {left : Prop}

omit [LinearOrder K] in
/-- The part that ticks the child leaves none RUNNING. -/
theorem triple_tickChild (lookups : Lookups K) (t : ChildTick) (hleft : ¬ left) :
    Triple (fun s : Decorated (Members K) => s.returns = returns)
      (tickChild lookups (child t false)) (TickLeaves returns left) (TickThrows returns left) := by
  refine triple_bind (Q := fun _ (s : Decorated (Members K)) => s.returns = returns)
    (triple_modify fun _ hs => hs) fun _ => ?_
  refine triple_bind (triple_child t hleft) fun status => ?_
  cases status with
  | skipped => exact triple_pure fun s hs => ⟨hs.1, by simp [NodeStatus.isCompleted, hleft]⟩
  | running => exact triple_pure fun s hs => ⟨hs.1, by simp [NodeStatus.isCompleted, hleft]⟩
  | success =>
    refine triple_bind (Q := fun _ (s : Decorated (Members K)) =>
      s.returns = returns ∧ s.childStatus = .success)
      (triple_modify fun _ hs => ⟨hs.1, hs.2 (by simp)⟩) fun _ =>
        triple_pure fun s hs => ⟨hs.1, ?_⟩
    simp [hs.2, hleft]
  | failure =>
    refine triple_pure fun s hs => ⟨hs.1, ?_⟩
    simp [hs.2, hleft]
  | idle =>
    refine triple_pure fun s hs => ⟨hs.1, ?_⟩
    simp [hs.2, hleft]

/-- From the second lookup on. -/
theorem triple_tickActive (lookups : Lookups K) (t : ChildTick)
    (returns : List (NodeStatus × NodeStatus)) (childStatus : NodeStatus) :
    Triple (fun s : Decorated (Members K) => s.returns = returns ∧ s.childStatus = childStatus)
      (tickActive numbers lookups (child t false))
      (TickLeaves returns (childStatus = .running ∧ lookups.current.isSome = false))
      (TickThrows returns (childStatus = .running ∧ lookups.current.isSome = false)) := by
  refine triple_bind (Q := fun _ (s : Decorated (Members K)) =>
    (s.returns = returns ∧ s.childStatus = childStatus) ∧ s.status = .running)
    (triple_modify fun _ hs => ⟨hs, rfl⟩) fun _ => ?_
  cases hcurrent : lookups.current with
  | none =>
    refine triple_pure fun s hs => ⟨hs.1.1, ?_⟩
    simp [NodeStatus.isCompleted, hs.1.2]
  | some currentPose =>
    refine triple_get_bind fun s hs => triple_ite (fun _ => ?_) (fun _ => triple_pure ?_)
    · refine triple_pre (triple_tickChild lookups t (by simp)) ?_
      rintro _ rfl
      exact hs.1.1
    · rintro _ rfl
      refine ⟨hs.1.1, ?_⟩
      simp [hs.2, NodeStatus.isCompleted]

theorem triple_tick (lookups : Lookups K) (t : ChildTick) (s : Decorated (Members K)) :
    Triple (· = s) (tick numbers lookups (child t false))
      (TickLeaves s.returns (¬ Continues s (.executeTick lookups t)))
      (TickThrows s.returns (¬ Continues s (.executeTick lookups t))) := by
  refine triple_get_bind fun s' hs' => ?_
  rw [hs']
  have hactive := triple_tickActive numbers lookups t s.returns s.childStatus
  refine triple_ite (fun hstatus => ?_) (fun hstatus => ?_)
  · have hleft : (s.childStatus = .running ∧ lookups.current.isSome = false) ↔
        ¬ Continues s (.executeTick lookups t) := by
      simp [Continues, hstatus]
    rw [← hleft]
    refine triple_pre hactive ?_
    rintro _ rfl
    exact ⟨rfl, rfl⟩
  · refine triple_bind (Q := fun _ (s' : Decorated (Members K)) =>
      s'.returns = s.returns ∧ s'.childStatus = s.childStatus) (triple_modify ?_) fun _ => ?_
    · rintro _ rfl
      exact ⟨rfl, rfl⟩
    refine triple_ite (fun hstarted => ?_) (fun hnot => ?_)
    · have hleft : (s.childStatus = .running ∧ lookups.current.isSome = false) ↔
          ¬ Continues s (.executeTick lookups t) := by
        simp [Continues, hstarted]
      rw [← hleft]
      exact triple_bind (Q := fun _ (s' : Decorated (Members K)) =>
        s'.returns = s.returns ∧ s'.childStatus = s.childStatus) (triple_modify fun _ hs => hs)
        fun _ => hactive
    · refine triple_pure fun s' hs => ⟨hs.1, ?_⟩
      simp [Continues, NodeStatus.isCompleted, hs.2, hstatus, hnot]

end DistanceController

/-! ## Runs -/

/-- **Finished decorators.** In every run in which the guard of
`PathLongerOnApproach` holds in each tick that finds the child RUNNING, a
tick that returns SUCCESS or FAILURE leaves no RUNNING child; so it is for
`DistanceController` if each such tick finds the pose of the robot. In every
state of such a run a step keeps this exactly if it meets the condition. -/
theorem child_finished {K : Type} [Field K] [LinearOrder K] (numbers : Numbers K) (distance : K) :
    (∀ s, (PathLongerOnApproach.system numbers).Reach
        (PathLongerOnApproach.Continues numbers) s →
      Finished s ∧ ∀ l s', (PathLongerOnApproach.system numbers).step s l = some s' →
        (Finished s' ↔ PathLongerOnApproach.Continues numbers s l)) ∧
    ∀ s, (DistanceController.system numbers distance).Reach DistanceController.Continues s →
      Finished s ∧ ∀ l s', (DistanceController.system numbers distance).step s l = some s' →
        (Finished s' ↔ DistanceController.Continues s l) := by
  constructor
  · intro s h
    refine finished_of_reach (PathLongerOnApproach.triple_tick numbers) (fun s l hl => ?_) h
    cases l with
    | executeTick ports t => exact absurd rfl (hl ports t)
    | _ => trivial
  · intro s h
    refine finished_of_reach (DistanceController.triple_tick numbers) (fun s l hl => ?_) h
    cases l with
    | executeTick lookups t => exact absurd rfl (hl lookups t)
    | _ => trivial

/-! ### On an axis -/

/-- Right on the axes. -/
def axisNumbers : Numbers ℚ where
  hypot2 x y := |x| + |y|
  hypot3 x y z := |x| + |y| + |z|
  max := (2 ^ 53 - 1) * 2 ^ 971
  toFloat x := x
  fromSeconds x := x

/-- A pose on the first axis. -/
def onAxis (x : ℚ) : Pose ℚ := ⟨⟨x, 0, 0⟩, ⟨0, 0, 0, 1⟩⟩

/-- A path, with the default values of the other ports. -/
def approach (path : List ℚ) : PathLongerOnApproach.Ports ℚ :=
  ⟨some (path.map onAxis), some 3, some 2⟩

def pathStart : Decorated (PathLongerOnApproach.Members ℚ) :=
  ⟨.idle, .idle, .initial axisNumbers, []⟩

def distanceStart : Decorated (DistanceController.Members ℚ) :=
  ⟨.idle, .idle, ⟨onAxis 0, 1, false⟩, []⟩

/-- The path of 1 m becomes one of 7 m and stays so until the child
completes. -/
def staysLonger : List (Label (PathLongerOnApproach.Ports ℚ)) :=
  [.executeTick (approach [0, 1]) ⟨.idle, none⟩,
    .executeTick (approach [0, -3, 1]) ⟨.running, some .running⟩,
    .executeTick (approach [0, -3, 1]) ⟨.running, some .success⟩]

/-- The pose is known until the child fails. -/
def poseKnown : List (Label (DistanceController.Lookups ℚ)) :=
  [.executeTick ⟨some (onAxis 0), some (onAxis 0), none⟩ ⟨.running, some .running⟩,
    .executeTick ⟨none, some (onAxis 0), none⟩ ⟨.running, some .failure⟩]

/-- Both runs keep to the conditions. -/
theorem child_finished_axis :
    (∃ s : Decorated (PathLongerOnApproach.Members ℚ), s.returns.length = 3 ∧ Finished s) ∧
      ∃ s : Decorated (DistanceController.Members ℚ), s.returns.length = 2 ∧ Finished s := by
  obtain ⟨s, hreach, hs⟩ := System.exists_reach_of_runWhile
    (S := PathLongerOnApproach.system axisNumbers) (PathLongerOnApproach.Continues axisNumbers)
    staysLonger (fun s => s.returns.length = 3) (s := pathStart) rfl (by decide +kernel)
  obtain ⟨s', hreach', hs'⟩ := System.exists_reach_of_runWhile
    (S := DistanceController.system axisNumbers 1) DistanceController.Continues
    poseKnown (fun s => s.returns.length = 2) (s := distanceStart) rfl (by decide +kernel)
  have hfinished := child_finished axisNumbers 1
  exact ⟨⟨s, of_decide_eq_true hs, (hfinished.1 s hreach).1⟩,
    ⟨s', of_decide_eq_true hs', (hfinished.2 s' hreach').1⟩⟩

/-! ### A child that is left -/

/-- The path of 1 m becomes one of 7 m and the child starts; then it is 1 m
again. -/
def shortAgain : List (Label (PathLongerOnApproach.Ports ℚ)) :=
  [.executeTick (approach [0, 1]) ⟨.idle, none⟩,
    .executeTick (approach [0, -3, 1]) ⟨.running, some .running⟩,
    .executeTick (approach [0, 1]) ⟨.idle, none⟩]

/-- The pose is known, the child starts, and the pose is lost. -/
def poseLost : List (Label (DistanceController.Lookups ℚ)) :=
  [.executeTick ⟨some (onAxis 0), some (onAxis 0), none⟩ ⟨.running, some .running⟩,
    .executeTick ⟨none, none, none⟩ ⟨.idle, none⟩]

/-- Both decorators complete with a RUNNING child. -/
theorem child_left_running :
    (¬ ∀ s, (PathLongerOnApproach.system axisNumbers).Reach System.anyStep s → Finished s) ∧
      ¬ ∀ s, (DistanceController.system axisNumbers 1).Reach System.anyStep s → Finished s := by
  constructor
  · intro hclaim
    obtain ⟨s, hreach, hs⟩ := System.exists_reach_of_runWhile
      (S := PathLongerOnApproach.system axisNumbers) System.anyStep shortAgain
      (fun s => (NodeStatus.success, NodeStatus.running) ∈ s.returns) (s := pathStart) rfl
      (by decide +kernel)
    exact hclaim s hreach _ (of_decide_eq_true hs) rfl rfl
  · intro hclaim
    obtain ⟨s, hreach, hs⟩ := System.exists_reach_of_runWhile
      (S := DistanceController.system axisNumbers 1) System.anyStep poseLost
      (fun s => (NodeStatus.failure, NodeStatus.running) ∈ s.returns) (s := distanceStart) rfl
      (by decide +kernel)
    exact hclaim s hreach _ (of_decide_eq_true hs) rfl rfl

end Nav3D.BehaviorTree.ChildLeftRunning

/-
Nav3D.Planner.ComputePlan — the execute callback of the planner server,
`computePlan()` (`planner_server.cpp`).

The callback is cut where it reads or calls the action server: there the
other parties come in. What tf answers is a function of the time at which it
is asked (`TransformBuffer`); what a planner makes of a request, and that a
step may throw, are arguments of the step. `goal->goal` on a null pointer is
undefined and ends in the place `crashed`. `calls` and `thrown` are not
members: they record the paths that planners have returned, and the
exceptions. `planning_time` and what is published for visualization are left
out.
-/
import Nav3D.BehaviorTree.ConvertFromString
import Nav3D.BtNavigator.DefaultTree
import Nav3D.Planner.PathValidity
import Nav3D.Util.CallbackProgram

namespace Nav3D.Planner

open Nav3D.Ros Nav3D.Util
open Nav3D.BehaviorTree (ErrorResult)
open Nav3D.BehaviorTree.ConvertFromString (PoseStamped Path)
open Nav3D.BtNavigator (ComputePathGoal ComputePathResult)

/-! ## Exceptions and results -/

/-- The exceptions that `computePlan()` has a handler for, in the order of
the handlers. -/
inductive PlanException where
  | invalidPlanner
  | plannerTFError
  | startOutsideMapBounds
  | goalOutsideMapBounds
  | startOccupied
  | goalOccupied
  | plannerTimedOut
  | noValidPathCouldBeFound
  /-- Any other `std::exception`. -/
  | exception
  deriving DecidableEq

/-- `result->error_code` in the handlers. -/
def PlanException.errorCode : PlanException → UInt16
  | .invalidPlanner => 201
  | .plannerTFError => 202
  | .startOutsideMapBounds => 203
  | .goalOutsideMapBounds => 204
  | .startOccupied => 205
  | .goalOccupied => 206
  | .plannerTimedOut => 207
  | .noValidPathCouldBeFound => 208
  | .exception => 200

/-- `result->error_msg` in the handlers. -/
def PlanException.errorMsg : PlanException → String → String
  | .exception, what => "Planning exception: " ++ what
  | _, what => what

/-- What a handler makes of an exception and its `what()`. -/
def planError (e : PlanException) (what : String) : ErrorResult := ⟨e.errorCode, e.errorMsg what⟩

section Plan

variable {D : Type}

instance instInhabitedPath : Inhabited (Path D) := ⟨⟨⟨0, ""⟩, []⟩⟩

instance instInhabitedComputePathResult : Inhabited (ComputePathResult (Path D)) :=
  ⟨⟨default, default⟩⟩

/-- The result of the handler, with the path that is in it. -/
def handlerResult (e : PlanException) (what : String) (path : Path D) :
    ComputePathResult (Path D) :=
  ⟨path, planError e what⟩

/-! ## Start and goal -/

/-- `geometry_msgs` messages of a request. -/
abbrev PlanGoal (D : Type) : Type := ComputePathGoal (PoseStamped D)

/-- What `tf_` answers in the global frame, by the time of the question. -/
structure TransformBuffer (D : Type) where
  transform : Nat → PoseStamped D → Option (PoseStamped D)
  /-- `getCurrentPose`. -/
  currentPose : Nat → Option (PoseStamped D)

/-- The configuration of the server. -/
structure PlanConfig (D : Type) where
  planners : PlannerServer
  globalFrame : String
  tf : TransformBuffer D

/-- The test before a pose is transformed. -/
def foreign (globalFrame : String) (pose : PoseStamped D) : Bool :=
  pose.header.frameId != "" && pose.header.frameId != globalFrame

/-- One of the two transforms, asked at time `t`. -/
def toGlobalFrame (config : PlanConfig D) (t : Nat) (pose : PoseStamped D) (failure : String) :
    Except (PlanException × String) (PoseStamped D) :=
  if foreign config.globalFrame pose then
    match config.tf.transform t pose with
    | none => .error (.plannerTFError, failure)
    | some transformed => .ok transformed
  else .ok pose

/-- The start as it is asked for: the pose of the request, or of the robot. -/
def requestedStart (config : PlanConfig D) (t : Nat) (goal : PlanGoal D) :
    Except (PlanException × String) (PoseStamped D) :=
  if goal.useStart then .ok goal.start
  else
    match config.tf.currentPose t with
    | none => .error (.plannerTFError, "Unable to get current robot pose")
    | some pose => .ok pose

/-- Start and goal in the global frame, with the times of the three
questions. -/
def locate (config : PlanConfig D) (t t' t'' : Nat) (goal : PlanGoal D) :
    Except (PlanException × String) (PoseStamped D × PoseStamped D) := do
  let start ← requestedStart config t goal
  let start ← toGlobalFrame config t' start "Unable to transform start pose to global frame"
  let goalPose ← toGlobalFrame config t'' goal.goal "Unable to transform goal pose to global frame"
  return (start, goalPose)

/-! ## `computePlan()` -/

/-- Where the worker is in `computePlan()`. -/
inductive PlanPc (D : Type) where
  /-- Not in the callback. -/
  | idle
  /-- Before `get_current_goal`. -/
  | start
  /-- In `isServerInactive`, `isCancelRequested` and
  `getPreemptedGoalIfRequested`. -/
  | testActive (goal : Option (PlanGoal D))
  | testCancel (goal : Option (PlanGoal D))
  | testPreempt (goal : Option (PlanGoal D))
  | accepting
  /-- Before the goal is read. -/
  | reading (goal : Option (PlanGoal D))
  | crashed
  /-- Before `cancel_checker()`, in the order of its calls. -/
  | checkStart (goal : PlanGoal D)
  | locating (goal : PlanGoal D)
  | checkPlan (goal : PlanGoal D) (start goalPose : PoseStamped D)
  /-- Before `getPlannerOrThrow` and `createPlan`. -/
  | planning (goal : PlanGoal D) (start goalPose : PoseStamped D)
  | checkResult (path : Path D)
  | publishing (path : Path D)
  | succeeding (path : Path D)
  /-- In a handler, before `terminate_current`. -/
  | failing (result : ComputePathResult (Path D))
  /-- Before `terminate_all`. -/
  | ending
  | returning

/-- A path that a planner has returned: for which request and which goal of
the action server, which planner, and from where to where. -/
structure PlanCall (D : Type) where
  request : PlanGoal D
  executing : Option GoalId
  planner : GlobalPlanner
  start : PoseStamped D
  goalPose : PoseStamped D
  path : Path D

/-- What the `try` block is doing when an exception leaves it. -/
inductive PlanStage (D : Type) where
  /-- The lookups of the start and the goal. -/
  | locating (request : PlanGoal D)
  /-- `getPlannerOrThrow` and `createPlan`. -/
  | planning (request : PlanGoal D) (start goalPose : PoseStamped D)
  /-- The test of the path that the planner has returned. -/
  | checking (path : Path D)
  /-- `publishPlan`. -/
  | publishing (path : Path D)

/-- Where the worker is in a stage. -/
def PlanStage.pc : PlanStage D → PlanPc D
  | .locating request => .locating request
  | .planning request start goalPose => .planning request start goalPose
  | .checking path => .checkResult path
  | .publishing path => .publishing path

/-- `result->path` in a stage: it is filled in before it is published. -/
def PlanStage.path : PlanStage D → Path D
  | .publishing path => path
  | _ => default

/-- An exception: while which goal of the action server was the current one,
in which stage, and its `what()`. -/
structure PlanThrow (D : Type) where
  executing : Option GoalId
  stage : PlanStage D
  exception : PlanException
  what : String

/-- What its handler makes of it. -/
def PlanThrow.result (t : PlanThrow D) : ComputePathResult (Path D) :=
  handlerResult t.exception t.what t.stage.path

structure PlanMembers (D : Type) where
  pc : PlanPc D
  calls : List (PlanCall D)
  thrown : List (PlanThrow D)

/-- An exception is caught. -/
def PlanMembers.throwing (x : PlanMembers D) (t : PlanThrow D) : PlanMembers D :=
  { x with pc := .failing t.result, thrown := x.thrown ++ [t] }

/-- A step of the callback. -/
inductive PlanLabel (D : Type) where
  | getCurrentGoal
  | testActive
  | testCancel
  | testPreempt
  | acceptPendingGoal
  | readGoal
  | cancelCheck
  | locate (t t' t'' : Nat)
  /-- A lookup throws what `transformPoseInTargetFrame` does not catch. -/
  | throwLocating (what : String)
  /-- `createPlan` returns or throws. -/
  | createPlan (outcome : Except (PlanException × String) (Path D))
  | publish (thrown : Option String)
  | succeededCurrent
  | terminateCurrent
  | terminateAll

/-- Where `locate` leads. -/
def afterLocate (executing : Option GoalId) (goal : PlanGoal D)
    (located : Except (PlanException × String) (PoseStamped D × PoseStamped D))
    (x : PlanMembers D) : PlanMembers D :=
  match located with
  | .ok (start, goalPose) => { x with pc := .checkPlan goal start goalPose }
  | .error (e, what) => x.throwing ⟨executing, .locating goal, e, what⟩

/-- `getPlannerOrThrow` and `createPlan`. -/
def afterPlan (config : PlanConfig D) (executing : Option GoalId) (goal : PlanGoal D)
    (start goalPose : PoseStamped D) (outcome : Except (PlanException × String) (Path D))
    (x : PlanMembers D) : PlanMembers D :=
  match config.planners.getPlannerOrThrow goal.plannerId with
  | .error what => x.throwing ⟨executing, .planning goal start goalPose, .invalidPlanner, what⟩
  | .ok planner =>
    match outcome with
    | .error (e, what) => x.throwing ⟨executing, .planning goal start goalPose, e, what⟩
    | .ok path =>
      { x with
        pc := .checkResult path
        calls := x.calls ++ [⟨goal, executing, planner, start, goalPose, path⟩] }

/-- The test of the path, after the last check for a cancellation. -/
def afterCheck (executing : Option GoalId) (path : Path D) (x : PlanMembers D) : PlanMembers D :=
  if path.poses.isEmpty then
    x.throwing
      ⟨executing, .checking path, .noValidPathCouldBeFound, "Planner returned an empty path"⟩
  else { x with pc := .publishing path }

/-- Where a step leads, in a state of the action server. -/
def planNext (config : PlanConfig D)
    (s : ActionServerState (PlanGoal D) (ComputePathResult (Path D))) (x : PlanMembers D)
    (l : PlanLabel D) : Option (PlanMembers D × Option (Call (ComputePathResult (Path D)))) :=
  let move (pc : PlanPc D) := some ({ x with pc := pc }, none)
  match l, x.pc with
  | .getCurrentGoal, .start => move (.testActive s.server.getCurrentGoal)
  | .testActive, .testActive goal =>
    move (if s.server.isServerActive then .testCancel goal else .returning)
  | .testCancel, .testCancel goal =>
    move (if s.server.isCancelRequested then .ending else .testPreempt goal)
  | .testPreempt, .testPreempt goal =>
    move (if s.server.isPreemptRequested then .accepting else .reading goal)
  | .acceptPendingGoal, .accepting =>
    some ({ x with pc := .reading s.server.acceptPendingGoal.2 }, some .acceptPendingGoal)
  | .readGoal, .reading none => move .crashed
  | .readGoal, .reading (some goal) => move (.checkStart goal)
  | .cancelCheck, .checkStart goal =>
    move (if s.server.isCancelRequested then .ending else .locating goal)
  | .locate t t' t'', .locating goal =>
    some (afterLocate s.server.currentHandle goal (locate config t t' t'' goal) x, none)
  | .throwLocating what, .locating goal =>
    some (x.throwing ⟨s.server.currentHandle, .locating goal, .exception, what⟩, none)
  | .cancelCheck, .checkPlan goal start goalPose =>
    move (if s.server.isCancelRequested then .ending else .planning goal start goalPose)
  | .createPlan outcome, .planning goal start goalPose =>
    some (afterPlan config s.server.currentHandle goal start goalPose outcome x, none)
  | .cancelCheck, .checkResult path =>
    if s.server.isCancelRequested then move .ending
    else some (afterCheck s.server.currentHandle path x, none)
  | .publish none, .publishing path => move (.succeeding path)
  | .publish (some what), .publishing path =>
    some (x.throwing ⟨s.server.currentHandle, .publishing path, .exception, what⟩, none)
  | .succeededCurrent, .succeeding path =>
    some ({ x with pc := .returning }, some (.succeededCurrent ⟨path, ⟨0, ""⟩⟩))
  | .terminateCurrent, .failing result =>
    some ({ x with pc := .returning }, some (.terminateCurrent result))
  | .terminateAll, .ending =>
    some ({ x with pc := .returning }, some (.terminateAll SimpleActionServer.emptyResult))
  | _, _ => none

def PlanPc.isIdle : PlanPc D → Bool
  | .idle => true
  | _ => false

def PlanPc.isReturning : PlanPc D → Bool
  | .returning => true
  | _ => false

/-! ## The moves -/

/-- What a stage may throw. A planner may throw anything, and so may a lookup
that is not caught. -/
def PlanStage.Throws (config : PlanConfig D) : PlanStage D → PlanException → String → Prop
  | .locating request, e, what =>
    (∃ t t' t'', locate config t t' t'' request = .error (e, what)) ∨ e = .exception
  | .planning request _ _, e, what =>
    (config.planners.getPlannerOrThrow request.plannerId = .error what ∧ e = .invalidPlanner) ∨
      ∃ planner, config.planners.getPlannerOrThrow request.plannerId = .ok planner
  | .checking path, e, what =>
    path.poses = [] ∧ e = .noValidPathCouldBeFound ∧ what = "Planner returned an empty path"
  | .publishing _, e, _ => e = .exception

/-- The moves of the callback: where it was, where it is, and the call that
it makes. -/
inductive PlanMoves (config : PlanConfig D)
    (s : ActionServerState (PlanGoal D) (ComputePathResult (Path D))) (x : PlanMembers D) :
    PlanMembers D → Option (Call (ComputePathResult (Path D))) → Prop
  | got : x.pc = .start →
      PlanMoves config s x { x with pc := .testActive s.server.getCurrentGoal } none
  | inactive {goal} : x.pc = .testActive goal → s.server.serverActive = false →
      PlanMoves config s x { x with pc := .returning } none
  | active {goal} : x.pc = .testActive goal → s.server.serverActive = true →
      PlanMoves config s x { x with pc := .testCancel goal } none
  | notCanceled {goal} : x.pc = .testCancel goal →
      PlanMoves config s x { x with pc := .testPreempt goal } none
  | preempted {goal} : x.pc = .testPreempt goal → s.server.preemptRequested = true →
      PlanMoves config s x { x with pc := .accepting } none
  | kept {goal} : x.pc = .testPreempt goal →
      PlanMoves config s x { x with pc := .reading goal } none
  | accepted : x.pc = .accepting →
      PlanMoves config s x { x with pc := .reading s.server.acceptPendingGoal.2 }
        (some .acceptPendingGoal)
  | crashes : x.pc = .reading none → PlanMoves config s x { x with pc := .crashed } none
  | reads {goal} : x.pc = .reading (some goal) →
      PlanMoves config s x { x with pc := .checkStart goal } none
  | started {goal} : x.pc = .checkStart goal →
      PlanMoves config s x { x with pc := .locating goal } none
  | located {goal start goalPose t t' t''} : x.pc = .locating goal →
      locate config t t' t'' goal = .ok (start, goalPose) →
      PlanMoves config s x { x with pc := .checkPlan goal start goalPose } none
  | checked {goal start goalPose} : x.pc = .checkPlan goal start goalPose →
      PlanMoves config s x { x with pc := .planning goal start goalPose } none
  | planned {goal start goalPose planner path} : x.pc = .planning goal start goalPose →
      config.planners.getPlannerOrThrow goal.plannerId = .ok planner →
      PlanMoves config s x
        { x with
          pc := .checkResult path
          calls := x.calls ++ [⟨goal, s.server.currentHandle, planner, start, goalPose, path⟩] }
        none
  | nonEmpty {path} : x.pc = .checkResult path → path.poses ≠ [] →
      PlanMoves config s x { x with pc := .publishing path } none
  | published {path} : x.pc = .publishing path →
      PlanMoves config s x { x with pc := .succeeding path } none
  | threw (stage : PlanStage D) {e what} : x.pc = stage.pc → stage.Throws config e what →
      PlanMoves config s x (x.throwing ⟨s.server.currentHandle, stage, e, what⟩) none
  | canceled : (∃ goal, x.pc = .testCancel goal) ∨ (∃ goal, x.pc = .checkStart goal) ∨
        (∃ goal start goalPose, x.pc = .checkPlan goal start goalPose) ∨
        (∃ path, x.pc = .checkResult path) →
      PlanMoves config s x { x with pc := .ending } none
  | succeeded {path} : x.pc = .succeeding path →
      PlanMoves config s x { x with pc := .returning } (some (.succeededCurrent ⟨path, ⟨0, ""⟩⟩))
  | failed {result} : x.pc = .failing result →
      PlanMoves config s x { x with pc := .returning } (some (.terminateCurrent result))
  | ended : x.pc = .ending →
      PlanMoves config s x { x with pc := .returning }
        (some (.terminateAll SimpleActionServer.emptyResult))

variable {config : PlanConfig D}
  {s : ActionServerState (PlanGoal D) (ComputePathResult (Path D))} {x x' : PlanMembers D}
  {c : Option (Call (ComputePathResult (Path D)))} {l : PlanLabel D}

/-- `createPlan` is reached with a registered planner, or throws. -/
theorem planMoves_afterPlan {goal : PlanGoal D} {start goalPose : PoseStamped D}
    (hpc : x.pc = .planning goal start goalPose)
    (outcome : Except (PlanException × String) (Path D)) :
    PlanMoves config s x
      (afterPlan config s.server.currentHandle goal start goalPose outcome x) none := by
  unfold afterPlan
  cases hplanner : config.planners.getPlannerOrThrow goal.plannerId with
  | error what => exact .threw (.planning goal start goalPose) hpc (.inl ⟨hplanner, rfl⟩)
  | ok planner =>
    cases outcome with
    | error thrown => exact .threw (.planning goal start goalPose) hpc (.inr ⟨planner, hplanner⟩)
    | ok path => exact .planned hpc hplanner

/-- **Move inversion.** -/
theorem planMoves_of_next (h : planNext config s x l = some (x', c)) :
    PlanMoves config s x x' c := by
  unfold planNext at h
  dsimp only at h
  split at h
  · next hpc => cases h; exact .got hpc
  · next hpc =>
    cases h
    cases hact : s.server.serverActive with
    | true => simpa [SimpleActionServer.isServerActive, hact] using PlanMoves.active hpc hact
    | false => simpa [SimpleActionServer.isServerActive, hact] using PlanMoves.inactive hpc hact
  · next hpc =>
    cases h
    split
    · exact .canceled (.inl ⟨_, hpc⟩)
    · exact .notCanceled hpc
  · next hpc =>
    cases h
    split
    · next hpre => exact .preempted hpc hpre
    · exact .kept hpc
  · next hpc => cases h; exact .accepted hpc
  · next hpc => cases h; exact .crashes hpc
  · next hpc => cases h; exact .reads hpc
  · next hpc =>
    cases h
    split
    · exact .canceled (.inr (.inl ⟨_, hpc⟩))
    · exact .started hpc
  · next t t' t'' goal hpc =>
    cases h
    cases hlocate : locate config t t' t'' goal with
    | ok poses => exact .located hpc hlocate
    | error thrown => exact .threw (.locating goal) hpc (.inl ⟨t, t', t'', hlocate⟩)
  · next goal hpc => cases h; exact .threw (.locating goal) hpc (.inr rfl)
  · next hpc =>
    cases h
    split
    · exact .canceled (.inr (.inr (.inl ⟨_, _, _, hpc⟩)))
    · exact .checked hpc
  · next hpc => cases h; exact planMoves_afterPlan hpc _
  · next path hpc =>
    split at h
    · cases h
      exact .canceled (.inr (.inr (.inr ⟨_, hpc⟩)))
    · cases h
      unfold afterCheck
      split
      · next hempty =>
        exact .threw (.checking path) hpc ⟨List.isEmpty_iff.mp hempty, rfl, rfl⟩
      · next hempty => exact .nonEmpty hpc fun hnil => hempty (by rw [hnil]; rfl)
  · next hpc => cases h; exact .published hpc
  · next path hpc => cases h; exact .threw (.publishing path) hpc rfl
  · next hpc => cases h; exact .succeeded hpc
  · next hpc => cases h; exact .failed hpc
  · next hpc => cases h; exact .ended hpc
  · cases h

/-- The callback moves inside the callback. -/
theorem PlanMoves.notIdle (h : PlanMoves config s x x' c) :
    x.pc.isIdle = false ∧ x'.pc.isIdle = false := by
  cases h with
  | threw stage hpc _ =>
    rw [hpc]
    cases stage <;> exact ⟨rfl, rfl⟩
  | canceled hpc =>
    rcases hpc with ⟨_, hpc⟩ | ⟨_, hpc⟩ | ⟨_, _, _, hpc⟩ | ⟨_, hpc⟩ <;> rw [hpc] <;> exact ⟨rfl, rfl⟩
  | got hpc => rw [hpc]; exact ⟨rfl, rfl⟩
  | inactive hpc _ => rw [hpc]; exact ⟨rfl, rfl⟩
  | active hpc _ => rw [hpc]; exact ⟨rfl, rfl⟩
  | notCanceled hpc => rw [hpc]; exact ⟨rfl, rfl⟩
  | preempted hpc _ => rw [hpc]; exact ⟨rfl, rfl⟩
  | kept hpc => rw [hpc]; exact ⟨rfl, rfl⟩
  | accepted hpc => rw [hpc]; exact ⟨rfl, rfl⟩
  | crashes hpc => rw [hpc]; exact ⟨rfl, rfl⟩
  | reads hpc => rw [hpc]; exact ⟨rfl, rfl⟩
  | started hpc => rw [hpc]; exact ⟨rfl, rfl⟩
  | located hpc _ => rw [hpc]; exact ⟨rfl, rfl⟩
  | checked hpc => rw [hpc]; exact ⟨rfl, rfl⟩
  | planned hpc _ => rw [hpc]; exact ⟨rfl, rfl⟩
  | nonEmpty hpc _ => rw [hpc]; exact ⟨rfl, rfl⟩
  | published hpc => rw [hpc]; exact ⟨rfl, rfl⟩
  | succeeded hpc => rw [hpc]; exact ⟨rfl, rfl⟩
  | failed hpc => rw [hpc]; exact ⟨rfl, rfl⟩
  | ended hpc => rw [hpc]; exact ⟨rfl, rfl⟩

/-! ## The program -/

theorem PlanPc.not_idle_of_returning {pc : PlanPc D} (h : pc.isReturning = true) :
    pc.isIdle = false := by
  cases pc with
  | returning => rfl
  | _ => cases h

/-- `computePlan()`. -/
def computePlan (config : PlanConfig D) :
    CallbackProgram (PlanGoal D) (ComputePathResult (Path D)) (PlanMembers D) (PlanLabel D) where
  initial := ⟨.idle, [], []⟩
  idle := fun x => x.pc.isIdle
  enter := fun x => { x with pc := .start }
  leave := fun x => { x with pc := .idle }
  returns := fun x => x.pc.isReturning
  throws := fun _ => false
  next := planNext config
  idle_initial := rfl
  idle_enter := fun _ => rfl
  idle_leave := fun _ => rfl
  idle_returns := fun _ h => PlanPc.not_idle_of_returning h
  idle_throws := nofun
  idle_next := fun _ _ _ _ _ h => (planMoves_of_next h).notIdle

end Plan

end Nav3D.Planner

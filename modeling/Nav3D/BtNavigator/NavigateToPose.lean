/-
Nav3D.BtNavigator.NavigateToPose — `NavigateToPoseNavigator` under its
`BtActionServer` and `SimpleActionServer` (`navigate_to_pose.cpp`,
`bt_action_server_impl.hpp`, `behavior_tree_engine.cpp`).

A state is a state of the action server with its parties
(`Nav3D.Util.ActionServerSystem`) and a state of the navigator. The worker
that is in the execute callback runs `executeCallback()`, which is cut
where it reads or changes the action server: there the other parties can
come in between. What the tree returns, what the muxer says and what
becomes of the XML file are part of the label; the k-th lookup in TF
answers `tf k`. A tick of the tree may change the recovery count and
nothing else that the navigator reads back; feedback, the path and logging
are left out.

`installs` records, newest first, which goal's pose was put on the
blackboard by which lookup.
-/
import Nav3D.BehaviorTree.BtActionServer
import Nav3D.Ros.Messages
import Nav3D.Util.ActionServerSystem

namespace Nav3D.BtNavigator

open Nav3D.Ros Nav3D.Util Nav3D.BehaviorTree
open BT (NodeStatus)

/-! ## The navigator -/

/-- `geometry_msgs/PoseStamped`, without the stamp. -/
abbrev PoseStamped (P : Type) : Type := Msg.PoseStamped Unit P

/-- `nav3d_msgs/NavigateToPose` goal. -/
structure NavigateToPoseGoal (P : Type) where
  pose : PoseStamped P
  behaviorTree : String
  deriving DecidableEq

/-- What TF answers in one `initializeGoalPose`: whether the robot's pose is
available, and a pose in the global frame. -/
structure Tf (P : Type) where
  robotPose : Bool
  transform : PoseStamped P → Option (PoseStamped P)

/-- `feedback_utils_.global_frame` and the parameters of the server. -/
structure NavigatorParams extends BtActionServerParams where
  globalFrame : String

/-- Where the worker is in `executeCallback()`. A value `r` is what the
last tick of the tree returned. -/
inductive ExecutePc (P : Type) where
  /-- Not in the callback. -/
  | idle
  /-- Before `on_goal_received_callback_`. -/
  | received
  /-- The goal has not been taken; `terminate_current` is next. -/
  | refused
  /-- Before the test of the `while` condition in `run()`. -/
  | loop
  /-- Before `tickOnce()`. -/
  | ticking
  /-- At the start of `on_loop`. -/
  | onLoop (r : NodeStatus)
  /-- A preemption has been seen; `get_pending_goal` is next. -/
  | preempt (r : NodeStatus)
  /-- In `onPreempt`, before `acceptPendingGoal`. -/
  | accepting (r : NodeStatus)
  /-- Before `initializeGoalPose` on what `acceptPendingGoal` returned. -/
  | initializing (r : NodeStatus) (goal : Option (GoalId × NavigateToPoseGoal P))
  /-- Before `terminatePendingGoal`. -/
  | rejecting (r : NodeStatus)
  /-- At the end of `on_loop`. -/
  | loopEnd (r : NodeStatus)
  /-- `run()` has returned. -/
  | completing (rc : BtStatus)
  /-- `on_completion_callback_` has returned. -/
  | reporting (rc : BtStatus) (result : ErrorResult)
  /-- At the end of the callback. -/
  | returning
  deriving DecidableEq

/-- The navigator and its servers. -/
structure NavigateToPose (P : Type) where
  server : ActionServerState (NavigateToPoseGoal P) ErrorResult
  bt : BtActionServer
  pc : ExecutePc P
  /-- The blackboard entry `goal`. -/
  goal : Option (PoseStamped P)
  /-- The blackboard entry `number_recoveries`. -/
  numberRecoveries : Int
  installs : List (GoalId × Nat)

variable {P : Type}

/-- The navigator after `configure`. -/
def NavigateToPose.initial : NavigateToPose P where
  server := initialState
  bt := .initial
  pc := .idle
  goal := none
  numberRecoveries := 0
  installs := []

/-- The text of the error of a goal pose that cannot be transformed. -/
def transformErrorMsg (params : NavigatorParams) (pose : PoseStamped P) : String :=
  "Failed to transform a goal pose provided with frame_id '" ++ pose.header.frameId ++
    "' to the global frame '" ++ params.globalFrame ++ "'."

/-- `initializeGoalPose(goal)`; none is the dereference of a null goal. -/
def initializeGoalPose (params : NavigatorParams) (tf : Tf P)
    (goal : Option (NavigateToPoseGoal P)) (s : NavigateToPose P) :
    Option (Bool × NavigateToPose P) :=
  if tf.robotPose then
    match goal with
    | none => none
    | some goal =>
      match tf.transform goal.pose with
      | some pose => some (true, { s with numberRecoveries := 0, goal := some pose })
      | none =>
        some (false, { s with
          bt := s.bt.setInternalError tfError (transformErrorMsg params goal.pose) })
  else
    some (false, { s with
      bt := s.bt.setInternalError tfError "Initial robot pose is not available." })

/-- `goalReceived(goal)`. -/
def goalReceived (params : NavigatorParams) (tf : Tf P) (load : XmlLoad)
    (goal : NavigateToPoseGoal P) (s : NavigateToPose P) : Option (Bool × NavigateToPose P) :=
  let (loaded, bt) := s.bt.loadBehaviorTree params.toBtActionServerParams load goal.behaviorTree
  if loaded then initializeGoalPose params tf (some goal) { s with bt := bt }
  else
    some (false, { s with
      bt := bt.setInternalError failedToLoadBehaviorTree
        ("Error loading XML file: " ++ goal.behaviorTree ++ ". Navigation canceled.") })

/-- The test in `onPreempt`: the goal asks for the tree that is loaded. -/
def samePreemptTree (params : NavigatorParams) (s : NavigateToPose P)
    (goal : NavigateToPoseGoal P) : Bool :=
  goal.behaviorTree == s.bt.currentBtXmlFilename ||
    (goal.behaviorTree.isEmpty && s.bt.currentBtXmlFilename == params.defaultBtXmlFilename)

/-- `goalCompleted(result)`. -/
def goalCompleted (s : NavigateToPose P) (result : ErrorResult) : ErrorResult :=
  if result.errorCode = 0 then (s.bt.populateInternalError result).1 else result

/-! ## Steps -/

/-- A step of the navigator's worker, or of another party. -/
inductive NavigatorLabel (P : Type) where
  /-- A step of the action server that is not a call of the callback. -/
  | server (l : Label (NavigateToPoseGoal P) ErrorResult)
  /-- `on_goal_received_callback_`; `k` is the number of the TF lookup. -/
  | goalReceived (navigating : Bool) (load : XmlLoad) (k : Nat)
  | refuse (codes : List (Int × Option String))
  | testLoop
  /-- `tickOnce()`, which returns a status or throws. -/
  | tick (outcome : Option NodeStatus) (numberRecoveries : Int)
  | testPreempt
  | getPendingGoal
  | acceptPendingGoal
  | initializeGoalPose (k : Nat)
  | terminatePendingGoal
  /-- `on_loop_callback_` and the sleep. -/
  | loopEnd
  | complete (codes : List (Int × Option String))
  | report

/-- `is_canceling`. -/
def isCanceling (s : NavigateToPose P) : Bool :=
  !s.server.server.isServerActive || s.server.server.isCancelRequested

/-- The server after a call from the callback. -/
def callServer (s : NavigateToPose P) (c : Call ErrorResult) : NavigateToPose P :=
  { s with server := { s.server with server := c.apply s.server.server } }

section Step

variable [DecidableEq P]

/-- A step of the action server. Entering and leaving the callback moves
the navigator's worker. -/
def serverPartyStep (s : NavigateToPose P) (l : Label (NavigateToPoseGoal P) ErrorResult) :
    Option (NavigateToPose P) :=
  match l with
  | .call _ => none
  | .callbackReturn i =>
    if s.pc = .returning then
      (serverStep s.server (.callbackReturn i)).map fun server =>
        { s with server := server, pc := .idle }
    else none
  | .callbackThrow i =>
    (serverStep s.server (.callbackThrow i)).map fun server =>
      { s with server := server, pc := .idle }
  | .testGuard i =>
    (serverStep s.server (.testGuard i)).map fun server =>
      { s with server := server, pc := if loopCondition s.server then .received else s.pc }
  | l => (serverStep s.server l).map fun server => { s with server := server }

/-- `on_goal_received_callback_(action_server_->get_current_goal())`. -/
def receiveGoal (params : NavigatorParams) (tf : Nat → Tf P) (s : NavigateToPose P)
    (navigating : Bool) (load : XmlLoad) (k : Nat) : Option (NavigateToPose P) :=
  if navigating then some { s with pc := .refused }
  else
    match s.server.server.currentHandle, s.server.server.getCurrentGoal with
    | some g, some goal =>
      match goalReceived params (tf k) load goal s with
      | some (true, s') => some { s' with pc := .loop, installs := (g, k) :: s.installs }
      | some (false, s') => some { s' with pc := .refused }
      | none => none
    | _, _ => none

/-- What `acceptPendingGoal` returns, with the goal's id. -/
def pendingGoal (s : NavigateToPose P) : Option (GoalId × NavigateToPoseGoal P) :=
  match s.server.server.pendingHandle, s.server.server.acceptPendingGoal.2 with
  | some p, some goal => some (p, goal)
  | _, _ => none

/-- `initializeGoalPose` in `onPreempt`. -/
def initializePreempting (params : NavigatorParams) (tf : Nat → Tf P) (s : NavigateToPose P)
    (r : NodeStatus) (goal : Option (GoalId × NavigateToPoseGoal P)) (k : Nat) :
    Option (NavigateToPose P) :=
  match initializeGoalPose params (tf k) (goal.map (·.2)) s with
  | some (true, s') =>
    some { s' with
      pc := .loopEnd r
      installs := (goal.map fun entry => (entry.1, k)).toList ++ s.installs }
  | some (false, s') => some { s' with pc := .rejecting r }
  | none => none

/-- The call at the end of `executeCallback()`. -/
def reportCall (rc : BtStatus) (result : ErrorResult) : Call ErrorResult :=
  match rc with
  | .succeeded => .succeededCurrent result
  | .failed => .terminateCurrent result
  | .canceled => .terminateAll result

/-- One step of one party. -/
def navigatorStep (params : NavigatorParams) (tf : Nat → Tf P) (s : NavigateToPose P)
    (l : NavigatorLabel P) : Option (NavigateToPose P) :=
  match l, s.pc with
  | .server l, _ => serverPartyStep s l
  | .goalReceived navigating load k, .received => receiveGoal params tf s navigating load k
  | .refuse codes, .refused =>
    let s' := callServer s (.terminateCurrent (s.bt.populateErrorCode codes default))
    some { s' with bt := s.bt.resetInternalError, pc := .returning }
  | .testLoop, .loop =>
    if !s.server.ok then some { s with pc := .completing .failed }
    else if isCanceling s then some { s with pc := .completing .canceled }
    else some { s with pc := .ticking }
  | .tick (some r) numberRecoveries, .ticking =>
    some { s with pc := .onLoop r, numberRecoveries := numberRecoveries }
  | .tick none numberRecoveries, .ticking =>
    some { s with pc := .completing .failed, numberRecoveries := numberRecoveries }
  | .testPreempt, .onLoop r =>
    some { s with pc := if s.server.server.isPreemptRequested then .preempt r else .loopEnd r }
  | .getPendingGoal, .preempt r =>
    match s.server.server.getPendingGoal with
    | none => none  -- the null goal is dereferenced
    | some goal =>
      some { s with pc := if samePreemptTree params s goal then .accepting r else .rejecting r }
  | .acceptPendingGoal, .accepting r =>
    some { callServer s .acceptPendingGoal with pc := .initializing r (pendingGoal s) }
  | .initializeGoalPose k, .initializing r goal => initializePreempting params tf s r goal k
  | .terminatePendingGoal, .rejecting r =>
    some { callServer s .terminatePendingGoal with pc := .loopEnd r }
  | .loopEnd, .loopEnd r =>
    some { s with
      pc := if r = .running then .loop
        else .completing (if r = .success then .succeeded else .failed) }
  | .complete codes, .completing rc =>
    some { s with pc := .reporting rc (goalCompleted s (s.bt.populateErrorCode codes default)) }
  | .report, .reporting rc result =>
    some { callServer s (reportCall rc result) with
      bt := s.bt.resetInternalError, pc := .returning }
  | _, _ => none

/-- The navigator with all parties. -/
def navigatorSystem (params : NavigatorParams) (tf : Nat → Tf P) :
    Transition.System (NavigateToPose P) (NavigatorLabel P) where
  init := fun s => s = .initial
  step := navigatorStep params tf

end Step

end Nav3D.BtNavigator

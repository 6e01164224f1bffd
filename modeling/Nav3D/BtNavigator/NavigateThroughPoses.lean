/-
Nav3D.BtNavigator.NavigateThroughPoses — `NavigateThroughPosesNavigator`
under its `BtActionServer` (`navigate_through_poses.cpp`,
`bt_action_server_impl.hpp`, `behavior_tree_engine.cpp`).

The execute callback is a `CallbackProgram`. It is cut as that of
`NavigateToPose` is; an exception can leave it anywhere, and what `run()`
catches ends the loop. The k-th lookup in tf answers `tf k`, pose by pose.
The tree may write the blackboard entries `goals` and `number_recoveries`;
no node has a port for `waypoint_statuses`. `Blackboard::set` takes its
value by reference, so `goals_array` is whole after the `std::move` in
`initializeGoalPoses`. The distance and the time that remain are those of
`Nav3D.BtNavigator.Progress` and are left out here.

`installs` and `feedbacks` are no members. They record, newest first, which
goal's poses were put on the blackboard, and what was published for which
goal.
-/
import Nav3D.BehaviorTree.ConvertFromString
import Nav3D.BtNavigator.NavigateToPose
import Nav3D.Util.CallbackProgram

namespace Nav3D.BtNavigator

open Nav3D.Ros Nav3D.Util Nav3D.BehaviorTree
open BT (NodeStatus)

namespace ThroughPoses

open ConvertFromString (Goals WaypointStatus)

/-! ## Messages -/

/-- `geometry_msgs/PoseStamped`, with its stamp. -/
abbrev PoseStamped (D : Type) : Type := ConvertFromString.PoseStamped D

/-- `nav3d_msgs/NavigateThroughPoses` goal. -/
structure ThroughPosesGoal (D : Type) where
  poses : Goals D
  behaviorTree : String
  deriving DecidableEq

/-- Its result. -/
structure ThroughPosesResult (D : Type) where
  error : ErrorResult
  waypointStatuses : List (WaypointStatus D)
  deriving DecidableEq, Inhabited

/-- Its feedback. -/
structure ThroughPosesFeedback (D : Type) where
  currentPose : Option (PoseStamped D)
  navigationTime : Int
  numberOfRecoveries : Int16
  numberOfPosesRemaining : Int16
  waypointStatuses : List (WaypointStatus D)
  deriving DecidableEq

/-- The error codes of the result. -/
def throughPosesLoadError : UInt16 := 9101

def throughPosesTfError : UInt16 := 9102

/-- The constants of `WaypointStatus`. -/
def pending : UInt8 := 0

def completed : UInt8 := 1

def failed : UInt8 := 3

section ThroughPoses

variable {D : Type}

/-! ## The navigator -/

/-- What tf answers in one `initializeGoalPoses`: the robot's pose, and pose
`i` in the global frame. -/
structure PosesTf (D : Type) where
  robotPose : Option (PoseStamped D)
  transform : Nat → PoseStamped D → Option (PoseStamped D)

/-- The goal poses of `goal` were put on the blackboard as `poses`, by lookup
`lookup`. -/
structure Install (D : Type) where
  goal : GoalId
  lookup : Nat
  poses : List (PoseStamped D)
  deriving DecidableEq

/-- Where the worker is in `executeCallback()`. A value `r` is what the
last tick of the tree returned. -/
inductive ThroughPc (D : Type) where
  /-- Not in the callback. -/
  | idle
  /-- Before `on_goal_received_callback_`. -/
  | received
  /-- The goal has not been taken; `terminate_current` is next. -/
  | refused
  /-- Before the test of the `while` condition in `run()`. -/
  | loop
  /-- Before `tickOnce()`. -/
  | ticking
  /-- At the start of `on_loop`. -/
  | onLoop (r : NodeStatus)
  /-- A preemption has been seen; `get_pending_goal` is next. -/
  | preempt (r : NodeStatus)
  /-- In `onPreempt`, before `acceptPendingGoal`. -/
  | accepting (r : NodeStatus)
  /-- Before `initializeGoalPoses` on what `acceptPendingGoal` returned. -/
  | initializing (r : NodeStatus) (goal : Option (GoalId × ThroughPosesGoal D))
  /-- Before `terminatePendingGoal`. -/
  | rejecting (r : NodeStatus)
  /-- Before `on_loop_callback_`. -/
  | feedback (r : NodeStatus)
  /-- `run()` has returned. -/
  | completing (rc : BtStatus)
  /-- `on_completion_callback_` has returned. -/
  | reporting (rc : BtStatus) (result : ThroughPosesResult D)
  /-- At the end of the callback. -/
  | returning
  /-- A null goal has been dereferenced. -/
  | crashed

/-- The navigator and the blackboard entries that it works with. -/
structure Members (D : Type) where
  bt : BtActionServer
  pc : ThroughPc D
  startTime : Int
  goals : Option (Goals D)
  waypointStatuses : Option (List (WaypointStatus D))
  numberRecoveries : Int
  installs : List (Install D)
  feedbacks : List (GoalId × ThroughPosesFeedback D)

/-- The navigator after `configure`. -/
def Members.initial : Members D where
  bt := .initial
  pc := .idle
  startTime := 0
  goals := none
  waypointStatuses := none
  numberRecoveries := 0
  installs := []
  feedbacks := []

/-- The loop over the goal poses, from pose `i`. It stops at the first pose
that cannot be transformed. -/
def transformPoses (tf : PosesTf D) :
    Nat → List (PoseStamped D) → Except (Nat × PoseStamped D) (List (PoseStamped D))
  | _, [] => .ok []
  | i, p :: ps =>
    match tf.transform i p with
    | none => .error (i, p)
    | some q => (transformPoses tf (i + 1) ps).map (q :: ·)

/-- The text of the error of pose `i`. -/
def transformPoseErrorMsg (params : NavigatorParams) (i : Nat) (pose : PoseStamped D) : String :=
  "Failed to transform a goal pose (" ++ toString i ++ ") provided with frame_id '" ++
    pose.header.frameId ++ "' to the global frame '" ++ params.globalFrame ++ "'."

/-- One waypoint with the status `status` for each pose. -/
def waypoints (status : UInt8) (poses : List (PoseStamped D)) : List (WaypointStatus D) :=
  poses.mapIdx fun i pose => ⟨status, UInt32.ofNat i, pose, 0, ""⟩

/-- `initializeGoalPoses(goal)` at time `now`; none is the dereference of a
null goal. -/
def initializeGoalPoses (params : NavigatorParams) (tf : PosesTf D) (now : Int)
    (goal : Option (ThroughPosesGoal D)) (x : Members D) :
    Option (Except Unit (List (PoseStamped D)) × Members D) :=
  match tf.robotPose with
  | none =>
    some (.error (), { x with
      bt := x.bt.setInternalError throughPosesTfError "Initial robot pose is not available." })
  | some _ =>
    match goal with
    | none => none
    | some goal =>
      match transformPoses tf 0 goal.poses.goals with
      | .error (i, pose) =>
        some (.error (), { x with
          bt := x.bt.setInternalError throughPosesTfError (transformPoseErrorMsg params i pose) })
      | .ok poses =>
        some (.ok poses, { x with
          startTime := now
          numberRecoveries := 0
          goals := some { goal.poses with goals := poses }
          waypointStatuses := some (waypoints pending poses) })

/-- The members after `loadBehaviorTree` has failed. Its own error is
overwritten. -/
def failToLoad (bt : BtActionServer) (filename : String) (x : Members D) : Members D :=
  { x with
    bt := bt.setInternalError throughPosesLoadError
      ("Error loading XML file: " ++ filename ++ ". Navigation canceled.") }

/-- `goalReceived(goal)`. -/
def goalReceived (params : NavigatorParams) (tf : PosesTf D) (now : Int) (load : XmlLoad)
    (goal : ThroughPosesGoal D) (x : Members D) :
    Option (Except Unit (List (PoseStamped D)) × Members D) :=
  let (loaded, bt) := x.bt.loadBehaviorTree params.toBtActionServerParams load goal.behaviorTree
  if loaded then initializeGoalPoses params tf now (some goal) { x with bt := bt }
  else some (.error (), failToLoad bt goal.behaviorTree x)

/-- The test in `onPreempt`: the goal asks for the tree that is loaded. -/
def sameTree (params : NavigatorParams) (x : Members D) (goal : ThroughPosesGoal D) : Bool :=
  goal.behaviorTree == x.bt.currentBtXmlFilename ||
    (goal.behaviorTree.isEmpty && x.bt.currentBtXmlFilename == params.defaultBtXmlFilename)

/-- `integrate_waypoint_status`. -/
def integratedStatus (rc : BtStatus) : UInt8 :=
  match rc with
  | .succeeded => completed
  | _ => failed

/-- The loop over the waypoints in `goalCompleted`. -/
def integrate (rc : BtStatus) (statuses : List (WaypointStatus D)) : List (WaypointStatus D) :=
  statuses.map fun w =>
    if w.waypointStatus = pending then { w with waypointStatus := integratedStatus rc } else w

/-- `goalCompleted(result, rc)` on a result that `populateErrorCode` has
filled in. -/
def goalCompleted (x : Members D) (rc : BtStatus) (error : ErrorResult)
    (statuses : List (WaypointStatus D)) : ThroughPosesResult D where
  error := if error.errorCode = 0 then (x.bt.populateInternalError error).1 else error
  waypointStatuses := integrate rc statuses

/-- The message that `onLoop()` publishes at time `now`, if any. -/
def onLoopFeedback (tf : PosesTf D) (now : Int) (x : Members D)
    (statuses : List (WaypointStatus D)) : Option (ThroughPosesFeedback D) :=
  let remaining := (x.goals.elim [] Goals.goals).length
  if remaining = 0 then some ⟨none, 0, 0, 0, statuses⟩
  else
    tf.robotPose.map fun pose =>
      ⟨some pose, now - x.startTime, Int16.ofInt x.numberRecoveries, Int16.ofNat remaining, statuses⟩

/-- `publish_feedback`, for the current goal if it is active. -/
def publishFeedback {Goal Result : Type} (s : ActionServerState Goal Result)
    (msg : Option (ThroughPosesFeedback D)) (x : Members D) : Members D :=
  match s.server.currentHandle, msg with
  | some g, some msg =>
    if s.server.isActive (some g) then { x with feedbacks := (g, msg) :: x.feedbacks } else x
  | _, _ => x

/-! ## Steps -/

/-- A step of the callback. -/
inductive ThroughLabel (D : Type) where
  /-- `on_goal_received_callback_`; `k` is the number of the tf lookup. -/
  | goalReceived (navigating : Bool) (load : XmlLoad) (k : Nat) (now : Int)
  | refuse (codes : List (Int × Option String))
  | testLoop
  /-- `tickOnce()`, which returns a status or throws. -/
  | tick (outcome : Option NodeStatus) (goals : Option (Goals D)) (numberRecoveries : Int)
  | testPreempt
  | getPendingGoal
  | acceptPendingGoal
  | initializeGoalPoses (k : Nat) (now : Int)
  | terminatePendingGoal
  /-- `on_loop_callback_` and the sleep. -/
  | onLoop (k : Nat) (now : Int)
  | complete (codes : List (Int × Option String))
  | report

/-- The action server of the navigator. -/
abbrev ThroughServer (D : Type) : Type :=
  ActionServerState (ThroughPosesGoal D) (ThroughPosesResult D)

/-- What `acceptPendingGoal` returns, with the goal's id. -/
def acceptedGoal (s : ThroughServer D) : Option (GoalId × ThroughPosesGoal D) :=
  match s.server.pendingHandle, s.server.acceptPendingGoal.2 with
  | some p, some goal => some (p, goal)
  | _, _ => none

/-- The goal in the current slot and its message. -/
def currentGoal (s : ThroughServer D) : Option (GoalId × ThroughPosesGoal D) :=
  match s.server.currentHandle, s.server.getCurrentGoal with
  | some g, some goal => some (g, goal)
  | _, _ => none

/-- Where an `initializeGoalPoses` on goal `g` by lookup `k` leads. -/
def afterInitialize (g : GoalId) (k : Nat) (ok notOk : ThroughPc D) :
    Option (Except Unit (List (PoseStamped D)) × Members D) → Members D → Members D
  | none, x => { x with pc := .crashed }
  | some (.error _, x'), _ => { x' with pc := notOk }
  | some (.ok poses, x'), _ => { x' with pc := ok, installs := ⟨g, k, poses⟩ :: x'.installs }

/-- `on_goal_received_callback_(action_server_->get_current_goal())`. -/
def receiveGoal (params : NavigatorParams) (tf : Nat → PosesTf D) (s : ThroughServer D)
    (x : Members D) (navigating : Bool) (load : XmlLoad) (k : Nat) (now : Int) : Members D :=
  if navigating then { x with pc := .refused }
  else
    match currentGoal s with
    | none => { x with pc := .crashed }
    | some (g, goal) =>
      afterInitialize g k .loop .refused (goalReceived params (tf k) now load goal x) x

/-- `is_canceling`. -/
def isCanceling (s : ThroughServer D) : Bool :=
  !s.server.isServerActive || s.server.isCancelRequested

/-- The `while` condition and the test for a cancellation in `run()`. -/
def afterTestLoop (s : ThroughServer D) : ThroughPc D :=
  if !s.ok then .completing .failed
  else if isCanceling s then .completing .canceled
  else .ticking

/-- What `run()` does after a tick that returned `r`. -/
def afterIteration (r : NodeStatus) : ThroughPc D :=
  if r = .running then .loop else .completing (if r = .success then .succeeded else .failed)

/-- The call at the end of `executeCallback()`. -/
def reportCall (rc : BtStatus) (result : ThroughPosesResult D) : Call (ThroughPosesResult D) :=
  match rc with
  | .succeeded => .succeededCurrent result
  | .failed => .terminateCurrent result
  | .canceled => .terminateAll result

/-- Where a step leads, in a state of the action server. -/
def throughNext (params : NavigatorParams) (tf : Nat → PosesTf D) (s : ThroughServer D)
    (x : Members D) (l : ThroughLabel D) :
    Option (Members D × Option (Call (ThroughPosesResult D))) :=
  let move (pc : ThroughPc D) := some ({ x with pc := pc }, none)
  match l, x.pc with
  | .goalReceived navigating load k now, .received =>
    some (receiveGoal params tf s x navigating load k now, none)
  | .refuse codes, .refused =>
    some ({ x with bt := x.bt.resetInternalError, pc := .returning },
      some (.terminateCurrent ⟨x.bt.populateErrorCode codes default, []⟩))
  | .testLoop, .loop => move (afterTestLoop s)
  | .tick (some r) goals numberRecoveries, .ticking =>
    some ({ x with pc := .onLoop r, goals := goals, numberRecoveries := numberRecoveries }, none)
  | .tick none goals numberRecoveries, .ticking =>
    some ({ x with
      pc := .completing .failed, goals := goals, numberRecoveries := numberRecoveries }, none)
  | .testPreempt, .onLoop r =>
    move (if s.server.isPreemptRequested then .preempt r else .feedback r)
  | .getPendingGoal, .preempt r =>
    move (s.server.getPendingGoal.elim .crashed fun goal =>
      if sameTree params x goal then .accepting r else .rejecting r)
  | .acceptPendingGoal, .accepting r =>
    some ({ x with pc := .initializing r (acceptedGoal s) }, some .acceptPendingGoal)
  | .initializeGoalPoses k now, .initializing r goal =>
    some (afterInitialize (goal.elim 0 Prod.fst) k (.feedback r) (.rejecting r)
      (initializeGoalPoses params (tf k) now (goal.map Prod.snd) x) x, none)
  | .terminatePendingGoal, .rejecting r =>
    some ({ x with pc := .feedback r }, some .terminatePendingGoal)
  | .onLoop k now, .feedback r =>
    match x.waypointStatuses with
    | none => move (.completing .failed)  -- `get` throws, and `run()` catches it
    | some statuses =>
      some ({ publishFeedback s (onLoopFeedback (tf k) now x statuses) x with
        pc := afterIteration r }, none)
  | .complete codes, .completing rc =>
    -- without the entry, `get` throws
    x.waypointStatuses.bind fun statuses =>
      move (.reporting rc (goalCompleted x rc (x.bt.populateErrorCode codes default) statuses))
  | .report, .reporting rc result =>
    some ({ x with bt := x.bt.resetInternalError, pc := .returning }, some (reportCall rc result))
  | _, _ => none

def ThroughPc.isIdle : ThroughPc D → Bool
  | .idle => true
  | _ => false

def ThroughPc.isReturning : ThroughPc D → Bool
  | .returning => true
  | _ => false

/-- In the loop of `run()`, but for `initializeGoalPoses`, or after it. -/
def ThroughPc.isRunning : ThroughPc D → Bool
  | .loop | .ticking | .onLoop _ | .preempt _ | .accepting _ | .rejecting _ | .feedback _
  | .completing _ => true
  | _ => false

/-! ## The moves -/

/-- What is on the blackboard, and what is on record, has not changed. -/
structure SameRecord (x x' : Members D) : Prop where
  waypointStatuses : x'.waypointStatuses = x.waypointStatuses
  installs : x'.installs = x.installs
  feedbacks : x'.feedbacks = x.feedbacks

/-- The goal poses of `g` have been installed. -/
structure Installed (tf : PosesTf D) (g : GoalId) (k : Nat) (goal : ThroughPosesGoal D)
    (poses : List (PoseStamped D)) (x x' : Members D) : Prop where
  robotPose : tf.robotPose.isSome = true
  transformed : transformPoses tf 0 goal.poses.goals = .ok poses
  goals : x'.goals = some { goal.poses with goals := poses }
  waypointStatuses : x'.waypointStatuses = some (waypoints pending poses)
  installs : x'.installs = ⟨g, k, poses⟩ :: x.installs
  feedbacks : x'.feedbacks = x.feedbacks

/-- The goal can be navigated to as far as tf goes. -/
def Transforms (tf : PosesTf D) (goal : ThroughPosesGoal D) : Prop :=
  tf.robotPose.isSome = true ∧ ∃ poses, transformPoses tf 0 goal.poses.goals = .ok poses

/-- The moves of the callback: where it was, what it is now, and the call
that it makes. -/
inductive ThroughMoves (tf : Nat → PosesTf D) (s : ThroughServer D) (x : Members D)
    (l : ThroughLabel D) : Members D → Option (Call (ThroughPosesResult D)) → Prop
  | refused {x'} : x.pc = .received → SameRecord x x' → x'.pc = .refused →
      ThroughMoves tf s x l x' none
  | taken {x' g k goal poses} : x.pc = .received → currentGoal s = some (g, goal) →
      Installed (tf k) g k goal poses x x' → x'.pc = .loop → ThroughMoves tf s x l x' none
  | ran {x'} : x.pc.isRunning = true → SameRecord x x' → x'.pc.isRunning = true →
      ThroughMoves tf s x l x' none
  | published {x' g msg} : x.pc.isRunning = true → s.server.currentHandle = some g →
      x.waypointStatuses = some msg.waypointStatuses →
      x'.waypointStatuses = x.waypointStatuses → x'.installs = x.installs →
      x'.feedbacks = (g, msg) :: x.feedbacks → x'.pc.isRunning = true →
      ThroughMoves tf s x l x' none
  | preempted {x' r g k goal poses} : x.pc = .initializing r (some (g, goal)) →
      Installed (tf k) g k goal poses x x' → x'.pc = .feedback r → ThroughMoves tf s x l x' none
  | notTransformed {x' r goal k now} : l = .initializeGoalPoses k now →
      x.pc = .initializing r goal →
      (∀ g request, goal = some (g, request) → ¬ Transforms (tf k) request) →
      SameRecord x x' → x'.pc = .rejecting r → ThroughMoves tf s x l x' none
  | crashed {x'} : x.pc.isIdle = false → SameRecord x x' → x'.pc = .crashed →
      ThroughMoves tf s x l x' none
  | completed {x' rc statuses result} : x.pc = .completing rc →
      x.waypointStatuses = some statuses → SameRecord x x' → x'.pc = .reporting rc result →
      result.waypointStatuses = integrate rc statuses → ThroughMoves tf s x l x' none
  | accepted {x' r} : x.pc = .accepting r → SameRecord x x' →
      x'.pc = .initializing r (acceptedGoal s) → ThroughMoves tf s x l x' (some .acceptPendingGoal)
  | rejected {x' r} : x.pc = .rejecting r → SameRecord x x' → x'.pc.isRunning = true →
      ThroughMoves tf s x l x' (some .terminatePendingGoal)
  | notTaken {x' error} : x.pc = .refused → SameRecord x x' → x'.pc = .returning →
      ThroughMoves tf s x l x' (some (.terminateCurrent ⟨error, []⟩))
  | reported {x' rc result} : x.pc = .reporting rc result → SameRecord x x' →
      x'.pc = .returning → ThroughMoves tf s x l x' (some (reportCall rc result))

theorem SameRecord.withPc (x : Members D) (pc : ThroughPc D) : SameRecord x { x with pc := pc } :=
  ⟨rfl, rfl, rfl⟩

/-- What `initializeGoalPoses` does: it fails and changes nothing but the
error, it installs the goal poses, or it reads a null goal. -/
theorem initializeGoalPoses_cases (params : NavigatorParams) (tf : PosesTf D) (now : Int)
    (goal : Option (ThroughPosesGoal D)) {x y : Members D} (hy : SameRecord x y) (g : GoalId)
    (k : Nat) (ok notOk : ThroughPc D) :
    let x' := afterInitialize g k ok notOk (initializeGoalPoses params tf now goal x) y
    (SameRecord x x' ∧ x'.pc = notOk ∧ ∀ request, goal = some request → ¬ Transforms tf request) ∨
      (goal = none ∧ SameRecord x x' ∧ x'.pc = .crashed) ∨
      ∃ request poses, goal = some request ∧ Installed tf g k request poses x x' ∧ x'.pc = ok := by
  intro x'
  cases hrobot : tf.robotPose with
  | none =>
    left
    have hx' : x' = { x with
        bt := x.bt.setInternalError throughPosesTfError "Initial robot pose is not available."
        pc := notOk } := by
      simp [x', initializeGoalPoses, hrobot, afterInitialize]
    rw [hx']
    refine ⟨⟨rfl, rfl, rfl⟩, rfl, fun request _ htransforms => ?_⟩
    have hpose := htransforms.1
    rw [hrobot] at hpose
    cases hpose
  | some pose =>
    cases goal with
    | none =>
      right; left
      have hx' : x' = { y with pc := .crashed } := by
        simp [x', initializeGoalPoses, hrobot, afterInitialize]
      rw [hx']
      exact ⟨rfl, ⟨hy.1, hy.2, hy.3⟩, rfl⟩
    | some request =>
      cases hposes : transformPoses tf 0 request.poses.goals with
      | error failure =>
        left
        have hx' : x' = { x with
            bt := x.bt.setInternalError throughPosesTfError
              (transformPoseErrorMsg params failure.1 failure.2)
            pc := notOk } := by
          simp [x', initializeGoalPoses, hrobot, hposes, afterInitialize]
        rw [hx']
        refine ⟨⟨rfl, rfl, rfl⟩, rfl, fun request' hrequest htransforms => ?_⟩
        cases hrequest
        obtain ⟨_, poses, hok⟩ := htransforms
        rw [hposes] at hok
        cases hok
      | ok poses =>
        right; right
        refine ⟨request, poses, rfl, ?_⟩
        have hx' : x' = { x with
            startTime := now
            numberRecoveries := 0
            goals := some { request.poses with goals := poses }
            waypointStatuses := some (waypoints pending poses)
            pc := ok
            installs := ⟨g, k, poses⟩ :: x.installs } := by
          simp [x', initializeGoalPoses, hrobot, hposes, afterInitialize]
        rw [hx']
        exact ⟨⟨by rw [hrobot]; rfl, hposes, rfl, rfl, rfl, rfl⟩, rfl⟩

variable {params : NavigatorParams} {tf : Nat → PosesTf D} {s : ThroughServer D}
  {x x' : Members D} {l : ThroughLabel D} {c : Option (Call (ThroughPosesResult D))}

/-- `goalReceived`. -/
theorem throughMoves_receiveGoal (hpc : x.pc = .received) (navigating : Bool) (load : XmlLoad)
    (k : Nat) (now : Int) :
    ThroughMoves tf s x l (receiveGoal params tf s x navigating load k now) none := by
  unfold receiveGoal
  split
  · exact .refused hpc (.withPc x _) rfl
  · cases hgoal : currentGoal s with
    | none => exact .crashed (by rw [hpc]; rfl) (.withPc x _) rfl
    | some current =>
      obtain ⟨g, goal⟩ := current
      simp only [goalReceived]
      split
      · next hloaded =>
        -- the tree is there
        have hloads : SameRecord { x with bt := (x.bt.loadBehaviorTree
            params.toBtActionServerParams load goal.behaviorTree).2 } x := ⟨rfl, rfl, rfl⟩
        rcases initializeGoalPoses_cases params (tf k) now (some goal) hloads g k .loop .refused with
          ⟨hsame, hto, _⟩ | ⟨hnone, _⟩ | ⟨request, poses, hrequest, hinstalled, hto⟩
        · exact .refused hpc ⟨hsame.1, hsame.2, hsame.3⟩ hto
        · cases hnone
        · cases hrequest
          exact .taken hpc hgoal ⟨hinstalled.1, hinstalled.2, hinstalled.3, hinstalled.4,
            hinstalled.5, hinstalled.6⟩ hto
      · exact .refused hpc ⟨rfl, rfl, rfl⟩ rfl

theorem isRunning_afterIteration (r : NodeStatus) :
    (afterIteration r : ThroughPc D).isRunning = true := by
  unfold afterIteration
  split <;> rfl

theorem onLoopFeedback_statuses {tf : PosesTf D} {now : Int} {statuses : List (WaypointStatus D)}
    {msg : ThroughPosesFeedback D} (h : onLoopFeedback tf now x statuses = some msg) :
    msg.waypointStatuses = statuses := by
  simp only [onLoopFeedback] at h
  split at h
  · cases h
    rfl
  · obtain ⟨pose, _, rfl⟩ := Option.map_eq_some_iff.mp h
    rfl

/-- `onLoop()` publishes for the current goal, or nothing. -/
theorem throughMoves_onLoop {r : NodeStatus} {statuses : List (WaypointStatus D)}
    (hpc : x.pc = .feedback r) (hstatuses : x.waypointStatuses = some statuses) (k : Nat)
    (now : Int) :
    ThroughMoves tf s x l { publishFeedback s (onLoopFeedback (tf k) now x statuses) x with
      pc := afterIteration r } none := by
  have hfrom : x.pc.isRunning = true := by
    rw [hpc]
    rfl
  have hto := isRunning_afterIteration (D := D) r
  unfold publishFeedback
  split
  · next g msg hcurrent hmsg =>
    split
    · refine .published hfrom hcurrent ?_ rfl rfl rfl hto
      rw [hstatuses, onLoopFeedback_statuses hmsg]
    · exact .ran hfrom ⟨rfl, rfl, rfl⟩ hto
  · exact .ran hfrom ⟨rfl, rfl, rfl⟩ hto

/-- **Move inversion.** -/
theorem throughMoves_of_next (h : throughNext params tf s x l = some (x', c)) :
    ThroughMoves tf s x l x' c := by
  unfold throughNext at h
  dsimp only at h
  split at h
  · next hpc => cases h; exact throughMoves_receiveGoal hpc _ _ _ _
  · next hpc => cases h; exact .notTaken hpc ⟨rfl, rfl, rfl⟩ rfl
  · next hpc =>
    cases h
    refine .ran (by rw [hpc]; rfl) (.withPc x _) ?_
    unfold afterTestLoop
    split
    · rfl
    · split <;> rfl
  · next hpc => cases h; exact .ran (by rw [hpc]; rfl) ⟨rfl, rfl, rfl⟩ rfl
  · next hpc => cases h; exact .ran (by rw [hpc]; rfl) ⟨rfl, rfl, rfl⟩ rfl
  · next r hpc =>
    cases h
    refine .ran (by rw [hpc]; rfl) (.withPc x _) ?_
    split <;> rfl
  · next r hpc =>
    cases h
    cases s.server.getPendingGoal with
    | none => exact .crashed (by rw [hpc]; rfl) (.withPc x _) rfl
    | some goal =>
      refine .ran (by rw [hpc]; rfl) (.withPc x _) ?_
      simp only [Option.elim]
      split <;> rfl
  · next r hpc => cases h; exact .accepted hpc (.withPc x _) rfl
  · next k now r goal hpc =>
    cases h
    rcases initializeGoalPoses_cases params (tf k) now (goal.map Prod.snd) ⟨rfl, rfl, rfl⟩
        (goal.elim 0 Prod.fst) k (.feedback r) (.rejecting r) with
      ⟨hsame, hto, hnot⟩ | ⟨_, hsame, hto⟩ | ⟨request, poses, hrequest, hinstalled, hto⟩
    · refine .notTransformed rfl hpc (fun g request hgoal => ?_) hsame hto
      exact hnot request (by rw [hgoal]; rfl)
    · exact .crashed (by rw [hpc]; rfl) hsame hto
    · obtain ⟨⟨g, goal⟩, rfl, rfl⟩ := Option.map_eq_some_iff.mp hrequest
      exact .preempted hpc hinstalled hto
  · next r hpc => cases h; exact .rejected hpc (.withPc x _) rfl
  · next k now r hpc =>
    cases hstatuses : x.waypointStatuses with
    | none =>
      rw [hstatuses] at h
      cases h
      exact .ran (by rw [hpc]; rfl) ⟨hstatuses.symm, rfl, rfl⟩ rfl
    | some statuses =>
      rw [hstatuses] at h
      cases h
      exact throughMoves_onLoop hpc hstatuses k now
  · next codes rc hpc =>
    obtain ⟨statuses, hstatuses, hmove⟩ := Option.bind_eq_some_iff.mp h
    cases hmove
    exact .completed hpc hstatuses (.withPc x _) rfl rfl
  · next rc result hpc => cases h; exact .reported hpc ⟨rfl, rfl, rfl⟩ rfl
  · cases h

/-! ## The program -/

theorem ThroughPc.not_idle_of_isRunning {pc : ThroughPc D} (h : pc.isRunning = true) :
    pc.isIdle = false := by
  cases pc with
  | idle => cases h
  | _ => rfl

/-- The callback moves inside the callback. -/
theorem ThroughMoves.notIdle (h : ThroughMoves tf s x l x' c) :
    x.pc.isIdle = false ∧ x'.pc.isIdle = false := by
  cases h with
  | refused hpc _ hto => rw [hpc, hto]; exact ⟨rfl, rfl⟩
  | taken hpc _ _ hto => rw [hpc, hto]; exact ⟨rfl, rfl⟩
  | ran hpc _ hto => exact ⟨ThroughPc.not_idle_of_isRunning hpc, ThroughPc.not_idle_of_isRunning hto⟩
  | published hpc _ _ _ _ _ hto =>
    exact ⟨ThroughPc.not_idle_of_isRunning hpc, ThroughPc.not_idle_of_isRunning hto⟩
  | preempted hpc _ hto => rw [hpc, hto]; exact ⟨rfl, rfl⟩
  | notTransformed _ hpc _ _ hto => rw [hpc, hto]; exact ⟨rfl, rfl⟩
  | crashed hpc _ hto => rw [hto]; exact ⟨hpc, rfl⟩
  | completed hpc _ _ hto _ => rw [hpc, hto]; exact ⟨rfl, rfl⟩
  | accepted hpc _ hto => rw [hpc, hto]; exact ⟨rfl, rfl⟩
  | rejected hpc _ hto => rw [hpc]; exact ⟨rfl, ThroughPc.not_idle_of_isRunning hto⟩
  | notTaken hpc _ hto => rw [hpc, hto]; exact ⟨rfl, rfl⟩
  | reported hpc _ hto => rw [hpc, hto]; exact ⟨rfl, rfl⟩

theorem ThroughPc.not_idle_of_returning {pc : ThroughPc D} (h : pc.isReturning = true) :
    pc.isIdle = false := by
  cases pc with
  | returning => rfl
  | _ => cases h

/-- `executeCallback()` of the navigator. -/
def executeCallback (params : NavigatorParams) (tf : Nat → PosesTf D) :
    CallbackProgram (ThroughPosesGoal D) (ThroughPosesResult D) (Members D) (ThroughLabel D) where
  initial := .initial
  idle := fun x => x.pc.isIdle
  enter := fun x => { x with pc := .received }
  leave := fun x => { x with pc := .idle }
  returns := fun x => x.pc.isReturning
  throws := fun x => !x.pc.isIdle
  next := throughNext params tf
  idle_initial := rfl
  idle_enter := fun _ => rfl
  idle_leave := fun _ => rfl
  idle_returns := fun _ h => ThroughPc.not_idle_of_returning h
  idle_throws := fun _ h => (Bool.not_eq_true' _).mp h
  idle_next := fun _ _ _ _ _ h => (throughMoves_of_next h).notIdle

end ThroughPoses

end ThroughPoses

end Nav3D.BtNavigator

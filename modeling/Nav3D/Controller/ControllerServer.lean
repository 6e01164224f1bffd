/-
Nav3D.Controller.ControllerServer — the execute callback of the controller
server, `computeControl()` (`controller_server.cpp`).

The worker that is in the callback runs `computeControl()`, which is cut
where it reads or changes the action server: there the other parties of
`Nav3D.Util.ActionServerSystem` can come in between. The trajectory, the
reference filter and the commands are doubles and left out; what is kept
of them is when `generateTimedTrajectory()` refuses a path, whether
`isGoalReached()`, and that any of this may throw, which are arguments.
`action_server_` is not null while its callback runs.
-/
import Nav3D.BtNavigator.DefaultTree
import Nav3D.Util.ActionServerCancel

namespace Nav3D.Controller

open Nav3D.Ros Nav3D.Util
open Nav3D.BehaviorTree (ErrorResult)
open Nav3D.BtNavigator (FollowPathGoal)

/-! ## Exceptions and results -/

/-- The exceptions that `computeControl()` has a handler for, in the order
of the handlers. -/
inductive ControlException where
  | controllerTFError
  | patienceExceeded
  | invalidPath
  | controllerTimedOut
  | controllerException
  /-- Any other `std::exception`. -/
  | exception
  deriving DecidableEq

/-- `result->error_code` in the handlers. -/
def ControlException.errorCode : ControlException → UInt16
  | .controllerTFError => 102
  | .patienceExceeded => 104
  | .invalidPath => 103
  | .controllerTimedOut => 107
  | .controllerException => 100
  | .exception => 100

/-- The result that a handler makes of an exception and its `what()`. -/
def handlerResult (e : ControlException) (what : String) : ErrorResult := ⟨e.errorCode, what⟩

/-- What `generateTimedTrajectory(path)` throws on its own account. -/
def refusePath {Pose : Type} (path : List Pose) : Option (ControlException × String) :=
  if path.isEmpty then some (.invalidPath, "Path is empty.") else none

/-! ## `computeControl()` -/

/-- Where the worker is in `computeControl()`. -/
inductive ComputePc (Pose : Type) where
  /-- Not in the callback. -/
  | idle
  /-- Before the first `get_current_goal`. -/
  | start
  /-- Before `generateTimedTrajectory`, for the first goal or for one that
  has been accepted in the loop. -/
  | generating (accepted : Bool) (goal : FollowPathGoal (List Pose))
  /-- Before the test of the `while` condition. -/
  | testOk
  | testActive
  | testCancel
  | testPreempt
  | accepting
  /-- Before `get_current_goal` on the accepted goal. -/
  | accepted
  /-- Before the command is computed and the goal tested. -/
  | commanding
  | succeeding
  /-- In a handler, before `terminate_current`. -/
  | failing (result : ErrorResult)
  /-- Before `terminate_all`. -/
  | ending
  | returning

/-- The controller server and its action server. -/
structure ControllerServer (Pose : Type) where
  server : ActionServerState (FollowPathGoal (List Pose)) ErrorResult
  pc : ComputePc Pose

variable {Pose : Type}

def ControllerServer.initial : ControllerServer Pose := ⟨initialState, .idle⟩

/-- A step of the worker, or of another party. -/
inductive ControllerLabel (Pose : Type) where
  /-- A step of the action server that is not a call of the callback. -/
  | server (l : Label (FollowPathGoal (List Pose)) ErrorResult)
  | getCurrentGoal
  /-- `generateTimedTrajectory`, and what else it throws, if anything. -/
  | generate (thrown : Option (ControlException × String))
  | testOk
  | testActive
  | testCancel
  | testPreempt
  | acceptPendingGoal
  /-- `getCurrentCommand`, `isGoalReached` and the sleep, unless they throw. -/
  | command (reached : Bool)
  | throwCommand (thrown : ControlException × String)
  | succeededCurrent
  | terminateCurrent
  | terminateAll

/-- The call of the action server that a step makes, if it makes one. -/
def controllerCall (s : ControllerServer Pose) : ControllerLabel Pose → Option (Call ErrorResult)
  | .acceptPendingGoal => some .acceptPendingGoal
  | .succeededCurrent => some (.succeededCurrent SimpleActionServer.emptyResult)
  | .terminateCurrent =>
    match s.pc with
    | .failing result => some (.terminateCurrent result)
    | _ => none
  | .terminateAll => some (.terminateAll SimpleActionServer.emptyResult)
  | _ => none

/-- The server after the call that a step makes. -/
def callServer (s : ControllerServer Pose) (l : ControllerLabel Pose) : ControllerServer Pose :=
  match controllerCall s l with
  | none => s
  | some c => { s with server := { s.server with server := c.apply s.server.server } }

/-- A step of the action server. Entering and leaving the callback moves
the worker; every exception has a handler in the callback. -/
def serverPartyStep (s : ControllerServer Pose)
    (l : Label (FollowPathGoal (List Pose)) ErrorResult) : Option (ControllerServer Pose) :=
  match l with
  | .call _ => none
  | .callbackThrow _ => none
  | .callbackReturn i =>
    match s.pc with
    | .returning => (serverStep s.server (.callbackReturn i)).map fun server => ⟨server, .idle⟩
    | _ => none
  | .testGuard i =>
    (serverStep s.server (.testGuard i)).map fun server =>
      ⟨server, if loopCondition s.server then .start else s.pc⟩
  | l => (serverStep s.server l).map fun server => { s with server := server }

/-- Where `generateTimedTrajectory` leads. -/
def afterGenerate (accepted : Bool) (goal : FollowPathGoal (List Pose))
    (thrown : Option (ControlException × String)) : ComputePc Pose :=
  match (refusePath goal.path).or thrown with
  | some (e, what) => .failing (handlerResult e what)
  | none => if accepted then .commanding else .testOk

/-- Where the worker is after its own step. -/
def nextPc (s : ControllerServer Pose) (l : ControllerLabel Pose) : Option (ComputePc Pose) :=
  match l, s.pc with
  | .getCurrentGoal, .start =>
    match s.server.server.getCurrentGoal with
    | none => some .ending
    | some goal => some (.generating false goal)
  | .generate thrown, .generating accepted goal => some (afterGenerate accepted goal thrown)
  | .testOk, .testOk => some (if s.server.ok then .testActive else .ending)
  | .testActive, .testActive =>
    some (if s.server.server.isServerActive then .testCancel else .returning)
  | .testCancel, .testCancel =>
    some (if s.server.server.isCancelRequested then .ending else .testPreempt)
  | .testPreempt, .testPreempt =>
    some (if s.server.server.isPreemptRequested then .accepting else .commanding)
  | .acceptPendingGoal, .accepting => some .accepted
  | .getCurrentGoal, .accepted =>
    match s.server.server.getCurrentGoal with
    | none => some .ending
    | some goal => some (.generating true goal)
  | .command reached, .commanding => some (if reached then .succeeding else .testOk)
  | .throwCommand thrown, .commanding => some (.failing (handlerResult thrown.1 thrown.2))
  | .succeededCurrent, .succeeding => some .returning
  | .terminateCurrent, .failing _ => some .returning
  | .terminateAll, .ending => some .returning
  | _, _ => none

/-- One step of one party. -/
def controllerStep (s : ControllerServer Pose) (l : ControllerLabel Pose) :
    Option (ControllerServer Pose) :=
  match l with
  | .server l => serverPartyStep s l
  | l => (nextPc s l).map fun pc => { callServer s l with pc := pc }

/-- The controller server with all parties. -/
def controllerSystem : Transition.System (ControllerServer Pose) (ControllerLabel Pose) where
  init := fun s => s = .initial
  step := controllerStep

/-! ## The callback as an execute loop -/

/-- The step of the action server that a step is. -/
def controllerServerLabel (s : ControllerServer Pose) :
    ControllerLabel Pose → Option (Label (FollowPathGoal (List Pose)) ErrorResult)
  | .server l => some l
  | l => (controllerCall s l).map .call

theorem controllerStep_server {s s' : ControllerServer Pose} {l : ControllerLabel Pose}
    (h : controllerStep s l = some s') :
    StepsServer s.server (controllerServerLabel s l) s'.server := by
  have hown : ∀ {l : ControllerLabel Pose},
      (nextPc s l).map (fun pc => { callServer s l with pc := pc }) = some s' →
      StepsServer s.server ((controllerCall s l).map .call) s'.server := by
    intro l hmap
    obtain ⟨pc, _, rfl⟩ := Option.map_eq_some_iff.mp hmap
    unfold callServer
    cases controllerCall s l with
    | none => rfl
    | some c => rfl
  cases l with
  | server l =>
    show serverStep s.server l = some s'.server
    have hparty : serverPartyStep s l = some s' := h
    cases l with
    | call c => cases hparty
    | callbackThrow i => cases hparty
    | callbackReturn i =>
      simp only [serverPartyStep] at hparty
      split at hparty
      · obtain ⟨server, hserver, rfl⟩ := Option.map_eq_some_iff.mp hparty
        exact hserver
      · cases hparty
    | _ =>
      simp only [serverPartyStep] at hparty
      obtain ⟨server, hserver, rfl⟩ := Option.map_eq_some_iff.mp hparty
      exact hserver
  | _ => exact hown h

/-- `computeControl()`. -/
def controllerLoop : ExecuteLoop (FollowPathGoal (List Pose)) ErrorResult
    (ControllerServer Pose) (ControllerLabel Pose) where
  system := controllerSystem
  server := ControllerServer.server
  serverLabel := controllerServerLabel
  init_server := by rintro _ rfl; rfl
  step_server _ _ _ h := controllerStep_server h

end Nav3D.Controller

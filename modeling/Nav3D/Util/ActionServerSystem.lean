/-
Nav3D.Util.ActionServerSystem — the parties that run the sections of
`SimpleActionServer`, interleaved.

Four kinds of party share one server:

* the client and rclcpp_action: a goal request (`handle_goal`), the later
  delivery of an accepted goal (`handle_accepted`), a cancel request
  (`handle_cancel`) and the later cancellation of the goal handle.
  Between the first two callbacks the goal is already executing for
  rclcpp_action but unknown to the server's slots: it is in `transit`.
  `handle_cancel` only answers the request; `_cancel_goal()` is called
  afterwards, without `update_mutex_`, on the goals in `cancels`. That it
  may run inside a locked section of another party matters only where the
  section is about to abort the very goal: see
  `Nav3D.Util.ActionServerCancel`;
* the worker threads that `handle_accepted` launches with `std::async`.
  `work()` is cut at the points where it does not hold the mutex: the
  test of the `while` condition, the execute callback, the locked section
  after the callback, the exit. `execution_future_` is the future of the
  newest thread (`workers` lists them oldest first) and becomes ready with
  the last step, after the thread has left the loop;
* the lifecycle thread: `activate()`, and `deactivate()` as its locked
  section, the `terminate_all()` of a missed deadline, and its return;
* the execute callback, which may call the slot operations in any order.
  A call is a step of its own and is not tied to the thread that makes it;
  `FromCallback` says when it comes from a callback, as every call in the
  repository does.
-/
import Nav3D.Lib.Transition
import Nav3D.Util.SimpleActionServer

namespace Nav3D.Util

open Nav3D.Ros

/-- Where a worker thread is in `work()`. -/
inductive WorkerPc where
  /-- Before the test of the `while` condition. -/
  | guard
  /-- Inside `execute_callback_()`. -/
  | executing
  /-- The callback has returned; the locked section is next. -/
  | returned
  /-- The callback has thrown; the handler's `terminate_all()` is next. -/
  | threw
  /-- Out of the loop, the future not ready yet. -/
  | leaving
  /-- The thread has ended and its future is ready. -/
  | done
  deriving DecidableEq, Repr

/-- Where the lifecycle thread is. -/
inductive LifecyclePc where
  /-- `activate()` was the last call, or none was made yet. -/
  | idle
  /-- In `deactivate()`, after its locked section. -/
  | deactivating
  /-- `deactivate()` was the last call and has returned. -/
  | deactivated
  deriving DecidableEq, Repr

/-- The slot operations that an execute callback calls. -/
inductive Call (Result : Type) where
  | acceptPendingGoal
  | terminatePendingGoal
  | terminateAll (r : Result)
  | terminateCurrent (r : Result)
  | succeededCurrent (r : Result)

/-- A step of one of the parties. Worker steps name the thread. -/
inductive Label (Goal Result : Type) where
  | goalRequest (g : GoalId) (goal : Goal)
  | goalAccepted (g : GoalId)
  | cancelRequest (g : GoalId)
  /-- rclcpp_action calls `_cancel_goal()`. -/
  | cancelGoal (g : GoalId)
  | activate
  | deactivate
  | deactivateDeadline
  | deactivateReturn
  | call (c : Call Result)
  | testGuard (i : Nat)
  | callbackReturn (i : Nat)
  | callbackThrow (i : Nat)
  | endOfIteration (i : Nat)
  | handleException (i : Nat)
  | workerExit (i : Nat)
  | rclShutdown

/-- The server with its parties. `ok` is `rclcpp::ok()`. -/
structure ActionServerState (Goal Result : Type) where
  server : SimpleActionServer Goal Result
  transit : List GoalId
  /-- The accepted cancel requests whose `_cancel_goal()` is to come. -/
  cancels : List GoalId
  workers : List WorkerPc
  lifecycle : LifecyclePc
  ok : Bool

namespace ActionServerState

variable {Goal Result : Type}

/-- `is_running()`: `execution_future_` is valid and not ready. -/
def isRunning (s : ActionServerState Goal Result) : Bool :=
  match s.workers.getLast? with
  | none => false
  | some pc => pc != .done

/-- A worker is inside the execute callback. -/
def inCallback (s : ActionServerState Goal Result) : Prop := WorkerPc.executing ∈ s.workers

/-- The worker of the current future has left the loop of `work()`. -/
def hasLeft (s : ActionServerState Goal Result) : Prop :=
  s.workers.getLast? = some .leaving

/-- No worker exists, or the newest one has left the loop or ended. -/
def noWorker (s : ActionServerState Goal Result) : Prop :=
  ∀ pc ∈ s.workers.getLast?, pc = .leaving ∨ pc = .done

/-- A goal the server has been handed by `handle_accepted`. -/
def Accepted (s : ActionServerState Goal Result) (g : GoalId) : Prop :=
  (s.server.handles g).isSome = true ∧ g ∉ s.transit

end ActionServerState

section System

variable {Goal Result : Type} [Inhabited Result]

/-- One operation called by an execute callback. -/
def Call.apply (c : Call Result) (s : SimpleActionServer Goal Result) :
    SimpleActionServer Goal Result :=
  match c with
  | .acceptPendingGoal => s.acceptPendingGoal.1
  | .terminatePendingGoal => s.terminatePendingGoal
  | .terminateAll r => s.terminateAll r
  | .terminateCurrent r => s.terminateCurrent r
  | .succeededCurrent r => s.succeededCurrent r

/-- Move thread `i` from `pc` to `pc'`, if it is at `pc`. -/
def moveWorker (s : ActionServerState Goal Result) (i : Nat) (pc pc' : WorkerPc) :
    Option (ActionServerState Goal Result) :=
  if s.workers[i]? = some pc then some { s with workers := s.workers.set i pc' } else none

/-- The `while` condition of `work()`. -/
def loopCondition (s : ActionServerState Goal Result) : Bool :=
  s.ok && !s.server.stopExecution && s.server.isActive s.server.currentHandle

/-- One step of one party. -/
def serverStep (s : ActionServerState Goal Result) :
    Label Goal Result → Option (ActionServerState Goal Result)
  | .goalRequest g goal =>
    if (s.server.handles g).isSome then none  -- a UUID is used once
    else
      match s.server.handleGoal with
      | .reject => some s
      | .acceptAndExecute =>
        some { s with server := s.server.addHandle g goal, transit := s.transit ++ [g] }
  | .goalAccepted g =>
    if g ∈ s.transit then
      some { s with
        server := (s.server.handleAccepted s.isRunning g).1
        transit := s.transit.erase g
        workers :=
          if (s.server.handleAccepted s.isRunning g).2 then s.workers ++ [.guard] else s.workers }
    else none
  | .cancelRequest g =>
    match s.server.handleCancel g with
    | .reject => some s
    | .accept => some { s with cancels := s.cancels ++ [g] }
  | .cancelGoal g =>
    if g ∈ s.cancels then
      some { s with server := s.server.cancelGoal g, cancels := s.cancels.erase g }
    else none
  | .activate =>
    if s.lifecycle = .deactivating then none
    else some { s with server := s.server.activate, lifecycle := .idle }
  | .deactivate =>
    if s.lifecycle = .deactivating then none
    else some { s with server := s.server.deactivate, lifecycle := .deactivating }
  | .deactivateDeadline =>
    if s.lifecycle = .deactivating ∧ s.isRunning = true then
      some { s with server := s.server.terminateAll SimpleActionServer.emptyResult }
    else none
  | .deactivateReturn =>
    if s.lifecycle = .deactivating ∧ s.isRunning = false then
      some { s with lifecycle := .deactivated }
    else none
  | .call c => some { s with server := c.apply s.server }
  | .testGuard i =>
    moveWorker s i .guard (if loopCondition s then .executing else .leaving)
  | .callbackReturn i => moveWorker s i .executing .returned
  | .callbackThrow i => moveWorker s i .executing .threw
  | .endOfIteration i =>
    moveWorker { s with server := s.server.endOfIteration.1 } i .returned
      (if s.server.endOfIteration.2 then .guard else .leaving)
  | .handleException i =>
    moveWorker { s with server := s.server.terminateAll SimpleActionServer.emptyResult } i
      .threw .leaving
  | .workerExit i => moveWorker s i .leaving .done
  | .rclShutdown => some { s with ok := false }

/-- A server just constructed, with no worker and no goal. -/
def initialState : ActionServerState Goal Result where
  server := SimpleActionServer.initial
  transit := []
  cancels := []
  workers := []
  lifecycle := .idle
  ok := true

/-- The interleaving of all parties. -/
def actionServerSystem (Goal Result : Type) [Inhabited Result] :
    Transition.System (ActionServerState Goal Result) (Label Goal Result) where
  init := fun s => s = initialState
  step := serverStep

/-- Calls of the slot operations come from an execute callback. -/
def FromCallback (s : ActionServerState Goal Result) : Label Goal Result → Prop
  | .call _ => s.inCallback
  | _ => True

end System

end Nav3D.Util

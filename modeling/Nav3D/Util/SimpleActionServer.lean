/-
Nav3D.Util.SimpleActionServer — the two goal slots of
`nav3d_util::SimpleActionServer` and the operations that move goal handles
between them (`simple_action_server.hpp`).

One definition per member function. Every function below is the body that
the source runs while it holds `update_mutex_`; the order in which the
threads of the program run these bodies is in
`Nav3D.Util.ActionServerSystem`. The two things the bodies read that are
not fields of the class are arguments: whether `execution_future_` is
still running (`is_running()`), and the goal handle that rclcpp_action
passes in.

A `std::shared_ptr<ServerGoalHandle>` is a goal id; the state of the
handle it points to is in `handles`. A handle leaves the active states
only through `finish`, which also records the result that rclcpp_action
sends to the client. `completion_callback_` is `nullptr` at every use in
the repository and is left out, as are the log messages.
-/
import Nav3D.Ros.Action
import Mathlib.Logic.Function.Basic

namespace Nav3D.Util

open Nav3D.Ros

/-- `rclcpp_action::ServerGoalHandle`: the goal and its current state. -/
structure ServerGoalHandle (Goal : Type) where
  goal : Goal
  status : GoalStatus

/-- `rclcpp_action::GoalResponse`, the two answers `handle_goal` gives. -/
inductive GoalResponse where
  | reject
  | acceptAndExecute
  deriving DecidableEq, Repr

/-- `rclcpp_action::CancelResponse`. -/
inductive CancelResponse where
  | reject
  | accept
  deriving DecidableEq, Repr

/-- The two members that hold a goal handle, passed by reference to
`terminate`. -/
inductive Slot where
  | current
  | pending
  deriving DecidableEq, Repr

/-- The members of the class that its locked sections read and write,
with the goal handles of the process and the results sent so far (oldest
first). -/
structure SimpleActionServer (Goal Result : Type) where
  handles : GoalId → Option (ServerGoalHandle Goal)
  results : List (GoalId × GoalStatus × Result)
  stopExecution : Bool
  serverActive : Bool
  preemptRequested : Bool
  currentHandle : Option GoalId
  pendingHandle : Option GoalId

namespace SimpleActionServer

variable {Goal Result : Type}

/-- The members as the constructor leaves them. -/
def initial : SimpleActionServer Goal Result where
  handles := fun _ => none
  results := []
  stopExecution := false
  serverActive := false
  preemptRequested := false
  currentHandle := none
  pendingHandle := none

/-! ## Goal handles -/

/-- The state of goal `g`; a goal the server never accepted is `unknown`. -/
def status (s : SimpleActionServer Goal Result) (g : GoalId) : GoalStatus :=
  match s.handles g with
  | none => .unknown
  | some h => h.status

/-- `handle->is_active()` on goal `g`. -/
def active (s : SimpleActionServer Goal Result) (g : GoalId) : Bool := (s.status g).isActive

/-- Put goal `g` in state `st`. -/
def setStatus (s : SimpleActionServer Goal Result) (g : GoalId) (st : GoalStatus) :
    SimpleActionServer Goal Result :=
  { s with
    handles := Function.update s.handles g ((s.handles g).map fun h => { h with status := st }) }

/-- `handle->succeed`, `handle->canceled` and `handle->abort`: the goal
reaches the terminal state `st` and its result goes to the client. The
callers check `is_active` (and `is_canceling` before `canceled`), so the
transition is legal for rclcpp_action. -/
def finish (s : SimpleActionServer Goal Result) (g : GoalId) (st : GoalStatus) (r : Result) :
    SimpleActionServer Goal Result :=
  { s.setStatus g st with results := s.results ++ [(g, st, r)] }

/-- What rclcpp_action does with a goal that `handle_goal` accepts with
`ACCEPT_AND_EXECUTE`: a new handle in state `executing`. -/
def addHandle (s : SimpleActionServer Goal Result) (g : GoalId) (goal : Goal) :
    SimpleActionServer Goal Result :=
  { s with handles := Function.update s.handles g (some ⟨goal, .executing⟩) }

/-- `handle->_cancel_goal()`, which rclcpp_action calls once
`handle_cancel` has accepted the request and given back the mutex; on a
goal in any other state it throws, and rclcpp_action answers the client
with a rejection. -/
def cancelGoal (s : SimpleActionServer Goal Result) (g : GoalId) :
    SimpleActionServer Goal Result :=
  if s.status g = .executing then s.setStatus g .canceling else s

/-- The handle that a member refers to. -/
def slot (s : SimpleActionServer Goal Result) : Slot → Option GoalId
  | .current => s.currentHandle
  | .pending => s.pendingHandle

/-- `handle.reset()` on one of the two members. -/
def resetSlot (s : SimpleActionServer Goal Result) : Slot → SimpleActionServer Goal Result
  | .current => { s with currentHandle := none }
  | .pending => { s with pendingHandle := none }

/-- `is_active(handle)`: the handle is set and the goal is active. -/
def isActive (s : SimpleActionServer Goal Result) (h : Option GoalId) : Bool :=
  match h with
  | none => false
  | some g => s.active g

/-- `handle->is_canceling()`. -/
def isCanceling (s : SimpleActionServer Goal Result) (g : GoalId) : Bool :=
  s.status g = .canceling

/-! ## Requests from rclcpp_action -/

def handleGoal (s : SimpleActionServer Goal Result) : GoalResponse :=
  if s.serverActive then .acceptAndExecute else .reject

def handleCancel (s : SimpleActionServer Goal Result) (g : GoalId) : CancelResponse :=
  if s.active g then .accept else .reject

/-! ## Activation -/

def activate (s : SimpleActionServer Goal Result) : SimpleActionServer Goal Result :=
  { s with serverActive := true, stopExecution := false }

/-- The locked section at the start of `deactivate()`. -/
def deactivate (s : SimpleActionServer Goal Result) : SimpleActionServer Goal Result :=
  { s with serverActive := false, stopExecution := true }

/-! ## Queries of the execute callback -/

def isServerActive (s : SimpleActionServer Goal Result) : Bool := s.serverActive

def isPreemptRequested (s : SimpleActionServer Goal Result) : Bool := s.preemptRequested

def isCancelRequested (s : SimpleActionServer Goal Result) : Bool :=
  match s.currentHandle, s.pendingHandle with
  | none, _ => false
  | some _, some p => s.isCanceling p
  | some c, none => s.isCanceling c

/-- The goal message of a handle that is active, else the null pointer. -/
def goalOf (s : SimpleActionServer Goal Result) (h : Option GoalId) : Option Goal :=
  match h with
  | none => none
  | some g => if s.active g then (s.handles g).map (·.goal) else none

def getCurrentGoal (s : SimpleActionServer Goal Result) : Option Goal := s.goalOf s.currentHandle

def getPendingGoal (s : SimpleActionServer Goal Result) : Option Goal := s.goalOf s.pendingHandle

/-! ## Operations on the slots -/

/-- `terminate(handle, result)`: a canceling goal ends canceled, any other
active goal ends aborted, and the slot is emptied. An inactive handle is
left in its slot. -/
def terminate (s : SimpleActionServer Goal Result) (sl : Slot) (r : Result) :
    SimpleActionServer Goal Result :=
  match s.slot sl with
  | none => s
  | some g =>
    if s.active g then
      (s.finish g (if s.isCanceling g then .canceled else .aborted) r).resetSlot sl
    else s

/-- `succeeded_current(result)`. -/
def succeededCurrent (s : SimpleActionServer Goal Result) (r : Result) :
    SimpleActionServer Goal Result :=
  match s.currentHandle with
  | none => s
  | some g => if s.active g then (s.finish g .succeeded r).resetSlot .current else s

def terminateCurrent (s : SimpleActionServer Goal Result) (r : Result) :
    SimpleActionServer Goal Result :=
  s.terminate .current r

def terminateAll (s : SimpleActionServer Goal Result) (r : Result) :
    SimpleActionServer Goal Result :=
  { (s.terminate .current r).terminate .pending r with preemptRequested := false }

variable [Inhabited Result]

/-- `empty_result()`. -/
def emptyResult : Result := default

/-- The slot moves of `accept_pending_goal()` once the pending goal is
known to be active: the previous current goal is aborted if it is still
active. -/
def acceptPending (s : SimpleActionServer Goal Result) : SimpleActionServer Goal Result :=
  let s' :=
    match s.currentHandle with
    | none => s
    | some c =>
      if s.active c && s.currentHandle != s.pendingHandle then s.finish c .aborted emptyResult
      else s
  { s' with currentHandle := s.pendingHandle, pendingHandle := none, preemptRequested := false }

/-- `accept_pending_goal()`: the goal message, or the null pointer when
there is no active pending goal. -/
def acceptPendingGoal (s : SimpleActionServer Goal Result) :
    SimpleActionServer Goal Result × Option Goal :=
  if s.isActive s.pendingHandle then (s.acceptPending, s.getPendingGoal) else (s, none)

def terminatePendingGoal (s : SimpleActionServer Goal Result) : SimpleActionServer Goal Result :=
  if s.isActive s.pendingHandle then
    { s.terminate .pending emptyResult with preemptRequested := false }
  else s

/-- The part of `handle_accepted` for a busy server: the goal takes the
pending slot, whose previous goal is terminated. -/
def park (s : SimpleActionServer Goal Result) (g : GoalId) : SimpleActionServer Goal Result :=
  let s' := if s.isActive s.pendingHandle then s.terminate .pending emptyResult else s
  { s' with pendingHandle := some g, preemptRequested := true }

/-- The part of `handle_accepted` for an idle server: a forgotten
preemption is terminated and the goal becomes the current one. -/
def launch (s : SimpleActionServer Goal Result) (g : GoalId) : SimpleActionServer Goal Result :=
  let s' :=
    if s.isActive s.pendingHandle then
      { s.terminate .pending emptyResult with preemptRequested := false }
    else s
  { s' with currentHandle := some g }

/-- The test at the top of `handle_accepted`: with an active current goal
or a running worker the new goal has to wait. -/
def mustWait (s : SimpleActionServer Goal Result) (running : Bool) : Bool :=
  s.isActive s.currentHandle || running

/-- `handle_accepted(handle)`, given `is_running()`. The flag says whether
a worker thread is launched on the goal. -/
def handleAccepted (s : SimpleActionServer Goal Result) (running : Bool) (g : GoalId) :
    SimpleActionServer Goal Result × Bool :=
  if s.mustWait running then (s.park g, false) else (s.launch g, true)

/-- The locked section at the end of an iteration of `work()`. The flag
says whether the loop goes on with a pending goal. -/
def endOfIteration (s : SimpleActionServer Goal Result) : SimpleActionServer Goal Result × Bool :=
  if s.stopExecution then (s.terminateAll emptyResult, false)
  else
    let s' := s.terminate .current emptyResult
    if s'.isActive s'.pendingHandle then (s'.acceptPendingGoal.1, true) else (s', false)

end SimpleActionServer

end Nav3D.Util

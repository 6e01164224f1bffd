/-
Nav3D.BehaviorTree.BtActionNode — the behavior-tree node that runs an
action (`bt_action_node.hpp`).

A node is translated for any action and any subclass: a subclass is given
by its virtual functions (`ActionHooks`), which may change the node's goal
and its flags and the blackboard and may throw. The node's client and the
server are the request list of `Nav3D.Ros.ActionClient`.

The executor of the node's callback group is spun by the node alone, so
messages are handled within `tick()` and `halt()` only. What happens during
a spin, what the clock says and what `rclcpp::ok()` returns are arguments.
Durations are milliseconds. Log messages and the wake-up signal are left
out, and so are the futures that `halt()` waits for, whose outcome is
logged only.
-/
import Nav3D.Lib.BehaviorTree
import Nav3D.Lib.StateInvariant
import Nav3D.Lib.Transition
import Nav3D.Ros.ActionClient

namespace Nav3D.BehaviorTree

open Nav3D.Ros
open BT (NodeStatus)

/-! ## The node -/

/-- `ClientGoalHandle::WrappedResult`. -/
structure WrappedResult (Result : Type) where
  code : ResultCode
  result : Option Result
  deriving DecidableEq

/-- What the virtual functions of a subclass may change. -/
structure HookState (Goal B : Type) where
  goal : Goal
  shouldSendGoal : Bool
  goalUpdated : Bool
  blackboard : B
  deriving DecidableEq

/-- How a tick or a halt can end without returning. -/
inductive ActionFailure where
  /-- `std::runtime_error("send_goal failed")`. -/
  | sendGoalFailed
  /-- `std::runtime_error("Goal was rejected by the action server")`. -/
  | goalRejected
  /-- `std::logic_error("BtActionNode::Tick: invalid status value")`. -/
  | invalidStatus
  /-- Any other exception, out of a virtual function. -/
  | hookFailed
  /-- The dereference of a null pointer, which nothing catches. -/
  | nullDeref
  deriving DecidableEq, Repr

/-- A virtual function. -/
abbrev HookM (Goal B : Type) := EStateM Unit (HookState Goal B)

/-- The virtual functions of a subclass, and `ActionT::Goal()`. -/
structure ActionHooks (Goal Result Feedback B : Type) where
  emptyGoal : Goal
  onTick : HookM Goal B Unit := pure ()
  onWaitForResult : Option Feedback → HookM Goal B Unit := fun _ => pure ()
  onSuccess : Option Result → HookM Goal B NodeStatus := fun _ => pure .success
  onAborted : Option Result → HookM Goal B NodeStatus := fun _ => pure .failure
  onCancelled : Option Result → HookM Goal B NodeStatus := fun _ => pure .success
  onTimeout : HookM Goal B Unit := pure ()

/-- The members of `BtActionNode`, with the requests of its client; `reported`
is there for the record. -/
structure ActionNode (Goal Result Feedback B : Type) where
  status : NodeStatus
  hook : HookState Goal B
  goalResultAvailable : Bool
  goalHandle : Option GoalId
  result : WrappedResult Result
  feedback : Option Feedback
  futureGoalHandle : Option GoalId
  requests : List (Request Goal Result)
  /-- The request whose result was reported last. -/
  reported : Option GoalId
  deriving DecidableEq

/-- `server_timeout_` and `max_timeout_`. -/
structure ActionParams where
  serverTimeout : Int
  maxTimeout : Int

/-- One wait for a goal response: `now() - time_goal_sent_`, what the
executor does, and whether the spin is interrupted. -/
structure Acknowledgement (Result Feedback : Type) where
  elapsed : Int
  spin : List (SpinEvent Result Feedback)
  interrupted : Bool

structure TickInput (Result Feedback : Type) where
  /-- The wait at the start of the tick. -/
  first : Acknowledgement Result Feedback
  /-- `rclcpp::ok()`. -/
  ok : Bool
  /-- The wait after an updated goal has been sent. -/
  update : Acknowledgement Result Feedback
  /-- `spin_some()`. -/
  spin : List (SpinEvent Result Feedback)

structure HaltInput (Result Feedback : Type) where
  /-- `spin_some()` in `should_cancel_goal()`. -/
  spin : List (SpinEvent Result Feedback)
  /-- The spins for the cancel response and for the result. -/
  cancelSpin : List (SpinEvent Result Feedback)
  resultSpin : List (SpinEvent Result Feedback)

/-- A member function of the node. -/
abbrev ActionM (Goal Result Feedback B : Type) :=
  EStateM ActionFailure (ActionNode Goal Result Feedback B)

variable {Goal Result Feedback B : Type}

/-- The node after its constructor. -/
def ActionNode.initial (hooks : ActionHooks Goal Result Feedback B) (blackboard : B) :
    ActionNode Goal Result Feedback B where
  status := .idle
  hook := ⟨hooks.emptyGoal, true, false, blackboard⟩
  goalResultAvailable := false
  goalHandle := none
  result := ⟨.unknown, none⟩
  feedback := none
  futureGoalHandle := none
  requests := []
  reported := none

/-- Call a virtual function. -/
def callHook {α : Type} (f : HookM Goal B α) : ActionM Goal Result Feedback B α := fun s =>
  match f.run s.hook with
  | .ok a hook => .ok a { s with hook := hook }
  | .error _ hook => .error .hookFailed { s with hook := hook }

/-! ### Spinning the executor -/

/-- The result callback of `send_new_goal()`, for the result of request `i`. -/
def resultCallback (i : GoalId) (result : WrappedResult Result) :
    ActionM Goal Result Feedback B Unit := do
  let s ← get
  if s.futureGoalHandle.isSome then
    -- "It's probably a goal result for the last goal request"
    return ()
  else
    match s.goalHandle with
    | none => throw .nullDeref
    | some h =>
      if h = i then set { s with goalResultAvailable := true, result := result }

/-- The wrapped result that a result message brings. -/
def wrapResult (expired : Bool) (r : Request Goal Result) : WrappedResult Result :=
  ⟨if expired then .unknown else r.resultCode, r.result⟩

/-- One event during a spin. -/
def spinEvent : SpinEvent Result Feedback → ActionM Goal Result Feedback B Unit
  | .server e => modify fun s => { s with requests := e.apply s.requests }
  | .response i => modify fun s => { s with requests := s.requests.modify i Request.acknowledge }
  | .status i st =>
    modify fun s => { s with requests := s.requests.modify i (Request.receiveStatus st) }
  | .result i expired => do
    let s ← get
    match s.requests[i]? with
    | none => return ()
    | some r =>
      if r.resultReady then
        set { s with requests := s.requests.modify i (Request.receiveResult expired) }
        resultCallback i (wrapResult expired r)
  | .feedback i feedback =>
    modify fun s =>
      if s.requests[i]?.any Request.registered then { s with feedback := some feedback } else s

def spin : List (SpinEvent Result Feedback) → ActionM Goal Result Feedback B Unit
  | [] => pure ()
  | e :: es => do
    spinEvent e
    spin es

/-- `spin_until_future_complete(*future_goal_handle_, timeout)` for request
`i`: ends with the goal response. Returns whether it has come. -/
def spinUntilResponse (i : GoalId) :
    List (SpinEvent Result Feedback) → ActionM Goal Result Feedback B Bool
  | [] => do return (← get).requests[i]?.any (·.acknowledged)
  | e :: es => do
    if (← get).requests[i]?.any (·.acknowledged) then
      return true
    else
      spinEvent e
      spinUntilResponse i es

/-! ### `send_new_goal()` and its acknowledgement -/

def sendNewGoal (update : Bool) : ActionM Goal Result Feedback B Unit :=
  modify fun s =>
    { s with
      goalResultAvailable := false
      futureGoalHandle := some s.requests.length
      requests := s.requests ++ [Request.new s.hook.goal update] }

/-- `future_goal_handle_.reset()` without having read the future. -/
def abandonFuture : ActionM Goal Result Feedback B Unit :=
  modify fun s =>
    match s.futureGoalHandle with
    | none => s
    | some i =>
      { s with futureGoalHandle := none, requests := s.requests.modify i Request.abandon }

/-- `goal_handle_ = future_goal_handle_->get()`: null for a rejected goal. -/
def takeGoalHandle (i : GoalId) : ActionM Goal Result Feedback B Unit := do
  let accepted := (← get).requests[i]?.any (·.accepted == some true)
  modify fun s =>
    { s with goalHandle := if accepted then some i else none, futureGoalHandle := none }
  if !accepted then
    throw .goalRejected

/-- `is_future_goal_handle_complete(elapsed)`, with the new `elapsed`. -/
def isFutureGoalHandleComplete (params : ActionParams)
    (a : Acknowledgement Result Feedback) : ActionM Goal Result Feedback B (Bool × Int) := do
  let remaining := params.serverTimeout - a.elapsed
  if remaining ≤ 0 then
    abandonFuture
    return (false, a.elapsed)
  let timeout := if params.maxTimeout < remaining then params.maxTimeout else remaining
  match (← get).futureGoalHandle with
  | none => throw .nullDeref
  | some i =>
    if ← spinUntilResponse i a.spin then
      takeGoalHandle i
      return (true, a.elapsed + timeout)
    else if a.interrupted then
      abandonFuture
      throw .sendGoalFailed
    else
      return (false, a.elapsed + timeout)

/-- The wait for the goal response, as it stands twice in `tick()`: the
status that `tick()` returns, if it returns here. -/
def awaitAcknowledgement (hooks : ActionHooks Goal Result Feedback B) (params : ActionParams)
    (a : Acknowledgement Result Feedback) :
    ActionM Goal Result Feedback B (Option NodeStatus) := do
  let (complete, elapsed) ← isFutureGoalHandleComplete params a
  if complete then
    return none
  else if elapsed < params.serverTimeout then
    return some .running
  else
    -- "Timed out while waiting for action server to acknowledge goal request"
    abandonFuture
    callHook hooks.onTimeout
    return some .failure

/-! ### `tick()` -/

/-- The part of `tick()` that sends an updated goal. -/
def updateGoal (hooks : ActionHooks Goal Result Feedback B) (params : ActionParams)
    (a : Acknowledgement Result Feedback) (goalStatus : GoalStatus) :
    ActionM Goal Result Feedback B (Option NodeStatus) := do
  if (← get).hook.goalUpdated && (goalStatus == .executing || goalStatus == .accepted) then
    modify fun s => { s with hook := { s.hook with goalUpdated := false } }
    sendNewGoal true
    awaitAcknowledgement hooks params a
  else
    return none

/-- The part of `tick()` that waits for the result. -/
def waitForResult (hooks : ActionHooks Goal Result Feedback B) (params : ActionParams)
    (input : TickInput Result Feedback) :
    ActionM Goal Result Feedback B (Option NodeStatus) := do
  callHook (hooks.onWaitForResult (← get).feedback)
  modify fun s => { s with feedback := none }
  match (← get).goalHandle with
  | none => throw .nullDeref
  | some h =>
    let goalStatus := ((← get).requests[h]?.map Request.clientStatus).getD .unknown
    match ← updateGoal hooks params input.update goalStatus with
    | some status => return some status
    | none =>
      spin input.spin
      if (← get).goalResultAvailable then
        return none
      else
        return some .running

/-- The part of `tick()` that waits for a goal response still to come. -/
def pendingAcknowledgement (hooks : ActionHooks Goal Result Feedback B) (params : ActionParams)
    (a : Acknowledgement Result Feedback) :
    ActionM Goal Result Feedback B (Option NodeStatus) := do
  if (← get).futureGoalHandle.isSome then
    awaitAcknowledgement hooks params a
  else
    return none

/-- The `try` block of `tick()`: the status that it returns, if it returns. -/
def tickBody (hooks : ActionHooks Goal Result Feedback B) (params : ActionParams)
    (input : TickInput Result Feedback) :
    ActionM Goal Result Feedback B (Option NodeStatus) := do
  match ← pendingAcknowledgement hooks params input.first with
  | some status => return some status
  | none =>
    if input.ok && !(← get).goalResultAvailable then
      waitForResult hooks params input
    else
      return none

/-- The handler of the `try` block. -/
def tickCatch (e : ActionFailure) : ActionM Goal Result Feedback B (Option NodeStatus) :=
  if e = .sendGoalFailed ∨ e = .goalRejected then pure (some .failure) else throw e

/-- What a result comes to. -/
def resultStatus (hooks : ActionHooks Goal Result Feedback B) (result : WrappedResult Result) :
    ActionM Goal Result Feedback B NodeStatus :=
  match result.code with
  | .succeeded => callHook (hooks.onSuccess result.result)
  | .aborted => callHook (hooks.onAborted result.result)
  | .canceled => callHook (hooks.onCancelled result.result)
  | .unknown => throw .invalidStatus

/-- The end of `tick()`. -/
def reportResult (hooks : ActionHooks Goal Result Feedback B) :
    ActionM Goal Result Feedback B NodeStatus := do
  let statusOut ← resultStatus hooks (← get).result
  modify fun s => { s with goalHandle := none, reported := s.goalHandle }
  return statusOut

/-- The start of `tick()`, for a node that is not active: whether the node
goes on. -/
def activate (hooks : ActionHooks Goal Result Feedback B) :
    ActionM Goal Result Feedback B Bool := do
  modify fun s =>
    { s with
      hook := { s.hook with shouldSendGoal := true, goal := hooks.emptyGoal }
      result := ⟨.unknown, none⟩ }
  callHook hooks.onTick
  modify fun s => { s with status := .running }
  if (← get).hook.shouldSendGoal then
    sendNewGoal false
    return true
  else
    return false

/-- The rest of `tick()`. -/
def tickActive (hooks : ActionHooks Goal Result Feedback B) (params : ActionParams)
    (input : TickInput Result Feedback) : ActionM Goal Result Feedback B NodeStatus := do
  match ← tryCatch (tickBody hooks params input) tickCatch with
  | some status => return status
  | none => reportResult hooks

def tick (hooks : ActionHooks Goal Result Feedback B) (params : ActionParams)
    (input : TickInput Result Feedback) : ActionM Goal Result Feedback B NodeStatus := do
  if (← get).status.isActive then
    tickActive hooks params input
  else if ← activate hooks then
    tickActive hooks params input
  else
    return .failure

/-- `TreeNode::executeTick()`. -/
def executeTick (hooks : ActionHooks Goal Result Feedback B) (params : ActionParams)
    (input : TickInput Result Feedback) : ActionM Goal Result Feedback B NodeStatus := do
  let status ← tick hooks params input
  modify fun s => if status = .skipped then s else { s with status := status }
  return status

/-! ### `halt()` -/

/-- `should_cancel_goal()`: the goal to cancel. -/
def shouldCancelGoal (input : HaltInput Result Feedback) :
    ActionM Goal Result Feedback B (Option GoalId) := do
  let s ← get
  if s.status ≠ .running then
    return none
  else
    match s.goalHandle with
    | none => return none
    | some h =>
      spin input.spin
      let goalStatus := ((← get).requests[h]?.map Request.clientStatus).getD .unknown
      if goalStatus == .accepted || goalStatus == .executing then
        return some h
      else
        return none

/-- The cancellation in `halt()`. -/
def cancelGoal (hooks : ActionHooks Goal Result Feedback B) (input : HaltInput Result Feedback) :
    Option GoalId → ActionM Goal Result Feedback B Unit
  | none => pure ()
  | some h => do
    -- `async_cancel_goal`
    modify fun s => { s with requests := s.requests.modify h Request.requestCancel }
    spin input.cancelSpin
    spin input.resultSpin
    discard (callHook (hooks.onCancelled (← get).result.result))

def halt (hooks : ActionHooks Goal Result Feedback B) (input : HaltInput Result Feedback) :
    ActionM Goal Result Feedback B Unit := do
  cancelGoal hooks input (← shouldCancelGoal input)
  modify fun s => { s with status := .idle }

/-! ## Runs -/

/-- The labels of a run. -/
inductive ActionLabel (Result Feedback : Type) where
  | tick (input : TickInput Result Feedback)
  | halt (input : HaltInput Result Feedback)
  /-- The parent resets a node that is not running. -/
  | reset
  | server (e : ServerEvent Result)

def ActionLabel.isHalt : ActionLabel Result Feedback → Bool
  | .halt _ => true
  | _ => false

/-- The state after a call. An exception leaves the node in the state it has
reached; after a null dereference there is none. -/
def afterCall {α : Type} (x : ActionM Goal Result Feedback B α)
    (s : ActionNode Goal Result Feedback B) : Option (ActionNode Goal Result Feedback B) :=
  match x.run s with
  | .ok _ s' => some s'
  | .error .nullDeref _ => none
  | .error _ s' => some s'

def actionStep (hooks : ActionHooks Goal Result Feedback B) (params : ActionParams)
    (s : ActionNode Goal Result Feedback B) :
    ActionLabel Result Feedback → Option (ActionNode Goal Result Feedback B)
  | .tick input => afterCall (executeTick hooks params input) s
  | .halt input => afterCall (halt hooks input) s
  | .reset => if s.status = .running then none else some { s with status := .idle }
  | .server e => some { s with requests := e.apply s.requests }

/-- A node under any sequence of ticks and halts, with any server. -/
def actionSystem (hooks : ActionHooks Goal Result Feedback B) (params : ActionParams) :
    Transition.System (ActionNode Goal Result Feedback B) (ActionLabel Result Feedback) where
  init := fun s => ∃ blackboard, s = ActionNode.initial hooks blackboard
  step := actionStep hooks params

end Nav3D.BehaviorTree

/-
Nav3D.BtNavigator.ExecuteCallback — `BtActionServer::executeCallback()` for
a `BehaviorTreeNavigator`, with the exceptions that may leave it
(`bt_action_server_impl.hpp`, `behavior_tree_engine.cpp`,
`behavior_tree_navigator.hpp`).

The state is what the callback has to clean up: the muxer that all
navigators share, the error codes on the blackboard and the internal error.
A call of code that depends on the navigator or on the tree is an argument
(`Outcome`): it returns or throws, and it leaves any error codes. The
navigators run at the same time, so the arguments also say which calls of
the muxer the other navigators make in between.

Log messages, the feedback and the goal itself are left out. The loop ends
with the list of its passes; `rclcpp::ok()` is false then.
-/
import Nav3D.BtNavigator.NavigateToPose
import Nav3D.Core.NavigatorMuxer
import Nav3D.Lib.StateInvariant

namespace Nav3D.BtNavigator

open Nav3D.Core Nav3D.Util Nav3D.BehaviorTree
open BT (NodeStatus)

/-! ## Error codes on the blackboard -/

/-- A value on the blackboard. -/
inductive EntryValue where
  | number (n : Int)
  | text (s : String)
  /-- Of any other type. -/
  | other
  deriving DecidableEq

def EntryValue.sameType : EntryValue → EntryValue → Bool
  | .number _, .number _ | .text _, .text _ | .other, .other => true
  | _, _ => false

/-- The entries of a blackboard. -/
abbrev Entries := String → Option EntryValue

namespace Entries

/-- `get<int>(key)`; none is an exception. -/
def getInt (entries : Entries) (key : String) : Option Int :=
  match entries key with
  | some (.number n) => some n
  | _ => none

/-- `get<std::string>(key)`. -/
def getString (entries : Entries) (key : String) : Option String :=
  match entries key with
  | some (.text s) => some s
  | _ => none

/-- An entry keeps the type that it was created with. -/
def takes (entries : Entries) (key : String) (value : EntryValue) : Bool :=
  (entries key).all (·.sameType value)

/-- `set(key, value)`. -/
def set (entries : Entries) (key : String) (value : EntryValue) : Option Entries :=
  if entries.takes key value then some (Function.update entries key (some value)) else none

end Entries

/-! ## The navigator -/

/-- `getName()` and `error_code_name_prefixes_`. -/
structure NavigatorConfig where
  getName : String
  named : getName ≠ ""
  errorCodeNamePrefixes : List String

/-- What `executeCallback()` has to clean up. `calls` records, newest first,
the calls that have ended goals. -/
structure NavigatorState where
  muxer : NavigatorMuxer
  entries : Entries
  bt : BtActionServer
  calls : List (Call ErrorResult)

/-- A call of a navigator's or a tree's own code: what it returns, none for
an exception, and what it leaves of the error codes. -/
structure Outcome (α : Type) where
  value : Option α
  entries : Entries
  bt : BtActionServer

/-- One pass of the loop in `run()`. -/
structure LoopInput where
  /-- `cancelRequested()`. -/
  canceling : Bool
  /-- `haltTree()`, if it is. -/
  haltTree : Outcome Unit
  tickOnce : Outcome NodeStatus
  /-- `onLoop()`: a preemption, the topic logger, `on_loop_callback_`. -/
  onLoop : Outcome Unit

/-- A call of the muxer by another navigator. -/
inductive MuxerCall where
  | startNavigating (navigatorName : String)
  | stopNavigating (navigatorName : String)

def MuxerCall.navigatorName : MuxerCall → String
  | .startNavigating name | .stopNavigating name => name

def MuxerCall.starts : MuxerCall → Bool
  | .startNavigating _ => true
  | .stopNavigating _ => false

def MuxerCall.apply (m : NavigatorMuxer) : MuxerCall → NavigatorMuxer
  | .startNavigating name => m.startNavigating name
  | .stopNavigating name => m.stopNavigating name

/-- What the navigators other than `nav` do with the muxer meanwhile. -/
def OtherCalls (nav : NavigatorConfig) : Type :=
  List {c : MuxerCall // c.navigatorName ≠ nav.getName}

/-- The muxer after these calls. -/
def muxerAfter {nav : NavigatorConfig} (m : NavigatorMuxer) (calls : OtherCalls nav) :
    NavigatorMuxer :=
  calls.foldl (fun m c => MuxerCall.apply m c.val) m

/-- What happens during one `executeCallback()`. -/
structure Execution (nav : NavigatorConfig) where
  duringGoalReceived : OtherCalls nav
  goalReceived : Outcome Bool
  duringRun : OtherCalls nav
  loop : List LoopInput
  haltAllActions : Outcome Unit
  duringCompletion : OtherCalls nav
  /-- `goalCompleted`, which changes the result. -/
  goalCompleted : Outcome (ErrorResult → ErrorResult)
  /-- The call that ends the goal throws. -/
  endThrows : Bool

/-! ## `executeCallback()` -/

/-- The exceptions are `std::exception`s; what they say is logged only. -/
abbrev CallbackM := EStateM Unit NavigatorState

/-- Call the code that behaves as `outcome`. -/
def callOut {α : Type} (outcome : Outcome α) : CallbackM α := do
  modify fun s => { s with entries := outcome.entries, bt := outcome.bt }
  match outcome.value with
  | some a => return a
  | none => throw ()

/-- The other navigators make their calls. -/
def meanwhile {nav : NavigatorConfig} (calls : OtherCalls nav) : CallbackM Unit :=
  modify fun s => { s with muxer := muxerAfter s.muxer calls }

/-- `BehaviorTreeNavigator::onGoalReceived`. -/
def onGoalReceived (nav : NavigatorConfig) (x : Execution nav) : CallbackM Bool := do
  if (← get).muxer.isNavigating then
    return false
  else
    meanwhile x.duringGoalReceived
    let goalAccepted ← callOut x.goalReceived
    if goalAccepted then
      modify fun s => { s with muxer := s.muxer.startNavigating nav.getName }
    return goalAccepted

/-- The loop in `BehaviorTreeEngine::run`. -/
def runLoop : List LoopInput → CallbackM BtStatus
  | [] => return .failed
  | input :: rest => do
    if input.canceling then
      callOut input.haltTree
      return .canceled
    else
      let result ← callOut input.tickOnce
      callOut input.onLoop
      if result = .running then
        runLoop rest
      else
        return if result = .success then .succeeded else .failed

/-- `BehaviorTreeEngine::run`: an exception is a failure. -/
def BehaviorTreeEngine.run (loop : List LoopInput) : CallbackM BtStatus :=
  tryCatch (runLoop loop) fun _ => return .failed

/-- The error code of one prefix, if it can be read, with its message. -/
def errorEntry (entries : Entries) (codePrefix : String) : Option (Int × Option String) :=
  (entries.getInt (codePrefix ++ "_error_code")).map fun code =>
    (code, entries.getString (codePrefix ++ "_error_msg"))

/-- `populateErrorCode(result)`, on any result. -/
def populateErrorCodeInto (prefixes : List String) (s : NavigatorState) (result : ErrorResult) :
    ErrorResult :=
  s.bt.populateErrorCode (prefixes.filterMap (errorEntry s.entries)) result

/-- `populateErrorCode(result)`, on a new result. -/
def populateErrorCode (prefixes : List String) (s : NavigatorState) : ErrorResult :=
  populateErrorCodeInto prefixes s default

/-- `BehaviorTreeNavigator::onCompletion`. -/
def onCompletion (nav : NavigatorConfig) (x : Execution nav) (result : ErrorResult) :
    CallbackM ErrorResult := do
  modify fun s => { s with muxer := s.muxer.stopNavigating nav.getName }
  meanwhile x.duringCompletion
  let complete ← callOut x.goalCompleted
  return complete result

/-- The call of the action server that ends the goal. -/
def endGoal (throws : Bool) (call : Call ErrorResult) : CallbackM Unit := do
  if throws then
    throw ()
  else
    modify fun s => { s with calls := call :: s.calls }

/-- `blackboard_->set(key, value)`. -/
def setEntry (key : String) (value : EntryValue) : CallbackM Unit := do
  match (← get).entries.set key value with
  | some entries => modify fun s => { s with entries := entries }
  | none => throw ()

/-- `cleanErrorCodes()`. -/
def cleanErrorCodes : List String → CallbackM Unit
  | [] => modify fun s => { s with bt := s.bt.resetInternalError }
  | codePrefix :: prefixes => do
    setEntry (codePrefix ++ "_error_code") (.number 0)
    setEntry (codePrefix ++ "_error_msg") (.text "")
    cleanErrorCodes prefixes

/-- `executeCallback()`. -/
def executeCallback (nav : NavigatorConfig) (x : Execution nav) : CallbackM Unit := do
  if !(← onGoalReceived nav x) then
    let result := populateErrorCode nav.errorCodeNamePrefixes (← get)
    endGoal x.endThrows (.terminateCurrent result)
    cleanErrorCodes nav.errorCodeNamePrefixes
  else
    meanwhile x.duringRun
    let rc ← BehaviorTreeEngine.run x.loop
    callOut x.haltAllActions
    let result := populateErrorCode nav.errorCodeNamePrefixes (← get)
    let result ← onCompletion nav x result
    endGoal x.endThrows (reportCall rc result)
    cleanErrorCodes nav.errorCodeNamePrefixes

end Nav3D.BtNavigator

/-
Nav3D.Lifecycle.LifecycleManager — `nav3d_lifecycle_manager` with the
managed nodes it talks to (`lifecycle_manager.cpp`,
`lifecycle_service_client.cpp`).

The manager runs one callback at a time, so a callback is a computation on
one state. That state also holds the world: the lifecycle state of every
managed node, which changes through the manager's requests only, and the
number of questions asked so far. What the outside answers to a question
(does the service reply, does the transition succeed, is the bond formed)
comes from an `Env`, which may answer differently each time.

A computation can fail in two ways: a `std::runtime_error`, which
`changeStateForAllNodes` catches, and the dereference of a null pointer,
which nothing catches. Log messages are left out.
-/
import Mathlib.Data.List.AList
import Mathlib.Logic.Function.Basic

namespace Nav3D.Lifecycle

/-! ## Lifecycle of a managed node -/

/-- The primary states of a ROS 2 lifecycle node. -/
inductive LifecycleState where
  | unconfigured
  | inactive
  | active
  | finalized
  deriving DecidableEq, Repr

/-- The transitions the manager requests (`lifecycle_msgs/msg/Transition`). -/
inductive LifecycleTransition where
  | configure
  | cleanup
  | activate
  | deactivate
  | unconfiguredShutdown
  deriving DecidableEq, Repr

/-- `transition_state_map_`: the state each transition has to end in. -/
def transitionStateMap : LifecycleTransition → LifecycleState
  | .configure => .inactive
  | .cleanup => .unconfigured
  | .activate => .active
  | .deactivate => .inactive
  | .unconfiguredShutdown => .finalized

/-- The states in which a ROS 2 lifecycle node knows a transition. -/
def LifecycleTransition.isLegal : LifecycleTransition → LifecycleState → Bool
  | .configure, .unconfigured => true
  | .cleanup, .inactive => true
  | .activate, .inactive => true
  | .deactivate, .active => true
  | .unconfiguredShutdown, .unconfigured => true
  | _, _ => false

/-- A node carries out a legal transition and refuses any other. -/
def LifecycleTransition.apply (t : LifecycleTransition) (st : LifecycleState) : LifecycleState :=
  if t.isLegal st then transitionStateMap t else st

/-! ## The outside -/

/-- What becomes of a `change_state` request. -/
inductive ChangeStateReply where
  /-- The service answers; it has carried the transition out or failed to. -/
  | answered (succeeds : Bool)
  /-- The wait for the answer is interrupted. -/
  | interrupted (took : Bool)
  /-- The client throws, before or after the transition took effect. -/
  | throws (took : Bool)

/-- The answers of the outside, by the number of the question. -/
structure Env where
  changeState : Nat → String → ChangeStateReply
  /-- Whether `get_state` answers; otherwise it throws. -/
  getState : Nat → String → Bool
  waitUntilFormed : Nat → String → Bool
  isBroken : Nat → String → Bool
  /-- `rclcpp::ok()`. -/
  ok : Nat → Bool
  /-- `now()`, in nanoseconds. -/
  now : Nat → Int

/-! ## The manager -/

/-- A `bond::Bond`; `formed` records what `waitUntilFormed` returned. -/
structure Bond where
  formed : Bool
  deriving DecidableEq

/-- The members of `LifecycleManager`, and the world. Durations are in
milliseconds, times in nanoseconds. -/
structure LifecycleManager where
  nodeNames : List String
  /-- `node_map_`: whether the entry holds a client. -/
  nodeMap : String → Bool
  bondMap : AList fun _ : String => Bond
  bondTimeout : Int
  bondRespawnMaxDuration : Int
  attemptRespawnReconnection : Bool
  systemActive : Bool
  bondTimer : Bool
  bondRespawnTimer : Bool
  bondRespawnStartTime : Int
  /-- The states of the managed nodes. -/
  nodeState : String → LifecycleState
  /-- The states after each `change_state` request so far, newest first. -/
  history : List (String → LifecycleState)
  /-- The number of questions asked so far. -/
  calls : Nat

/-- How a callback can end without returning. -/
inductive Failure where
  | runtimeError
  | nullDeref
  deriving DecidableEq

/-- A callback of the manager, or a part of one. -/
abbrev ManagerM := EStateM Failure LifecycleManager

/-- Ask the outside one question. -/
def ask {α : Type} (question : Nat → α) : ManagerM α := fun s =>
  .ok (question s.calls) { s with calls := s.calls + 1 }

/-- Node `nodeName` receives a transition request and, if `took`, acts on it. -/
def LifecycleManager.request (s : LifecycleManager) (nodeName : String)
    (t : LifecycleTransition) (took : Bool) : LifecycleManager :=
  let nodeState :=
    if took then Function.update s.nodeState nodeName (t.apply (s.nodeState nodeName))
    else s.nodeState
  { s with nodeState := nodeState, history := nodeState :: s.history, calls := s.calls + 1 }

/-- `LifecycleServiceClient::change_state` with its default timeouts. The
`success` field of the answer is not looked at: any answer gives true. -/
def changeState (env : Env) (nodeName : String) (t : LifecycleTransition) : ManagerM Bool := fun s =>
  match env.changeState s.calls nodeName with
  | .answered succeeds => .ok true (s.request nodeName t succeeds)
  | .interrupted took => .ok false (s.request nodeName t took)
  | .throws took => .error .runtimeError (s.request nodeName t took)

/-- `LifecycleServiceClient::get_state`. -/
def getState (env : Env) (nodeName : String) : ManagerM LifecycleState := do
  if ← ask (env.getState · nodeName) then
    let s ← get
    return s.nodeState nodeName
  else throw .runtimeError

/-- `node_map_[node_name]->…`. -/
def derefClient (nodeName : String) : ManagerM Unit := do
  let s ← get
  if s.nodeMap nodeName then pure () else throw .nullDeref

def createBondConnection (env : Env) (nodeName : String) : ManagerM Bool := do
  let s ← get
  if (s.bondMap.lookup nodeName).isNone && decide (0 < s.bondTimeout) then
    let formed ← ask (env.waitUntilFormed · nodeName)
    modify fun s => { s with bondMap := s.bondMap.insert nodeName ⟨formed⟩ }
    return formed
  else return true

/-- The end of `changeStateForNode`, once the node is in the state asked
for. -/
def updateBond (env : Env) (nodeName : String) : LifecycleTransition → ManagerM Bool
  | .activate => createBondConnection env nodeName
  | .deactivate => do
    modify fun s => { s with bondMap := s.bondMap.erase nodeName }
    return true
  | _ => pure true

def changeStateForNode (env : Env) (nodeName : String) (t : LifecycleTransition) :
    ManagerM Bool := do
  derefClient nodeName
  if ← changeState env nodeName t then
    if (← getState env nodeName) = transitionStateMap t then updateBond env nodeName t
    else return false
  else return false

/-- The loop of `changeStateForAllNodes` over the nodes in their order. An
exception ends it whatever `hard_change` says. -/
def changeStateForNodes (env : Env) (t : LifecycleTransition) (hardChange : Bool) :
    List String → ManagerM Bool
  | [] => pure true
  | nodeName :: rest => fun s =>
    match (changeStateForNode env nodeName t).run s with
    | .ok changed s' =>
      if !changed && !hardChange then .ok false s'
      else (changeStateForNodes env t hardChange rest).run s'
    | .error .runtimeError s' => .ok false s'
    | .error .nullDeref s' => .error .nullDeref s'

/-- Forwards for configure and activate, backwards for the others. -/
def changeStateForAllNodes (env : Env) (t : LifecycleTransition) (hardChange : Bool) :
    ManagerM Bool := do
  let s ← get
  match t with
  | .configure | .activate => changeStateForNodes env t hardChange s.nodeNames
  | _ => changeStateForNodes env t hardChange s.nodeNames.reverse

/-- `!(!first || !second)`: the second is run only after a true first. -/
def both (first second : ManagerM Bool) : ManagerM Bool := do
  if ← first then second else return false

/-! ## Commands -/

def createBondTimer : ManagerM Unit :=
  modify fun s => if s.bondTimeout ≤ 0 then s else { s with bondTimer := true }

def destroyBondTimer : ManagerM Unit := modify fun s => { s with bondTimer := false }

def destroyLifecycleServiceClients : ManagerM Unit :=
  modify fun s => { s with nodeMap := fun _ => false }

def setSystemActive (active : Bool) : ManagerM Unit :=
  modify fun s => { s with systemActive := active }

def shutdownAllNodes (env : Env) : ManagerM Unit := do
  let _ ← changeStateForAllNodes env .deactivate false
  let _ ← changeStateForAllNodes env .cleanup false
  let _ ← changeStateForAllNodes env .unconfiguredShutdown false

def startup (env : Env) : ManagerM Bool := do
  if ← both (changeStateForAllNodes env .configure false)
      (changeStateForAllNodes env .activate false) then
    setSystemActive true
    createBondTimer
    return true
  else return false

def shutdown (env : Env) : ManagerM Bool := do
  setSystemActive false
  destroyBondTimer
  shutdownAllNodes env
  destroyLifecycleServiceClients
  return true

def reset (env : Env) (hardReset : Bool) : ManagerM Bool := do
  setSystemActive false
  destroyBondTimer
  let done ← both (changeStateForAllNodes env .deactivate hardReset)
    (changeStateForAllNodes env .cleanup hardReset)
  return done || hardReset

def pause (env : Env) : ManagerM Bool := do
  setSystemActive false
  destroyBondTimer
  changeStateForAllNodes env .deactivate false

def resume (env : Env) : ManagerM Bool := do
  if ← changeStateForAllNodes env .activate false then
    setSystemActive true
    createBondTimer
    return true
  else return false

/-- The commands of `ManageLifecycleNodes`. -/
inductive Command where
  | startup
  | pause
  | resume
  | reset
  | shutdown
  | configure
  | cleanup
  deriving DecidableEq, Repr

/-- `managerCallback`: the value is `response->success`. The `switch` has
no case for the last two commands. -/
def managerCallback (env : Env) : Command → ManagerM Bool
  | .startup => startup env
  | .reset => reset env false
  | .shutdown => shutdown env
  | .pause => pause env
  | .resume => resume env
  | .configure => pure false
  | .cleanup => pure false

/-! ## Timer callbacks -/

/-- The loop of `checkBondConnections`. -/
def checkBonds (env : Env) : List String → ManagerM Unit
  | [] => pure ()
  | nodeName :: rest => do
    if ← ask env.ok then
      let s ← get
      if (s.bondMap.lookup nodeName).isNone then throw .nullDeref
      else if ← ask (env.isBroken · nodeName) then
        let _ ← reset env true
        modify fun s => { s with
          bondMap := ∅
          bondRespawnTimer := s.attemptRespawnReconnection || s.bondRespawnTimer }
      else checkBonds env rest
    else return ()

def checkBondConnections (env : Env) : ManagerM Unit := do
  let s ← get
  if s.systemActive then
    if ← ask env.ok then
      if s.bondMap.keys.isEmpty then return () else checkBonds env s.nodeNames
    else return ()
  else return ()

/-- The loop of `checkBondRespawnConnection`: the number of servers that
answer before the first that does not, or nothing once rclcpp is down. -/
def countLiveServers (env : Env) : List String → ManagerM (Option Nat)
  | [] => return some 0
  | nodeName :: rest => fun s =>
    if env.ok s.calls then
      match (do derefClient nodeName; getState env nodeName).run { s with calls := s.calls + 1 } with
      | .ok _ s' =>
        match (countLiveServers env rest).run s' with
        | .ok live s'' => .ok (live.map (· + 1)) s''
        | .error e s'' => .error e s''
      | .error .runtimeError s' => .ok (some 0) s'
      | .error .nullDeref s' => .error .nullDeref s'
    else .ok none { s with calls := s.calls + 1 }

/-- `bond_respawn_start_time_ = rclcpp::Time(0); bond_respawn_timer_.reset();`. -/
def stopRespawnTimer : ManagerM Unit :=
  modify fun s => { s with bondRespawnStartTime := 0, bondRespawnTimer := false }

def checkBondRespawnConnection (env : Env) : ManagerM Unit := do
  if (← get).bondRespawnStartTime = 0 then
    let time ← ask env.now
    modify fun s => { s with bondRespawnStartTime := time }
  let s ← get
  if s.systemActive || !(← ask env.ok) || s.nodeNames.isEmpty then stopRespawnTimer
  else
    match ← countLiveServers env s.nodeNames with
    | none => return ()
    | some live =>
      if live = s.nodeNames.length then
        stopRespawnTimer
        let _ ← startup env
      else if s.bondRespawnMaxDuration ≤ (← ask env.now) - s.bondRespawnStartTime then
        stopRespawnTimer

end Nav3D.Lifecycle

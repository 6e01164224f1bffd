/-
Nav3D.BtNavigator.DefaultTree — the default behavior tree of
`NavigateToPose`
(`navigate_w_replanning_if_path_becomes_invalid_or_goal_is_updated.xml`).

The state holds the blackboard and the members of all nodes. What comes
from outside during a tick is an argument: the clock, the messages of the
selectors, how `TruncatePathLocal` cuts a path at the robot's pose, what the
service `is_path_valid` answers to a path, and what the two action clients
see while they are spun. Goals of preempting requests are written between
ticks. Poses and paths are any types; `default` is the empty message.
What the nodes publish is left out.
-/
import Nav3D.BehaviorTree.BtActionServer
import Nav3D.BehaviorTree.Plugins
import Nav3D.BehaviorTree.BtActionNode

namespace Nav3D.BtNavigator

open Nav3D.Ros Nav3D.BehaviorTree StateInvariant
open BT (NodeStatus StatusCell TreeNode leaf)

/-! ## The blackboard and the messages -/

structure Blackboard (Pose Path : Type) where
  goal : Pose
  goals : List Pose
  path : Option Path
  remainingPath : Option Path
  selectedController : String
  selectedPlanner : String
  computePathError : ErrorResult
  followPathError : ErrorResult
  deriving DecidableEq

/-- `nav3d_msgs/ComputePathToPose` goal. -/
structure ComputePathGoal (Pose : Type) where
  goal : Pose
  start : Pose
  plannerId : String
  useStart : Bool
  deriving DecidableEq, Inhabited

structure ComputePathResult (Path : Type) where
  path : Path
  error : ErrorResult
  deriving DecidableEq

/-- `nav3d_msgs/FollowPath` goal. -/
structure FollowPathGoal (Path : Type) where
  path : Path
  controllerId : String
  goalCheckerId : String
  progressCheckerId : String
  deriving DecidableEq, Inhabited

def computePathTimeout : UInt16 := 207

def controllerTimedOut : UInt16 := 107

def actionTimedOutMsg : String := "Behavior Tree action client timed out waiting."

section Hooks

variable {Pose Path : Type} [Inhabited Pose] [Inhabited Path]

/-! ## `ComputePathToPoseAction` -/

/-- The ports that the default tree leaves out. -/
structure ComputePathPorts (Pose : Type) where
  useStart : Option Bool := none
  start : Option Pose := none

/-- The part of `on_tick()` that reads the start pose. -/
def ComputePathPorts.readStart (ports : ComputePathPorts Pose) (goal : ComputePathGoal Pose) :
    ComputePathGoal Pose :=
  match ports.useStart, ports.start with
  | some true, some start | none, some start => { goal with start := start, useStart := true }
  | _, _ => { goal with useStart := false }

abbrev ComputePathM (Pose Path : Type) := HookM (ComputePathGoal Pose) (Blackboard Pose Path)

/-- `setOutput("path", ..)` and the error outputs. -/
def outputPath (path : Path) (error : ErrorResult) : ComputePathM Pose Path Unit :=
  modify fun h =>
    { h with blackboard := { h.blackboard with path := some path, computePathError := error } }

def computePathToPoseHooks (ports : ComputePathPorts Pose) :
    ActionHooks (ComputePathGoal Pose) (ComputePathResult Path) Unit (Blackboard Pose Path) where
  emptyGoal := default
  onTick := modify fun h =>
    { h with
      goal := ports.readStart { h.goal with
        goal := h.blackboard.goal
        plannerId := h.blackboard.selectedPlanner } }
  onSuccess
    | none => throw ()
    | some result => do
      outputPath result.path default
      return .success
  onAborted
    | none => throw ()
    | some result => do
      outputPath default result.error
      return .failure
  onCancelled _ := do
    outputPath default default
    return .success
  onTimeout := modify fun h =>
    { h with blackboard := { h.blackboard with
        computePathError := ⟨computePathTimeout, actionTimedOutMsg⟩ } }

/-! ## `FollowPathAction` -/

/-- The ports that the default tree leaves out. -/
structure FollowPathPorts where
  goalCheckerId : Option String := none
  progressCheckerId : Option String := none

abbrev FollowPathM (Pose Path : Type) := HookM (FollowPathGoal Path) (Blackboard Pose Path)

def outputFollowError (error : ErrorResult) : FollowPathM Pose Path Unit :=
  modify fun h => { h with blackboard := { h.blackboard with followPathError := error } }

/-- One of the fields that `on_wait_for_result()` compares with its port. -/
def updateId (field : FollowPathGoal Path → String)
    (setField : String → FollowPathGoal Path → FollowPathGoal Path) (id : String)
    (h : HookState (FollowPathGoal Path) (Blackboard Pose Path)) :
    HookState (FollowPathGoal Path) (Blackboard Pose Path) :=
  if field h.goal ≠ id then { h with goal := setField id h.goal, goalUpdated := true } else h

/-- The comparison of the path in `on_wait_for_result()`. -/
def updatePath [DecidableEq Path]
    (h : HookState (FollowPathGoal Path) (Blackboard Pose Path)) :
    HookState (FollowPathGoal Path) (Blackboard Pose Path) :=
  let newPath := h.blackboard.path.getD default
  if h.goal.path ≠ newPath ∧ newPath ≠ default then
    { h with goal := { h.goal with path := newPath }, goalUpdated := true }
  else h

def followPathHooks [DecidableEq Path] (ports : FollowPathPorts) :
    ActionHooks (FollowPathGoal Path) ErrorResult Unit (Blackboard Pose Path) where
  emptyGoal := default
  onTick := modify fun h =>
    { h with goal :=
      { path := h.blackboard.path.getD h.goal.path
        controllerId := h.blackboard.selectedController
        goalCheckerId := ports.goalCheckerId.getD h.goal.goalCheckerId
        progressCheckerId := ports.progressCheckerId.getD h.goal.progressCheckerId } }
  onWaitForResult _ := do
    modify updatePath
    modify fun h => updateId (·.controllerId) (fun id g => { g with controllerId := id })
      h.blackboard.selectedController h
    modify fun h => updateId (·.goalCheckerId) (fun id g => { g with goalCheckerId := id })
      (ports.goalCheckerId.getD "") h
    modify fun h => updateId (·.progressCheckerId) (fun id g => { g with progressCheckerId := id })
      (ports.progressCheckerId.getD "") h
  onSuccess _ := do
    outputFollowError default
    return .success
  onAborted
    | none => throw ()
    | some error => do
      outputFollowError error
      return .failure
  onCancelled _ := do
    outputFollowError default
    return .success
  onTimeout := outputFollowError ⟨controllerTimedOut, actionTimedOutMsg⟩

end Hooks

/-! ## The tree -/

/-- The nodes that are no action nodes. -/
inductive NodeId where
  | navigateWithReplanning
  | controllerSelector
  | plannerSelector
  | rateController
  | reactiveFallback
  | reactiveSequence
  | inverter
  | globalUpdatedGoal
  | truncatePathLocal
  | publishPath
  | isPathValid
  deriving DecidableEq

/-- `path_` of `TruncatePathLocal` and `closest_pose_detection_begin_`, as an
offset into it. -/
structure Pruning (Path : Type) where
  path : Path
  closestPoseDetectionBegin : Nat
  deriving DecidableEq

/-- The blackboard and the members of the nodes. -/
structure TreeState (Pose Path : Type) where
  blackboard : Blackboard Pose Path
  statuses : NodeId → NodeStatus
  lastChildTicked : Nat
  lastSelectedController : String
  lastSelectedPlanner : String
  rate : RateController
  updatedGoal : GloballyUpdatedGoal Pose
  pruning : Pruning Path
  computePath :
    ActionNode (ComputePathGoal Pose) (ComputePathResult Path) Unit (Blackboard Pose Path)
  followPath : ActionNode (FollowPathGoal Path) ErrorResult Unit (Blackboard Pose Path)

/-- What comes from outside in one tick or one halt. -/
structure TreeInput (Path : Type) where
  clock : RateClock
  /-- The messages that the selectors receive. -/
  controller : Option String
  planner : Option String
  /-- What `TruncatePathLocal` makes of `path_`: nothing without the robot's
  pose, otherwise the output and where it goes on next time. It is undefined
  where the node would leave the vector. -/
  truncate : Pruning Path → Option (Option (Path × Nat))
  /-- What `is_path_valid` answers to a path, false if it does not answer in
  time. -/
  valid : Path → Bool
  compute : TickInput (ComputePathResult Path) Unit
  computeHalt : HaltInput (ComputePathResult Path) Unit
  follow : TickInput ErrorResult Unit
  followHalt : HaltInput ErrorResult Unit

/-- The timeouts of the two action nodes. -/
structure TreeParams where
  compute : ActionParams
  follow : ActionParams

variable {Pose Path : Type}

abbrev TreeM (Pose Path : Type) := EStateM ActionFailure (TreeState Pose Path)

abbrev Node (Pose Path : Type) := TreeNode ActionFailure (TreeState Pose Path)

/-- Where the status of a node is kept. -/
def cell (id : NodeId) : StatusCell (TreeState Pose Path) where
  status s := s.statuses id
  setStatus status s :=
    { s with statuses := fun other => if other = id then status else s.statuses other }

def pipelineCell : PipelineCell (TreeState Pose Path) where
  toStatusCell := cell .navigateWithReplanning
  lastChildTicked s := s.lastChildTicked
  setLastChildTicked i s := { s with lastChildTicked := i }

def rateCell : RateControllerCell (TreeState Pose Path) where
  toStatusCell := cell .rateController
  members s := s.rate
  setMembers rate s := { s with rate := rate }

def controllerCell : SelectorCell (TreeState Pose Path) where
  toStatusCell := cell .controllerSelector
  lastSelected s := s.lastSelectedController
  setLastSelected selected s := { s with lastSelectedController := selected }
  setOutput selected s :=
    { s with blackboard := { s.blackboard with selectedController := selected } }

def plannerCell : SelectorCell (TreeState Pose Path) where
  toStatusCell := cell .plannerSelector
  lastSelected s := s.lastSelectedPlanner
  setLastSelected selected s := { s with lastSelectedPlanner := selected }
  setOutput selected s :=
    { s with blackboard := { s.blackboard with selectedPlanner := selected } }

def controllerSelector (input : TreeInput Path) : Node Pose Path :=
  selector controllerCell "FollowPath" input.controller

def plannerSelector (input : TreeInput Path) : Node Pose Path :=
  selector plannerCell "Moveit" input.planner

/-- `GloballyUpdatedGoalCondition::tick()` on the blackboard of the tree. -/
def tickUpdatedGoal [DecidableEq Pose] : TreeM Pose Path NodeStatus := do
  let s ← get
  let (status, members) := s.updatedGoal.tick s.blackboard.goal s.blackboard.goals
  set { s with updatedGoal := members }
  return status

def globalUpdatedGoal [DecidableEq Pose] : Node Pose Path :=
  leaf (cell .globalUpdatedGoal) tickUpdatedGoal

/-- {path} as a node reads it. Without an entry it is an empty path. -/
def readPath [Inhabited Path] (s : TreeState Pose Path) : Path := s.blackboard.path.getD default

/-- The input path is taken over, unless it is the one that is pruned. -/
def Pruning.rebase [DecidableEq Path] (inputPath : Path) (m : Pruning Path) : Pruning Path :=
  if inputPath ≠ m.path then ⟨inputPath, 0⟩ else m

/-- `TruncatePathLocal::tick()` on the blackboard of the tree. -/
def tickTruncatePathLocal [Inhabited Path] [DecidableEq Path] (input : TreeInput Path) :
    TreeM Pose Path NodeStatus := do
  modify ((cell .truncatePathLocal).setStatus .running)
  modify fun s => { s with pruning := s.pruning.rebase (readPath s) }
  match input.truncate (← get).pruning with
  -- undefined behavior
  | none => throw .nullDeref
  | some none => return .failure
  | some (some (path, begin)) => do
    modify fun s => { s with
      blackboard := { s.blackboard with remainingPath := some path }
      pruning := { s.pruning with closestPoseDetectionBegin := begin } }
    return .success

/-- `TruncatePathLocal`, whose `halt()` is empty. -/
def truncatePathLocal [Inhabited Path] [DecidableEq Path] (input : TreeInput Path) :
    Node Pose Path where
  toStatusCell := cell .truncatePathLocal
  tick := tickTruncatePathLocal input
  halt := pure ⟨⟩

def publishPath : Node Pose Path :=
  leaf (cell .publishPath) do
    return if (← get).blackboard.remainingPath.isSome then .success else .failure

def isPathValid (input : TreeInput Path) : Node Pose Path :=
  leaf (cell .isPathValid) do
    return if (← get).blackboard.remainingPath.any input.valid then .success else .failure

/-- `ComputePathToPoseAction` on the blackboard of the tree. -/
def viewCompute (s : TreeState Pose Path) :
    ActionNode (ComputePathGoal Pose) (ComputePathResult Path) Unit (Blackboard Pose Path) :=
  { s.computePath with hook := { s.computePath.hook with blackboard := s.blackboard } }

def putCompute
    (node : ActionNode (ComputePathGoal Pose) (ComputePathResult Path) Unit (Blackboard Pose Path))
    (s : TreeState Pose Path) : TreeState Pose Path :=
  { s with computePath := node, blackboard := node.hook.blackboard }

/-- `FollowPathAction` on the blackboard of the tree. -/
def viewFollow (s : TreeState Pose Path) :
    ActionNode (FollowPathGoal Path) ErrorResult Unit (Blackboard Pose Path) :=
  { s.followPath with hook := { s.followPath.hook with blackboard := s.blackboard } }

def putFollow (node : ActionNode (FollowPathGoal Path) ErrorResult Unit (Blackboard Pose Path))
    (s : TreeState Pose Path) : TreeState Pose Path :=
  { s with followPath := node, blackboard := node.hook.blackboard }

variable [Inhabited Pose] [Inhabited Path]

/-- `ComputePathToPose`, whose `halt()` clears the path. -/
def computePathToPose (params : TreeParams) (input : TreeInput Path) : Node Pose Path where
  status s := s.computePath.status
  setStatus status s := { s with computePath := { s.computePath with status := status } }
  tick := zoom viewCompute putCompute
    (BehaviorTree.tick (computePathToPoseHooks {}) params.compute input.compute)
  halt := do
    modify fun s => { s with blackboard := { s.blackboard with path := some default } }
    zoom viewCompute putCompute
      (BehaviorTree.halt (computePathToPoseHooks {}) input.computeHalt)

variable [DecidableEq Path]

def followPath (params : TreeParams) (input : TreeInput Path) : Node Pose Path where
  status s := s.followPath.status
  setStatus status s := { s with followPath := { s.followPath with status := status } }
  tick := zoom viewFollow putFollow
    (BehaviorTree.tick (followPathHooks {}) params.follow input.follow)
  halt := zoom viewFollow putFollow (BehaviorTree.halt (followPathHooks {}) input.followHalt)

variable [DecidableEq Pose]

/-- No child returns IDLE. -/
def idleChild : ActionFailure := .hookFailed

def reactiveSequence (input : TreeInput Path) : Node Pose Path :=
  BT.reactiveSequence idleChild (cell .reactiveSequence)
    [BT.inverter idleChild (cell .inverter) globalUpdatedGoal,
      truncatePathLocal input, publishPath, isPathValid input]

def reactiveFallback (params : TreeParams) (input : TreeInput Path) : Node Pose Path :=
  BT.reactiveFallback idleChild (cell .reactiveFallback)
    [reactiveSequence input, computePathToPose params input]

/-- `hz="1.0"`. -/
def replanningPeriod : Int := 1000

/-- The children of the pipeline before `FollowPath`. -/
def planning (params : TreeParams) (input : TreeInput Path) : List (Node Pose Path) :=
  [controllerSelector input, plannerSelector input,
    rateController rateCell (some replanningPeriod) input.clock (reactiveFallback params input)]

def pipeline (params : TreeParams) (input : TreeInput Path) : List (Node Pose Path) :=
  planning params input ++ [followPath params input]

/-- `NavigateWithReplanning`. -/
def navigateWithReplanning (params : TreeParams) (input : TreeInput Path) : Node Pose Path :=
  pipelineSequence idleChild pipelineCell (pipeline params input)

/-! ## Runs -/

/-- `Tree::tickOnce()`: a root that has completed is reset. -/
def tickOnce (params : TreeParams) (input : TreeInput Path) : TreeM Pose Path NodeStatus := do
  let status ← (navigateWithReplanning params input).executeTick
  if status.isCompleted then do
    (navigateWithReplanning params input).resetStatus
    return status
  else return status

/-- The nodes that are no action nodes, in the order of a recursive
visitor, which comes to the action nodes last. -/
def plainNodes (params : TreeParams) (input : TreeInput Path) : List (Node Pose Path) :=
  [navigateWithReplanning params input, controllerSelector input, plannerSelector input,
    rateController rateCell (some replanningPeriod) input.clock (reactiveFallback params input),
    reactiveFallback params input, reactiveSequence input,
    BT.inverter idleChild (cell .inverter) globalUpdatedGoal, globalUpdatedGoal,
    truncatePathLocal input, publishPath, isPathValid input]

/-- `Tree::haltTree()`. -/
def haltTree (params : TreeParams) (input : TreeInput Path) : TreeM Pose Path Unit :=
  BT.haltTree (navigateWithReplanning params input)
    (plainNodes params input ++ [computePathToPose params input, followPath params input])

/-- The tree as it is loaded, with a first goal. -/
def TreeState.initial (goal : Pose) : TreeState Pose Path where
  blackboard := ⟨goal, [], none, none, "", "", default, default⟩
  statuses := fun _ => .idle
  lastChildTicked := 0
  lastSelectedController := ""
  lastSelectedPlanner := ""
  rate := ⟨false, 0, 0⟩
  updatedGoal := ⟨true, default, []⟩
  pruning := ⟨default, 0⟩
  computePath := .initial (computePathToPoseHooks {})
    ⟨goal, [], none, none, "", "", default, default⟩
  followPath := .initial (followPathHooks {})
    ⟨goal, [], none, none, "", "", default, default⟩

inductive TreeLabel (Pose Path : Type) where
  /-- A goal is written to the blackboard, by a preempting or a next request. -/
  | goal (goal : Pose)
  | tick (input : TreeInput Path)
  | halt (input : TreeInput Path)
  /-- The servers go on. -/
  | computeServer (e : ServerEvent (ComputePathResult Path))
  | followServer (e : ServerEvent ErrorResult)

/-- The state after a call. `BehaviorTreeEngine::run` survives a
`std::logic_error`; the other exceptions are caught within the tree or are
dereferences of null. -/
def afterTreeCall {α : Type} (x : TreeM Pose Path α) (s : TreeState Pose Path) :
    Option (TreeState Pose Path) :=
  match x.run s with
  | .ok _ s' => some s'
  | .error .invalidStatus s' => some s'
  | .error _ _ => none

/-- The tree under a tick, a halt, a goal or a step of a server. -/
def treeStep (params : TreeParams) (s : TreeState Pose Path) :
    TreeLabel Pose Path → Option (TreeState Pose Path)
  | .goal goal => some { s with blackboard := { s.blackboard with goal := goal } }
  | .tick input => afterTreeCall (tickOnce params input) s
  | .halt input => afterTreeCall (haltTree params input) s
  | .computeServer e =>
    some { s with computePath :=
      { s.computePath with requests := e.apply s.computePath.requests } }
  | .followServer e =>
    some { s with followPath := { s.followPath with requests := e.apply s.followPath.requests } }

end Nav3D.BtNavigator

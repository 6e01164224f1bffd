/-
Nav3D.BtNavigator.ServedNavigations — navigations in which {path} is cut by
`TruncatePathLocal` and checked by the planner server.

The ports of `TruncatePathLocal` are those of the default tree. From outside
come the poses of the robot, and which planner server answers `is_path_valid`
in time. The node of the tree is `TruncatePathLocal::tick()` with the members
that the tree keeps (`truncateAt_rebase`). It passes an empty path on, and
the planner server finds that not valid (`served_not_foundValid`).
-/
import Nav3D.BehaviorTree.TruncatePathLocal
import Nav3D.BtNavigator.PlanningNodes
import Nav3D.Planner.PathValidity

namespace Nav3D.BtNavigator

open Nav3D.Ros Nav3D.BehaviorTree Transition.System
open Nav3D.Controller (PoseStamped)
open Nav3D.Planner (PlannerServer ServiceBehavior)

/-- An empty message. -/
instance TruncatePathLocal.inhabitedPath {K : Type} : Inhabited (TruncatePathLocal.Path K) :=
  ⟨⟨⟨0, ""⟩, []⟩⟩

variable {Pose K : Type} [Field K] [LinearOrder K]

/-! ## `TruncatePathLocal` in the default tree -/

/-- The ports as the tree sets them. `pose` and `angular_distance_weight` are
not set. -/
def treePorts (path : TruncatePathLocal.Path K)
    (getCurrentPose : String → String → K → Option (PoseStamped K)) : TruncatePathLocal.Inputs K where
  inputPath := path
  distanceForward := ((5 : Nat) : K)
  distanceBackward := 0
  robotFrame := some "base_link"
  transformTolerance := 1 / ((10 : Nat) : K)
  pose := none
  angularDistanceWeight := 0
  maxRobotPoseSearchDist := some ((3 : Nat) : K)
  mode := "remaining"
  resampleDistance := 0
  maxOutputPoses := 60
  getCurrentPose := getCurrentPose

/-- The members of the node. -/
def Pruning.members (m : Pruning (TruncatePathLocal.Path K)) : TruncatePathLocal.Members K :=
  ⟨m.path, m.closestPoseDetectionBegin⟩

/-- What a tick writes to {remaining_path}, and where it goes on next time. -/
def written (t : TruncatePathLocal.Ticked K) : Option (TruncatePathLocal.Path K × Nat) :=
  t.outputPath.map fun path => (path, t.members.closestPoseDetectionBegin)

/-- What the node makes of the path that it has taken over. -/
def truncateAt (fns : TruncatePathLocal.Functions K)
    (getCurrentPose : String → String → K → Option (PoseStamped K))
    (m : Pruning (TruncatePathLocal.Path K)) :
    Option (Option (TruncatePathLocal.Path K × Nat)) :=
  (TruncatePathLocal.tick fns (treePorts m.path getCurrentPose) m.members).map written

/-- **The node of the tree** is `TruncatePathLocal::tick()` on {path}. -/
theorem truncateAt_rebase (fns : TruncatePathLocal.Functions K)
    (getCurrentPose : String → String → K → Option (PoseStamped K))
    (path : TruncatePathLocal.Path K) (m : Pruning (TruncatePathLocal.Path K)) :
    truncateAt fns getCurrentPose (m.rebase path) =
      (TruncatePathLocal.tick fns (treePorts path getCurrentPose) m.members).map written := by
  have hpath := Pruning.rebase_path path m
  -- the path is taken over once
  have hmembers : TruncatePathLocal.rebase (treePorts path getCurrentPose) (m.rebase path).members =
      TruncatePathLocal.rebase (treePorts path getCurrentPose) m.members := by
    unfold Pruning.rebase
    by_cases hnew : path = m.path
    · rw [if_neg (not_not.mpr hnew)]
    · rw [if_pos hnew]
      simp [TruncatePathLocal.rebase, treePorts, Pruning.members, hnew]
  rw [truncateAt, hpath]
  simp only [TruncatePathLocal.tick, hmembers]

/-- It passes an empty path on, unless the robot's pose is not available. -/
theorem truncateAt_empty (fns : TruncatePathLocal.Functions K)
    (getCurrentPose : String → String → K → Option (PoseStamped K))
    {m : Pruning (TruncatePathLocal.Path K)} (hempty : m.path.poses = [])
    {path : TruncatePathLocal.Path K} {begin : Nat}
    (h : truncateAt fns getCurrentPose m = some (some (path, begin))) : path = m.path := by
  have hpath : (TruncatePathLocal.rebase (treePorts m.path getCurrentPose) m.members).path =
      m.path := TruncatePathLocal.rebase_path _ _
  unfold truncateAt TruncatePathLocal.tick at h
  dsimp only at h
  rw [hpath] at h
  cases hpose : TruncatePathLocal.getRobotPose (treePorts m.path getCurrentPose)
      m.path.header.frameId with
  | none =>
    rw [hpose] at h
    cases h
  | some pose =>
    rw [hpose] at h
    dsimp only at h
    rw [if_pos hempty] at h
    cases h
    rfl

/-! ## The planner server -/

/-- What the planner server answers to a path, false if none answers in
time. -/
def answerOf (server : Option (PlannerServer × (Nat → ServiceBehavior K)))
    (path : TruncatePathLocal.Path K) : Bool :=
  match server with
  | none => false
  | some (server, service) => (server.isPathValid service (path.poses.map (·.pose))).2.isValid

omit [Field K] [LinearOrder K] in
/-- An empty path is not valid. -/
theorem answerOf_empty (server : Option (PlannerServer × (Nat → ServiceBehavior K)))
    {path : TruncatePathLocal.Path K} (hempty : path.poses = []) :
    answerOf server path = false := by
  unfold answerOf
  split
  · rfl
  · rw [hempty]
    rfl

/-! ## Served navigations -/

/-- What comes from outside in one tick or one halt. -/
structure ServedInput (K : Type) where
  clock : RateClock
  controller : Option String
  planner : Option String
  /-- `nav3d_util::getCurrentPose`. -/
  getCurrentPose : String → String → K → Option (PoseStamped K)
  /-- The planner server that answers `is_path_valid` in time, and what its
  own service does. -/
  server : Option (PlannerServer × (Nat → ServiceBehavior K))
  compute : TickInput (ComputePathResult (TruncatePathLocal.Path K)) Unit
  computeHalt : HaltInput (ComputePathResult (TruncatePathLocal.Path K)) Unit
  follow : TickInput ErrorResult Unit
  followHalt : HaltInput ErrorResult Unit

/-- The same with what the node and the server make of a path. -/
def ServedInput.serve (fns : TruncatePathLocal.Functions K) (input : ServedInput K) :
    TreeInput (TruncatePathLocal.Path K) where
  clock := input.clock
  controller := input.controller
  planner := input.planner
  truncate := truncateAt fns input.getCurrentPose
  valid := answerOf input.server
  compute := input.compute
  computeHalt := input.computeHalt
  follow := input.follow
  followHalt := input.followHalt

/-- **An empty path is not found valid.** -/
theorem served_not_foundValid (fns : TruncatePathLocal.Functions K) (input : ServedInput K) :
    ¬ FoundValid (input.serve fns) default := by
  rintro ⟨m, cut, begin, hm, htruncate, hvalid⟩
  have hempty : m.path.poses = [] := by
    rw [hm]
    rfl
  have hcut : cut = m.path := truncateAt_empty fns input.getCurrentPose hempty htruncate
  have hinvalid : answerOf input.server cut = false := answerOf_empty _ (by rw [hcut, hempty])
  have hvalid : answerOf input.server cut = true := hvalid
  rw [hinvalid] at hvalid
  cases hvalid

abbrev ServedLabel (Pose K : Type) :=
  NavigationEvent Pose (TruncatePathLocal.Path K) (ServedInput K)

variable [DecidableEq Pose] [Inhabited Pose]

/-- Any sequence of navigations with the default tree, its nodes and the
planner server. -/
def servedSystem (fns : TruncatePathLocal.Functions K) (params : TreeParams) :
    Transition.System (Navigation Pose (TruncatePathLocal.Path K)) (ServedLabel Pose K) where
  init := (navigationSystem params).init
  step s l := navigationStep params s (l.map (ServedInput.serve fns))

end Nav3D.BtNavigator

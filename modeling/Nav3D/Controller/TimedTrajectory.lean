/-
Nav3D.Controller.TimedTrajectory — `generateTimedTrajectory()` and
`isGoalReached()` of the controller server (`controller_server.cpp`).

Both are translated over any type of doubles. The functions of tf2, of the
`angles` library and `rclcpp::Duration::from_seconds` are a parameter; the
readings of the clock, the speed limit and the pose of the robot are
arguments. The reference filter that `generateTimedTrajectory()` resets is
in `Nav3D.Controller.ReferenceFilter`.
-/
import Nav3D.Controller.ReferenceFilter
import Nav3D.Ros.Messages

namespace Nav3D.Controller

open Nav3D.Px4 (Double Vec3 Pose stdMax)

/-- `geometry_msgs/PoseStamped`, with its time in nanoseconds. -/
abbrev PoseStamped (D : Type) : Type := Msg.PoseStamped Int (Pose D)

/-- The type of `current_path_`. -/
abbrev TimedPath (D : Type) : Type := List (Int × PoseStamped D)

/-- The functions of other libraries. -/
structure TrajectoryLib (D : Type) where
  angles : Angles D
  /-- `rclcpp::Duration::from_seconds`, in nanoseconds. -/
  fromSeconds : D → Int

/-- The parameters that `isGoalReached()` reads. -/
structure GoalTolerances (D : Type) where
  xyzGoalTolerance : D
  yawGoalTolerance : D

section Trajectory

variable {D : Type} [Double D]

/-- The defaults that the constructor declares. -/
def GoalTolerances.defaults : GoalTolerances D where
  xyzGoalTolerance := 0.1
  yawGoalTolerance := 0.1

/-- The distance of two positions as both functions compute it. -/
def distance (p q : Vec3 D) : D :=
  let dx := p.x - q.x
  let dy := p.y - q.y
  let dz := p.z - q.z
  Double.sqrt (dx * dx + dy * dy + dz * dz)

/-- `angles::shortest_angular_distance`. -/
def shortestAngularDistance (lib : TrajectoryLib D) (src dst : D) : D :=
  lib.angles.normalizeAngle (dst - src)

/-! ## The trajectory -/

/-- A pose at its time, which is also its stamp. -/
def timedPose (t : Int) (p : PoseStamped D) : Int × PoseStamped D := (t, p.stampedAt t)

/-- The duration of a segment. -/
def segmentDuration (v : D) (p0 p1 : PoseStamped D) : D :=
  stdMax (distance p1.pose.position p0.pose.position / v) 0.01

/-- The `for` loop: the poses that follow `previous`. -/
def timedPoses (lib : TrajectoryLib D) (startTime : Int) (v : D) :
    PoseStamped D → D → List (PoseStamped D) → TimedPath D
  | _, _, [] => []
  | previous, accumulatedTime, p :: poses =>
    let accumulatedTime := accumulatedTime + segmentDuration v previous p
    timedPose (startTime + lib.fromSeconds accumulatedTime) p ::
      timedPoses lib startTime v p accumulatedTime poses

/-- What `generateTimedTrajectory(path)` puts into `current_path_`, for a
path that it does not refuse. -/
def timedTrajectory (lib : TrajectoryLib D) (now : Int) (speedLimit : D) :
    List (PoseStamped D) → TimedPath D
  | [] => []
  | p :: poses =>
    let startTime := now + lib.fromSeconds 0.1
    timedPose startTime p :: timedPoses lib startTime (stdMax 1e-3 speedLimit) p 0.0 poses

theorem untimed_timedPoses (lib : TrajectoryLib D) (startTime : Int) (v : D)
    (previous : PoseStamped D) (accumulatedTime : D) (poses : List (PoseStamped D)) :
    (timedPoses lib startTime v previous accumulatedTime poses).map (·.2.untimed) =
      poses.map (·.untimed) := by
  induction poses generalizing previous accumulatedTime with
  | nil => rfl
  | cons p poses ih =>
    simp only [timedPoses, List.map_cons]
    rw [ih]
    rfl

/-- The trajectory goes through the poses of the path, in their order. -/
theorem untimed_timedTrajectory (lib : TrajectoryLib D) (now : Int) (speedLimit : D)
    (path : List (PoseStamped D)) :
    (timedTrajectory lib now speedLimit path).map (·.2.untimed) = path.map (·.untimed) := by
  cases path with
  | nil => rfl
  | cons p poses =>
    simp only [timedTrajectory, List.map_cons]
    rw [untimed_timedPoses]
    rfl

/-- `trajectory` is what `generateTimedTrajectory()` makes of `path`, at
some time and speed limit. -/
def TimedVersion (lib : TrajectoryLib D) (path : List (PoseStamped D)) (trajectory : TimedPath D) :
    Prop :=
  ∃ now speedLimit, trajectory = timedTrajectory lib now speedLimit path

/-- A timed version ends at the last pose of the path. -/
theorem TimedVersion.getLast? {lib : TrajectoryLib D} {path : List (PoseStamped D)}
    {trajectory : TimedPath D} (h : TimedVersion lib path trajectory) {t : Int}
    {last : PoseStamped D} (hlast : trajectory.getLast? = some (t, last)) :
    ∃ p, path.getLast? = some p ∧ last.pose = p.pose := by
  obtain ⟨now, speedLimit, rfl⟩ := h
  have huntimed := congrArg List.getLast? (untimed_timedTrajectory lib now speedLimit path)
  rw [List.getLast?_map, List.getLast?_map, hlast] at huntimed
  obtain ⟨p, hp, heq⟩ := Option.map_eq_some_iff.mp huntimed.symm
  exact ⟨p, hp, (congrArg Prod.snd heq).symm⟩

/-! ## The goal -/

/-- `isGoalReached()`, given what `getCurrentPose` returns. -/
def isGoalReached (lib : TrajectoryLib D) (tolerances : GoalTolerances D)
    (currentPath : TimedPath D) (currentPose : Option (PoseStamped D)) : Bool :=
  match currentPath.getLast?, currentPose with
  | some (_, goal), some current =>
    if tolerances.xyzGoalTolerance < distance current.pose.position goal.pose.position then false
    else
      let curYaw := lib.angles.getYaw current.pose.orientation
      let goalYaw := lib.angles.getYaw goal.pose.orientation
      decide (Double.fabs (shortestAngularDistance lib curYaw goalYaw) ≤
        tolerances.yawGoalTolerance)
  | _, _ => false

/-- A pose within the tolerances of another one. -/
structure AtGoal (lib : TrajectoryLib D) (tolerances : GoalTolerances D) (current goal : Pose D) :
    Prop where
  /-- The distance does not compare as larger. -/
  notBeyond : ¬ tolerances.xyzGoalTolerance < distance current.position goal.position
  /-- So it is within the tolerance, unless one of the two is a NaN. -/
  position : (∀ a b : D, ¬ a < b → b ≤ a) →
    distance current.position goal.position ≤ tolerances.xyzGoalTolerance
  yaw : Double.fabs (shortestAngularDistance lib (lib.angles.getYaw current.orientation)
    (lib.angles.getYaw goal.orientation)) ≤ tolerances.yawGoalTolerance

/-- What a positive answer says: a pose was read, and it is at the end of
the trajectory. -/
theorem atGoal_of_isGoalReached {lib : TrajectoryLib D} {tolerances : GoalTolerances D}
    {currentPath : TimedPath D} {currentPose : Option (PoseStamped D)}
    (h : isGoalReached lib tolerances currentPath currentPose = true) :
    ∃ t goal current, currentPath.getLast? = some (t, goal) ∧ currentPose = some current ∧
      AtGoal lib tolerances current.pose goal.pose := by
  unfold isGoalReached at h
  split at h
  · next t goal current hlast =>
    split at h
    · cases h
    · next hnear =>
      exact ⟨t, goal, current, hlast, rfl, hnear, fun htotal => htotal _ _ hnear,
        of_decide_eq_true h⟩
  · cases h

end Trajectory

end Nav3D.Controller

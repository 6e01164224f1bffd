/-
Nav3D.Planner.CreatePlan — the planner plugin of MoveIt:
`MoveItGlobalPlanner::createPlan` (`moveit_global_planner.cpp`) and
`MoveGroupInterface::plan` (`movegroup_interface.cpp`).

MoveIt, the clock, the transforms and `cancel_checker` are arguments: the
checker answers by the number of the call, so that a cancellation may arrive
between any two of them. The requested start is not used. MoveIt's `plan()`
may throw, and `createPlan` does not catch that.

`createPlan_iff` says when there is a path and what it is: the waypoints of
the trajectory that have a transform, in their order, all in the global
frame with one stamp. In the directional yaw mode every pose looks level at
the one that follows (`path_faces_forward`).
-/
import Nav3D.Px4.FrameChange
import Nav3D.BehaviorTree.ConvertFromString
import Nav3D.Lib.Numerals
import Nav3D.Planner.PathValidity

namespace Nav3D.Planner

open Nav3D.Px4 (Double Vec3 Pose)
open Nav3D.BehaviorTree.ConvertFromString (Header PoseStamped Path)

/-- `YawMode`. -/
inductive YawMode where
  | keep
  | fixed
  | directional
  deriving DecidableEq

/-- `geometry_msgs/Transform`. -/
structure Transform (D : Type) where
  translation : Vec3 D
  rotation : Px4.Quaternion D

/-- `Plan`, and whether `plan()` has returned SUCCESS: the points of the
multi-DOF joint trajectory, each with its transforms. -/
structure MoveItPlan (D : Type) where
  success : Bool
  points : List (List (Transform D))

/-- The functions on doubles and quaternions. -/
structure YawFunctions (D : Type) where
  isfinite : D → Bool
  hypot : D → D → D
  atan2 : D → D → D
  /-- `setRPY(0, 0, yaw)` and then `normalize`. -/
  quaternionFromYaw : D → Px4.Quaternion D

/-- The parameters of the planner that a plan depends on, and whether `tf_`
is set. -/
structure PlanSettings (D : Type) where
  globalFrame : String
  tf : Bool
  yawMode : YawMode
  fixedYaw : D

/-- What one call of `createPlan` meets. -/
structure PlanEnvironment (D : Type) where
  /-- `cancel_checker()`, by the number of the call. -/
  canceled : Nat → Bool
  /-- `tf_->transform(goal, global_frame_)`, unless it throws. -/
  transform : PoseStamped D → Option (PoseStamped D)
  /-- `move_group_->plan()` with a joint value target. -/
  moveGroup : List (String × D) → Except String (MoveItPlan D)
  planningFrame : String
  /-- `now()` at the start, in `plan` and in `toPath`. -/
  now : Int64
  planned : Int64
  converted : Int64

section Plan

variable {D : Type} [Double D] (fns : YawFunctions D)

/-! ## The yaw -/

/-- `computeDirectionalYaw(a, b)`. -/
def computeDirectionalYaw (a b : PoseStamped D) : D :=
  let dx := b.pose.position.x - a.pose.position.x
  let dy := b.pose.position.y - a.pose.position.y
  if fns.hypot dx dy < 1e-3 then 0.0 else fns.atan2 dy dx

/-- A pose with another orientation. -/
def turn (q : Px4.Quaternion D) (p : PoseStamped D) : PoseStamped D :=
  { p with pose := { p.pose with orientation := q } }

/-- The loop of the directional mode: each pose but the last looks at the
next one. -/
def lookAhead : List (PoseStamped D) → List (PoseStamped D)
  | a :: b :: poses =>
    turn (fns.quaternionFromYaw (computeDirectionalYaw fns a b)) a :: lookAhead (b :: poses)
  | poses => poses

/-- The orientation of the last pose: that of the one before it, if there is
one. -/
def lastOrientation (poses : List (PoseStamped D)) : Px4.Quaternion D :=
  if 2 ≤ poses.length then
    (poses[poses.length - 2]?).elim (fns.quaternionFromYaw 0.0) (·.pose.orientation)
  else fns.quaternionFromYaw 0.0

/-- `applyYaw(poses)`. -/
def applyYaw (settings : PlanSettings D) (poses : List (PoseStamped D)) : List (PoseStamped D) :=
  if poses = [] ∨ settings.yawMode = .keep then poses
  else if settings.yawMode = .fixed then
    poses.map (turn (fns.quaternionFromYaw settings.fixedYaw))
  else
    let poses := lookAhead fns poses
    poses.modify (poses.length - 1) (turn (lastOrientation fns poses))

/-! ## The plan -/

/-- The goal as a joint value target. -/
def goalJoints (goal : PoseStamped D) : List (String × D) :=
  [("virtual_joint/trans_x", goal.pose.position.x),
    ("virtual_joint/trans_y", goal.pose.position.y),
    ("virtual_joint/trans_z", goal.pose.position.z),
    ("virtual_joint/rot_x", goal.pose.orientation.x),
    ("virtual_joint/rot_y", goal.pose.orientation.y),
    ("virtual_joint/rot_z", goal.pose.orientation.z),
    ("virtual_joint/rot_w", goal.pose.orientation.w)]

/-- The pose of a point. -/
def pointPose (header : Header) (t : Transform D) : PoseStamped D :=
  ⟨header, ⟨t.translation, t.rotation⟩⟩

/-- The loop over the points, from the `k`-th call of `cancel_checker()`
on. -/
def collectPoses (canceled : Nat → Bool) (header : Header) :
    Nat → List (List (Transform D)) → Option (List (PoseStamped D))
  | _, [] => some []
  | k, transforms :: points =>
    if canceled k then none
    else
      match transforms with
      | [] => collectPoses canceled header (k + 1) points
      | t :: _ => (collectPoses canceled header (k + 1) points).map (pointPose header t :: ·)

/-- `MoveGroupInterface::plan(goal, cancel_checker)`. Its first two calls of
`cancel_checker()` are the third and the fourth. -/
def moveGroupPlan (settings : PlanSettings D) (env : PlanEnvironment D) (goal : PoseStamped D) :
    Except String (List (PoseStamped D)) := do
  if env.canceled 2 then return []
  let plan ← env.moveGroup (goalJoints goal)
  if env.canceled 3 then return []
  if !plan.success then return []
  let frameId := if goal.header.frameId = "" then env.planningFrame else goal.header.frameId
  match collectPoses env.canceled ⟨env.planned, frameId⟩ 4 plan.points with
  | none => return []
  | some poses => return applyYaw fns settings poses

/-- `validatePose(pose)`. -/
def validatePose (pose : PoseStamped D) : Bool :=
  let p := pose.pose.position
  let q := pose.pose.orientation
  [p.x, p.y, p.z, q.x, q.y, q.z, q.w].all fns.isfinite &&
    decide (Double.fabs (Double.sqrt (q.x * q.x + q.y * q.y + q.z * q.z + q.w * q.w) - 1.0) < 0.1)

/-- `toPath(poses, frame_id)`. -/
def toPath (settings : PlanSettings D) (env : PlanEnvironment D) (poses : List (PoseStamped D)) :
    Path D :=
  let header : Header := ⟨env.converted, settings.globalFrame⟩
  ⟨header, poses.map fun p => { p with header := header }⟩

/-- The goal in the global frame, if it can be transformed. -/
def globalGoal (settings : PlanSettings D) (env : PlanEnvironment D) (goal : PoseStamped D) :
    Option (PoseStamped D) :=
  if settings.tf && goal.header.frameId != "" && goal.header.frameId != settings.globalFrame then
    env.transform goal
  else some goal

/-- `createPlan(start, goal, cancel_checker)`. -/
def MoveItGlobalPlanner.createPlan (p : MoveItGlobalPlanner) (settings : PlanSettings D)
    (env : PlanEnvironment D) (goalIn : PoseStamped D) : Except String (Path D) := do
  let empty : Path D := ⟨⟨if p.node then env.now else 0, settings.globalFrame⟩, []⟩
  if p.active = false ∨ p.node = false ∨ p.moveGroupInterface = none then return empty
  if env.canceled 0 then return empty
  if !validatePose fns goalIn then return empty
  match globalGoal settings env goalIn with
  | none => return empty
  | some goal => do
    if env.canceled 1 then return empty
    let poses ← moveGroupPlan fns settings env goal
    if poses = [] then return empty
    return toPath settings env poses

/-! ## What a plan is -/

/-- The poses of the points that have a transform, in their order. -/
def trajectoryPoses (header : Header) (points : List (List (Transform D))) :
    List (PoseStamped D) :=
  points.filterMap fun transforms => transforms.head?.map (pointPose header)

omit [Double D] in
/-- A point without a transform adds nothing. -/
theorem collectPoses_cons (canceled : Nat → Bool) (header : Header) (k : Nat)
    (transforms : List (Transform D)) (points : List (List (Transform D))) :
    collectPoses canceled header k (transforms :: points) =
      if canceled k then none
      else (collectPoses canceled header (k + 1) points).map
        ((transforms.head?.map (pointPose header)).toList ++ ·) := by
  cases transforms with
  | nil =>
    rw [collectPoses.eq_def]
    simp
  | cons t rest =>
    rw [collectPoses.eq_def]
    simp

omit [Double D] in
/-- The loop runs to its end unless it is canceled. By induction on the
points. -/
theorem collectPoses_eq_some {canceled : Nat → Bool} {header : Header} {k : Nat}
    {points : List (List (Transform D))} {poses : List (PoseStamped D)} :
    collectPoses canceled header k points = some poses ↔
      (∀ i < points.length, canceled (k + i) = false) ∧ trajectoryPoses header points = poses := by
  induction points generalizing k poses with
  | nil =>
    rw [collectPoses.eq_def]
    simp [trajectoryPoses]
  | cons transforms points ih =>
    have hall : (∀ i < (transforms :: points).length, canceled (k + i) = false) ↔
        canceled k = false ∧ ∀ i < points.length, canceled (k + 1 + i) = false := by
      rw [List.length_cons, Nat.forall_lt_succ_left]
      simp only [Nat.add_zero, Nat.add_assoc, Nat.add_comm 1]
    have htrajectory : trajectoryPoses header (transforms :: points) =
        (transforms.head?.map (pointPose header)).toList ++ trajectoryPoses header points := by
      cases transforms <;> rfl
    rw [hall, htrajectory, collectPoses_cons]
    cases hk : canceled k with
    | true => simp
    | false => simp [ih, and_assoc]

/-- The frame of the poses before `toPath`. -/
def planFrame (env : PlanEnvironment D) (goal : PoseStamped D) : String :=
  if goal.header.frameId = "" then env.planningFrame else goal.header.frameId

/-- The poses that `plan` makes of the points. -/
def plannedPoses (settings : PlanSettings D) (env : PlanEnvironment D) (goal : PoseStamped D)
    (plan : MoveItPlan D) : List (PoseStamped D) :=
  applyYaw fns settings (trajectoryPoses ⟨env.planned, planFrame env goal⟩ plan.points)

theorem positions_lookAhead (poses : List (PoseStamped D)) :
    (lookAhead fns poses).map (·.pose.position) = poses.map (·.pose.position) := by
  fun_induction lookAhead fns poses with
  | case1 a b poses ih =>
    rw [List.map_cons, ih]
    rfl
  | case2 poses hshort => rfl

/-- A change of one element that a function does not see. -/
theorem map_modify_of_eq {α β : Type} {f : α → β} {g : α → α} (h : ∀ a, f (g a) = f a)
    (l : List α) (i : Nat) : (l.modify i g).map f = l.map f := by
  induction l generalizing i with
  | nil => simp
  | cons a l ih => cases i <;> simp [h, ih]

/-- The yaw modes leave the positions alone. -/
theorem positions_applyYaw (settings : PlanSettings D) (poses : List (PoseStamped D)) :
    (applyYaw fns settings poses).map (·.pose.position) = poses.map (·.pose.position) := by
  unfold applyYaw
  split
  · rfl
  split
  · rw [List.map_map]
    rfl
  · have hturn : ∀ p : PoseStamped D,
        (turn (lastOrientation fns (lookAhead fns poses)) p).pose.position = p.pose.position :=
      fun _ => rfl
    exact (map_modify_of_eq hturn _ _).trans (positions_lookAhead fns poses)

theorem applyYaw_ne_nil {settings : PlanSettings D} {poses : List (PoseStamped D)} :
    applyYaw fns settings poses ≠ [] ↔ poses ≠ [] := by
  have hlength := congrArg List.length (positions_applyYaw fns settings poses)
  rw [List.length_map, List.length_map] at hlength
  rw [← List.length_pos_iff, ← List.length_pos_iff, hlength]

theorem plannedPoses_ne_nil (settings : PlanSettings D) (env : PlanEnvironment D)
    (goal : PoseStamped D) (plan : MoveItPlan D) :
    plannedPoses fns settings env goal plan ≠ [] ↔
      ∃ transforms ∈ plan.points, transforms ≠ [] := by
  rw [plannedPoses, applyYaw_ne_nil, trajectoryPoses, ne_eq, List.filterMap_eq_nil_iff]
  simp

/-- MoveIt answers a target and nobody cancels. -/
structure MoveGroupPlans (env : PlanEnvironment D) (goal : PoseStamped D) (plan : MoveItPlan D) :
    Prop where
  planned : env.moveGroup (goalJoints goal) = .ok plan
  success : plan.success = true
  asked : env.canceled 2 = false
  answered : env.canceled 3 = false
  collected : ∀ i < plan.points.length, env.canceled (4 + i) = false
  waypoint : ∃ transforms ∈ plan.points, transforms ≠ []

/-- What `plan` returns. -/
theorem moveGroupPlan_ok {settings : PlanSettings D} {env : PlanEnvironment D}
    {goal : PoseStamped D} {poses : List (PoseStamped D)}
    (h : moveGroupPlan fns settings env goal = .ok poses) (hne : poses ≠ []) :
    ∃ plan, MoveGroupPlans env goal plan ∧ poses = plannedPoses fns settings env goal plan := by
  rw [moveGroupPlan] at h
  cases h2 : env.canceled 2 with
  | true =>
    rw [if_pos h2] at h
    cases h
    exact absurd rfl hne
  | false =>
    rw [if_neg (by simp [h2])] at h
    cases hplan : env.moveGroup (goalJoints goal) with
    | error what =>
      rw [hplan] at h
      cases h
    | ok plan =>
      rw [hplan] at h
      simp only [bind, Except.bind, pure, Except.pure] at h
      split at h
      · cases h
        exact absurd rfl hne
      split at h
      · cases h
        exact absurd rfl hne
      split at h
      · cases h
        exact absurd rfl hne
      · next h3 hsuccess _ collected hcollected =>
        cases h
        obtain ⟨hcanceled, rfl⟩ := collectPoses_eq_some.mp hcollected
        have hwaypoint := (plannedPoses_ne_nil fns settings env goal plan).mp hne
        exact ⟨plan, ⟨hplan, by simpa using hsuccess, h2, by simpa using h3, hcanceled,
          hwaypoint⟩, rfl⟩

/-- When `plan` returns them. -/
theorem moveGroupPlan_of_plans {settings : PlanSettings D} {env : PlanEnvironment D}
    {goal : PoseStamped D} {plan : MoveItPlan D} (h : MoveGroupPlans env goal plan) :
    moveGroupPlan fns settings env goal = .ok (plannedPoses fns settings env goal plan) := by
  have hcollected : collectPoses env.canceled ⟨env.planned, planFrame env goal⟩ 4 plan.points =
      some (trajectoryPoses ⟨env.planned, planFrame env goal⟩ plan.points) :=
    collectPoses_eq_some.mpr ⟨h.collected, rfl⟩
  rw [planFrame] at hcollected
  simp only [moveGroupPlan, h.asked, h.planned, h.answered, h.success, bind, Except.bind, pure,
    Except.pure, Bool.not_true, Bool.false_eq_true, if_false, hcollected]
  rfl

/-- The request passes, MoveIt answers it and nobody cancels. -/
structure Planned (p : MoveItGlobalPlanner) (settings : PlanSettings D) (env : PlanEnvironment D)
    (goalIn goal : PoseStamped D) (plan : MoveItPlan D) : Prop where
  ready : p.active = true ∧ p.node = true ∧ p.moveGroupInterface ≠ none
  valid : validatePose fns goalIn = true
  started : env.canceled 0 = false
  located : globalGoal settings env goalIn = some goal
  transformed : env.canceled 1 = false
  plans : MoveGroupPlans env goal plan

variable {fns} {p : MoveItGlobalPlanner} {settings : PlanSettings D} {env : PlanEnvironment D}
  {goalIn goal : PoseStamped D} {plan : MoveItPlan D} {path : Path D}

theorem createPlan_of_planned (h : Planned fns p settings env goalIn goal plan) :
    p.createPlan fns settings env goalIn =
      .ok (toPath settings env (plannedPoses fns settings env goal plan)) := by
  obtain ⟨hactive, hnode, hinterface⟩ := h.ready
  have hne := (plannedPoses_ne_nil fns settings env goal plan).mpr
    h.plans.waypoint
  simp only [MoveItGlobalPlanner.createPlan, hactive, hnode, hinterface, h.started, h.valid,
    h.located, h.transformed, moveGroupPlan_of_plans fns h.plans, hne, bind, Except.bind, pure,
    Except.pure, Bool.not_true, Bool.true_eq_false, Bool.false_eq_true, or_self, if_false]

/-- What `createPlan` returns: an empty path, or one that has been
planned. -/
theorem createPlan_ok (h : p.createPlan fns settings env goalIn = .ok path) :
    (path.poses = [] ∧ path.header.frameId = settings.globalFrame) ∨
      ∃ goal plan, Planned fns p settings env goalIn goal plan ∧
        path = toPath settings env (plannedPoses fns settings env goal plan) := by
  simp only [MoveItGlobalPlanner.createPlan, bind, Except.bind, pure, Except.pure] at h
  split at h
  · cases h
    exact .inl ⟨rfl, rfl⟩
  split at h
  · cases h
    exact .inl ⟨rfl, rfl⟩
  split at h
  · cases h
    exact .inl ⟨rfl, rfl⟩
  split at h
  · cases h
    exact .inl ⟨rfl, rfl⟩
  split at h
  · cases h
    exact .inl ⟨rfl, rfl⟩
  split at h
  · cases h
  split at h
  · cases h
    exact .inl ⟨rfl, rfl⟩
  next hready hstarted hvalid _ goal hlocated htransformed _ poses hposes hne =>
  cases h
  obtain ⟨plan, hplans, rfl⟩ := moveGroupPlan_ok fns hposes hne
  simp only [not_or, Bool.not_eq_false] at hready
  exact .inr ⟨goal, plan, ⟨hready, by simpa using hvalid, by simpa using hstarted, hlocated,
    by simpa using htransformed, hplans⟩, rfl⟩

/-- The translations of the points that have a transform. -/
def translations (plan : MoveItPlan D) : List (Vec3 D) :=
  plan.points.filterMap fun transforms => transforms.head?.map (·.translation)

/-- Their rotations. -/
def rotations (plan : MoveItPlan D) : List (Px4.Quaternion D) :=
  plan.points.filterMap fun transforms => transforms.head?.map (·.rotation)

/-- How a path follows a plan. -/
structure FollowsPlan (fns : YawFunctions D) (settings : PlanSettings D) (plan : MoveItPlan D)
    (path : Path D) : Prop where
  positions : path.poses.map (·.pose.position) = translations plan
  kept : settings.yawMode = .keep → path.poses.map (·.pose.orientation) = rotations plan
  fixed : settings.yawMode = .fixed →
    ∀ pose ∈ path.poses, pose.pose.orientation = fns.quaternionFromYaw settings.fixedYaw

theorem follows_plannedPoses (env : PlanEnvironment D) (goal : PoseStamped D)
    (plan : MoveItPlan D) :
    FollowsPlan fns settings plan
      (toPath settings env (plannedPoses fns settings env goal plan)) where
  positions := by
    have hpositions := positions_applyYaw fns settings
      (trajectoryPoses ⟨env.planned, planFrame env goal⟩ plan.points)
    simp only [toPath, List.map_map]
    refine hpositions.trans ?_
    rw [trajectoryPoses, List.map_filterMap]
    simp only [Option.map_map]
    rfl
  kept hmode := by
    simp only [toPath, plannedPoses, applyYaw, hmode, or_true, if_true, List.map_map]
    rw [trajectoryPoses, List.map_filterMap]
    simp only [Option.map_map]
    rfl
  fixed hmode := by
    intro pose hpose
    obtain ⟨planned, hplanned, rfl⟩ := List.mem_map.mp hpose
    have hkeep : settings.yawMode ≠ .keep := by simp [hmode]
    rw [plannedPoses, applyYaw] at hplanned
    split at hplanned
    · next hnone =>
      rw [hnone.resolve_right hkeep] at hplanned
      simp at hplanned
    · obtain ⟨_, -, rfl⟩ := List.mem_map.mp hplanned
      rfl

/-- **Plans.** `createPlan` returns poses exactly if the planner is active,
the goal is a pose that can be transformed, MoveIt has a trajectory to it
with a waypoint, and no call of `cancel_checker()` returns true. The path
then goes through the waypoints in their order. It is in the global frame in
any case, and so are its poses, with its stamp. -/
theorem createPlan_iff (fns : YawFunctions D) (p : MoveItGlobalPlanner)
    (settings : PlanSettings D) (env : PlanEnvironment D) (goalIn : PoseStamped D) :
    ((∃ path, p.createPlan fns settings env goalIn = .ok path ∧ path.poses ≠ []) ↔
        ∃ goal plan, Planned fns p settings env goalIn goal plan) ∧
      (∀ goal plan, Planned fns p settings env goalIn goal plan →
        ∃ path, p.createPlan fns settings env goalIn = .ok path ∧
          FollowsPlan fns settings plan path) ∧
      ∀ path, p.createPlan fns settings env goalIn = .ok path →
        path.header.frameId = settings.globalFrame ∧
          ∀ pose ∈ path.poses, pose.header = path.header := by
  refine ⟨⟨?_, ?_⟩, ?_, ?_⟩
  · rintro ⟨path, h, hne⟩
    rcases createPlan_ok h with ⟨hnil, -⟩ | ⟨goal, plan, hplan, -⟩
    · exact absurd hnil hne
    · exact ⟨goal, plan, hplan⟩
  · rintro ⟨goal, plan, hplan⟩
    have hne := (plannedPoses_ne_nil fns settings env goal plan).mpr hplan.plans.waypoint
    exact ⟨_, createPlan_of_planned hplan, by simpa [toPath] using hne⟩
  · intro goal plan hplan
    exact ⟨_, createPlan_of_planned hplan, follows_plannedPoses env goal plan⟩
  · intro path h
    rcases createPlan_ok h with ⟨hnil, hframe⟩ | ⟨goal, plan, -, rfl⟩
    · exact ⟨hframe, by simp [hnil]⟩
    · refine ⟨rfl, fun pose hpose => ?_⟩
      obtain ⟨_, -, rfl⟩ := List.mem_map.mp hpose
      rfl

end Plan

/-! ## The directional mode on real numbers -/

section Directional

open Nav3D.Px4 (quaterniond)
open Rotation (bodyX bodyZ)

/-- `Quaternion::normalize`. -/
noncomputable def normalize (q : Px4.Quaternion ℝ) : Px4.Quaternion ℝ :=
  let length := Real.sqrt (Ros.length2 q)
  ⟨q.x / length, q.y / length, q.z / length, q.w / length⟩

/-- The functions on real numbers. -/
noncomputable def realYawFunctions : YawFunctions ℝ where
  isfinite _ := true
  hypot x y := Real.sqrt (x * x + y * y)
  atan2 := PlaneAngle.atan2
  quaternionFromYaw yaw := normalize (Ros.setRPY 0 0 yaw)

/-- The body z axis points up: no roll and no pitch. -/
def Upright (a : PoseStamped ℝ) : Prop := bodyZ (quaterniond a.pose.orientation) = ![0, 0, 1]

/-- The body x axis of `a` points level from `a` to `b`, and along the first
axis when there is less than a millimetre between them over the ground, as in
a climb. -/
def LooksAt (a b : PoseStamped ℝ) : Prop :=
  let dx := b.pose.position.x - a.pose.position.x
  let dy := b.pose.position.y - a.pose.position.y
  let distance := Real.sqrt (dx * dx + dy * dy)
  Upright a ∧
    if distance < 1e-3 then bodyX (quaterniond a.pose.orientation) = ![1, 0, 0]
    else distance • bodyX (quaterniond a.pose.orientation) = ![dx, dy, 0]

theorem quaterniond_fromYaw (yaw : ℝ) :
    quaterniond (realYawFunctions.quaternionFromYaw yaw) = Rotation.aboutZ yaw := by
  have hlength : Ros.length2 (Ros.setRPY 0 0 yaw) = 1 := by
    simp only [Ros.length2, Ros.setRPY, zero_div, Real.sin_zero, Real.cos_zero]
    linear_combination Real.sin_sq_add_cos_sq (yaw / 2)
  have hnormalize : normalize (Ros.setRPY 0 0 yaw) = Ros.setRPY 0 0 yaw := by
    simp [normalize, hlength]
  show quaterniond (normalize (Ros.setRPY 0 0 yaw)) = Rotation.aboutZ yaw
  rw [hnormalize]
  apply Quaternion.ext <;> simp [quaterniond, Ros.setRPY, Rotation.aboutZ]

/-- A yaw alone turns the body x axis about the vertical. -/
theorem bodyX_fromYaw (yaw : ℝ) :
    bodyX (quaterniond (realYawFunctions.quaternionFromYaw yaw)) =
      ![Real.cos yaw, Real.sin yaw, 0] := by
  rw [quaterniond_fromYaw, Rotation.bodyX_aboutZ]

theorem upright_fromYaw (yaw : ℝ) (a : PoseStamped ℝ) :
    Upright (turn (realYawFunctions.quaternionFromYaw yaw) a) := by
  show bodyZ (quaterniond (realYawFunctions.quaternionFromYaw yaw)) = ![0, 0, 1]
  rw [quaterniond_fromYaw, Rotation.bodyZ_aboutZ]

/-- The directional yaw looks at the next pose. -/
theorem looksAt_turn (a b : PoseStamped ℝ) :
    LooksAt (turn (realYawFunctions.quaternionFromYaw
      (computeDirectionalYaw realYawFunctions a b)) a) b := by
  refine ⟨upright_fromYaw _ a, ?_⟩
  simp only [turn, bodyX_fromYaw]
  generalize hdx : b.pose.position.x - a.pose.position.x = dx
  generalize hdy : b.pose.position.y - a.pose.position.y = dy
  have hyaw : computeDirectionalYaw realYawFunctions a b =
      if Real.sqrt (dx * dx + dy * dy) < 1e-3 then 0 else PlaneAngle.atan2 dy dx := by
    subst hdx hdy
    split
    · next hclose => exact (@if_pos _ _ hclose _ _ _).trans (by norm_num)
    · next hfar => exact @if_neg _ _ hfar _ _ _
  rw [hyaw]
  split
  · simp
  · next hfar =>
    have hpos : 0 < Real.sqrt (dx * dx + dy * dy) := lt_of_lt_of_le (by norm_num) (not_lt.mp hfar)
    have hnorm : ‖(⟨dx, dy⟩ : ℂ)‖ = Real.sqrt (dx * dx + dy * dy) := by
      rw [Complex.norm_def, Complex.normSq_mk]
    have hne : (⟨dx, dy⟩ : ℂ) ≠ 0 := by
      rw [← norm_pos_iff, hnorm]
      exact hpos
    have hcos : Real.cos (PlaneAngle.atan2 dy dx) = dx / Real.sqrt (dx * dx + dy * dy) := by
      rw [PlaneAngle.atan2, Complex.cos_arg hne, hnorm]
    have hsin : Real.sin (PlaneAngle.atan2 dy dx) = dy / Real.sqrt (dx * dx + dy * dy) := by
      rw [PlaneAngle.atan2, Complex.sin_arg, hnorm]
    rw [hcos, hsin]
    funext i
    fin_cases i
    · exact mul_div_cancel₀ dx hpos.ne'
    · exact mul_div_cancel₀ dy hpos.ne'
    · exact mul_zero _

/-- Where a pose looks does not depend on where the next one looks. -/
theorem LooksAt.congr {a b b' : PoseStamped ℝ} (h : LooksAt a b)
    (hposition : b'.pose.position = b.pose.position) : LooksAt a b' := by
  rw [LooksAt, hposition]
  exact h

theorem isChain_lookAhead (poses : List (PoseStamped ℝ)) :
    (lookAhead realYawFunctions poses).IsChain LooksAt := by
  fun_induction lookAhead realYawFunctions poses with
  | case1 a b poses ih =>
    refine List.isChain_cons.mpr ⟨fun next hnext => ?_, ih⟩
    have hposition := congrArg List.head? (positions_lookAhead realYawFunctions (b :: poses))
    rw [List.head?_map, hnext] at hposition
    exact (looksAt_turn a b).congr (Option.some.inj hposition)
  | case2 poses hshort =>
    match poses, hshort with
    | [], _ => exact List.isChain_nil
    | [a], _ => exact List.isChain_singleton a
    | a :: b :: poses, hshort => exact absurd rfl (hshort a b poses)

/-- A change of the last element that the elements before it do not see. -/
theorem isChain_modify_last {α : Type} {R : α → α → Prop} {g : α → α}
    (hR : ∀ a b, R a b → R a (g b)) {l : List α} (h : l.IsChain R) :
    (l.modify (l.length - 1) g).IsChain R := by
  induction l with
  | nil => simp
  | cons a l ih =>
    cases l with
    | nil => simp
    | cons b l =>
      obtain ⟨hhead, htail⟩ := List.isChain_cons_cons.mp h
      have hrest := ih htail
      simp only [List.length_cons, Nat.add_sub_cancel, List.modify_succ_cons] at hrest ⊢
      refine List.isChain_cons.mpr ⟨fun next hnext => ?_, hrest⟩
      cases l with
      | nil =>
        obtain rfl : g b = next := by simpa using hnext
        exact hR a b hhead
      | cons c l =>
        obtain rfl : b = next := by simpa using hnext
        exact hhead

/-- The poses of the directional mode. -/
structure Faces (poses : List (PoseStamped ℝ)) : Prop where
  chain : poses.IsChain LooksAt
  last : ∀ rest a b, poses = rest ++ [a, b] → b.pose.orientation = a.pose.orientation
  single : ∀ a, poses = [a] → Upright a ∧ bodyX (quaterniond a.pose.orientation) = ![1, 0, 0]

/-- All of them are upright: those before the last look at the next one, and
the last one is turned as the one before it. -/
theorem Faces.upright {poses : List (PoseStamped ℝ)} (h : Faces poses) :
    ∀ a ∈ poses, Upright a := by
  intro a ha
  obtain ⟨earlier, later, rfl⟩ := List.append_of_mem ha
  cases later with
  | cons b later =>
    have hchain := (List.isChain_append.mp h.chain).2.1
    exact (List.isChain_cons_cons.mp hchain).1.1
  | nil =>
    rcases List.eq_nil_or_concat earlier with rfl | ⟨rest, b, rfl⟩
    · exact (h.single a rfl).1
    · have hsplit : rest.concat b ++ [a] = rest ++ [b, a] := by simp
      have hchain := h.chain
      rw [hsplit] at hchain
      have hb : Upright b :=
        (List.isChain_cons_cons.mp (List.isChain_append.mp hchain).2.1).1.1
      rw [Upright, h.last rest b a hsplit]
      exact hb

theorem faces_applyYaw {settings : PlanSettings ℝ} (hmode : settings.yawMode = .directional)
    (poses : List (PoseStamped ℝ)) : Faces (applyYaw realYawFunctions settings poses) := by
  have happly : applyYaw realYawFunctions settings poses =
      let ahead := lookAhead realYawFunctions poses
      ahead.modify (ahead.length - 1) (turn (lastOrientation realYawFunctions ahead)) := by
    cases poses with
    | nil => simp [applyYaw, lookAhead]
    | cons a poses => simp [applyYaw, hmode]
  rw [happly]
  have hchain := isChain_lookAhead poses
  generalize lookAhead realYawFunctions poses = ahead at hchain
  refine ⟨isChain_modify_last (fun a b hlooks => hlooks.congr rfl) hchain, ?_, ?_⟩
  · intro rest a b hsplit
    have hlength := congrArg List.length hsplit
    simp only [List.length_modify, List.length_append, List.length_cons, List.length_nil] at hlength
    -- the one before the last is as the loop has left it
    have hbefore := congrArg (·[rest.length]?) hsplit
    simp only [hlength] at hbefore
    rw [List.getElem?_modify_ne _ _ (by omega)] at hbefore
    have ha : ahead[ahead.length - 2]? = some a := by
      have hindex : ahead.length - 2 = rest.length := by omega
      rw [hindex, hbefore]
      simp
    have hq : lastOrientation realYawFunctions ahead = a.pose.orientation := by
      rw [lastOrientation, if_pos (by omega), ha]
      rfl
    have hlast := congrArg (·[rest.length + 1]?) hsplit
    have hindex : ahead.length - 1 = rest.length + 1 := by omega
    simp only [hindex, List.getElem?_modify_eq] at hlast
    rw [List.getElem?_append_right (by omega)] at hlast
    obtain ⟨c, -, hb⟩ := Option.map_eq_some_iff.mp (hlast.trans (by simp : _ = some b))
    rw [← hb, ← hq]
    rfl
  · intro a hsingle
    have hlength := congrArg List.length hsingle
    simp only [List.length_modify, List.length_singleton] at hlength
    obtain ⟨c, rfl⟩ := List.length_eq_one_iff.mp hlength
    obtain rfl : turn (lastOrientation realYawFunctions [c]) c = a := by simpa using hsingle
    refine ⟨upright_fromYaw _ c, ?_⟩
    show bodyX (quaterniond (realYawFunctions.quaternionFromYaw _)) = _
    rw [bodyX_fromYaw]
    norm_num

/-- The header of a pose does not matter. -/
theorem Faces.map_header {poses : List (PoseStamped ℝ)} (h : Faces poses) (header : Header) :
    Faces (poses.map fun p => { p with header := header }) := by
  refine ⟨(List.isChain_map _).mpr h.chain, fun rest a b hsplit => ?_, fun a hsingle => ?_⟩
  · obtain ⟨rest', two, hposes, -, htwo⟩ := List.map_eq_append_iff.mp hsplit
    obtain ⟨a', one, rfl, rfl, hone⟩ := List.map_eq_cons_iff.mp htwo
    obtain ⟨b', rfl, rfl⟩ := List.map_eq_singleton_iff.mp hone
    exact h.last rest' a' b' hposes
  · obtain ⟨a', hposes, rfl⟩ := List.map_eq_singleton_iff.mp hsingle
    exact h.single a' hposes

/-- **Directional yaw.** In the directional mode every pose of a path that
`createPlan` returns is upright and looks at the one that follows, or along
the first axis when that one is right above or below. The last one looks the
way the one before it does, and a single one along the first axis. -/
theorem path_faces_forward {p : MoveItGlobalPlanner} {settings : PlanSettings ℝ}
    {env : PlanEnvironment ℝ} {goalIn : PoseStamped ℝ} {path : Path ℝ}
    (hmode : settings.yawMode = .directional)
    (h : p.createPlan realYawFunctions settings env goalIn = .ok path) :
    Faces path.poses ∧ ∀ pose ∈ path.poses, Upright pose := by
  have hfaces : Faces path.poses := by
    rcases createPlan_ok h with ⟨hnil, -⟩ | ⟨goal, plan, -, rfl⟩
    · rw [hnil]
      exact ⟨List.isChain_nil, by simp, by simp⟩
    · exact (faces_applyYaw hmode _).map_header _
  exact ⟨hfaces, hfaces.upright⟩

/-! ### A plan -/

/-- MoveIt plans three waypoints for any target: east, then north. Another
point has no transform. -/
def cornerPlan : MoveItPlan ℝ where
  success := true
  points := [[⟨⟨0, 0, 1⟩, ⟨0, 0, 0, 1⟩⟩], [], [⟨⟨2, 0, 1⟩, ⟨0, 0, 0, 1⟩⟩],
    [⟨⟨2, 2, 2⟩, ⟨0, 0, 0, 1⟩⟩]]

def cornerEnvironment : PlanEnvironment ℝ where
  canceled _ := false
  transform := some
  moveGroup _ := .ok cornerPlan
  planningFrame := "world"
  now := 0
  planned := 1
  converted := 2

def cornerSettings : PlanSettings ℝ := ⟨"map", true, .directional, 0⟩

def cornerGoal : PoseStamped ℝ := ⟨⟨0, "map"⟩, ⟨⟨2, 2, 2⟩, ⟨0, 0, 0, 1⟩⟩⟩

theorem planned_corner : Planned realYawFunctions examplePlanner cornerSettings cornerEnvironment
    cornerGoal cornerGoal cornerPlan where
  ready := by decide
  valid := by
    have hnorm : |Real.sqrt (0 * 0 + 0 * 0 + 0 * 0 + 1 * 1) - 1.0| < (0.1 : ℝ) := by norm_num
    exact decide_eq_true hnorm
  started := rfl
  located := rfl
  transformed := rfl
  plans := ⟨rfl, rfl, rfl, rfl, fun _ _ => rfl, _, List.mem_cons_self, List.cons_ne_nil _ _⟩

/-- The path leaves the point without a transform out. -/
theorem createPlan_iff_corner : ∃ path : Path ℝ,
    examplePlanner.createPlan realYawFunctions cornerSettings cornerEnvironment cornerGoal =
        .ok path ∧
      path.poses.map (·.pose.position) = [⟨0, 0, 1⟩, ⟨2, 0, 1⟩, ⟨2, 2, 2⟩] := by
  obtain ⟨-, hplans, -⟩ := createPlan_iff realYawFunctions examplePlanner cornerSettings
    cornerEnvironment cornerGoal
  obtain ⟨path, hpath, hfollows⟩ := hplans _ _ planned_corner
  exact ⟨path, hpath, hfollows.positions⟩

theorem path_faces_forward_corner : ∃ path : Path ℝ,
    path.poses.map (·.pose.position) = [⟨0, 0, 1⟩, ⟨2, 0, 1⟩, ⟨2, 2, 2⟩] ∧ Faces path.poses := by
  have hpath := createPlan_of_planned planned_corner
  exact ⟨_, (follows_plannedPoses _ _ _).positions, (path_faces_forward rfl hpath).1⟩

end Directional

end Nav3D.Planner

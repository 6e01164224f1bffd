/-
Nav3D.Controller.TrajectorySampling — `generateTimedTrajectory()`,
`getCurrentCommand()` and `speedLimitCallback()` of the controller server,
with exact times (`controller_server.cpp`).

Times are numbers of the same field as the positions, so that
`Duration::from_seconds` is exact; with times in nanoseconds
`generateTimedTrajectory()` is in `Nav3D.Controller.TimedTrajectory`
(`timedTrajectory_eq_exact` relates both). The functions of `<cmath>` and tf2
are a parameter. Reading `current_path_` out of range would be undefined
behaviour and is an exception here.

`updates` is no member: it records what has been handed to `updateFilter`,
with the time and the segment of the call.
-/
import Nav3D.Controller.ReferenceFilter
import Nav3D.Controller.TimedTrajectory
import Nav3D.Lib.PiecewiseLinear
import Nav3D.Lib.StateInvariant

namespace Nav3D.Controller.Exact

open StateInvariant
open Nav3D.Px4 (Vec3 Pose Twist TrajectoryPoint)

/-- `geometry_msgs/PoseStamped`, with an exact time. -/
abbrev StampedPose (K : Type) : Type := Msg.PoseStamped K (Pose K)

/-- The type of `current_path_`. -/
abbrev TimedPath (K : Type) : Type := List (K × StampedPose K)

/-- The functions of other libraries. -/
structure Functions (K : Type) where
  angles : Angles K
  /-- `std::sqrt`. -/
  sqrt : K → K
  /-- `slerp` and then `normalize`. -/
  slerp : Px4.Quaternion K → Px4.Quaternion K → K → Px4.Quaternion K
  /-- `setRPY(0, 0, yaw)`. -/
  setYaw : K → Px4.Quaternion K

/-- The parameters of the node. -/
structure Params (K : Type) where
  controllerFrequency : K
  xyzGoalTolerance : K
  defaultSpeedLimit : K
  slowdownDistance : K
  filter : FilterParams K

/-- One call of `updateFilter`, at the time `now`, with the segment that has
been chosen, if any. -/
structure Update (K : Type) where
  now : K
  segment : Option ((K × StampedPose K) × (K × StampedPose K))
  targetPose : Pose K
  targetVel : Twist K

/-- The members of the node. -/
structure Server (K : Type) where
  currentPath : TimedPath K
  currentWaypointIndex : Nat
  pathStartTime : K
  speedLimit : K
  filter : ReferenceFilter K
  updates : List (Update K)

inductive Exception where
  | invalidPath (message : String)
  | outOfRange
  deriving DecidableEq

/-- `nav3d_msgs/TrajectoryPoint`. -/
structure Setpoint (K : Type) extends TrajectoryPoint K where
  timeFromStart : K

/-- What one call reads besides the members: the clock, the pose of the robot
if it is available, and the clock again in `getFilteredSetpoint()`. -/
structure Reading (K : Type) where
  now : K
  currentPose : Option (Pose K)
  later : K

section Server

variable {K : Type} [Field K] [LinearOrder K] (fns : Functions K) (params : Params K)

/-- The distance of two positions. -/
def distance (p q : Vec3 K) : K :=
  let dx := p.x - q.x
  let dy := p.y - q.y
  let dz := p.z - q.z
  fns.sqrt (dx * dx + dy * dy + dz * dz)

/-- `speedLimitCallback(msg)`. -/
def speedLimitCallback (speedLimit : K) (s : Server K) : Server K :=
  { s with speedLimit := if 0 < speedLimit then speedLimit else params.defaultSpeedLimit }

/-! ## The trajectory -/

/-- A pose at its time, which is also its stamp. -/
def timedPose (t : K) (p : StampedPose K) : K × StampedPose K := (t, p.stampedAt t)

/-- The duration of a segment. -/
def segmentDuration (v : K) (p0 p1 : StampedPose K) : K :=
  max (distance fns p1.pose.position p0.pose.position / v) 0.01

/-- The `for` loop: the poses that follow `previous`. -/
def timedPoses (startTime v : K) : StampedPose K → K → List (StampedPose K) → TimedPath K
  | _, _, [] => []
  | previous, accumulatedTime, p :: poses =>
    let accumulatedTime := accumulatedTime + segmentDuration fns v previous p
    timedPose (startTime + accumulatedTime) p :: timedPoses startTime v p accumulatedTime poses

/-- What `generateTimedTrajectory(path)` puts into `current_path_`. -/
def timedPath (startTime v : K) : List (StampedPose K) → TimedPath K
  | [] => []
  | p :: poses => timedPose startTime p :: timedPoses fns startTime v p 0 poses

/-- `generateTimedTrajectory(path)`. -/
def generateTimedTrajectory (now : K) (currentPose : Option (Pose K))
    (path : List (StampedPose K)) : EStateM Exception (Server K) PUnit :=
  match path with
  | [] => throw (.invalidPath "Path is empty.")
  | p :: _ => do
    let startTime := now + 0.1
    let v := max 1e-3 (← get).speedLimit
    modify fun s => { s with
      currentPath := timedPath fns startTime v path
      currentWaypointIndex := 0
      pathStartTime := startTime
      filter := resetFilter fns.angles (currentPose.getD p.pose) }

/-! ## The command -/

/-- `getFilteredSetpoint()`. -/
def getFilteredSetpoint (later : K) (s : Server K) : Setpoint K where
  pose := ⟨⟨s.filter.refState.pos 0, s.filter.refState.pos 1, s.filter.refState.pos 2⟩,
    fns.setYaw s.filter.refState.yaw⟩
  velocity := ⟨⟨s.filter.refState.vel 0, s.filter.refState.vel 1, s.filter.refState.vel 2⟩,
    ⟨0, 0, s.filter.refState.yawVel⟩⟩
  acceleration := ⟨⟨s.filter.refState.acc 0, s.filter.refState.acc 1, s.filter.refState.acc 2⟩,
    ⟨0, 0, 0⟩⟩
  timeFromStart := later - s.pathStartTime

/-- A setpoint with its velocity set to zero. -/
def Setpoint.stopped (out : Setpoint K) : Setpoint K :=
  { out with
    velocity := ⟨⟨0, 0, 0⟩, ⟨out.velocity.angular.x, out.velocity.angular.y, 0⟩⟩ }

/-- The `while` loop over `current_waypoint_index_`. -/
def advanceIndex (path : TimedPath K) (tnow : K) (index : Nat) : Nat :=
  if h : index + 1 < path.length then
    if path[index + 1].1 < tnow then advanceIndex path tnow (index + 1) else index
  else index
  termination_by path.length - index

/-- `target_pose`. -/
def targetPose (tnow : K) (a b : K × StampedPose K) : Pose K :=
  let segmentDt := b.1 - a.1
  let alpha := max 0 (min ((tnow - a.1) / max 1e-6 segmentDt) 1)
  let p := a.2.pose.position
  let q := b.2.pose.position
  { position := ⟨p.x + alpha * (q.x - p.x), p.y + alpha * (q.y - p.y), p.z + alpha * (q.z - p.z)⟩
    orientation := fns.slerp a.2.pose.orientation b.2.pose.orientation alpha }

/-- `target_vel` before it is scaled. -/
def segmentVel (a b : K × StampedPose K) : Twist K :=
  let segmentDt := max 1e-6 (b.1 - a.1)
  let p := a.2.pose.position
  let q := b.2.pose.position
  let yaw0 := fns.angles.getYaw a.2.pose.orientation
  let yaw1 := fns.angles.getYaw b.2.pose.orientation
  let dyaw := fns.angles.shortestAngularDistance yaw0 yaw1
  { linear := ⟨(q.x - p.x) / segmentDt, (q.y - p.y) / segmentDt, (q.z - p.z) / segmentDt⟩
    angular := ⟨0, 0, dyaw / segmentDt⟩ }

/-- A velocity times a number. -/
def scaleVel (scale : K) (vel : Twist K) : Twist K :=
  { linear := ⟨vel.linear.x * scale, vel.linear.y * scale, vel.linear.z * scale⟩
    angular := { vel.angular with z := vel.angular.z * scale } }

/-- `target_vel`, with the distance of the target to the goal. -/
def targetVel (distToGoal : K) (a b : K × StampedPose K) : Twist K :=
  if distToGoal ≤ params.xyzGoalTolerance then ⟨⟨0, 0, 0⟩, ⟨0, 0, 0⟩⟩
  else
    let dslow := max 1e-3 params.slowdownDistance
    scaleVel (max 0 (min (distToGoal / dslow) 1)) (segmentVel fns a b)

/-- `updateFilter`, with its call recorded. -/
def Server.updateFilter (u : Update K) (s : Server K) : Server K :=
  { s with
    filter := Controller.updateFilter params.filter fns.angles s.filter u.targetPose u.targetVel
      (1 / max 1e-3 params.controllerFrequency)
    updates := u :: s.updates }

/-- The filter starts again at the pose of the robot, if it is available. -/
def resetAtPose (currentPose : Option (Pose K)) (s : Server K) : Server K :=
  match currentPose with
  | some currentPose => { s with filter := resetFilter fns.angles currentPose }
  | none => s

/-- `getCurrentCommand()` at or after the last stamp. -/
def commandAtGoal (reading : Reading K) (goal : StampedPose K) :
    EStateM Exception (Server K) (Option (Setpoint K)) := do
  modify (Server.updateFilter fns params
    ⟨reading.now, none, goal.pose, ⟨⟨0, 0, 0⟩, ⟨0, 0, 0⟩⟩⟩)
  let s ← get
  let out := getFilteredSetpoint fns reading.later s
  let refPos : Vec3 K :=
    ⟨s.filter.refState.pos 0, s.filter.refState.pos 1, s.filter.refState.pos 2⟩
  return if distance fns refPos goal.pose.position < params.xyzGoalTolerance then some out.stopped
    else some out

/-- `getCurrentCommand()` between the first and the last stamp. -/
def commandOnPath (reading : Reading K) (goal : StampedPose K) :
    EStateM Exception (Server K) (Option (Setpoint K)) := do
  modify fun s => { s with
    currentWaypointIndex := advanceIndex s.currentPath reading.now s.currentWaypointIndex }
  let s ← get
  match s.currentPath[s.currentWaypointIndex]?, s.currentPath[s.currentWaypointIndex + 1]? with
  | some a, some b => do
    let pose := targetPose fns reading.now a b
    let distToGoal := distance fns goal.pose.position pose.position
    modify (Server.updateFilter fns params
      ⟨reading.now, some (a, b), pose, targetVel fns params distToGoal a b⟩)
    let out := getFilteredSetpoint fns reading.later (← get)
    return if distToGoal ≤ params.xyzGoalTolerance then some out.stopped else some out
  | _, _ => throw .outOfRange

/-- `getCurrentCommand()`. -/
def getCurrentCommand (reading : Reading K) :
    EStateM Exception (Server K) (Option (Setpoint K)) := do
  let s ← get
  match s.currentPath.head?, s.currentPath.getLast? with
  | some front, some back =>
    if reading.now ≤ front.1 then do
      modify (resetAtPose fns reading.currentPose)
      return some (getFilteredSetpoint fns reading.later (← get))
    else if back.1 ≤ reading.now then commandAtGoal fns params reading back.2
    else commandOnPath fns params reading back.2
  | _, _ => return none

/-! ## What a command does -/

/-- The ways a call of `getCurrentCommand()` may go. -/
inductive CommandEffect (reading : Reading K) (s : Server K) : Server K → Prop where
  | noPath : s.currentPath = [] → CommandEffect reading s s
  | before (front : K × StampedPose K) (filter : ReferenceFilter K) :
      s.currentPath.head? = some front → reading.now ≤ front.1 →
        CommandEffect reading s { s with filter := filter }
  | atGoal (front back : K × StampedPose K) :
      s.currentPath.head? = some front → s.currentPath.getLast? = some back →
        front.1 < reading.now → back.1 ≤ reading.now →
          CommandEffect reading s (s.updateFilter fns params
            ⟨reading.now, none, back.2.pose, ⟨⟨0, 0, 0⟩, ⟨0, 0, 0⟩⟩⟩)
  | onPath (front back a b : K × StampedPose K) (j : Nat) :
      s.currentPath.head? = some front → s.currentPath.getLast? = some back →
        front.1 < reading.now → reading.now < back.1 →
          j = advanceIndex s.currentPath reading.now s.currentWaypointIndex →
            s.currentPath[j]? = some a → s.currentPath[j + 1]? = some b →
              CommandEffect reading s ({ s with currentWaypointIndex := j }.updateFilter fns params
                ⟨reading.now, some (a, b), targetPose fns reading.now a b,
                  targetVel fns params
                    (distance fns back.2.pose.position (targetPose fns reading.now a b).position)
                    a b⟩)

/-- A call throws if the segment of its time is out of range. -/
def OutOfRange (reading : Reading K) (s : Server K) : Prop :=
  ∃ front back, s.currentPath.head? = some front ∧ s.currentPath.getLast? = some back ∧
    front.1 < reading.now ∧ reading.now < back.1 ∧
    s.currentPath.length ≤ advanceIndex s.currentPath reading.now s.currentWaypointIndex + 1

theorem triple_getCurrentCommand (reading : Reading K) (s : Server K) :
    Triple (· = s) (getCurrentCommand fns params reading)
      (fun _ => CommandEffect fns params reading s) (fun _ _ => OutOfRange reading s) := by
  refine triple_get_bind fun s' hs' => ?_
  rw [hs']
  cases hhead : s.currentPath.head? with
  | none =>
    refine triple_pure ?_
    rintro _ rfl
    exact .noPath (List.head?_eq_none_iff.mp hhead)
  | some front =>
    cases hlast : s.currentPath.getLast? with
    | none =>
      refine triple_pure ?_
      rintro _ rfl
      exact .noPath (List.getLast?_eq_none_iff.mp hlast)
    | some back =>
      refine triple_ite (fun hbefore => ?_) (fun hafter => triple_ite (fun hgoal => ?_)
        (fun hpath => ?_))
      · -- not after the first stamp
        refine triple_bind (Q := fun _ s' => ∃ filter, s' = { s with filter := filter })
          (triple_modify ?_) fun _ => triple_get_bind fun s' hs' => triple_pure ?_
        · rintro _ rfl
          cases reading.currentPose with
          | none => exact ⟨_, rfl⟩
          | some currentPose => exact ⟨_, rfl⟩
        · obtain ⟨filter, rfl⟩ := hs'
          rintro _ rfl
          exact .before front filter hhead hbefore
      · refine triple_bind (Q := fun _ s' => CommandEffect fns params reading s s')
          (triple_modify ?_) fun _ => triple_get_bind fun s' hs' => triple_pure ?_
        · rintro _ rfl
          exact .atGoal front back hhead hlast (not_le.mp hafter) hgoal
        · rintro _ rfl
          exact hs'
      · refine triple_bind (Q := fun _ s' => s' = { s with
          currentWaypointIndex :=
            advanceIndex s.currentPath reading.now s.currentWaypointIndex }) (triple_modify ?_)
          fun _ => triple_get_bind fun s' hs' => ?_
        · rintro _ rfl
          rfl
        rw [hs']
        split
        · next a b ha hb =>
          refine triple_bind (Q := fun _ s' => CommandEffect fns params reading s s')
            (triple_modify ?_) fun _ => triple_get_bind fun s' hs' => triple_pure ?_
          · rintro _ rfl
            exact .onPath front back a b _ hhead hlast (not_le.mp hafter) (not_le.mp hpath) rfl
              ha hb
          · rintro _ rfl
            exact hs'
        · next hnone =>
          refine triple_throw fun _ _ => ⟨front, back, hhead, hlast, not_le.mp hafter,
            not_le.mp hpath, ?_⟩
          by_contra hlt
          rw [not_le] at hlt
          exact hnone _ _ (List.getElem?_eq_getElem (Nat.lt_of_succ_lt hlt))
            (List.getElem?_eq_getElem hlt)

/-! ## The stamps -/

omit [Field K] [LinearOrder K] in
@[simp] theorem untimed_timedPose (t : K) (p : StampedPose K) :
    (timedPose t p).2.untimed = p.untimed := rfl

theorem untimed_timedPoses (startTime v : K) (previous : StampedPose K) (accumulatedTime : K)
    (poses : List (StampedPose K)) :
    (timedPoses fns startTime v previous accumulatedTime poses).map (·.2.untimed) =
      poses.map (·.untimed) := by
  induction poses generalizing previous accumulatedTime with
  | nil => rfl
  | cons p poses ih =>
    rw [timedPoses, List.map_cons, List.map_cons, ih, untimed_timedPose]

/-- The trajectory goes through the poses of the path, in their order. -/
theorem untimed_timedPath (startTime v : K) (path : List (StampedPose K)) :
    (timedPath fns startTime v path).map (·.2.untimed) = path.map (·.untimed) := by
  cases path with
  | nil => rfl
  | cons p poses =>
    rw [timedPath, List.map_cons, List.map_cons, untimed_timedPoses, untimed_timedPose]

/-- Two stamped poses in a row: a hundredth of a second apart at least, and
no farther than the speed `v` goes meanwhile. -/
structure Spaced (v : K) (a b : K × StampedPose K) : Prop where
  apart : a.1 + 0.01 ≤ b.1
  slow : distance fns b.2.pose.position a.2.pose.position ≤ v * (b.1 - a.1)

section Ordered

variable [IsStrictOrderedRing K] {v : K}

/-- One segment. -/
theorem spaced_segment (hv : 0 < v) (t : K) (p0 p1 : StampedPose K) :
    Spaced fns v (timedPose t p0) (timedPose (t + segmentDuration fns v p0 p1) p1) where
  apart := add_le_add_right (le_max_right _ _) t
  slow := by
    have hle : distance fns p1.pose.position p0.pose.position / v ≤ segmentDuration fns v p0 p1 :=
      le_max_left _ _
    have hmul := (div_le_iff₀ hv).mp hle
    simp only [timedPose, add_sub_cancel_left]
    rwa [mul_comm]

/-- The loop. By induction on the poses that follow. -/
theorem spaced_timedPoses (hv : 0 < v) (startTime : K) (previous : StampedPose K)
    (accumulatedTime : K) (poses : List (StampedPose K)) :
    List.IsChain (Spaced fns v) (timedPose (startTime + accumulatedTime) previous ::
      timedPoses fns startTime v previous accumulatedTime poses) := by
  induction poses generalizing previous accumulatedTime with
  | nil => exact List.isChain_singleton _
  | cons p poses ih =>
    have hfirst := spaced_segment fns hv (startTime + accumulatedTime) previous p
    rw [add_assoc] at hfirst
    exact List.isChain_cons_cons.mpr ⟨hfirst, ih p _⟩

theorem spaced_timedPath (hv : 0 < v) (startTime : K) (path : List (StampedPose K)) :
    List.IsChain (Spaced fns v) (timedPath fns startTime v path) := by
  cases path with
  | nil => exact List.isChain_nil
  | cons p poses =>
    have hchain := spaced_timedPoses fns hv startTime p 0 poses
    rwa [add_zero] at hchain

theorem Spaced.lt {a b : K × StampedPose K} (h : Spaced fns v a b) : a.1 < b.1 := by
  have happart := h.apart
  have hpos : (0 : K) < 0.01 := by norm_num
  linarith

/-- The stamps increase. -/
theorem increasing_timedPath (hv : 0 < v) (startTime : K) (path : List (StampedPose K)) :
    PiecewiseLinear.Increasing Prod.fst (timedPath fns startTime v path) :=
  (spaced_timedPath fns hv startTime path).imp fun _ _ h => h.lt

end Ordered

/-! ## The index -/

variable {path : TimedPath K} {tnow : K} {index : Nat}

omit [Field K] in
/-- The loop stops at the first stamp that is not before `tnow`, or at the
end. By the recursion of the loop. -/
theorem advanceIndex_spec (path : TimedPath K) (tnow : K) (index : Nat) :
    (∀ b, path[advanceIndex path tnow index + 1]? = some b → tnow ≤ b.1) ∧
      (advanceIndex path tnow index = index ∨
        ∃ a, path[advanceIndex path tnow index]? = some a ∧ a.1 < tnow) := by
  fun_induction advanceIndex path tnow index with
  | case1 index hin hlt ih =>
    refine ⟨ih.1, ?_⟩
    rcases ih.2 with hsame | hpassed
    · refine .inr ⟨path[index + 1], ?_, hlt⟩
      rw [hsame]
      exact List.getElem?_eq_getElem hin
    · exact .inr hpassed
  | case2 index hin hge =>
    refine ⟨fun b hb => ?_, .inl rfl⟩
    rw [List.getElem?_eq_getElem hin] at hb
    cases hb
    exact not_lt.mp hge
  | case3 index hout =>
    refine ⟨fun b hb => ?_, .inl rfl⟩
    exact absurd (List.getElem?_eq_some_iff.mp hb).1 hout

/-- The index is at the start or at the start of a segment. -/
def IndexInRange (path : TimedPath K) (index : Nat) : Prop := index = 0 ∨ index + 1 < path.length

omit [Field K] in
/-- Between the first and the last stamp the segment is in range. -/
theorem advanceIndex_lt (hindex : IndexInRange path index) {front back : K × StampedPose K}
    (hhead : path.head? = some front) (hlast : path.getLast? = some back)
    (hafter : front.1 < tnow) (hbefore : tnow < back.1) :
    advanceIndex path tnow index + 1 < path.length := by
  have hlast' : path[path.length - 1]? = some back := by
    rwa [← List.getLast?_eq_getElem?]
  have hpos : 0 < path.length := by
    cases path with
    | nil => cases hhead
    | cons _ _ => exact Nat.succ_pos _
  by_contra hge
  rcases (advanceIndex_spec path tnow index).2 with hsame | ⟨a, ha, hlt⟩
  · rw [hsame] at hge
    rcases hindex with rfl | hin
    · -- one pose only
      have hone : path.length - 1 = 0 := by omega
      rw [hone, ← List.head?_eq_getElem?, hhead] at hlast'
      cases hlast'
      exact absurd hafter (not_lt.mpr hbefore.le)
    · exact hge hin
  · have hsize := (List.getElem?_eq_some_iff.mp ha).1
    have hat : advanceIndex path tnow index = path.length - 1 := by omega
    rw [hat, hlast'] at ha
    cases ha
    exact absurd hlt (not_lt.mpr hbefore.le)

omit [Field K] in
/-- A call between the stamps does not read out of range. -/
theorem not_outOfRange {reading : Reading K} {s : Server K}
    (hindex : IndexInRange s.currentPath s.currentWaypointIndex) : ¬ OutOfRange reading s := by
  rintro ⟨front, back, hhead, hlast, hafter, hbefore, hout⟩
  exact absurd (advanceIndex_lt hindex hhead hlast hafter hbefore) (Nat.not_lt_of_le hout)

end Server

end Nav3D.Controller.Exact

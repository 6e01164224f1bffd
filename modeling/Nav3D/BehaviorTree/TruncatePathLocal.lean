/-
Nav3D.BehaviorTree.TruncatePathLocal — the node that cuts a path down to
what lies around the robot
(`plugins/action/truncate_path_local_action.cpp`).

The closest pose is searched in the whole path or, with a finite
`max_robot_pose_search_dist`, from where the last tick has found it, up to
that distance. Iterators are offsets, with the checks of
`Nav3D.Util.GeometryUtils`; a tick that would leave the vector is `none`.
The output is the part of the path within the distances around the closest
pose (`cuts_window`).

The numbers are any ordered field, with the functions of `<cmath>` and tf2
as a parameter.
-/
import Nav3D.BtNavigator.Progress
import Nav3D.Controller.TimedTrajectory
import Nav3D.Lib.BehaviorTree
import Nav3D.Lib.Transition
import Nav3D.Util.GeometryUtils

namespace Nav3D.BehaviorTree.TruncatePathLocal

open ArcLength BT Transition Util
open Nav3D.BtNavigator (Numbers)
open Nav3D.Controller (PoseStamped)

/-! ## The node -/

/-- The functions of other libraries. -/
structure Functions (K : Type) where
  numbers : Numbers K
  /-- `std::sqrt`. -/
  sqrt : K → K
  /-- `tf2::Quaternion::angleShortestPath`. -/
  angleShortestPath : Px4.Quaternion K → Px4.Quaternion K → K
  /-- `static_cast<size_t>(std::round(x))`. -/
  round : K → Nat

/-- `nav_msgs/Path`. -/
abbrev Path (K : Type) : Type := Msg.Path Int (Px4.Pose K)

/-- What one tick reads: its ports, and the transform of the robot. A port
that is not set has its default; a path that is not set is empty. -/
structure Inputs (K : Type) where
  inputPath : Path K
  distanceForward : K
  distanceBackward : K
  robotFrame : Option String
  transformTolerance : K
  pose : Option (PoseStamped K)
  angularDistanceWeight : K
  /-- A bound that is not finite is `none`. -/
  maxRobotPoseSearchDist : Option K
  mode : String
  resampleDistance : K
  maxOutputPoses : Int
  /-- `nav3d_util::getCurrentPose`, for a global frame, the frame of the robot
  and a tolerance. -/
  getCurrentPose : String → String → K → Option (PoseStamped K)

/-- `path_` and `closest_pose_detection_begin_`, as an offset into it. -/
structure Members (K : Type) where
  path : Path K
  closestPoseDetectionBegin : Nat

/-- What a tick leaves, and its `current_pose` if it gets there. -/
structure Ticked (K : Type) where
  members : Members K
  status : NodeStatus
  outputPath : Option (Path K)
  currentPose : Option Nat

section Node

variable {K : Type} [Field K] [LinearOrder K] (fns : Functions K)

/-- The members of a new node. A default iterator is the beginning of the
empty vector. -/
def Members.initial : Members K := ⟨⟨⟨0, ""⟩, []⟩, 0⟩

/-- `euclidean_distance` of two stamped poses. -/
def euclideanDistance (pos1 pos2 : PoseStamped K) : K :=
  BtNavigator.euclideanDistance fns.numbers pos1.pose pos2.pose

/-- `poseDistance(pose1, pose2, angular_distance_weight)`. -/
def poseDistance (angularDistanceWeight : K) (pose1 pose2 : PoseStamped K) : K :=
  let dx := pose1.pose.position.x - pose2.pose.position.x
  let dy := pose1.pose.position.y - pose2.pose.position.y
  let dz := pose1.pose.position.z - pose2.pose.position.z
  let da := angularDistanceWeight *
    |fns.angleShortestPath pose1.pose.orientation pose2.pose.orientation|
  let dp := fns.sqrt (dx * dx + dy * dy + dz * dz)
  fns.sqrt (dp * dp + da * da)

/-! ## Resampling and capping -/

/-- The `for` loop of `resamplePath`, after the pose `previous`. -/
def resampleLoop (spacingM : K) : K → PoseStamped K → List (PoseStamped K) → List (PoseStamped K)
  | _, _, [] => []
  | acc, previous, p :: poses =>
    let acc := acc + euclideanDistance fns previous p
    if spacingM ≤ acc ∨ poses = [] then p :: resampleLoop spacingM 0 p poses
    else resampleLoop spacingM acc p poses

/-- `resamplePath(path, spacing_m)`. -/
def resamplePath (spacingM : K) (poses : List (PoseStamped K)) : List (PoseStamped K) :=
  if spacingM ≤ 0 ∨ poses.length < 3 then poses
  else
    match poses with
    | [] => []
    | front :: poses => front :: resampleLoop fns spacingM 0 front poses

/-- The `for` loop of `capPath` over the indices between the first and the
last one, with the number of them that are left. -/
def capLoop (last : Nat) (step : K) : Nat → Nat → Nat → List Nat
  | 0, _, _ => []
  | count + 1, i, previous =>
    let idx := fns.round ((i : K) * step)
    let idx := if idx ≤ previous then previous + 1 else idx
    let idx := if last ≤ idx then last - 1 else idx
    idx :: capLoop last step count (i + 1) idx

/-- The indices that `capPath` keeps, `last` being the last one of all. -/
def capIndices (last keep : Nat) : List Nat :=
  if keep = 1 then [last]
  else
    let step : K := (last : K) / ((keep - 1 : Nat) : K)
    0 :: capLoop fns last step (keep - 2) 1 0 ++ [last]

/-- `capPath(path, max_poses)`. -/
def capPath (maxPoses : Int) (poses : List (PoseStamped K)) : List (PoseStamped K) :=
  if maxPoses ≤ 0 ∨ (poses.length : Int) ≤ maxPoses then poses
  else (capIndices fns (poses.length - 1) maxPoses.toNat).filterMap (poses[·]?)

/-! ## A tick -/

variable (inputs : Inputs K)

/-- `getRobotPose(path_frame_id, pose)`. -/
def getRobotPose (pathFrameId : String) : Option (PoseStamped K) :=
  match inputs.pose with
  | some pose => some pose
  | none =>
    match inputs.robotFrame with
    | none => none
    | some robotFrame => inputs.getCurrentPose pathFrameId robotFrame inputs.transformTolerance

/-- The input path is taken over, unless it is the one that is pruned. -/
def rebase (m : Members K) : Members K :=
  if inputs.maxRobotPoseSearchDist = none ∨ inputs.inputPath ≠ m.path then ⟨inputs.inputPath, 0⟩
  else m

/-- `closest_pose_detection_end`. -/
def closestPoseDetectionEnd (m : Members K) : Option Nat :=
  match inputs.maxRobotPoseSearchDist with
  | none => some m.path.poses.length
  | some bound =>
    firstAfterIntegratedDistance (euclideanDistance fns) m.path.poses m.closestPoseDetectionBegin
      m.path.poses.length bound

/-- `forward_pose_it`. -/
def forwardPoseIt (poses : List (PoseStamped K)) (currentPose : Nat) : Option Nat := do
  let forward ← firstAfterIntegratedDistance (euclideanDistance fns) poses currentPose poses.length
    inputs.distanceForward
  if forward = currentPose then
    let following ← next poses currentPose
    return if following ≠ poses.length then following else forward
  else return forward

/-- The output in mode `remaining`. -/
def remainingPoses (poses : List (PoseStamped K)) (currentPose forward : Nat) :
    Option (List (PoseStamped K)) := do
  let output ← range poses currentPose forward
  if output = [] then
    let pose ← poses[currentPose]?
    return [pose]
  else return output

/-- The output in the other modes. -/
def localPoses (poses : List (PoseStamped K)) (currentPose forward : Nat) :
    Option (List (PoseStamped K)) := do
  let following ← next poses currentPose
  let backward ← firstAfterIntegratedDistance (euclideanDistance fns) poses.reverse
    (reverseIterator poses following) poses.length inputs.distanceBackward
  range poses (base poses backward) forward

/-- `output_path.poses`, before it is resampled and capped. -/
def outputPoses (poses : List (PoseStamped K)) (currentPose forward : Nat) :
    Option (List (PoseStamped K)) :=
  if inputs.mode = "remaining" then remainingPoses poses currentPose forward
  else localPoses fns inputs poses currentPose forward

/-- `tick()` from the search for the closest pose on. -/
def truncate (pose : PoseStamped K) (m : Members K) : Option (Ticked K) := do
  let poses := m.path.poses
  let last ← closestPoseDetectionEnd fns inputs m
  let currentPose ← minBy (poseDistance fns inputs.angularDistanceWeight pose) poses last
    m.closestPoseDetectionBegin
  let forward ← forwardPoseIt fns inputs poses currentPose
  let output ← outputPoses fns inputs poses currentPose forward
  -- the checks of both calls are repeated in the functions
  let output := capPath fns inputs.maxOutputPoses (resamplePath fns inputs.resampleDistance output)
  return {
    members :=
      if inputs.maxRobotPoseSearchDist = none then m
      else { m with closestPoseDetectionBegin := currentPose }
    status := .success
    outputPath := some { m.path with poses := output }
    currentPose := some currentPose }

/-- `TruncatePathLocal::tick()`. -/
def tick (m : Members K) : Option (Ticked K) :=
  let m := rebase inputs m
  match getRobotPose inputs m.path.header.frameId with
  | none => some ⟨m, .failure, none, none⟩
  | some pose =>
    if m.path.poses = [] then some ⟨m, .success, some m.path, none⟩
    else truncate fns inputs pose m

/-! ## What a tick does -/

/-- The iterator points into the path, to its end only if it is empty. -/
def PointsInto (m : Members K) : Prop :=
  m.closestPoseDetectionBegin < m.path.poses.length ∨
    m.path.poses = [] ∧ m.closestPoseDetectionBegin = m.path.poses.length

/-- The poses from the iterator to before `last` are searched: all of them,
or those within the bound. -/
structure Searched (m : Members K) (last : Nat) : Prop where
  lt : m.closestPoseDetectionBegin < last
  le : last ≤ m.path.poses.length
  unbounded : inputs.maxRobotPoseSearchDist = none →
    m.closestPoseDetectionBegin = 0 ∧ last = m.path.poses.length
  bounded : ∀ bound, inputs.maxRobotPoseSearchDist = some bound →
    FirstBeyond (euclideanDistance fns) m.path.poses m.closestPoseDetectionBegin
      m.path.poses.length bound last

/-- What a tick finds on a path that is not empty: the end of the search,
the closest pose, and the first poses beyond the distances on both sides,
the one behind in the reversed path. -/
structure Found (pose : PoseStamped K) (m : Members K) (last current forward backward : Nat) :
    Prop where
  searched : Searched fns inputs m last
  closest : LastMin (poseDistance fns inputs.angularDistanceWeight pose) m.path.poses
    m.closestPoseDetectionBegin last current
  forward : FirstBeyond (euclideanDistance fns) m.path.poses current m.path.poses.length
    inputs.distanceForward forward
  backward : FirstBeyond (euclideanDistance fns) m.path.poses.reverse
    (m.path.poses.length - (current + 1)) m.path.poses.length inputs.distanceBackward backward

/-- The poses that are kept before they are resampled and capped. -/
def keptPoses (poses : List (PoseStamped K)) (current forward backward : Nat) :
    List (PoseStamped K) :=
  (poses.take forward).drop
    (if inputs.mode = "remaining" then current else poses.length - backward)

/-- The ways a tick may go, after the path has been taken over. -/
inductive TickEffect (m : Members K) : Ticked K → Prop where
  | noPose : getRobotPose inputs m.path.header.frameId = none →
    TickEffect m ⟨m, .failure, none, none⟩
  | empty (pose : PoseStamped K) : getRobotPose inputs m.path.header.frameId = some pose →
      m.path.poses = [] → TickEffect m ⟨m, .success, some m.path, none⟩
  | found (pose : PoseStamped K) (last current forward backward : Nat) :
      getRobotPose inputs m.path.header.frameId = some pose →
        Found fns inputs pose m last current forward backward →
          TickEffect m {
            members :=
              if inputs.maxRobotPoseSearchDist = none then m
              else { m with closestPoseDetectionBegin := current }
            status := .success
            outputPath := some { m.path with
              poses := capPath fns inputs.maxOutputPoses (resamplePath fns inputs.resampleDistance
                (keptPoses inputs m.path.poses current forward backward)) }
            currentPose := some current }

variable {m : Members K}

omit [Field K] in
/-- The path of a tick is the input path. -/
theorem rebase_path (m : Members K) : (rebase inputs m).path = inputs.inputPath := by
  unfold rebase
  split
  · rfl
  · next hsame =>
    rw [not_or, not_not] at hsame
    exact hsame.2.symm

omit [Field K] in
theorem rebase_unbounded (m : Members K) (h : inputs.maxRobotPoseSearchDist = none) :
    (rebase inputs m).closestPoseDetectionBegin = 0 := by
  rw [rebase, if_pos (.inl h)]

omit [Field K] in
theorem rebase_pointsInto (h : PointsInto m) : PointsInto (rebase inputs m) := by
  unfold rebase
  split
  · cases hposes : inputs.inputPath.poses with
    | nil => exact .inr ⟨hposes, by rw [hposes]; rfl⟩
    | cons p poses => exact .inl (by rw [hposes]; exact Nat.succ_pos _)
  · exact h

theorem exists_searched (hbegin : m.closestPoseDetectionBegin < m.path.poses.length)
    (hzero : inputs.maxRobotPoseSearchDist = none → m.closestPoseDetectionBegin = 0) :
    ∃ last, closestPoseDetectionEnd fns inputs m = some last ∧ Searched fns inputs m last := by
  unfold closestPoseDetectionEnd
  cases hbound : inputs.maxRobotPoseSearchDist with
  | none =>
    refine ⟨_, rfl, hbegin, le_refl _, fun _ => ⟨hzero hbound, rfl⟩, fun bound hsome => ?_⟩
    rw [hbound] at hsome
    cases hsome
  | some bound =>
    obtain ⟨last, hlast, hfirst⟩ := firstAfterIntegratedDistance_spec
      (euclideanDistance fns) bound hbegin (le_refl _)
    refine ⟨last, hlast, hfirst.after, hfirst.le, fun hnone => ?_, fun bound' hsome => ?_⟩
    · rw [hbound] at hnone
      cases hnone
    · rw [hbound] at hsome
      cases hsome
      exact hfirst

omit [Field K] [LinearOrder K] in
theorem range_eq {poses : List (PoseStamped K)} {first last : Nat} (hfirst : first ≤ last)
    (hlast : last ≤ poses.length) : range poses first last = some ((poses.take last).drop first) :=
  if_pos ⟨hfirst, hlast⟩

/-- From a pose of the path the range goes on by one pose at least. -/
theorem forwardPoseIt_eq {poses : List (PoseStamped K)} {current : Nat}
    (hcurrent : current < poses.length) :
    ∃ forward, forwardPoseIt fns inputs poses current = some forward ∧
      FirstBeyond (euclideanDistance fns) poses current poses.length inputs.distanceForward
        forward := by
  obtain ⟨forward, hforward, hfirst⟩ := firstAfterIntegratedDistance_spec
    (euclideanDistance fns) inputs.distanceForward hcurrent (le_refl _)
  have hafter := hfirst.after
  refine ⟨forward, ?_, hfirst⟩
  simp [forwardPoseIt, hforward, Nat.ne_of_gt hafter]

theorem outputPoses_eq {poses : List (PoseStamped K)} {current forward : Nat}
    (hcurrent : current < forward) (hforward : forward ≤ poses.length) :
    ∃ backward, outputPoses fns inputs poses current forward =
        some (keptPoses inputs poses current forward backward) ∧
      FirstBeyond (euclideanDistance fns) poses.reverse (poses.length - (current + 1))
        poses.length inputs.distanceBackward backward := by
  have hstart : poses.length - (current + 1) < poses.length := by omega
  have hend : poses.length ≤ poses.reverse.length := by simp
  obtain ⟨backward, hbackward, hfirst⟩ := firstAfterIntegratedDistance_spec
    (euclideanDistance fns) inputs.distanceBackward hstart hend
  refine ⟨backward, ?_, hfirst⟩
  have hafter := hfirst.after
  unfold outputPoses keptPoses
  split
  · have hne : (poses.take forward).drop current ≠ [] := by
      rw [ne_eq, List.drop_eq_nil_iff, List.length_take]
      omega
    simp [remainingPoses, range_eq hcurrent.le hforward, hne]
  · have hnext : next poses current = some (current + 1) := if_pos (by omega)
    have hstart : poses.length - backward ≤ forward := by omega
    simp [localPoses, hnext, reverseIterator, hbackward, base, range_eq hstart hforward]

/-- No tick leaves the path with an iterator that points into it. -/
theorem tick_effect (h : PointsInto m) :
    ∃ t, tick fns inputs m = some t ∧ TickEffect fns inputs (rebase inputs m) t := by
  have hpoints := rebase_pointsInto inputs h
  have hzero := rebase_unbounded inputs m
  simp only [tick]
  generalize rebase inputs m = m' at hpoints hzero
  cases hpose : getRobotPose inputs m'.path.header.frameId with
  | none => exact ⟨_, rfl, .noPose hpose⟩
  | some pose =>
    by_cases hempty : m'.path.poses = []
    · simp only [if_pos hempty]
      exact ⟨_, rfl, .empty pose hpose hempty⟩
    · have hbegin : m'.closestPoseDetectionBegin < m'.path.poses.length :=
        hpoints.resolve_right fun hend => hempty hend.1
      obtain ⟨last, hlast, hsearched⟩ := exists_searched fns inputs hbegin hzero
      obtain ⟨current, hcurrent, hclosest⟩ := minBy_spec
        (poseDistance fns inputs.angularDistanceWeight pose) hsearched.lt
        hsearched.le
      have hin : current < m'.path.poses.length := lt_of_lt_of_le hclosest.lt hsearched.le
      obtain ⟨forward, hforward, hbeyond⟩ := forwardPoseIt_eq fns inputs hin
      obtain ⟨backward, houtput, hbehind⟩ := outputPoses_eq fns inputs hbeyond.after hbeyond.le
      simp only [if_neg hempty]
      refine ⟨_, ?_, .found pose last current forward backward hpose
        ⟨hsearched, hclosest, hbeyond, hbehind⟩⟩
      simp [truncate, hlast, hcurrent, hforward, houtput]

variable {fns inputs}

theorem TickEffect.pointsInto {t : Ticked K} (h : PointsInto m)
    (heffect : TickEffect fns inputs m t) : PointsInto t.members := by
  cases heffect with
  | noPose _ => exact h
  | empty pose _ _ => exact h
  | found pose last current forward backward _ hfound =>
    simp only
    split
    · exact h
    · exact .inl (lt_of_lt_of_le hfound.closest.lt hfound.searched.le)

/-! ## Runs -/

variable (fns) in
/-- Any sequence of ticks of a new node. -/
def tickSystem : System (Members K) (Inputs K) where
  init := fun m => m = .initial
  step := fun m inputs => (tick fns inputs m).map Ticked.members

theorem pointsInto_of_reach {C : Members K → Inputs K → Prop} (h : (tickSystem fns).Reach C m) :
    PointsInto m := by
  refine h.invariant PointsInto (fun m hinit => ?_) (fun m inputs m' hm _ hstep => ?_)
  · obtain rfl := hinit
    exact .inr ⟨rfl, rfl⟩
  · obtain ⟨t, ht, heffect⟩ := tick_effect fns inputs hm
    simp only [tickSystem, ht, Option.map_some, Option.some.injEq] at hstep
    rw [← hstep]
    exact heffect.pointsInto (rebase_pointsInto inputs hm)

/-! ## The window -/

variable (fns inputs) in
/-- The output is cut out of the input path around the closest pose. -/
structure Window (pose : PoseStamped K) (first last current start stop : Nat) (output : Path K) :
    Prop where
  /-- Without a bound the whole path is searched. -/
  unbounded : inputs.maxRobotPoseSearchDist = none →
    first = 0 ∧ last = inputs.inputPath.poses.length
  bounded : ∀ bound, inputs.maxRobotPoseSearchDist = some bound →
    FirstBeyond (euclideanDistance fns) inputs.inputPath.poses first inputs.inputPath.poses.length
      bound last
  closest : LastMin (poseDistance fns inputs.angularDistanceWeight pose) inputs.inputPath.poses
    first last current
  start_le : start ≤ current
  lt_stop : current < stop
  stop_le : stop ≤ inputs.inputPath.poses.length
  back_within : arcLength (euclideanDistance fns) inputs.inputPath.poses start current ≤
    inputs.distanceBackward
  back_maximal : 0 < start → inputs.distanceBackward <
    arcLength (euclideanDistance fns) inputs.inputPath.poses (start - 1) current
  forward_within : arcLength (euclideanDistance fns) inputs.inputPath.poses current (stop - 1) ≤
    inputs.distanceForward
  forward_maximal : stop < inputs.inputPath.poses.length → inputs.distanceForward <
    arcLength (euclideanDistance fns) inputs.inputPath.poses current stop
  output_eq : output = { inputs.inputPath with
    poses := (inputs.inputPath.poses.take stop).drop
      (if inputs.mode = "remaining" then current else start) }
  output_ne : output.poses ≠ []

/-- Without resampling and capping the output is what has been kept. -/
theorem capPath_resamplePath (hresample : inputs.resampleDistance ≤ 0)
    (hcap : inputs.maxOutputPoses ≤ 0) (poses : List (PoseStamped K)) :
    capPath fns inputs.maxOutputPoses (resamplePath fns inputs.resampleDistance poses) = poses := by
  have hsame : resamplePath fns inputs.resampleDistance poses = poses := if_pos (.inl hresample)
  rw [hsame]
  exact if_pos (.inl hcap)

theorem Found.window (hsame : ∀ a b, euclideanDistance fns a b = euclideanDistance fns b a)
    {pose : PoseStamped K} {last current forward backward : Nat}
    (h : Found fns inputs pose m last current forward backward) (hpath : m.path = inputs.inputPath)
    (hforward : 0 ≤ inputs.distanceForward) (hbackward : 0 ≤ inputs.distanceBackward) :
    Window fns inputs pose m.closestPoseDetectionBegin last current
      (m.path.poses.length - backward) forward
      { m.path with poses := keptPoses inputs m.path.poses current forward backward } := by
  obtain ⟨path, first⟩ := m
  obtain rfl : path = inputs.inputPath := hpath
  have hin : current < inputs.inputPath.poses.length :=
    lt_of_lt_of_le h.closest.lt h.searched.le
  have hafter := h.forward.after
  have hle := h.forward.le
  obtain ⟨hstart, hback, hbackmax⟩ := h.backward.back hsame hin hbackward
  exact {
    unbounded := h.searched.unbounded
    bounded := h.searched.bounded
    closest := h.closest
    start_le := hstart
    lt_stop := hafter
    stop_le := hle
    back_within := hback
    back_maximal := hbackmax
    forward_within := h.forward.arcLength_le hforward (by omega) (by omega)
    forward_maximal := h.forward.beyond
    output_eq := rfl
    output_ne := by
      simp only [keptPoses, ne_eq, List.drop_eq_nil_iff, List.length_take]
      split
      · omega
      · omega }

/-- **The window.** In every state of every run, a tick that has the pose of
the robot and a path that is not empty stays within the path and puts out
the part of it around the closest pose that the two distances allow, no less
and no more. In mode `remaining` the output starts at the closest pose. -/
theorem cuts_window
    (hsymm : ∀ x y z, fns.numbers.hypot3 (-x) (-y) (-z) = fns.numbers.hypot3 x y z)
    (hm : (tickSystem fns).Reach System.anyStep m) {pose : PoseStamped K}
    (hpose : getRobotPose inputs inputs.inputPath.header.frameId = some pose)
    (hne : inputs.inputPath.poses ≠ []) (hforward : 0 ≤ inputs.distanceForward)
    (hbackward : 0 ≤ inputs.distanceBackward) (hresample : inputs.resampleDistance ≤ 0)
    (hcap : inputs.maxOutputPoses ≤ 0) :
    ∃ t current start stop last output, tick fns inputs m = some t ∧ t.status = .success ∧
      t.currentPose = some current ∧ t.outputPath = some output ∧
      Window fns inputs pose (rebase inputs m).closestPoseDetectionBegin last current start stop
        output := by
  have hsame : ∀ a b, euclideanDistance fns a b = euclideanDistance fns b a := by
    intro a b
    simp only [euclideanDistance, BtNavigator.euclideanDistance]
    rw [← hsymm, neg_sub, neg_sub, neg_sub]
  obtain ⟨t, ht, heffect⟩ := tick_effect fns inputs (pointsInto_of_reach hm)
  have hpath := rebase_path inputs m
  cases heffect with
  | noPose hnone =>
    rw [hpath, hpose] at hnone
    cases hnone
  | empty pose' _ hempty =>
    rw [hpath] at hempty
    exact absurd hempty hne
  | found pose' last current forward backward hpose' hfound =>
    rw [hpath, hpose] at hpose'
    cases hpose'
    rw [capPath_resamplePath hresample hcap] at ht
    exact ⟨_, current, _, forward, last, _, ht, rfl, rfl, rfl,
      hfound.window hsame hpath hforward hbackward⟩

end Node

/-! ### A path with a repeated pose -/

/-- Right for poses on the first axis that look the same way and are 0, 1 or
2 m apart. -/
def axisFunctions : Functions ℚ where
  numbers :=
    { hypot2 := fun x y => |x| + |y|
      hypot3 := fun x y z => |x| + |y| + |z|
      max := (2 ^ 53 - 1) * 2 ^ 971
      toFloat := fun x => x
      fromSeconds := fun x => x }
  sqrt x := if x = 4 then 2 else x
  angleShortestPath _ _ := 0
  round x := (x + 1 / 2).floor.toNat

theorem axisFunctions_symm (x y z : ℚ) :
    axisFunctions.numbers.hypot3 (-x) (-y) (-z) = axisFunctions.numbers.hypot3 x y z := by
  simp [axisFunctions]

/-- A pose on the first axis. -/
def axisPose (x : ℚ) : PoseStamped ℚ := ⟨⟨0, "map"⟩, ⟨⟨x, 0, 0⟩, ⟨0, 0, 0, 1⟩⟩⟩

/-- A path on the first axis. -/
def axisPath (xs : List ℚ) : Path ℚ := ⟨⟨0, "map"⟩, xs.map axisPose⟩

/-- One metre of a path on both sides of the robot at `x`. -/
def oneMetreAround (path : Path ℚ) (x : ℚ) (bound : Option ℚ) : Inputs ℚ where
  inputPath := path
  distanceForward := 1
  distanceBackward := 1
  robotFrame := none
  transformTolerance := 0
  pose := some (axisPose x)
  angularDistanceWeight := 0
  maxRobotPoseSearchDist := bound
  mode := "local"
  resampleDistance := 0
  maxOutputPoses := 0
  getCurrentPose _ _ _ := none

/-- The robot is at a pose that the path has twice. -/
def atRepeatedPose : Inputs ℚ := oneMetreAround (axisPath [0, 1, 1, 2, 3]) 1 none

theorem cuts_window_repeated :
    ∃ t current start stop last output, tick axisFunctions atRepeatedPose .initial = some t ∧
      t.status = .success ∧ t.currentPose = some current ∧ t.outputPath = some output ∧
      Window axisFunctions atRepeatedPose (axisPose 1)
        (rebase atRepeatedPose .initial).closestPoseDetectionBegin last current start stop
        output := by
  have hnew : (tickSystem axisFunctions).Reach System.anyStep .initial := .init rfl
  refine cuts_window axisFunctions_symm hnew rfl ?_ ?_ ?_ ?_ ?_
  · simp [atRepeatedPose, oneMetreAround, axisPath]
  · decide +kernel
  · decide +kernel
  · decide +kernel
  · decide +kernel

example : (tick axisFunctions atRepeatedPose .initial).map Ticked.outputPath =
    some (some (axisPath [0, 1, 1, 2])) := by
  decide +kernel

end Nav3D.BehaviorTree.TruncatePathLocal

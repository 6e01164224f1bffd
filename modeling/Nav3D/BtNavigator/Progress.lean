/-
Nav3D.BtNavigator.Progress — the feedback that the two navigators publish
in `onLoop()` (`navigate_to_pose.cpp`, `navigate_through_poses.cpp`,
`geometry_utils.hpp`).

Both look for the pose of the path that is closest to the robot and take the
length of the path from there. They divide it by different speeds:
`NavigateToPoseNavigator` by the speed in space, and
`NavigateThroughPosesNavigator` by the speed in the horizontal plane, so
that a climb has another estimate, or none at all
(`climb_without_estimate`). Where the estimates agree is
`sameProgress_iff`.

The functions are translated over any ordered field, with the functions of
`<cmath>` and the conversions of the messages as a parameter. On the real
numbers the conversions are exact.
-/
import Nav3D.Lib.Numerals
import Nav3D.Lib.RunningMin
import Nav3D.Px4.OffboardControl
import Mathlib.Analysis.Real.Sqrt
import Mathlib.Tactic.Linarith

namespace Nav3D.BtNavigator

open RunningMin
open Nav3D.Px4 (Vec3 Pose Twist)

/-- What the navigators need of their numbers. -/
structure Numbers (K : Type) where
  /-- `std::hypot(x, y)`. -/
  hypot2 : K → K → K
  /-- `std::hypot(x, y, z)`. -/
  hypot3 : K → K → K → K
  /-- `std::numeric_limits<double>::max()`. -/
  max : K
  /-- The conversion to the `float32` of the feedback. -/
  toFloat : K → K
  /-- `rclcpp::Duration::from_seconds`. -/
  fromSeconds : K → K

/-- What one call of `onLoop()` reads: the blackboard, the pose of the robot
if it is available, the smoothed velocity and the clock. -/
structure ProgressInput (K W : Type) where
  goals : List (Pose K)
  waypointStatuses : Option (List W)
  currentPose : Option (Pose K)
  path : Option (List (Pose K))
  twist : Twist K
  numberRecoveries : Option Int
  now : Int
  startTime : Int

/-- The feedback of both actions. That of `NavigateToPose` has no
`numberOfPosesRemaining` and no `waypointStatuses`. -/
structure ProgressFeedback (K W : Type) where
  currentPose : Pose K
  navigationTime : Int
  estimatedTimeRemaining : K
  numberOfRecoveries : Int16
  distanceRemaining : K
  numberOfPosesRemaining : Int16
  waypointStatuses : List W

section Progress

variable {K W : Type} [Field K] [LinearOrder K] (numbers : Numbers K)

/-- A feedback message as it is made. -/
def ProgressFeedback.initial : ProgressFeedback K W where
  currentPose := ⟨⟨0, 0, 0⟩, ⟨0, 0, 0, 1⟩⟩
  navigationTime := 0
  estimatedTimeRemaining := 0
  numberOfRecoveries := 0
  distanceRemaining := 0
  numberOfPosesRemaining := 0
  waypointStatuses := []

/-! ## Distances -/

/-- `euclidean_distance(pos1, pos2)`. -/
def euclideanDistance (pos1 pos2 : Pose K) : K :=
  numbers.hypot3 (pos1.position.x - pos2.position.x) (pos1.position.y - pos2.position.y)
    (pos1.position.z - pos2.position.z)

/-- `calculate_path_length(path, start_index)`. -/
def calculatePathLength (poses : List (Pose K)) (startIndex : Nat) : K :=
  if poses.length ≤ startIndex + 1 then 0
  else
    ((poses.drop startIndex).zip (poses.drop (startIndex + 1))).foldl
      (fun pathLength segment => pathLength + euclideanDistance numbers segment.1 segment.2) 0

/-- One pass of the loop in `find_closest_pose_idx`, on `closest_pose_idx`
and `curr_min_dist`. -/
def closerPose (currentPose : Pose K) (closest : Nat × K) (pose : Pose K × Nat) : Nat × K :=
  let currDist := euclideanDistance numbers currentPose pose.1
  if currDist < closest.2 then (pose.2, currDist) else closest

/-- `find_closest_pose_idx`. -/
def findClosestPoseIdx (currentPose : Pose K) (poses : List (Pose K)) : Nat :=
  (poses.zipIdx.foldl (closerPose numbers currentPose) (0, numbers.max)).1

/-- `estimated_time_remaining`. -/
def estimatedTime (currentLinearSpeed distanceRemaining : K) : K :=
  if 0.01 < |currentLinearSpeed| ∧ 0.1 < distanceRemaining then
    numbers.fromSeconds (distanceRemaining / |currentLinearSpeed|)
  else numbers.fromSeconds 0

/-- The part of the feedback that depends on the path, with the speed that
the navigator takes. -/
def reportPath (currentLinearSpeed : K) (currentPose : Pose K) (path : Option (List (Pose K)))
    (feedback : ProgressFeedback K W) : ProgressFeedback K W :=
  match path with
  | none | some [] => feedback
  | some poses =>
    let distanceRemaining :=
      calculatePathLength numbers poses (findClosestPoseIdx numbers currentPose poses)
    { feedback with
      distanceRemaining := numbers.toFloat distanceRemaining
      estimatedTimeRemaining := estimatedTime numbers currentLinearSpeed distanceRemaining }

/-! ## The navigators -/

/-- `NavigateToPoseNavigator::onLoop()`: what is published. -/
def NavigateToPoseNavigator.onLoop (x : ProgressInput K W) : Option (ProgressFeedback K W) :=
  match x.currentPose with
  | none => none
  | some currentPose =>
    let currentLinearSpeed := numbers.hypot3 x.twist.linear.x x.twist.linear.y x.twist.linear.z
    let feedback := reportPath numbers currentLinearSpeed currentPose x.path .initial
    some { feedback with
      numberOfRecoveries := Int16.ofInt (x.numberRecoveries.getD 0)
      currentPose := currentPose
      navigationTime := x.now - x.startTime }

/-- `NavigateThroughPosesNavigator::onLoop()`. It throws if there are no
waypoint statuses; nothing is published then. -/
def NavigateThroughPosesNavigator.onLoop (x : ProgressInput K W) :
    Option (ProgressFeedback K W) :=
  match x.waypointStatuses with
  | none => none
  | some waypointStatuses =>
    let feedback : ProgressFeedback K W := { (.initial : ProgressFeedback K W) with
      waypointStatuses := waypointStatuses }
    if x.goals = [] then some feedback
    else
      match x.currentPose with
      | none => none
      | some currentPose =>
        let currentLinearSpeed := numbers.hypot2 x.twist.linear.x x.twist.linear.y
        let feedback := reportPath numbers currentLinearSpeed currentPose x.path feedback
        some { feedback with
          numberOfRecoveries := Int16.ofInt (x.numberRecoveries.getD 0)
          currentPose := currentPose
          navigationTime := x.now - x.startTime
          numberOfPosesRemaining := Int16.ofNat x.goals.length }

/-! ## The closest pose -/

/-- The distance of a numbered pose. -/
def distanceTo (currentPose : Pose K) (pose : Pose K × Nat) : K :=
  euclideanDistance numbers currentPose pose.1

/-- The loop finds the first of the closest poses. -/
theorem findClosestPoseIdx_eq {currentPose : Pose K} {poses : List (Pose K)}
    {before after : List (Pose K × Nat)} {first : Pose K × Nat}
    (h : FirstMin (distanceTo numbers currentPose) poses.zipIdx before first after)
    (hmax : distanceTo numbers currentPose first < numbers.max) :
    findClosestPoseIdx numbers currentPose poses = first.2 := by
  have hloop : poses.zipIdx.foldl (closerPose numbers currentPose) (0, numbers.max) =
      (recordsBelow (distanceTo numbers currentPose) numbers.max poses.zipIdx).foldl
        (fun _ pose => (pose.2, distanceTo numbers currentPose pose)) (0, numbers.max) := by
    refine foldl_eq_foldl_records (distanceTo numbers currentPose) Prod.snd (fun _ _ => rfl) ?_ ?_
      poses.zipIdx (0, numbers.max)
    · intro closest pose hlt
      exact if_pos hlt
    · intro closest pose hle
      exact if_neg (not_lt.mpr hle)
  rw [findClosestPoseIdx, hloop, h.recordsBelow_eq, if_pos hmax, List.foldl_append]
  rfl

/-! ## The two estimates -/

/-- Where both navigators publish feedback, it reports the same progress. -/
def SameProgress (x : ProgressInput K W) : Prop :=
  ∀ f g, NavigateToPoseNavigator.onLoop numbers x = some f →
    NavigateThroughPosesNavigator.onLoop numbers x = some g →
      f.distanceRemaining = g.distanceRemaining ∧
      f.estimatedTimeRemaining = g.estimatedTimeRemaining

/-- The poses of the robot and of the path give both the same distance, and
the estimates differ in the speed only. -/
theorem sameProgress_iff_estimates {x : ProgressInput K W} (hgoals : x.goals ≠ []) :
    SameProgress numbers x ↔
      ∀ waypointStatuses currentPose poses, x.waypointStatuses = some waypointStatuses →
        x.currentPose = some currentPose → x.path = some poses → poses ≠ [] →
          let distanceRemaining :=
            calculatePathLength numbers poses (findClosestPoseIdx numbers currentPose poses)
          estimatedTime numbers
              (numbers.hypot3 x.twist.linear.x x.twist.linear.y x.twist.linear.z)
              distanceRemaining =
            estimatedTime numbers (numbers.hypot2 x.twist.linear.x x.twist.linear.y)
              distanceRemaining := by
  unfold SameProgress NavigateToPoseNavigator.onLoop NavigateThroughPosesNavigator.onLoop
  cases x.waypointStatuses with
  | none => simp
  | some waypointStatuses =>
    cases x.currentPose with
    | none => simp [hgoals]
    | some currentPose =>
      cases x.path with
      | none => simp [hgoals, reportPath, ProgressFeedback.initial]
      | some poses =>
        cases poses with
        | nil => simp +contextual [hgoals, reportPath, ProgressFeedback.initial]
        | cons pose poses => simp [hgoals, reportPath]

end Progress

/-! ### On the real numbers -/

/-- The largest double. -/
noncomputable def dblMax : ℝ := (2 ^ 53 - 1) * 2 ^ 971

/-- Exact numbers. -/
noncomputable def realNumbers : Numbers ℝ where
  hypot2 x y := Real.sqrt (x * x + y * y)
  hypot3 x y z := Real.sqrt (x * x + y * y + z * z)
  max := dblMax
  toFloat := id
  fromSeconds := id

/-- The length of the path from the pose that is closest to the robot. -/
noncomputable def remainingLength (currentPose : Pose ℝ) (poses : List (Pose ℝ)) : ℝ :=
  calculatePathLength realNumbers poses (findClosestPoseIdx realNumbers currentPose poses)

/-- The speed in space. -/
noncomputable def speed (twist : Twist ℝ) : ℝ :=
  realNumbers.hypot3 twist.linear.x twist.linear.y twist.linear.z

/-- The speed in the plane is not larger, and it is the same exactly if the
vertical speed is zero. -/
theorem hypot2_le_hypot3 (x y z : ℝ) : realNumbers.hypot2 x y ≤ realNumbers.hypot3 x y z :=
  Real.sqrt_le_sqrt (le_add_of_nonneg_right (mul_self_nonneg z))

theorem hypot2_eq_hypot3_iff (x y z : ℝ) :
    realNumbers.hypot2 x y = realNumbers.hypot3 x y z ↔ z = 0 := by
  have hplane : 0 ≤ x * x + y * y := add_nonneg (mul_self_nonneg x) (mul_self_nonneg y)
  have hspace : 0 ≤ x * x + y * y + z * z := add_nonneg hplane (mul_self_nonneg z)
  simp only [realNumbers]
  rw [Real.sqrt_inj hplane hspace]
  simp

/-- An estimate with a speed that is not negative. -/
theorem estimatedTime_of_nonneg {v : ℝ} (hv : 0 ≤ v) (distance : ℝ) :
    estimatedTime realNumbers v distance =
      if 0.01 < v ∧ 0.1 < distance then distance / v else 0 := by
  rw [estimatedTime, abs_of_nonneg hv]
  rfl

/-- The two speeds give the same estimate exactly if there is none or the
vertical speed is zero. -/
theorem estimatedTime_eq_iff (x y z distance : ℝ) :
    estimatedTime realNumbers (realNumbers.hypot3 x y z) distance =
        estimatedTime realNumbers (realNumbers.hypot2 x y) distance ↔
      distance ≤ 0.1 ∨ realNumbers.hypot3 x y z ≤ 0.01 ∨ z = 0 := by
  have hplane : 0 ≤ realNumbers.hypot2 x y := Real.sqrt_nonneg _
  have hle := hypot2_le_hypot3 x y z
  rw [estimatedTime_of_nonneg (hplane.trans hle), estimatedTime_of_nonneg hplane,
    ← hypot2_eq_hypot3_iff x y z]
  generalize realNumbers.hypot2 x y = v at *
  generalize realNumbers.hypot3 x y z = w at *
  rcases le_or_gt distance 0.1 with hdistance | hdistance
  · simp [hdistance, not_lt.mpr hdistance]
  rcases le_or_gt w 0.01 with hslow | hfast
  · simp [hslow, not_lt.mpr hslow, not_lt.mpr (hle.trans hslow)]
  have hw : 0 < w := by linarith
  have hd : 0 < distance := by linarith
  rw [if_pos ⟨hfast, hdistance⟩]
  rcases le_or_gt v 0.01 with hclimb | hv
  · -- too slow in the plane for an estimate
    have hne : v ≠ w := by
      intro heq
      linarith
    rw [if_neg fun h => absurd h.1 (not_lt.mpr hclimb)]
    simp [hne, not_le.mpr hdistance, not_le.mpr hfast, (div_pos hd hw).ne']
  · have hv0 : 0 < v := by linarith
    have hdiv : distance / w = distance / v ↔ v = w := by
      rw [div_eq_div_iff hw.ne' hv0.ne', mul_right_inj' hd.ne']
    rw [if_pos ⟨hv, hdistance⟩, hdiv]
    simp [not_le.mpr hdistance, not_le.mpr hfast]

/-- **Same progress.** With goals on the blackboard, both navigators report
the same progress exactly where they report none, no more than 0.1 m of the
path is left, the speed in space is at most 0.01 m/s, or the vertical speed
is zero. -/
theorem sameProgress_iff {W : Type} {x : ProgressInput ℝ W} (hgoals : x.goals ≠ []) :
    SameProgress realNumbers x ↔
      ∀ waypointStatuses currentPose poses, x.waypointStatuses = some waypointStatuses →
        x.currentPose = some currentPose → x.path = some poses → poses ≠ [] →
          remainingLength currentPose poses ≤ 0.1 ∨ speed x.twist ≤ 0.01 ∨
            x.twist.linear.z = 0 := by
  rw [sameProgress_iff_estimates realNumbers hgoals]
  simp only [estimatedTime_eq_iff]
  rfl

/-! ### A climb -/

/-- The robot at the start of a vertical path, with a velocity. -/
def climbing (velocity : Vec3 ℝ) : ProgressInput ℝ Unit where
  goals := [⟨⟨0, 0, 10⟩, ⟨0, 0, 0, 1⟩⟩]
  waypointStatuses := some []
  currentPose := some ⟨⟨0, 0, 0⟩, ⟨0, 0, 0, 1⟩⟩
  path := some [⟨⟨0, 0, 0⟩, ⟨0, 0, 0, 1⟩⟩, ⟨⟨0, 0, 10⟩, ⟨0, 0, 0, 1⟩⟩]
  twist := ⟨velocity, ⟨0, 0, 0⟩⟩
  numberRecoveries := none
  now := 0
  startTime := 0

/-- In level flight the estimates agree. -/
theorem sameProgress_iff_level : SameProgress realNumbers (climbing ⟨1, 0, 0⟩) := by
  refine (sameProgress_iff (by simp [climbing])).mpr ?_
  intro _ _ _ _ _ _ _
  exact .inr (.inr rfl)

theorem remainingLength_climbing :
    remainingLength ⟨⟨0, 0, 0⟩, ⟨0, 0, 0, 1⟩⟩
      [⟨⟨0, 0, 0⟩, ⟨0, 0, 0, 1⟩⟩, ⟨⟨0, 0, 10⟩, ⟨0, 0, 0, 1⟩⟩] = 10 := by
  have hmax : (0 : ℝ) < dblMax := by norm_num [dblMax]
  have hten : Real.sqrt (10 * 10) = 10 := Real.sqrt_mul_self (by norm_num)
  have hclosest : findClosestPoseIdx realNumbers ⟨⟨0, 0, 0⟩, ⟨0, 0, 0, 1⟩⟩
      [⟨⟨0, 0, 0⟩, ⟨0, 0, 0, 1⟩⟩, ⟨⟨0, 0, 10⟩, ⟨0, 0, 0, 1⟩⟩] = 0 := by
    have hfar : ¬ (10 : ℝ) < 0 := by norm_num
    simp [findClosestPoseIdx, closerPose, euclideanDistance, realNumbers, hmax, hten, hfar]
  rw [remainingLength, hclosest]
  simp [calculatePathLength, euclideanDistance, realNumbers, hten]

/-- A climb at 1 m/s has no estimate in `NavigateThroughPosesNavigator`. -/
theorem climb_without_estimate :
    ¬ ∀ x : ProgressInput ℝ Unit, x.goals ≠ [] → SameProgress realNumbers x := by
  intro hclaim
  have hgoals : (climbing ⟨0, 0, 1⟩).goals ≠ [] := by simp [climbing]
  have hsame := (sameProgress_iff_estimates realNumbers hgoals).mp (hclaim _ hgoals) _ _ _
    rfl rfl rfl (by simp)
  have hcases := (estimatedTime_eq_iff 0 0 1 _).mp hsame
  rw [← remainingLength, remainingLength_climbing] at hcases
  norm_num [realNumbers] at hcases

end Nav3D.BtNavigator

/-
Nav3D.Px4.FrameChange — the change from east-north-up to north-east-down in
the two PX4 bridges, on real numbers.

`VioOdometryBridge` changes the axes of a rotation matrix on both sides;
`OffboardControl` takes the Euler angles of the attitude, changes the yaw
and builds a quaternion from them again. Both agree on the position
(`nedPosition`) and on the heading (`nedYaw`).
-/
import Nav3D.Px4.VioOdometryBridge
import Nav3D.Ros.RealTf2
import Mathlib.Analysis.Normed.Group.AddTorsor
import Mathlib.Analysis.Normed.Ring.Basic
import Mathlib.LinearAlgebra.AffineSpace.Combination

namespace Nav3D.Px4

open Rotation PlaneAngle
open Nav3D.Ros (realTf2 matrix3x3 length2)

/-- The real numbers as doubles. -/
noncomputable instance : Double ℝ where
  decidableLt := Classical.decRel _
  decidableLe := Classical.decRel _
  sqrt := Real.sqrt
  fabs x := |x|
  ceil x := UInt64.ofNat ⌈x⌉.toNat
  pi := Real.pi
  seconds ns := ns / 1000000000

/-! ## The two maps -/

/-- A position in north, east, down. -/
noncomputable def nedPosition : (Fin 3 → ℝ) →ᵃ[ℝ] (Fin 3 → ℝ) := rEnu2ned.mulVecLin.toAffineMap

/-- A yaw counted from north, clockwise, of one counted from east,
counter-clockwise. -/
noncomputable def nedYaw : ℝ →ᵃ[ℝ] ℝ :=
  AffineMap.const ℝ ℝ (Real.pi / 2) - AffineMap.id ℝ ℝ

/-- The direction of the body's first axis in the plane of the first two
axes. -/
noncomputable def heading (q : Quat) : ℝ := atan2 (bodyX q 1) (bodyX q 0)

theorem nedPosition_apply (x y z : ℝ) : nedPosition ![x, y, z] = ![y, x, -z] := by
  ext i
  fin_cases i <;> simp [nedPosition, rEnu2ned, Matrix.mulVec, dotProduct, Fin.sum_univ_three]

/-- The change of the position is its own inverse. -/
theorem nedPosition_nedPosition (p : Fin 3 → ℝ) : nedPosition (nedPosition p) = p := by
  have hp : p = ![p 0, p 1, p 2] := by
    ext i
    fin_cases i <;> rfl
  rw [hp, nedPosition_apply, nedPosition_apply, neg_neg]

theorem nedYaw_apply (yaw : ℝ) : nedYaw yaw = -yaw + Real.pi / 2 := by
  simp [nedYaw]
  ring

theorem nedYaw_linear (rate : ℝ) : nedYaw.linear rate = -rate := by
  simp [nedYaw]

/-! ## The attitude of the odometry bridge -/

/-- The heading of `q_ned_frd` is the changed heading. -/
theorem heading_qNedFrd {q : Quaternion ℝ} (hq : Quaternion.normSq (quaterniond q) = 1)
    (hx : bodyX (quaterniond q) 0 ≠ 0 ∨ bodyX (quaterniond q) 1 ≠ 0) :
    (heading (qNedFrd q) : Real.Angle) = nedYaw (heading (quaterniond q)) := by
  have h0 : bodyX (qNedFrd q) 0 = bodyX (quaterniond q) 1 := by
    simp [bodyX_qNedFrd hq, rEnu2ned, Matrix.mulVec, dotProduct, Fin.sum_univ_three]
  have h1 : bodyX (qNedFrd q) 1 = bodyX (quaterniond q) 0 := by
    simp [bodyX_qNedFrd hq, rEnu2ned, Matrix.mulVec, dotProduct, Fin.sum_univ_three]
  rw [heading, h0, h1, nedYaw_apply, heading]
  exact coe_atan2_swap hx

/-! ## The attitude of the offboard node -/

/-- On unit quaternions tf2 and Eigen have one rotation matrix. -/
theorem matrix3x3_eq {q : Quaternion ℝ} (hq : Quaternion.normSq (quaterniond q) = 1) :
    matrix3x3 q = toRotationMatrix (quaterniond q) := by
  have hlength : length2 q = 1 := by
    have hone := sq_add_of_normSq hq
    simp only [quaterniond] at hone
    rw [length2]
    linear_combination hone
  ext i j
  fin_cases i <;> fin_cases j <;>
    simp [matrix3x3, hlength, toRotationMatrix, quaterniond] <;> ring

/-- A body axis that is not vertical has a vertical part below one. -/
theorem abs_bodyX_lt {q : Quat} (hq : Quaternion.normSq q = 1)
    (hx : bodyX q 0 ≠ 0 ∨ bodyX q 1 ≠ 0) : |bodyX q 2| < 1 := by
  have hunit := sq_bodyX hq
  have hpos : 0 < bodyX q 0 ^ 2 + bodyX q 1 ^ 2 := by
    rcases hx with h | h
    · have := sq_pos_of_ne_zero h
      have := sq_nonneg (bodyX q 1)
      linarith
    · have := sq_pos_of_ne_zero h
      have := sq_nonneg (bodyX q 0)
      linarith
  rw [← sq_lt_one_iff_abs_lt_one]
  linarith

/-- Away from the poles tf2's yaw is the heading, and the pitch has a
positive cosine. -/
theorem getRPY_of_unit {q : Quaternion ℝ} (hq : Quaternion.normSq (quaterniond q) = 1)
    (hx : bodyX (quaterniond q) 0 ≠ 0 ∨ bodyX (quaterniond q) 1 ≠ 0) :
    (realTf2.getRPY q).2.2 = heading (quaterniond q) ∧
      0 < Real.cos (realTf2.getRPY q).2.1 := by
  have hlt := abs_bodyX_lt hq hx
  have hm : ∀ i, matrix3x3 q i 0 = bodyX (quaterniond q) i := fun i => by
    rw [matrix3x3_eq hq, bodyX_apply]
  have hcos : 0 < Real.cos (-Real.arcsin (bodyX (quaterniond q) 2)) := by
    rw [Real.cos_neg, Real.cos_arcsin, Real.sqrt_pos, sub_pos]
    exact (sq_lt_one_iff_abs_lt_one _).mpr hlt
  simp only [realTf2, Ros.getRPY, hm]
  rw [if_neg (not_le.mpr hlt)]
  refine ⟨?_, hcos⟩
  dsimp only
  rw [div_eq_inv_mul, div_eq_inv_mul, atan2_mul (inv_pos.mpr hcos), heading]

/-- `setRPY` turns about the three axes, roll first. -/
theorem quaterniond_setRPY (roll pitch yaw : ℝ) :
    quaterniond (realTf2.setRPY roll pitch yaw) = aboutZ yaw * aboutY pitch * aboutX roll := by
  apply Quaternion.ext <;>
    simp only [Quaternion.re_mul, Quaternion.imI_mul, Quaternion.imJ_mul, Quaternion.imK_mul] <;>
    simp [quaterniond, realTf2, Ros.setRPY, aboutX, aboutY, aboutZ] <;> ring

/-- A pitch with a positive cosine leaves the yaw as the heading. -/
theorem heading_setRPY {pitch : ℝ} (hcos : 0 < Real.cos pitch) (roll yaw : ℝ) :
    (heading (quaterniond (realTf2.setRPY roll pitch yaw)) : Real.Angle) = yaw := by
  have hzy : Quaternion.normSq (aboutZ yaw * aboutY pitch) = 1 := by
    rw [map_mul, normSq_aboutZ, normSq_aboutY, mul_one]
  have haxis : bodyX (aboutZ yaw * aboutY pitch * aboutX roll) =
      Matrix.mulVec (toRotationMatrix (aboutZ yaw)) ![Real.cos pitch, 0, -Real.sin pitch] := by
    rw [bodyX_mul hzy (normSq_aboutX roll), bodyX_aboutX, ← bodyX,
      bodyX_mul (normSq_aboutZ yaw) (normSq_aboutY pitch), bodyX_aboutY]
  have h0 : bodyX (aboutZ yaw * aboutY pitch * aboutX roll) 0 = Real.cos pitch * Real.cos yaw := by
    simp [haxis, toRotationMatrix_aboutZ, Matrix.mulVec, dotProduct, Fin.sum_univ_three, mul_comm]
  have h1 : bodyX (aboutZ yaw * aboutY pitch * aboutX roll) 1 = Real.cos pitch * Real.sin yaw := by
    simp [haxis, toRotationMatrix_aboutZ, Matrix.mulVec, dotProduct, Fin.sum_univ_three, mul_comm]
  rw [quaterniond_setRPY, heading, h0, h1, atan2_mul hcos]
  exact coe_atan2_sin_cos yaw

/-! ## The loops of `enuToNedPose` -/

section Loop

variable {α : Type} {cond : α → Bool} {body : α → α} {x : α}

theorem whileLoop_done (h : cond x = false) (rounds : Nat) :
    whileLoop cond body rounds x = some x := by
  cases rounds <;> simp [whileLoop, h]

theorem whileLoop_step (h : cond x = true) (rounds : Nat) :
    whileLoop cond body (rounds + 1) x = whileLoop cond body rounds (body x) := by
  simp [whileLoop, h]

end Loop

/-- A yaw of tf2 is brought into range in at most one round. -/
theorem yawNed_of_mem {yaw : ℝ} (h : yaw ∈ Set.Icc (-Real.pi) Real.pi) (rounds : Nat) :
    ∃ ned, yawNed (rounds + 1) yaw = some ned ∧ (ned : Real.Angle) = nedYaw yaw := by
  obtain ⟨hlow, hhigh⟩ := h
  have hpi := Real.pi_pos
  have hstart : -yaw + Double.pi / 2.0 = -yaw + Real.pi / 2 := by norm_num [Double.pi]
  have hturn : 2.0 * Double.pi = 2 * Real.pi := by norm_num [Double.pi]
  simp only [yawNed, hstart, hturn, nedYaw_apply]
  by_cases hover : Double.pi < -yaw + Real.pi / 2
  · have hdone : ¬ Double.pi < -yaw + Real.pi / 2 - 2 * Real.pi := by
      simp only [Double.pi]; linarith
    have hup : ¬ -yaw + Real.pi / 2 - 2 * Real.pi < -Double.pi := by
      simp only [Double.pi] at hover ⊢; linarith
    have hdown : whileLoop (fun y => decide (Double.pi < y)) (fun y => y - 2 * Real.pi)
        (rounds + 1) (-yaw + Real.pi / 2) = some (-yaw + Real.pi / 2 - 2 * Real.pi) := by
      refine (whileLoop_step ?_ rounds).trans (whileLoop_done ?_ rounds)
      · exact decide_eq_true hover
      · exact decide_eq_false hdone
    refine ⟨-yaw + Real.pi / 2 - 2 * Real.pi, ?_, ?_⟩
    · rw [hdown, Option.bind_eq_bind, Option.bind_some]
      refine whileLoop_done ?_ _
      exact decide_eq_false hup
    · rw [Real.Angle.coe_sub, Real.Angle.coe_two_pi, sub_zero]
  · have hup : ¬ -yaw + Real.pi / 2 < -Double.pi := by
      simp only [Double.pi]; linarith
    have hdown : whileLoop (fun y => decide (Double.pi < y)) (fun y => y - 2 * Real.pi)
        (rounds + 1) (-yaw + Real.pi / 2) = some (-yaw + Real.pi / 2) := by
      refine whileLoop_done ?_ _
      exact decide_eq_false hover
    refine ⟨-yaw + Real.pi / 2, ?_, rfl⟩
    rw [hdown, Option.bind_eq_bind, Option.bind_some]
    refine whileLoop_done ?_ _
    exact decide_eq_false hup

/-- The yaw of tf2 is in range for every quaternion. -/
theorem getRPY_yaw_mem (q : Quaternion ℝ) :
    (realTf2.getRPY q).2.2 ∈ Set.Icc (-Real.pi) Real.pi := by
  have hzero : (0 : ℝ) ∈ Set.Icc (-Real.pi) Real.pi :=
    ⟨by linarith [Real.pi_pos], Real.pi_pos.le⟩
  simp only [realTf2, Ros.getRPY]
  split_ifs
  · exact hzero
  · exact hzero
  · exact ⟨(Complex.neg_pi_lt_arg _).le, Complex.arg_le_pi _⟩

/-- `enuToNedPose` returns for every pose: it changes the position, keeps
roll and pitch and changes the yaw. -/
theorem enuToNedPose_eq (pose : Pose ℝ) (rounds : Nat) : ∃ yaw : ℝ,
    (yaw : Real.Angle) = nedYaw (realTf2.getRPY pose.orientation).2.2 ∧
    enuToNedPose realTf2 (rounds + 1) pose = some
      { position := ⟨pose.position.y, pose.position.x, -pose.position.z⟩
        orientation := realTf2.setRPY (realTf2.getRPY pose.orientation).1
          (realTf2.getRPY pose.orientation).2.1 yaw } := by
  obtain ⟨yaw, hyaw, hned⟩ := yawNed_of_mem (getRPY_yaw_mem pose.orientation) rounds
  refine ⟨yaw, hned, ?_⟩
  simp only [enuToNedPose, hyaw]
  rfl

/-! ## The result -/

/-- What the two bridges make of a pose is the same: `ned` is the pose that
`enuToNedPose` returns, built with the yaw `yawNed`. -/
structure SameFrames (pose ned : Pose ℝ) (yawNed : ℝ) : Prop where
  /-- `p_ned` of `on_odom` is the position. -/
  position : pNed pose.position = vector3d ned.position
  /-- Both are `nedPosition`. -/
  change : vector3d ned.position = nedPosition (vector3d pose.position)
  /-- The orientation keeps roll and pitch. -/
  orientation : ned.orientation = realTf2.setRPY (realTf2.getRPY pose.orientation).1
    (realTf2.getRPY pose.orientation).2.1 yawNed
  /-- The heading of `q_ned_frd` is the yaw. -/
  heading : (heading (qNedFrd pose.orientation) : Real.Angle) = yawNed
  /-- The orientation has this heading. -/
  built : (Px4.heading (quaterniond ned.orientation) : Real.Angle) = yawNed
  /-- Both are `nedYaw`. -/
  turn : (yawNed : Real.Angle) = nedYaw (Px4.heading (quaterniond pose.orientation))

/-- The frames agree on every attitude whose body x axis is not vertical. -/
theorem sameFrames_of_unit (pose : Pose ℝ) (rounds : Nat)
    (hq : Quaternion.normSq (quaterniond pose.orientation) = 1)
    (hx : bodyX (quaterniond pose.orientation) 0 ≠ 0 ∨
      bodyX (quaterniond pose.orientation) 1 ≠ 0) :
    ∃ ned yawNed, enuToNedPose realTf2 (rounds + 1) pose = some ned ∧
      SameFrames pose ned yawNed := by
  obtain ⟨yaw, hyaw, hned⟩ := enuToNedPose_eq pose rounds
  obtain ⟨hheading, hcos⟩ := getRPY_of_unit hq hx
  rw [hheading] at hyaw
  have hposition : ![pose.position.y, pose.position.x, -pose.position.z] =
      nedPosition (vector3d pose.position) := (nedPosition_apply _ _ _).symm
  refine ⟨_, yaw, hned, ?_⟩
  exact {
    position := hposition.symm
    change := hposition
    orientation := rfl
    heading := (heading_qNedFrd hq hx).trans hyaw.symm
    built := heading_setRPY hcos _ _
    turn := hyaw }

section Floats

variable {F : Type} [CppFloat ℝ F]

/-- The message of `on_odom` has the casts of `p_ned` and `q_ned_frd`. -/
structure Casts (pose ned : Pose ℝ) (msg : VehicleOdometry F) : Prop where
  position : msg.position = castVec3 ned.position
  q : msg.q = castQuaternion (qNedFrd pose.orientation)

theorem casts_onOdom (node : VioOdometryBridge) (odom : Odometry) (nowUsSteady : UInt64)
    {ned : Pose ℝ} (hp : pNed odom.pose.position = vector3d ned.position) :
    Casts odom.pose ned (onOdom (F := F) node odom nowUsSteady).1 where
  position := by simp [onOdom, hp, vector3d]
  q := rfl

/-- The velocity, the acceleration and the yaw rate of a setpoint are those
of the waypoint under the linear parts of `nedPosition` and `nedYaw`. -/
structure LinearParts (msg : TrajectoryPoint ℝ) (setpoint : TrajectorySetpoint F) : Prop where
  velocity : ∃ v : Vec3 ℝ, setpoint.velocity = castVec3 v ∧
    vector3d v = nedPosition.linear (vector3d msg.velocity.linear)
  acceleration : ∃ a : Vec3 ℝ, setpoint.acceleration = castVec3 a ∧
    vector3d a = nedPosition.linear (vector3d msg.acceleration.linear)
  yawspeed : setpoint.yawspeed = CppFloat.ofDouble (nedYaw.linear msg.velocity.angular.z)

/-- `waypointCallback` returns with such a setpoint, for every pose. -/
theorem linearParts_waypointCallback (s : OffboardControl ℝ F) (msg : TrajectoryPoint ℝ)
    (now : Int) (rounds : Nat) :
    ∃ s' setpoint, waypointCallback realTf2 (rounds + 1) s msg now = some s' ∧
      s'.currentWaypointNed = some setpoint ∧ LinearParts msg setpoint := by
  obtain ⟨yaw, _, hned⟩ := enuToNedPose_eq msg.pose rounds
  obtain ⟨s', hret, hsetpoint⟩ : ∃ s', waypointCallback realTf2 (rounds + 1) s msg now = some s' ∧
      s'.currentWaypointNed = some (waypointSetpoint realTf2 s.odomToPx4Offset msg _) := by
    rw [waypointCallback, hned]
    exact ⟨_, rfl, rfl⟩
  refine ⟨s', _, hret, hsetpoint, ?_, ?_, ?_⟩
  · exact ⟨_, rfl, (nedPosition_apply _ _ _).symm⟩
  · exact ⟨_, rfl, (nedPosition_apply _ _ _).symm⟩
  · rw [nedYaw_linear]
    rfl

/-- **One frame change.** For every position and every unit quaternion
whose body x axis is not vertical, both bridges map the position by
`nedPosition`, which is its own inverse, and the heading by `nedYaw`; and
`waypointCallback` maps velocity, acceleration and yaw rate by the linear
parts of these two maps. -/
theorem same_frame_change (odom : Odometry) (rounds : Nat)
    (hq : Quaternion.normSq (quaterniond odom.pose.orientation) = 1)
    (hx : bodyX (quaterniond odom.pose.orientation) 0 ≠ 0 ∨
      bodyX (quaterniond odom.pose.orientation) 1 ≠ 0) :
    (∃ ned yawNed, enuToNedPose realTf2 (rounds + 1) odom.pose = some ned ∧
      SameFrames odom.pose ned yawNed ∧
      ∀ (node : VioOdometryBridge) (nowUsSteady : UInt64),
        Casts odom.pose ned (onOdom (F := F) node odom nowUsSteady).1) ∧
    (∀ p, nedPosition (nedPosition p) = p) ∧
    ∀ (s : OffboardControl ℝ F) (velocity acceleration : Twist ℝ) (now : Int),
      ∃ s' setpoint, waypointCallback realTf2 (rounds + 1) s ⟨odom.pose, velocity, acceleration⟩
          now = some s' ∧
        s'.currentWaypointNed = some setpoint ∧
        LinearParts ⟨odom.pose, velocity, acceleration⟩ setpoint := by
  obtain ⟨ned, yawNed, hned, hsame⟩ := sameFrames_of_unit odom.pose rounds hq hx
  refine ⟨⟨ned, yawNed, hned, hsame, fun node now => ?_⟩, nedPosition_nedPosition, ?_⟩
  · exact casts_onOdom node odom now hsame.position
  · exact fun s velocity acceleration now => linearParts_waypointCallback s _ now rounds

end Floats

/-- Floats without rounding; `nan` is `none`. -/
noncomputable instance : CppFloat ℝ (Option ℝ) where
  ofScientific m s e := some (OfScientific.ofScientific m s e)
  ofDouble := some
  toDouble x := x.getD 0
  nan := none

/-- A vehicle that has rolled, with its nose down, and looks north. -/
noncomputable def divingNorth : Odometry := ⟨0, ⟨⟨1, 2, 3⟩, ⟨1 / 10, 1 / 2, 1 / 2, 7 / 10⟩⟩⟩

/-- Both bridges turn the look to the north into a yaw of zero, and keep roll
and pitch. -/
theorem same_frame_change_diving :
    ∃ ned yawNed, enuToNedPose realTf2 1 divingNorth.pose = some ned ∧
      SameFrames divingNorth.pose ned yawNed ∧
      Casts divingNorth.pose ned (onOdom (F := Option ℝ) .defaults divingNorth 0).1 ∧
      (yawNed : Real.Angle) = 0 := by
  have hunit : Quaternion.normSq (quaterniond divingNorth.pose.orientation) = 1 := by
    rw [Quaternion.normSq_def']
    norm_num [quaterniond, divingNorth]
  have h0 : bodyX (quaterniond divingNorth.pose.orientation) 0 = 0 := by
    rw [bodyX_apply, toRotationMatrix_eq hunit]
    norm_num [quaterniond, divingNorth]
  have h1 : bodyX (quaterniond divingNorth.pose.orientation) 1 = 4 / 5 := by
    rw [bodyX_apply, toRotationMatrix_eq hunit]
    norm_num [quaterniond, divingNorth]
  have hnorth : atan2 (4 / 5) 0 = Real.pi / 2 := by
    have hscaled := atan2_mul (r := 4 / 5) (by norm_num) 1 0
    rw [mul_one, mul_zero] at hscaled
    exact hscaled.trans Complex.arg_I
  obtain ⟨⟨ned, yawNed, hned, hsame, hcasts⟩, _, _⟩ :=
    same_frame_change (F := Option ℝ) divingNorth 0 hunit (.inr (by rw [h1]; norm_num))
  refine ⟨ned, yawNed, hned, hsame, hcasts .defaults 0, ?_⟩
  rw [hsame.turn, nedYaw_apply, heading, h0, h1, hnorth, neg_add_cancel, Real.Angle.coe_zero]

end Nav3D.Px4

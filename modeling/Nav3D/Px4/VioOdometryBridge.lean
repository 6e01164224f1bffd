/-
Nav3D.Px4.VioOdometryBridge — `VioOdometryBridge` (`vio_odometry_bridge.cpp`):
the node that hands the odometry to PX4 in PX4's frames.

Doubles are real numbers; a vector of Eigen is a vector of Mathlib and a
quaternion of Eigen one of Mathlib. The floats of the message are any type
with a cast. Topic names and QoS are left out.
-/
import Nav3D.Lib.Rotation
import Nav3D.Px4.OffboardControl

namespace Nav3D.Px4

open Rotation

/-! ## Messages -/

/-- The fields of `nav_msgs/Odometry` that the node reads. -/
structure Odometry where
  stamp : Int
  pose : Pose ℝ

/-- `px4_msgs/VehicleOdometry`, the fields that the node sets. The array
`q` holds w, x, y, z. -/
structure VehicleOdometry (F : Type) where
  timestamp : UInt64
  timestampSample : UInt64
  poseFrame : UInt8
  velocityFrame : UInt8
  position : Vec3 F
  q : Quaternion F
  velocity : Vec3 F
  angularVelocity : Vec3 F

/-- `geometry_msgs/TransformStamped`. -/
structure TransformStamped where
  stamp : Int
  frameId : String
  childFrameId : String
  translation : Vec3 ℝ
  rotation : Quaternion ℝ

/-! ## The node -/

/-- The members that the parameters of the node set. -/
structure VioOdometryBridge where
  odomFrame : String
  baseFrame : String
  poseFrame : Int
  velocityFrame : Int

/-- The defaults that the constructor declares. -/
def VioOdometryBridge.defaults : VioOdometryBridge where
  odomFrame := "odom"
  baseFrame := "base_link"
  poseFrame := 1
  velocityFrame := 1

/-- `R_enu2ned_`. -/
def rEnu2ned : Matrix (Fin 3) (Fin 3) ℝ :=
  !![0, 1, 0;
    1, 0, 0;
    0, 0, -1]

/-- `R_flu2frd_`. -/
noncomputable def rFlu2frd : Matrix (Fin 3) (Fin 3) ℝ := angleAxis Real.pi ![1, 0, 0]

/-- `Eigen::Vector3d(x, y, z)`. -/
def vector3d (v : Vec3 ℝ) : Fin 3 → ℝ := ![v.x, v.y, v.z]

/-- `Eigen::Quaterniond(w, x, y, z)`. -/
def quaterniond (q : Quaternion ℝ) : Quat := ⟨q.w, q.x, q.y, q.z⟩

/-- `p_ned`. -/
def pNed (p : Vec3 ℝ) : Fin 3 → ℝ := Matrix.mulVec rEnu2ned (vector3d p)

/-- `R_ned_frd`. -/
noncomputable def rNedFrd (q : Quaternion ℝ) : Matrix (Fin 3) (Fin 3) ℝ :=
  rEnu2ned * toRotationMatrix (quaterniond q) * rFlu2frd.transpose

/-- `q_ned_frd`. -/
noncomputable def qNedFrd (q : Quaternion ℝ) : Quat := ofRotationMatrix (rNedFrd q)

section Node

variable {F : Type} [CppFloat ℝ F]

/-- The casts of a quaternion to floats. -/
def castQuaternion (q : Quat) : Quaternion F where
  w := CppFloat.ofDouble q.re
  x := CppFloat.ofDouble q.imI
  y := CppFloat.ofDouble q.imJ
  z := CppFloat.ofDouble q.imK

/-- `on_odom`, with the reading of the steady clock: the message for PX4
and the transform. -/
noncomputable def onOdom (node : VioOdometryBridge) (msg : Odometry) (nowUsSteady : UInt64) :
    VehicleOdometry F × TransformStamped :=
  let p := pNed msg.pose.position
  let nan : F := CppFloat.nan
  ({ timestamp := nowUsSteady
     timestampSample := nowUsSteady
     poseFrame := UInt8.ofInt node.poseFrame
     velocityFrame := UInt8.ofInt node.velocityFrame
     position := castVec3 ⟨p 0, p 1, p 2⟩
     q := castQuaternion (qNedFrd msg.pose.orientation)
     velocity := ⟨nan, nan, nan⟩
     angularVelocity := ⟨nan, nan, nan⟩ },
   { stamp := msg.stamp
     frameId := node.odomFrame
     childFrameId := node.baseFrame
     translation := msg.pose.position
     rotation := msg.pose.orientation })

end Node

/-! ## The frame matrices as rotations -/

/-- Half a turn about the diagonal between east and north. -/
noncomputable def qEnu2ned : Quat := ⟨0, Real.sqrt (1 / 2), Real.sqrt (1 / 2), 0⟩

theorem normSq_qEnu2ned : Quaternion.normSq qEnu2ned = 1 := by
  have hroot : Real.sqrt (1 / 2) ^ 2 = 1 / 2 := Real.sq_sqrt (by norm_num)
  refine (Quaternion.normSq_def' _).trans ?_
  simp only [qEnu2ned]
  linear_combination 2 * hroot

theorem rEnu2ned_eq : rEnu2ned = toRotationMatrix qEnu2ned := by
  have hroot : Real.sqrt (1 / 2) * Real.sqrt (1 / 2) = 1 / 2 :=
    Real.mul_self_sqrt (by norm_num)
  rw [toRotationMatrix_eq normSq_qEnu2ned]
  simp only [qEnu2ned, pow_two, hroot, rEnu2ned]
  norm_num

/-- The axis change of the body is half a turn about its first axis. -/
theorem rFlu2frd_eq : rFlu2frd = toRotationMatrix (aboutX Real.pi) := by
  ext i j
  fin_cases i <;> fin_cases j <;> simp [rFlu2frd, angleAxis, toRotationMatrix, aboutX] <;>
    norm_num

/-- Half a turn is its own inverse. -/
theorem transpose_rFlu2frd : rFlu2frd.transpose = rFlu2frd := by
  ext i j
  fin_cases i <;> fin_cases j <;> simp [rFlu2frd, angleAxis]

/-- `R_ned_frd` turns the attitude on both sides. -/
theorem rNedFrd_eq {q : Quaternion ℝ} (hq : Quaternion.normSq (quaterniond q) = 1) :
    Quaternion.normSq (qEnu2ned * quaterniond q * aboutX Real.pi) = 1 ∧
      rNedFrd q = toRotationMatrix (qEnu2ned * quaterniond q * aboutX Real.pi) := by
  have hleft : Quaternion.normSq (qEnu2ned * quaterniond q) = 1 := by
    rw [map_mul, normSq_qEnu2ned, hq, mul_one]
  constructor
  · rw [map_mul, hleft, normSq_aboutX, mul_one]
  · rw [rNedFrd, transpose_rFlu2frd, rFlu2frd_eq, rEnu2ned_eq,
      toRotationMatrix_mul hleft (normSq_aboutX _), toRotationMatrix_mul normSq_qEnu2ned hq]

/-- The body's first axis is the same in both frames. -/
theorem bodyX_qNedFrd {q : Quaternion ℝ} (hq : Quaternion.normSq (quaterniond q) = 1) :
    bodyX (qNedFrd q) = Matrix.mulVec rEnu2ned (bodyX (quaterniond q)) := by
  obtain ⟨hunit, hmatrix⟩ := rNedFrd_eq hq
  have hleft : Quaternion.normSq (qEnu2ned * quaterniond q) = 1 := by
    rw [map_mul, normSq_qEnu2ned, hq, mul_one]
  calc bodyX (qNedFrd q)
      = bodyX (qEnu2ned * quaterniond q * aboutX Real.pi) := by
        rw [bodyX, qNedFrd, hmatrix, toRotationMatrix_ofRotationMatrix hunit, bodyX]
    _ = bodyX (qEnu2ned * quaterniond q) := by
        rw [bodyX_mul hleft (normSq_aboutX _), bodyX_aboutX, bodyX]
    _ = Matrix.mulVec rEnu2ned (bodyX (quaterniond q)) := by
        rw [bodyX_mul normSq_qEnu2ned hq, rEnu2ned_eq]

end Nav3D.Px4

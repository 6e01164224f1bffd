/-
Nav3D.Ros.RealTf2 — tf2's conversions between quaternions, rotation
matrices and Euler angles, on real numbers (`tf2/LinearMath/Matrix3x3.h`,
`tf2/LinearMath/Quaternion.h`, `tf2/utils.h`).
-/
import Nav3D.Lib.PlaneAngle
import Nav3D.Px4.OffboardControl
import Mathlib.Analysis.SpecialFunctions.Trigonometric.Inverse
import Mathlib.LinearAlgebra.Matrix.Notation

namespace Nav3D.Ros

open PlaneAngle
open Nav3D.Px4 (Tf2)

/-- `Quaternion::length2`. -/
def length2 (q : Px4.Quaternion ℝ) : ℝ := q.x * q.x + q.y * q.y + q.z * q.z + q.w * q.w

/-- `Matrix3x3(q)`, by `setRotation`. -/
noncomputable def matrix3x3 (q : Px4.Quaternion ℝ) : Matrix (Fin 3) (Fin 3) ℝ :=
  let s := 2 / length2 q
  !![1 - (q.y * (q.y * s) + q.z * (q.z * s)), q.x * (q.y * s) - q.w * (q.z * s),
      q.x * (q.z * s) + q.w * (q.y * s);
    q.x * (q.y * s) + q.w * (q.z * s), 1 - (q.x * (q.x * s) + q.z * (q.z * s)),
      q.y * (q.z * s) - q.w * (q.x * s);
    q.x * (q.z * s) - q.w * (q.y * s), q.y * (q.z * s) + q.w * (q.x * s),
      1 - (q.x * (q.x * s) + q.y * (q.y * s))]

/-- `getEulerYPR`: roll, pitch, yaw. In gimbal lock the yaw is zero. -/
noncomputable def getRPY (m : Matrix (Fin 3) (Fin 3) ℝ) : ℝ × ℝ × ℝ :=
  if 1 ≤ |m 2 0| then
    let delta := atan2 (m 2 1) (m 2 2)
    if m 2 0 < 0 then (delta, Real.pi / 2, 0) else (delta, -(Real.pi / 2), 0)
  else
    let pitch := -Real.arcsin (m 2 0)
    (atan2 (m 2 1 / Real.cos pitch) (m 2 2 / Real.cos pitch), pitch,
      atan2 (m 1 0 / Real.cos pitch) (m 0 0 / Real.cos pitch))

/-- `Quaternion::setRPY`. -/
noncomputable def setRPY (roll pitch yaw : ℝ) : Px4.Quaternion ℝ where
  x := Real.sin (roll / 2) * Real.cos (pitch / 2) * Real.cos (yaw / 2) -
    Real.cos (roll / 2) * Real.sin (pitch / 2) * Real.sin (yaw / 2)
  y := Real.cos (roll / 2) * Real.sin (pitch / 2) * Real.cos (yaw / 2) +
    Real.sin (roll / 2) * Real.cos (pitch / 2) * Real.sin (yaw / 2)
  z := Real.cos (roll / 2) * Real.cos (pitch / 2) * Real.sin (yaw / 2) -
    Real.sin (roll / 2) * Real.sin (pitch / 2) * Real.cos (yaw / 2)
  w := Real.cos (roll / 2) * Real.cos (pitch / 2) * Real.cos (yaw / 2) +
    Real.sin (roll / 2) * Real.sin (pitch / 2) * Real.sin (yaw / 2)

/-- `tf2::getYaw`. Near the poles it is computed in another way. -/
noncomputable def getYaw (q : Px4.Quaternion ℝ) : ℝ :=
  let sarg := -2 * (q.x * q.z - q.w * q.y) / length2 q
  if sarg ≤ -0.99999 then -2 * atan2 q.y q.x
  else if 0.99999 ≤ sarg then 2 * atan2 q.y q.x
  else atan2 (2 * (q.x * q.y + q.w * q.z)) (q.w * q.w + q.x * q.x - q.y * q.y - q.z * q.z)

/-- tf2 on the real numbers. -/
noncomputable def realTf2 : Tf2 ℝ where
  getRPY q := getRPY (matrix3x3 q)
  setRPY := setRPY
  getYaw := getYaw

/-- The yaw of a rotation about the vertical axis. -/
theorem getYaw_vertical (z w : ℝ) : getYaw ⟨0, 0, z, w⟩ = atan2 (2 * (w * z)) (w * w - z * z) := by
  have hnot : ¬ (0 : ℝ) ≤ -0.99999 := by norm_num
  have hnot' : ¬ (0.99999 : ℝ) ≤ 0 := by norm_num
  simp [getYaw, hnot, hnot']

end Nav3D.Ros

/-
Nav3D.Controller.ReferenceFilter — the reference filter of the controller
server, `resetFilter()` and `updateFilter()` (`controller_server.cpp`).

The filter is translated over any ordered field: on the rationals it can be
run, the reals are the exact numbers. The functions of tf2 and of the
`angles` library are a parameter. The three position axes and the yaw go
through the same sequence of limits (`RateLimit.Limits.step`), the yaw with
a limit on its velocity that depends on the yaw error. An `Eigen::Vector3d`
is a function on `Fin 3`.
-/
import Nav3D.Lib.PlaneAngle
import Nav3D.Lib.RateLimit
import Nav3D.Lib.Transition
import Nav3D.Px4.OffboardControl
import Mathlib.Algebra.Module.Pi

namespace Nav3D.Controller

open RateLimit
open Nav3D.Px4 (Vec3 Pose Twist)

/-- The functions of angles that the filter calls. -/
structure Angles (K : Type) where
  /-- `tf2::getYaw`. -/
  getYaw : Px4.Quaternion K → K
  /-- `angles::normalize_angle`. -/
  normalizeAngle : K → K

/-- The parameters of the filter. -/
structure FilterParams (K : Type) where
  refJerkMax : K
  refAccMax : K
  refVelMax : K
  refOmega : K
  refZita : K
  refYawJerkMax : K
  refYawAccMax : K
  refYawVelMax : K

/-- `ReferenceState`. -/
structure ReferenceState (K : Type) where
  pos : Fin 3 → K
  vel : Fin 3 → K
  acc : Fin 3 → K
  yaw : K
  yawVel : K
  yawAcc : K

/-- `ref_state_` and `filter_initialized_`. -/
structure ReferenceFilter (K : Type) where
  refState : ReferenceState K
  filterInitialized : Bool

section Filter

variable {K : Type} [Field K] [LinearOrder K]

/-- The defaults that the constructor declares. -/
def FilterParams.defaults : FilterParams K where
  refJerkMax := 0.35
  refAccMax := 0.75
  refVelMax := 1.5
  refOmega := 1
  refZita := 0.5
  refYawJerkMax := 0.35
  refYawAccMax := 0.75
  refYawVelMax := 1.5

/-- `angles::shortest_angular_distance`. -/
def Angles.shortestAngularDistance (angles : Angles K) (src dst : K) : K :=
  angles.normalizeAngle (dst - src)

/-- A position or a velocity as an `Eigen::Vector3d`. -/
def eigenVector (v : Vec3 K) : Fin 3 → K := ![v.x, v.y, v.z]

variable (params : FilterParams K) (angles : Angles K)

/-- `resetFilter(start_pose)`. -/
def resetFilter (startPose : Pose K) : ReferenceFilter K where
  refState :=
    { pos := eigenVector startPose.position
      vel := 0
      acc := 0
      yaw := angles.getYaw startPose.orientation
      yawVel := 0
      yawAcc := 0 }
  filterInitialized := true

/-! ## One update -/

/-- The limits of a position axis. -/
def linearLimits : Limits K := ⟨params.refJerkMax, params.refAccMax, params.refVelMax⟩

/-- `yaw_vel_limit`. -/
def yawVelLimit (yawError : K) : K :=
  if |yawError| < 0.2 then params.refYawVelMax * max 0.1 (|yawError| / 0.2)
  else params.refYawVelMax

/-- The limits of the yaw. -/
def yawLimits (yawError : K) : Limits K :=
  ⟨params.refYawJerkMax, params.refYawAccMax, yawVelLimit params yawError⟩

/-- `desired_acc`, before its limits. -/
def desiredAcc (s : ReferenceState K) (targetPos targetVel : Fin 3 → K) : Fin 3 → K :=
  (params.refOmega * params.refOmega) • (targetPos - s.pos) -
    (2 * params.refZita * params.refOmega) • (s.vel - targetVel)

/-- `desired_yaw_acc`, before its limits. -/
def desiredYawAcc (s : ReferenceState K) (yawError targetYawVel : K) : K :=
  params.refOmega * params.refOmega * yawError -
    2 * params.refZita * params.refOmega * (s.yawVel - targetYawVel) - 0.1 * s.yawVel

/-- The velocity and the acceleration of a position axis. -/
def ReferenceState.axis (s : ReferenceState K) (i : Fin 3) : Motion K := ⟨s.vel i, s.acc i⟩

/-- The velocity and the acceleration of the yaw. -/
def ReferenceState.yawMotion (s : ReferenceState K) : Motion K := ⟨s.yawVel, s.yawAcc⟩

/-- `yaw_error`. -/
def yawError (s : ReferenceState K) (targetPose : Pose K) : K :=
  angles.shortestAngularDistance (angles.normalizeAngle s.yaw)
    (angles.normalizeAngle (angles.getYaw targetPose.orientation))

/-- The axes after an update. -/
def updatedAxis (s : ReferenceState K) (targetPose : Pose K) (targetVel : Twist K) (dt : K)
    (i : Fin 3) : Motion K :=
  (linearLimits params).step dt
    (desiredAcc params s (eigenVector targetPose.position) (eigenVector targetVel.linear) i)
    (s.axis i)

/-- The yaw after an update. -/
def updatedYaw (s : ReferenceState K) (targetPose : Pose K) (targetVel : Twist K) (dt : K) :
    Motion K :=
  let error := yawError angles s targetPose
  (yawLimits params error).step dt (desiredYawAcc params s error targetVel.angular.z) s.yawMotion

/-- `updateFilter(target_pose, target_vel, dt)`. -/
def updateFilter (s : ReferenceFilter K) (targetPose : Pose K) (targetVel : Twist K) (dt : K) :
    ReferenceFilter K :=
  if dt ≤ 0 ∨ s.filterInitialized = false then s
  else
    let axis := updatedAxis params s.refState targetPose targetVel dt
    let yaw := updatedYaw params angles s.refState targetPose targetVel dt
    { s with
      refState :=
        { pos := fun i => s.refState.pos i + (axis i).vel * dt
          vel := fun i => (axis i).vel
          acc := fun i => (axis i).acc
          yaw := angles.normalizeAngle
            (angles.normalizeAngle s.refState.yaw + yaw.vel * dt)
          yawVel := yaw.vel
          yawAcc := yaw.acc } }

/-! ## Runs -/

inductive FilterLabel (K : Type) where
  | reset (startPose : Pose K)
  | update (targetPose : Pose K) (targetVel : Twist K) (dt : K)

def filterStep (s : ReferenceFilter K) : FilterLabel K → ReferenceFilter K
  | .reset startPose => resetFilter angles startPose
  | .update targetPose targetVel dt => updateFilter params angles s targetPose targetVel dt

/-- Any sequence of calls that starts with `resetFilter`. -/
def filterSystem : Transition.System (ReferenceFilter K) (FilterLabel K) where
  init := fun s => ∃ startPose, s = resetFilter angles startPose
  step := fun s l => some (filterStep params angles s l)

end Filter

end Nav3D.Controller

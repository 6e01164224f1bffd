/-
Nav3D.Px4.OffboardControl — `nav3d_px4_bridge::OffboardControl`
(`offboard_control.cpp`): the node that streams setpoints to PX4.

The callbacks are translated over any type of doubles and floats that has
the operations they use (`Double`, `CppFloat`); nothing is assumed about
the operations, so what is proved without further hypotheses holds of
machine doubles. The conversions of tf2 between quaternions and Euler
angles are a parameter. `enuToNedPose` brings a yaw into range with two
`while` loops, which need not end on every double: a callback has a bound
on their number of rounds and no result when the bound is too small.

Every reading of the clock is an argument. A tick returns what it has
published; a setpoint comes with the name of the function that built it.
Topic names, QoS and log messages are left out.
-/
import Nav3D.Lib.Transition
import Mathlib.Data.List.Basic

namespace Nav3D.Px4

/-! ## Numbers -/

/-- The type `double` with what `<cmath>` and rclcpp do with it. -/
class Double (D : Type) extends Add D, Sub D, Mul D, Div D, Neg D, LT D, LE D, OfScientific D where
  decidableLt (a b : D) : Decidable (a < b)
  decidableLe (a b : D) : Decidable (a ≤ b)
  sqrt : D → D
  fabs : D → D
  /-- `static_cast<uint64_t>(std::ceil(x))`. -/
  ceil : D → UInt64
  /-- `M_PI`. -/
  pi : D
  /-- `rclcpp::Duration::seconds()` of a number of nanoseconds. -/
  seconds : Int → D

instance instDecidableLtDouble {D : Type} [Double D] (a b : D) : Decidable (a < b) :=
  Double.decidableLt a b

instance instDecidableLeDouble {D : Type} [Double D] (a b : D) : Decidable (a ≤ b) :=
  Double.decidableLe a b

/-- The type `float` next to the doubles. -/
class CppFloat (D : outParam Type) (F : Type) extends OfScientific F where
  /-- `static_cast<float>`. -/
  ofDouble : D → F
  toDouble : F → D
  nan : F

section Std

variable {D : Type} [Double D]

/-- `std::max`. -/
def stdMax (a b : D) : D := if a < b then b else a

/-- `std::clamp`. -/
def stdClamp (v lo hi : D) : D := if v < lo then lo else if hi < v then hi else v

/-- `while (cond) x = body(x);` in at most `rounds` rounds. -/
def whileLoop {α : Type} (cond : α → Bool) (body : α → α) : Nat → α → Option α
  | 0, x => if cond x then none else some x
  | rounds + 1, x => if cond x then whileLoop cond body rounds (body x) else some x

end Std

/-! ## Messages -/

/-- Three components: a `Point`, a `Vector3` or an array of length three. -/
structure Vec3 (α : Type) where
  x : α
  y : α
  z : α
  deriving DecidableEq

structure Quaternion (α : Type) where
  x : α
  y : α
  z : α
  w : α
  deriving DecidableEq

structure Pose (α : Type) where
  position : Vec3 α
  orientation : Quaternion α
  deriving DecidableEq

/-- `geometry_msgs/Twist`, also used for `geometry_msgs/Accel`. -/
structure Twist (α : Type) where
  linear : Vec3 α
  angular : Vec3 α
  deriving DecidableEq

/-- The fields of `nav3d_msgs/TrajectoryPoint` that the node reads. -/
structure TrajectoryPoint (α : Type) where
  pose : Pose α
  velocity : Twist α
  acceleration : Twist α
  deriving DecidableEq

/-- `px4_msgs/TrajectorySetpoint`. -/
structure TrajectorySetpoint (F : Type) where
  timestamp : Int
  position : Vec3 F
  velocity : Vec3 F
  acceleration : Vec3 F
  jerk : Vec3 F
  yaw : F
  yawspeed : F
  deriving DecidableEq

/-- `px4_msgs/OffboardControlMode`. -/
structure OffboardControlMode where
  position : Bool
  velocity : Bool
  acceleration : Bool
  attitude : Bool
  bodyRate : Bool
  timestamp : Int
  deriving DecidableEq

/-- `px4_msgs/VehicleCommand`, the fields that differ between commands. The
remaining parameters are zero and the system and component ids one. -/
structure VehicleCommand (F : Type) where
  command : Nat
  param1 : F
  param2 : F
  timestamp : Int
  deriving DecidableEq

/-- The fields of `px4_msgs/VehicleStatus` that the node reads. -/
structure VehicleStatus where
  navState : UInt8
  armingState : UInt8
  deriving DecidableEq

/-- `VehicleStatus::NAVIGATION_STATE_OFFBOARD` of px4_msgs. -/
def navigationStateOffboard : UInt8 := 14

/-- `VehicleStatus::ARMING_STATE_ARMED` of px4_msgs. -/
def armingStateArmed : UInt8 := 2

/-- `VehicleCommand::VEHICLE_CMD_DO_SET_MODE` of px4_msgs. -/
def vehicleCmdDoSetMode : Nat := 176

/-- `VehicleCommand::VEHICLE_CMD_COMPONENT_ARM_DISARM` of px4_msgs. -/
def vehicleCmdComponentArmDisarm : Nat := 400

/-! ## The node -/

/-- The conversions of tf2 that the node calls. -/
structure Tf2 (D : Type) where
  /-- `Matrix3x3(q).getRPY`: roll, pitch, yaw. -/
  getRPY : Quaternion D → D × D × D
  /-- `Quaternion::setRPY`. -/
  setRPY : D → D → D → Quaternion D
  /-- `tf2::getYaw`. -/
  getYaw : Quaternion D → D

/-- The parameters of the node. -/
structure Params (D : Type) where
  controlRateHz : D
  waypointTimeoutS : D
  offboardWarmupS : D
  offboardCommandRetryS : D
  offsetAlpha : D
  takeoffAltitude : D
  altitudeTolerance : D

/-- The defaults that the constructor declares. -/
def Params.defaults {D : Type} [Double D] : Params D where
  controlRateHz := 50.0
  waypointTimeoutS := 1.0
  offboardWarmupS := 1.0
  offboardCommandRetryS := 1.0
  offsetAlpha := 0.01
  takeoffAltitude := 1.0
  altitudeTolerance := 0.1

structure EnuSetpoint (D : Type) where
  pose : Pose D
  twist : Twist D
  deriving DecidableEq

/-- The members of `OffboardControl`. Times are nanoseconds. -/
structure OffboardControl (D F : Type) where
  currentOdom : Option (Pose D)
  currentLocalPos : Option (Vec3 F)
  vehicleStatus : VehicleStatus
  odomToPx4Offset : Vec3 D
  currentWaypointNed : Option (TrajectorySetpoint F)
  lastValidSetpointEnu : Option (EnuSetpoint D)
  lastWaypointTime : Int
  takeoffStartEnu : Option (EnuSetpoint D)
  takeoffTargetAltitude : Option D
  takeoffCompleted : Bool
  offboardSetpointCounter : UInt64
  offboardCommandSent : Bool
  lastOffboardCommandTime : Int
  deriving DecidableEq

/-- The function that built a setpoint. -/
inductive SetpointSource where
  | waypoint
  | hover
  | takeoff
  deriving DecidableEq, Repr

/-- A published setpoint with its source. -/
abbrev Published (F : Type) := SetpointSource × TrajectorySetpoint F

/-- The readings of the clock in one tick, in the order they are taken. -/
structure TickClock where
  now : Int
  heartbeat : Int
  fresh : Int
  setpoint : Int
  mode : Int
  arm : Int

/-- What one tick publishes. -/
structure TickOutput (F : Type) where
  heartbeat : OffboardControlMode
  setpoint : Option (Published F)
  commands : List (VehicleCommand F)

section Node

variable {D F : Type} [Double D] [CppFloat D F]
variable (params : Params D) (tf2 : Tf2 D) (rounds : Nat)

/-- The members as the constructor leaves them. -/
def OffboardControl.initial : OffboardControl D F where
  currentOdom := none
  currentLocalPos := none
  vehicleStatus := ⟨0, 0⟩
  odomToPx4Offset := ⟨0.0, 0.0, 0.0⟩
  currentWaypointNed := none
  lastValidSetpointEnu := none
  lastWaypointTime := 0
  takeoffStartEnu := none
  takeoffTargetAltitude := none
  takeoffCompleted := false
  offboardSetpointCounter := 0
  offboardCommandSent := false
  lastOffboardCommandTime := 0

/-! ### Subscriptions -/

def vehicleLocalPositionCallback (s : OffboardControl D F) (msg : Vec3 F) : OffboardControl D F :=
  { s with currentLocalPos := some msg }

def vehicleStatusCallback (s : OffboardControl D F) (msg : VehicleStatus) : OffboardControl D F :=
  { s with vehicleStatus := msg }

/-- The offset follows the difference of the two position estimates with a
first-order filter. -/
def updateOffset (s : OffboardControl D F) : OffboardControl D F :=
  match s.currentOdom, s.currentLocalPos with
  | some odom, some localPos =>
    let ex := CppFloat.toDouble localPos.x - odom.position.y
    let ey := CppFloat.toDouble localPos.y - odom.position.x
    let ez := CppFloat.toDouble localPos.z - -odom.position.z
    let a := stdClamp params.offsetAlpha 0.0 1.0
    { s with odomToPx4Offset :=
        { x := a * ex + (1.0 - a) * s.odomToPx4Offset.x
          y := a * ey + (1.0 - a) * s.odomToPx4Offset.y
          z := a * ez + (1.0 - a) * s.odomToPx4Offset.z } }
  | _, _ => s

def odomCallback (s : OffboardControl D F) (msg : Pose D) : OffboardControl D F :=
  updateOffset params { s with currentOdom := some msg }

/-- The yaw of the NED frame, brought into [-pi, pi]. -/
def yawNed (rounds : Nat) (yaw : D) : Option D := do
  let below ← whileLoop (fun y => decide (Double.pi < y)) (· - 2.0 * Double.pi) rounds
    (-yaw + Double.pi / 2.0)
  whileLoop (fun y => decide (y < -Double.pi)) (· + 2.0 * Double.pi) rounds below

def enuToNedPose (enuPose : Pose D) : Option (Pose D) := do
  let (r, p, y) := tf2.getRPY enuPose.orientation
  let yaw ← yawNed rounds y
  return { position := ⟨enuPose.position.y, enuPose.position.x, -enuPose.position.z⟩
           orientation := tf2.setRPY r p yaw }

/-- `position += odom_to_px4_offset_`. -/
def addOffset (offset : Vec3 D) (position : Vec3 D) : Vec3 D :=
  ⟨position.x + offset.x, position.y + offset.y, position.z + offset.z⟩

/-- The casts of a vector to floats. -/
def castVec3 (v : Vec3 D) : Vec3 F :=
  ⟨CppFloat.ofDouble v.x, CppFloat.ofDouble v.y, CppFloat.ofDouble v.z⟩

/-- `fillPositionVelocityFields`. -/
def fillPositionVelocityFields (msg : TrajectorySetpoint F) : TrajectorySetpoint F :=
  { msg with jerk := ⟨CppFloat.nan, CppFloat.nan, CppFloat.nan⟩ }

/-- The setpoint that `waypointCallback` builds. -/
def waypointSetpoint (offset : Vec3 D) (msg : TrajectoryPoint D) (nedPose : Pose D) :
    TrajectorySetpoint F :=
  let v := msg.velocity.linear
  let a := msg.acceleration.linear
  fillPositionVelocityFields
    { timestamp := 0
      position := castVec3 (addOffset offset nedPose.position)
      velocity := castVec3 ⟨v.y, v.x, -v.z⟩
      acceleration := castVec3 ⟨a.y, a.x, -a.z⟩
      jerk := ⟨0.0, 0.0, 0.0⟩
      yaw := CppFloat.ofDouble (tf2.getYaw nedPose.orientation)
      yawspeed := CppFloat.ofDouble (-msg.velocity.angular.z) }

def waypointCallback (s : OffboardControl D F) (msg : TrajectoryPoint D) (now : Int) :
    Option (OffboardControl D F) := do
  let nedPose ← enuToNedPose tf2 rounds msg.pose
  return { s with
    lastValidSetpointEnu := some ⟨msg.pose, msg.velocity⟩
    lastWaypointTime := now
    currentWaypointNed := some (waypointSetpoint tf2 s.odomToPx4Offset msg nedPose) }

/-! ### The timer -/

/-- `get_clock()->now().nanoseconds() / 1000`. -/
def microseconds (now : Int) : Int := now.tdiv 1000

def offboardControlHeartbeat (now : Int) : OffboardControlMode where
  position := true
  velocity := true
  acceleration := true
  attitude := true
  bodyRate := false
  timestamp := microseconds now

/-- The setpoint that stands still at a pose: the end of both
`publishTakeoffSetpoint` and `publishHoverSetpoint`. -/
def standingSetpoint (s : OffboardControl D F) (enuPose : Pose D) (now : Int) :
    Option (TrajectorySetpoint F) := do
  let nedPose ← enuToNedPose tf2 rounds enuPose
  return fillPositionVelocityFields
    { timestamp := microseconds now
      position := castVec3 (addOffset s.odomToPx4Offset nedPose.position)
      velocity := ⟨0.0, 0.0, 0.0⟩
      acceleration := ⟨0.0, 0.0, 0.0⟩
      jerk := ⟨0.0, 0.0, 0.0⟩
      yaw := CppFloat.ofDouble (tf2.getYaw nedPose.orientation)
      yawspeed := 0.0 }

/-- The unit quaternion of a quaternion, identity for a null one. -/
def normalizeOrientation (q : Quaternion D) : Quaternion D :=
  let norm := Double.sqrt (q.x * q.x + q.y * q.y + q.z * q.z + q.w * q.w)
  if (1e-6 : D) < norm then ⟨q.x / norm, q.y / norm, q.z / norm, q.w / norm⟩
  else tf2.setRPY 0.0 0.0 0.0

def zeroTwist : Twist D := ⟨⟨0.0, 0.0, 0.0⟩, ⟨0.0, 0.0, 0.0⟩⟩

/-- The takeoff start, taken from the odometry the first time. -/
def initTakeoff (s : OffboardControl D F) (odom : Pose D) : OffboardControl D F :=
  match s.takeoffStartEnu with
  | some _ => s
  | none =>
    { s with
      takeoffStartEnu :=
        some ⟨⟨odom.position, normalizeOrientation tf2 odom.orientation⟩, zeroTwist⟩
      takeoffTargetAltitude := some (odom.position.z + params.takeoffAltitude) }

def publishTakeoffSetpoint (s : OffboardControl D F) (now : Int) :
    Option (OffboardControl D F × Option (Published F)) :=
  match s.currentOdom with
  | none => some (s, none)
  | some odom =>
    let s := initTakeoff params tf2 s odom
    match s.takeoffStartEnu, s.takeoffTargetAltitude with
    | some start, some altitude => do
      let enuPose := { start.pose with position := { start.pose.position with z := altitude } }
      let msg ← standingSetpoint tf2 rounds s enuPose now
      return ({ s with lastValidSetpointEnu := some ⟨enuPose, zeroTwist⟩ }, some (.takeoff, msg))
    | _, _ => none  -- not reached: the two members are set together

/-- `isTakeoffComplete()`: a completed takeoff stays completed. -/
def isTakeoffComplete (s : OffboardControl D F) : OffboardControl D F × Bool :=
  match s.currentOdom, s.takeoffTargetAltitude with
  | some odom, some altitude =>
    let diff := Double.fabs (odom.position.z - altitude)
    let completed := s.takeoffCompleted || decide (diff < params.altitudeTolerance)
    ({ s with takeoffCompleted := completed }, completed)
  | _, _ => (s, false)

def publishHoverSetpoint (s : OffboardControl D F) (now : Int) :
    Option (OffboardControl D F × Option (Published F)) :=
  match s.lastValidSetpointEnu with
  | none => some (s, none)
  | some setpoint => do
    let msg ← standingSetpoint tf2 rounds s setpoint.pose now
    return (s, some (.hover, msg))

/-- `has_fresh_waypoint`, with the waypoint. -/
def freshWaypoint (s : OffboardControl D F) (now : Int) : Option (TrajectorySetpoint F) :=
  match s.currentWaypointNed with
  | none => none
  | some waypoint =>
    if Double.seconds (now - s.lastWaypointTime) < params.waypointTimeoutS then some waypoint
    else none

/-- The three-way choice of `timerCallback`. -/
def publishSetpoint (s : OffboardControl D F) (clock : TickClock) :
    Option (OffboardControl D F × Option (Published F)) :=
  match freshWaypoint params s clock.fresh with
  | some waypoint =>
    let waypoint := { waypoint with timestamp := microseconds clock.setpoint }
    some ({ s with currentWaypointNed := some waypoint }, some (.waypoint, waypoint))
  | none =>
    let (s, complete) := isTakeoffComplete params s
    if complete then publishHoverSetpoint tf2 rounds s clock.setpoint
    else publishTakeoffSetpoint params tf2 rounds s clock.setpoint

/-- `required_setpoints`. -/
def requiredSetpoints : UInt64 :=
  let warmupCount : UInt64 :=
    Double.ceil (stdMax 0.0 params.offboardWarmupS * stdMax 1e-3 params.controlRateHz)
  if 1 < warmupCount then warmupCount else 1

/-- `engageOffboardMode()` and `arm()`. -/
def offboardCommands (clock : TickClock) : List (VehicleCommand F) :=
  [⟨vehicleCmdDoSetMode, 1.0, 6.0, microseconds clock.mode⟩,
    ⟨vehicleCmdComponentArmDisarm, 1.0, 0.0, microseconds clock.arm⟩]

/-- The end of `timerCallback`: the warm-up count and the commands. -/
def sendCommands (s : OffboardControl D F) (clock : TickClock) :
    OffboardControl D F × List (VehicleCommand F) :=
  if s.offboardSetpointCounter < requiredSetpoints params then
    ({ s with offboardSetpointCounter := s.offboardSetpointCounter + 1 }, [])
  else
    let isOffboard := s.vehicleStatus.navState == navigationStateOffboard
    let isArmed := s.vehicleStatus.armingState == armingStateArmed
    let retryPeriodS := stdMax 0.1 params.offboardCommandRetryS
    let retryDue := !s.offboardCommandSent ||
      decide (retryPeriodS ≤ Double.seconds (clock.now - s.lastOffboardCommandTime))
    if (!isOffboard || !isArmed) && retryDue then
      ({ s with offboardCommandSent := true, lastOffboardCommandTime := clock.now },
        offboardCommands clock)
    else (s, [])

def timerCallback (s : OffboardControl D F) (clock : TickClock) :
    Option (OffboardControl D F × TickOutput F) :=
  let heartbeat := offboardControlHeartbeat clock.heartbeat
  match s.currentOdom with
  | none => some (s, ⟨heartbeat, none, []⟩)
  | some _ => do
    let (s, setpoint) ← publishSetpoint params tf2 rounds s clock
    let (s, commands) := sendCommands params s clock
    return (s, ⟨heartbeat, setpoint, commands⟩)

/-! ### Runs -/

/-- The callbacks of the node, with what they are given. -/
inductive Callback (D F : Type) where
  | odom (msg : Pose D)
  | vehicleLocalPosition (msg : Vec3 F)
  | vehicleStatus (msg : VehicleStatus)
  | waypoint (msg : TrajectoryPoint D) (now : Int)
  | timer (clock : TickClock)

/-- What is recorded of a run: each waypoint, with whether takeoff had
been completed before it, and each tick with its output. -/
inductive Event (D F : Type) where
  | waypoint (msg : TrajectoryPoint D) (completed : Bool)
  | tick (output : TickOutput F)

/-- The node with the record of its run, newest event first. -/
structure OffboardRun (D F : Type) where
  node : OffboardControl D F
  log : List (Event D F)

def offboardStep (s : OffboardRun D F) : Callback D F → Option (OffboardRun D F)
  | .odom msg => some { s with node := odomCallback params s.node msg }
  | .vehicleLocalPosition msg => some { s with node := vehicleLocalPositionCallback s.node msg }
  | .vehicleStatus msg => some { s with node := vehicleStatusCallback s.node msg }
  | .waypoint msg now => do
    let node ← waypointCallback tf2 rounds s.node msg now
    return ⟨node, .waypoint msg s.node.takeoffCompleted :: s.log⟩
  | .timer clock => do
    let (node, output) ← timerCallback params tf2 rounds s.node clock
    return ⟨node, .tick output :: s.log⟩

/-- The node under any sequence of callbacks. -/
def offboardSystem : Transition.System (OffboardRun D F) (Callback D F) where
  init := fun s => s = ⟨.initial, []⟩
  step := offboardStep params tf2 rounds

end Node

end Nav3D.Px4

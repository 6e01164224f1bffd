/-
Nav3D.BehaviorTree.DistanceTraveled — the condition that the robot has
travelled some distance (`plugins/condition/distance_traveled_condition.cpp`,
`robot_utils.cpp`).

The first tick of an activation stores the pose of the robot. It does not
look at whether there is one: `getCurrentPose` then leaves the identity in
the frame of the robot, and the later ticks measure from the origin.
`DistanceController` gives up in this place. `success_measures` says when
SUCCESS means a displacement of the robot, and `success_from_origin` has a
run in which it does not.

The buffer of tf2 is an argument of each tick. `ticks` is no member: it
records the ticks since the last reset, the latest one first.
-/
import Nav3D.BehaviorTree.ChildLeftRunning
import Nav3D.Controller.TimedTrajectory

namespace Nav3D.BehaviorTree.DistanceTraveled

open BT StateInvariant Transition
open Nav3D.BtNavigator (Numbers euclideanDistance)
open Nav3D.Controller (PoseStamped)
open Nav3D.Px4 (Pose)

/-! ## `robot_utils.cpp` -/

/-- The exceptions of `tf2_ros::Buffer::transform`. -/
inductive TransformException where
  | lookup
  | connectivity
  | extrapolation
  | timeout
  | other
  deriving DecidableEq, Repr

/-- `tf2_ros::Buffer::transform` at some time. -/
abbrev TfBuffer (K : Type) := PoseStamped K → String → K → Except TransformException (PoseStamped K)

section RobotUtils

variable {K : Type} [Field K]

/-- `transformPoseInTargetFrame`: whether there is a transform, and what it
leaves in `transformed_pose`. -/
def transformPoseInTargetFrame (inputPose transformedPose : PoseStamped K) (tfBuffer : TfBuffer K)
    (targetFrame : String) (transformTimeout : K) : Bool × PoseStamped K :=
  match tfBuffer inputPose targetFrame transformTimeout with
  | .ok pose => (true, pose)
  | .error _ => (false, transformedPose)

/-- The identity transform. -/
def identityPose : Pose K := ⟨⟨0, 0, 0⟩, ⟨0, 0, 0, 1⟩⟩

/-- `getCurrentPose`, with the default stamp. -/
def getCurrentPose (tfBuffer : TfBuffer K) (globalFrame robotFrame : String)
    (transformTimeout : K) : Bool × PoseStamped K :=
  transformPoseInTargetFrame ⟨⟨0, robotFrame⟩, identityPose⟩ ⟨⟨0, robotFrame⟩, identityPose⟩
    tfBuffer globalFrame transformTimeout

end RobotUtils

/-! ## The node -/

/-- `deconflictPortAndParamFrame<std::string>`. -/
def deconflictPortAndParamFrame (port param : Option String) : String :=
  match port with
  | some value => if value.isEmpty then param.getD value else value
  | none => param.getD ""

/-- What one tick reads: the ports, the parameters of the ROS node and the
buffer. -/
structure Inputs (K : Type) where
  distance : Option K
  globalFrame : Option String
  robotBaseFrame : Option String
  transformToleranceParam : Option K
  globalFrameParam : Option String
  robotBaseFrameParam : Option String
  tf : TfBuffer K

/-- The members of a `DistanceTraveledCondition`, with its status. -/
structure DistanceTraveledCondition (K : Type) where
  status : NodeStatus
  startPose : PoseStamped K
  distance : K
  transformTolerance : K
  globalFrame : String
  robotBaseFrame : String

namespace DistanceTraveledCondition

variable {K : Type} [Field K] [LinearOrder K] (numbers : Numbers K)

omit [LinearOrder K] in
/-- The constructor. -/
def initial : DistanceTraveledCondition K where
  status := .idle
  startPose := ⟨⟨0, ""⟩, identityPose⟩
  distance := 1.0
  transformTolerance := 0.1
  globalFrame := ""
  robotBaseFrame := ""

def cell : StatusCell (DistanceTraveledCondition K) where
  status := status
  setStatus status s := { s with status := status }

/-- `initialize`. -/
def initializeMembers (inputs : Inputs K) (s : DistanceTraveledCondition K) :
    DistanceTraveledCondition K :=
  { s with
    distance := inputs.distance.getD s.distance
    transformTolerance := inputs.transformToleranceParam.getD s.transformTolerance
    globalFrame := deconflictPortAndParamFrame inputs.globalFrame inputs.globalFrameParam
    robotBaseFrame :=
      deconflictPortAndParamFrame inputs.robotBaseFrame inputs.robotBaseFrameParam }

/-- The call of `getCurrentPose`. -/
def currentPose (tf : TfBuffer K) (s : DistanceTraveledCondition K) : Bool × PoseStamped K :=
  getCurrentPose tf s.globalFrame s.robotBaseFrame s.transformTolerance

/-- `DistanceTraveledCondition::tick()`. -/
def tick (inputs : Inputs K) : EStateM Empty (DistanceTraveledCondition K) NodeStatus := do
  if (← get).status.isActive then
    let s ← get
    let current := s.currentPose inputs.tf
    if current.1 = false then return .failure
    else
      let travelled := euclideanDistance numbers s.startPose.pose current.2.pose
      if travelled < s.distance then return .failure
      else
        set { s with startPose := current.2 }
        return .success
  else
    modify (initializeMembers inputs)
    let s ← get
    -- `false` makes a log message
    set { s with startPose := (s.currentPose inputs.tf).2 }
    return .failure

/-- The node. -/
def node (inputs : Inputs K) : TreeNode Empty (DistanceTraveledCondition K) :=
  leaf cell (tick numbers inputs)

end DistanceTraveledCondition

/-! ## Runs -/

/-- A tick: the pose of the robot if it has been found, `distance_` and what
has been returned. -/
structure Tick (K : Type) where
  robotPose : Option (PoseStamped K)
  distance : K
  result : NodeStatus

/-- The node and its ticks since the last reset. -/
structure Traveled (K : Type) where
  node : DistanceTraveledCondition K
  ticks : List (Tick K)

/-- What happens to the node. -/
inductive Label (K : Type) where
  | executeTick (inputs : Inputs K)
  | halt
  | haltChild
  | resetStatus

section Runs

variable {K : Type} [Field K] [LinearOrder K] (numbers : Numbers K)

/-- The pose of the robot in the buffer, in the frames of the node. -/
def robotPose (tf : TfBuffer K) (s : DistanceTraveledCondition K) : Option (PoseStamped K) :=
  (tf ⟨⟨0, s.robotBaseFrame⟩, identityPose⟩ s.globalFrame s.transformTolerance).toOption

/-- A tick with its record. -/
def ticked (inputs : Inputs K) (s : Traveled K) : Traveled K :=
  match (DistanceTraveledCondition.node numbers inputs).executeTick.run s.node with
  | .ok result node => ⟨node, ⟨robotPose inputs.tf node, node.distance, result⟩ :: s.ticks⟩
  | .error e _ => e.elim

/-- The node for what does not tick it. -/
def resetting : TreeNode Empty (DistanceTraveledCondition K) :=
  leaf DistanceTraveledCondition.cell (pure .idle)

def stepLabel (s : Traveled K) : Label K → Traveled K
  | .executeTick inputs => ticked numbers inputs s
  | .halt => ⟨finalState (resetting.halt.run s.node), []⟩
  | .haltChild => ⟨finalState (resetting.haltChild.run s.node), []⟩
  | .resetStatus => ⟨finalState (resetting.resetStatus.run s.node), []⟩

def system : System (Traveled K) (Label K) where
  init := fun s => s = ⟨.initial, []⟩
  step := fun s l => some (stepLabel numbers s l)

/-- The pose that is measured from: the one of the last SUCCESS, or else of
the first tick. -/
def reference (ticks : List (Tick K)) : Option (PoseStamped K) :=
  ((ticks.find? (·.result = .success)).or ticks.getLast?).bind Tick.robotPose

/-- Each SUCCESS has the robot at least `distance_` away from the
reference. -/
def Measured : List (Tick K) → Prop
  | [] => True
  | tick :: ticks =>
    (tick.result = .success → ∃ start current, reference ticks = some start ∧
      tick.robotPose = some current ∧
      tick.distance ≤ euclideanDistance numbers start.pose current.pose) ∧ Measured ticks

/-- A later tick of an activation that has no reference finds no pose of the
robot, or one that is less than `distance_` away from the origin. -/
def NearOrigin (s : Traveled K) : Label K → Prop
  | .executeTick inputs =>
    s.node.status.isActive = true → reference s.ticks = none →
      ∀ current ∈ robotPose inputs.tf s.node,
        euclideanDistance numbers identityPose current.pose < s.node.distance
  | _ => True

instance (s : Traveled K) : (l : Label K) → Decidable (NearOrigin numbers s l)
  | .executeTick _ => inferInstanceAs (Decidable (_ → _ → _))
  | .halt | .haltChild | .resetStatus => isTrue trivial

/-! ## One tick -/

omit [LinearOrder K] in
theorem currentPose_eq (tf : TfBuffer K) (s : DistanceTraveledCondition K) :
    s.currentPose tf = ((robotPose tf s).isSome,
      (robotPose tf s).getD ⟨⟨0, s.robotBaseFrame⟩, identityPose⟩) := by
  unfold DistanceTraveledCondition.currentPose getCurrentPose transformPoseInTargetFrame robotPose
  cases tf ⟨⟨0, s.robotBaseFrame⟩, identityPose⟩ s.globalFrame s.transformTolerance <;> rfl

/-- What the first tick of an activation leaves. -/
def startedNode (inputs : Inputs K) (s : DistanceTraveledCondition K) :
    DistanceTraveledCondition K :=
  let node := s.initializeMembers inputs
  { node with
    status := .failure
    startPose := (robotPose inputs.tf node).getD ⟨⟨0, node.robotBaseFrame⟩, identityPose⟩ }

/-- A later tick has SUCCESS with the pose of the robot far enough away. -/
def Reaches (inputs : Inputs K) (s : DistanceTraveledCondition K) (current : PoseStamped K) :
    Prop :=
  robotPose inputs.tf s = some current ∧
    s.distance ≤ euclideanDistance numbers s.startPose.pose current.pose

theorem executeTick_first (inputs : Inputs K) {s : DistanceTraveledCondition K}
    (hs : s.status.isActive = false) :
    (DistanceTraveledCondition.node numbers inputs).executeTick.run s =
      .ok .failure (startedNode inputs s) := by
  simp [DistanceTraveledCondition.node, leaf, TreeNode.executeTick,
    DistanceTraveledCondition.tick, EStateM.run_bind, hs, currentPose_eq]
  rfl

theorem executeTick_success (inputs : Inputs K) {s : DistanceTraveledCondition K}
    {current : PoseStamped K} (hs : s.status.isActive = true)
    (hreaches : Reaches numbers inputs s current) :
    (DistanceTraveledCondition.node numbers inputs).executeTick.run s =
      .ok .success { s with status := .success, startPose := current } := by
  obtain ⟨hpose, hfar⟩ := hreaches
  simp [DistanceTraveledCondition.node, leaf, TreeNode.executeTick,
    DistanceTraveledCondition.tick, EStateM.run_bind, hs, currentPose_eq, hpose, not_lt.mpr hfar]
  rfl

theorem executeTick_failure (inputs : Inputs K) {s : DistanceTraveledCondition K}
    (hs : s.status.isActive = true) (hnot : ∀ current, ¬ Reaches numbers inputs s current) :
    (DistanceTraveledCondition.node numbers inputs).executeTick.run s =
      .ok .failure { s with status := .failure } := by
  cases hpose : robotPose inputs.tf s with
  | none =>
    simp [DistanceTraveledCondition.node, leaf, TreeNode.executeTick,
      DistanceTraveledCondition.tick, EStateM.run_bind, hs, currentPose_eq, hpose]
    rfl
  | some current =>
    have hnear : euclideanDistance numbers s.startPose.pose current.pose < s.distance := by
      apply lt_of_not_ge
      intro hfar
      exact hnot current ⟨hpose, hfar⟩
    simp [DistanceTraveledCondition.node, leaf, TreeNode.executeTick,
      DistanceTraveledCondition.tick, EStateM.run_bind, hs, currentPose_eq, hpose, hnear]
    rfl

/-! ## The stored pose -/

omit [Field K] [LinearOrder K] in
@[simp] theorem reference_singleton (tick : Tick K) : reference [tick] = tick.robotPose := by
  simp only [reference, List.find?_cons, List.find?_nil, List.getLast?_singleton]
  split <;> rfl

omit [Field K] [LinearOrder K] in
theorem reference_success {tick : Tick K} (ticks : List (Tick K)) (h : tick.result = .success) :
    reference (tick :: ticks) = tick.robotPose := by
  simp [reference, h]

omit [Field K] [LinearOrder K] in
theorem reference_failure {tick : Tick K} {ticks : List (Tick K)} (h : tick.result = .failure)
    (hticks : ticks ≠ []) : reference (tick :: ticks) = reference ticks := by
  cases ticks with
  | nil => exact absurd rfl hticks
  | cons t ticks => simp [reference, h, List.getLast?_cons_cons]

/-- What is stored during an activation: the reference or, without one, the
identity. -/
structure Stored (s : Traveled K) : Prop where
  active : s.node.status.isActive = true ↔ s.ticks ≠ []
  startPose : s.ticks ≠ [] →
    s.node.startPose.pose = ((reference s.ticks).map Msg.PoseStamped.pose).getD identityPose

/-- The next tick of an activation, by whether it has SUCCESS. -/
theorem ticked_cases (inputs : Inputs K) {s : Traveled K} (hs : s.node.status.isActive = true) :
    (∃ current, Reaches numbers inputs s.node current ∧ ticked numbers inputs s =
      ⟨{ s.node with status := .success, startPose := current },
        ⟨some current, s.node.distance, .success⟩ :: s.ticks⟩) ∨
    (∀ current, ¬ Reaches numbers inputs s.node current) ∧ ticked numbers inputs s =
      ⟨{ s.node with status := .failure },
        ⟨robotPose inputs.tf s.node, s.node.distance, .failure⟩ :: s.ticks⟩ := by
  by_cases hreaches : ∃ current, Reaches numbers inputs s.node current
  · obtain ⟨current, hcurrent⟩ := hreaches
    refine .inl ⟨current, hcurrent, ?_⟩
    rw [ticked, executeTick_success numbers inputs hs hcurrent, ← hcurrent.1]
    rfl
  · rw [not_exists] at hreaches
    refine .inr ⟨hreaches, ?_⟩
    rw [ticked, executeTick_failure numbers inputs hs hreaches]
    rfl

theorem ticked_first (inputs : Inputs K) {s : Traveled K} (hs : s.node.status.isActive = false) :
    ticked numbers inputs s = ⟨startedNode inputs s.node,
      ⟨robotPose inputs.tf (s.node.initializeMembers inputs), (startedNode inputs s.node).distance,
        .failure⟩ :: s.ticks⟩ := by
  rw [ticked, executeTick_first numbers inputs hs]
  rfl

theorem Stored.ticked (inputs : Inputs K) {s : Traveled K} (h : Stored s) :
    Stored (ticked numbers inputs s) := by
  cases hs : s.node.status.isActive with
  | false =>
    have hticks : s.ticks = [] := by
      by_contra hne
      simp [h.active.mpr hne] at hs
    rw [ticked_first numbers inputs hs, hticks]
    refine ⟨by simp [startedNode, NodeStatus.isActive], fun _ => ?_⟩
    simp only [reference_singleton, startedNode]
    cases robotPose inputs.tf (s.node.initializeMembers inputs) <;> rfl
  | true =>
    have hticks := h.active.mp hs
    rcases ticked_cases numbers inputs hs with ⟨current, -, heq⟩ | ⟨-, heq⟩
    · rw [heq]
      refine ⟨by simp [NodeStatus.isActive], fun _ => ?_⟩
      rw [reference_success _ rfl]
      rfl
    · rw [heq]
      refine ⟨by simp [NodeStatus.isActive], fun _ => ?_⟩
      rw [reference_failure rfl hticks]
      exact h.startPose hticks

omit [LinearOrder K] in
/-- After a reset the node is idle. -/
theorem stored_reset {node : DistanceTraveledCondition K} (h : node.status = .idle) :
    Stored ⟨node, []⟩ where
  active := by simp [h, NodeStatus.isActive]
  startPose := fun hne => absurd rfl hne

theorem Stored.stepLabel {s : Traveled K} (h : Stored s) (l : Label K) :
    Stored (stepLabel numbers s l) := by
  cases l with
  | executeTick inputs => exact h.ticked numbers inputs
  | halt => exact stored_reset rfl
  | resetStatus => exact stored_reset rfl
  | haltChild =>
    apply stored_reset
    have hhalt : Triple (fun _ => True) (resetting (K := K)).haltChild
        (fun _ node => node.status = .idle) (fun _ node => node.status = .idle) :=
      triple_haltChild (M := fun _ => True) (triple_modify fun _ _ => trivial)
        (fun _ _ => rfl) (fun _ _ _ => rfl)
    exact hhalt.finalState trivial

/-! ## SUCCESS -/

/-- A tick keeps the record measured exactly if it meets the condition. -/
theorem Stored.measured_ticked (inputs : Inputs K) {s : Traveled K} (h : Stored s)
    (hmeasured : Measured numbers s.ticks) :
    Measured numbers (DistanceTraveled.ticked numbers inputs s).ticks ↔
      NearOrigin numbers s (.executeTick inputs) := by
  cases hs : s.node.status.isActive with
  | false =>
    rw [ticked_first numbers inputs hs]
    simp [Measured, NearOrigin, hs, hmeasured]
  | true =>
    have hstart := h.startPose (h.active.mp hs)
    rcases ticked_cases numbers inputs hs with ⟨current, hreaches, heq⟩ | ⟨hnot, heq⟩
    · obtain ⟨hpose, hfar⟩ := hreaches
      rw [heq]
      cases href : reference s.ticks with
      | none =>
        rw [href] at hstart
        have hnear : ¬ euclideanDistance numbers identityPose current.pose < s.node.distance := by
          rw [not_lt]
          rwa [hstart] at hfar
        simp [Measured, NearOrigin, hs, href, hpose, hnear]
      | some start =>
        rw [href] at hstart
        rw [hstart] at hfar
        have hfar' : s.node.distance ≤ euclideanDistance numbers start.pose current.pose := hfar
        simp [Measured, NearOrigin, hmeasured, href, hfar']
    · rw [heq]
      have hnear : NearOrigin numbers s (.executeTick inputs) := by
        intro _ href current hcurrent
        rw [href] at hstart
        apply lt_of_not_ge
        intro hfar
        refine hnot current ⟨hcurrent, ?_⟩
        rwa [hstart]
      simp [Measured, hmeasured, hnear]

theorem Stored.measured_stepLabel {s : Traveled K} (h : Stored s)
    (hmeasured : Measured numbers s.ticks) (l : Label K) :
    Measured numbers (DistanceTraveled.stepLabel numbers s l).ticks ↔ NearOrigin numbers s l := by
  cases l with
  | executeTick inputs => exact h.measured_ticked numbers inputs hmeasured
  | halt => exact iff_of_true trivial trivial
  | haltChild => exact iff_of_true trivial trivial
  | resetStatus => exact iff_of_true trivial trivial

/-- **SUCCESS is a displacement of the robot**, in every run in which an
activation whose first tick has found no pose stays near the origin until
its first SUCCESS. In every state of such a run a step keeps this exactly if
it meets the condition. -/
theorem success_measures {s : Traveled K} (h : (system numbers).Reach (NearOrigin numbers) s) :
    Measured numbers s.ticks ∧
      ∀ l s', (system numbers).step s l = some s' →
        (Measured numbers s'.ticks ↔ NearOrigin numbers s l) := by
  have hinv : Stored s ∧ Measured numbers s.ticks := by
    refine h.invariant (fun s => Stored s ∧ Measured numbers s.ticks) ?_ ?_
    · intro s hs
      cases hs
      exact ⟨stored_reset rfl, trivial⟩
    · intro s l s' hs hl hrun
      cases hrun
      exact ⟨hs.1.stepLabel numbers l, (hs.1.measured_stepLabel numbers hs.2 l).mpr hl⟩
  refine ⟨hinv.2, ?_⟩
  intro l s' hrun
  cases hrun
  exact hinv.1.measured_stepLabel numbers hinv.2 l

end Runs

/-! ## On an axis -/

/-- What a tick reads with the robot at `x`, or with no transform. -/
def robotAt (x : Option ℚ) : Inputs ℚ where
  distance := some 1
  globalFrame := some "map"
  robotBaseFrame := some "base_link"
  transformToleranceParam := none
  globalFrameParam := none
  robotBaseFrameParam := none
  tf := fun _ targetFrame _ =>
    match x with
    | some x => .ok ⟨⟨0, targetFrame⟩, ChildLeftRunning.onAxis x⟩
    | none => .error .lookup

/-- From 5 m to 6 m, with a reset and a start without a pose near the
origin. -/
def travels : List (Label ℚ) :=
  [.executeTick (robotAt none), .executeTick (robotAt (some (1 / 2))), .haltChild,
    .executeTick (robotAt (some 5)), .executeTick (robotAt none),
    .executeTick (robotAt (some 6))]

theorem success_measures_travels :
    ∃ s : Traveled ℚ, s.node.status = .success ∧
      Measured ChildLeftRunning.axisNumbers s.ticks := by
  obtain ⟨s, hreach, hs⟩ := System.exists_reach_of_runWhile
    (S := system ChildLeftRunning.axisNumbers) (NearOrigin ChildLeftRunning.axisNumbers)
    travels (fun s => s.node.status = .success) rfl (by decide +kernel)
  exact ⟨s, of_decide_eq_true hs, (success_measures ChildLeftRunning.axisNumbers hreach).1⟩

/-- A robot that stands still at 5 m: there is no transform at first. -/
def standsStill : List (Label ℚ) :=
  [.executeTick (robotAt none), .executeTick (robotAt (some 5))]

/-- SUCCESS with nothing measured. -/
theorem success_from_origin :
    ¬ ∀ s, (system ChildLeftRunning.axisNumbers).Reach System.anyStep s →
      Measured ChildLeftRunning.axisNumbers s.ticks := by
  intro hclaim
  obtain ⟨s, hreach, hs⟩ := System.exists_reach_of_runWhile
    (S := system ChildLeftRunning.axisNumbers) System.anyStep standsStill
    (fun s => s.ticks.head?.any (·.result = .success) ∧ reference s.ticks.tail = none) rfl
    (by decide +kernel)
  have hmeasured := hclaim s hreach
  cases hticks : s.ticks with
  | nil => simp [hticks] at hs
  | cons tick ticks =>
    rw [hticks] at hmeasured
    simp only [hticks, List.head?_cons, Option.any_some, List.tail_cons, Bool.decide_and,
      Bool.and_eq_true, decide_eq_true_eq] at hs
    obtain ⟨start, current, hstart, -⟩ := hmeasured.1 hs.1
    rw [hs.2] at hstart
    cases hstart

end Nav3D.BehaviorTree.DistanceTraveled

/-
Nav3D.Planner.PathValidity — the `is_path_valid` service of the planner
server: `PlannerServer::isPathValid` (`planner_server.cpp`),
`MoveItGlobalPlanner::isPathValid` (`moveit_global_planner.cpp`) and
`MoveGroupInterface::isPoseValid` (`movegroup_interface.cpp`).

The state validity service is asked about single poses. What it does while
one pose is checked is an argument (`ServiceBehavior`), with the times at
which it appears and answers, so that a check compares them with its
timeout. `isPoseValid` takes every silence for validity: a service that does
not appear, answers late, fails or answers without a response does not make
a path invalid. Two things do: an answer that the pose is invalid, and an
exception before the request is under way, which ends in the catch block of
the planner server. `isPathValid_iff` says that nothing else does.
-/
import Nav3D.Px4.OffboardControl
import Mathlib.Tactic.Ring

namespace Nav3D.Planner

open Nav3D.Px4 (Pose)

/-! ## The state validity service -/

/-- `moveit_msgs/srv/GetStateValidity`, the fields of the request that are
set; its stamp is left out. -/
structure StateValidityRequest (D : Type) where
  groupName : String
  isDiff : Bool
  jointNames : List String
  jointPositions : List D
  deriving DecidableEq

/-- What the service and its client do while one pose is checked. Times are
in milliseconds. -/
structure ServiceBehavior (D : Type) where
  /-- `create_client`. -/
  created : Except String Unit
  /-- When `wait_for_service` finds the service. -/
  appears : Except String (Option Nat)
  /-- `async_send_request`. -/
  sent : Except String Unit
  /-- When the future is ready, and what `get()` does: it throws, or it
  returns a response that may be null. -/
  answer : StateValidityRequest D → Option (Nat × Except Unit (Option Bool))

/-- The service answers a request within the timeouts. -/
def ServiceBehavior.Answers {D : Type} (service : ServiceBehavior D) (timeout : Nat)
    (request : StateValidityRequest D) (valid : Bool) : Prop :=
  (∃ ms ≤ timeout, service.appears = .ok (some ms)) ∧ service.sent = .ok () ∧
    ∃ ms ≤ timeout, service.answer request = some (ms, .ok (some valid))

/-- The client throws before the request is under way. -/
def ServiceBehavior.Raises {D : Type} (service : ServiceBehavior D) (timeout : Nat) : Prop :=
  (∃ what, service.appears = .error what) ∨
    (∃ ms ≤ timeout, service.appears = .ok (some ms)) ∧ ∃ what, service.sent = .error what

/-! ## One pose -/

/-- `MoveGroupInterface`, the members that a check uses. The client is the
name of its service. -/
structure MoveGroupInterface where
  planningGroup : String
  stateValidityServiceName : String
  stateValidityClient : Option String
  deriving DecidableEq

section Check

variable {D : Type}

/-- `setStateValidityServiceName`. -/
def MoveGroupInterface.setStateValidityServiceName (m : MoveGroupInterface)
    (created : Except String Unit) (serviceName : String) :
    MoveGroupInterface × Except String Unit :=
  let m := { m with stateValidityServiceName := serviceName, stateValidityClient := none }
  if serviceName = "" then (m, .ok ())
  else
    match created with
    | .ok () => ({ m with stateValidityClient := some serviceName }, .ok ())
    | .error what => (m, .error what)

/-- The request about a pose. -/
def MoveGroupInterface.validityRequest (m : MoveGroupInterface) (pose : Pose D) :
    StateValidityRequest D where
  groupName := m.planningGroup
  isDiff := true
  jointNames :=
    ["virtual_joint/trans_x", "virtual_joint/trans_y", "virtual_joint/trans_z",
      "virtual_joint/rot_x", "virtual_joint/rot_y", "virtual_joint/rot_z", "virtual_joint/rot_w"]
  jointPositions :=
    [pose.position.x, pose.position.y, pose.position.z,
      pose.orientation.x, pose.orientation.y, pose.orientation.z, pose.orientation.w]

/-- `isPoseValid` before its client is used. -/
def MoveGroupInterface.connect (m : MoveGroupInterface) (created : Except String Unit) :
    MoveGroupInterface × Except String Unit :=
  if m.stateValidityClient = none then
    m.setStateValidityServiceName created m.stateValidityServiceName
  else (m, .ok ())

/-- `isPoseValid` from `wait_for_service` on. -/
def ServiceBehavior.ask (service : ServiceBehavior D) (timeout : Nat)
    (request : StateValidityRequest D) : Except String Bool :=
  match service.appears with
  | .error what => .error what
  | .ok none => .ok true
  | .ok (some ms) =>
    if timeout < ms then .ok true
    else
      match service.sent with
      | .error what => .error what
      | .ok () =>
        match service.answer request with
        | none => .ok true
        | some (ms, response) =>
          if timeout < ms then .ok true
          else
            match response with
            | .ok (some valid) => .ok valid
            | .ok none => .ok true
            -- `catch (...)`
            | .error () => .ok true

/-- `isPoseValid(pose, timeout)`. -/
def MoveGroupInterface.isPoseValid (m : MoveGroupInterface) (service : ServiceBehavior D)
    (pose : Pose D) (timeout : Nat) : MoveGroupInterface × Except String Bool :=
  match m.connect service.created with
  | (m, .error what) => (m, .error what)
  | (m, .ok ()) =>
    if m.stateValidityClient = none then (m, .ok true)
    else (m, service.ask timeout (m.validityRequest pose))

/-! ## The path -/

/-- `MoveItGlobalPlanner`, the members that `isPathValid` uses. -/
structure MoveItGlobalPlanner where
  active : Bool
  node : Bool
  moveGroupInterface : Option MoveGroupInterface
  validityStep : Int
  validityMaxChecks : Int
  validityTimeoutMs : Int
  deriving DecidableEq

def MoveItGlobalPlanner.timeout (p : MoveItGlobalPlanner) : Nat := (max 0 p.validityTimeoutMs).toNat

def MoveItGlobalPlanner.step (p : MoveItGlobalPlanner) : Nat := (max 1 p.validityStep).toNat

def MoveItGlobalPlanner.maxChecks (p : MoveItGlobalPlanner) : Nat := (max 1 p.validityMaxChecks).toNat

/-- The loop over the poses, with the number of checks that are left. It
returns the index of the pose that is not valid. -/
def checkPoses (service : Nat → ServiceBehavior D) (poses : List (Pose D)) (timeout step : Nat) :
    Nat → Nat → MoveGroupInterface → MoveGroupInterface × Except String (Option Nat)
  | 0, _, m => (m, .ok none)
  | checks + 1, i, m =>
    match poses[i]? with
    | none => (m, .ok none)
    | some pose =>
      match m.isPoseValid (service i) pose timeout with
      | (m, .error what) => (m, .error what)
      | (m, .ok false) => (m, .ok (some i))
      | (m, .ok true) => checkPoses service poses timeout step checks (i + step) m

/-- `MoveItGlobalPlanner::isPathValid(path, invalid_pose_indices)`. -/
def MoveItGlobalPlanner.isPathValid (p : MoveItGlobalPlanner) (service : Nat → ServiceBehavior D)
    (poses : List (Pose D)) : MoveItGlobalPlanner × Except String (Bool × List Int32) :=
  match p.moveGroupInterface with
  | none => (p, .ok (true, []))
  | some m =>
    if p.active = false ∨ p.node = false then (p, .ok (true, []))
    else if poses = [] then (p, .ok (true, []))
    else
      let (m, checked) := checkPoses service poses p.timeout p.step p.maxChecks 0 m
      let p := { p with moveGroupInterface := some m }
      match checked with
      | .error what => (p, .error what)
      | .ok (some i) => (p, .ok (false, [Int32.ofNat i]))
      | .ok none => (p, .ok (true, []))

/-! ## The server -/

/-- A global planner plugin. -/
inductive GlobalPlanner where
  | moveIt (p : MoveItGlobalPlanner)
  /-- A plugin that does not implement `nav3d_core::PathValidityChecker`. -/
  | other

/-- `PlannerServer`, the members that `isPathValid` uses. `on_configure`
refuses an empty list of plugins. -/
structure PlannerServer where
  plannerIds : List String
  plannerIds_ne : plannerIds ≠ []
  pathValidityPlannerId : String
  planners : String → Option GlobalPlanner

/-- `nav3d_msgs/srv/IsPathValid`, the response. -/
structure IsPathValidResponse where
  isValid : Bool
  invalidPoseIndices : List Int32
  deriving DecidableEq

/-- The planner id of a validity check. -/
def PlannerServer.validityPlannerId (server : PlannerServer) : String :=
  if server.pathValidityPlannerId = "" then server.plannerIds.head server.plannerIds_ne
  else server.pathValidityPlannerId

/-- `getPlannerOrThrow(planner_id)`. -/
def PlannerServer.getPlannerOrThrow (server : PlannerServer) (plannerId : String) :
    Except String GlobalPlanner :=
  let effectiveId :=
    if plannerId = "" then server.plannerIds.head server.plannerIds_ne else plannerId
  match server.planners effectiveId with
  | none => .error ("Planner id '" ++ effectiveId ++ "' not found")
  | some planner => .ok planner

/-- `PlannerServer::isPathValid(request_header, request, response)`: the
planner as the check leaves it, and the response. -/
def PlannerServer.isPathValid (server : PlannerServer) (service : Nat → ServiceBehavior D)
    (poses : List (Pose D)) : Option GlobalPlanner × IsPathValidResponse :=
  if poses = [] then (none, { isValid := false, invalidPoseIndices := [] })
  else
    match server.getPlannerOrThrow server.validityPlannerId with
    | .error _ => (none, { isValid := false, invalidPoseIndices := [] })
    | .ok .other => (some .other, { isValid := true, invalidPoseIndices := [] })
    | .ok (.moveIt p) =>
      match p.isPathValid service poses with
      | (p, .ok (isValid, invalidPoseIndices)) =>
        (some (.moveIt p), { isValid := isValid, invalidPoseIndices := invalidPoseIndices })
      -- `catch (const std::exception& ex)`
      | (p, .error _) => (some (.moveIt p), { isValid := false, invalidPoseIndices := [] })

/-! ## What one check says -/

/-- What `ask` can come to. -/
theorem ServiceBehavior.ask_cases (service : ServiceBehavior D) (timeout : Nat)
    (request : StateValidityRequest D) :
    (service.Raises timeout ∧ ∃ what, service.ask timeout request = .error what) ∨
    (service.Answers timeout request false ∧ service.ask timeout request = .ok false) ∨
    (¬ service.Raises timeout ∧ ¬ service.Answers timeout request false ∧
      service.ask timeout request = .ok true) := by
  unfold ask Raises Answers
  cases happears : service.appears with
  | error what => simp
  | ok appears =>
    cases appears with
    | none => simp
    | some ms =>
      rcases Nat.lt_or_ge timeout ms with hms | hms
      · simp [hms, Nat.not_le.mpr hms]
      · cases hsent : service.sent with
        | error what => simp [hms, Nat.not_lt.mpr hms]
        | ok _ =>
          cases hanswer : service.answer request with
          | none => simp [hms, Nat.not_lt.mpr hms]
          | some reply =>
            obtain ⟨after, response⟩ := reply
            rcases Nat.lt_or_ge timeout after with hafter | hafter
            · simp [hms, Nat.not_lt.mpr hms, hafter, Nat.not_le.mpr hafter]
            · -- the answer counts: only an invalid pose is not taken for valid
              rcases response with _ | _ | _ | _ <;>
                simp [hms, Nat.not_lt.mpr hms, hafter, Nat.not_lt.mpr hafter]

theorem ServiceBehavior.ask_eq_true_iff (service : ServiceBehavior D) (timeout : Nat)
    (request : StateValidityRequest D) :
    service.ask timeout request = .ok true ↔
      ¬ service.Answers timeout request false ∧ ¬ service.Raises timeout := by
  rcases service.ask_cases timeout request with ⟨hraises, what, heq⟩ | ⟨hanswers, heq⟩ |
    ⟨hraises, hanswers, heq⟩
  · simp [heq, hraises]
  · simp [heq, hanswers]
  · simp [heq, hraises, hanswers]

/-! ## What the loop says -/

/-- The interface has its client, or no service to make one for. -/
def MoveGroupInterface.Connected (m : MoveGroupInterface) : Prop :=
  m.stateValidityClient = none → m.stateValidityServiceName = ""

theorem MoveGroupInterface.connect_of_client {m : MoveGroupInterface}
    (h : m.stateValidityClient ≠ none) (created : Except String Unit) :
    m.connect created = (m, .ok ()) := by
  simp [connect, h]

theorem MoveGroupInterface.connect_of_no_service {m : MoveGroupInterface}
    (hclient : m.stateValidityClient = none) (hname : m.stateValidityServiceName = "")
    (created : Except String Unit) : m.connect created = (m, .ok ()) := by
  obtain ⟨group, name, client⟩ := m
  simp only at hclient hname
  simp [connect, setStateValidityServiceName, hclient, hname]

theorem MoveGroupInterface.connect_of_service {m : MoveGroupInterface}
    (hclient : m.stateValidityClient = none) (hname : m.stateValidityServiceName ≠ "")
    (created : Except String Unit) :
    m.connect created =
      match created with
      | .ok () => ({ m with stateValidityClient := some m.stateValidityServiceName }, .ok ())
      | .error what => (m, .error what) := by
  obtain ⟨group, name, client⟩ := m
  simp only at hclient hname
  cases created <;> simp [connect, setStateValidityServiceName, hclient, hname]

/-- A connected interface is not touched again. -/
theorem MoveGroupInterface.connect_of_connected {m : MoveGroupInterface} (h : m.Connected)
    (created : Except String Unit) : m.connect created = (m, .ok ()) := by
  by_cases hclient : m.stateValidityClient = none
  · exact connect_of_no_service hclient (h hclient) created
  · exact connect_of_client hclient created

theorem MoveGroupInterface.isPoseValid_of_connect {m m' : MoveGroupInterface}
    {service : ServiceBehavior D} (h : m.connect service.created = (m', .ok ())) (pose : Pose D)
    (timeout : Nat) :
    m.isPoseValid service pose timeout =
      (m', if m'.stateValidityClient = none then .ok true
        else service.ask timeout (m'.validityRequest pose)) := by
  rw [isPoseValid, h]
  split
  · next heq => simp at heq
  · next heq =>
    cases heq
    split <;> rfl

/-- With a connected interface the loop finds nothing exactly if each check
that it may make says that the pose is valid. -/
theorem checkPoses_eq_none_iff {service : Nat → ServiceBehavior D} {poses : List (Pose D)}
    {timeout step : Nat} {m : MoveGroupInterface} (h : m.Connected) (checks i : Nat) :
    (checkPoses service poses timeout step checks i m).2 = .ok none ↔
      ∀ k < checks, ∀ pose, poses[i + k * step]? = some pose →
        (m.isPoseValid (service (i + k * step)) pose timeout).2 = .ok true := by
  induction checks generalizing i with
  | zero => simp [checkPoses]
  | succ checks ih =>
    cases hpose : poses[i]? with
    | none =>
      have hlength : poses.length ≤ i := List.getElem?_eq_none_iff.mp hpose
      have hend : ∀ k, poses[i + k * step]? = none :=
        fun k => List.getElem?_eq_none_iff.mpr (by omega)
      simp [checkPoses, hpose, hend]
    | some pose =>
      have hkeep : (m.isPoseValid (service i) pose timeout).1 = m := by
        rw [MoveGroupInterface.isPoseValid_of_connect (MoveGroupInterface.connect_of_connected h _)]
      obtain ⟨m', checked, hcheck⟩ : ∃ m' checked,
        m.isPoseValid (service i) pose timeout = (m', checked) := ⟨_, _, rfl⟩
      obtain rfl : m' = m := by rw [← hkeep, hcheck]
      rw [checkPoses, hpose]
      simp only [hcheck]
      constructor
      · intro hnone k hk pose' hpose'
        cases k with
        | zero =>
          simp only [Nat.zero_mul, Nat.add_zero, hpose] at hpose' ⊢
          cases hpose'
          rw [hcheck]
          rcases checked with what | _ | _
          · simp at hnone
          · simp at hnone
          · rfl
        | succ k =>
          rcases checked with what | _ | _
          · simp at hnone
          · simp at hnone
          · have hindex : i + (k + 1) * step = i + step + k * step := by ring
            rw [hindex] at hpose' ⊢
            exact (ih (i + step)).mp hnone k (by omega) pose' hpose'
      · intro hall
        have hfirst := hall 0 (by omega) pose (by simpa using hpose)
        simp only [Nat.zero_mul, Nat.add_zero, hcheck] at hfirst
        subst hfirst
        refine (ih (i + step)).mpr fun k hk pose' hpose' => ?_
        have hindex : i + step + k * step = i + (k + 1) * step := by ring
        rw [hindex] at hpose' ⊢
        exact hall (k + 1) (by omega) pose' hpose'

/-- The first check connects the interface. -/
theorem checkPoses_of_connect {service : Nat → ServiceBehavior D} {poses : List (Pose D)}
    {timeout step : Nat} {m m' : MoveGroupInterface} {i : Nat}
    (h : m.connect (service i).created = (m', .ok ())) (hconnected : m'.Connected) (checks : Nat) :
    (checkPoses service poses timeout step (checks + 1) i m).2 =
      (checkPoses service poses timeout step (checks + 1) i m').2 := by
  have hagain := MoveGroupInterface.connect_of_connected hconnected (service i).created
  cases hpose : poses[i]? with
  | none => simp [checkPoses, hpose]
  | some pose =>
    simp only [checkPoses, hpose]
    rw [MoveGroupInterface.isPoseValid_of_connect h,
      MoveGroupInterface.isPoseValid_of_connect hagain]

/-! ## What the reply says -/

/-- The poses that `isPathValid` looks at, unless an earlier one ends the
check: every `step`th, at most `maxChecks`. -/
def MoveItGlobalPlanner.Sampled (p : MoveItGlobalPlanner) (poses : List (Pose D)) (i : Nat)
    (pose : Pose D) : Prop :=
  (∃ k < p.maxChecks, i = k * p.step) ∧ poses[i]? = some pose

/-- The server checks paths with this planner, which is active. -/
structure PlannerServer.ChecksWith (server : PlannerServer) (p : MoveItGlobalPlanner)
    (m : MoveGroupInterface) : Prop where
  planner : server.getPlannerOrThrow server.validityPlannerId = .ok (.moveIt p)
  active : p.active = true
  node : p.node = true
  interface : p.moveGroupInterface = some m

/-- The reply says what the loop says. -/
theorem PlannerServer.isPathValid_eq_true_iff {server : PlannerServer} {p : MoveItGlobalPlanner}
    {m : MoveGroupInterface} (h : server.ChecksWith p m) (service : Nat → ServiceBehavior D)
    {poses : List (Pose D)} (hposes : poses ≠ []) :
    (server.isPathValid service poses).2.isValid = true ↔
      (checkPoses service poses p.timeout p.step p.maxChecks 0 m).2 = .ok none := by
  obtain ⟨m', checked, hcheck⟩ : ∃ m' checked,
    checkPoses service poses p.timeout p.step p.maxChecks 0 m = (m', checked) := ⟨_, _, rfl⟩
  simp only [isPathValid, hposes, if_false, h.planner, MoveItGlobalPlanner.isPathValid,
    h.interface, h.active, h.node, hcheck]
  rcases checked with what | _ | i <;> simp

/-- With a client the loop says what the service says about the sampled
poses. -/
theorem MoveItGlobalPlanner.checkPoses_of_client (p : MoveItGlobalPlanner)
    {m : MoveGroupInterface} (hclient : m.stateValidityClient ≠ none)
    (service : Nat → ServiceBehavior D) (poses : List (Pose D)) :
    (checkPoses service poses p.timeout p.step p.maxChecks 0 m).2 = .ok none ↔
      ∀ i pose, p.Sampled poses i pose →
        ¬ (service i).Answers p.timeout (m.validityRequest pose) false ∧
        ¬ (service i).Raises p.timeout := by
  have hconnected : m.Connected := fun hnone => absurd hnone hclient
  have hask : ∀ i pose, (m.isPoseValid (service i) pose p.timeout).2 =
      (service i).ask p.timeout (m.validityRequest pose) := by
    intro i pose
    rw [MoveGroupInterface.isPoseValid_of_connect
      (MoveGroupInterface.connect_of_client hclient (service i).created), if_neg hclient]
  rw [checkPoses_eq_none_iff hconnected]
  simp only [Nat.zero_add, hask, ServiceBehavior.ask_eq_true_iff]
  constructor
  · rintro hall i pose ⟨⟨k, hk, rfl⟩, hpose⟩
    exact hall k hk pose hpose
  · intro hall k hk pose hpose
    exact hall (k * p.step) pose ⟨⟨k, hk, rfl⟩, hpose⟩

/-- **Valid paths.** The reply to a path that is not empty says that the
path is valid exactly if no service is named and there is no client, or a
client is there or can be made and no sampled pose was answered to be
invalid, and none of their checks threw before its request was under way. -/
theorem PlannerServer.isPathValid_iff {server : PlannerServer} {p : MoveItGlobalPlanner}
    {m : MoveGroupInterface} (h : server.ChecksWith p m) (service : Nat → ServiceBehavior D)
    {poses : List (Pose D)} (hposes : poses ≠ []) :
    (server.isPathValid service poses).2.isValid = true ↔
      (m.stateValidityClient = none ∧ m.stateValidityServiceName = "") ∨
      (m.stateValidityClient = none →
        m.stateValidityServiceName ≠ "" ∧ (service 0).created = .ok ()) ∧
      ∀ i pose, p.Sampled poses i pose →
        ¬ (service i).Answers p.timeout (m.validityRequest pose) false ∧
        ¬ (service i).Raises p.timeout := by
  rw [isPathValid_eq_true_iff h service hposes]
  obtain ⟨checks, hchecks⟩ : ∃ checks, p.maxChecks = checks + 1 :=
    ⟨p.maxChecks - 1, by unfold MoveItGlobalPlanner.maxChecks; omega⟩
  obtain ⟨first, hfirst⟩ : ∃ pose, poses[0]? = some pose :=
    ⟨_, List.getElem?_eq_getElem (List.length_pos_iff.mpr hposes)⟩
  by_cases hclient : m.stateValidityClient = none
  case neg => simp [p.checkPoses_of_client hclient, hclient]
  by_cases hname : m.stateValidityServiceName = ""
  case pos =>
    -- no service is asked
    have hconnected : m.Connected := fun _ => hname
    have hvalid : ∀ i pose, (m.isPoseValid (service i) pose p.timeout).2 = .ok true := by
      intro i pose
      rw [MoveGroupInterface.isPoseValid_of_connect
        (MoveGroupInterface.connect_of_connected hconnected (service i).created), if_pos hclient]
    simp [checkPoses_eq_none_iff hconnected, hvalid, hclient, hname]
  cases hcreated : (service 0).created with
  | error what =>
    have hraised : m.isPoseValid (service 0) first p.timeout = (m, .error what) := by
      rw [MoveGroupInterface.isPoseValid, hcreated,
        MoveGroupInterface.connect_of_service hclient hname]
    simp [hchecks, checkPoses, hfirst, hraised, hclient, hname]
  | ok _ =>
    -- the first check makes the client
    let m' := { m with stateValidityClient := some m.stateValidityServiceName }
    have hconnect : m.connect (service 0).created = (m', .ok ()) := by
      rw [hcreated, MoveGroupInterface.connect_of_service hclient hname]
    have hclient' : m'.stateValidityClient ≠ none := by simp [m']
    have hloop := p.checkPoses_of_client hclient' service poses
    rw [hchecks, checkPoses_of_connect hconnect fun hnone => absurd hnone hclient', ← hchecks,
      hloop]
    simp [hname, hclient, m', MoveGroupInterface.validityRequest]

/-! ### A late answer -/

/-- The service answers one request, at a time. -/
def answersAt (ms : Nat) (valid : Bool) : ServiceBehavior Int where
  created := .ok ()
  appears := .ok (some 0)
  sent := .ok ()
  answer := fun _ => some (ms, .ok (some valid))

/-- The interface of a planner with the defaults. -/
def exampleInterface : MoveGroupInterface :=
  { planningGroup := "drone"
    stateValidityServiceName := "check_state_validity"
    stateValidityClient := some "check_state_validity" }

def examplePlanner : MoveItGlobalPlanner :=
  { active := true, node := true, moveGroupInterface := some exampleInterface
    validityStep := 2, validityMaxChecks := 200, validityTimeoutMs := 50 }

def exampleServer : PlannerServer where
  plannerIds := ["GridBased"]
  plannerIds_ne := by simp
  pathValidityPlannerId := ""
  planners := fun id => if id = "GridBased" then some (.moveIt examplePlanner) else none

theorem exampleServer_checksWith : exampleServer.ChecksWith examplePlanner exampleInterface :=
  ⟨rfl, rfl, rfl, rfl⟩

/-- A path of one pose. -/
def examplePath : List (Pose Int) := [⟨⟨0, 0, 1⟩, ⟨0, 0, 0, 1⟩⟩]

/-- A climb of five poses, of which the first, the third and the last are
sampled. -/
def climbPath : List (Pose Int) := [1, 2, 3, 4, 5].map fun z => ⟨⟨0, 0, z⟩, ⟨0, 0, 0, 1⟩⟩

/-- Of the poses of the climb every one but the first is in collision, except
for the last one if it is `free`. The answer about the third one is late. -/
def climbAnswers (free : Bool) (i : Nat) : ServiceBehavior Int :=
  answersAt (if i = 2 then 51 else 10) (i == 0 || i == 4 && free)

/-- The answer about the last pose decides: it is in time. -/
theorem isPathValid_iff_in_time :
    (exampleServer.isPathValid (climbAnswers false) climbPath).2.isValid = false ∧
      (exampleServer.isPathValid (climbAnswers true) climbPath).2.isValid = true := by
  have hpath : climbPath ≠ [] := by simp [climbPath]
  constructor
  · have hiff := PlannerServer.isPathValid_iff exampleServer_checksWith (climbAnswers false) hpath
    rw [Bool.eq_false_iff, ne_eq, hiff]
    rintro (⟨hclient, -⟩ | ⟨-, hall⟩)
    · simp [exampleInterface] at hclient
    · exact (hall 4 _ ⟨⟨2, by decide, rfl⟩, rfl⟩).1
        ⟨⟨0, by decide, rfl⟩, rfl, 10, by decide, rfl⟩
  · rw [PlannerServer.isPathValid_iff exampleServer_checksWith (climbAnswers true) hpath]
    refine .inr ⟨by simp [exampleInterface], ?_⟩
    rintro i pose ⟨⟨k, -, hi⟩, hpose⟩
    obtain rfl : i = k * 2 := hi
    constructor
    · rintro ⟨-, -, ms, hms, hanswer⟩
      obtain ⟨rfl, hfirst, hlast⟩ : (if k = 1 then 51 else 10) = ms ∧ ¬ k = 0 ∧ ¬ k * 2 = 4 := by
        simpa [climbAnswers, answersAt] using hanswer
      have hlate : k ≠ 1 := by
        rintro rfl
        exact absurd hms (by decide)
      have hshort : k * 2 < 5 := (List.getElem?_eq_some_iff.mp hpose).1
      omega
    · rintro (⟨what, happears⟩ | ⟨-, what, hsent⟩)
      · cases happears
      · cases hsent

/-- The pose is in collision, but the answer is late. -/
theorem isPathValid_without_evidence :
    ¬ ∀ (server : PlannerServer) (p : MoveItGlobalPlanner) (m : MoveGroupInterface),
      server.ChecksWith p m → ∀ (service : Nat → ServiceBehavior Int) (poses : List (Pose Int)),
        poses ≠ [] → (server.isPathValid service poses).2.isValid = true →
          ∀ i pose, p.Sampled poses i pose →
            (service i).Answers p.timeout (m.validityRequest pose) true := by
  intro hclaim
  obtain ⟨-, -, ms, hms, hanswer⟩ := hclaim exampleServer examplePlanner exampleInterface
    exampleServer_checksWith (fun _ => answersAt 51 false) examplePath (by simp [examplePath])
    (by decide) 0 _ ⟨⟨0, by decide, rfl⟩, rfl⟩
  simp [answersAt] at hanswer

end Check

end Nav3D.Planner

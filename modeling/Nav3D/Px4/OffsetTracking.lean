/-
Nav3D.Px4.OffsetTracking — the offset between the odometry and PX4's local
position (`offboard_control.cpp`).

Every odometry message moves `odom_to_px4_offset_` by a share of the
difference of both estimates at that moment. The offset starts at zero, so
the differences of the past decide how far it is off, and fade with every
message (`offset_tracks`). A waypoint at the pose of the vehicle is sent to
PX4 that far from where PX4 has the vehicle.
-/
import Nav3D.Lib.ExponentialAverage
import Nav3D.Px4.FrameChange
import Nav3D.Px4.WarmUp

namespace Nav3D.Px4

open ExponentialAverage Transition
open Nav3D.Ros (realTf2)

/-- The node, and the differences that have gone into the offset, newest
first. -/
structure OffsetRun (D F : Type) where
  run : OffboardRun D F
  differences : List (Vec3 D)

section Runs

variable {D F : Type} [Double D] [CppFloat D F]

/-- A position of PX4. -/
def localDoubles (localPos : Vec3 F) : Vec3 D :=
  ⟨CppFloat.toDouble localPos.x, CppFloat.toDouble localPos.y, CppFloat.toDouble localPos.z⟩

/-- PX4's position less that of a pose, in NED. -/
def difference (pose : Pose D) (localPos : Vec3 F) : Vec3 D :=
  ⟨CppFloat.toDouble localPos.x - pose.position.y, CppFloat.toDouble localPos.y - pose.position.x,
    CppFloat.toDouble localPos.z - -pose.position.z⟩

/-- The difference that a callback adds. -/
def newDifferences (node : OffboardControl D F) : Callback D F → List (Vec3 D)
  | .odom msg => (node.currentLocalPos.map (difference msg)).toList
  | _ => []

variable (params : Params D) (tf2 : Tf2 D) (rounds : Nat)

def offsetStep (s : OffsetRun D F) (l : Callback D F) : Option (OffsetRun D F) :=
  (offboardStep params tf2 rounds s.run l).map fun run =>
    ⟨run, newDifferences s.run.node l ++ s.differences⟩

/-- The node under any sequence of callbacks. -/
def offsetSystem : System (OffsetRun D F) (Callback D F) where
  init := fun s => s = ⟨⟨.initial, []⟩, []⟩
  step := offsetStep params tf2 rounds

/-- The share of a difference. -/
def offsetShare : D := stdClamp params.offsetAlpha 0.0 1.0

/-! ## What leaves the offset alone -/

variable {params tf2 rounds}

theorem offset_publishTakeoffSetpoint {s s' : OffboardControl D F} {now : Int}
    {p : Option (Published F)} (h : publishTakeoffSetpoint params tf2 rounds s now = some (s', p)) :
    s'.odomToPx4Offset = s.odomToPx4Offset := by
  unfold publishTakeoffSetpoint at h
  split at h
  · cases h
    rfl
  · next odom _ =>
    have hinit : (initTakeoff params tf2 s odom).odomToPx4Offset = s.odomToPx4Offset := by
      unfold initTakeoff
      split <;> rfl
    dsimp only at h
    split at h
    · rw [Option.bind_eq_bind, Option.bind_eq_some_iff] at h
      obtain ⟨msg, _, hret⟩ := h
      cases hret
      exact hinit
    · cases h

theorem offset_publishSetpoint {s s' : OffboardControl D F} {clock : TickClock}
    {p : Option (Published F)} (h : publishSetpoint params tf2 rounds s clock = some (s', p)) :
    s'.odomToPx4Offset = s.odomToPx4Offset := by
  unfold publishSetpoint at h
  split at h
  · cases h
    rfl
  · have hcomplete : (isTakeoffComplete params s).1.odomToPx4Offset = s.odomToPx4Offset := by
      rw [isTakeoffComplete_fields]
    obtain ⟨s₁, complete⟩ := isTakeoffComplete params s
    dsimp only at h hcomplete
    split at h
    · obtain ⟨rfl, _⟩ := publishHoverSetpoint_spec h
      exact hcomplete
    · exact (offset_publishTakeoffSetpoint h).trans hcomplete

theorem offset_sendCommands (s : OffboardControl D F) (clock : TickClock) :
    (sendCommands params s clock).1.odomToPx4Offset = s.odomToPx4Offset := by
  unfold sendCommands
  split
  · rfl
  · dsimp only
    split <;> rfl

/-- Only an odometry message changes the offset. -/
theorem offset_offboardStep {s s' : OffboardRun D F} {l : Callback D F}
    (hl : ∀ msg, l ≠ .odom msg) (h : offboardStep params tf2 rounds s l = some s') :
    s'.node.odomToPx4Offset = s.node.odomToPx4Offset := by
  cases l with
  | odom msg => exact absurd rfl (hl msg)
  | vehicleLocalPosition msg =>
    cases h
    rfl
  | vehicleStatus msg =>
    cases h
    rfl
  | waypoint msg now =>
    simp only [offboardStep, waypointCallback, Option.bind_eq_bind, Option.bind_eq_some_iff] at h
    obtain ⟨node, ⟨ned, -, hnode⟩, hret⟩ := h
    cases hnode
    cases hret
    rfl
  | timer clock =>
    simp only [offboardStep, Option.bind_eq_bind, Option.bind_eq_some_iff] at h
    obtain ⟨⟨node, output⟩, htick, hret⟩ := h
    cases hret
    unfold timerCallback at htick
    dsimp only at htick
    split at htick
    · cases htick
      rfl
    · rw [Option.bind_eq_bind, Option.bind_eq_some_iff] at htick
      obtain ⟨⟨s₁, setpoint⟩, hpublish, hret⟩ := htick
      cases hret
      exact (offset_sendCommands s₁ clock).trans (offset_publishSetpoint hpublish)

end Runs

/-! ## The offset as an average -/

section Tracking

variable {F : Type} [CppFloat ℝ F] {params : Params ℝ} {rounds : Nat}

theorem offsetShare_mem (params : Params ℝ) :
    0 ≤ offsetShare params ∧ offsetShare params ≤ 1 := by
  have hzero : (0.0 : ℝ) = 0 := by norm_num
  have hone : (1.0 : ℝ) = 1 := by norm_num
  have hmem : (0.0 : ℝ) ≤ offsetShare params ∧ offsetShare params ≤ 1.0 := by
    unfold offsetShare stdClamp
    split
    · exact ⟨le_refl _, by norm_num⟩
    split
    · exact ⟨by norm_num, le_refl _⟩
    · next hlow hhigh => exact ⟨not_lt.mp hlow, not_lt.mp hhigh⟩
  rwa [hzero, hone] at hmem

/-- The offset after an odometry message. -/
theorem offset_odomCallback (node : OffboardControl ℝ F) (msg : Pose ℝ) (i : Fin 3) :
    vector3d (odomCallback params node msg).odomToPx4Offset i =
      ((newDifferences node (.odom msg)).map fun d => vector3d d i).foldr
        (fun sample average => blend (offsetShare params) average sample)
        (vector3d node.odomToPx4Offset i) := by
  have hone : (1.0 : ℝ) = 1 := by norm_num
  cases hlocal : node.currentLocalPos with
  | none => simp [odomCallback, updateOffset, newDifferences, hlocal]
  | some localPos =>
    simp only [odomCallback, updateOffset, newDifferences, hlocal, Option.map_some,
      Option.toList_some, List.map_cons, List.map_nil, List.foldr_cons, List.foldr_nil, blend]
    rw [← hone]
    fin_cases i <;> rfl

/-- The offset is the average of the differences. -/
theorem offset_eq_average {C : OffsetRun ℝ F → Callback ℝ F → Prop} {s : OffsetRun ℝ F}
    (h : (offsetSystem params realTf2 rounds).Reach C s) (i : Fin 3) :
    vector3d s.run.node.odomToPx4Offset i =
      average (offsetShare params) 0 (s.differences.map fun d => vector3d d i) := by
  refine h.invariant (fun s => vector3d s.run.node.odomToPx4Offset i =
    average (offsetShare params) 0 (s.differences.map fun d => vector3d d i)) ?_ ?_
  · intro s hinit
    subst hinit
    have hzero : (0.0 : ℝ) = 0 := by norm_num
    show vector3d ⟨0.0, 0.0, 0.0⟩ i = 0
    rw [hzero]
    fin_cases i <;> rfl
  · intro s l s' hs _ hstep
    obtain ⟨run, hrun, rfl⟩ := Option.map_eq_some_iff.mp hstep
    cases l with
    | odom msg =>
      cases hrun
      rw [offset_odomCallback, hs]
      cases hlocal : s.run.node.currentLocalPos with
      | none => simp [newDifferences, hlocal]
      | some localPos => simp [newDifferences, hlocal, average]
    | _ =>
      rw [offset_offboardStep (by simp) hrun]
      exact hs

/-- Where a waypoint is sent, seen from where PX4 has its pose. -/
theorem waypointCallback_position {s s' : OffboardControl ℝ F} {msg : TrajectoryPoint ℝ} {now : Int}
    (h : waypointCallback realTf2 rounds s msg now = some s') (localPos : Vec3 F) :
    ∃ setpoint position, s'.currentWaypointNed = some setpoint ∧
      setpoint.position = castVec3 position ∧
        ∀ i, vector3d position i - vector3d (localDoubles localPos) i =
          vector3d s.odomToPx4Offset i - vector3d (difference msg.pose localPos) i := by
  simp only [waypointCallback, enuToNedPose, Option.bind_eq_bind, Option.bind_eq_some_iff] at h
  obtain ⟨ned, ⟨yaw, -, hned⟩, hret⟩ := h
  cases hned
  cases hret
  refine ⟨_, _, rfl, rfl, fun i => ?_⟩
  fin_cases i <;> simp [vector3d, addOffset, localDoubles, difference] <;> ring

/-- **Tracking.** On each axis, let all differences and zero be within
`rest` of a value `c` and the recent ones within `bound`. However the
callbacks come, the offset is within `bound` of `c` and what is left of
`rest` after that many shares. A waypoint whose pose PX4 has at `localPos`,
a difference of `c` away, is sent to PX4 no farther from `localPos`. -/
theorem offset_tracks {C : OffsetRun ℝ F → Callback ℝ F → Prop} {s : OffsetRun ℝ F}
    (h : (offsetSystem params realTf2 rounds).Reach C s) (i : Fin 3) {c bound rest : ℝ}
    {recent older : List (Vec3 ℝ)} (hsplit : s.differences = recent ++ older)
    (hbound : 0 ≤ bound) (hzero : |c| ≤ rest) (holder : ∀ d ∈ older, |vector3d d i - c| ≤ rest)
    (hrecent : ∀ d ∈ recent, |vector3d d i - c| ≤ bound) :
    |vector3d s.run.node.odomToPx4Offset i - c| ≤
        bound + (1 - offsetShare params) ^ recent.length * rest ∧
      ∀ (msg : TrajectoryPoint ℝ) (localPos : Vec3 F) now s',
        vector3d (difference msg.pose localPos) i = c →
          waypointCallback realTf2 rounds s.run.node msg now = some s' →
            ∃ setpoint position, s'.currentWaypointNed = some setpoint ∧
              setpoint.position = castVec3 position ∧
                |vector3d position i - vector3d (localDoubles localPos) i| ≤
                  bound + (1 - offsetShare params) ^ recent.length * rest := by
  obtain ⟨hshare0, hshare1⟩ := offsetShare_mem params
  have htracks : |vector3d s.run.node.odomToPx4Offset i - c| ≤
      bound + (1 - offsetShare params) ^ recent.length * rest := by
    rw [offset_eq_average h, hsplit, List.map_append, ← List.length_map (fun d => vector3d d i)]
    exact abs_average_append_le hshare0 hshare1 hbound (by simpa using hzero)
      (by simpa using holder) (by simpa using hrecent)
  refine ⟨htracks, fun msg localPos now s' hpose hcall => ?_⟩
  obtain ⟨setpoint, position, hwaypoint, hcast, hposition⟩ := waypointCallback_position hcall localPos
  refine ⟨setpoint, position, hwaypoint, hcast, ?_⟩
  rw [hposition, hpose]
  exact htracks

end Tracking

/-! ### A run -/

/-- PX4 has the vehicle a metre above the origin, where the odometry has it
twice. -/
theorem exists_differences : ∃ s : OffsetRun ℝ (Option ℝ),
    (offsetSystem Params.defaults realTf2 1).Reach System.anyStep s ∧
      s.differences.map (fun d => vector3d d 2) = [-1, -1] := by
  let origin : Pose ℝ := ⟨⟨0, 0, 0⟩, ⟨0, 0, 0, 1⟩⟩
  let above : Vec3 (Option ℝ) := ⟨some 0, some 0, some (-1)⟩
  have hlocal := System.Reach.step (l := .vehicleLocalPosition above)
    (.init (S := offsetSystem Params.defaults realTf2 1) (C := System.anyStep) rfl) trivial rfl
  have hodom := (hlocal.step (l := .odom origin) trivial rfl).step (l := .odom origin) trivial rfl
  have hz : vector3d (difference origin above) 2 = -1 := by
    show (-1 : ℝ) - -0 = -1
    norm_num
  refine ⟨_, hodom, ?_⟩
  show [vector3d (difference origin above) 2, vector3d (difference origin above) 2] = [-1, -1]
  rw [hz]

theorem offset_tracks_above : ∃ s : OffsetRun ℝ (Option ℝ), s.differences.length = 2 ∧
    |vector3d s.run.node.odomToPx4Offset 2 - -1| ≤ 0 + (1 - offsetShare Params.defaults) ^ 2 * 1 := by
  obtain ⟨s, hr, hmap⟩ := exists_differences
  have hlength : s.differences.length = 2 := by
    simpa using congrArg List.length hmap
  have hall : ∀ d ∈ s.differences, |vector3d d 2 - -1| ≤ 0 := by
    intro d hd
    have hmem : vector3d d 2 ∈ ([-1, -1] : List ℝ) := by
      rw [← hmap]
      exact List.mem_map_of_mem hd
    have hz : vector3d d 2 = -1 := by simpa using hmem
    simp [hz]
  have htracks := (offset_tracks hr 2 (List.append_nil s.differences).symm (le_refl 0)
    (by norm_num : |(-1 : ℝ)| ≤ 1) (by simp) hall).1
  rw [hlength] at htracks
  exact ⟨s, hlength, htracks⟩

end Nav3D.Px4

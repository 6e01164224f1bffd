/-
Nav3D.Controller.SpeedLimits — trajectories respect the speed limit
(`controller_server.cpp`).

`generateTimedTrajectory()` adds up one duration for each segment, with a
floor; `getCurrentCommand()` divides by the difference of two of the sums
and then slows down near the goal. Both together give no velocity above the
limit that was in force when the trajectory was made
(`speed_limit_respected`).

With exact times the trajectory is the one in nanoseconds but for the
rounding of each time (`timedTrajectory_eq_exact`).
-/
import Nav3D.Controller.FilterLimits
import Nav3D.Controller.SampledPath
import Nav3D.Px4.FrameChange

namespace Nav3D.Controller.Exact

open StateInvariant Transition
open Nav3D.Px4 (Vec3 Pose Twist)

section Speed

variable {K : Type} [Field K] [LinearOrder K] (fns : Functions K) (params : Params K)

/-! ## The limit in force -/

/-- The limit after some messages: the last one counts, and one that is not
positive stands for the default. -/
def limitInForce (initial : K) (messages : List K) : K :=
  match messages.getLast? with
  | some speedLimit => if 0 < speedLimit then speedLimit else params.defaultSpeedLimit
  | none => initial

/-- The node after some messages. -/
def afterMessages (initial : Server K) (messages : List K) : Server K :=
  messages.foldl (fun s speedLimit => speedLimitCallback params speedLimit s) initial

/-- By induction on the messages from their end. -/
theorem afterMessages_eq (initial : Server K) (messages : List K) :
    afterMessages params initial messages =
      { initial with speedLimit := limitInForce params initial.speedLimit messages } := by
  induction messages using List.reverseRecOn with
  | nil => rfl
  | append_singleton messages speedLimit ih =>
    have hlast : limitInForce params initial.speedLimit (messages ++ [speedLimit]) =
        if 0 < speedLimit then speedLimit else params.defaultSpeedLimit := by
      rw [limitInForce, List.getLast?_concat]
    rw [afterMessages] at ih
    rw [afterMessages, List.foldl_append, ih, hlast]
    rfl

/-! ## Norms -/

/-- The Euclidean norm. -/
def norm (v : Vec3 K) : K := fns.sqrt (v.x * v.x + v.y * v.y + v.z * v.z)

/-- `std::sqrt` is the square root. -/
structure LawfulSqrt : Prop where
  nonneg : ∀ x, 0 ≤ x → 0 ≤ fns.sqrt x
  mul_self : ∀ x, 0 ≤ x → fns.sqrt x * fns.sqrt x = x

section Ordered

variable {fns params} [IsStrictOrderedRing K] (hsqrt : LawfulSqrt fns)
include hsqrt

/-- A norm is bounded if the sum of the squares is. -/
theorem norm_le_iff {v : Vec3 K} {c : K} (hc : 0 ≤ c) :
    norm fns v ≤ c ↔ v.x * v.x + v.y * v.y + v.z * v.z ≤ c * c := by
  have hsum : 0 ≤ v.x * v.x + v.y * v.y + v.z * v.z :=
    add_nonneg (add_nonneg (mul_self_nonneg _) (mul_self_nonneg _)) (mul_self_nonneg _)
  rw [← hsqrt.mul_self _ hsum, norm]
  exact mul_self_le_mul_self_iff (hsqrt.nonneg _ hsum) hc

theorem norm_zero_le {c : K} (hc : 0 ≤ c) : norm fns ⟨0, 0, 0⟩ ≤ c := by
  rw [norm_le_iff hsqrt hc]
  simpa using mul_self_nonneg c

/-- To slow down does not make a velocity larger. -/
theorem norm_scaleVel_le {vel : Twist K} {scale c : K} (hscale : 0 ≤ scale ∧ scale ≤ 1) (hc : 0 ≤ c)
    (h : norm fns vel.linear ≤ c) : norm fns (scaleVel scale vel).linear ≤ c := by
  rw [norm_le_iff hsqrt hc] at h ⊢
  have hsquare : scale * scale ≤ 1 := mul_le_one₀ hscale.2 hscale.1 hscale.2
  have hsum : 0 ≤ vel.linear.x * vel.linear.x + vel.linear.y * vel.linear.y +
      vel.linear.z * vel.linear.z :=
    add_nonneg (add_nonneg (mul_self_nonneg _) (mul_self_nonneg _)) (mul_self_nonneg _)
  calc vel.linear.x * scale * (vel.linear.x * scale) +
        vel.linear.y * scale * (vel.linear.y * scale) +
        vel.linear.z * scale * (vel.linear.z * scale)
      = scale * scale * (vel.linear.x * vel.linear.x + vel.linear.y * vel.linear.y +
          vel.linear.z * vel.linear.z) := by ring
    _ ≤ 1 * (vel.linear.x * vel.linear.x + vel.linear.y * vel.linear.y +
          vel.linear.z * vel.linear.z) := mul_le_mul_of_nonneg_right hsquare hsum
    _ ≤ c * c := by rwa [one_mul]

/-- The velocity of a segment is within the speed of the trajectory. -/
theorem norm_segmentVel_le {v : K} (hv : 0 ≤ v) {a b : K × StampedPose K} (h : Spaced fns v a b) :
    norm fns (segmentVel fns a b).linear ≤ v := by
  have hpos : 0 < b.1 - a.1 := sub_pos.mpr h.lt
  have hslow : norm fns ⟨b.2.pose.position.x - a.2.pose.position.x,
      b.2.pose.position.y - a.2.pose.position.y,
      b.2.pose.position.z - a.2.pose.position.z⟩ ≤ v * (b.1 - a.1) := h.slow
  rw [norm_le_iff hsqrt (mul_nonneg hv hpos.le)] at hslow
  rw [norm_le_iff hsqrt hv]
  simp only [segmentVel, max_segmentDt h, div_mul_div_comm, ← add_div]
  rw [div_le_iff₀ (mul_pos hpos hpos)]
  calc _ ≤ v * (b.1 - a.1) * (v * (b.1 - a.1)) := hslow
    _ = v * v * ((b.1 - a.1) * (b.1 - a.1)) := by ring

/-- So is what is handed to `updateFilter`. -/
theorem norm_targetVel_le {v : K} (hv : 0 ≤ v) {a b : K × StampedPose K} (h : Spaced fns v a b)
    (distToGoal : K) : norm fns (targetVel fns params distToGoal a b).linear ≤ v := by
  simp only [targetVel]
  split
  · exact norm_zero_le hsqrt hv
  · exact norm_scaleVel_le hsqrt
      ⟨le_max_left _ _, max_le zero_le_one (min_le_right _ _)⟩ hv
      (norm_segmentVel_le hsqrt hv h)

end Ordered

/-! ## Runs -/

/-- Every velocity that has been handed to `updateFilter` is within `v`. -/
def UpdatesWithin (v : K) (updates : List (Update K)) : Prop :=
  ∀ u ∈ updates, norm fns u.targetVel.linear ≤ v

/-- What the trajectory of a path looks like, with the speed `v`. -/
structure TimedWithin (v : K) (path : List (StampedPose K)) (s : Server K) : Prop where
  poses : s.currentPath.map (·.2.untimed) = path.map (·.untimed)
  first : ∃ front, s.currentPath.head? = some front ∧ front.1 = s.pathStartTime
  apart : s.currentPath.IsChain fun a b => a.1 + 0.01 ≤ b.1
  speed : s.currentPath.IsChain fun a b =>
    distance fns b.2.pose.position a.2.pose.position / (b.1 - a.1) ≤ v

variable {fns params}

theorem UpdatesWithin.cons {v : K} {updates : List (Update K)} {u : Update K}
    (hu : norm fns u.targetVel.linear ≤ v) (h : UpdatesWithin fns v updates) :
    UpdatesWithin fns v (u :: updates) := by
  intro u' hu'
  cases hu' with
  | head => exact hu
  | tail _ hmem => exact h u' hmem

/-- A command does not change the trajectory. -/
theorem CommandEffect.currentPath_eq {s s' : Server K} {reading : Reading K}
    (h : CommandEffect fns params reading s s') : s'.currentPath = s.currentPath := by
  cases h with
  | noPath _ => rfl
  | before front filter _ _ => rfl
  | atGoal front back _ _ _ _ => rfl
  | onPath front back a b j _ _ _ _ _ _ _ => rfl

variable [IsStrictOrderedRing K]

/-- One call. -/
theorem UpdatesWithin.effect (hsqrt : LawfulSqrt fns) {v : K} (hv : 0 ≤ v) {s s' : Server K}
    {reading : Reading K} (hspaced : s.currentPath.IsChain (Spaced fns v))
    (h : UpdatesWithin fns v s.updates) (heffect : CommandEffect fns params reading s s') :
    UpdatesWithin fns v s'.updates := by
  cases heffect with
  | noPath _ => exact h
  | before front filter _ _ => exact h
  | atGoal front back _ _ _ _ => exact h.cons (norm_zero_le hsqrt hv)
  | onPath front back a b j _ _ _ _ _ ha hb =>
    exact h.cons (norm_targetVel_le hsqrt hv (spaced_of_getElem? hspaced ha hb) _)

/-- The trajectory of a path that is not empty. -/
theorem timedWithin_timedPath {v startTime : K} (hv : 0 < v) {s : Server K}
    {path : List (StampedPose K)} (hne : path ≠ []) (hstart : s.pathStartTime = startTime)
    (hpath : s.currentPath = timedPath fns startTime v path) : TimedWithin fns v path s where
  poses := by rw [hpath, untimed_timedPath]
  first := by
    cases path with
    | nil => exact absurd rfl hne
    | cons p poses => exact ⟨timedPose startTime p, by rw [hpath]; rfl, hstart.symm⟩
  apart := by
    rw [hpath]
    exact (spaced_timedPath fns hv startTime path).imp fun _ _ h => h.apart
  speed := by
    rw [hpath]
    exact (spaced_timedPath fns hv startTime path).imp fun _ _ h =>
      (div_le_iff₀ (sub_pos.mpr h.lt)).mpr h.slow

variable (params) in
/-- **The speed limit.** Whatever messages have come before, a path that is
not empty becomes a trajectory through its poses that nowhere is faster than
the limit in force, and as long as it is followed no velocity above that
limit is handed to `updateFilter`. An empty path is refused and changes
nothing. -/
theorem speed_limit_respected (hsqrt : LawfulSqrt fns) (initial : Server K) (messages : List K)
    (now : K) (currentPose : Option (Pose K)) (path : List (StampedPose K)) :
    let start := afterMessages params initial messages
    let v := max 1e-3 (limitInForce params initial.speedLimit messages)
    (path = [] → (generateTimedTrajectory fns now currentPose path).run start =
        .error (.invalidPath "Path is empty.") start) ∧
      (path ≠ [] → ∃ s, (generateTimedTrajectory fns now currentPose path).run start = .ok ⟨⟩ s ∧
        TimedWithin fns v path s) ∧
      ∀ r, (followSystem fns params start now currentPose path).Reach System.anyStep r →
        UpdatesWithin fns v r.server.updates := by
  intro start v
  have hv : 0 < v := lt_max_of_lt_left (by norm_num)
  have hlimit : max 1e-3 start.speedLimit = v := by
    simp only [start, afterMessages_eq, v]
  refine ⟨?_, ?_, fun r hr => ?_⟩
  · rintro rfl
    rfl
  · intro hne
    cases path with
    | nil => exact absurd rfl hne
    | cons p poses =>
      refine ⟨_, generateTimedTrajectory_cons p poses, timedWithin_timedPath hv hne rfl ?_⟩
      rw [hlimit]
  · refine hr.invariant (fun r => UpdatesWithin fns v r.server.updates ∧
      r.server.currentPath.IsChain (Spaced fns v)) (fun r hinit => ?_) ?_ |>.1
    · obtain ⟨-, -, hupdates, -, -, hpath⟩ := followSystem_init hinit
      rw [hupdates, hpath, hlimit]
      exact ⟨fun _ hmem => absurd hmem List.not_mem_nil, spaced_timedPath fns hv _ _⟩
    · rintro r l r' ⟨hwithin, hspaced⟩ - hstep
      cases l with
      | command reading =>
        obtain ⟨heffect, -⟩ := command_step hstep
        exact ⟨hwithin.effect hsqrt hv.le hspaced heffect, heffect.currentPath_eq ▸ hspaced⟩
      | speedLimit speedLimit =>
        cases hstep
        exact ⟨hwithin, hspaced⟩

end Speed

/-! ## Real numbers -/

/-- The functions on real numbers, with `slerp` for poses that look the same
way. -/
noncomputable def realFunctions : Functions ℝ where
  angles := realAngles
  sqrt := Real.sqrt
  slerp q _ _ := q
  setYaw := Ros.setRPY 0 0

theorem lawful_realFunctions : LawfulSqrt realFunctions where
  nonneg x _ := Real.sqrt_nonneg x
  mul_self _ hx := Real.mul_self_sqrt hx

/-- A pose with its stamp in seconds. -/
noncomputable def inSeconds (p : PoseStamped ℝ) : StampedPose ℝ :=
  ⟨⟨Px4.Double.seconds p.header.stamp, p.header.frameId⟩, p.pose⟩

/-- A pose of a trajectory that starts at zero, with its time in nanoseconds
after `startTime`. -/
def inNanoseconds (lib : TrajectoryLib ℝ) (startTime : Int) (p : ℝ × StampedPose ℝ) :
    Int × PoseStamped ℝ :=
  Controller.timedPose (startTime + lib.fromSeconds p.1) ⟨⟨0, p.2.header.frameId⟩, p.2.pose⟩

variable {fns : Functions ℝ} {lib : TrajectoryLib ℝ}

theorem stdMax_eq_max (a b : ℝ) : Px4.stdMax a b = max a b := by
  unfold Px4.stdMax
  split
  · next hlt => exact (max_eq_right (le_of_lt hlt)).symm
  · next hge => exact (max_eq_left (not_lt.mp hge)).symm

theorem segmentDuration_eq_exact (hsqrt : fns.sqrt = Real.sqrt) (v : ℝ) (p0 p1 : PoseStamped ℝ) :
    Controller.segmentDuration v p0 p1 =
      segmentDuration fns v (inSeconds p0) (inSeconds p1) := by
  rw [Controller.segmentDuration, stdMax_eq_max, segmentDuration, distance, hsqrt]
  rfl

/-- The loop. By induction on the poses that follow. -/
theorem timedPoses_eq_exact (hsqrt : fns.sqrt = Real.sqrt) (startTime : Int) (v : ℝ)
    (previous : PoseStamped ℝ) (accumulatedTime : ℝ) (poses : List (PoseStamped ℝ)) :
    Controller.timedPoses lib startTime v previous accumulatedTime poses =
      (timedPoses fns 0 v (inSeconds previous) accumulatedTime (poses.map inSeconds)).map
        (inNanoseconds lib startTime) := by
  induction poses generalizing previous accumulatedTime with
  | nil => rfl
  | cons p poses ih =>
    rw [Controller.timedPoses, ih, segmentDuration_eq_exact hsqrt, List.map_cons, timedPoses,
      List.map_cons, zero_add]
    rfl

/-- The trajectory in nanoseconds is the exact one that starts at zero, each
of its times rounded and counted from the start. -/
theorem timedTrajectory_eq_exact (hsqrt : fns.sqrt = Real.sqrt) (hzero : lib.fromSeconds 0 = 0)
    (now : Int) (speedLimit : ℝ) (path : List (PoseStamped ℝ)) :
    timedTrajectory lib now speedLimit path =
      (timedPath fns 0 (max 1e-3 speedLimit) (path.map inSeconds)).map
        (inNanoseconds lib (now + lib.fromSeconds 0.1)) := by
  cases path with
  | nil => rfl
  | cons p poses =>
    have hfirst : now + lib.fromSeconds 0.1 = now + lib.fromSeconds 0.1 + lib.fromSeconds 0 := by
      rw [hzero, add_zero]
    have hnone : (0.0 : ℝ) = 0 := by norm_num
    rw [timedTrajectory, List.map_cons, timedPath, List.map_cons, ← stdMax_eq_max, hnone,
      timedPoses_eq_exact hsqrt]
    congr 1
    rw [inNanoseconds, timedPose, ← hfirst]
    rfl

/-- The node after a message with a limit and one that is not positive. -/
noncomputable def backToDefault : Server ℝ :=
  afterMessages .defaults (unstarted realFunctions) [2, -1]

/-- The second message brings the default of 0.3 m/s back. -/
theorem speed_limit_respected_default :
    ∃ s, (generateTimedTrajectory realFunctions 0 none [levelPose 0, levelPose 1]).run
        backToDefault = .ok ⟨⟩ s ∧
      TimedWithin realFunctions 0.3 [levelPose 0, levelPose 1] s ∧
        ∀ r, (followSystem realFunctions .defaults backToDefault 0 none
            [levelPose 0, levelPose 1]).Reach System.anyStep r →
          UpdatesWithin realFunctions 0.3 r.server.updates := by
  have hlimit : max 1e-3 (limitInForce .defaults (unstarted realFunctions).speedLimit [2, -1]) =
      (0.3 : ℝ) := by
    norm_num [limitInForce, Params.defaults]
  obtain ⟨-, htimed, hupdates⟩ := speed_limit_respected .defaults lawful_realFunctions
    (unstarted realFunctions) [2, -1] 0 none [levelPose 0, levelPose 1]
  rw [hlimit] at htimed hupdates
  obtain ⟨s, hrun, hwithin⟩ := htimed (List.cons_ne_nil _ _)
  exact ⟨s, hrun, hwithin, hupdates⟩

end Nav3D.Controller.Exact

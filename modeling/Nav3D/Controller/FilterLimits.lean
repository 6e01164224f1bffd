/-
Nav3D.Controller.FilterLimits — which limits the reference filter keeps.

The limit on the velocity of a position axis is constant, so a state that
has been reached is within it, and the limits on the jerk and on the
acceleration survive the limits that are applied after them
(`linear_limits`). The limit on the yaw velocity shrinks with the yaw error:
a target that jumps close to the current yaw cuts the yaw velocity at once,
by more than the yaw acceleration allows (`yaw_velocity_cut`). How much it
can change, and when the acceleration accounts for it, is `yaw_limits`.
-/
import Nav3D.Controller.ReferenceFilter
import Nav3D.Ros.RealTf2
import Mathlib.Analysis.Real.Pi.Bounds

namespace Nav3D.Controller

open RateLimit Transition.System
open Nav3D.Px4 (Vec3 Pose Twist)

variable {K : Type} [Field K] [LinearOrder K] {params : FilterParams K} {angles : Angles K}

/-! ## One update -/

/-- A filter that has been reset takes an update with a positive `dt`. -/
theorem updateFilter_of_pos (params : FilterParams K) (angles : Angles K) {s : ReferenceFilter K}
    (hinit : s.filterInitialized = true) (targetPose : Pose K) (targetVel : Twist K) {dt : K}
    (hdt : 0 < dt) :
    (updateFilter params angles s targetPose targetVel dt).filterInitialized = true ∧
    (∀ i, (updateFilter params angles s targetPose targetVel dt).refState.axis i =
      updatedAxis params s.refState targetPose targetVel dt i) ∧
    (∀ i, (updateFilter params angles s targetPose targetVel dt).refState.pos i =
      s.refState.pos i + (updatedAxis params s.refState targetPose targetVel dt i).vel * dt) ∧
    (updateFilter params angles s targetPose targetVel dt).refState.yawMotion =
      updatedYaw params angles s.refState targetPose targetVel dt := by
  have hruns : ¬ (dt ≤ 0 ∨ s.filterInitialized = false) := by
    simp [hinit, not_le.mpr hdt]
  rw [updateFilter, if_neg hruns]
  exact ⟨hinit, fun _ => rfl, fun _ => rfl, rfl⟩

/-- An update with another `dt` does nothing. -/
theorem updateFilter_of_nonpos (s : ReferenceFilter K) (targetPose : Pose K) (targetVel : Twist K)
    {dt : K} (hdt : dt ≤ 0) : updateFilter params angles s targetPose targetVel dt = s := by
  simp [updateFilter, hdt]

/-- A motion is within the limits on the acceleration and the velocity. -/
def Within (accMax velMax : K) (motion : Motion K) : Prop :=
  |motion.acc| ≤ accMax ∧ |motion.vel| ≤ velMax

variable [IsStrictOrderedRing K]

theorem within_rest {accMax velMax : K} (hacc : 0 ≤ accMax) (hvel : 0 ≤ velMax) :
    Within accMax velMax ⟨0, 0⟩ := by
  simp [Within, hacc, hvel]

/-! ## The position axes -/

/-- What every state that is reached is like. -/
structure LinearInv (params : FilterParams K) (s : ReferenceFilter K) : Prop where
  initialized : s.filterInitialized = true
  within : ∀ i, Within params.refAccMax params.refVelMax (s.refState.axis i)

/-- One call keeps the limits. -/
theorem linearInv_step (hlimits : (linearLimits params).Nonneg) {s : ReferenceFilter K}
    (h : LinearInv params s) (l : FilterLabel K) :
    LinearInv params (filterStep params angles s l) := by
  cases l with
  | reset startPose => exact ⟨rfl, fun i => within_rest hlimits.acc hlimits.vel⟩
  | update targetPose targetVel dt =>
    rcases le_or_gt dt 0 with hdt | hdt
    · rw [filterStep, updateFilter_of_nonpos s targetPose targetVel hdt]
      exact h
    · obtain ⟨hinit, haxis, -, -⟩ := updateFilter_of_pos params angles
        h.initialized targetPose targetVel hdt
      refine ⟨hinit, fun i => ?_⟩
      rw [filterStep, haxis i]
      exact ⟨Limits.abs_step_acc_le hlimits.acc _ _ _, Limits.abs_step_vel_le hlimits.vel _ _ _⟩

theorem linearInv_of_reach (hlimits : (linearLimits params).Nonneg) {s : ReferenceFilter K}
    (h : (filterSystem params angles).Reach anyStep s) : LinearInv params s := by
  refine h.invariant (LinearInv params) ?_ ?_
  · rintro s ⟨startPose, rfl⟩
    exact ⟨rfl, fun i => within_rest hlimits.acc hlimits.vel⟩
  · intro s l s' hs _ hstep
    cases hstep
    exact linearInv_step hlimits hs l

/-- **Linear reference limits.** In every state reached from `resetFilter`
the acceleration and the velocity of each axis are within their limits, and
each update with a positive `dt` changes the acceleration, the velocity and
the position by no more than the next limit allows. -/
theorem linear_limits (hjerk : 0 ≤ params.refJerkMax) (hacc : 0 ≤ params.refAccMax)
    (hvel : 0 ≤ params.refVelMax) {s : ReferenceFilter K}
    (h : (filterSystem params angles).Reach anyStep s) :
    (∀ i, |s.refState.acc i| ≤ params.refAccMax ∧ |s.refState.vel i| ≤ params.refVelMax) ∧
    ∀ targetPose targetVel dt, 0 < dt → ∀ i,
      let s' := updateFilter params angles s targetPose targetVel dt
      |s'.refState.acc i - s.refState.acc i| ≤ params.refJerkMax * dt ∧
      |s'.refState.vel i - s.refState.vel i| ≤ params.refAccMax * dt ∧
      |s'.refState.pos i - s.refState.pos i| ≤ params.refVelMax * dt := by
  have hlimits : (linearLimits params).Nonneg := ⟨hjerk, hacc, hvel⟩
  have hinv := linearInv_of_reach hlimits h
  refine ⟨hinv.within, fun targetPose targetVel dt hdt i => ?_⟩
  obtain ⟨-, haxis, hpos, -⟩ := updateFilter_of_pos params angles
    hinv.initialized targetPose targetVel hdt
  obtain ⟨hvel', hacc'⟩ := Motion.mk.inj (haxis i)
  refine ⟨?_, ?_, ?_⟩
  · rw [hacc']
    exact Limits.abs_step_acc_sub_le hlimits hdt _ (hinv.within i).1
  · rw [hvel']
    -- the velocity before the update does not exceed its limit
    have hexceeds : |(s.refState.axis i).vel| - params.refVelMax ≤ params.refAccMax * dt := by
      linarith [(hinv.within i).2, mul_nonneg hacc hdt.le]
    exact (Limits.abs_step_vel_sub_le_iff hlimits hdt _ _).mpr hexceeds
  · rw [hpos i, add_sub_cancel_left, abs_mul, abs_of_pos hdt]
    exact mul_le_mul_of_nonneg_right (Limits.abs_step_vel_le hvel _ _ _) hdt.le

/-- The filter on the real numbers. -/
noncomputable def realAngles : Angles ℝ where
  getYaw := Ros.getYaw
  normalizeAngle := PlaneAngle.normalizeAngle

/-- A pose at the origin, turned about the vertical axis. -/
def turned (z w : ℝ) : Pose ℝ := ⟨⟨0, 0, 0⟩, ⟨0, 0, z, w⟩⟩

/-- A target velocity of the yaw alone. -/
def turning (rate : ℝ) : Twist ℝ := ⟨⟨0, 0, 0⟩, ⟨0, 0, rate⟩⟩

/-- The filter on the real numbers after a reset. -/
theorem reach_reset (params : FilterParams ℝ) (startPose : Pose ℝ) :
    (filterSystem params realAngles).Reach anyStep (resetFilter realAngles startPose) :=
  .init ⟨startPose, rfl⟩

/-- A pose five metres ahead of the origin. -/
def ahead : Pose ℝ := ⟨⟨5, 0, 0⟩, ⟨0, 0, 0, 1⟩⟩

/-- A step with the defaults whose desired acceleration is out of reach. -/
theorem defaults_step {vel acc desired : ℝ} (hacc : 0 ≤ acc ∧ acc ≤ 1 / 2)
    (hvel : 0 ≤ vel ∧ vel ≤ 1) (hdesired : 1 ≤ desired) :
    (linearLimits FilterParams.defaults).step (1 / 50) desired ⟨vel, acc⟩ =
      ⟨vel + (acc + 7 / 1000) / 50, acc + 7 / 1000⟩ := by
  have hjerk : limit (0.35 : ℝ) ((desired - acc) / (1 / 50)) = 0.35 := by
    refine limit_of_lt (by norm_num) ?_
    norm_num
    linarith [hacc.2]
  have hacc' : limit (0.75 : ℝ) (acc + 0.35 * (1 / 50)) = acc + 7 / 1000 := by
    rw [limit_of_abs_le]
    · norm_num
    · rw [abs_of_nonneg (by linarith [hacc.1])]
      norm_num
      linarith [hacc.2]
  have hvel' : limit (1.5 : ℝ) (vel + (acc + 7 / 1000) * (1 / 50)) =
      vel + (acc + 7 / 1000) / 50 := by
    rw [limit_of_abs_le]
    · ring
    · rw [abs_of_nonneg (by linarith [hacc.1, hvel.1])]
      norm_num
      linarith [hacc.2, hvel.2]
  simp only [Limits.step, linearLimits, FilterParams.defaults, hjerk, hacc', hvel']

/-- The second update towards a target five metres ahead, with the defaults.
The jerk is at its limit in both. -/
theorem linear_limits_defaults :
    ∃ s, (filterSystem FilterParams.defaults realAngles).Reach anyStep s ∧
      s.refState.axis 0 = ⟨7 / 50000, 7 / 1000⟩ ∧
      (|s.refState.acc 0| ≤ 0.75 ∧ |s.refState.vel 0| ≤ 1.5) ∧
      let s' := updateFilter FilterParams.defaults realAngles s ahead (turning 0) (1 / 50)
      s'.refState.axis 0 = ⟨21 / 50000, 14 / 1000⟩ ∧
      |s'.refState.acc 0 - s.refState.acc 0| ≤ 0.35 * (1 / 50) ∧
      |s'.refState.vel 0 - s.refState.vel 0| ≤ 0.75 * (1 / 50) ∧
      |s'.refState.pos 0 - s.refState.pos 0| ≤ 1.5 * (1 / 50) := by
  let s₀ := resetFilter realAngles (turned 0 1)
  let s := updateFilter FilterParams.defaults realAngles s₀ ahead (turning 0) (1 / 50)
  have hreach : (filterSystem FilterParams.defaults realAngles).Reach anyStep s :=
    .step (l := .update ahead (turning 0) (1 / 50)) (reach_reset FilterParams.defaults (turned 0 1))
      trivial rfl
  obtain ⟨hinit, haxis, hpos, -⟩ := updateFilter_of_pos FilterParams.defaults realAngles
    (s := s₀) rfl ahead (turning 0) (show (0 : ℝ) < 1 / 50 by norm_num)
  have hfirst : updatedAxis FilterParams.defaults s₀.refState ahead (turning 0) (1 / 50) 0 =
      ⟨7 / 50000, 7 / 1000⟩ := by
    have hdesired : (1 : ℝ) ≤ desiredAcc FilterParams.defaults s₀.refState
        (eigenVector ahead.position) (eigenVector (turning 0).linear) 0 := by
      simp [s₀, desiredAcc, resetFilter, eigenVector, ahead, turned, turning, FilterParams.defaults]
    have hstep := @defaults_step 0 0 _ (by norm_num) (by norm_num) hdesired
    norm_num at hstep
    exact hstep
  have haxis₀ : s.refState.axis 0 = ⟨7 / 50000, 7 / 1000⟩ := (haxis 0).trans hfirst
  have hpos₀ : s.refState.pos 0 = 7 / 2500000 := by
    rw [hpos 0, hfirst]
    norm_num [s₀, resetFilter, eigenVector, turned]
  have hsecond : updatedAxis FilterParams.defaults s.refState ahead (turning 0) (1 / 50) 0 =
      ⟨21 / 50000, 14 / 1000⟩ := by
    have hvel₀ : s.refState.vel 0 = 7 / 50000 := congrArg Motion.vel haxis₀
    have hdesired : (1 : ℝ) ≤ desiredAcc FilterParams.defaults s.refState
        (eigenVector ahead.position) (eigenVector (turning 0).linear) 0 := by
      simp only [desiredAcc, Pi.sub_apply, Pi.smul_apply, smul_eq_mul, hpos₀, hvel₀]
      norm_num [eigenVector, ahead, turning, FilterParams.defaults]
    rw [updatedAxis, haxis₀, defaults_step (by norm_num) (by norm_num) hdesired]
    norm_num
  obtain ⟨hwithin, hstep⟩ := linear_limits (by norm_num [FilterParams.defaults])
    (by norm_num [FilterParams.defaults]) (by norm_num [FilterParams.defaults]) hreach
  refine ⟨s, hreach, haxis₀, hwithin 0, ?_, hstep ahead (turning 0) (1 / 50) (by norm_num) 0⟩
  exact ((updateFilter_of_pos FilterParams.defaults realAngles hinit ahead (turning 0)
    (by norm_num)).2.1 0).trans hsecond

/-! ## The yaw -/

/-- The limit on the yaw velocity is the largest one or below it. -/
theorem yawVelLimit_mem (hvel : 0 ≤ params.refYawVelMax) (yawError : K) :
    0 ≤ yawVelLimit params yawError ∧ yawVelLimit params yawError ≤ params.refYawVelMax := by
  unfold yawVelLimit
  split
  · next hsmall =>
    have hratio : |yawError| / 0.2 ≤ 1 := (div_le_one (by norm_num)).mpr hsmall.le
    have hmax : max 0.1 (|yawError| / 0.2) ≤ (1 : K) := max_le (by norm_num) hratio
    have hmax0 : (0 : K) ≤ max 0.1 (|yawError| / 0.2) := le_max_of_le_left (by norm_num)
    exact ⟨mul_nonneg hvel hmax0, mul_le_of_le_one_right hvel hmax⟩
  · exact ⟨hvel, le_refl _⟩

/-- The acceleration accounts for the change of the yaw velocity exactly if
the velocity does not exceed the limit for the yaw error by more. -/
theorem yawVel_sub_le_iff (hjerk : 0 ≤ params.refYawJerkMax) (hacc : 0 ≤ params.refYawAccMax)
    (hvel : 0 ≤ params.refYawVelMax) {s : ReferenceFilter K} (hinit : s.filterInitialized = true)
    (targetPose : Pose K) (targetVel : Twist K) {dt : K} (hdt : 0 < dt) :
    |(updateFilter params angles s targetPose targetVel dt).refState.yawVel - s.refState.yawVel| ≤
        params.refYawAccMax * dt ↔
      |s.refState.yawVel| - yawVelLimit params (yawError angles s.refState targetPose) ≤
        params.refYawAccMax * dt := by
  obtain ⟨-, -, -, hyaw⟩ := updateFilter_of_pos params angles hinit targetPose targetVel hdt
  have hlimit := (yawVelLimit_mem hvel (yawError angles s.refState targetPose)).1
  have hlimits : (yawLimits params (yawError angles s.refState targetPose)).Nonneg :=
    ⟨hjerk, hacc, hlimit⟩
  rw [(Motion.mk.inj hyaw).1]
  exact Limits.abs_step_vel_sub_le_iff hlimits hdt _ _

structure YawInv (params : FilterParams K) (s : ReferenceFilter K) : Prop where
  initialized : s.filterInitialized = true
  within : Within params.refYawAccMax params.refYawVelMax s.refState.yawMotion

theorem yawInv_step (hacc : 0 ≤ params.refYawAccMax) (hvel : 0 ≤ params.refYawVelMax)
    {s : ReferenceFilter K} (h : YawInv params s) (l : FilterLabel K) :
    YawInv params (filterStep params angles s l) := by
  cases l with
  | reset startPose => exact ⟨rfl, within_rest hacc hvel⟩
  | update targetPose targetVel dt =>
    rcases le_or_gt dt 0 with hdt | hdt
    · rw [filterStep, updateFilter_of_nonpos s targetPose targetVel hdt]
      exact h
    · obtain ⟨hinit, -, -, hyaw⟩ := updateFilter_of_pos params angles
        h.initialized targetPose targetVel hdt
      obtain ⟨hlimit, hle⟩ := yawVelLimit_mem hvel (yawError angles s.refState targetPose)
      refine ⟨hinit, ?_⟩
      rw [filterStep, hyaw]
      exact ⟨Limits.abs_step_acc_le hacc _ _ _, (Limits.abs_step_vel_le hlimit _ _ _).trans hle⟩

theorem yawInv_of_reach (hacc : 0 ≤ params.refYawAccMax) (hvel : 0 ≤ params.refYawVelMax)
    {s : ReferenceFilter K} (h : (filterSystem params angles).Reach anyStep s) :
    YawInv params s := by
  refine h.invariant (YawInv params) ?_ ?_
  · rintro s ⟨startPose, rfl⟩
    exact ⟨rfl, within_rest hacc hvel⟩
  · intro s l s' hs _ hstep
    cases hstep
    exact yawInv_step hacc hvel hs l

/-- **Yaw reference limits.** In every state reached from `resetFilter` the
yaw acceleration and velocity are within their limits. An update changes the
yaw acceleration by no more than the jerk allows and leaves the yaw velocity
within the limit for the yaw error. It changes the yaw velocity by no more
than the acceleration allows or by what the velocity exceeded that limit, so
the acceleration accounts for the change exactly if the velocity did not
exceed it by more. -/
theorem yaw_limits (hjerk : 0 ≤ params.refYawJerkMax) (hacc : 0 ≤ params.refYawAccMax)
    (hvel : 0 ≤ params.refYawVelMax) {s : ReferenceFilter K}
    (h : (filterSystem params angles).Reach anyStep s) :
    (|s.refState.yawAcc| ≤ params.refYawAccMax ∧ |s.refState.yawVel| ≤ params.refYawVelMax) ∧
    ∀ targetPose targetVel dt, 0 < dt →
      let s' := updateFilter params angles s targetPose targetVel dt
      let limit := yawVelLimit params (yawError angles s.refState targetPose)
      |s'.refState.yawAcc| ≤ params.refYawAccMax ∧
      |s'.refState.yawVel| ≤ limit ∧ limit ≤ params.refYawVelMax ∧
      |s'.refState.yawAcc - s.refState.yawAcc| ≤ params.refYawJerkMax * dt ∧
      |s'.refState.yawVel - s.refState.yawVel| ≤
        max (params.refYawAccMax * dt) (|s.refState.yawVel| - limit) ∧
      (|s'.refState.yawVel - s.refState.yawVel| ≤ params.refYawAccMax * dt ↔
        |s.refState.yawVel| - limit ≤ params.refYawAccMax * dt) := by
  have hinv := yawInv_of_reach hacc hvel h
  refine ⟨hinv.within, fun targetPose targetVel dt hdt => ?_⟩
  obtain ⟨-, -, -, hyaw⟩ := updateFilter_of_pos params angles
    hinv.initialized targetPose targetVel hdt
  obtain ⟨hvel', hacc'⟩ := Motion.mk.inj hyaw
  obtain ⟨hlimit, hle⟩ := yawVelLimit_mem hvel (yawError angles s.refState targetPose)
  have hlimits : (yawLimits params (yawError angles s.refState targetPose)).Nonneg :=
    ⟨hjerk, hacc, hlimit⟩
  intro s' limit
  rw [hacc', hvel']
  refine ⟨Limits.abs_step_acc_le hacc _ _ _, Limits.abs_step_vel_le hlimit _ _ _, hle, ?_, ?_, ?_⟩
  · exact Limits.abs_step_acc_sub_le hlimits hdt _ hinv.within.1
  · exact Limits.abs_step_vel_sub_le hlimits hdt _ _
  · rw [← hvel']
    exact yawVel_sub_le_iff hjerk hacc hvel hinv.initialized targetPose targetVel hdt

/-- The first update after a reset, with the defaults. -/
theorem yaw_limits_defaults :
    let s := resetFilter realAngles (turned 0 1)
    let s' := updateFilter FilterParams.defaults realAngles s (turned 1 0) (turning 0) (1 / 50)
    |s'.refState.yawAcc| ≤ 0.75 ∧ |s'.refState.yawAcc - s.refState.yawAcc| ≤ 0.35 * (1 / 50) := by
  have hlimits := (yaw_limits (by norm_num [FilterParams.defaults])
    (by norm_num [FilterParams.defaults]) (by norm_num [FilterParams.defaults])
    (reach_reset FilterParams.defaults (turned 0 1))).2 (turned 1 0) (turning 0) (1 / 50)
    (by norm_num)
  exact ⟨hlimits.1, hlimits.2.2.2.1⟩

/-! ### A target that jumps -/

/-- Limits of a fast yaw. -/
noncomputable def fastYaw : FilterParams ℝ where
  refJerkMax := 1
  refAccMax := 1
  refVelMax := 1
  refOmega := 1
  refZita := 1 / 2
  refYawJerkMax := 10
  refYawAccMax := 1
  refYawVelMax := 2

/-- The yaw and its motion. -/
structure TurnsAt (yaw vel acc : ℝ) (s : ReferenceFilter ℝ) : Prop where
  initialized : s.filterInitialized = true
  yaw : s.refState.yaw = yaw
  motion : s.refState.yawMotion = ⟨vel, acc⟩

/-- A step whose desired acceleration is out of reach. -/
theorem fastYaw_step {vel acc velMax desired : ℝ} (hacc : 0 ≤ acc ∧ acc ≤ 1) (hvel : 0 ≤ vel)
    (hmax : vel + 1 / 2 ≤ velMax) (hdesired : 10 ≤ desired) :
    Limits.step ⟨10, 1, velMax⟩ (1 / 2) desired ⟨vel, acc⟩ = ⟨vel + 1 / 2, 1⟩ := by
  have hjerk : limit (10 : ℝ) ((desired - acc) / (1 / 2)) = 10 :=
    limit_of_lt (by norm_num) (by linarith [hacc.2])
  have hcut : limit (1 : ℝ) (acc + 10 * (1 / 2)) = 1 :=
    limit_of_lt (by norm_num) (by linarith [hacc.1])
  have hfree : |vel + 1 * (1 / 2)| ≤ velMax := by
    rw [abs_of_nonneg (by linarith)]
    linarith
  simp only [Limits.step, hjerk, hcut, limit_of_abs_le hfree]
  norm_num

/-- The error of a yaw that is not far from the target. -/
theorem yawError_of_turnsAt {s : ReferenceFilter ℝ} {yaw vel acc target z w : ℝ}
    (h : TurnsAt yaw vel acc s) (hyaw : 0 ≤ yaw ∧ yaw ≤ target) (htarget : target ≤ Real.pi)
    (hpose : Ros.getYaw (turned z w).orientation = target) :
    yawError realAngles s.refState (turned z w) = target - yaw := by
  have hpi := Real.pi_pos
  have hsame : ∀ angle, 0 ≤ angle → angle ≤ Real.pi → PlaneAngle.normalizeAngle angle = angle :=
    fun angle hlow hhigh => PlaneAngle.normalizeAngle_of_mem ⟨by linarith, hhigh⟩
  simp only [yawError, Angles.shortestAngularDistance, realAngles, hpose, h.yaw]
  rw [hsame yaw hyaw.1 (by linarith), hsame target (by linarith) htarget,
    hsame (target - yaw) (by linarith) (by linarith)]

theorem getYaw_opposite : Ros.getYaw (turned 1 0).orientation = Real.pi := by
  rw [turned, Ros.getYaw_vertical]
  norm_num [PlaneAngle.atan2_zero_of_neg]

theorem getYaw_left : Ros.getYaw (turned 1 1).orientation = Real.pi / 2 := by
  rw [turned, Ros.getYaw_vertical]
  norm_num [PlaneAngle.atan2_pos_zero]

/-- The yaw speeds up as long as the target is far. -/
theorem turnsAt_update {s : ReferenceFilter ℝ} {yaw vel acc : ℝ} (h : TurnsAt yaw vel acc s)
    (hyaw : 0 ≤ yaw ∧ yaw ≤ 1) (hvel : 0 ≤ vel ∧ vel ≤ 1) (hacc : 0 ≤ acc ∧ acc ≤ 1) :
    TurnsAt (yaw + (vel + 1 / 2) * (1 / 2)) (vel + 1 / 2) 1
      (updateFilter fastYaw realAngles s (turned 1 0) (turning 100) (1 / 2)) := by
  have hpi := Real.pi_gt_three
  have herror : yawError realAngles s.refState (turned 1 0) = Real.pi - yaw :=
    yawError_of_turnsAt h ⟨hyaw.1, by linarith⟩ (le_refl _) getYaw_opposite
  have hfar : ¬ |Real.pi - yaw| < 0.2 := by
    rw [abs_of_nonneg (by linarith), not_lt]
    norm_num
    linarith [hyaw.2]
  have hvel' : s.refState.yawVel = vel := congrArg Motion.vel h.motion
  -- the target velocity asks for more than the jerk allows
  have hmotion : updatedYaw fastYaw realAngles s.refState (turned 1 0) (turning 100) (1 / 2) =
      ⟨vel + 1 / 2, 1⟩ := by
    simp only [updatedYaw, yawLimits, yawVelLimit, herror, if_neg hfar, h.motion]
    refine fastYaw_step hacc hvel.1 ?_ ?_
    · simp only [fastYaw]
      linarith [hvel.2]
    · simp only [desiredYawAcc, fastYaw, turning, hvel']
      norm_num
      linarith [hyaw.2, hvel.2]
  have hsame : ∀ angle, 0 ≤ angle → angle ≤ 3 → PlaneAngle.normalizeAngle angle = angle :=
    fun angle hlow hhigh => PlaneAngle.normalizeAngle_of_mem ⟨by linarith, by linarith⟩
  have hruns : ¬ ((1 / 2 : ℝ) ≤ 0 ∨ s.filterInitialized = false) := by
    simp [h.initialized]
  rw [updateFilter, if_neg hruns]
  refine ⟨h.initialized, ?_, hmotion⟩
  have hturned : PlaneAngle.normalizeAngle
      (PlaneAngle.normalizeAngle s.refState.yaw + (vel + 1 / 2) * (1 / 2)) =
        yaw + (vel + 1 / 2) * (1 / 2) := by
    rw [h.yaw, hsame yaw hyaw.1 (by linarith), hsame _ (by linarith) (by linarith)]
  simp only [hmotion]
  exact hturned

/-- The filter after a reset and three updates. -/
noncomputable def spedUp : ReferenceFilter ℝ :=
  let update s := updateFilter fastYaw realAngles s (turned 1 0) (turning 100) (1 / 2)
  update (update (update (resetFilter realAngles (turned 0 1))))

theorem turnsAt_spedUp : TurnsAt (3 / 2) (3 / 2) 1 spedUp := by
  have hstart : TurnsAt 0 0 0 (resetFilter realAngles (turned 0 1)) := by
    refine ⟨rfl, ?_, rfl⟩
    simp [resetFilter, realAngles, turned, Ros.getYaw_vertical, PlaneAngle.atan2_zero]
  have hfirst := turnsAt_update hstart (by norm_num) (by norm_num) (by norm_num)
  have hsecond := turnsAt_update hfirst (by norm_num) (by norm_num) (by norm_num)
  have hthird := turnsAt_update hsecond (by norm_num) (by norm_num) (by norm_num)
  norm_num at hthird
  simpa only [spedUp, one_div] using hthird

theorem reach_spedUp : (filterSystem fastYaw realAngles).Reach anyStep spedUp := by
  have hupdate : ∀ s, (filterSystem fastYaw realAngles).Reach anyStep s →
      (filterSystem fastYaw realAngles).Reach anyStep
        (updateFilter fastYaw realAngles s (turned 1 0) (turning 100) (1 / 2)) :=
    fun s hs => .step (l := .update (turned 1 0) (turning 100) (1 / 2)) hs trivial rfl
  exact hupdate _ (hupdate _ (hupdate _ (reach_reset fastYaw (turned 0 1))))

/-- A target that jumps close to the current yaw changes the yaw velocity by
more than the yaw acceleration allows. -/
theorem yaw_velocity_cut :
    ¬ ∀ params : FilterParams ℝ, 0 ≤ params.refYawJerkMax → 0 ≤ params.refYawAccMax →
      0 ≤ params.refYawVelMax → ∀ s, (filterSystem params realAngles).Reach anyStep s →
        ∀ targetPose targetVel dt, 0 < dt →
          |(updateFilter params realAngles s targetPose targetVel dt).refState.yawVel -
            s.refState.yawVel| ≤ params.refYawAccMax * dt := by
  intro hclaim
  have hle := hclaim fastYaw (by norm_num [fastYaw]) (by norm_num [fastYaw])
    (by norm_num [fastYaw]) spedUp reach_spedUp (turned 1 1) (turning 0) (1 / 2) (by norm_num)
  have hvel : spedUp.refState.yawVel = 3 / 2 := congrArg Motion.vel turnsAt_spedUp.motion
  have herror : yawError realAngles spedUp.refState (turned 1 1) = Real.pi / 2 - 3 / 2 :=
    yawError_of_turnsAt turnsAt_spedUp ⟨by norm_num, by linarith [Real.pi_gt_three]⟩
      (by linarith [Real.pi_pos]) getYaw_left
  -- the limit for this error is less than half of the velocity
  have hlimit : yawVelLimit fastYaw (Real.pi / 2 - 3 / 2) ≤ 0.75 := by
    have hsmall : |Real.pi / 2 - 3 / 2| ≤ 0.075 := by
      rw [abs_of_nonneg (by linarith [Real.pi_gt_three])]
      linarith [Real.pi_lt_d2]
    have hratio : |Real.pi / 2 - 3 / 2| / 0.2 ≤ 0.375 := by
      rw [div_le_iff₀ (by norm_num)]
      linarith
    have hmax : max 0.1 (|Real.pi / 2 - 3 / 2| / 0.2) ≤ 0.375 := max_le (by norm_num) hratio
    rw [yawVelLimit, if_pos (by linarith)]
    simp only [fastYaw]
    linarith
  have hcut := (yawVel_sub_le_iff (by norm_num [fastYaw]) (by norm_num [fastYaw])
    (by norm_num [fastYaw]) turnsAt_spedUp.initialized (turned 1 1) (turning 0)
    (by norm_num)).mp hle
  rw [hvel, herror] at hcut
  norm_num [fastYaw] at hcut hlimit
  linarith

end Nav3D.Controller

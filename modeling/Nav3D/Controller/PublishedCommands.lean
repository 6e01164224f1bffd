/-
Nav3D.Controller.PublishedCommands — the setpoints that the controller
server publishes (`controller_server.cpp`).

The setpoints are those of the reference filter, which starts again with
each trajectory and, before the first stamp of a trajectory, with each
command. Over any order of configurations, trajectories, commands and
messages every setpoint is within the limits of the filter
(`commands_within_limits`). From one setpoint to the next the position and
the acceleration change by no more than the limits allow, the velocity also
does unless one of the two is a stop, and after a restart the filter begins
at rest at the pose that it has been given (`commands_smooth`). No command
reads outside of `current_path_`.

A stop replaces only what is published: the filter keeps its velocity.
-/
import Nav3D.Controller.FilterLimits
import Nav3D.Controller.SampledPath

namespace Nav3D.Controller.Exact

open StateInvariant Transition RateLimit
open Nav3D.Px4 (Vec3 Pose Twist)

/-- A setpoint that has been published, and the pose at which the filter has
started again since the one before, if it has. -/
structure Published (K : Type) where
  setpoint : Setpoint K
  restart : Option (Pose K)

/-- The node and what it has published, newest first. `restart` is the pose
at which the filter has started again since. -/
structure Commander (K : Type) where
  server : Server K
  restart : Option (Pose K)
  published : List (Published K)

/-- What happens to the node. -/
inductive CommanderLabel (K : Type) where
  /-- `on_configure()`. -/
  | configure
  | generate (now : K) (currentPose : Option (Pose K)) (path : List (StampedPose K))
  /-- `current_path_.clear()`, when a goal is accepted or has been reached. -/
  | clear
  /-- `getCurrentCommand()`, and its command is published. -/
  | command (reading : Reading K)
  | speedLimit (speedLimit : K)

section Commander

variable {K : Type} [Field K] [LinearOrder K] (fns : Functions K) (params : Params K)

/-- The members after `on_configure()`. -/
def configured : Server K where
  currentPath := []
  currentWaypointIndex := 0
  pathStartTime := 0
  speedLimit := params.defaultSpeedLimit
  filter := ⟨⟨0, 0, 0, 0, 0, 0⟩, false⟩
  updates := []

/-- Without a path there is nothing to follow. -/
def Server.clear (s : Server K) : Server K :=
  { s with currentPath := [], currentWaypointIndex := 0 }

/-- The pose at which `getCurrentCommand()` has started the filter again, or
that it has been started at before. -/
def restartBefore (reading : Reading K) (s : Server K) (restart : Option (Pose K)) :
    Option (Pose K) :=
  if s.currentPath.head?.any fun front => reading.now ≤ front.1 then
    reading.currentPose.or restart
  else restart

/-- The command is published if there is one. -/
def publish (out : Option (Setpoint K)) (restart : Option (Pose K)) (s : Server K)
    (published : List (Published K)) : Commander K :=
  match out with
  | none => ⟨s, restart, published⟩
  | some setpoint => ⟨s, none, ⟨setpoint, restart⟩ :: published⟩

def commanderStep (r : Commander K) : CommanderLabel K → Option (Commander K)
  | .configure => some { r with server := configured params, restart := none }
  | .generate now currentPose path =>
    match (generateTimedTrajectory fns now currentPose path).run r.server with
    | .ok _ s => some { r with
        server := s
        restart := currentPose.or (path.head?.map (·.pose)) }
    | .error _ s => some { r with server := s }
  | .clear => some { r with server := r.server.clear }
  | .command reading =>
    match (getCurrentCommand fns params reading).run r.server with
    | .ok out s => some (publish out (restartBefore reading r.server r.restart) s r.published)
    | .error _ _ => none
  | .speedLimit speedLimit =>
    some { r with server := speedLimitCallback params speedLimit r.server }

/-- The life of the node from its first configuration on. -/
def commanderSystem : System (Commander K) (CommanderLabel K) where
  init := fun r => r = ⟨configured params, none, []⟩
  step := commanderStep fns params

/-! ## What a command publishes -/

/-- The `dt` of the filter. -/
def Params.dt : K := 1 / max 1e-3 params.controllerFrequency

/-- The ways a call of `getCurrentCommand()` may go, and its command. -/
inductive CommandOutput (reading : Reading K) (s : Server K) :
    Option (Setpoint K) → Server K → Prop where
  | noPath : s.currentPath = [] → CommandOutput reading s none s
  | before (front : K × StampedPose K) :
      s.currentPath.head? = some front → reading.now ≤ front.1 →
        CommandOutput reading s
          (some (getFilteredSetpoint fns reading.later (resetAtPose fns reading.currentPose s)))
          (resetAtPose fns reading.currentPose s)
  | update (front : K × StampedPose K) (j : Nat) (u : Update K) (out : Setpoint K) :
      s.currentPath.head? = some front → front.1 < reading.now →
        (j = s.currentWaypointIndex ∨ j + 1 < s.currentPath.length) →
          (out = getFilteredSetpoint fns reading.later
              ({ s with currentWaypointIndex := j }.updateFilter fns params u) ∨
            out = (getFilteredSetpoint fns reading.later
              ({ s with currentWaypointIndex := j }.updateFilter fns params u)).stopped) →
            CommandOutput reading s (some out)
              ({ s with currentWaypointIndex := j }.updateFilter fns params u)

theorem triple_commandAtGoal {reading : Reading K} {s : Server K} {front : K × StampedPose K}
    (goal : StampedPose K) (hhead : s.currentPath.head? = some front)
    (hafter : front.1 < reading.now) :
    Triple (· = s) (commandAtGoal fns params reading goal)
      (CommandOutput fns params reading s) (fun _ _ => OutOfRange reading s) := by
  let u : Update K := ⟨reading.now, none, goal.pose, ⟨⟨0, 0, 0⟩, ⟨0, 0, 0⟩⟩⟩
  refine triple_bind (Q := fun _ s' => s' = s.updateFilter fns params u) (triple_modify ?_)
    fun _ => triple_get_bind fun s' hs' => ?_
  · intro _ hs
    rw [hs]
  · intro s'' hs''
    subst hs'' hs'
    show CommandOutput fns params reading s (ite _ _ _) _
    split
    · exact .update front s.currentWaypointIndex u _ hhead hafter (.inl rfl) (.inr rfl)
    · exact .update front s.currentWaypointIndex u _ hhead hafter (.inl rfl) (.inl rfl)

theorem triple_commandOnPath {reading : Reading K} {s : Server K}
    {front back : K × StampedPose K} (hhead : s.currentPath.head? = some front)
    (hlast : s.currentPath.getLast? = some back) (hafter : front.1 < reading.now)
    (hbefore : reading.now < back.1) :
    Triple (· = s) (commandOnPath fns params reading back.2)
      (CommandOutput fns params reading s) (fun _ _ => OutOfRange reading s) := by
  let j := advanceIndex s.currentPath reading.now s.currentWaypointIndex
  refine triple_bind (Q := fun _ s' => s' = { s with currentWaypointIndex := j })
    (triple_modify ?_) fun _ => triple_get_bind fun s' hs' => ?_
  · intro _ hs
    rw [hs]
  · subst hs'
    split
    · next a b ha hb =>
      let pose := targetPose fns reading.now a b
      let u : Update K := ⟨reading.now, some (a, b), pose,
        targetVel fns params (distance fns back.2.pose.position pose.position) a b⟩
      refine triple_bind
        (Q := fun _ s' => s' = { s with currentWaypointIndex := j }.updateFilter fns params u)
        (triple_modify ?_) fun _ => triple_get_bind fun s' hs' => ?_
      · intro _ hs
        rw [hs]
      · have hj : j = s.currentWaypointIndex ∨ j + 1 < s.currentPath.length :=
          .inr (List.getElem?_eq_some_iff.mp hb).1
        intro s'' hs''
        subst hs'' hs'
        show CommandOutput fns params reading s (ite _ _ _) _
        split
        · exact .update front j u _ hhead hafter hj (.inr rfl)
        · exact .update front j u _ hhead hafter hj (.inl rfl)
    · next hnone =>
      refine triple_throw fun _ _ => ⟨front, back, hhead, hlast, hafter, hbefore, ?_⟩
      by_contra hlt
      rw [not_le] at hlt
      exact hnone _ _ (List.getElem?_eq_getElem (Nat.lt_of_succ_lt hlt))
        (List.getElem?_eq_getElem hlt)

theorem triple_command (reading : Reading K) (s : Server K) :
    Triple (· = s) (getCurrentCommand fns params reading)
      (CommandOutput fns params reading s) (fun _ _ => OutOfRange reading s) := by
  refine triple_get_bind fun s' hs' => ?_
  subst hs'
  cases hhead : s'.currentPath.head? with
  | none =>
    refine triple_pure fun s hs => ?_
    subst hs
    exact .noPath (List.head?_eq_none_iff.mp hhead)
  | some front =>
    cases hlast : s'.currentPath.getLast? with
    | none =>
      refine triple_pure fun s hs => ?_
      subst hs
      exact .noPath (List.getLast?_eq_none_iff.mp hlast)
    | some back =>
      refine triple_ite (fun hbefore => ?_) (fun hafter => triple_ite (fun hgoal => ?_)
        (fun hpath => ?_))
      · refine triple_bind (Q := fun _ s => s = resetAtPose fns reading.currentPose s')
          (triple_modify ?_) fun _ => triple_get_bind fun s hs => triple_pure fun s'' hs'' => ?_
        · intro _ hs
          rw [hs]
        · subst hs'' hs
          exact .before front hhead hbefore
      · exact triple_commandAtGoal fns params back.2 hhead (not_le.mp hafter)
      · exact triple_commandOnPath fns params hhead hlast (not_le.mp hafter) (not_le.mp hpath)

/-! ## Setpoints -/

variable {fns params}

def Setpoint.pos (out : Setpoint K) : Fin 3 → K := eigenVector out.pose.position
def Setpoint.vel (out : Setpoint K) : Fin 3 → K := eigenVector out.velocity.linear
def Setpoint.acc (out : Setpoint K) : Fin 3 → K := eigenVector out.acceleration.linear
def Setpoint.yawVel (out : Setpoint K) : K := out.velocity.angular.z

/-- A setpoint is within the limits of the filter. -/
structure WithinLimits (params : FilterParams K) (out : Setpoint K) : Prop where
  vel : ∀ i, |out.vel i| ≤ params.refVelMax
  acc : ∀ i, |out.acc i| ≤ params.refAccMax
  yawVel : |out.yawVel| ≤ params.refYawVelMax

/-- The first setpoint after the filter has started at a pose. -/
structure StartsAt (params : FilterParams K) (dt : K) (start : Pose K) (out : Setpoint K) :
    Prop where
  acc : ∀ i, |out.acc i| ≤ params.refJerkMax * dt
  vel : ∀ i, |out.vel i| ≤ params.refAccMax * dt
  pos : ∀ i, |out.pos i - eigenVector start.position i| ≤ params.refVelMax * dt

/-- A setpoint after another, without a start in between. The velocity jumps
only when one of them is a stop. -/
structure Continues (params : FilterParams K) (dt : K) (earlier out : Setpoint K) : Prop where
  acc : ∀ i, |out.acc i - earlier.acc i| ≤ params.refJerkMax * dt
  vel : out.vel = 0 ∨ earlier.vel = 0 ∨
    ∀ i, |out.vel i - earlier.vel i| ≤ params.refAccMax * dt
  pos : ∀ i, |out.pos i - earlier.pos i| ≤ params.refVelMax * dt

/-- A setpoint shows a state of the filter, or stops there. -/
structure Shows (ref : ReferenceState K) (out : Setpoint K) : Prop where
  pos : out.pos = ref.pos
  acc : out.acc = ref.acc
  vel : out.vel = ref.vel ∨ out.vel = 0
  yawVel : out.yawVel = ref.yawVel ∨ out.yawVel = 0

omit [Field K] [LinearOrder K] in
theorem eigenVector_of (f : Fin 3 → K) : eigenVector ⟨f 0, f 1, f 2⟩ = f := by
  funext i
  fin_cases i <;> rfl

omit [LinearOrder K] in
theorem shows_getFilteredSetpoint (later : K) (s : Server K) :
    Shows s.filter.refState (getFilteredSetpoint fns later s) where
  pos := eigenVector_of _
  acc := eigenVector_of _
  vel := .inl (eigenVector_of _)
  yawVel := .inl rfl

omit [LinearOrder K] in
theorem shows_stopped (later : K) (s : Server K) :
    Shows s.filter.refState (getFilteredSetpoint fns later s).stopped where
  pos := eigenVector_of _
  acc := eigenVector_of _
  vel := .inr (eigenVector_of 0)
  yawVel := .inr rfl

section Limits

variable [IsStrictOrderedRing K]

/-- No limit is negative. -/
structure NonnegLimits (params : FilterParams K) : Prop where
  jerk : 0 ≤ params.refJerkMax
  acc : 0 ≤ params.refAccMax
  vel : 0 ≤ params.refVelMax
  yawAcc : 0 ≤ params.refYawAccMax
  yawVel : 0 ≤ params.refYawVelMax

theorem Params.dt_pos (params : Params K) : 0 < params.dt :=
  one_div_pos.mpr (lt_max_of_lt_left (by norm_num))

/-- The limits on a state of the filter carry over to what shows it. -/
theorem Shows.withinLimits (hlimits : NonnegLimits params.filter) {s : ReferenceFilter K}
    {out : Setpoint K} (h : Shows s.refState out) (hlinear : LinearInv params.filter s)
    (hyaw : YawInv params.filter s) : WithinLimits params.filter out where
  vel i := by
    rcases h.vel with hvel | hvel
    · rw [hvel]
      exact (hlinear.within i).2
    · simpa [hvel] using hlimits.vel
  acc i := by
    rw [h.acc]
    exact (hlinear.within i).1
  yawVel := by
    rcases h.yawVel with hvel | hvel
    · rw [hvel]
      exact hyaw.within.2
    · simpa [hvel] using hlimits.yawVel

/-- A state of the filter that is one update away at most. -/
structure Near (params : FilterParams K) (dt : K) (ref ref' : ReferenceState K) : Prop where
  acc : ∀ i, |ref'.acc i - ref.acc i| ≤ params.refJerkMax * dt
  vel : ∀ i, |ref'.vel i - ref.vel i| ≤ params.refAccMax * dt
  pos : ∀ i, |ref'.pos i - ref.pos i| ≤ params.refVelMax * dt

theorem near_refl (hlimits : NonnegLimits params.filter) (ref : ReferenceState K) :
    Near params.filter params.dt ref ref := by
  have hdt := params.dt_pos.le
  refine ⟨fun i => ?_, fun i => ?_, fun i => ?_⟩ <;> rw [sub_self, abs_zero]
  · exact mul_nonneg hlimits.jerk hdt
  · exact mul_nonneg hlimits.acc hdt
  · exact mul_nonneg hlimits.vel hdt

theorem near_updateFilter (hlimits : NonnegLimits params.filter) {s : ReferenceFilter K}
    (h : LinearInv params.filter s) (targetPose : Pose K) (targetVel : Twist K) :
    Near params.filter params.dt s.refState
      (updateFilter params.filter fns.angles s targetPose targetVel params.dt).refState := by
  have hdt := params.dt_pos
  have hnonneg : (linearLimits params.filter).Nonneg := ⟨hlimits.jerk, hlimits.acc, hlimits.vel⟩
  obtain ⟨-, haxis, hpos, -⟩ := updateFilter_of_pos params.filter fns.angles h.initialized
    targetPose targetVel hdt
  refine ⟨fun i => ?_, fun i => ?_, fun i => ?_⟩
  · rw [(Motion.mk.inj (haxis i)).2]
    exact Limits.abs_step_acc_sub_le hnonneg hdt _ (h.within i).1
  · rw [(Motion.mk.inj (haxis i)).1]
    refine (Limits.abs_step_vel_sub_le_iff hnonneg hdt _ _).mpr ?_
    -- the velocity before the update is within its limit
    have hwithin : |(s.refState.axis i).vel| - params.filter.refVelMax ≤ 0 :=
      sub_nonpos.mpr (h.within i).2
    exact hwithin.trans (mul_nonneg hlimits.acc hdt.le)
  · rw [hpos i, add_sub_cancel_left, abs_mul, abs_of_pos hdt]
    exact mul_le_mul_of_nonneg_right (Limits.abs_step_vel_le hlimits.vel _ _ _) hdt.le

theorem startsAt_of_near (hlimits : NonnegLimits params.filter) {start : Pose K}
    {ref : ReferenceState K} {out : Setpoint K} (hshows : Shows ref out)
    (h : Near params.filter params.dt (resetFilter fns.angles start).refState ref) :
    StartsAt params.filter params.dt start out where
  acc i := by
    have hacc := h.acc i
    rw [← hshows.acc] at hacc
    simpa [resetFilter] using hacc
  vel i := by
    rcases hshows.vel with hvel | hvel
    · have hnear := h.vel i
      rw [← hvel] at hnear
      simpa [resetFilter] using hnear
    · simpa [hvel] using mul_nonneg hlimits.acc params.dt_pos.le
  pos i := by
    rw [hshows.pos]
    exact h.pos i

omit [IsStrictOrderedRing K] in
theorem continues_of_near {ref ref' : ReferenceState K} {earlier out : Setpoint K}
    (hearlier : Shows ref earlier) (hshows : Shows ref' out)
    (h : Near params.filter params.dt ref ref') :
    Continues params.filter params.dt earlier out where
  acc i := by
    rw [hshows.acc, hearlier.acc]
    exact h.acc i
  vel := by
    rcases hshows.vel with hvel | hvel
    · rcases hearlier.vel with hvel' | hvel'
      · rw [hvel, hvel']
        exact .inr (.inr h.vel)
      · exact .inr (.inl hvel')
    · exact .inl hvel
  pos i := by
    rw [hshows.pos, hearlier.pos]
    exact h.pos i

/-! ## Runs -/

/-- The filter is where the pose or the last setpoint says. -/
def Linked (fns : Functions K) (filter : ReferenceFilter K) (published : List (Published K)) :
    Option (Pose K) → Prop
  | some start => filter = resetFilter fns.angles start
  | none => ∃ p ∈ published.head?, Shows filter.refState p.setpoint

/-- What is known while there is a path. -/
structure Following (fns : Functions K) (params : Params K) (r : Commander K) : Prop where
  linear : LinearInv params.filter r.server.filter
  yaw : YawInv params.filter r.server.filter
  index : IndexInRange r.server.currentPath r.server.currentWaypointIndex
  linked : Linked fns r.server.filter r.published r.restart

/-- What has been published. -/
structure PublishedInv (params : Params K) (published : List (Published K)) : Prop where
  within : ∀ p ∈ published, WithinLimits params.filter p.setpoint
  starts : ∀ p ∈ published, ∀ start, p.restart = some start →
    StartsAt params.filter params.dt start p.setpoint
  first : ∀ p, published.getLast? = some p → p.restart ≠ none
  continues : published.IsChain fun later earlier => later.restart = none →
    Continues params.filter params.dt earlier.setpoint later.setpoint

omit [IsStrictOrderedRing K] in
theorem publishedInv_nil : PublishedInv params ([] : List (Published K)) :=
  ⟨by simp, by simp, by simp, List.isChain_nil⟩

omit [IsStrictOrderedRing K] in
/-- One more setpoint. -/
theorem PublishedInv.cons {published : List (Published K)} {p : Published K}
    (h : PublishedInv params published) (hwithin : WithinLimits params.filter p.setpoint)
    (hstart : ∀ start, p.restart = some start →
      StartsAt params.filter params.dt start p.setpoint)
    (hcontinue : p.restart = none → ∃ earlier ∈ published.head?,
      Continues params.filter params.dt earlier.setpoint p.setpoint) :
    PublishedInv params (p :: published) := by
  refine ⟨List.forall_mem_cons.mpr ⟨hwithin, h.within⟩,
    List.forall_mem_cons.mpr ⟨hstart, h.starts⟩, fun q hq => ?_, ?_⟩
  · cases published with
    | nil =>
      obtain rfl : p = q := Option.some.inj hq
      intro hnone
      obtain ⟨earlier, hearlier, -⟩ := hcontinue hnone
      simp at hearlier
    | cons newest rest => exact h.first q hq
  · cases published with
    | nil => exact List.isChain_singleton _
    | cons newest rest =>
      refine List.isChain_cons_cons.mpr ⟨fun hnone => ?_, h.continues⟩
      obtain ⟨earlier, hearlier, hcontinues⟩ := hcontinue hnone
      obtain rfl : newest = earlier := Option.some.inj hearlier
      exact hcontinues

structure CommanderInv (fns : Functions K) (params : Params K) (r : Commander K) : Prop where
  following : r.server.currentPath ≠ [] → Following fns params r
  published : PublishedInv params r.published

theorem linearInv_resetFilter (hlimits : NonnegLimits params.filter) (start : Pose K) :
    LinearInv params.filter (resetFilter fns.angles start) :=
  ⟨rfl, fun _ => within_rest hlimits.acc hlimits.vel⟩

theorem yawInv_resetFilter (hlimits : NonnegLimits params.filter) (start : Pose K) :
    YawInv params.filter (resetFilter fns.angles start) :=
  ⟨rfl, within_rest hlimits.yawAcc hlimits.yawVel⟩

/-- A new trajectory. -/
theorem CommanderInv.generate (hlimits : NonnegLimits params.filter) {r r' : Commander K}
    {now : K} {currentPose : Option (Pose K)} {path : List (StampedPose K)}
    (h : CommanderInv fns params r)
    (hstep : commanderStep fns params r (.generate now currentPose path) = some r') :
    CommanderInv fns params r' := by
  cases path with
  | nil =>
    cases hstep
    exact h
  | cons p poses =>
    simp only [commanderStep, generateTimedTrajectory_cons, Option.some.injEq] at hstep
    subst hstep
    refine ⟨fun _ => ⟨linearInv_resetFilter hlimits _, yawInv_resetFilter hlimits _, .inl rfl,
      ?_⟩, h.published⟩
    cases currentPose <;> rfl

/-- A filter that starts again, or does not, and then is one update away at
most from what it shows. -/
theorem PublishedInv.publish (hlimits : NonnegLimits params.filter)
    {published : List (Published K)} {restart : Option (Pose K)} {filter filter' : ReferenceFilter K}
    {out : Setpoint K} (h : PublishedInv params published)
    (hlinked : Linked fns filter published restart)
    (hnear : Near params.filter params.dt filter.refState filter'.refState)
    (hshows : Shows filter'.refState out) (hlinear : LinearInv params.filter filter')
    (hyaw : YawInv params.filter filter') :
    PublishedInv params (⟨out, restart⟩ :: published) := by
  refine h.cons (hshows.withinLimits hlimits hlinear hyaw) (fun start hstart => ?_) fun hnone => ?_
  · obtain rfl : restart = some start := hstart
    obtain rfl : filter = resetFilter fns.angles start := hlinked
    exact startsAt_of_near hlimits hshows hnear
  · obtain rfl : restart = none := hnone
    obtain ⟨earlier, hearlier, hearlierShows⟩ := hlinked
    exact ⟨earlier, hearlier, continues_of_near hearlierShows hshows hnear⟩

/-- One command. -/
theorem CommanderInv.command (hlimits : NonnegLimits params.filter) {r : Commander K}
    {reading : Reading K} {out : Option (Setpoint K)} {s : Server K}
    (h : CommanderInv fns params r) (houtput : CommandOutput fns params reading r.server out s) :
    CommanderInv fns params
      (publish out (restartBefore reading r.server r.restart) s r.published) := by
  cases houtput with
  | noPath hnil => exact ⟨fun hne => absurd hnil hne, h.published⟩
  | before front hhead hbefore =>
    have hne : r.server.currentPath ≠ [] := fun hnil => by simp [hnil] at hhead
    obtain ⟨hlinear, hyaw, hindex, hlinked⟩ := h.following hne
    have hrestart : restartBefore reading r.server r.restart = reading.currentPose.or r.restart := by
      simp [restartBefore, hhead, hbefore]
    rw [hrestart]
    cases hpose : reading.currentPose with
    | none =>
      have hshows : Shows r.server.filter.refState (getFilteredSetpoint fns reading.later r.server) :=
        shows_getFilteredSetpoint _ _
      exact ⟨fun _ => ⟨hlinear, hyaw, hindex, _, rfl, hshows⟩,
        h.published.publish hlimits hlinked (near_refl hlimits _) hshows hlinear hyaw⟩
    | some start =>
      have hlinear' : LinearInv params.filter (resetFilter fns.angles start) :=
        linearInv_resetFilter hlimits start
      have hyaw' : YawInv params.filter (resetFilter fns.angles start) :=
        yawInv_resetFilter hlimits start
      have hlinked : Linked fns (resetFilter fns.angles start) r.published (some start) := rfl
      have hshows : Shows (resetFilter fns.angles start).refState
          (getFilteredSetpoint fns reading.later (resetAtPose fns (some start) r.server)) :=
        shows_getFilteredSetpoint reading.later (resetAtPose fns (some start) r.server)
      exact ⟨fun _ => ⟨hlinear', hyaw', hindex, _, rfl, hshows⟩,
        h.published.publish hlimits hlinked (near_refl hlimits _) hshows hlinear' hyaw'⟩
  | update front j u out hhead hafter hj hout =>
    have hne : r.server.currentPath ≠ [] := fun hnil => by simp [hnil] at hhead
    obtain ⟨hlinear, hyaw, hindex, hlinked⟩ := h.following hne
    have hrestart : restartBefore reading r.server r.restart = r.restart := by
      simp [restartBefore, hhead, hafter]
    rw [hrestart]
    have hshows : Shows ({ r.server with currentWaypointIndex := j }.updateFilter fns params
        u).filter.refState out := by
      rcases hout with rfl | rfl
      · exact shows_getFilteredSetpoint _ _
      · exact shows_stopped _ _
    have hlinear' : LinearInv params.filter (filterStep params.filter fns.angles r.server.filter
        (.update u.targetPose u.targetVel params.dt)) :=
      linearInv_step ⟨hlimits.jerk, hlimits.acc, hlimits.vel⟩ hlinear _
    have hyaw' : YawInv params.filter (filterStep params.filter fns.angles r.server.filter
        (.update u.targetPose u.targetVel params.dt)) :=
      yawInv_step hlimits.yawAcc hlimits.yawVel hyaw _
    refine ⟨fun _ => ⟨hlinear', hyaw', ?_, _, rfl, hshows⟩,
      h.published.publish hlimits hlinked (near_updateFilter hlimits hlinear _ _) hshows hlinear'
        hyaw'⟩
    rcases hj with rfl | hj
    · exact hindex
    · exact .inr hj

theorem commanderInv_of_reach (hlimits : NonnegLimits params.filter)
    {C : Commander K → CommanderLabel K → Prop} {r : Commander K}
    (h : (commanderSystem fns params).Reach C r) : CommanderInv fns params r := by
  refine h.invariant (CommanderInv fns params) ?_ ?_
  · intro r hinit
    subst hinit
    exact ⟨fun hne => absurd rfl hne, publishedInv_nil⟩
  · intro r l r' hr _ hstep
    cases l with
    | configure =>
      cases hstep
      exact ⟨fun hne => absurd rfl hne, hr.published⟩
    | generate now currentPose path => exact hr.generate hlimits hstep
    | clear =>
      cases hstep
      exact ⟨fun hne => absurd rfl hne, hr.published⟩
    | command reading =>
      have hoc := triple_command fns params reading r.server r.server rfl
      simp only [commanderSystem, commanderStep] at hstep
      split at hstep
      · next hok =>
        rw [hok] at hoc
        cases hstep
        exact hr.command hlimits hoc
      · cases hstep
    | speedLimit speedLimit =>
      cases hstep
      exact ⟨fun hne => ⟨(hr.following hne).linear, (hr.following hne).yaw,
        (hr.following hne).index, (hr.following hne).linked⟩, hr.published⟩

/-- **Limits.** Whatever the node is configured for, asked to follow and
told in whatever order, with any clock and any poses: every setpoint that
it has published is within the limits of the filter on the velocity, the
acceleration and the yaw velocity, and its next command does not read
outside of `current_path_`. -/
theorem commands_within_limits (hlimits : NonnegLimits params.filter)
    {C : Commander K → CommanderLabel K → Prop} {r : Commander K}
    (h : (commanderSystem fns params).Reach C r) :
    (∀ p ∈ r.published, WithinLimits params.filter p.setpoint) ∧
      ∀ reading, ∃ out s, (getCurrentCommand fns params reading).run r.server = .ok out s := by
  have hinv := commanderInv_of_reach hlimits h
  refine ⟨hinv.published.within, fun reading => ?_⟩
  have hoc := triple_command fns params reading r.server r.server rfl
  cases hrun : (getCurrentCommand fns params reading).run r.server with
  | ok out s => exact ⟨out, s, rfl⟩
  | error _ _ =>
    rw [hrun] at hoc
    obtain ⟨front, _, hhead, -⟩ := id hoc
    have hne : r.server.currentPath ≠ [] := fun hnil => by simp [hnil] at hhead
    exact absurd hoc (not_outOfRange (hinv.following hne).index)

/-- **Smoothness.** The first setpoint and each one after the filter has
started again begins at rest at the pose that it has started at, up to one
step of the filter. Each other setpoint continues the one before. -/
theorem commands_smooth (hlimits : NonnegLimits params.filter)
    {C : Commander K → CommanderLabel K → Prop} {r : Commander K}
    (h : (commanderSystem fns params).Reach C r) :
    (∀ p, r.published.getLast? = some p → p.restart ≠ none) ∧
      (∀ p ∈ r.published, ∀ start, p.restart = some start →
        StartsAt params.filter params.dt start p.setpoint) ∧
      r.published.IsChain fun later earlier => later.restart = none →
        Continues params.filter params.dt earlier.setpoint later.setpoint := by
  have hinv := (commanderInv_of_reach hlimits h).published
  exact ⟨hinv.first, hinv.starts, hinv.continues⟩

end Limits

end Commander

/-! ### A run -/

theorem nonnegLimits_defaults : NonnegLimits (FilterParams.defaults : FilterParams ℚ) :=
  ⟨by decide +kernel, by decide +kernel, by decide +kernel, by decide +kernel, by decide +kernel⟩

/-- A level path of one metre, a command ahead of its first stamp and one
after its last. -/
def levelRun : List (CommanderLabel ℚ) :=
  [.generate 0 none [levelPose 0, levelPose 1], .command ⟨0.05, none, 0.05⟩,
    .command ⟨2, none, 2⟩]

/-- The second setpoint accelerates as much as the limit on the jerk
allows. -/
theorem exists_levelRun : ∃ r : Commander ℚ,
    (commanderSystem levelFunctions .defaults).Reach System.anyStep r ∧
      r.published.map (fun p => (p.setpoint.acc 0, p.restart.isSome)) =
        [(0.007, false), (0, true)] := by
  obtain ⟨r, hr, hp⟩ := System.exists_reach_of_runWhile
    (S := commanderSystem levelFunctions .defaults) System.anyStep levelRun
    (fun r => decide (r.published.map (fun p => (p.setpoint.acc 0, p.restart.isSome)) =
      [(0.007, false), (0, true)])) rfl (by decide +kernel)
  exact ⟨r, hr, of_decide_eq_true hp⟩

theorem commands_within_limits_level : ∃ r : Commander ℚ, r.published.length = 2 ∧
    ∀ p ∈ r.published, WithinLimits .defaults p.setpoint := by
  obtain ⟨r, hr, hpublished⟩ := exists_levelRun
  have hlength := congrArg List.length hpublished
  rw [List.length_map] at hlength
  exact ⟨r, hlength, (commands_within_limits nonnegLimits_defaults hr).1⟩

theorem commands_smooth_level : ∃ later earlier : Published ℚ, later.setpoint.acc 0 = 0.007 ∧
    Continues .defaults (1 / 50) earlier.setpoint later.setpoint := by
  obtain ⟨r, hr, hpublished⟩ := exists_levelRun
  obtain ⟨-, -, hchain⟩ := commands_smooth nonnegLimits_defaults hr
  obtain ⟨later, rest, hlist, hlater, hrest⟩ := List.map_eq_cons_iff.mp hpublished
  obtain ⟨earlier, first, rfl, -, -⟩ := List.map_eq_cons_iff.mp hrest
  rw [hlist] at hchain
  obtain ⟨hacc, hnone⟩ := Prod.mk.inj hlater
  have hcontinues := (List.isChain_cons_cons.mp hchain).1 (by simpa using hnone)
  have hdt : (Params.defaults : Params ℚ).dt = 1 / 50 := by decide +kernel
  rw [hdt] at hcontinues
  exact ⟨later, earlier, hacc, hcontinues⟩

end Nav3D.Controller.Exact

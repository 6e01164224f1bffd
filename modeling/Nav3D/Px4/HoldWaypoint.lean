/-
Nav3D.Px4.HoldWaypoint — which setpoint a tick of `OffboardControl`
publishes when no waypoint is fresh.

`timerCallback` chooses between the hover setpoint and the takeoff setpoint
by `isTakeoffComplete()`, not by whether a waypoint has been received: a
waypoint stream that stops before takeoff is complete is followed by the
takeoff setpoint (`takeoff_after_waypoint`). Once takeoff is complete it
stays complete, no takeoff setpoint is published any more, and the last
waypoint is held.
-/
import Nav3D.Px4.OffboardControl
import Mathlib.Data.Rat.Sqrt

namespace Nav3D.Px4

variable {D F : Type} [Double D]
variable {params : Params D} {tf2 : Tf2 D} {rounds : Nat}

/-! ## Reading the record of a run -/

/-- The last waypoint received, with whether takeoff had been completed
before it. -/
def lastWaypoint : List (Event D F) → Option (TrajectoryPoint D × Bool)
  | [] => none
  | .waypoint msg completed :: _ => some (msg, completed)
  | .tick _ :: log => lastWaypoint log

/-- The setpoint of a tick is not the takeoff setpoint. -/
def TickOutput.notTakeoff (output : TickOutput F) : Bool :=
  match output.setpoint with
  | some (.takeoff, _) => false
  | _ => true

/-- No takeoff setpoint has been published since the last waypoint. -/
def noTakeoffSince : List (Event D F) → Bool
  | [] => true
  | .waypoint _ _ :: _ => true
  | .tick output :: log => output.notTakeoff && noTakeoffSince log

/-! ## The invariant -/

/-- The members that the choice of a setpoint depends on are the same. -/
structure SameTarget (s s' : OffboardControl D F) : Prop where
  odom : s'.currentOdom = s.currentOdom
  lastValid : s'.lastValidSetpointEnu = s.lastValidSetpointEnu
  altitude : s'.takeoffTargetAltitude = s.takeoffTargetAltitude
  completed : s'.takeoffCompleted = s.takeoffCompleted

/-- The state in which `isTakeoffComplete()` has latched its answer. -/
theorem isTakeoffComplete_fields (s : OffboardControl D F) :
    (isTakeoffComplete params s).1 = { s with
      takeoffCompleted := s.takeoffCompleted || (isTakeoffComplete params s).2 } := by
  unfold isTakeoffComplete
  split
  · simp
  · simp

/-- A latched completion is reported. -/
theorem isTakeoffComplete_of_latched {s : OffboardControl D F} (hdone : s.takeoffCompleted = true)
    (hs : s.currentOdom.isSome = true ∧ s.takeoffTargetAltitude.isSome = true) :
    (isTakeoffComplete params s).2 = true := by
  obtain ⟨odom, ho⟩ := Option.isSome_iff_exists.mp hs.1
  obtain ⟨altitude, ha⟩ := Option.isSome_iff_exists.mp hs.2
  simp [isTakeoffComplete, ho, ha, hdone]

/-- A completion that is reported has its odometry and its altitude. -/
theorem known_of_isTakeoffComplete {s : OffboardControl D F}
    (h : (isTakeoffComplete params s).2 = true) :
    s.currentOdom.isSome = true ∧ s.takeoffTargetAltitude.isSome = true := by
  unfold isTakeoffComplete at h
  split at h
  · next hodom haltitude => rw [hodom, haltitude]; exact ⟨rfl, rfl⟩
  · cases h

/-- What holds of the node and its record in every reachable state. -/
structure HoldInv (params : Params D) (tf2 : Tf2 D) (rounds : Nat) (s : OffboardRun D F) :
    Prop where
  /-- The remembered setpoint has been converted before. -/
  converts : ∀ held, s.node.lastValidSetpointEnu = some held →
    (enuToNedPose tf2 rounds held.pose).isSome = true
  /-- After a waypoint there is a remembered setpoint, and as long as no
  takeoff setpoint has overwritten it, it is the waypoint. -/
  remembers : ∀ w completed, lastWaypoint s.log = some (w, completed) →
    s.node.lastValidSetpointEnu.isSome = true ∧
    (noTakeoffSince s.log = true → s.node.lastValidSetpointEnu = some ⟨w.pose, w.velocity⟩)
  /-- Takeoff completes only once its altitude is known. -/
  latched : s.node.takeoffCompleted = true →
    s.node.currentOdom.isSome = true ∧ s.node.takeoffTargetAltitude.isSome = true
  /-- No takeoff setpoint follows a waypoint received after completion. -/
  settled : ∀ w, lastWaypoint s.log = some (w, true) →
    s.node.takeoffCompleted = true ∧ noTakeoffSince s.log = true

/-- The initial state has no waypoint and no setpoint. -/
theorem holdInv_init : HoldInv params tf2 rounds (⟨.initial, []⟩ : OffboardRun D F) where
  converts := fun _ h => by cases h
  remembers := fun _ _ h => by cases h
  latched := fun h => by cases h
  settled := fun _ h => by cases h

/-- A callback that only changes the odometry (to a known one), the local
position, the vehicle status or the offset keeps the invariant. -/
theorem holdInv_sensors {s : OffboardRun D F} {node : OffboardControl D F}
    (hs : HoldInv params tf2 rounds s)
    (hodom : s.node.currentOdom.isSome = true → node.currentOdom.isSome = true)
    (hlast : node.lastValidSetpointEnu = s.node.lastValidSetpointEnu)
    (haltitude : node.takeoffTargetAltitude = s.node.takeoffTargetAltitude)
    (hdone : node.takeoffCompleted = s.node.takeoffCompleted) :
    HoldInv params tf2 rounds { s with node := node } where
  converts := by rw [hlast]; exact hs.converts
  remembers := by rw [hlast]; exact hs.remembers
  latched := by
    rw [hdone, haltitude]
    exact fun h => ⟨hodom (hs.latched h).1, (hs.latched h).2⟩
  settled := by rw [hdone]; exact hs.settled

/-- A tick that leaves the remembered setpoint and publishes no takeoff
setpoint keeps the invariant. -/
theorem holdInv_tick {s : OffboardRun D F} {node : OffboardControl D F} {output : TickOutput F}
    (hs : HoldInv params tf2 rounds s) (hout : output.notTakeoff = true)
    (hsame : SameTarget s.node node) :
    HoldInv params tf2 rounds ⟨node, .tick output :: s.log⟩ where
  converts := by rw [hsame.lastValid]; exact hs.converts
  remembers := by
    simp only [hsame.lastValid, lastWaypoint, noTakeoffSince, hout, Bool.true_and]
    exact hs.remembers
  latched := by rw [hsame.completed, hsame.odom, hsame.altitude]; exact hs.latched
  settled := by
    simp only [hsame.completed, lastWaypoint, noTakeoffSince, hout, Bool.true_and]
    exact hs.settled

/-- Setting the flag where completion is reported keeps the invariant. -/
theorem holdInv_completed {s : OffboardRun D F} (hs : HoldInv params tf2 rounds s)
    (hdone : (isTakeoffComplete params s.node).2 = true) :
    HoldInv params tf2 rounds ⟨{ s.node with takeoffCompleted := true }, s.log⟩ where
  converts := hs.converts
  remembers := hs.remembers
  latched := fun _ => known_of_isTakeoffComplete (s := s.node) hdone
  settled := fun w hw => ⟨rfl, (hs.settled w hw).2⟩

variable [CppFloat D F]

/-! ## What a tick does to the setpoint members -/

/-- The commands at the end of a tick leave these members. -/
theorem sameTarget_sendCommands (s : OffboardControl D F) (clock : TickClock) :
    SameTarget s (sendCommands params s clock).1 := by
  unfold sendCommands
  split
  · exact ⟨rfl, rfl, rfl, rfl⟩
  · dsimp only
    split <;> exact ⟨rfl, rfl, rfl, rfl⟩

/-- What a tick publishes, and what it does to the members that later
ticks depend on. -/
inductive TickEffect (params : Params D) (tf2 : Tf2 D) (rounds : Nat) (s : OffboardControl D F)
    (clock : TickClock) : OffboardControl D F → TickOutput F → Prop
  | noOdometry {output} : s.currentOdom = none → output.setpoint = none →
      TickEffect params tf2 rounds s clock s output
  | fresh {s' output msg} : freshWaypoint params s clock.fresh ≠ none →
      output.setpoint = some (.waypoint, msg) → SameTarget s s' →
      TickEffect params tf2 rounds s clock s' output
  | hover {s' output msg setpoint} : freshWaypoint params s clock.fresh = none →
      (isTakeoffComplete params s).2 = true → s.lastValidSetpointEnu = some setpoint →
      standingSetpoint tf2 rounds s setpoint.pose clock.setpoint = some msg →
      output.setpoint = some (.hover, msg) →
      SameTarget { s with takeoffCompleted := true } s' →
      TickEffect params tf2 rounds s clock s' output
  | nothingToHold {s' output} : freshWaypoint params s clock.fresh = none →
      (isTakeoffComplete params s).2 = true → s.lastValidSetpointEnu = none →
      output.setpoint = none → SameTarget { s with takeoffCompleted := true } s' →
      TickEffect params tf2 rounds s clock s' output
  | takeoff {s' output msg held} : freshWaypoint params s clock.fresh = none →
      (isTakeoffComplete params s).2 = false → output.setpoint = some (.takeoff, msg) →
      s'.currentOdom = s.currentOdom → s'.takeoffTargetAltitude.isSome = true →
      s'.lastValidSetpointEnu = some held → (enuToNedPose tf2 rounds held.pose).isSome = true →
      s'.takeoffCompleted = s.takeoffCompleted →
      TickEffect params tf2 rounds s clock s' output

/-- A standing setpoint has converted its pose. -/
theorem converts_of_standingSetpoint {s : OffboardControl D F} {pose : Pose D} {now : Int}
    {msg : TrajectorySetpoint F} (h : standingSetpoint tf2 rounds s pose now = some msg) :
    (enuToNedPose tf2 rounds pose).isSome = true := by
  unfold standingSetpoint at h
  rw [Option.bind_eq_bind, Option.bind_eq_some_iff] at h
  obtain ⟨ned, hned, _⟩ := h
  rw [hned]; rfl

/-- `publishTakeoffSetpoint` publishes, and remembers the pose. -/
theorem publishTakeoffSetpoint_spec {s s' : OffboardControl D F} {now : Int}
    {p : Option (Published F)} (hodom : s.currentOdom.isSome = true)
    (h : publishTakeoffSetpoint params tf2 rounds s now = some (s', p)) :
    (∃ msg, p = some (.takeoff, msg)) ∧ s'.currentOdom = s.currentOdom ∧
      s'.takeoffTargetAltitude.isSome = true ∧
      (∃ held, s'.lastValidSetpointEnu = some held ∧
        (enuToNedPose tf2 rounds held.pose).isSome = true) ∧
      s'.takeoffCompleted = s.takeoffCompleted := by
  obtain ⟨odom, ho⟩ := Option.isSome_iff_exists.mp hodom
  have hinit : (initTakeoff params tf2 s odom).currentOdom = s.currentOdom ∧
      (initTakeoff params tf2 s odom).takeoffCompleted = s.takeoffCompleted := by
    unfold initTakeoff
    split <;> exact ⟨rfl, rfl⟩
  simp only [publishTakeoffSetpoint, ho] at h
  split at h
  · next start altitude _ halt =>
    rw [Option.bind_eq_bind, Option.bind_eq_some_iff] at h
    obtain ⟨msg, hmsg, hret⟩ := h
    cases hret
    exact ⟨⟨msg, rfl⟩, hinit.1, by rw [halt]; rfl, ⟨_, rfl, converts_of_standingSetpoint hmsg⟩,
      hinit.2⟩
  · cases h

/-- `publishHoverSetpoint` holds the remembered pose, if there is one. -/
theorem publishHoverSetpoint_spec {s s' : OffboardControl D F} {now : Int}
    {p : Option (Published F)} (h : publishHoverSetpoint tf2 rounds s now = some (s', p)) :
    s' = s ∧ ((s.lastValidSetpointEnu = none ∧ p = none) ∨
      ∃ held msg, s.lastValidSetpointEnu = some held ∧
        standingSetpoint tf2 rounds s held.pose now = some msg ∧ p = some (.hover, msg)) := by
  unfold publishHoverSetpoint at h
  split at h
  · next hlast =>
    cases h
    exact ⟨rfl, .inl ⟨hlast, rfl⟩⟩
  · next held hlast =>
    rw [Option.bind_eq_bind, Option.bind_eq_some_iff] at h
    obtain ⟨msg, hmsg, hret⟩ := h
    cases hret
    exact ⟨rfl, .inr ⟨held, msg, hlast, hmsg, rfl⟩⟩

/-- A standing setpoint does not depend on the takeoff flag. -/
theorem standingSetpoint_completed (s : OffboardControl D F) (completed : Bool) (pose : Pose D)
    (now : Int) :
    standingSetpoint tf2 rounds { s with takeoffCompleted := completed } pose now =
      standingSetpoint tf2 rounds s pose now := rfl

/-- **Tick inversion.** -/
theorem tickEffect_of_timerCallback {s s' : OffboardControl D F} {clock : TickClock}
    {output : TickOutput F} (h : timerCallback params tf2 rounds s clock = some (s', output)) :
    TickEffect params tf2 rounds s clock s' output := by
  unfold timerCallback at h
  cases hodom : s.currentOdom with
  | none =>
    rw [hodom] at h
    cases h
    exact .noOdometry hodom rfl
  | some odom =>
    rw [hodom] at h
    dsimp only at h
    rw [Option.bind_eq_bind, Option.bind_eq_some_iff] at h
    obtain ⟨⟨s₁, setpoint⟩, hpub, hret⟩ := h
    cases hret
    obtain ⟨ho, hl, ha, hc⟩ : SameTarget s₁ (sendCommands params s₁ clock).1 :=
      sameTarget_sendCommands s₁ clock
    unfold publishSetpoint at hpub
    cases hfresh : freshWaypoint params s clock.fresh with
    | some waypoint =>
      rw [hfresh] at hpub
      cases hpub
      exact .fresh (by rw [hfresh]; exact Option.some_ne_none _) rfl ⟨ho, hl, ha, hc⟩
    | none =>
      rw [hfresh] at hpub
      dsimp only at hpub
      rw [isTakeoffComplete_fields] at hpub
      cases hdone : (isTakeoffComplete params s).2 with
      | true =>
        simp only [hdone, Bool.or_true, if_true] at hpub
        obtain ⟨rfl, ⟨hlast, rfl⟩ | ⟨held, msg, hlast, hmsg, rfl⟩⟩ := publishHoverSetpoint_spec hpub
        · exact .nothingToHold hfresh hdone hlast rfl ⟨ho, hl, ha, hc⟩
        · rw [standingSetpoint_completed] at hmsg
          exact .hover hfresh hdone hlast hmsg rfl ⟨ho, hl, ha, hc⟩
      | false =>
        simp only [hdone, Bool.or_false, Bool.false_eq_true, if_false] at hpub
        obtain ⟨⟨msg, rfl⟩, ho₁, ha₁, ⟨held, hheld, hconv⟩, hc₁⟩ :=
          publishTakeoffSetpoint_spec (by rw [hodom]; rfl) hpub
        exact .takeoff hfresh hdone rfl (ho.trans ho₁) (by rw [ha]; exact ha₁) (hl.trans hheld)
          hconv (hc.trans hc₁)

/-! ## Every run keeps the invariant -/

/-- The offset filter changes the offset only. -/
theorem updateOffset_fields (s : OffboardControl D F) :
    ∃ offset, updateOffset params s = { s with odomToPx4Offset := offset } := by
  unfold updateOffset
  split
  · exact ⟨_, rfl⟩
  · exact ⟨_, rfl⟩

/-- A waypoint keeps the invariant: its pose is converted before it is
remembered. -/
theorem holdInv_waypoint {s : OffboardRun D F} {node : OffboardControl D F}
    {msg : TrajectoryPoint D} {now : Int} (hs : HoldInv params tf2 rounds s)
    (h : waypointCallback tf2 rounds s.node msg now = some node) :
    HoldInv params tf2 rounds ⟨node, .waypoint msg s.node.takeoffCompleted :: s.log⟩ := by
  unfold waypointCallback at h
  rw [Option.bind_eq_bind, Option.bind_eq_some_iff] at h
  obtain ⟨ned, hned, hret⟩ := h
  cases hret
  refine ⟨?_, ?_, hs.latched, ?_⟩
  · rintro held ⟨rfl⟩
    rw [hned]; rfl
  · rintro w completed ⟨rfl⟩
    exact ⟨rfl, fun _ => rfl⟩
  · intro w hw
    have hdone : s.node.takeoffCompleted = true := congrArg Prod.snd (Option.some.inj hw)
    exact ⟨hdone, rfl⟩

/-- Each tick keeps the invariant. -/
theorem holdInv_timer {s : OffboardRun D F} {node : OffboardControl D F} {clock : TickClock}
    {output : TickOutput F} (hs : HoldInv params tf2 rounds s)
    (h : TickEffect params tf2 rounds s.node clock node output) :
    HoldInv params tf2 rounds ⟨node, .tick output :: s.log⟩ := by
  cases h with
  | noOdometry _ hout =>
    exact holdInv_tick hs (by rw [TickOutput.notTakeoff, hout]) ⟨rfl, rfl, rfl, rfl⟩
  | fresh _ hout hsame => exact holdInv_tick hs (by rw [TickOutput.notTakeoff, hout]) hsame
  | hover _ hdone _ _ hout hsame =>
    have hs' := holdInv_tick (holdInv_completed hs hdone) (by rw [TickOutput.notTakeoff, hout])
      hsame
    exact hs'
  | nothingToHold _ hdone _ hout hsame =>
    have hs' := holdInv_tick (holdInv_completed hs hdone) (by rw [TickOutput.notTakeoff, hout])
      hsame
    exact hs'
  | takeoff _ hnot hout hodom haltitude hlast hconv hcompleted =>
    have htakeoff : output.notTakeoff = false := by rw [TickOutput.notTakeoff, hout]
    -- the takeoff branch is taken only while takeoff is not complete
    have hpending : s.node.takeoffCompleted ≠ true := fun hdone => by
      rw [isTakeoffComplete_of_latched hdone (hs.latched hdone)] at hnot
      cases hnot
    refine ⟨?_, ?_, ?_, ?_⟩
    · intro held hheld
      rw [hlast] at hheld
      cases hheld
      exact hconv
    · intro w completed _
      refine ⟨by rw [hlast]; rfl, fun hno => ?_⟩
      simp only [noTakeoffSince, htakeoff, Bool.false_and] at hno
      cases hno
    · exact fun hdone => absurd (hcompleted ▸ hdone) hpending
    · exact fun w hw => absurd (hs.settled w hw).1 hpending

/-- The invariant holds in every reachable state. -/
theorem holdInv_of_reach {s : OffboardRun D F}
    (h : (offboardSystem params tf2 rounds).Reach Transition.System.anyStep s) :
    HoldInv params tf2 rounds s := by
  refine h.invariant _ (fun s hs => ?_) (fun s c s' hs _ hstep => ?_)
  · cases hs
    exact holdInv_init
  · cases c with
    | odom msg =>
      cases hstep
      obtain ⟨offset, hoffset⟩ : ∃ offset, updateOffset params { s.node with currentOdom := some msg }
          = { s.node with currentOdom := some msg, odomToPx4Offset := offset } :=
        updateOffset_fields _
      refine holdInv_sensors hs ?_ ?_ ?_ ?_ <;> rw [odomCallback, hoffset]
      exact fun _ => rfl
    | vehicleLocalPosition msg =>
      cases hstep
      exact holdInv_sensors hs id rfl rfl rfl
    | vehicleStatus msg =>
      cases hstep
      exact holdInv_sensors hs id rfl rfl rfl
    | waypoint msg now =>
      change ((waypointCallback tf2 rounds s.node msg now).bind _) = some s' at hstep
      obtain ⟨node, hnode, hret⟩ := Option.bind_eq_some_iff.mp hstep
      cases hret
      exact holdInv_waypoint hs hnode
    | timer clock =>
      change ((timerCallback params tf2 rounds s.node clock).bind _) = some s' at hstep
      obtain ⟨⟨node, output⟩, htick, hret⟩ := Option.bind_eq_some_iff.mp hstep
      cases hret
      exact holdInv_timer hs (tickEffect_of_timerCallback htick)

/-! ## The result -/

/-- In `s` a tick at `clock` returns and publishes the setpoint `p`. -/
def Publishes (params : Params D) (tf2 : Tf2 D) (rounds : Nat) (s : OffboardRun D F)
    (clock : TickClock) (p : Published F) : Prop :=
  ∃ s' output, offboardStep params tf2 rounds s (.timer clock) = some s' ∧
    s'.log = .tick output :: s.log ∧ output.setpoint = some p

/-- What a published setpoint says of the tick. -/
theorem tickEffect_of_publishes {s : OffboardRun D F} {clock : TickClock} {p : Published F}
    (h : Publishes params tf2 rounds s clock p) :
    ∃ node output, TickEffect params tf2 rounds s.node clock node output ∧
      output.setpoint = some p := by
  obtain ⟨s', output, hstep, hlog, hp⟩ := h
  change ((timerCallback params tf2 rounds s.node clock).bind _) = some s' at hstep
  obtain ⟨⟨node, out⟩, htick, hret⟩ := Option.bind_eq_some_iff.mp hstep
  cases hret
  cases hlog
  exact ⟨node, _, tickEffect_of_timerCallback htick, hp⟩

/-- What `publishHoverSetpoint` does with a remembered pose that converts. -/
theorem publishHoverSetpoint_eq {s : OffboardControl D F} {now : Int} {held : EnuSetpoint D}
    {msg : TrajectorySetpoint F} (hlast : s.lastValidSetpointEnu = some held)
    (hmsg : standingSetpoint tf2 rounds s held.pose now = some msg) :
    publishHoverSetpoint tf2 rounds s now = some (s, some (.hover, msg)) := by
  rw [publishHoverSetpoint, hlast]
  dsimp only
  rw [hmsg]
  rfl

/-- A tick without odometry publishes nothing. -/
theorem timerCallback_noOdometry {s : OffboardControl D F} {clock : TickClock}
    (hodom : s.currentOdom = none) :
    timerCallback params tf2 rounds s clock =
      some (s, ⟨offboardControlHeartbeat clock.heartbeat, none, []⟩) := by
  rw [timerCallback, hodom]

/-- A stale tick after completion publishes the hover setpoint, when the
remembered pose converts. -/
theorem publishes_hover {s : OffboardRun D F} {clock : TickClock} {held : EnuSetpoint D}
    (hstale : freshWaypoint params s.node clock.fresh = none)
    (hdone : (isTakeoffComplete params s.node).2 = true)
    (hlast : s.node.lastValidSetpointEnu = some held)
    (hconv : (enuToNedPose tf2 rounds held.pose).isSome = true) :
    ∃ msg, standingSetpoint tf2 rounds s.node held.pose clock.setpoint = some msg ∧
      Publishes params tf2 rounds s clock (.hover, msg) := by
  obtain ⟨odom, hodom⟩ := Option.isSome_iff_exists.mp (known_of_isTakeoffComplete hdone).1
  obtain ⟨ned, hned⟩ := Option.isSome_iff_exists.mp hconv
  obtain ⟨msg, hmsg⟩ : ∃ msg : TrajectorySetpoint F,
      standingSetpoint tf2 rounds s.node held.pose clock.setpoint = some msg := by
    rw [standingSetpoint, hned]
    exact ⟨_, rfl⟩
  refine ⟨msg, hmsg, ?_⟩
  have hpub : publishSetpoint params tf2 rounds s.node clock =
      some ((isTakeoffComplete params s.node).1, some (.hover, msg)) := by
    simp only [publishSetpoint, hstale, hdone, if_true]
    rw [isTakeoffComplete_fields]
    exact publishHoverSetpoint_eq hlast hmsg
  exact ⟨_, _, by simp only [offboardStep, timerCallback, hodom, hpub]; rfl, rfl, rfl⟩

/-- **Holding the last waypoint.** In every reachable state after a
waypoint, for a tick on which no waypoint is fresh: if takeoff is complete,
the hover setpoint is published and nothing else, and it is that of the last
waypoint unless a takeoff setpoint has been published since; if takeoff is
not complete, only the takeoff setpoint is published, and nothing at all
without odometry. A waypoint received after completion finds takeoff complete
at every later tick, with no takeoff setpoint in between. -/
theorem hold_last_waypoint {s : OffboardRun D F} {w : TrajectoryPoint D} {completed : Bool}
    (h : (offboardSystem params tf2 rounds).Reach Transition.System.anyStep s)
    (hw : lastWaypoint s.log = some (w, completed)) (clock : TickClock)
    (hstale : freshWaypoint params s.node clock.fresh = none) :
    ((isTakeoffComplete params s.node).2 = true →
      (∃ msg, Publishes params tf2 rounds s clock (.hover, msg)) ∧
      (∀ p, Publishes params tf2 rounds s clock p → p.1 = .hover) ∧
      (noTakeoffSince s.log = true → ∀ p, Publishes params tf2 rounds s clock p →
        standingSetpoint tf2 rounds s.node w.pose clock.setpoint = some p.2)) ∧
    ((isTakeoffComplete params s.node).2 = false →
      (∀ p, Publishes params tf2 rounds s clock p → p.1 = .takeoff) ∧
      (s.node.currentOdom = none → ∀ p, ¬ Publishes params tf2 rounds s clock p)) ∧
    (completed = true →
      (isTakeoffComplete params s.node).2 = true ∧ noTakeoffSince s.log = true) := by
  have hs := holdInv_of_reach h
  obtain ⟨hsome, hlast⟩ := hs.remembers w completed hw
  refine ⟨fun hdone => ⟨?_, ?_, ?_⟩, fun hnot => ⟨?_, ?_⟩, ?_⟩
  · obtain ⟨held, hheld⟩ := Option.isSome_iff_exists.mp hsome
    obtain ⟨msg, _, hpub⟩ := publishes_hover hstale hdone hheld (hs.converts held hheld)
    exact ⟨msg, hpub⟩
  · intro p hp
    obtain ⟨node, output, heffect, hout⟩ := tickEffect_of_publishes hp
    cases heffect with
    | noOdometry _ hnone => rw [hnone] at hout; cases hout
    | fresh hfresh => exact absurd hstale hfresh
    | hover _ _ _ _ hhover => rw [hhover] at hout; cases hout; rfl
    | nothingToHold _ _ _ hnone => rw [hnone] at hout; cases hout
    | takeoff _ hnot => rw [hdone] at hnot; cases hnot
  · intro hno p hp
    obtain ⟨node, output, heffect, hout⟩ := tickEffect_of_publishes hp
    cases heffect with
    | noOdometry _ hnone => rw [hnone] at hout; cases hout
    | fresh hfresh => exact absurd hstale hfresh
    | hover _ _ hheld hmsg hhover =>
      rw [hhover] at hout
      cases hout
      rw [hlast hno] at hheld
      cases hheld
      exact hmsg
    | nothingToHold _ _ _ hnone => rw [hnone] at hout; cases hout
    | takeoff _ hnot => rw [hdone] at hnot; cases hnot
  · intro p hp
    obtain ⟨node, output, heffect, hout⟩ := tickEffect_of_publishes hp
    cases heffect with
    | noOdometry _ hnone => rw [hnone] at hout; cases hout
    | fresh hfresh => exact absurd hstale hfresh
    | hover _ hdone => rw [hnot] at hdone; cases hdone
    | nothingToHold _ hdone => rw [hnot] at hdone; cases hdone
    | takeoff _ _ htakeoff => rw [htakeoff] at hout; cases hout; rfl
  · rintro hodom p ⟨s', output, hstep, hlog, hp⟩
    simp only [offboardStep, timerCallback_noOdometry hodom] at hstep
    cases hstep
    cases hlog
    cases hp
  · rintro rfl
    have hsettled := hs.settled w hw
    exact ⟨isTakeoffComplete_of_latched hsettled.1 (hs.latched hsettled.1), hsettled.2⟩

/-! ## Two runs over exact numbers

The numbers of these runs are small integers and halves, on which doubles
and floats are exact as well; `nan` is `none`. Every orientation is the
identity or, in the NED frame, the quarter turn. -/

instance : Double ℚ where
  decidableLt := inferInstance
  decidableLe := inferInstance
  sqrt := Rat.sqrt
  fabs q := |q|
  ceil q := UInt64.ofNat q.ceil.toNat
  pi := 3.141592653589793
  seconds ns := ns / 1000000000

instance : CppFloat ℚ (Option ℚ) where
  ofScientific m s e := some (OfScientific.ofScientific m s e)
  ofDouble := some
  toDouble q := q.getD 0
  nan := none

/-- The identity, and what the run asks of tf2 on it. -/
def identityTf2 : Tf2 ℚ where
  getRPY _ := (0, 0, 0)
  setRPY _ _ yaw := if yaw = 0 then ⟨0, 0, 0, 1⟩ else ⟨0, 0, 0.7071067811865475, 0.7071067811865476⟩
  getYaw q := if q.z = 0 then 0 else 1.5707963267948966

/-- A pose above the origin. -/
def poseAt (z : ℚ) : Pose ℚ := ⟨⟨0, 0, z⟩, ⟨0, 0, 0, 1⟩⟩

/-- A waypoint above the origin, to be reached without velocity. -/
def waypointAt (z : ℚ) : TrajectoryPoint ℚ := ⟨poseAt z, zeroTwist, zeroTwist⟩

/-- A tick whose readings of the clock are all `seconds` after the start. -/
def tickAt (seconds : Int) : TickClock :=
  let now := seconds * 1000000000
  ⟨now, now, now, now, now, now⟩

/-- The setpoint that a tick of the run publishes. -/
def tickSetpoint (s : OffboardRun ℚ (Option ℚ)) (clock : TickClock) :
    Option (Published (Option ℚ)) :=
  match timerCallback Params.defaults identityTf2 1 s.node clock with
  | some (_, output) => output.setpoint
  | none => none

/-- `tickSetpoint` is what is published. -/
theorem publishes_of_tickSetpoint {s : OffboardRun ℚ (Option ℚ)} {clock : TickClock}
    {p : Published (Option ℚ)} (h : tickSetpoint s clock = some p) :
    Publishes Params.defaults identityTf2 1 s clock p := by
  unfold tickSetpoint at h
  split at h
  · next node output htick =>
    exact ⟨⟨node, .tick output :: s.log⟩, output, by rw [offboardStep, htick]; rfl, rfl, h⟩
  · cases h

/-- On the ground, a waypoint at 7 m, then no other: two seconds later the
takeoff setpoint is published and not the hover setpoint of the waypoint. -/
theorem takeoff_after_waypoint : ∃ s w completed p,
    (offboardSystem (F := Option ℚ) Params.defaults identityTf2 1).Reach
      Transition.System.anyStep s ∧
    lastWaypoint s.log = some (w, completed) ∧
    freshWaypoint Params.defaults s.node (tickAt 2).fresh = none ∧
    Publishes Params.defaults identityTf2 1 s (tickAt 2) p ∧ p.1 = .takeoff ∧
    standingSetpoint identityTf2 1 s.node w.pose (tickAt 2).setpoint ≠ some p.2 := by
  obtain ⟨s, hr, hs⟩ := Transition.System.exists_reach_of_runWhile
    (S := offboardSystem (F := Option ℚ) Params.defaults identityTf2 1) Transition.System.anyStep
    [.odom (poseAt 0), .waypoint (waypointAt 7) 0]
    (fun s => decide (lastWaypoint s.log = some (waypointAt 7, false) ∧
        freshWaypoint Params.defaults s.node (tickAt 2).fresh = none) &&
      (tickSetpoint s (tickAt 2)).any fun p : Published (Option ℚ) => decide (p.1 = .takeoff ∧
        standingSetpoint identityTf2 1 s.node (waypointAt 7).pose (tickAt 2).setpoint ≠ some p.2))
    rfl (by decide +kernel)
  rw [Bool.and_eq_true, decide_eq_true_eq, Option.any_eq_true] at hs
  obtain ⟨⟨hw, hstale⟩, p, hp, hend⟩ := hs
  obtain ⟨htakeoff, hother⟩ := of_decide_eq_true hend
  exact ⟨s, _, _, p, hr, hw, hstale, publishes_of_tickSetpoint hp, htakeoff, hother⟩

/-- Takeoff to 1 m, then a waypoint at 3 m, then no other: two seconds
later the hover setpoint of the waypoint is published. -/
theorem hold_last_waypoint_after_takeoff : ∃ s : OffboardRun ℚ (Option ℚ),
    lastWaypoint s.log = some (waypointAt 3, true) ∧
    (∃ msg, Publishes Params.defaults identityTf2 1 s (tickAt 2) (.hover, msg)) ∧
    ∀ p, Publishes Params.defaults identityTf2 1 s (tickAt 2) p →
      standingSetpoint identityTf2 1 s.node (poseAt 3) (tickAt 2).setpoint = some p.2 := by
  obtain ⟨s, hr, hs⟩ := Transition.System.exists_reach_of_runWhile
    (S := offboardSystem (F := Option ℚ) Params.defaults identityTf2 1) Transition.System.anyStep
    [.odom (poseAt 0), .timer (tickAt 0), .odom (poseAt 1), .timer (tickAt 0),
      .waypoint (waypointAt 3) 0]
    (fun s => decide (lastWaypoint s.log = some (waypointAt 3, true) ∧
      freshWaypoint Params.defaults s.node (tickAt 2).fresh = none))
    rfl (by decide +kernel)
  obtain ⟨hw, hstale⟩ := of_decide_eq_true hs
  obtain ⟨hcomplete, _, hsettled⟩ := hold_last_waypoint hr hw (tickAt 2) hstale
  obtain ⟨hdone, hno⟩ := hsettled rfl
  exact ⟨s, hw, (hcomplete hdone).1, (hcomplete hdone).2.2 hno⟩

end Nav3D.Px4

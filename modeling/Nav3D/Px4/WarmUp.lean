/-
Nav3D.Px4.WarmUp — when `OffboardControl::timerCallback` commands offboard
mode and arming.

PX4 accepts offboard mode only while setpoints are streaming. The node
counts ticks and not setpoints (`offboard_setpoint_counter_`), and both
`publishTakeoffSetpoint` and `publishHoverSetpoint` can return without
publishing. That no counted tick does so is the invariant `held`: once a
takeoff altitude is known, a setpoint to hold is known as well.
-/
import Nav3D.Px4.HoldWaypoint
import Mathlib.Tactic.Linarith

namespace Nav3D.Px4

/-! ## What is used of the arithmetic of doubles -/

/-- Laws of the comparison of doubles (a NaN on either side makes it false)
and of `rclcpp::Duration::seconds()`, a division rounded monotonically. -/
class LawfulDouble (D : Type) [Double D] : Prop where
  le_of_lt {a b : D} : a < b → a ≤ b
  le_trans {a b c : D} : a ≤ b → b ≤ c → a ≤ c
  tenth_le_tenth : (0.1 : D) ≤ 0.1
  seconds_le_seconds {m n : Int} : m ≤ n → Double.seconds (D := D) m ≤ Double.seconds n
  /-- No duration that is not positive lasts a tenth of a second. -/
  pos_of_tenth_le {n : Int} : (0.1 : D) ≤ Double.seconds n → 0 < n

section Double

variable {D : Type} [Double D] [LawfulDouble D]

/-- A positive lower bound stays one under `std::max`. -/
theorem tenth_le_stdMax (a : D) : (0.1 : D) ≤ stdMax 0.1 a := by
  unfold stdMax
  split
  · next h => exact LawfulDouble.le_of_lt h
  · exact LawfulDouble.tenth_le_tenth

end Double

/-! ## Runs with their ticks -/

/-- A tick that has returned. -/
structure Tick (F : Type) where
  clock : TickClock
  output : TickOutput F

/-- The tick published a `TrajectorySetpoint`. -/
def Tick.publishes {F : Type} (tick : Tick F) : Bool := tick.output.setpoint.isSome

/-- The tick sent the set-mode and arm commands. -/
def Tick.sends {F : Type} (tick : Tick F) : Bool := !tick.output.commands.isEmpty

/-- The node with the ticks of its run, newest first. -/
structure TickRun (D F : Type) where
  node : OffboardControl D F
  ticks : List (Tick F)

section Node

variable {D F : Type} [Double D] [CppFloat D F]

/-- One callback; a tick is recorded. -/
def tickStep (params : Params D) (tf2 : Tf2 D) (rounds : Nat) (s : TickRun D F) :
    Callback D F → Option (TickRun D F)
  | .odom msg => some { s with node := odomCallback params s.node msg }
  | .vehicleLocalPosition msg => some { s with node := vehicleLocalPositionCallback s.node msg }
  | .vehicleStatus msg => some { s with node := vehicleStatusCallback s.node msg }
  | .waypoint msg now => do
    let node ← waypointCallback tf2 rounds s.node msg now
    return { s with node := node }
  | .timer clock => do
    let (node, output) ← timerCallback params tf2 rounds s.node clock
    return ⟨node, ⟨clock, output⟩ :: s.ticks⟩

/-- The node under any sequence of callbacks, with its ticks. -/
def tickSystem (params : Params D) (tf2 : Tf2 D) (rounds : Nat) :
    Transition.System (TickRun D F) (Callback D F) where
  init := fun s => s = ⟨.initial, []⟩
  step := tickStep params tf2 rounds

variable {params : Params D} {tf2 : Tf2 D} {rounds : Nat}

/-! ## What a tick does to the command members -/

/-- The members that `sendCommands` reads of its earlier calls are the
same. -/
structure SameCommands (s s' : OffboardControl D F) : Prop where
  counter : s'.offboardSetpointCounter = s.offboardSetpointCounter
  sent : s'.offboardCommandSent = s.offboardCommandSent
  time : s'.lastOffboardCommandTime = s.lastOffboardCommandTime

omit [CppFloat D F] in
theorem sameCommands_isTakeoffComplete (s : OffboardControl D F) :
    SameCommands s (isTakeoffComplete params s).1 := by
  rw [isTakeoffComplete_fields]
  exact ⟨rfl, rfl, rfl⟩

omit [CppFloat D F] in
theorem sameCommands_initTakeoff (s : OffboardControl D F) (odom : Pose D) :
    SameCommands s (initTakeoff params tf2 s odom) := by
  unfold initTakeoff
  split <;> exact ⟨rfl, rfl, rfl⟩

theorem sameCommands_publishTakeoffSetpoint {s s' : OffboardControl D F} {now : Int}
    {p : Option (Published F)} (h : publishTakeoffSetpoint params tf2 rounds s now = some (s', p)) :
    SameCommands s s' := by
  unfold publishTakeoffSetpoint at h
  split at h
  · cases h
    exact ⟨rfl, rfl, rfl⟩
  · next odom _ =>
    have hinit : SameCommands s (initTakeoff params tf2 s odom) := sameCommands_initTakeoff s odom
    dsimp only at h
    split at h
    · rw [Option.bind_eq_bind, Option.bind_eq_some_iff] at h
      obtain ⟨msg, _, hret⟩ := h
      cases hret
      exact ⟨hinit.counter, hinit.sent, hinit.time⟩
    · cases h

/-- The choice of a setpoint leaves the command members. -/
theorem sameCommands_publishSetpoint {s s' : OffboardControl D F} {clock : TickClock}
    {p : Option (Published F)} (h : publishSetpoint params tf2 rounds s clock = some (s', p)) :
    SameCommands s s' := by
  unfold publishSetpoint at h
  split at h
  · cases h
    exact ⟨rfl, rfl, rfl⟩
  · have hcomplete : SameCommands s (isTakeoffComplete params s).1 :=
      sameCommands_isTakeoffComplete s
    obtain ⟨s₁, complete⟩ := isTakeoffComplete params s
    dsimp only at h hcomplete
    split at h
    · obtain ⟨rfl, _⟩ := publishHoverSetpoint_spec h
      exact hcomplete
    · have htakeoff := sameCommands_publishTakeoffSetpoint h
      exact ⟨htakeoff.counter.trans hcomplete.counter, htakeoff.sent.trans hcomplete.sent,
        htakeoff.time.trans hcomplete.time⟩

/-- What a tick does once its setpoint has been chosen: it is counted, it
sends the commands, or it does neither. -/
inductive CommandEffect (params : Params D) (s : OffboardControl D F) (clock : TickClock) :
    OffboardControl D F → List (VehicleCommand F) → Prop
  | counted {s'} : s.offboardSetpointCounter < requiredSetpoints params →
      s'.offboardSetpointCounter = s.offboardSetpointCounter + 1 →
      s'.offboardCommandSent = s.offboardCommandSent →
      s'.lastOffboardCommandTime = s.lastOffboardCommandTime →
      CommandEffect params s clock s' []
  | sent {s'} : ¬ s.offboardSetpointCounter < requiredSetpoints params →
      (s.offboardCommandSent = true → stdMax 0.1 params.offboardCommandRetryS ≤
        Double.seconds (clock.now - s.lastOffboardCommandTime)) →
      s'.offboardSetpointCounter = s.offboardSetpointCounter →
      s'.offboardCommandSent = true → s'.lastOffboardCommandTime = clock.now →
      CommandEffect params s clock s' (offboardCommands clock)
  | rested {s'} : SameCommands s s' → CommandEffect params s clock s' []

/-- **Command inversion.** -/
theorem commandEffect_sendCommands (s : OffboardControl D F) (clock : TickClock) :
    CommandEffect params s clock (sendCommands params s clock).1
      (sendCommands params s clock).2 := by
  unfold sendCommands
  split
  · next hcount => exact .counted hcount rfl rfl rfl
  · next hcount =>
    dsimp only
    split
    · next hdue =>
      refine .sent hcount (fun hsent => ?_) rfl rfl rfl
      rw [Bool.and_eq_true, hsent] at hdue
      simpa using hdue.2
    · exact .rested ⟨rfl, rfl, rfl⟩

/-- A command effect is about the command members only. -/
theorem CommandEffect.of_sameCommands {s₀ s s' : OffboardControl D F} {clock : TickClock}
    {commands : List (VehicleCommand F)} (hsame : SameCommands s₀ s)
    (h : CommandEffect params s clock s' commands) : CommandEffect params s₀ clock s' commands := by
  cases h with
  | counted hcount hcounter hsent htime =>
    rw [hsame.counter] at hcount hcounter
    exact .counted hcount hcounter (hsent.trans hsame.sent) (htime.trans hsame.time)
  | sent hcount hdue hcounter hsent htime =>
    rw [hsame.counter] at hcount hcounter
    rw [hsame.sent, hsame.time] at hdue
    exact .sent hcount hdue hcounter hsent htime
  | rested hrest =>
    exact .rested ⟨hrest.counter.trans hsame.counter, hrest.sent.trans hsame.sent,
      hrest.time.trans hsame.time⟩

/-- Without odometry a tick ends after the heartbeat; otherwise it ends
with the commands. -/
theorem commandEffect_of_timerCallback {s s' : OffboardControl D F} {clock : TickClock}
    {output : TickOutput F} (h : timerCallback params tf2 rounds s clock = some (s', output)) :
    (s.currentOdom = none ∧ s' = s ∧ output.commands = []) ∨
      (s.currentOdom.isSome = true ∧ CommandEffect params s clock s' output.commands) := by
  unfold timerCallback at h
  cases hodom : s.currentOdom with
  | none =>
    rw [hodom] at h
    cases h
    exact .inl ⟨rfl, rfl, rfl⟩
  | some odom =>
    rw [hodom] at h
    dsimp only at h
    rw [Option.bind_eq_bind, Option.bind_eq_some_iff] at h
    obtain ⟨⟨s₁, setpoint⟩, hpub, hret⟩ := h
    cases hret
    exact .inr ⟨rfl, (commandEffect_sendCommands s₁ clock).of_sameCommands
      (sameCommands_publishSetpoint hpub)⟩

/-! ## A tick with odometry publishes -/

/-- Once a takeoff altitude is known there is a setpoint to hold. -/
def Held (s : OffboardControl D F) : Prop :=
  s.takeoffTargetAltitude.isSome = true → s.lastValidSetpointEnu.isSome = true

/-- With odometry, a tick of a node that has a setpoint to hold
publishes, and leaves such a node. -/
theorem publishes_of_tickEffect {s s' : OffboardControl D F} {clock : TickClock}
    {output : TickOutput F} (hs : Held s) (h : TickEffect params tf2 rounds s clock s' output) :
    Held s' ∧ (s.currentOdom.isSome = true → output.setpoint.isSome = true) := by
  cases h with
  | noOdometry hodom _ => exact ⟨hs, fun hsome => by rw [hodom] at hsome; cases hsome⟩
  | fresh _ hout hsame =>
    refine ⟨?_, fun _ => by rw [hout]; rfl⟩
    rw [Held, hsame.altitude, hsame.lastValid]
    exact hs
  | hover _ _ _ _ hout hsame =>
    refine ⟨?_, fun _ => by rw [hout]; rfl⟩
    rw [Held, hsame.altitude, hsame.lastValid]
    exact hs
  | nothingToHold _ hdone hlast =>
    -- completion knows the altitude, so there is something to hold
    have hheld := hs (known_of_isTakeoffComplete hdone).2
    rw [hlast] at hheld
    cases hheld
  | takeoff _ _ hout _ _ hheld =>
    exact ⟨fun _ => by rw [hheld]; rfl, fun _ => by rw [hout]; rfl⟩

end Node

/-! ## The invariant -/

section Invariant

variable {D F : Type} [Double D] {params : Params D}

/-- The rate of the timer: the constructor's period is its inverse. -/
def timerRate (params : Params D) : D := stdMax 1e-3 params.controlRateHz

/-- The number of setpoints that `offboard_warmup_s` asks for at the rate
of the timer, at least one. -/
def warmUpCount (params : Params D) : Nat :=
  max 1 (Double.ceil (stdMax 0.0 params.offboardWarmupS * timerRate params)).toNat

/-- The period between two commands. -/
def retryPeriod (params : Params D) : D := stdMax 0.1 params.offboardCommandRetryS

/-- The machine's `required_setpoints` is that number. -/
theorem requiredSetpoints_toNat (params : Params D) :
    (requiredSetpoints params).toNat = warmUpCount params := by
  unfold requiredSetpoints warmUpCount timerRate
  dsimp only
  split
  · next h => have hone := UInt64.lt_iff_toNat_lt.mp h; simp at hone; omega
  · next h => rw [UInt64.lt_iff_toNat_lt] at h; simp at h ⊢; omega

/-- Every tick that sent the commands published a setpoint and came after
the warm-up. -/
def WarmedUp (params : Params D) (ticks : List (Tick F)) : Prop :=
  ∀ later tick earlier, ticks = later ++ tick :: earlier → tick.sends = true →
    tick.publishes = true ∧ warmUpCount params ≤ earlier.countP Tick.publishes

/-- Any two ticks that sent the commands are the retry period apart. -/
def SpacedOut (params : Params D) (ticks : List (Tick F)) : Prop :=
  ticks.Pairwise fun later earlier => later.sends = true → earlier.sends = true →
    retryPeriod params ≤ Double.seconds (later.clock.now - earlier.clock.now)

/-- What holds of the node and its ticks in every reachable state. -/
structure WarmUpInv (params : Params D) (s : TickRun D F) : Prop where
  held : Held s.node
  /-- Each counted tick has published. -/
  counted : s.node.offboardSetpointCounter.toNat ≤ s.ticks.countP Tick.publishes
  warm : WarmedUp params s.ticks
  /-- The remembered time of the commands is the latest. -/
  latest : ∀ tick ∈ s.ticks, tick.sends = true →
    s.node.offboardCommandSent = true ∧ tick.clock.now ≤ s.node.lastOffboardCommandTime
  spaced : SpacedOut params s.ticks

/-- No tick has been taken initially. -/
theorem warmUpInv_init : WarmUpInv params (⟨.initial, []⟩ : TickRun D F) where
  held := fun h => by cases h
  counted := Nat.le_refl _
  warm := fun later _ _ heq => by cases later <;> cases heq
  latest := fun _ hmem => by cases hmem
  spaced := .nil

theorem WarmedUp.cons {ticks : List (Tick F)} {tick : Tick F} (hs : WarmedUp params ticks)
    (h : tick.sends = true →
      tick.publishes = true ∧ warmUpCount params ≤ ticks.countP Tick.publishes) :
    WarmedUp params (tick :: ticks) := by
  intro later tick' earlier heq hsends
  cases later with
  | nil =>
    cases heq
    exact h hsends
  | cons first later =>
    obtain ⟨_, hrest⟩ := List.cons.inj heq
    exact hs later tick' earlier hrest hsends

/-- A tick that sends no command is after all of them. -/
theorem SpacedOut.cons_quiet {ticks : List (Tick F)} {tick : Tick F} (hs : SpacedOut params ticks)
    (hquiet : tick.sends = false) : SpacedOut params (tick :: ticks) :=
  List.pairwise_cons.mpr ⟨fun _ _ hsends => absurd (hquiet.symm.trans hsends) Bool.false_ne_true, hs⟩

/-- A callback that keeps the setpoint to hold and the command members
keeps the invariant. -/
theorem warmUpInv_callback {s : TickRun D F} {node : OffboardControl D F}
    (hs : WarmUpInv params s) (hheld : Held node) (hsame : SameCommands s.node node) :
    WarmUpInv params { s with node := node } where
  held := hheld
  counted := by rw [hsame.counter]; exact hs.counted
  warm := hs.warm
  latest := by rw [hsame.sent, hsame.time]; exact hs.latest
  spaced := hs.spaced

/-- A tick without commands keeps the invariant, when it is counted only
if it has published. -/
theorem warmUpInv_quiet {s : TickRun D F} {node : OffboardControl D F} {tick : Tick F}
    (hs : WarmUpInv params s) (hheld : Held node) (hquiet : tick.sends = false)
    (hcount : node.offboardSetpointCounter.toNat ≤ (tick :: s.ticks).countP Tick.publishes)
    (hsent : node.offboardCommandSent = s.node.offboardCommandSent)
    (htime : node.lastOffboardCommandTime = s.node.lastOffboardCommandTime) :
    WarmUpInv params ⟨node, tick :: s.ticks⟩ where
  held := hheld
  counted := hcount
  warm := hs.warm.cons fun hsends => by rw [hquiet] at hsends; cases hsends
  latest := by
    intro tick' hmem hsends
    rcases List.mem_cons.mp hmem with rfl | hmem
    · rw [hquiet] at hsends; cases hsends
    · rw [hsent, htime]
      exact hs.latest tick' hmem hsends
  spaced := hs.spaced.cons_quiet hquiet

/-- No count is lost by a further tick. -/
theorem counted_cons {s : TickRun D F} (hs : WarmUpInv params s) (tick : Tick F) :
    s.node.offboardSetpointCounter.toNat ≤ (tick :: s.ticks).countP Tick.publishes := by
  have hcount := hs.counted
  rw [List.countP_cons]
  omega

variable [LawfulDouble D]

/-- Commands that are due are the retry period after all earlier ones, and
later than them. -/
theorem due_after_latest {s : TickRun D F} (hs : WarmUpInv params s) {now : Int}
    (hdue : s.node.offboardCommandSent = true →
      retryPeriod params ≤ Double.seconds (now - s.node.lastOffboardCommandTime))
    {tick : Tick F} (hmem : tick ∈ s.ticks) (hsends : tick.sends = true) :
    tick.clock.now ≤ now ∧ retryPeriod params ≤ Double.seconds (now - tick.clock.now) := by
  obtain ⟨hsent, hlatest⟩ := hs.latest tick hmem hsends
  have hperiod := hdue hsent
  have hpos : 0 < now - s.node.lastOffboardCommandTime :=
    LawfulDouble.pos_of_tenth_le (D := D)
      (LawfulDouble.le_trans (tenth_le_stdMax params.offboardCommandRetryS) hperiod)
  refine ⟨by omega, LawfulDouble.le_trans hperiod (LawfulDouble.seconds_le_seconds ?_)⟩
  omega

/-- The tick that sends the commands keeps the invariant. -/
theorem warmUpInv_sent {s : TickRun D F} {node : OffboardControl D F} {tick : Tick F}
    (hs : WarmUpInv params s) (hheld : Held node) (hpublishes : tick.publishes = true)
    (hwarm : ¬ s.node.offboardSetpointCounter < requiredSetpoints params)
    (hdue : s.node.offboardCommandSent = true →
      retryPeriod params ≤ Double.seconds (tick.clock.now - s.node.lastOffboardCommandTime))
    (hcounter : node.offboardSetpointCounter = s.node.offboardSetpointCounter)
    (hsent : node.offboardCommandSent = true)
    (htime : node.lastOffboardCommandTime = tick.clock.now) :
    WarmUpInv params ⟨node, tick :: s.ticks⟩ where
  held := hheld
  counted := by
    dsimp only
    rw [hcounter]
    exact counted_cons hs tick
  warm := by
    refine hs.warm.cons fun _ => ⟨hpublishes, ?_⟩
    rw [UInt64.lt_iff_toNat_lt, requiredSetpoints_toNat] at hwarm
    exact (Nat.not_lt.mp hwarm).trans hs.counted
  latest := by
    intro tick' hmem hsends
    refine ⟨hsent, ?_⟩
    rw [htime]
    rcases List.mem_cons.mp hmem with rfl | hmem
    · exact le_refl _
    · exact (due_after_latest hs hdue hmem hsends).1
  spaced := by
    refine List.pairwise_cons.mpr ⟨fun earlier hmem _ hsends => ?_, hs.spaced⟩
    exact (due_after_latest hs hdue hmem hsends).2

end Invariant

/-! ## Every run keeps the invariant -/

section Runs

variable {D F : Type} [Double D] [LawfulDouble D] [CppFloat D F]
variable {params : Params D} {tf2 : Tf2 D} {rounds : Nat}

/-- Each tick keeps the invariant. -/
theorem warmUpInv_timer {s : TickRun D F} {node : OffboardControl D F} {clock : TickClock}
    {output : TickOutput F} (hs : WarmUpInv params s)
    (h : timerCallback params tf2 rounds s.node clock = some (node, output)) :
    WarmUpInv params ⟨node, ⟨clock, output⟩ :: s.ticks⟩ := by
  obtain ⟨hheld, hpublishes⟩ := publishes_of_tickEffect hs.held (tickEffect_of_timerCallback h)
  rcases commandEffect_of_timerCallback h with ⟨_, rfl, hnone⟩ | ⟨hodom, heffect⟩
  · have hquiet : Tick.sends ⟨clock, output⟩ = false := by simp [Tick.sends, hnone]
    exact warmUpInv_quiet hs hheld hquiet (counted_cons hs _) rfl rfl
  · have hpub : Tick.publishes ⟨clock, output⟩ = true := hpublishes hodom
    generalize hcommands : output.commands = commands at heffect
    cases heffect with
    | counted hcount hcounter hsent htime =>
      have hquiet : Tick.sends ⟨clock, output⟩ = false := by simp [Tick.sends, hcommands]
      refine warmUpInv_quiet hs hheld hquiet ?_ hsent htime
      -- the counter is below a 64-bit number, so it does not wrap
      have hcounted := hs.counted
      have hbound := UInt64.lt_iff_toNat_lt.mp hcount
      have hmax := (requiredSetpoints params).toNat_lt
      rw [List.countP_cons, if_pos hpub, hcounter, UInt64.toNat_add, UInt64.toNat_one,
        Nat.mod_eq_of_lt (by omega)]
      omega
    | sent hwarm hdue hcounter hsent htime =>
      exact warmUpInv_sent hs hheld hpub hwarm hdue hcounter hsent htime
    | rested hrest =>
      have hquiet : Tick.sends ⟨clock, output⟩ = false := by simp [Tick.sends, hcommands]
      refine warmUpInv_quiet hs hheld hquiet ?_ hrest.sent hrest.time
      rw [hrest.counter]
      exact counted_cons hs _

/-- The invariant holds in every reachable state. -/
theorem warmUpInv_of_reach {s : TickRun D F}
    (h : (tickSystem params tf2 rounds).Reach Transition.System.anyStep s) :
    WarmUpInv params s := by
  refine h.invariant _ (fun s hs => ?_) (fun s c s' hs _ hstep => ?_)
  · cases hs
    exact warmUpInv_init
  · cases c with
    | odom msg =>
      cases hstep
      obtain ⟨offset, hoffset⟩ : ∃ offset, updateOffset params { s.node with currentOdom := some msg }
          = { s.node with currentOdom := some msg, odomToPx4Offset := offset } :=
        updateOffset_fields _
      rw [odomCallback, hoffset]
      exact warmUpInv_callback hs hs.held ⟨rfl, rfl, rfl⟩
    | vehicleLocalPosition msg =>
      cases hstep
      exact warmUpInv_callback hs hs.held ⟨rfl, rfl, rfl⟩
    | vehicleStatus msg =>
      cases hstep
      exact warmUpInv_callback hs hs.held ⟨rfl, rfl, rfl⟩
    | waypoint msg now =>
      change ((waypointCallback tf2 rounds s.node msg now).bind _) = some s' at hstep
      obtain ⟨node, hnode, hret⟩ := Option.bind_eq_some_iff.mp hstep
      cases hret
      rw [waypointCallback, Option.bind_eq_bind, Option.bind_eq_some_iff] at hnode
      obtain ⟨ned, _, hret⟩ := hnode
      cases hret
      exact warmUpInv_callback hs (fun _ => rfl) ⟨rfl, rfl, rfl⟩
    | timer clock =>
      change ((timerCallback params tf2 rounds s.node clock).bind _) = some s' at hstep
      obtain ⟨⟨node, output⟩, htick, hret⟩ := Option.bind_eq_some_iff.mp hstep
      cases hret
      exact warmUpInv_timer hs htick

/-! ## The result -/

/-- **Warm-up.** In every run a tick that sends the set-mode and arm
commands publishes a setpoint itself, and `warmUpCount` ticks before it
have each published one; and any two such ticks are the retry period
apart on the node's clock. -/
theorem commands_after_warm_up {s : TickRun D F}
    (h : (tickSystem params tf2 rounds).Reach Transition.System.anyStep s) :
    (∀ later tick earlier, s.ticks = later ++ tick :: earlier → tick.sends = true →
      tick.publishes = true ∧ warmUpCount params ≤ earlier.countP Tick.publishes) ∧
    s.ticks.Pairwise (fun later earlier => later.sends = true → earlier.sends = true →
      retryPeriod params ≤ Double.seconds (later.clock.now - earlier.clock.now)) :=
  ⟨(warmUpInv_of_reach h).warm, (warmUpInv_of_reach h).spaced⟩

end Runs

/-! ## A run over exact numbers -/

instance : LawfulDouble ℚ where
  le_of_lt := le_of_lt
  le_trans := le_trans
  tenth_le_tenth := le_refl _
  seconds_le_seconds := fun {m n} h => by
    have hcast : (m : ℚ) ≤ n := by exact_mod_cast h
    change (m : ℚ) / 1000000000 ≤ n / 1000000000
    gcongr
  pos_of_tenth_le := fun {n} h => by
    change (0.1 : ℚ) ≤ n / 1000000000 at h
    have hpos : (0 : ℚ) < n := by linarith
    exact_mod_cast hpos

/-- A warm-up of two ticks. -/
def shortWarmUp : Params ℚ := { Params.defaults with offboardWarmupS := 0.04 }

/-- Two ticks warm up; the third sends the commands, and the one two
seconds later sends them again. -/
theorem commands_after_two_ticks : ∃ s : TickRun ℚ (Option ℚ),
    s.ticks.map Tick.sends = [true, true, false, false] ∧ warmUpCount shortWarmUp = 2 ∧
    (∀ later tick earlier, s.ticks = later ++ tick :: earlier → tick.sends = true →
      tick.publishes = true ∧ warmUpCount shortWarmUp ≤ earlier.countP Tick.publishes) ∧
    s.ticks.Pairwise (fun later earlier => later.sends = true → earlier.sends = true →
      retryPeriod shortWarmUp ≤ Double.seconds (later.clock.now - earlier.clock.now)) := by
  obtain ⟨s, hr, hs⟩ := Transition.System.exists_reach_of_runWhile
    (S := tickSystem (F := Option ℚ) shortWarmUp identityTf2 1) Transition.System.anyStep
    [.odom (poseAt 0), .timer (tickAt 0), .timer (tickAt 0), .timer (tickAt 1),
      .timer (tickAt 3)]
    (fun s => decide (s.ticks.map Tick.sends = [true, true, false, false] ∧
      warmUpCount shortWarmUp = 2))
    rfl (by decide +kernel)
  obtain ⟨hsends, hcount⟩ := of_decide_eq_true hs
  exact ⟨s, hsends, hcount, commands_after_warm_up hr⟩

end Nav3D.Px4

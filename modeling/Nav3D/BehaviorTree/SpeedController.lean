/-
Nav3D.BehaviorTree.SpeedController — the decorator that ticks its child at a
rate that grows with the speed (`plugins/decorator/speed_controller.cpp`).

The constructor refuses rates that are not positive. It looks neither at
the speeds nor at the order of the limits: with equal speeds `getScaledRate`
divides by zero, and with reversed limits the rate leaves its bounds or
falls when the speed grows. `rate_scaling_wellDefined` has the exact
condition.

Numbers are exact, and a division by zero is `none`. The clock is read where
the code reads it, with any values, in nanoseconds. `rates`, `periods` and
`undefined` are no members: they record the speed and the rate of each
update, `period_` whenever it is compared or set by an update, and whether
there has been a division by zero.
-/
import Nav3D.BehaviorTree.ChildLeftRunning
import Nav3D.Lib.ClampedScale
import Mathlib.Algebra.Order.Archimedean.Basic

namespace Nav3D.BehaviorTree.SpeedController

open BT ClampedScale StateInvariant Transition
open ChildLeftRunning (Decorated Label cell child update)
open GoalUpdatedController (ChildTick Entries getInputOrBlackboard)
open Nav3D.BtNavigator (Numbers)
open Nav3D.Px4 (Twist)

/-! ## The constructor -/

/-- The ports. -/
structure Ports (K : Type) where
  minRate : Option K
  maxRate : Option K
  minSpeed : Option K
  maxSpeed : Option K

/-- The members that the constructor sets. -/
structure Params (K : Type) where
  minRate : K
  maxRate : K
  dRate : K
  minSpeed : K
  maxSpeed : K
  dSpeed : K
  deriving DecidableEq

/-- The other members, and the records. -/
structure Members (K G L : Type) where
  firstTick : Bool
  period : K
  start : Int
  goal : G
  goals : L
  rates : List (K × K)
  periods : List K
  undefined : Bool

/-- What one tick reads. -/
structure Inputs (K G L : Type) where
  entries : Entries G L
  /-- `now()` when the node is activated. -/
  activatedAt : Int
  /-- `now()` when the goals have changed. -/
  changedAt : Int
  /-- `now()` for the time that has elapsed. -/
  now : Int
  /-- `now()` after an update. -/
  updatedAt : Int
  /-- `OdomSmoother::getTwist`. -/
  velocity : Twist K

section Node

variable {K G L : Type} [Field K] [LinearOrder K] [DecidableEq G] [DecidableEq L] [Inhabited G]
  [Inhabited L] (numbers : Numbers K) (p : Params K)

/-- The constructor, which may throw. -/
def construct (ports : Ports K) : Except String (Params K) :=
  let minRate := ports.minRate.getD 0.1
  let maxRate := ports.maxRate.getD 1.0
  let minSpeed := ports.minSpeed.getD 0.0
  let maxSpeed := ports.maxSpeed.getD 0.5
  if minRate ≤ 0 ∨ maxRate ≤ 0 then .error "SpeedController node cannot have rate <= 0.0"
  else .ok ⟨minRate, maxRate, maxRate - minRate, minSpeed, maxSpeed, maxSpeed - minSpeed⟩

omit [LinearOrder K] [DecidableEq G] [DecidableEq L] in
/-- What it leaves of the other members. -/
def Members.initial : Members K G L where
  firstTick := false
  period := 1.0
  start := 0
  goal := default
  goals := default
  rates := []
  periods := []
  undefined := false

/-! ## `tick` -/

/-- A division, undefined for zero. -/
def divide (x y : K) : Option K := if y = 0 then none else some (x / y)

/-- `getScaledRate`. -/
def getScaledRate (speed : K) : Option K := do
  let ratio ← divide (speed - p.minSpeed) p.dSpeed
  return max (min (ratio * p.dRate + p.minRate) p.maxRate) p.minRate

/-- `updatePeriod`. -/
def Members.updatePeriod (velocity : Twist K) (m : Members K G L) : Option (Members K G L) := do
  let speed := numbers.hypot2 velocity.linear.x velocity.linear.y
  let rate ← getScaledRate p speed
  let period ← divide 1 rate
  return { m with
    period := period
    rates := (speed, rate) :: m.rates
    periods := period :: m.periods }

/-- The first block of the tick. -/
def Members.activate (inputs : Inputs K G L) (m : Members K G L) : Option (Members K G L) := do
  let period ← divide 1 p.maxRate
  return { m with
    goals := getInputOrBlackboard inputs.entries.goals m.goals
    goal := getInputOrBlackboard inputs.entries.goal m.goal
    period := period
    start := inputs.activatedAt
    firstTick := true }

/-- The second block. -/
def Members.checkGoals (inputs : Inputs K G L) (m : Members K G L) : Option (Members K G L) := do
  let current := inputs.entries.current
  if m.goal ≠ current.1 ∨ m.goals ≠ current.2 then
    let period ← divide 1 p.maxRate
    return { m with
      period := period
      start := inputs.changedAt
      firstTick := true
      goal := current.1
      goals := current.2 }
  else return m

/-- `rclcpp::Duration::seconds`. -/
def seconds (nanoseconds : Int) : K := nanoseconds / 10 ^ 9

abbrev SpeedM (K G L : Type) := EStateM Unit (Decorated (Members K G L))

/-- A block of the tick that divides. -/
def dividing (block : Members K G L → Option (Members K G L)) : SpeedM K G L PUnit := do
  match block (← get).members with
  | some m => update fun _ => m
  | none => do
    update fun m => { m with undefined := true }
    throw ()

def activateIdle (inputs : Inputs K G L) : SpeedM K G L PUnit := do
  if (← get).status.isActive then pure ⟨⟩ else dividing (Members.activate p inputs)

/-- The update of a period that is over. -/
def updateElapsed (inputs : Inputs K G L) (elapsed : K) : SpeedM K G L PUnit := do
  if (← get).members.period ≤ elapsed then do
    dividing (Members.updatePeriod numbers p inputs.velocity)
    update fun m => { m with start := inputs.updatedAt }
  else pure ⟨⟩

/-- `SpeedController::tick()`. -/
def tick (inputs : Inputs K G L) (child : TreeNode Unit (Decorated (Members K G L))) :
    SpeedM K G L NodeStatus := do
  activateIdle p inputs
  dividing (Members.checkGoals p inputs)
  modify (cell.setStatus .running)
  let s ← get
  let elapsed := seconds (inputs.now - s.members.start)
  update fun m => { m with periods := m.period :: m.periods }
  if s.members.firstTick = true ∨ child.status s = .running ∨ s.members.period ≤ elapsed then do
    update fun m => { m with firstTick := false }
    updateElapsed numbers p inputs elapsed
    child.executeTick
  else return s.status

def system : System (Decorated (Members K G L)) (Label (Inputs K G L)) :=
  ChildLeftRunning.decoratorSystem (tick numbers p) Members.initial

/-! ## What is wanted -/

/-- A period that belongs to a rate between the limits. -/
structure InRange (period : K) : Prop where
  pos : 0 < period
  le : 1 / p.maxRate ≤ period
  ge : period ≤ 1 / p.minRate

/-- No division by zero, rates between the limits that do not fall when the
speed grows, and periods that belong to such rates. -/
structure WellDefined (m : Members K G L) : Prop where
  defined : m.undefined = false
  minRate_le : ∀ r ∈ m.rates, p.minRate ≤ r.2
  le_maxRate : ∀ r ∈ m.rates, r.2 ≤ p.maxRate
  monotone : ∀ r ∈ m.rates, ∀ q ∈ m.rates, r.1 ≤ q.1 → r.2 ≤ q.2
  periods : ∀ period ∈ m.periods, InRange p period

/-- The limits of the rate are in order, and those of the speed differ. They
are in order too, or the rate has one value, or no speed is less than
`min_speed`. -/
structure Scalable : Prop where
  rates : p.minRate ≤ p.maxRate
  speeds : p.minSpeed ≠ p.maxSpeed
  grows : p.minRate = p.maxRate ∨ p.minSpeed < p.maxSpeed ∨ p.minSpeed ≤ 0

/-- Two properties of `std::hypot`. -/
structure LawfulHypot : Prop where
  nonneg : ∀ x y, 0 ≤ numbers.hypot2 x y
  axis : ∀ x, numbers.hypot2 x 0 = |x|

/-! ## The parameters -/

variable {p} {ports : Ports K}

/-- What the constructor has checked and set. -/
structure Accepted (p : Params K) : Prop where
  minRate_pos : 0 < p.minRate
  maxRate_pos : 0 < p.maxRate
  dRate_eq : p.dRate = p.maxRate - p.minRate
  dSpeed_eq : p.dSpeed = p.maxSpeed - p.minSpeed

theorem accepted_of_construct (h : construct ports = .ok p) : Accepted p := by
  unfold construct at h
  simp only at h
  split at h
  · cases h
  · next hrates =>
    cases h
    rw [not_or, not_le, not_le] at hrates
    exact ⟨hrates.1, hrates.2, rfl, rfl⟩

/-- `getScaledRate` as a scale from the speeds to the rates. -/
theorem getScaledRate_eq_some (h : Accepted p) {speed rate : K} :
    getScaledRate p speed = some rate ↔
      p.minSpeed ≠ p.maxSpeed ∧
        rate = clampedScale p.minRate p.maxRate p.minSpeed p.maxSpeed speed := by
  have hzero : p.dSpeed = 0 ↔ p.minSpeed = p.maxSpeed := by
    rw [h.dSpeed_eq, sub_eq_zero, eq_comm]
  unfold getScaledRate divide
  by_cases hspeeds : p.minSpeed = p.maxSpeed
  · simp [hzero, hspeeds]
  · rw [if_neg (mt hzero.mp hspeeds)]
    simp [hspeeds, clampedScale, h.dRate_eq, h.dSpeed_eq, eq_comm]

/-! ## Where the limits scale -/

variable [IsStrictOrderedRing K]

/-- A rate between the limits has a period in range. -/
theorem inRange_one_div (h : Accepted p) {rate : K} (hmin : p.minRate ≤ rate)
    (hmax : rate ≤ p.maxRate) : InRange p (1 / rate) where
  pos := one_div_pos.mpr (h.minRate_pos.trans_le hmin)
  le := one_div_le_one_div_of_le (h.minRate_pos.trans_le hmin) hmax
  ge := one_div_le_one_div_of_le h.minRate_pos hmin

/-- What every block keeps of the records. -/
structure Sound (p : Params K) (m : Members K G L) : Prop where
  defined : m.undefined = false
  rates : ∀ r ∈ m.rates,
    0 ≤ r.1 ∧ r.2 = clampedScale p.minRate p.maxRate p.minSpeed p.maxSpeed r.1
  periods : ∀ period ∈ m.periods, InRange p period

/-- During an activation `period_` is in range. -/
structure Active (p : Params K) (m : Members K G L) : Prop extends Sound p m where
  period : InRange p m.period

omit [DecidableEq G] [DecidableEq L] [Inhabited G] [Inhabited L] in
theorem Sound.activate (h : Accepted p) (hscalable : Scalable p) (inputs : Inputs K G L)
    {m : Members K G L} (hm : Sound p m) : ∃ m', m.activate p inputs = some m' ∧ Active p m' := by
  simp only [Members.activate, divide, if_neg h.maxRate_pos.ne']
  exact ⟨_, rfl, ⟨hm.defined, hm.rates, hm.periods⟩,
    inRange_one_div h hscalable.rates (le_refl _)⟩

theorem Active.checkGoals (h : Accepted p) (hscalable : Scalable p) (inputs : Inputs K G L)
    {m : Members K G L} (hm : Active p m) :
    ∃ m', m.checkGoals p inputs = some m' ∧ Active p m' := by
  simp only [Members.checkGoals, divide, if_neg h.maxRate_pos.ne']
  split
  · exact ⟨_, rfl, ⟨hm.defined, hm.rates, hm.periods⟩,
      inRange_one_div h hscalable.rates (le_refl _)⟩
  · exact ⟨m, rfl, hm⟩

omit [DecidableEq G] [DecidableEq L] [Inhabited G] [Inhabited L] in
theorem Active.updatePeriod {numbers : Numbers K} (hnumbers : LawfulHypot numbers)
    (h : Accepted p) (hscalable : Scalable p) (velocity : Twist K) {m : Members K G L}
    (hm : Active p m) : ∃ m', m.updatePeriod numbers p velocity = some m' ∧ Active p m' := by
  have hrate : getScaledRate p (numbers.hypot2 velocity.linear.x velocity.linear.y) = some _ :=
    (getScaledRate_eq_some h).mpr ⟨hscalable.speeds, rfl⟩
  have hrange : InRange p (1 / clampedScale p.minRate p.maxRate p.minSpeed p.maxSpeed
      (numbers.hypot2 velocity.linear.x velocity.linear.y)) :=
    inRange_one_div h le_clampedScale (clampedScale_le hscalable.rates)
  have hne := one_div_pos.mp hrange.pos
  simp only [Members.updatePeriod, hrate, Option.bind_eq_bind, Option.bind_some, divide,
    if_neg hne.ne']
  refine ⟨_, rfl, ⟨hm.defined, ?_, ?_⟩, hrange⟩
  · rw [List.forall_mem_cons]
    exact ⟨⟨hnumbers.nonneg _ _, rfl⟩, hm.rates⟩
  · rw [List.forall_mem_cons]
    exact ⟨hrange, hm.periods⟩

/-- The members between the blocks. -/
def Keeps (M : Members K G L → Prop) (s : Decorated (Members K G L)) : Prop := M s.members

omit [Field K] [LinearOrder K] [DecidableEq G] [DecidableEq L] [Inhabited G] [Inhabited L]
  [IsStrictOrderedRing K] in
/-- A block that is defined. -/
theorem triple_dividing {M N : Members K G L → Prop}
    {block : Members K G L → Option (Members K G L)} {E : Unit → Decorated (Members K G L) → Prop}
    (hblock : ∀ m, M m → ∃ m', block m = some m' ∧ N m') :
    Triple (Keeps M) (dividing block) (fun _ => Keeps N) E := by
  refine triple_get_bind ?_
  intro s hs
  obtain ⟨m', hm', hN⟩ := hblock s.members hs
  rw [hm']
  exact triple_modify fun _ _ => hN

variable {numbers : Numbers K}

/-- Before a tick the period need be in range only if the node is active. -/
structure Idling (p : Params K) (s : Decorated (Members K G L)) : Prop where
  sound : Sound p s.members
  period : s.status.isActive = true → InRange p s.members.period

theorem triple_tick (hnumbers : LawfulHypot numbers) (h : Accepted p) (hscalable : Scalable p)
    (inputs : Inputs K G L) (t : ChildTick) :
    Triple (Idling p) (tick numbers p inputs (child t false)) (fun _ => Keeps (Active p))
      (fun _ => Keeps (Active p)) := by
  unfold tick
  refine triple_bind (Q := fun _ => Keeps (Active p)) ?_ fun _ => ?_
  · refine triple_get_bind fun s hs => triple_ite (fun hactive => ?_) (fun _ => ?_)
    · apply triple_pure
      rintro _ rfl
      exact ⟨hs.sound, hs.period hactive⟩
    · refine triple_pre (triple_dividing (M := Sound p) (N := Active p) fun m hm =>
        hm.activate h hscalable inputs) ?_
      rintro _ rfl
      exact hs.sound
  refine triple_bind (triple_dividing fun m hm => hm.checkGoals h hscalable inputs) fun _ => ?_
  refine triple_bind (Q := fun _ => Keeps (Active p)) (triple_modify fun _ hs => hs) fun _ => ?_
  refine triple_get_bind fun s hs => ?_
  refine triple_bind (Q := fun _ => Keeps (Active p)) (triple_modify ?_) fun _ => ?_
  · rintro _ rfl
    refine ⟨⟨hs.defined, hs.rates, ?_⟩, hs.period⟩
    rw [List.forall_mem_cons]
    exact ⟨hs.period, hs.periods⟩
  refine triple_ite (fun _ => ?_) (fun _ => triple_pure fun _ hs' => hs')
  refine triple_bind (Q := fun _ => Keeps (Active p)) (triple_modify fun _ hs' => ?_) fun _ => ?_
  · exact ⟨⟨hs'.defined, hs'.rates, hs'.periods⟩, hs'.period⟩
  refine triple_bind (Q := fun _ => Keeps (Active p)) ?_ fun _ => ?_
  · refine triple_get_bind fun s' hs' => triple_ite (fun _ => ?_) (fun _ => ?_)
    · refine triple_bind (triple_pre (triple_dividing (M := Active p) (N := Active p)
        fun m hm => hm.updatePeriod hnumbers h hscalable inputs.velocity) ?_) fun _ => ?_
      · rintro _ rfl
        exact hs'
      · apply triple_modify
        intro _ hs''
        exact ⟨⟨hs''.defined, hs''.rates, hs''.periods⟩, hs''.period⟩
    · apply triple_pure
      rintro _ rfl
      exact hs'
  · refine triple_executeTick_ignored (fun _ _ _ hs' => hs') ?_ fun _ =>
      triple_pure fun _ hs' => hs'
    refine triple_bind (Q := fun _ => Keeps (Active p)) (triple_modify fun _ hs' => hs') fun _ => ?_
    cases t.result with
    | none => exact triple_throw fun _ hs' => hs'
    | some status => exact triple_pure fun _ hs' => hs'

theorem Idling.stepLabel (hnumbers : LawfulHypot numbers) (h : Accepted p)
    (hscalable : Scalable p) {s : Decorated (Members K G L)} (hs : Idling p s)
    (l : Label (Inputs K G L)) : Idling p (ChildLeftRunning.stepLabel (tick numbers p) s l) := by
  have hactive : ∀ s : Decorated (Members K G L), Keeps (Active p) s → Idling p s :=
    fun _ hs => ⟨hs.toSound, fun _ => hs.period⟩
  have hchild : ∀ haltThrows, Triple (Idling p)
      (child (μ := Members K G L) ⟨.idle, none⟩ haltThrows).haltChild (fun _ => Idling p)
      (fun _ => Idling p) := by
    intro haltThrows
    refine triple_haltChild_ignored (fun _ _ hs => ⟨hs.sound, hs.period⟩) ?_
    cases haltThrows with
    | true => exact triple_throw fun _ hs => hs
    | false => exact triple_modify fun _ hs => ⟨hs.sound, hs.period⟩
  have hidle : ∀ s : Decorated (Members K G L), Idling p s → Idling p (cell.setStatus .idle s) :=
    fun _ hs => ⟨hs.sound, fun hstatus => absurd hstatus (by simp [cell, NodeStatus.isActive])⟩
  have hhalt : ∀ haltThrows, Triple (Idling p)
      (ChildLeftRunning.halted (μ := Members K G L) haltThrows).halt (fun _ => Idling p)
      (fun _ => Idling p) :=
    fun haltThrows => triple_bind (hchild haltThrows) fun _ => triple_modify hidle
  cases l with
  | executeTick inputs t =>
    have htick : Triple (Idling p) (ChildLeftRunning.node (tick numbers p) inputs t).executeTick
        (fun _ => Keeps (Active p)) (fun _ => Keeps (Active p)) := by
      refine triple_decorator (fun _ _ _ hs => hs) (fun _ _ _ hs => hs) ?_
      refine triple_bind (triple_tick hnumbers h hscalable inputs t) fun _ => ?_
      exact triple_bind (Q := fun _ => Keeps (Active p)) (triple_modify fun _ hs => hs) fun _ =>
        triple_pure fun _ hs => hs
    exact hactive _ (htick.finalState hs)
  | halt haltThrows => exact (hhalt haltThrows).finalState hs
  | haltChild haltThrows =>
    have hhaltChild : Triple (Idling p)
        (ChildLeftRunning.halted (μ := Members K G L) haltThrows).haltChild (fun _ => Idling p)
        (fun _ => Idling p) :=
      triple_haltChild (triple_pre (hhalt haltThrows) fun _ hs => hs.1) hidle
        fun s hs _ => hidle s hs
    exact hhaltChild.finalState hs
  | resetStatus => exact hidle s hs

omit [DecidableEq G] [DecidableEq L] [Inhabited G] [Inhabited L] in
/-- Records of this kind are well defined. -/
theorem Sound.wellDefined (hscalable : Scalable p) {m : Members K G L} (h : Sound p m) :
    WellDefined p m where
  defined := h.defined
  minRate_le := by
    intro r hr
    rw [(h.rates r hr).2]
    exact le_clampedScale
  le_maxRate := by
    intro r hr
    rw [(h.rates r hr).2]
    exact clampedScale_le hscalable.rates
  monotone := by
    intro r hr q hq hle
    have hmono := (monotoneOn_clampedScale_iff hscalable.rates hscalable.speeds).mpr
      hscalable.grows
    rw [(h.rates r hr).2, (h.rates q hq).2]
    exact hmono (h.rates r hr).1 (h.rates q hq).1 hle
  periods := h.periods

theorem wellDefined_of_scalable (hnumbers : LawfulHypot numbers) (h : Accepted p)
    (hscalable : Scalable p) {s : Decorated (Members K G L)}
    (hs : (system numbers p).Reach System.anyStep s) : WellDefined p s.members := by
  have hinv : Idling p s := by
    refine hs.invariant (Idling p) ?_ ?_
    · intro s hs
      cases hs
      exact ⟨⟨rfl, by simp [Members.initial], by simp [Members.initial]⟩,
        fun hstatus => by simp [NodeStatus.isActive] at hstatus⟩
    · intro s l s' hs _ hrun
      cases hrun
      exact hs.stepLabel hnumbers h hscalable l
  exact hinv.sound.wellDefined hscalable

/-! ## Where they do not -/

omit [Field K] [LinearOrder K] [DecidableEq G] [DecidableEq L] [Inhabited G] [Inhabited L]
  [IsStrictOrderedRing K] in
/-- A block that may be undefined. -/
theorem triple_dividing_or {M N : Members K G L → Prop}
    {block : Members K G L → Option (Members K G L)}
    (hblock : ∀ m m', M m → block m = some m' → N m') :
    Triple (Keeps M) (dividing block) (fun _ => Keeps N)
      (fun _ => Keeps fun m => m.undefined = true) := by
  refine triple_get_bind ?_
  intro s hs
  cases hm : block s.members with
  | some m' => exact triple_modify fun _ _ => hblock _ _ hs hm
  | none =>
    exact triple_bind (Q := fun _ => Keeps fun m => m.undefined = true)
      (triple_modify fun _ _ => rfl) fun _ => triple_throw fun _ hs => hs

/-- What one tick reads when `elapsed` has passed since `start`. -/
def inputsAfter (start : Int) (elapsed : Nat) (velocity : Twist K) : Inputs K G L where
  entries := ⟨none, none⟩
  activatedAt := start
  changedAt := start
  now := start + elapsed
  updatedAt := start + elapsed
  velocity := velocity

/-- An update is due: the period is over when `elapsed` has passed. -/
structure Due (old : Members K G L) (elapsed : Nat) (m : Members K G L) : Prop where
  rates : m.rates = old.rates
  start : m.start = old.start
  period : m.period ≤ seconds elapsed

/-- There has been an update at this velocity. -/
def Updated (numbers : Numbers K) (p : Params K) (old : Members K G L) (velocity : Twist K)
    (m : Members K G L) : Prop :=
  ∃ rate, getScaledRate p (numbers.hypot2 velocity.linear.x velocity.linear.y) = some rate ∧
    m.rates = (numbers.hypot2 velocity.linear.x velocity.linear.y, rate) :: old.rates

omit [IsStrictOrderedRing K] in
/-- A tick after a long time updates the rate, if that is defined. -/
theorem triple_tick_updated (h : Accepted p) (old : Members K G L) (elapsed : Nat)
    (hperiod : old.period ≤ seconds elapsed) (hmaxRate : 1 / p.maxRate ≤ seconds elapsed)
    (velocity : Twist K) :
    Triple (Keeps (· = old))
      (tick numbers p (inputsAfter old.start elapsed velocity)
        (child ⟨.running, some .running⟩ false))
      (fun _ => Keeps (Updated numbers p old velocity))
      (fun _ => Keeps fun m => m.undefined = true) := by
  have hne := h.maxRate_pos.ne'
  unfold tick
  refine triple_bind (Q := fun _ => Keeps (Due old elapsed)) ?_ fun _ => ?_
  · refine triple_get_bind fun s hs => triple_ite (fun _ => ?_) (fun _ => ?_)
    · apply triple_pure
      rintro _ rfl
      rw [Keeps, hs]
      exact ⟨rfl, rfl, hperiod⟩
    · refine triple_pre (triple_dividing_or (M := (· = old)) ?_) ?_
      · rintro m m' rfl hm'
        simp only [Members.activate, divide, if_neg hne] at hm'
        cases hm'
        exact ⟨rfl, rfl, hmaxRate⟩
      · rintro _ rfl
        exact hs
  refine triple_bind (triple_dividing_or (N := Due old elapsed) ?_) fun _ => ?_
  · intro m m' hm hm'
    simp only [Members.checkGoals, divide, if_neg hne] at hm'
    split at hm'
    · cases hm'
      exact ⟨hm.rates, rfl, hmaxRate⟩
    · cases hm'
      exact hm
  refine triple_bind (Q := fun _ => Keeps (Due old elapsed)) (triple_modify fun _ hs => hs)
    fun _ => ?_
  refine triple_get_bind fun s hs => ?_
  have helapsed : (inputsAfter (G := G) (L := L) old.start elapsed velocity).now -
      s.members.start = elapsed := by
    rw [hs.start]
    simp [inputsAfter]
  rw [helapsed]
  refine triple_bind (Q := fun _ => Keeps (Due old elapsed)) (triple_modify ?_) fun _ => ?_
  · rintro _ rfl
    exact ⟨hs.rates, hs.start, hs.period⟩
  refine triple_ite (fun _ => ?_) (fun hnot => absurd (.inr (.inr hs.period)) hnot)
  refine triple_bind (Q := fun _ => Keeps (Due old elapsed)) (triple_modify fun _ hs' => ?_)
    fun _ => ?_
  · exact ⟨hs'.rates, hs'.start, hs'.period⟩
  refine triple_bind (Q := fun _ => Keeps (Updated numbers p old velocity)) ?_ fun _ => ?_
  · refine triple_get_bind fun s' hs' => triple_ite (fun _ => ?_)
      (fun hnot => absurd hs'.period hnot)
    refine triple_bind (Q := fun _ => Keeps (Updated numbers p old velocity))
      (triple_pre (triple_dividing_or (M := Due old elapsed) ?_) ?_) fun _ =>
        triple_modify fun _ hs'' => hs''
    · intro m m' hm hm'
      simp only [Members.updatePeriod, Option.bind_eq_bind, Option.bind_eq_some_iff] at hm'
      obtain ⟨rate, hrate, period, -, hset⟩ := hm'
      cases hset
      refine ⟨rate, hrate, ?_⟩
      rw [← hm.rates]
      rfl
    · rintro _ rfl
      exact hs'
  · refine triple_executeTick_ignored (fun _ _ _ hs' => hs') ?_ fun _ =>
      triple_pure fun _ hs' => hs'
    exact triple_bind (Q := fun _ => Keeps (Updated numbers p old velocity))
      (triple_modify fun _ hs' => hs') fun _ => triple_pure fun _ hs' => hs'

variable [Archimedean K]

/-- From every state a tick can update the rate at any velocity. -/
theorem exists_update (h : Accepted p) {s : Decorated (Members K G L)}
    (hs : (system numbers p).Reach System.anyStep s) (velocity : Twist K) :
    ∃ s', (system numbers p).Reach System.anyStep s' ∧
      (s'.members.undefined = true ∨ Updated numbers p s.members velocity s'.members) := by
  obtain ⟨elapsed, helapsed⟩ :=
    exists_nat_ge (max s.members.period (1 / p.maxRate) * 10 ^ 9)
  have hseconds : max s.members.period (1 / p.maxRate) ≤ seconds (elapsed : Int) := by
    rw [seconds, le_div_iff₀ (by positivity)]
    exact_mod_cast helapsed
  have hperiod := (le_max_left ..).trans hseconds
  have hmaxRate := (le_max_right ..).trans hseconds
  let ended := Keeps fun m => m.undefined = true ∨ Updated numbers p s.members velocity m
  have hnode : Triple (Keeps (· = s.members)) (ChildLeftRunning.node (tick numbers p)
      (inputsAfter s.members.start elapsed velocity) ⟨.running, some .running⟩).executeTick
      (fun _ => ended) (fun _ => ended) := by
    refine triple_decorator (fun _ _ _ hs => hs) (fun _ _ _ hs => hs) ?_
    refine triple_bind (triple_conseq (Q := fun _ => ended)
      (triple_tick_updated h s.members elapsed hperiod hmaxRate velocity) (fun _ hs => hs)
      (fun _ _ hs => .inr hs) (fun _ _ hs => .inl hs)) fun _ => ?_
    exact triple_bind (Q := fun _ => ended) (triple_modify fun _ hs => hs) fun _ =>
      triple_pure fun _ hs => hs
  have hended := hnode.finalState (s := s) rfl
  exact ⟨_, hs.step (l := .executeTick (inputsAfter s.members.start elapsed velocity)
    ⟨.running, some .running⟩) trivial rfl, hended⟩

/-- Rates that are always well defined scale. -/
theorem scalable_of_wellDefined (hnumbers : LawfulHypot numbers) (h : Accepted p)
    (hall : ∀ s : Decorated (Members K G L), (system numbers p).Reach System.anyStep s →
      WellDefined p s.members) : Scalable p := by
  have hupdate : ∀ s : Decorated (Members K G L), (system numbers p).Reach System.anyStep s →
      ∀ x, 0 ≤ x → ∃ s' : Decorated (Members K G L), (system numbers p).Reach System.anyStep s' ∧
        ∃ rate, getScaledRate p x = some rate ∧
          s'.members.rates = (x, rate) :: s.members.rates := by
    intro s hs x hx
    obtain ⟨s', hs', hupdated⟩ := exists_update h hs ⟨⟨x, 0, 0⟩, ⟨0, 0, 0⟩⟩
    refine ⟨s', hs', ?_⟩
    rcases hupdated with hundefined | hupdated
    · rw [(hall s' hs').defined] at hundefined
      cases hundefined
    · unfold Updated at hupdated
      rwa [hnumbers.axis, abs_of_nonneg hx] at hupdated
  have hinit : (system (G := G) (L := L) numbers p).Reach System.anyStep
      ⟨.idle, .idle, Members.initial, []⟩ := .init rfl
  obtain ⟨s, hs, rate, hrate, hrates⟩ := hupdate _ hinit 0 (le_refl 0)
  have hmem : (0, rate) ∈ s.members.rates := by simp [hrates]
  have hspeeds := ((getScaledRate_eq_some h).mp hrate).1
  have hle : p.minRate ≤ p.maxRate :=
    ((hall s hs).minRate_le _ hmem).trans ((hall s hs).le_maxRate _ hmem)
  refine ⟨hle, hspeeds, (monotoneOn_clampedScale_iff hle hspeeds).mp ?_⟩
  intro x hx y hy hxy
  obtain ⟨s₁, hs₁, rate₁, hrate₁, hrates₁⟩ := hupdate s hs x hx
  obtain ⟨s₂, hs₂, rate₂, hrate₂, hrates₂⟩ := hupdate s₁ hs₁ y hy
  have hmono := (hall s₂ hs₂).monotone (x, rate₁) (by simp [hrates₁, hrates₂]) (y, rate₂)
    (by simp [hrates₂]) hxy
  rw [((getScaledRate_eq_some h).mp hrate₁).2, ((getScaledRate_eq_some h).mp hrate₂).2] at hmono
  exact hmono

/-- **Rate scaling is well defined** in every run of a node that has been
constructed exactly if its limits scale. -/
theorem rate_scaling_wellDefined (hnumbers : LawfulHypot numbers)
    (hconstruct : construct ports = .ok p) :
    (∀ s : Decorated (Members K G L), (system numbers p).Reach System.anyStep s →
      WellDefined p s.members) ↔ Scalable p := by
  have h := accepted_of_construct hconstruct
  constructor
  · exact scalable_of_wellDefined hnumbers h
  · intro hscalable s hs
    exact wellDefined_of_scalable hnumbers h hscalable hs

end Node

/-! ## The default limits -/

theorem lawfulHypot_axisNumbers : LawfulHypot ChildLeftRunning.axisNumbers where
  nonneg := fun x y => add_nonneg (abs_nonneg x) (abs_nonneg y)
  axis := fun x => by simp [ChildLeftRunning.axisNumbers]

/-- The default limits scale. -/
theorem rate_scaling_wellDefined_default :
    (∀ s : Decorated (Members ℚ Unit Unit), (system ChildLeftRunning.axisNumbers
        ⟨0.1, 1, 0.9, 0, 0.5, 0.5⟩).Reach System.anyStep s →
      WellDefined ⟨0.1, 1, 0.9, 0, 0.5, 0.5⟩ s.members) ↔
      Scalable (K := ℚ) ⟨0.1, 1, 0.9, 0, 0.5, 0.5⟩ := by
  have hconstruct : construct (K := ℚ) ⟨none, none, none, none⟩ =
      .ok ⟨0.1, 1, 0.9, 0, 0.5, 0.5⟩ := by decide +kernel
  exact rate_scaling_wellDefined lawfulHypot_axisNumbers hconstruct

/-- With `min_speed` = `max_speed` the first update divides by zero. -/
theorem equal_speeds_divide_by_zero :
    construct (K := ℚ) ⟨none, none, some 0.5, some 0.5⟩ = .ok ⟨0.1, 1, 0.9, 0.5, 0.5, 0⟩ ∧
      ¬ ∀ s : Decorated (Members ℚ Unit Unit), (system ChildLeftRunning.axisNumbers
          ⟨0.1, 1, 0.9, 0.5, 0.5, 0⟩).Reach System.anyStep s →
        WellDefined ⟨0.1, 1, 0.9, 0.5, 0.5, 0⟩ s.members := by
  refine ⟨by decide +kernel, ?_⟩
  intro hclaim
  obtain ⟨s, hreach, hs⟩ := System.exists_reach_of_runWhile
    (S := system ChildLeftRunning.axisNumbers (⟨0.1, 1, 0.9, 0.5, 0.5, 0⟩ : Params ℚ))
    System.anyStep
    [.executeTick (inputsAfter (G := Unit) (L := Unit) 0 2000000000 ⟨⟨0, 0, 0⟩, ⟨0, 0, 0⟩⟩)
      ⟨.running, some .running⟩]
    (fun s => s.members.undefined) rfl (by decide +kernel)
  rw [(hclaim s hreach).defined] at hs
  cases hs

end Nav3D.BehaviorTree.SpeedController

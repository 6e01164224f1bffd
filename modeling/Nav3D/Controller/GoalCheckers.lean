/-
Nav3D.Controller.GoalCheckers — the plugins that tell a controller whether
the robot is at the goal (`simple_goal_checker.cpp`,
`stopped_goal_checker.cpp`, `position_goal_checker.cpp`).

A stateful checker remembers until `reset()` that the position has been
reached. `SimpleGoalChecker`, and `StoppedGoalChecker` on top of it, then
look at the yaw (and the velocity) only; `PositionGoalChecker` says true
whatever the pose is. None of them remembers for which goal.

The squares of the tolerances are members of their own, which every change
of a parameter keeps up. What `getTolerances` reports is left out.
-/
import Nav3D.Controller.ProgressCheckers

namespace Nav3D.Controller.Checkers

open AnsweredSince
open Nav3D.Px4 (Vec3 Pose Twist)
open Nav3D.Controller.Exact (Functions)

/-! ## The checkers -/

/-- The query, the goal and the velocity. -/
structure GoalQuery (K : Type) where
  query : Pose K
  goal : Pose K
  velocity : Twist K
  deriving DecidableEq

/-- `SimpleGoalChecker`, and `StoppedGoalChecker` which is one. -/
inductive GoalPlugin where
  | simple
  | stopped
  deriving DecidableEq

/-- The members of the two. -/
structure GoalChecker (K : Type) where
  xyzGoalTolerance : K
  yawGoalTolerance : K
  stateful : Bool
  checkXyz : Bool
  xyzGoalToleranceSq : K
  rotStoppedVelocity : K
  transStoppedVelocity : K
  deriving DecidableEq

/-- The members of `PositionGoalChecker`. -/
structure PositionGoalChecker (K : Type) where
  xyGoalTolerance : K
  xyGoalToleranceSq : K
  stateful : Bool
  positionReached : Bool
  deriving DecidableEq

section Code

variable {K : Type} [Field K] [LinearOrder K]

/-- The square of the distance of two points. -/
def distanceSq (a b : Vec3 K) : K :=
  (a.x - b.x) * (a.x - b.x) + (a.y - b.y) * (a.y - b.y) + (a.z - b.z) * (a.z - b.z)

/-- The one over the ground. -/
def groundDistanceSq (a b : Vec3 K) : K :=
  (a.x - b.x) * (a.x - b.x) + (a.y - b.y) * (a.y - b.y)

/-- The test of the yaw. -/
def yawReached (fns : Functions K) (m : GoalChecker K) (q : GoalQuery K) : Bool :=
  |fns.angles.shortestAngularDistance (fns.angles.getYaw q.query.orientation)
    (fns.angles.getYaw q.goal.orientation)| ≤ m.yawGoalTolerance

/-- `SimpleGoalChecker::isGoalReached`. -/
def simpleIsGoalReached (fns : Functions K) (q : GoalQuery K) (m : GoalChecker K) :
    Bool × GoalChecker K :=
  if m.checkXyz = true then
    if m.xyzGoalToleranceSq < distanceSq q.query.position q.goal.position then (false, m)
    else (yawReached fns m q, if m.stateful then { m with checkXyz := false } else m)
  else (yawReached fns m q, m)

/-- The test of the velocity. -/
def hasStopped (fns : Functions K) (m : GoalChecker K) (q : GoalQuery K) : Bool :=
  |q.velocity.angular.z| ≤ m.rotStoppedVelocity ∧
    hypot fns q.velocity.linear.x q.velocity.linear.y ≤ m.transStoppedVelocity

/-- `isGoalReached` of the two. -/
def isGoalReached (fns : Functions K) (plugin : GoalPlugin) (q : GoalQuery K) (m : GoalChecker K) :
    Bool × GoalChecker K :=
  match plugin with
  | .simple => simpleIsGoalReached fns q m
  | .stopped =>
    let (inGoalWindow, m) := simpleIsGoalReached fns q m
    (inGoalWindow && hasStopped fns m q, m)

def resetGoal (m : GoalChecker K) : GoalChecker K := { m with checkXyz := true }

/-- `dynamicParametersCallback` of `SimpleGoalChecker` for one parameter. -/
def setSimpleGoal (pluginName : String) (m : GoalChecker K) (p : Parameter K) : GoalChecker K :=
  match p.value with
  | .double v =>
    if p.name = pluginName ++ ".xyz_goal_tolerance" then
      { m with xyzGoalTolerance := v, xyzGoalToleranceSq := v * v }
    else if p.name = pluginName ++ ".yaw_goal_tolerance" then { m with yawGoalTolerance := v }
    else m
  | .bool b => if p.name = pluginName ++ ".stateful" then { m with stateful := b } else m
  | .other => m

/-- The one that `StoppedGoalChecker` adds. -/
def setStoppedGoal (pluginName : String) (m : GoalChecker K) (p : Parameter K) : GoalChecker K :=
  match p.value with
  | .double v =>
    if p.name = pluginName ++ ".rot_stopped_velocity" then { m with rotStoppedVelocity := v }
    else if p.name = pluginName ++ ".trans_stopped_velocity" then
      { m with transStoppedVelocity := v }
    else m
  | _ => m

/-- The callbacks of a plugin. -/
def setGoal (pluginName : String) (plugin : GoalPlugin) (parameters : List (Parameter K))
    (m : GoalChecker K) : GoalChecker K :=
  let m := parameters.foldl (setSimpleGoal pluginName) m
  match plugin with
  | .simple => m
  | .stopped => parameters.foldl (setStoppedGoal pluginName) m

/-- `initialize`, by the values of the parameters that are set. -/
def initializeGoal (pluginName : String) (get : String → Option K)
    (getBool : String → Option Bool) : GoalChecker K :=
  let tolerance := (get (pluginName ++ ".xyz_goal_tolerance")).getD 0.25
  { xyzGoalTolerance := tolerance
    yawGoalTolerance := (get (pluginName ++ ".yaw_goal_tolerance")).getD 0.25
    stateful := (getBool (pluginName ++ ".stateful")).getD true
    checkXyz := true
    xyzGoalToleranceSq := tolerance * tolerance
    rotStoppedVelocity := (get (pluginName ++ ".rot_stopped_velocity")).getD 0.25
    transStoppedVelocity := (get (pluginName ++ ".trans_stopped_velocity")).getD 0.25 }

/-- A goal checker of these. -/
def goalChecker (fns : Functions K) (pluginName : String) (plugin : GoalPlugin) :
    Component (GoalChecker K) (GoalQuery K) Bool (List (Parameter K)) where
  ask := isGoalReached fns plugin
  reset := resetGoal
  configure := setGoal pluginName plugin

/-! ### Position only -/

/-- `PositionGoalChecker::isGoalReached`. -/
def positionIsGoalReached (q : GoalQuery K) (m : PositionGoalChecker K) :
    Bool × PositionGoalChecker K :=
  if m.stateful = true ∧ m.positionReached = true then (true, m)
  else
    let reached : Bool := groundDistanceSq q.query.position q.goal.position ≤ m.xyGoalToleranceSq
    (reached, if m.stateful = true ∧ reached = true then { m with positionReached := true } else m)

def resetPosition (m : PositionGoalChecker K) : PositionGoalChecker K :=
  { m with positionReached := false }

/-- `setXYGoalTolerance`. -/
def setXYGoalTolerance (tolerance : K) (m : PositionGoalChecker K) : PositionGoalChecker K :=
  { m with xyGoalTolerance := tolerance, xyGoalToleranceSq := tolerance * tolerance }

/-- `dynamicParametersCallback` for one parameter. -/
def setPositionGoal (pluginName : String) (m : PositionGoalChecker K) (p : Parameter K) :
    PositionGoalChecker K :=
  match p.value with
  | .double v =>
    if p.name = pluginName ++ ".xy_goal_tolerance" then setXYGoalTolerance v m else m
  | .bool b => if p.name = pluginName ++ ".stateful" then { m with stateful := b } else m
  | .other => m

/-- `initialize`, by the values of the parameters that are set. -/
def initializePosition (pluginName : String) (get : String → Option K)
    (getBool : String → Option Bool) : PositionGoalChecker K :=
  let tolerance := (get (pluginName ++ ".xy_goal_tolerance")).getD 0.25
  { xyGoalTolerance := tolerance
    xyGoalToleranceSq := tolerance * tolerance
    stateful := (getBool (pluginName ++ ".stateful")).getD true
    positionReached := false }

/-- How it is configured. -/
inductive PositionSetting (K : Type) where
  | parameters (parameters : List (Parameter K))
  | tolerance (tolerance : K)

def positionGoalChecker (pluginName : String) :
    Component (PositionGoalChecker K) (GoalQuery K) Bool (PositionSetting K) where
  ask := positionIsGoalReached
  reset := resetPosition
  configure
    | .parameters parameters => fun m => parameters.foldl (setPositionGoal pluginName) m
    | .tolerance tolerance => setXYGoalTolerance tolerance

end Code

/-! ## What reached rests on -/

section Reached

variable {K : Type} [Field K] [LinearOrder K] {fns : Functions K} {pluginName : String}
  {plugin : GoalPlugin}

/-- A question to a goal checker with its answer. -/
abbrev GoalCheck (K : Type) : Type := Answered (GoalChecker K) (GoalQuery K) Bool

/-- The position is within the tolerance of the goal's. -/
def AtPosition (m : GoalChecker K) (q : GoalQuery K) : Prop :=
  distanceSq q.query.position q.goal.position ≤ m.xyzGoalTolerance * m.xyzGoalTolerance

instance AtPosition.decidable (m : GoalChecker K) (q : GoalQuery K) : Decidable (AtPosition m q) :=
  inferInstanceAs (Decidable (_ ≤ _))

/-- A check that is remembered until the next reset. -/
def Remembered (r : GoalCheck K) : Prop := r.members.stateful = true ∧ AtPosition r.members r.input

/-- The answer of a check, by the ones since the last reset. -/
def answersGoal (fns : Functions K) (plugin : GoalPlugin) (r : GoalCheck K)
    (earlier : List (GoalCheck K)) : Prop :=
  r.answer = true ↔ (AtPosition r.members r.input ∨ ∃ e ∈ earlier, Remembered e) ∧
    yawReached fns r.members r.input = true ∧
    (plugin = .stopped → hasStopped fns r.members r.input = true)

/-- The square is that of the tolerance. -/
def GoalChecker.Squared (m : GoalChecker K) : Prop :=
  m.xyzGoalToleranceSq = m.xyzGoalTolerance * m.xyzGoalTolerance

structure GoalInv (fns : Functions K) (plugin : GoalPlugin) (m : GoalChecker K)
    (recent : List (GoalCheck K)) : Prop where
  squared : m.Squared
  latch : m.checkXyz = false ↔ ∃ e ∈ recent, Remembered e
  answers : EachAnswer (answersGoal fns plugin) recent

theorem GoalChecker.Squared.far_iff {m : GoalChecker K} (hm : m.Squared) (q : GoalQuery K) :
    m.xyzGoalToleranceSq < distanceSq q.query.position q.goal.position ↔ ¬ AtPosition m q := by
  rw [AtPosition, not_le, show m.xyzGoalToleranceSq = _ from hm]

theorem simpleIsGoalReached_answer {m : GoalChecker K} (hm : m.Squared) (q : GoalQuery K) :
    (simpleIsGoalReached fns q m).1 = true ↔
      (AtPosition m q ∨ m.checkXyz = false) ∧ yawReached fns m q = true := by
  simp only [simpleIsGoalReached, hm.far_iff]
  cases m.checkXyz with
  | false => simp
  | true =>
    by_cases hat : AtPosition m q
    · simp [hat]
    · simp [hat]

/-- Of the members a check changes `check_xyz_` only. -/
theorem simpleIsGoalReached_members {m : GoalChecker K} (hm : m.Squared) (q : GoalQuery K) :
    (simpleIsGoalReached fns q m).2 =
      { m with checkXyz := m.checkXyz && !(m.stateful && decide (AtPosition m q)) } := by
  have hsame : ∀ b, m.checkXyz = b → m = { m with checkXyz := b } := by
    intro b hb
    rw [← hb]
  simp only [simpleIsGoalReached, hm.far_iff]
  cases hcheck : m.checkXyz with
  | false => exact hsame false hcheck
  | true =>
    by_cases hat : AtPosition m q
    · cases hstateful : m.stateful with
      | false => simpa [hat, hstateful] using hsame true hcheck
      | true => simp [hat]
    · simpa [hat] using hsame true hcheck

theorem isGoalReached_members (q : GoalQuery K) (m : GoalChecker K) :
    (isGoalReached fns plugin q m).2 = (simpleIsGoalReached fns q m).2 := by
  cases plugin with
  | simple => rfl
  | stopped => rfl

theorem isGoalReached_answer {m : GoalChecker K} (hm : m.Squared) (q : GoalQuery K) :
    (isGoalReached fns plugin q m).1 = true ↔ (simpleIsGoalReached fns q m).1 = true ∧
      (plugin = .stopped → hasStopped fns m q = true) := by
  cases plugin with
  | simple => simp [isGoalReached]
  | stopped =>
    -- the velocity is tested with the members that the position test leaves
    have hstopped : hasStopped fns (simpleIsGoalReached fns q m).2 q = hasStopped fns m q := by
      rw [simpleIsGoalReached_members hm]
      rfl
    simp [isGoalReached, hstopped]

/-- One check. -/
theorem goalInv_ask {m : GoalChecker K} {recent : List (GoalCheck K)}
    (h : GoalInv fns plugin m recent) (q : GoalQuery K) :
    GoalInv fns plugin (isGoalReached fns plugin q m).2
      (⟨m, q, (isGoalReached fns plugin q m).1⟩ :: recent) := by
  have hmembers : (isGoalReached fns plugin q m).2 =
      { m with checkXyz := m.checkXyz && !(m.stateful && decide (AtPosition m q)) } :=
    (isGoalReached_members q m).trans (simpleIsGoalReached_members h.squared q)
  rw [hmembers]
  refine ⟨h.squared, ?_, ?_, h.answers⟩
  · show (m.checkXyz && !(m.stateful && decide (AtPosition m q))) = false ↔ _
    rw [List.exists_mem_cons_iff, ← h.latch]
    cases m.checkXyz with
    | false => simp
    | true => simp [Remembered]
  · show (isGoalReached fns plugin q m).1 = true ↔ _
    rw [isGoalReached_answer h.squared, simpleIsGoalReached_answer h.squared, h.latch, and_assoc]

omit [LinearOrder K] in
/-- The square is kept up by a change of parameters, which resets nothing. -/
theorem setGoal_keeps (parameters : List (Parameter K)) {checkXyz : Bool} {m : GoalChecker K}
    (hm : m.Squared ∧ m.checkXyz = checkXyz) :
    (setGoal pluginName plugin parameters m).Squared ∧
      (setGoal pluginName plugin parameters m).checkXyz = checkXyz := by
  have hsimple : ∀ m : GoalChecker K, m.Squared ∧ m.checkXyz = checkXyz → ∀ p ∈ parameters,
      (setSimpleGoal pluginName m p).Squared ∧
        (setSimpleGoal pluginName m p).checkXyz = checkXyz := by
    intro m hm p _
    unfold setSimpleGoal
    split
    · split
      · exact ⟨rfl, hm.2⟩
      · split <;> exact hm
    · split <;> exact hm
    · exact hm
  have hstopped : ∀ m : GoalChecker K, m.Squared ∧ m.checkXyz = checkXyz → ∀ p ∈ parameters,
      (setStoppedGoal pluginName m p).Squared ∧
        (setStoppedGoal pluginName m p).checkXyz = checkXyz := by
    intro m hm p _
    unfold setStoppedGoal
    split
    · split
      · exact hm
      · split <;> exact hm
    · exact hm
  have hset := List.foldlRecOn parameters (setSimpleGoal pluginName) hm hsimple
  cases plugin with
  | simple => exact hset
  | stopped => exact List.foldlRecOn parameters (setStoppedGoal pluginName) hset hstopped

theorem goalInv_of_reach
    {C : Bench (GoalChecker K) (GoalQuery K) Bool →
      Label (GoalQuery K) (List (Parameter K)) → Prop}
    {get : String → Option K} {getBool : String → Option Bool}
    {s : Bench (GoalChecker K) (GoalQuery K) Bool}
    (h : ((goalChecker fns pluginName plugin).system
      (initializeGoal pluginName get getBool)).Reach C s) :
    GoalInv fns plugin s.members s.recent := by
  refine Component.invariant_of_reach h (GoalInv fns plugin) ?_ ?_ ?_ ?_
  · exact ⟨rfl, by simp [initializeGoal], trivial⟩
  · intro m recent q _ hinv
    exact goalInv_ask hinv q
  · intro m recent hinv
    exact ⟨hinv.squared, by simp [goalChecker, resetGoal], trivial⟩
  · intro m recent parameters hinv
    obtain ⟨hsquared, hcheck⟩ := setGoal_keeps parameters ⟨hinv.squared, rfl⟩
    exact ⟨hsquared, (Eq.congr_left hcheck).trans hinv.latch, hinv.answers⟩

/-- **At the goal.** In every run of checks, resets and parameter changes:
`SimpleGoalChecker` says that the goal is reached exactly if its yaw is
reached, and its position is or was at an earlier check since the last
reset, of whichever goal that was about, when the checker was stateful.
`StoppedGoalChecker` asks in addition that the robot has stopped. -/
theorem goal_reached_iff
    {C : Bench (GoalChecker K) (GoalQuery K) Bool →
      Label (GoalQuery K) (List (Parameter K)) → Prop}
    {get : String → Option K} {getBool : String → Option Bool}
    {s : Bench (GoalChecker K) (GoalQuery K) Bool}
    (h : ((goalChecker fns pluginName plugin).system
      (initializeGoal pluginName get getBool)).Reach C s)
    {later earlier : List (GoalCheck K)} {r : GoalCheck K}
    (hr : s.recent = later ++ r :: earlier) :
    r.answer = true ↔
      (AtPosition r.members r.input ∨
        ∃ e ∈ earlier, e.members.stateful = true ∧ AtPosition e.members e.input) ∧
      yawReached fns r.members r.input = true ∧
      (plugin = .stopped → hasStopped fns r.members r.input = true) := by
  have hanswers := (goalInv_of_reach h).answers
  rw [hr] at hanswers
  exact hanswers.append.1

/-! ### Position only -/

abbrev PositionCheck (K : Type) : Type := Answered (PositionGoalChecker K) (GoalQuery K) Bool

/-- The position is within the tolerance of the goal's, over the ground. -/
def AtGround (m : PositionGoalChecker K) (q : GoalQuery K) : Prop :=
  groundDistanceSq q.query.position q.goal.position ≤ m.xyGoalTolerance * m.xyGoalTolerance

instance AtGround.decidable (m : PositionGoalChecker K) (q : GoalQuery K) :
    Decidable (AtGround m q) :=
  inferInstanceAs (Decidable (_ ≤ _))

/-- A check that is remembered until the next reset. -/
def PositionRemembered (r : PositionCheck K) : Prop :=
  r.members.stateful = true ∧ AtGround r.members r.input

/-- The answer of a check, by the ones since the last reset. -/
def answersPosition (r : PositionCheck K) (earlier : List (PositionCheck K)) : Prop :=
  r.answer = true ↔ AtGround r.members r.input ∨
    (r.members.stateful = true ∧ ∃ e ∈ earlier, PositionRemembered e)

def PositionGoalChecker.Squared (m : PositionGoalChecker K) : Prop :=
  m.xyGoalToleranceSq = m.xyGoalTolerance * m.xyGoalTolerance

structure PositionInv (m : PositionGoalChecker K) (recent : List (PositionCheck K)) : Prop where
  squared : m.Squared
  latch : m.positionReached = true ↔ ∃ e ∈ recent, PositionRemembered e
  answers : EachAnswer answersPosition recent

theorem PositionGoalChecker.Squared.near_iff {m : PositionGoalChecker K} (hm : m.Squared)
    (q : GoalQuery K) :
    groundDistanceSq q.query.position q.goal.position ≤ m.xyGoalToleranceSq ↔ AtGround m q := by
  rw [AtGround, show m.xyGoalToleranceSq = _ from hm]

theorem positionIsGoalReached_answer {m : PositionGoalChecker K} (hm : m.Squared)
    (q : GoalQuery K) :
    (positionIsGoalReached q m).1 = true ↔
      AtGround m q ∨ (m.stateful = true ∧ m.positionReached = true) := by
  simp only [positionIsGoalReached, hm.near_iff]
  split
  · next hlatched => simp [hlatched]
  · next hopen => simp [hopen]

theorem positionIsGoalReached_members {m : PositionGoalChecker K} (hm : m.Squared)
    (q : GoalQuery K) :
    (positionIsGoalReached q m).2 =
      { m with positionReached := m.positionReached || (m.stateful && decide (AtGround m q)) } := by
  have hsame : ∀ b, m.positionReached = b → m = { m with positionReached := b } := by
    intro b hb
    rw [← hb]
  simp only [positionIsGoalReached, hm.near_iff]
  cases hreached : m.positionReached with
  | true =>
    cases hstateful : m.stateful with
    | false => simpa [hstateful] using hsame true hreached
    | true => simpa [hstateful] using hsame true hreached
  | false =>
    by_cases hremembered : m.stateful = true ∧ AtGround m q
    · simp [hremembered]
    · have hno : (m.stateful && decide (AtGround m q)) = false := by
        simpa using hremembered
      simpa [hno, hremembered] using hsame false hreached

/-- One check. -/
theorem positionInv_ask {m : PositionGoalChecker K} {recent : List (PositionCheck K)}
    (h : PositionInv m recent) (q : GoalQuery K) :
    PositionInv (positionIsGoalReached q m).2
      (⟨m, q, (positionIsGoalReached q m).1⟩ :: recent) := by
  rw [positionIsGoalReached_members h.squared]
  refine ⟨h.squared, ?_, ?_, h.answers⟩
  · show (m.positionReached || (m.stateful && decide (AtGround m q))) = true ↔ _
    rw [List.exists_mem_cons_iff, ← h.latch]
    cases m.positionReached with
    | true => simp
    | false => simp [PositionRemembered]
  · show (positionIsGoalReached q m).1 = true ↔ _
    rw [positionIsGoalReached_answer h.squared, h.latch]

omit [LinearOrder K] in
theorem setPositionGoal_keeps (parameters : List (Parameter K)) {reached : Bool}
    {m : PositionGoalChecker K} (hm : m.Squared ∧ m.positionReached = reached) :
    (parameters.foldl (setPositionGoal pluginName) m).Squared ∧
      (parameters.foldl (setPositionGoal pluginName) m).positionReached = reached := by
  have hset : ∀ m : PositionGoalChecker K, m.Squared ∧ m.positionReached = reached →
      ∀ p ∈ parameters, (setPositionGoal pluginName m p).Squared ∧
        (setPositionGoal pluginName m p).positionReached = reached := by
    intro m hm p _
    unfold setPositionGoal
    split
    · split
      · exact ⟨rfl, hm.2⟩
      · exact hm
    · split <;> exact hm
    · exact hm
  exact List.foldlRecOn parameters (setPositionGoal pluginName) hm hset

theorem positionInv_of_reach
    {C : Bench (PositionGoalChecker K) (GoalQuery K) Bool →
      Label (GoalQuery K) (PositionSetting K) → Prop}
    {get : String → Option K} {getBool : String → Option Bool}
    {s : Bench (PositionGoalChecker K) (GoalQuery K) Bool}
    (h : ((positionGoalChecker pluginName).system
      (initializePosition pluginName get getBool)).Reach C s) :
    PositionInv s.members s.recent := by
  refine Component.invariant_of_reach h PositionInv ?_ ?_ ?_ ?_
  · exact ⟨rfl, by simp [initializePosition], trivial⟩
  · intro m recent q _ hinv
    exact positionInv_ask hinv q
  · intro m recent hinv
    exact ⟨hinv.squared, by simp [positionGoalChecker, resetPosition], trivial⟩
  · intro m recent setting hinv
    cases setting with
    | parameters parameters =>
      obtain ⟨hsquared, hreached⟩ := setPositionGoal_keeps parameters ⟨hinv.squared, rfl⟩
      exact ⟨hsquared, (Eq.congr_left hreached).trans hinv.latch, hinv.answers⟩
    | tolerance tolerance => exact ⟨rfl, hinv.latch, hinv.answers⟩

/-- **At the position.** In every run of checks, resets and changes of the
tolerance and the parameters: `PositionGoalChecker` says that the goal is
reached exactly if its position is, or if the checker is stateful now and
the position was reached at an earlier check since the last reset, of
whichever goal that was about, when the checker was stateful. -/
theorem position_reached_iff
    {C : Bench (PositionGoalChecker K) (GoalQuery K) Bool →
      Label (GoalQuery K) (PositionSetting K) → Prop}
    {get : String → Option K} {getBool : String → Option Bool}
    {s : Bench (PositionGoalChecker K) (GoalQuery K) Bool}
    (h : ((positionGoalChecker pluginName).system
      (initializePosition pluginName get getBool)).Reach C s)
    {later earlier : List (PositionCheck K)} {r : PositionCheck K}
    (hr : s.recent = later ++ r :: earlier) :
    r.answer = true ↔ AtGround r.members r.input ∨
      (r.members.stateful = true ∧
        ∃ e ∈ earlier, e.members.stateful = true ∧ AtGround e.members e.input) := by
  have hanswers := (positionInv_of_reach h).answers
  rw [hr] at hanswers
  exact hanswers.append.1

end Reached

/-! ### The goal before -/

/-- A robot at rest, `x` metres along the first axis and asked about the goal
at `goal` metres. -/
def alongAxis (x goal : ℚ) : GoalQuery ℚ :=
  ⟨⟨⟨x, 0, 0⟩, ⟨0, 0, 0, 1⟩⟩, ⟨⟨goal, 0, 0⟩, ⟨0, 0, 0, 1⟩⟩, ⟨⟨0, 0, 0⟩, ⟨0, 0, 0⟩⟩⟩

def defaultGoal : GoalChecker ℚ := initializeGoal "goal_checker" (fun _ => none) fun _ => none

/-- The robot is at the first goal, and then the goal is another one; the
checker is no longer stateful. -/
def nextGoalChecks : List (GoalCheck ℚ) :=
  [⟨{ defaultGoal with checkXyz := false, stateful := false }, alongAxis 0 9, true⟩,
    ⟨defaultGoal, alongAxis 0 0, true⟩]

theorem goal_reached_iff_nextGoal : ∃ e ∈ nextGoalChecks.tail,
    e.members.stateful = true ∧ AtPosition e.members e.input := by
  obtain ⟨s, hr, hs⟩ := Transition.System.exists_reach_of_runWhile
    (S := (goalChecker levelFns "goal_checker" .stopped).system defaultGoal)
    Transition.System.anyStep
    [.ask (alongAxis 0 0), .configure [⟨"goal_checker.stateful", .bool false⟩],
      .ask (alongAxis 0 9)]
    (fun s => decide (s.recent = nextGoalChecks)) rfl (by decide +kernel)
  have hrecent : s.recent = [] ++ _ :: nextGoalChecks.tail := of_decide_eq_true hs
  have hreached := (goal_reached_iff hr hrecent).mp rfl
  exact hreached.1.resolve_left (by decide +kernel)

def defaultPosition : PositionGoalChecker ℚ :=
  initializePosition "goal_checker" (fun _ => none) fun _ => none

/-- The same with a checker of the position that stays stateful, after its
tolerance was changed. -/
def nextPositionChecks : List (PositionCheck ℚ) :=
  [⟨⟨0, 0, true, true⟩, alongAxis 0 9, true⟩, ⟨defaultPosition, alongAxis 0 0, true⟩]

theorem position_reached_iff_nextGoal : ∃ e ∈ nextPositionChecks.tail,
    e.members.stateful = true ∧ AtGround e.members e.input := by
  obtain ⟨s, hr, hs⟩ := Transition.System.exists_reach_of_runWhile
    (S := (positionGoalChecker "goal_checker").system defaultPosition)
    Transition.System.anyStep
    [.ask (alongAxis 0 0), .configure (.tolerance 0), .ask (alongAxis 0 9)]
    (fun s => decide (s.recent = nextPositionChecks)) rfl (by decide +kernel)
  have hrecent : s.recent = [] ++ _ :: nextPositionChecks.tail := of_decide_eq_true hs
  have hreached := (position_reached_iff hr hrecent).mp rfl
  exact (hreached.resolve_left (by decide +kernel)).2

end Nav3D.Controller.Checkers

/-
Nav3D.Controller.ProgressCheckers — the plugins that tell a controller
whether the robot makes progress (`simple_progress_checker.cpp`,
`pose_progress_checker.cpp`).

A checker keeps the last pose that was far from the one that it kept before,
until `reset()`. Its parameters can be set at any time. The clock is read
once in a `check`; the reading comes with the pose.

The checkers look at `x`, `y` and the yaw only. What they call stuck is a
robot that has not moved over the ground for longer than the allowance
(`no_progress_sound`), and a robot that stays within the radius is called
stuck within twice the allowance and the time between two checks
(`stuck_is_reported`), however far it climbs.
-/
import Nav3D.Controller.TrajectorySampling
import Nav3D.Lib.AnsweredSince
import Nav3D.Lib.Numerals

namespace Nav3D.Controller.Checkers

open AnsweredSince
open Nav3D.Px4 (Vec3 Pose Twist)
open Nav3D.Controller.Exact (Functions)

/-! ## Parameters -/

/-- `rcl_interfaces`: the value of a parameter. -/
inductive ParameterValue (K : Type) where
  | double (v : K)
  | bool (b : Bool)
  | other

structure Parameter (K : Type) where
  name : String
  value : ParameterValue K

section Code

variable {K : Type} [Field K] [LinearOrder K]

/-! ## Progress -/

/-- `geometry_msgs/Pose2D`. -/
structure Pose2D (K : Type) where
  x : K
  y : K
  theta : K
  deriving DecidableEq

/-- The two progress checkers. -/
inductive ProgressPlugin where
  | simple
  | pose
  deriving DecidableEq

/-- The members of `SimpleProgressChecker` and `PoseProgressChecker`. Times
are in nanoseconds. -/
structure ProgressChecker (K : Type) where
  radius : K
  timeAllowance : Int
  requiredMovementAngle : K
  baselinePose : Pose2D K
  baselineTime : Int
  baselinePoseSet : Bool
  deriving DecidableEq

/-- `std::hypot`. -/
def hypot (fns : Functions K) (x y : K) : K := fns.sqrt (x * x + y * y)

def toPose2D (fns : Functions K) (pose : Pose K) : Pose2D K :=
  ⟨pose.position.x, pose.position.y, fns.angles.getYaw pose.orientation⟩

def poseDistance (fns : Functions K) (a b : Pose2D K) : K := hypot fns (a.x - b.x) (a.y - b.y)

def poseAngleDistance (fns : Functions K) (a b : Pose2D K) : K :=
  |fns.angles.shortestAngularDistance a.theta b.theta|

/-- `isRobotMovedEnough` of the two classes, from the baseline `b`. -/
def isRobotMovedEnough (fns : Functions K) (plugin : ProgressPlugin) (m : ProgressChecker K)
    (pose b : Pose2D K) : Bool :=
  match plugin with
  | .simple => poseDistance fns pose b > m.radius
  | .pose =>
    poseDistance fns pose b > m.radius ∨ poseAngleDistance fns pose b > m.requiredMovementAngle

/-- `resetBaselinePose`. -/
def resetBaselinePose (pose : Pose2D K) (now : Int) (m : ProgressChecker K) : ProgressChecker K :=
  { m with baselinePose := pose, baselineTime := now, baselinePoseSet := true }

/-- `check`, with the reading of the clock. -/
def check (fns : Functions K) (plugin : ProgressPlugin) (input : Pose K × Int)
    (m : ProgressChecker K) : Bool × ProgressChecker K :=
  let pose := toPose2D fns input.1
  if m.baselinePoseSet = false ∨ isRobotMovedEnough fns plugin m pose m.baselinePose = true then
    (true, resetBaselinePose pose input.2 m)
  else (input.2 - m.baselineTime ≤ m.timeAllowance, m)

def resetProgress (m : ProgressChecker K) : ProgressChecker K := { m with baselinePoseSet := false }

/-- `dynamicParametersCallback` of `SimpleProgressChecker` for one
parameter; `fromSeconds` is `rclcpp::Duration::from_seconds`. -/
def setSimpleProgress (fromSeconds : K → Int) (pluginName : String) (m : ProgressChecker K)
    (p : Parameter K) : ProgressChecker K :=
  match p.value with
  | .double v =>
    if p.name = pluginName ++ ".required_movement_radius" then { m with radius := v }
    else if p.name = pluginName ++ ".movement_time_allowance" then
      { m with timeAllowance := fromSeconds v }
    else m
  | _ => m

/-- The one that `PoseProgressChecker` adds. -/
def setPoseProgress (pluginName : String) (m : ProgressChecker K) (p : Parameter K) :
    ProgressChecker K :=
  match p.value with
  | .double v =>
    if p.name = pluginName ++ ".required_movement_angle" then
      { m with requiredMovementAngle := v }
    else m
  | _ => m

/-- The callbacks of a plugin. `PoseProgressChecker` has both. -/
def setProgress (fromSeconds : K → Int) (pluginName : String) (plugin : ProgressPlugin)
    (parameters : List (Parameter K)) (m : ProgressChecker K) : ProgressChecker K :=
  let m := parameters.foldl (setSimpleProgress fromSeconds pluginName) m
  match plugin with
  | .simple => m
  | .pose => parameters.foldl (setPoseProgress pluginName) m

/-- `initialize`, by the values of the parameters that are set. -/
def initializeProgress (fromSeconds : K → Int) (pluginName : String) (get : String → Option K) :
    ProgressChecker K where
  radius := (get (pluginName ++ ".required_movement_radius")).getD 0.5
  timeAllowance := fromSeconds ((get (pluginName ++ ".movement_time_allowance")).getD 10.0)
  requiredMovementAngle := (get (pluginName ++ ".required_movement_angle")).getD 0.5
  baselinePose := ⟨0, 0, 0⟩
  baselineTime := 0
  baselinePoseSet := false

/-- A progress checker. -/
def progressChecker (fns : Functions K) (fromSeconds : K → Int) (pluginName : String)
    (plugin : ProgressPlugin) :
    Component (ProgressChecker K) (Pose K × Int) Bool (List (Parameter K)) where
  ask := check fns plugin
  reset := resetProgress
  configure := setProgress fromSeconds pluginName plugin

end Code

/-! ## What a check rests on -/

section Progress

variable {K : Type} [Field K] [LinearOrder K] {fns : Functions K} {fromSeconds : K → Int}
  {pluginName : String} {plugin : ProgressPlugin}

/-- A check with its answer. -/
abbrev Check (K : Type) : Type := Answered (ProgressChecker K) (Pose K × Int) Bool

/-- The robot has moved far from where it was at the check `b`, by the
parameters of the check `r`. -/
def Far (fns : Functions K) (plugin : ProgressPlugin) (r b : Check K) : Prop :=
  isRobotMovedEnough fns plugin r.members (toPose2D fns r.input.1) (toPose2D fns b.input.1) = true

instance Far.decidable (r b : Check K) : Decidable (Far fns plugin r b) :=
  inferInstanceAs (Decidable (_ = true))

/-- The check whose pose is the baseline after these, newest first. -/
def baseline (fns : Functions K) (plugin : ProgressPlugin) : List (Check K) → Option (Check K)
  | [] => none
  | r :: earlier =>
    match baseline fns plugin earlier with
    | none => some r
    | some b => if Far fns plugin r b then some r else some b

/-- The answer of a check with a baseline. -/
def answerFrom (fns : Functions K) (plugin : ProgressPlugin) (r : Check K) : Option (Check K) → Prop
  | none => r.answer = true
  | some b => r.answer = true ↔
      Far fns plugin r b ∨ r.input.2 - b.input.2 ≤ r.members.timeAllowance

/-- Every check is answered from the baseline that the ones before it leave. -/
def Explained (fns : Functions K) (plugin : ProgressPlugin) : List (Check K) → Prop :=
  EachAnswer fun r earlier => answerFrom fns plugin r (baseline fns plugin earlier)

/-- The members hold the baseline. -/
def HoldsBaseline (fns : Functions K) (m : ProgressChecker K) : Option (Check K) → Prop
  | none => m.baselinePoseSet = false
  | some b => m.baselinePoseSet = true ∧ m.baselinePose = toPose2D fns b.input.1 ∧
      m.baselineTime = b.input.2

structure ProgressInv (fns : Functions K) (plugin : ProgressPlugin) (m : ProgressChecker K)
    (recent : List (Check K)) : Prop where
  holds : HoldsBaseline fns m (baseline fns plugin recent)
  explained : Explained fns plugin recent

theorem check_rebase {m : ProgressChecker K} {input : Pose K × Int}
    (h : m.baselinePoseSet = false ∨
      isRobotMovedEnough fns plugin m (toPose2D fns input.1) m.baselinePose = true) :
    check fns plugin input m = (true, resetBaselinePose (toPose2D fns input.1) input.2 m) :=
  if_pos h

theorem check_keep {m : ProgressChecker K} {input : Pose K × Int} (hset : m.baselinePoseSet = true)
    (hnear : ¬ isRobotMovedEnough fns plugin m (toPose2D fns input.1) m.baselinePose = true) :
    check fns plugin input m = (decide (input.2 - m.baselineTime ≤ m.timeAllowance), m) := by
  refine if_neg ?_
  rw [hset]
  simpa using hnear

/-- One check. -/
theorem progressInv_check {m : ProgressChecker K} {recent : List (Check K)}
    (h : ProgressInv fns plugin m recent) (input : Pose K × Int) :
    ProgressInv fns plugin (check fns plugin input m).2
      (⟨m, input, (check fns plugin input m).1⟩ :: recent) := by
  have hholds := h.holds
  cases hbase : baseline fns plugin recent with
  | none =>
    rw [hbase] at hholds
    rw [check_rebase (.inl hholds)]
    refine ⟨?_, ?_, h.explained⟩
    · simp only [baseline, hbase]
      exact ⟨rfl, rfl, rfl⟩
    · show answerFrom fns plugin _ (baseline fns plugin recent)
      rw [hbase]
      rfl
  | some b =>
    rw [hbase] at hholds
    obtain ⟨hset, hpose, htime⟩ := hholds
    by_cases hfar : isRobotMovedEnough fns plugin m (toPose2D fns input.1) m.baselinePose = true
    · rw [check_rebase (.inr hfar)]
      rw [hpose] at hfar
      have hfar' : Far fns plugin ⟨m, input, true⟩ b := hfar
      refine ⟨?_, ?_, h.explained⟩
      · simp only [baseline, hbase]
        rw [if_pos hfar']
        exact ⟨rfl, rfl, rfl⟩
      · show answerFrom fns plugin _ (baseline fns plugin recent)
        rw [hbase]
        exact iff_of_true rfl (.inl hfar')
    · rw [check_keep hset hfar, htime]
      rw [hpose] at hfar
      have hnear : ∀ answer, ¬ Far fns plugin ⟨m, input, answer⟩ b := fun _ => hfar
      refine ⟨?_, ?_, h.explained⟩
      · simp only [baseline, hbase]
        rw [if_neg (hnear _)]
        exact ⟨hset, hpose, htime⟩
      · show answerFrom fns plugin _ (baseline fns plugin recent)
        rw [hbase]
        exact decide_eq_true_iff.trans (or_iff_right (hnear _)).symm

/-- The baseline of the members. -/
def ProgressChecker.base (m : ProgressChecker K) : Bool × Pose2D K × Int :=
  (m.baselinePoseSet, m.baselinePose, m.baselineTime)

omit [Field K] [LinearOrder K] in
/-- Parameters are no part of the baseline. -/
theorem base_setProgress (fromSeconds : K → Int) (pluginName : String) (plugin : ProgressPlugin)
    (parameters : List (Parameter K)) (m : ProgressChecker K) :
    (setProgress fromSeconds pluginName plugin parameters m).base = m.base := by
  have hsimple : ∀ m' : ProgressChecker K, m'.base = m.base → ∀ p ∈ parameters,
      (setSimpleProgress fromSeconds pluginName m' p).base = m.base := by
    intro m' hm' p _
    unfold setSimpleProgress
    split
    · split
      · exact hm'
      · split <;> exact hm'
    · exact hm'
  have hpose : ∀ m' : ProgressChecker K, m'.base = m.base → ∀ p ∈ parameters,
      (setPoseProgress pluginName m' p).base = m.base := by
    intro m' hm' p _
    unfold setPoseProgress
    split
    · split <;> exact hm'
    · exact hm'
  have hset : (parameters.foldl (setSimpleProgress fromSeconds pluginName) m).base = m.base :=
    List.foldlRecOn (motive := fun m' : ProgressChecker K => m'.base = m.base) parameters _ rfl
      hsimple
  cases plugin with
  | simple => exact hset
  | pose =>
    exact List.foldlRecOn (motive := fun m' : ProgressChecker K => m'.base = m.base) parameters _
      hset hpose

theorem progressInv_of_reach
    {C : Bench (ProgressChecker K) (Pose K × Int) Bool →
      Label (Pose K × Int) (List (Parameter K)) → Prop}
    {get : String → Option K} {s : Bench (ProgressChecker K) (Pose K × Int) Bool}
    (h : ((progressChecker fns fromSeconds pluginName plugin).system
      (initializeProgress fromSeconds pluginName get)).Reach C s) :
    ProgressInv fns plugin s.members s.recent := by
  refine Component.invariant_of_reach h (ProgressInv fns plugin) ⟨rfl, trivial⟩ ?_ ?_ ?_
  · intro m recent input _ hinv
    exact progressInv_check hinv input
  · intro m recent _
    exact ⟨rfl, trivial⟩
  · intro m recent parameters hinv
    refine ⟨?_, hinv.explained⟩
    have hholds := hinv.holds
    have hbase := base_setProgress fromSeconds pluginName plugin parameters m
    rw [ProgressChecker.base, ProgressChecker.base, Prod.mk.injEq, Prod.mk.injEq] at hbase
    obtain ⟨hset, hpose, htime⟩ := hbase
    cases hlast : baseline fns plugin recent with
    | none =>
      rw [hlast] at hholds
      exact hset.trans hholds
    | some b =>
      rw [hlast] at hholds
      exact ⟨hset.trans hholds.1, hpose.trans hholds.2.1, htime.trans hholds.2.2⟩

/-- A check leaves a baseline. -/
theorem exists_baseline (fns : Functions K) (plugin : ProgressPlugin) (r : Check K)
    (earlier : List (Check K)) : ∃ b, baseline fns plugin (r :: earlier) = some b := by
  simp only [baseline]
  split
  · exact ⟨r, rfl⟩
  · split
    · exact ⟨r, rfl⟩
    · next b _ _ => exact ⟨b, rfl⟩

/-- Where the baseline comes from: nothing after it is far from it. -/
theorem baseline_split {recent : List (Check K)} {b : Check K}
    (h : baseline fns plugin recent = some b) :
    ∃ later earlier, recent = later ++ b :: earlier ∧ ∀ r ∈ later, ¬ Far fns plugin r b := by
  induction recent with
  | nil => cases h
  | cons r recent ih =>
    simp only [baseline] at h
    cases hbase : baseline fns plugin recent with
    | none =>
      rw [hbase] at h
      cases h
      exact ⟨[], recent, rfl, nofun⟩
    | some b' =>
      simp only [hbase] at h
      split at h
      · cases h
        exact ⟨[], recent, rfl, nofun⟩
      · next hnear =>
        cases h
        obtain ⟨later, earlier, rfl, hlater⟩ := ih hbase
        exact ⟨r :: later, earlier, rfl, List.forall_mem_cons.mpr ⟨hnear, hlater⟩⟩

/-- **No progress.** In every run of checks, resets and parameter changes:
when a check says that there is no progress, there is an earlier one, longer
ago than the allowance and not before the last reset, and at no check since
has the robot been far from where it was then. -/
theorem no_progress_sound
    {C : Bench (ProgressChecker K) (Pose K × Int) Bool →
      Label (Pose K × Int) (List (Parameter K)) → Prop}
    {get : String → Option K} {s : Bench (ProgressChecker K) (Pose K × Int) Bool}
    (h : ((progressChecker fns fromSeconds pluginName plugin).system
      (initializeProgress fromSeconds pluginName get)).Reach C s)
    {later earlier : List (Check K)} {r : Check K} (hr : s.recent = later ++ r :: earlier)
    (hfalse : r.answer = false) :
    ∃ between b older, earlier = between ++ b :: older ∧
      r.members.timeAllowance < r.input.2 - b.input.2 ∧
      ∀ r' ∈ r :: between, ¬ Far fns plugin r' b := by
  have hexplained := (progressInv_of_reach h).explained
  rw [hr] at hexplained
  obtain ⟨hanswer, -⟩ := hexplained.append
  cases hbase : baseline fns plugin earlier with
  | none =>
    rw [hbase] at hanswer
    have htrue : r.answer = true := hanswer
    rw [hfalse] at htrue
    cases htrue
  | some b =>
    rw [hbase] at hanswer
    have hiff : r.answer = true ↔
      Far fns plugin r b ∨ r.input.2 - b.input.2 ≤ r.members.timeAllowance := hanswer
    rw [hfalse] at hiff
    obtain ⟨hnear, hlate⟩ := not_or.mp (mt hiff.mpr (by simp))
    obtain ⟨between, older, hsplit, hbetween⟩ := baseline_split hbase
    exact ⟨between, b, older, hsplit, not_le.mp hlate, List.forall_mem_cons.mpr ⟨hnear, hbetween⟩⟩

/-! ## A robot that is stuck -/

/-- The clock does not go back between two checks. -/
def Clocked (s : Bench (ProgressChecker K) (Pose K × Int) Bool) :
    Label (Pose K × Int) (List (Parameter K)) → Prop
  | .ask input => ∀ r ∈ s.recent, r.input.2 ≤ input.2
  | _ => True

instance Clocked.decidable (s : Bench (ProgressChecker K) (Pose K × Int) Bool) :
    (l : Label (Pose K × Int) (List (Parameter K))) → Decidable (Clocked s l)
  | .ask _ => inferInstanceAs (Decidable (∀ r ∈ s.recent, _))
  | .reset => isTrue trivial
  | .configure _ => isTrue trivial

/-- The readings, newest first. -/
theorem ordered_of_reach {get : String → Option K}
    {s : Bench (ProgressChecker K) (Pose K × Int) Bool}
    (h : ((progressChecker fns fromSeconds pluginName plugin).system
      (initializeProgress fromSeconds pluginName get)).Reach Clocked s) :
    s.recent.Pairwise fun newer older => older.input.2 ≤ newer.input.2 := by
  refine Component.invariant_of_reach h
    (fun _ recent => recent.Pairwise fun newer older => older.input.2 ≤ newer.input.2)
    List.Pairwise.nil ?_ (fun _ _ _ => List.Pairwise.nil) (fun _ _ _ hinv => hinv)
  intro m recent input hclock hinv
  exact List.Pairwise.cons hclock hinv

/-- A window in which the robot is near wherever it was in it, every check
says that there is progress, and checks are not far apart. -/
structure Confined (fns : Functions K) (plugin : ProgressPlugin) (allowance gap : Int)
    (later : List (Check K)) (e : Check K) : Prop where
  allowed : ∀ r ∈ later, r.members.timeAllowance ≤ allowance
  near : (later ++ [e]).Pairwise fun newer older => ¬ Far fns plugin newer older
  often : (later ++ [e]).IsChain fun newer older => newer.input.2 - older.input.2 ≤ gap
  progress : ∀ r ∈ later, r.answer = true

theorem Confined.tail {allowance gap : Int} {x : Check K} {later : List (Check K)} {e : Check K}
    (h : Confined fns plugin allowance gap (x :: later) e) :
    Confined fns plugin allowance gap later e where
  allowed r hr := h.allowed r (List.mem_cons_of_mem _ hr)
  near := h.near.tail
  often := h.often.tail
  progress r hr := h.progress r (List.mem_cons_of_mem _ hr)

/-- In such a window the baseline changes once after the first check, if at
all: the newest check is within the allowance of it, and so was the one that
came before the change. -/
theorem Confined.baseline {allowance gap : Int} (hallowance : 0 ≤ allowance)
    {later earlier : List (Check K)} {e : Check K}
    (hconfined : Confined fns plugin allowance gap later e)
    (hexplained : Explained fns plugin (later ++ e :: earlier))
    (hold : ∀ r ∈ earlier, r.input.2 ≤ e.input.2) :
    ∃ b, Checkers.baseline fns plugin (later ++ e :: earlier) = some b ∧
      ((b.input.2 ≤ e.input.2 ∧ (later.headD e).input.2 - e.input.2 ≤ allowance) ∨
      (b ∈ later ∧ b.input.2 - e.input.2 ≤ allowance + gap ∧
        (later.headD e).input.2 - b.input.2 ≤ allowance)) := by
  induction later with
  | nil =>
    obtain ⟨b, hb⟩ := exists_baseline fns plugin e earlier
    refine ⟨b, hb, .inl ⟨?_, by simpa using hallowance⟩⟩
    obtain ⟨newer, older, hsplit, -⟩ := baseline_split hb
    have hmem : b ∈ e :: earlier := by
      rw [show e :: earlier = newer ++ b :: older from hsplit]
      exact List.mem_append_right _ List.mem_cons_self
    rcases List.mem_cons.mp hmem with rfl | hearlier
    · exact le_refl _
    · exact hold b hearlier
  | cons x later ih =>
    rw [List.cons_append] at hexplained
    obtain ⟨hanswer, hexplained⟩ := hexplained
    obtain ⟨b, hb, hcases⟩ := ih hconfined.tail hexplained
    rw [hb] at hanswer
    have hprogress : Far fns plugin x b ∨ x.input.2 - b.input.2 ≤ x.members.timeAllowance :=
      (show x.answer = true ↔ _ from hanswer).mp (hconfined.progress x List.mem_cons_self)
    have hallowed := hconfined.allowed x List.mem_cons_self
    have hgap : x.input.2 - (later.headD e).input.2 ≤ gap := by
      have hoften := hconfined.often
      cases later with
      | nil => exact (List.isChain_cons_cons.mp hoften).1
      | cons y later => exact (List.isChain_cons_cons.mp hoften).1
    simp only [List.cons_append, Checkers.baseline, hb, List.headD_cons]
    rcases hcases with ⟨hb', hhead⟩ | ⟨hmem, hb', hhead⟩
    · by_cases hfar : Far fns plugin x b
      · -- the baseline changes here
        rw [if_pos hfar]
        exact ⟨x, rfl, .inr ⟨List.mem_cons_self, by omega, by omega⟩⟩
      · rw [if_neg hfar]
        have hlate := hprogress.resolve_left hfar
        exact ⟨b, rfl, .inl ⟨hb', by omega⟩⟩
    · -- it has changed in the window, where nothing is far from it
      have hnear : ¬ Far fns plugin x b :=
        List.rel_of_pairwise_cons hconfined.near (List.mem_append_left _ hmem)
      rw [if_neg hnear]
      have hlate := hprogress.resolve_left hnear
      exact ⟨b, rfl, .inr ⟨List.mem_cons_of_mem _ hmem, hb', by omega⟩⟩

/-- **A stuck robot is reported.** In every run in which the clock does not
go back: a window of checks between two resets, in which the robot is near
wherever it was in it and every check says that there is progress, is no
longer than twice the largest allowance and one time between two checks. -/
theorem stuck_is_reported {get : String → Option K}
    {s : Bench (ProgressChecker K) (Pose K × Int) Bool}
    (h : ((progressChecker fns fromSeconds pluginName plugin).system
      (initializeProgress fromSeconds pluginName get)).Reach Clocked s)
    {allowance gap : Int} (hallowance : 0 ≤ allowance) (hgap : 0 ≤ gap)
    {later earlier : List (Check K)} {e : Check K} (hrecent : s.recent = later ++ e :: earlier)
    (hconfined : Confined fns plugin allowance gap later e) :
    ∀ r ∈ later, r.input.2 - e.input.2 ≤ 2 * allowance + gap := by
  have hordered := ordered_of_reach h
  have hexplained := (progressInv_of_reach h).explained
  rw [hrecent] at hordered hexplained
  have hold : ∀ r ∈ earlier, r.input.2 ≤ e.input.2 := fun r hr =>
    List.rel_of_pairwise_cons (List.pairwise_append.mp hordered).2.1 hr
  obtain ⟨b, -, hcases⟩ := hconfined.baseline hallowance hexplained hold
  have hnewest : (later.headD e).input.2 - e.input.2 ≤ 2 * allowance + gap := by
    rcases hcases with ⟨-, hhead⟩ | ⟨-, hb, hhead⟩
    · omega
    · omega
  intro r hr
  have hle : r.input.2 ≤ (later.headD e).input.2 := by
    cases later with
    | nil => cases hr
    | cons x later =>
      rcases List.mem_cons.mp hr with rfl | hr
      · exact le_refl _
      · exact List.rel_of_pairwise_cons hordered (List.mem_append_left _ hr)
  omega

end Progress

/-! ### A climb -/

/-- Functions that are right for robots that stay level where they are. -/
def levelFns : Functions ℚ where
  angles := ⟨fun _ => 0, id⟩
  sqrt := id
  slerp := fun q _ _ => q
  setYaw := fun _ => ⟨0, 0, 0, 1⟩

def nanoseconds (seconds : ℚ) : Int := (seconds * 1000000000).floor

/-- `z` metres above the same place. -/
def hovering (z : ℚ) : Pose ℚ := ⟨⟨0, 0, z⟩, ⟨0, 0, 0, 1⟩⟩

def defaultProgress : ProgressChecker ℚ :=
  initializeProgress nanoseconds "progress_checker" fun _ => none

/-- A robot that climbs for 11 s. -/
def climbChecks : List (Check ℚ) :=
  [⟨{ defaultProgress with baselinePoseSet := true }, (hovering 2, 11000000000), false⟩,
    ⟨{ defaultProgress with baselinePoseSet := true }, (hovering 1, 6000000000), true⟩,
    ⟨defaultProgress, (hovering 0, 0), true⟩]

/-- The system of the climb. -/
def climbSystem : Transition.System (Bench (ProgressChecker ℚ) (Pose ℚ × Int) Bool)
    (Label (Pose ℚ × Int) (List (Parameter ℚ))) :=
  (progressChecker levelFns nanoseconds "progress_checker" .pose).system defaultProgress

theorem no_progress_sound_climb : ∃ between b older,
    climbChecks.tail = between ++ b :: older ∧ 10000000000 < 11000000000 - b.input.2 := by
  obtain ⟨s, hr, hs⟩ := Transition.System.exists_reach_of_runWhile (S := climbSystem) Clocked
    [.ask (hovering 0, 0), .ask (hovering 1, 6000000000), .ask (hovering 2, 11000000000)]
    (fun s => decide (s.recent = climbChecks)) rfl (by decide +kernel)
  have hrecent : s.recent = [] ++ _ :: climbChecks.tail := of_decide_eq_true hs
  obtain ⟨between, b, older, hsplit, hlate, -⟩ := no_progress_sound hr hrecent rfl
  have hallowance : defaultProgress.timeAllowance = 10000000000 := by decide +kernel
  have hlate' : defaultProgress.timeAllowance < 11000000000 - b.input.2 := hlate
  rw [hallowance] at hlate'
  exact ⟨between, b, older, hsplit, hlate'⟩

theorem stuck_is_reported_climb :
    ((climbChecks.tail.take 1).all fun r => r.input.2 - 0 ≤ 2 * 10000000000 + 6000000000) =
      true := by
  obtain ⟨s, hr, hs⟩ := Transition.System.exists_reach_of_runWhile (S := climbSystem) Clocked
    [.ask (hovering 0, 0), .ask (hovering 1, 6000000000)]
    (fun s => decide (s.recent = climbChecks.tail)) rfl (by decide +kernel)
  have hrecent : s.recent =
      climbChecks.tail.take 1 ++ ⟨defaultProgress, (hovering 0, 0), true⟩ :: [] :=
    of_decide_eq_true hs
  have hconfined : Confined levelFns .pose 10000000000 6000000000 (climbChecks.tail.take 1)
      ⟨defaultProgress, (hovering 0, 0), true⟩ :=
    ⟨by decide +kernel, by decide +kernel, by decide +kernel, by decide +kernel⟩
  have hlate := stuck_is_reported hr (by decide) (by decide) hrecent hconfined
  exact List.all_eq_true.mpr fun r hmem => decide_eq_true (hlate r hmem)

end Nav3D.Controller.Checkers

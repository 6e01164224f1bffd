/-
Nav3D.Controller.SampledPath — the commands of the controller server sample
the trajectory (`controller_server.cpp`).

`current_waypoint_index_` is kept from call to call, and the end of the
segment is read at the index after it without a check. With a clock that
does not go back, the index only ever names a stamp that an earlier call has
passed, so the segment is the one that a search from the start would find
(`samples_interpolate`).
-/
import Nav3D.Controller.TrajectorySampling
import Nav3D.Lib.Transition
import Mathlib.LinearAlgebra.AffineSpace.Combination

namespace Nav3D.Controller.Exact

open StateInvariant Transition PiecewiseLinear
open Nav3D.Px4 (Pose)

/-! ## Runs -/

/-- The node, and the clock at its last command. -/
structure Follow (K : Type) where
  server : Server K
  lastNow : Option K

/-- A command or a message with a speed limit. -/
inductive FollowCall (K : Type) where
  | command (reading : Reading K)
  | speedLimit (speedLimit : K)

section Runs

variable {K : Type} [Field K] [LinearOrder K] (fns : Functions K) (params : Params K)

def followStep (r : Follow K) : FollowCall K → Option (Follow K)
  | .command reading =>
    match (getCurrentCommand fns params reading).run r.server with
    | .ok _ s => some ⟨s, some reading.now⟩
    | .error _ _ => none
  | .speedLimit speedLimit =>
    some { r with server := speedLimitCallback params speedLimit r.server }

/-- The calls after `generateTimedTrajectory(path)`; the record of the
updates begins with them. -/
def followSystem (start : Server K) (now : K) (currentPose : Option (Pose K))
    (path : List (StampedPose K)) : System (Follow K) (FollowCall K) where
  init := fun r => r.lastNow = none ∧
    ∃ s, (generateTimedTrajectory fns now currentPose path).run start = .ok ⟨⟩ s ∧
      r.server = { s with updates := [] }
  step := followStep fns params

/-- The clock does not go back. -/
def ClockForward (r : Follow K) : FollowCall K → Prop
  | .command reading => ∀ last, r.lastNow = some last → last ≤ reading.now
  | .speedLimit _ => True

variable {fns params} {start : Server K} {now : K} {currentPose : Option (Pose K)}
  {path : List (StampedPose K)}

/-- A path that is not empty is taken over. -/
theorem generateTimedTrajectory_cons (p : StampedPose K) (poses : List (StampedPose K)) :
    (generateTimedTrajectory fns now currentPose (p :: poses)).run start =
      .ok ⟨⟩ { start with
        currentPath := timedPath fns (now + 0.1) (max 1e-3 start.speedLimit) (p :: poses)
        currentWaypointIndex := 0
        pathStartTime := now + 0.1
        filter := resetFilter fns.angles (currentPose.getD p.pose) } := rfl

/-- A run begins with the trajectory. -/
theorem followSystem_init {r : Follow K}
    (h : (followSystem fns params start now currentPose path).init r) :
    path ≠ [] ∧ r.lastNow = none ∧ r.server.updates = [] ∧ r.server.currentWaypointIndex = 0 ∧
      r.server.pathStartTime = now + 0.1 ∧
      r.server.currentPath = timedPath fns (now + 0.1) (max 1e-3 start.speedLimit) path := by
  obtain ⟨hnow, s, hrun, hserver⟩ := h
  cases path with
  | nil => cases hrun
  | cons p poses =>
    rw [generateTimedTrajectory_cons] at hrun
    cases hrun
    rw [hserver]
    exact ⟨by simp, hnow, rfl, rfl, rfl, rfl⟩

theorem path_ne_of_reach {C : Follow K → FollowCall K → Prop} {r : Follow K}
    (h : (followSystem fns params start now currentPose path).Reach C r) : path ≠ [] :=
  h.invariant (fun _ => path ≠ []) (fun _ hinit => (followSystem_init hinit).1)
    fun _ _ _ hr _ _ => hr

theorem command_step {r r' : Follow K} {reading : Reading K}
    (h : followStep fns params r (.command reading) = some r') :
    CommandEffect fns params reading r.server r'.server ∧ r'.lastNow = some reading.now := by
  have hrun := triple_getCurrentCommand fns params reading r.server r.server rfl
  simp only [followStep] at h
  split at h
  · next hok =>
    rw [hok] at hrun
    cases h
    exact ⟨hrun, rfl⟩
  · cases h

variable (fns params) in
/-- A call that stays in range is a step. -/
theorem exists_command_step {r : Follow K} {reading : Reading K}
    (h : ¬ OutOfRange reading r.server) :
    ∃ r', followStep fns params r (.command reading) = some r' := by
  have hrun := triple_getCurrentCommand fns params reading r.server r.server rfl
  simp only [followStep]
  cases hcall : (getCurrentCommand fns params reading).run r.server with
  | ok _ s => exact ⟨⟨s, some reading.now⟩, rfl⟩
  | error _ _ =>
    rw [hcall] at hrun
    exact absurd hrun h

/-! ## The path and the range of the index -/

/-- The trajectory stays what it is and the index in range. -/
structure OnTrajectory (trajectory : TimedPath K) (s : Server K) : Prop where
  path_eq : s.currentPath = trajectory
  index : IndexInRange trajectory s.currentWaypointIndex

theorem OnTrajectory.effect {trajectory : TimedPath K} {s s' : Server K} {reading : Reading K}
    (h : OnTrajectory trajectory s) (heffect : CommandEffect fns params reading s s') :
    OnTrajectory trajectory s' := by
  cases heffect with
  | noPath _ => exact h
  | before front filter _ _ => exact ⟨h.path_eq, h.index⟩
  | atGoal front back _ _ _ _ => exact ⟨h.path_eq, h.index⟩
  | onPath front back a b j _ _ _ _ _ _ hb =>
    refine ⟨h.path_eq, .inr ?_⟩
    rw [h.path_eq] at hb
    exact (List.getElem?_eq_some_iff.mp hb).1

theorem onTrajectory_of_reach {C : Follow K → FollowCall K → Prop} {r : Follow K}
    (h : (followSystem fns params start now currentPose path).Reach C r) :
    OnTrajectory (timedPath fns (now + 0.1) (max 1e-3 start.speedLimit) path) r.server := by
  refine h.invariant (fun r => OnTrajectory _ r.server) (fun r hinit => ?_)
    (fun r l r' hr _ hstep => ?_)
  · obtain ⟨-, -, -, hindex, -, hpath⟩ := followSystem_init hinit
    exact ⟨hpath, .inl hindex⟩
  · cases l with
    | command reading => exact hr.effect (command_step hstep).1
    | speedLimit speedLimit =>
      cases hstep
      exact ⟨hr.path_eq, hr.index⟩

/-! ## The segment -/

/-- The index is at the start or at a stamp that the clock has passed. -/
def Passed (r : Follow K) : Prop :=
  r.server.currentWaypointIndex = 0 ∨
    ∃ a last, r.server.currentPath[r.server.currentWaypointIndex]? = some a ∧
      r.lastNow = some last ∧ a.1 < last

omit [Field K] in
/-- The loop finds the segment of `now`. -/
theorem segment_of_passed {r : Follow K} {reading : Reading K} (hpassed : Passed r)
    (hclock : ClockForward r (.command reading)) {front a b : K × StampedPose K}
    (hhead : r.server.currentPath.head? = some front) (hafter : front.1 < reading.now)
    (ha : r.server.currentPath[
      advanceIndex r.server.currentPath reading.now r.server.currentWaypointIndex]? = some a)
    (hb : r.server.currentPath[
      advanceIndex r.server.currentPath reading.now r.server.currentWaypointIndex + 1]? = some b) :
    Segment Prod.fst r.server.currentPath reading.now
      (advanceIndex r.server.currentPath reading.now r.server.currentWaypointIndex) a b := by
  obtain ⟨hstop, hfrom⟩ :=
    advanceIndex_spec r.server.currentPath reading.now r.server.currentWaypointIndex
  refine ⟨ha, hb, ?_, hstop b hb⟩
  rcases hfrom with hsame | ⟨a', ha', hlt⟩
  · rw [hsame] at ha
    rcases hpassed with hzero | ⟨a', last, ha', hlast, hlt⟩
    · rw [hzero, ← List.head?_eq_getElem?, hhead] at ha
      cases ha
      exact hafter
    · rw [ha'] at ha
      cases ha
      exact lt_of_lt_of_le hlt (hclock last hlast)
  · rw [ha'] at ha
    cases ha
    exact hlt

theorem Passed.step {r r' : Follow K} {l : FollowCall K} (h : Passed r) (hclock : ClockForward r l)
    (hstep : followStep fns params r l = some r') : Passed r' := by
  cases l with
  | speedLimit speedLimit =>
    cases hstep
    exact h
  | command reading =>
    obtain ⟨heffect, hnow⟩ := command_step hstep
    have hlater : ∀ s : Server K, s.currentPath = r.server.currentPath →
        s.currentWaypointIndex = r.server.currentWaypointIndex →
          Passed ⟨s, some reading.now⟩ := by
      intro s hpath hindex
      rcases h with hzero | ⟨a, last, ha, hlast, hlt⟩
      · exact .inl (hindex.trans hzero)
      · refine .inr ⟨a, reading.now, ?_, rfl, lt_of_lt_of_le hlt (hclock last hlast)⟩
        rw [hpath, hindex]
        exact ha
    obtain ⟨s', lastNow⟩ := r'
    cases hnow
    cases heffect with
    | noPath _ => exact hlater _ rfl rfl
    | before front filter _ _ => exact hlater _ rfl rfl
    | atGoal front back _ _ _ _ => exact hlater _ rfl rfl
    | onPath front back a b j hhead _ hafter _ hj ha hb =>
      subst hj
      exact .inr ⟨a, reading.now, ha, rfl,
        (segment_of_passed h hclock hhead hafter ha hb).after⟩

theorem passed_of_reach {r : Follow K}
    (h : (followSystem fns params start now currentPose path).Reach ClockForward r) : Passed r := by
  refine h.invariant Passed (fun r hinit => ?_) (fun r l r' hr hl hstep => hr.step hl hstep)
  exact .inl (followSystem_init hinit).2.2.2.1

/-! ## The target -/

/-- The positions of the path at their times. -/
def positions (trajectory : TimedPath K) : List (K × (Fin 3 → K)) :=
  trajectory.map fun p => (p.1, eigenVector p.2.pose.position)

section Ordered

variable [IsStrictOrderedRing K]

omit [Field K] [IsStrictOrderedRing K] in
theorem increasing_positions {trajectory : TimedPath K} (h : Increasing Prod.fst trajectory) :
    Increasing Prod.fst (positions trajectory) :=
  (List.isChain_map _).mpr h

omit [Field K] [IsStrictOrderedRing K] in
theorem segment_positions {trajectory : TimedPath K} {t : K} {i : Nat}
    {a b : K × StampedPose K} (h : Segment Prod.fst trajectory t i a b) :
    Segment Prod.fst (positions trajectory) t i (a.1, eigenVector a.2.pose.position)
      (b.1, eigenVector b.2.pose.position) where
  start := by simp [positions, h.start]
  finish := by simp [positions, h.finish]
  after := h.after
  until_finish := h.until_finish

omit [IsStrictOrderedRing K] in
/-- Two poses in a row of a trajectory. -/
theorem spaced_of_getElem? {v : K} {trajectory : TimedPath K}
    (h : List.IsChain (Spaced fns v) trajectory) {i : Nat} {a b : K × StampedPose K}
    (ha : trajectory[i]? = some a) (hb : trajectory[i + 1]? = some b) : Spaced fns v a b := by
  obtain ⟨hi, rfl⟩ := List.getElem?_eq_some_iff.mp ha
  obtain ⟨hi', rfl⟩ := List.getElem?_eq_some_iff.mp hb
  exact List.isChain_iff_getElem.mp h i hi'

/-- The guard against a division by zero does nothing. -/
theorem max_segmentDt {v : K} {a b : K × StampedPose K} (h : Spaced fns v a b) :
    max 1e-6 (b.1 - a.1) = b.1 - a.1 := by
  have happart := h.apart
  have hsmall : (1e-6 : K) ≤ 0.01 := by norm_num
  exact max_eq_right (by linarith)

/-- The target position lies on the straight line. -/
theorem targetPose_position {v : K} {a b : K × StampedPose K} (h : Spaced fns v a b) {t : K}
    (hafter : a.1 < t) (hbefore : t ≤ b.1) :
    eigenVector (targetPose fns t a b).position =
      AffineMap.lineMap (eigenVector a.2.pose.position) (eigenVector b.2.pose.position)
        ((t - a.1) / (b.1 - a.1)) := by
  have hpos : 0 < b.1 - a.1 := sub_pos.mpr h.lt
  have hle : (t - a.1) / (b.1 - a.1) ≤ 1 := (div_le_one hpos).mpr (by linarith)
  have hnonneg : 0 ≤ (t - a.1) / (b.1 - a.1) := div_nonneg (by linarith) hpos.le
  have halpha : max 0 (min ((t - a.1) / max 1e-6 (b.1 - a.1)) 1) = (t - a.1) / (b.1 - a.1) := by
    rw [max_segmentDt h, min_eq_left hle, max_eq_right hnonneg]
  rw [AffineMap.lineMap_apply_module']
  simp only [targetPose, halpha]
  ext i
  fin_cases i
  · simp [eigenVector]
    ring
  · simp [eigenVector]
    ring
  · simp [eigenVector]
    ring

/-- What a call after the first stamp hands to `updateFilter`: on the
trajectory the interpolated position, in the segment that a search from the
start finds; at its end the last pose. -/
structure Sampled (trajectory : TimedPath K) (front back : K × StampedPose K) (reading : Reading K)
    (s s' : Server K) : Prop where
  onPath : front.1 < reading.now → reading.now < back.1 →
    s'.currentWaypointIndex = advanceIndex trajectory reading.now 0 ∧
      ∃ u a b, s'.updates = u :: s.updates ∧ u.now = reading.now ∧ u.segment = some (a, b) ∧
        Segment Prod.fst trajectory reading.now s'.currentWaypointIndex a b ∧
        eigenVector u.targetPose.position = interpolate (positions trajectory) reading.now
  atGoal : front.1 < reading.now → back.1 ≤ reading.now →
    ∃ u, s'.updates = u :: s.updates ∧ u.now = reading.now ∧ u.targetPose = back.2.pose

/-- **Sampling.** After `generateTimedTrajectory(path)`, with a clock that
does not go back, no call reads out of range, and whatever has been called
before, a call between the first and the last stamp hands the piecewise
linear interpolation of the trajectory to `updateFilter`, and one at or
after the last stamp the last pose. -/
theorem samples_interpolate {r : Follow K}
    (h : (followSystem fns params start now currentPose path).Reach ClockForward r)
    {reading : Reading K} (hclock : ClockForward r (.command reading)) :
    ∃ r' front back,
      (followSystem fns params start now currentPose path).step r (.command reading) = some r' ∧
      r'.server.currentPath = timedPath fns (now + 0.1) (max 1e-3 start.speedLimit) path ∧
      r'.server.currentPath.head? = some front ∧ r'.server.currentPath.getLast? = some back ∧
      Sampled r'.server.currentPath front back reading r.server r'.server := by
  have hon := onTrajectory_of_reach h
  have hpassed := passed_of_reach h
  have hv : (0 : K) < max 1e-3 start.speedLimit := lt_max_of_lt_left (by norm_num)
  have hspaced := spaced_timedPath fns hv (now + 0.1) path
  have hincreasing := increasing_timedPath fns hv (now + 0.1) path
  -- the trajectory is not empty
  obtain ⟨front, back, hhead, hlast⟩ : ∃ front back,
      r.server.currentPath.head? = some front ∧ r.server.currentPath.getLast? = some back := by
    rw [hon.path_eq]
    have hne : timedPath fns (now + 0.1) (max 1e-3 start.speedLimit) path ≠ [] := by
      cases path with
      | nil => exact absurd rfl (path_ne_of_reach h)
      | cons p poses => simp [timedPath]
    exact ⟨_, _, List.head?_eq_some_head hne, List.getLast?_eq_some_getLast hne⟩
  rw [← hon.path_eq] at hspaced hincreasing
  have hindex : IndexInRange r.server.currentPath r.server.currentWaypointIndex :=
    hon.path_eq ▸ hon.index
  have hin : ¬ OutOfRange reading r.server := not_outOfRange hindex
  obtain ⟨r', hstep⟩ := exists_command_step fns params hin
  obtain ⟨heffect, -⟩ := command_step hstep
  have hpath' : r'.server.currentPath = r.server.currentPath :=
    (hon.effect heffect).path_eq.trans hon.path_eq.symm
  refine ⟨r', front, back, hstep, hpath'.trans hon.path_eq, hpath' ▸ hhead, hpath' ▸ hlast, ?_⟩
  rw [hpath']
  obtain ⟨s', lastNow⟩ := r'
  cases heffect with
  | noPath hnil =>
    rw [hnil] at hhead
    cases hhead
  | before front' filter hhead' hnot =>
    rw [hhead] at hhead'
    cases hhead'
    exact ⟨fun hafter => absurd hafter (not_lt.mpr hnot),
      fun hafter => absurd hafter (not_lt.mpr hnot)⟩
  | atGoal front' back' _ hlast' _ hgoal =>
    rw [hlast] at hlast'
    cases hlast'
    exact ⟨fun _ hbefore => absurd hbefore (not_lt.mpr hgoal), fun _ _ => ⟨_, rfl, rfl, rfl⟩⟩
  | onPath front' back' a b j hhead' hlast' hafter hbefore hj ha hb =>
    rw [hlast] at hlast'
    cases hlast'
    subst hj
    have hsegment := segment_of_passed hpassed hclock hhead' hafter ha hb
    refine ⟨fun _ _ => ⟨?_, _, a, b, rfl, rfl, rfl, hsegment, ?_⟩,
      fun _ hgoal => absurd hbefore (not_lt.mpr hgoal)⟩
    · -- a search from the start finds the same segment
      have hfresh := advanceIndex_lt (.inl rfl) hhead' hlast hafter hbefore
      have hzero := segment_of_passed (r := { r with server.currentWaypointIndex := 0 }) (.inl rfl)
        hclock hhead' hafter (List.getElem?_eq_getElem (Nat.lt_of_succ_lt hfresh))
        (List.getElem?_eq_getElem hfresh)
      exact segment_unique hincreasing hsegment hzero
    · rw [interpolate_eq (increasing_positions hincreasing) (segment_positions hsegment)]
      exact targetPose_position (spaced_of_getElem? hspaced ha hb) hsegment.after
        hsegment.until_finish

end Ordered

end Runs

/-! ### A level path -/

section Level

variable {K : Type} [Field K] [LinearOrder K] (fns : Functions K)

/-- The defaults of the node. -/
def Params.defaults : Params K where
  controllerFrequency := 50
  xyzGoalTolerance := 0.1
  defaultSpeedLimit := 0.3
  slowdownDistance := 0.3
  filter := .defaults

/-- A level pose on the first axis. -/
def levelPose (x : K) : StampedPose K := ⟨⟨0, "map"⟩, ⟨⟨x, 0, 0⟩, ⟨0, 0, 0, 1⟩⟩⟩

/-- The node before the first path, with a speed limit of 1 m/s. -/
def unstarted : Server K where
  currentPath := []
  currentWaypointIndex := 0
  pathStartTime := 0
  speedLimit := 1
  filter := resetFilter fns.angles ⟨⟨0, 0, 0⟩, ⟨0, 0, 0, 1⟩⟩
  updates := []

end Level

/-- Right for level poses that look ahead and for the distances of the run
below. -/
def levelFunctions : Functions ℚ where
  angles := ⟨fun _ => 0, fun a => a⟩
  sqrt x := if x = 25 / 4 then 5 / 2 else if x = 9 / 4 then 3 / 2 else if x = 1 / 16 then 1 / 4 else x
  slerp q _ _ := q
  setYaw _ := ⟨0, 0, 0, 1⟩

/-- Three metres ahead. -/
def levelPath : List (StampedPose ℚ) := [levelPose 0, levelPose 1, levelPose 2, levelPose 3]

/-- The node with this path, at time 0. -/
def followingLevel : Follow ℚ where
  server := { unstarted levelFunctions with
    currentPath := timedPath levelFunctions (0 + 0.1) (max 1e-3 1) levelPath
    pathStartTime := 0 + 0.1 }
  lastNow := none

theorem followingLevel_init : (followSystem levelFunctions .defaults (unstarted levelFunctions) 0
    none levelPath).init followingLevel :=
  ⟨rfl, _, rfl, rfl⟩

instance ClockForward.decidable (r : Follow ℚ) :
    (l : FollowCall ℚ) → Decidable (ClockForward r l)
  | .command reading => inferInstanceAs (Decidable (∀ last ∈ r.lastNow, last ≤ reading.now))
  | .speedLimit _ => isTrue trivial

/-- Two commands and a speed limit before the command in the last
segment. -/
def levelCalls : List (FollowCall ℚ) :=
  [.command ⟨0.6, none, 0.6⟩, .speedLimit 2, .command ⟨1.6, none, 1.6⟩]

/-- The third command is a quarter of a metre before the end. -/
theorem samples_interpolate_third :
    ∃ (s s' : Server ℚ) (front back : ℚ × StampedPose ℚ), s.currentWaypointIndex = 1 ∧
      s.updates.length = 2 ∧ front.1 = 0.1 ∧ back.1 = 3.1 ∧
      Sampled s'.currentPath front back ⟨2.85, none, 2.85⟩ s s' := by
  obtain ⟨r, hr, hs⟩ := System.exists_reach_of_runWhile
    (S := followSystem levelFunctions .defaults (unstarted levelFunctions) 0 none levelPath)
    ClockForward levelCalls
    (fun r => decide (r.server.currentWaypointIndex = 1 ∧ r.server.updates.length = 2 ∧
      ClockForward r (.command ⟨2.85, none, 2.85⟩))) followingLevel_init (by decide +kernel)
  obtain ⟨hindex, hupdates, hclock⟩ := of_decide_eq_true hs
  obtain ⟨r', front, back, -, hpath, hhead, hlast, hsampled⟩ := samples_interpolate hr hclock
  refine ⟨r.server, r'.server, front, back, hindex, hupdates, ?_, ?_, hsampled⟩
  · rw [hpath] at hhead
    cases hhead
    decide +kernel
  · rw [hpath] at hlast
    cases hlast
    decide +kernel

end Nav3D.Controller.Exact

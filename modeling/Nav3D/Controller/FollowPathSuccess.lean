/-
Nav3D.Controller.FollowPathSuccess — what a success of `computeControl()`
says of the goal, and that the callback leaves no goal behind.

The steps are those of `Nav3D.Controller.ControllerServer`; what is added
is the trajectory with the poses that are read, and the goals that have
been current during the call. `computeControl()` empties `current_path_`
just before it calls `succeeded_current` (`path_cleared_at_success`); the
trajectory that `isGoalReached()` has found done is recorded in `reached`.
-/
import Nav3D.Controller.ControllerInvariant
import Nav3D.Controller.TimedTrajectory
import Nav3D.Px4.HoldWaypoint

namespace Nav3D.Controller

open Nav3D.Ros Nav3D.Util
open Nav3D.BehaviorTree (ErrorResult)
open Nav3D.BtNavigator (FollowPathGoal)
open Nav3D.Px4 (Double Pose)

/-! ## The callback with its trajectory -/

/-- The controller server with `current_path_`, and a record of the poses
read, of the trajectory that was last found done and of the goals that have
been current since the callback was entered. -/
structure PathFollower (D : Type) where
  control : ControllerServer (PoseStamped D)
  currentPath : TimedPath D
  lastPose : Option (PoseStamped D)
  reached : TimedPath D
  executed : List GoalId

def PathFollower.initial {D : Type} : PathFollower D := ⟨.initial, [], none, [], []⟩

/-- A step with what it reads. -/
inductive FollowLabel (D : Type) where
  /-- A step that does not concern the trajectory. -/
  | control (l : ControllerLabel (PoseStamped D))
  /-- `generateTimedTrajectory`, with the reading of the clock, the speed
  limit and the pose read at its end. If it throws, `filled` poses are
  already in the trajectory. -/
  | generate (thrown : Option (ControlException × String)) (filled : Nat) (now : Int)
      (speedLimit : D) (pose : Option (PoseStamped D))
  /-- `getCurrentCommand` and `isGoalReached`, with the poses they read. -/
  | command (commandPose goalPose : Option (PoseStamped D))
  /-- One of the two throws, after it may have read a pose. -/
  | throwCommand (thrown : ControlException × String) (pose : Option (PoseStamped D))

section Follow

variable {D : Type} [Double D] (lib : TrajectoryLib D) (tolerances : GoalTolerances D)

/-- `current_path_` after `generateTimedTrajectory(goal->path)`. The loop
empties it before the call for an accepted goal. -/
def generatedPath (accepted : Bool) (goal : FollowPathGoal (List (PoseStamped D)))
    (thrown : Option (ControlException × String)) (filled : Nat) (now : Int) (speedLimit : D)
    (currentPath : TimedPath D) : TimedPath D :=
  if goal.path.isEmpty then if accepted then [] else currentPath
  else
    let trajectory := timedTrajectory lib now speedLimit goal.path
    if thrown.isSome then trajectory.take filled else trajectory

/-- The goals that have been current, after a step: entering the callback
begins a new list, and `accept_pending_goal` may add one. -/
def executedAfter (s : PathFollower D) (l : ControllerLabel (PoseStamped D))
    (control : ControllerServer (PoseStamped D)) : List GoalId :=
  match l with
  | .server (.testGuard _) =>
    if loopCondition s.control.server then control.server.server.currentHandle.toList
    else s.executed
  | .acceptPendingGoal => control.server.server.currentHandle.toList ++ s.executed
  | _ => s.executed

/-- One step of one party. -/
def followStep (s : PathFollower D) : FollowLabel D → Option (PathFollower D)
  | .control l =>
    match l with
    | .generate _ | .command _ | .throwCommand _ => none
    | l =>
      (controllerStep s.control l).map fun control =>
        { s with control := control, executed := executedAfter s l control }
  | .generate thrown filled now speedLimit pose =>
    match s.control.pc with
    | .generating accepted goal =>
      (controllerStep s.control (.generate thrown)).map fun control =>
        { s with
          control := control
          currentPath :=
            generatedPath lib accepted goal thrown filled now speedLimit s.currentPath
          lastPose := pose.or s.lastPose }
    | _ => none
  | .command commandPose goalPose =>
    let done := isGoalReached lib tolerances s.currentPath goalPose
    (controllerStep s.control (.command done)).map fun control =>
      { s with
        control := control
        currentPath := if done then [] else s.currentPath
        lastPose := goalPose.or (commandPose.or s.lastPose)
        reached := if done then s.currentPath else s.reached }
  | .throwCommand thrown pose =>
    (controllerStep s.control (.throwCommand thrown)).map fun control =>
      { s with control := control, lastPose := pose.or s.lastPose }

/-- The controller server with its trajectory and all parties. -/
def followSystem : Transition.System (PathFollower D) (FollowLabel D) where
  init := fun s => s = .initial
  step := followStep lib tolerances

/-- The step of `controllerSystem` that a step is. -/
def controlLabel (s : PathFollower D) : FollowLabel D → ControllerLabel (PoseStamped D)
  | .control l => l
  | .generate thrown _ _ _ _ => .generate thrown
  | .command _ goalPose => .command (isGoalReached lib tolerances s.currentPath goalPose)
  | .throwCommand thrown _ => .throwCommand thrown

variable {lib tolerances}

/-- **Refinement.** Every step is one of `controllerSystem`. -/
theorem control_followStep {s s' : PathFollower D} {l : FollowLabel D}
    (h : followStep lib tolerances s l = some s') :
    controllerStep s.control (controlLabel lib tolerances s l) = some s'.control := by
  cases l with
  | control l =>
    cases l <;> simp only [followStep] at h <;>
      first
      | cases h
      | (obtain ⟨control, hcontrol, rfl⟩ := Option.map_eq_some_iff.mp h; exact hcontrol)
  | generate thrown filled now speedLimit pose =>
    simp only [followStep] at h
    split at h
    · obtain ⟨control, hcontrol, rfl⟩ := Option.map_eq_some_iff.mp h
      exact hcontrol
    · cases h
  | command commandPose goalPose =>
    obtain ⟨control, hcontrol, rfl⟩ := Option.map_eq_some_iff.mp h
    exact hcontrol
  | throwCommand thrown pose =>
    obtain ⟨control, hcontrol, rfl⟩ := Option.map_eq_some_iff.mp h
    exact hcontrol

end Follow

/-! ## The trajectory of the current goal -/

section Invariant

variable {D : Type} [Double D]

/-- The goal in the current slot, if there is one, has the message `goal`. -/
def CurrentGoal (s : ActionServerState (FollowPathGoal (List (PoseStamped D))) ErrorResult)
    (goal : FollowPathGoal (List (PoseStamped D))) : Prop :=
  ∀ g, s.server.currentHandle = some g → s.server.message g = some goal

/-- What the callback has of the current goal, by its place. -/
structure Follows (lib : TrajectoryLib D) (tolerances : GoalTolerances D) (s : PathFollower D) :
    Prop where
  generating : ∀ accepted goal, s.control.pc = .generating accepted goal →
    CurrentGoal s.control.server goal
  inLoop : s.control.pc.inLoop = true → ∃ goal, CurrentGoal s.control.server goal ∧
    TimedVersion lib goal.path s.currentPath
  succeeding : s.control.pc = .succeeding → s.currentPath = [] ∧
    ∃ goal t last current, CurrentGoal s.control.server goal ∧
      TimedVersion lib goal.path s.reached ∧ s.reached.getLast? = some (t, last) ∧
      s.lastPose = some current ∧ AtGoal lib tolerances current.pose last.pose

/-- What holds in every reachable state: the callback follows the current
goal, and every goal that has been current since it was entered is in
`executed` and in no other place. -/
structure FollowInv (lib : TrajectoryLib D) (tolerances : GoalTolerances D) (s : PathFollower D) :
    Prop where
  control : ControlInv s.control
  follows : Follows lib tolerances s
  executed : ∀ g ∈ s.executed, Executed s.control.server g
  /-- In the callback the current goal is one of them. -/
  current : s.control.pc ≠ .idle → s.executed ≠ [] ∧
    ∀ g, s.control.server.server.currentHandle = some g → g ∈ s.executed

variable {lib : TrajectoryLib D} {tolerances : GoalTolerances D}

theorem followInv_initial : FollowInv lib tolerances (.initial : PathFollower D) where
  control := controlInv_initial
  follows := ⟨nofun, nofun, nofun⟩
  executed := nofun
  current := fun h => absurd rfl h

/-! ### The trajectory -/

/-- In the loop there is one thing to know. -/
theorem follows_of_inLoop {s : PathFollower D} (hin : s.control.pc.inLoop = true)
    {goal : FollowPathGoal (List (PoseStamped D))} (hgoal : CurrentGoal s.control.server goal)
    (htimed : TimedVersion lib goal.path s.currentPath) : Follows lib tolerances s where
  generating := fun _ _ hpc => by rw [hpc] at hin; cases hin
  inLoop := fun _ => ⟨goal, hgoal, htimed⟩
  succeeding := fun hpc => by rw [hpc] at hin; cases hin

omit [Double D] in
/-- The step of another party leaves the current goal, or none. -/
theorem CurrentGoal.bystander
    {s s' : ActionServerState (FollowPathGoal (List (PoseStamped D))) ErrorResult}
    {l : Label (FollowPathGoal (List (PoseStamped D))) ErrorResult}
    {goal : FollowPathGoal (List (PoseStamped D))} (h : CurrentGoal s goal) (hs : ServerInv s)
    (he : Effect s l s') (hl : l.ofCallback = false)
    (hw : s.workers.getLast? = some .executing) : CurrentGoal s' goal := by
  intro g hg
  rcases (bystander_effect hs he hl hw).2 with hsame | hnone
  · exact (keepsGoals_effect he hl).message g goal (h g (hsame.symm.trans hg))
  · rw [hnone] at hg; cases hg

omit [Double D] in
/-- `get_current_goal` returns the message of the current goal. -/
theorem currentGoal_of_getCurrentGoal
    {s : ActionServerState (FollowPathGoal (List (PoseStamped D))) ErrorResult}
    {goal : FollowPathGoal (List (PoseStamped D))}
    (h : s.server.getCurrentGoal = some goal) : CurrentGoal s goal := by
  intro g hg
  simp only [SimpleActionServer.getCurrentGoal, SimpleActionServer.goalOf, hg] at h
  split at h
  · exact h
  · cases h

/-- The step of another party keeps what the callback has. -/
theorem follows_bystander {s : PathFollower D} (hs : FollowInv lib tolerances s)
    {l : Label (FollowPathGoal (List (PoseStamped D))) ErrorResult}
    {server : ActionServerState (FollowPathGoal (List (PoseStamped D))) ErrorResult}
    (he : Effect s.control.server l server) (hl : l.ofCallback = false)
    (executed : List GoalId) :
    Follows lib tolerances
      { s with control := { s.control with server := server }, executed := executed } := by
  have hkeep : ∀ {goal}, s.control.pc ≠ .idle → CurrentGoal s.control.server goal →
      CurrentGoal server goal := fun hne hgoal =>
    hgoal.bystander hs.control.server he hl (hs.control.inCallback.mp hne)
  refine ⟨fun accepted goal hpc => ?_, fun hin => ?_, fun hpc => ?_⟩
  · exact hkeep (by rw [show s.control.pc = _ from hpc]; exact nofun)
      (hs.follows.generating accepted goal hpc)
  · obtain ⟨goal, hgoal, htimed⟩ := hs.follows.inLoop hin
    exact ⟨goal, hkeep (ComputePc.ne_idle_of_inLoop hin) hgoal, htimed⟩
  · obtain ⟨hpath, goal, t, last, current, hgoal, hrest⟩ := hs.follows.succeeding hpc
    exact ⟨hpath, goal, t, last, current,
      hkeep (by rw [show s.control.pc = _ from hpc]; exact nofun) hgoal, hrest⟩

/-- So does a step of the action server that moves the callback. -/
theorem follows_party {s : PathFollower D} (hs : FollowInv lib tolerances s)
    {l : Label (FollowPathGoal (List (PoseStamped D))) ErrorResult}
    {control : ControllerServer (PoseStamped D)} (h : PartyEffect s.control l control)
    (executed : List GoalId) :
    Follows lib tolerances { s with control := control, executed := executed } := by
  cases h with
  | bystander hl _ hserver =>
    exact follows_bystander hs (effect_of_step hs.control.server hserver) hl executed
  | entered _ _ => exact ⟨nofun, nofun, nofun⟩
  | passed _ hserver =>
    exact follows_bystander hs (effect_of_step hs.control.server hserver) rfl executed
  | returned _ _ => exact ⟨nofun, nofun, nofun⟩

/-- A move of the callback that does not concern the trajectory keeps what
the callback has. -/
theorem follows_own {s : PathFollower D} (hs : FollowInv lib tolerances s)
    {l : ControllerLabel (PoseStamped D)} {control : ControllerServer (PoseStamped D)}
    (hgenerate : ∀ thrown, l ≠ .generate thrown) (hcommand : ∀ reached, l ≠ .command reached)
    (h : OwnEffect s.control l control) (lastPose : Option (PoseStamped D))
    (executed : List GoalId) :
    Follows lib tolerances
      { s with control := control, lastPose := lastPose, executed := executed } := by
  cases h with
  | moved hpc hcall =>
    cases moves_of_nextPc hpc with
    | gotGoal _ hgoal =>
      refine ⟨fun accepted goal heq => ?_, nofun, nofun⟩
      cases heq
      exact currentGoal_of_getCurrentGoal hgoal
    | generated _ _ _ _ => exact absurd rfl (hgenerate _)
    | tested hin hin' _ _ _ =>
      obtain ⟨goal, hgoal, htimed⟩ := hs.follows.inLoop hin
      exact follows_of_inLoop hin' hgoal htimed
    | commanded _ _ => exact absurd rfl (hcommand _)
    | _ => exact ⟨nofun, nofun, nofun⟩
  | called hpc hcall =>
    cases moves_of_nextPc hpc with
    | gotGoal _ _ => cases hcall
    | generated _ _ _ _ => exact absurd rfl (hgenerate _)
    | tested _ _ hnone _ _ => rw [hnone] at hcall; cases hcall
    | commanded _ _ => exact absurd rfl (hcommand _)
    | _ => exact ⟨nofun, nofun, nofun⟩

/-- `generateTimedTrajectory` makes the trajectory of the goal that was
read. -/
theorem follows_generate {s : PathFollower D} (hs : FollowInv lib tolerances s)
    {thrown : Option (ControlException × String)} {accepted : Bool}
    {goal : FollowPathGoal (List (PoseStamped D))} (hpc : s.control.pc = .generating accepted goal)
    {control : ControllerServer (PoseStamped D)}
    (h : OwnEffect s.control (.generate thrown) control) (filled : Nat) (now : Int)
    (speedLimit : D) (lastPose : Option (PoseStamped D)) :
    Follows lib tolerances
      { s with
        control := control
        currentPath := generatedPath lib accepted goal thrown filled now speedLimit s.currentPath
        lastPose := lastPose } := by
  cases h with
  | called _ hcall => cases hcall
  | moved hnext _ =>
    cases moves_of_nextPc hnext with
    | generated hpc' hpath hthrown hin =>
      rw [hpc] at hpc'
      cases hpc'
      subst hthrown
      refine follows_of_inLoop hin (hs.follows.generating _ _ hpc) ⟨now, speedLimit, ?_⟩
      simp [generatedPath, hpath]
    | tested _ _ _ hne _ => exact absurd rfl (hne _)
    | _ => exact ⟨nofun, nofun, nofun⟩

/-- `isGoalReached` tests the end of the trajectory. -/
theorem follows_command {s : PathFollower D} (hs : FollowInv lib tolerances s)
    {commandPose goalPose : Option (PoseStamped D)} {done : Bool}
    (hdone : isGoalReached lib tolerances s.currentPath goalPose = done)
    {control : ControllerServer (PoseStamped D)}
    (h : OwnEffect s.control (.command done) control) :
    Follows lib tolerances
      { s with
        control := control
        currentPath := if done then [] else s.currentPath
        lastPose := goalPose.or (commandPose.or s.lastPose)
        reached := if done then s.currentPath else s.reached } := by
  cases h with
  | called _ hcall => cases hcall
  | moved hnext _ =>
    cases moves_of_nextPc hnext with
    | commanded hpc hpc' =>
      subst hpc'
      obtain ⟨goal, hgoal, htimed⟩ := hs.follows.inLoop (by rw [hpc]; rfl)
      cases done with
      | false => exact follows_of_inLoop rfl hgoal htimed
      | true =>
        obtain ⟨t, last, current, hlast, rfl, hat⟩ := atGoal_of_isGoalReached hdone
        exact ⟨nofun, nofun, fun _ => ⟨rfl, goal, t, last, current, hgoal, htimed, hlast, rfl, hat⟩⟩
    | tested _ _ _ _ hne => exact absurd rfl (hne _)
    | _ => exact ⟨nofun, nofun, nofun⟩

/-! ### The goals that have been current -/

omit [Double D] in
/-- A goal that has been current stays out of the other places. -/
theorem executed_controllerStep {s s' : ControllerServer (PoseStamped D)}
    {l : ControllerLabel (PoseStamped D)} (hs : ServerInv s.server)
    (h : controllerStep s l = some s') {g : GoalId} (hg : Executed s.server g) :
    Executed s'.server g := by
  rcases controllerLoop.server_cases h with hsame | ⟨k, _, hserver⟩
  · rw [show s'.server = s.server from hsame]
    exact hg
  · exact executed_effect hs hg (effect_of_step hs hserver)

omit [Double D] in
/-- The current goal after a step of the callback. -/
theorem current_own {s s' : ControllerServer (PoseStamped D)}
    {l : ControllerLabel (PoseStamped D)} (hs : ServerInv s.server) (h : OwnEffect s l s') :
    l = .acceptPendingGoal ∨ s'.server.server.currentHandle = none ∨
      s'.server.server.currentHandle = s.server.server.currentHandle := by
  cases h with
  | moved _ _ => exact .inr (.inr rfl)
  | called _ hcall =>
    unfold controllerCall at hcall
    split at hcall
    · exact .inl rfl
    · cases hcall
      exact .inr (.inl (SimpleActionServer.currentHandle_succeededCurrent hs.slots _))
    · split at hcall
      · cases hcall
        exact .inr (.inl (SimpleActionServer.currentHandle_terminateCurrent hs.slots _))
      · cases hcall
    · cases hcall
      exact .inr (.inl (SimpleActionServer.slot_terminateAll hs.slots _ .current))
    · cases hcall

/-- The record and the current goal after a step of the callback. -/
theorem executedAfter_own {s : PathFollower D} (hs : FollowInv lib tolerances s)
    {l : ControllerLabel (PoseStamped D)} (hl : ∀ k, l ≠ .server k)
    {control : ControllerServer (PoseStamped D)} (h : OwnEffect s.control l control) :
    executedAfter s l control ≠ [] ∧
      ∀ g, control.server.server.currentHandle = some g → g ∈ executedAfter s l control := by
  obtain ⟨pc, hmoves⟩ := h.moves
  obtain ⟨hnonempty, hmem⟩ := hs.current hmoves.ne_idle.1
  have hcurrent := current_own hs.control.server h
  unfold executedAfter
  split
  · exact absurd rfl (hl _)
  · exact ⟨List.append_ne_nil_of_right_ne_nil _ hnonempty, fun g hg => by simp [hg]⟩
  · next hnot =>
    refine ⟨hnonempty, fun g hg => ?_⟩
    rcases hcurrent with heq | hnone | hsame
    · exact absurd heq hnot
    · rw [hnone] at hg; cases hg
    · exact hmem g (hsame.symm.trans hg)

/-- The record and the current goal after a step of the action server. -/
theorem executedAfter_party {s : PathFollower D} (hs : FollowInv lib tolerances s)
    {l : Label (FollowPathGoal (List (PoseStamped D))) ErrorResult}
    {control : ControllerServer (PoseStamped D)} (h : PartyEffect s.control l control)
    (hcontrol : ControlInv control) (hne : control.pc ≠ .idle) :
    executedAfter s (.server l) control ≠ [] ∧
      ∀ g, control.server.server.currentHandle = some g →
        g ∈ executedAfter s (.server l) control := by
  cases h with
  | bystander hl hguard hserver =>
    next server =>
    have heffect := effect_of_step hs.control.server hserver
    obtain ⟨hnonempty, hmem⟩ := hs.current hne
    have hsame : executedAfter s (.server l) { s.control with server := server } = s.executed := by
      unfold executedAfter
      split
      · next i heq => cases heq; exact absurd rfl (hguard i)
      · next heq => cases heq
      · rfl
    rw [hsame]
    refine ⟨hnonempty, fun g hg => ?_⟩
    rcases (bystander_effect hs.control.server heffect hl (hs.control.inCallback.mp hne)).2 with
      hkept | hnone
    · exact hmem g (hkept.symm.trans hg)
    · rw [show _ = none from hnone] at hg; cases hg
  | entered hc hserver =>
    next i server =>
    have hsome : s.control.server.server.currentHandle ≠ none := by
      intro hnone
      simp [loopCondition, hnone, SimpleActionServer.isActive] at hc
    have hkept : server.server = s.control.server.server := by
      cases effect_of_step hs.control.server hserver
      rfl
    simp only [executedAfter, hc, if_true, hkept]
    refine ⟨fun hnil => hsome (Option.toList_eq_nil_iff.mp hnil), fun g hg => ?_⟩
    rw [hg]
    exact List.mem_singleton_self g
  | passed hc hserver =>
    have hw := hcontrol.inCallback.mp hne
    rw [(enters_of_testGuard (effect_of_step hs.control.server hserver)).mp hw] at hc
    cases hc
  | returned _ _ => exact absurd rfl hne

omit [Double D] in
/-- What is recorded has been current. -/
theorem mem_executedAfter {s : PathFollower D} {l : ControllerLabel (PoseStamped D)}
    {control : ControllerServer (PoseStamped D)} {g : GoalId}
    (hg : g ∈ executedAfter s l control) :
    g ∈ s.executed ∨ control.server.server.currentHandle = some g := by
  unfold executedAfter at hg
  split at hg
  · split at hg
    · exact .inr (Option.mem_toList.mp hg)
    · exact .inl hg
  · rcases List.mem_append.mp hg with hg | hg
    · exact .inr (Option.mem_toList.mp hg)
    · exact .inl hg
  · exact .inl hg

/-! ### Every step -/

/-- A step that keeps the record: what is left to show is the trajectory. -/
theorem followInv_own {s s' : PathFollower D} (hs : FollowInv lib tolerances s)
    {l : ControllerLabel (PoseStamped D)} (hl : ∀ k, l ≠ .server k)
    (hstep : controllerStep s.control l = some s'.control)
    (hexecuted : s'.executed = executedAfter s l s'.control)
    (hfollows : Follows lib tolerances s') : FollowInv lib tolerances s' := by
  have hcontrol := controlInv_step hs.control hstep
  have hown := ownEffect_of_step hl hstep
  refine ⟨hcontrol, hfollows, fun g hg => ?_, fun _ => ?_⟩
  · rw [hexecuted] at hg
    rcases mem_executedAfter hg with hold | hcurrent
    · exact executed_controllerStep hs.control.server hstep (hs.executed g hold)
    · exact executed_current hcontrol.server hcurrent
  · rw [hexecuted]
    exact executedAfter_own hs hl hown

/-- **Step lemma.** -/
theorem followInv_step {s s' : PathFollower D} {l : FollowLabel D}
    (hs : FollowInv lib tolerances s) (h : followStep lib tolerances s l = some s') :
    FollowInv lib tolerances s' := by
  have hstep := control_followStep h
  cases l with
  | control l =>
    have hother : ∀ {l : ControllerLabel (PoseStamped D)} {control},
        (∀ k, l ≠ .server k) → (∀ thrown, l ≠ .generate thrown) →
        (∀ reached, l ≠ .command reached) → controllerStep s.control l = some control →
        FollowInv lib tolerances
          { s with control := control, executed := executedAfter s l control } :=
      fun hl hgenerate hcommand hctl =>
        followInv_own hs hl hctl rfl
          (follows_own hs hgenerate hcommand (ownEffect_of_step hl hctl) _ _)
    cases l with
    | server k =>
      obtain ⟨control, hctl, rfl⟩ := Option.map_eq_some_iff.mp h
      have hparty := partyEffect_of_step hctl
      have hcontrol := controlInv_step hs.control hctl
      refine ⟨hcontrol, follows_party hs hparty _, fun g hg => ?_, fun hne => ?_⟩
      · rcases mem_executedAfter hg with hold | hcurrent
        · exact executed_controllerStep hs.control.server hctl (hs.executed g hold)
        · exact executed_current hcontrol.server hcurrent
      · exact executedAfter_party hs hparty hcontrol hne
    | generate thrown => cases h
    | command reached => cases h
    | throwCommand thrown => cases h
    | _ =>
      obtain ⟨control, hctl, rfl⟩ := Option.map_eq_some_iff.mp h
      exact hother (by simp) (by simp) (by simp) hctl
  | generate thrown filled now speedLimit pose =>
    have hown := ownEffect_of_step (by simp [controlLabel]) hstep
    simp only [followStep] at h
    split at h
    · next accepted goal hpc =>
      obtain ⟨control, _, rfl⟩ := Option.map_eq_some_iff.mp h
      exact followInv_own hs (by simp [controlLabel]) hstep rfl
        (follows_generate hs hpc hown filled now speedLimit _)
    · cases h
  | command commandPose goalPose =>
    have hown := ownEffect_of_step (by simp [controlLabel]) hstep
    obtain ⟨control, _, rfl⟩ := Option.map_eq_some_iff.mp h
    exact followInv_own hs (by simp [controlLabel]) hstep rfl (follows_command hs rfl hown)
  | throwCommand thrown pose =>
    have hown := ownEffect_of_step (by simp [controlLabel]) hstep
    obtain ⟨control, _, rfl⟩ := Option.map_eq_some_iff.mp h
    exact followInv_own hs (by simp [controlLabel]) hstep rfl
      (follows_own hs (by simp [controlLabel]) (by simp [controlLabel]) hown _ _)

theorem followInv_of_reach {s : PathFollower D}
    (h : (followSystem lib tolerances).Reach Transition.System.anyStep s) :
    FollowInv lib tolerances s := by
  refine h.invariant _ ?_ ?_
  · rintro s rfl
    exact followInv_initial
  · intro s l s' hs _ hstep
    exact followInv_step hs hstep

/-! ## The success and the return -/

/-- What a success says of a goal: the trajectory that was found done is a
timed version of its path, and the pose read last is within the tolerances
of the last pose of that path. -/
structure ReachedGoal (lib : TrajectoryLib D) (tolerances : GoalTolerances D)
    (s : PathFollower D) (goal : FollowPathGoal (List (PoseStamped D))) : Prop where
  trajectory : TimedVersion lib goal.path s.reached
  arrived : ∃ current last, s.lastPose = some current ∧ goal.path.getLast? = some last ∧
    AtGoal lib tolerances current.pose last.pose

/-- Before `succeeded_current` the current goal has been reached. -/
theorem Follows.reachedGoal {s : PathFollower D} (h : Follows lib tolerances s)
    (hpc : s.control.pc = .succeeding) : s.currentPath = [] ∧
      ∃ goal, CurrentGoal s.control.server goal ∧ ReachedGoal lib tolerances s goal := by
  obtain ⟨hpath, goal, t, last, current, hgoal, htimed, hlast, hpose, hat⟩ := h.succeeding hpc
  obtain ⟨p, hp, hsame⟩ := htimed.getLast? hlast
  rw [hsame] at hat
  exact ⟨hpath, goal, hgoal, htimed, current, p, hpose, hp, hat⟩

/-- When the callback returns on an active server, all goals that were
executed have ended. -/
theorem FollowInv.terminal {s : PathFollower D} (h : FollowInv lib tolerances s)
    (hpc : s.control.pc = .returning) (hactive : s.control.server.server.serverActive = true) :
    s.executed ≠ [] ∧
      ∀ g ∈ s.executed, (s.control.server.server.status g).isTerminal = true := by
  refine ⟨(h.current (by rw [hpc]; exact nofun)).1, fun g hg => ?_⟩
  rcases h.control.returning hpc with hnone | hoff
  · exact (h.executed g hg).terminal h.control.server hnone
  · rw [hactive] at hoff; cases hoff

/-- **Soundness of success.** In every run: when `succeeded_current` is
called, `current_path_` has just been emptied, and the trajectory that was
found done is a timed version of exactly the path of the goal that is
current, with the pose read last at its end; and when the callback returns
while the server is active, every goal it has executed has ended. -/
theorem follow_path_success_sound {s : PathFollower D}
    (h : (followSystem lib tolerances).Reach Transition.System.anyStep s) :
    (∀ s', followStep lib tolerances s (.control .succeededCurrent) = some s' →
      s.currentPath = [] ∧
        ∃ goal, CurrentGoal s.control.server goal ∧ ReachedGoal lib tolerances s goal) ∧
    (∀ i s', followStep lib tolerances s (.control (.server (.callbackReturn i))) = some s' →
      s'.control.server.server.serverActive = true →
      s.executed ≠ [] ∧
        ∀ g ∈ s.executed, (s'.control.server.server.status g).isTerminal = true) := by
  have hs := followInv_of_reach h
  refine ⟨fun s' hstep => ?_, fun i s' hstep hactive => ?_⟩
  · exact hs.follows.reachedGoal (pc_of_succeededCurrent (control_followStep hstep))
  · obtain ⟨hpc, hserver⟩ := returning_of_callbackReturn hs.control (control_followStep hstep)
    rw [hserver] at hactive ⊢
    exact hs.terminal hpc hactive

end Invariant

/-! ## A run over exact numbers -/

/-- The functions of other libraries on level poses. -/
def levelLib : TrajectoryLib ℚ where
  angles := ⟨fun q => q.z, id⟩
  fromSeconds seconds := (seconds * 1000000000).floor

/-- A level pose above the origin. -/
def stampedAt (z : ℚ) : PoseStamped ℚ := ⟨⟨0, "map"⟩, ⟨⟨0, 0, z⟩, ⟨0, 0, 0, 1⟩⟩⟩

/-- The goal to climb to 2 m. -/
def climb : FollowPathGoal (List (PoseStamped ℚ)) :=
  ⟨[stampedAt 1, stampedAt 2], "FollowPath", "", ""⟩

/-- The goal is received and its path timed; the first pose read is the one
it starts from, the next one is at its end. -/
def climbed : List (FollowLabel ℚ) :=
  [.control (.server .activate), .control (.server (.goalRequest 0 climb)),
    .control (.server (.goalAccepted 0)), .control (.server (.testGuard 0)),
    .control .getCurrentGoal, .generate none 0 0 1 (some (stampedAt 1)),
    .control .testOk, .control .testActive, .control .testCancel, .control .testPreempt,
    .command (some (stampedAt 1)) (some (stampedAt 1)),
    .control .testOk, .control .testActive, .control .testCancel, .control .testPreempt,
    .command (some (stampedAt 2)) (some (stampedAt 2))]

/-- The goal has been climbed to, and `succeeded_current` is next. -/
def ClimbedTo (s : PathFollower ℚ) : Prop :=
  s.control.server.server.currentHandle = some 0 ∧
    s.control.server.server.message 0 = some climb ∧ s.currentPath = []

instance (s : PathFollower ℚ) : Decidable (ClimbedTo s) :=
  inferInstanceAs (Decidable (_ ∧ _ ∧ _))

/-- When `succeeded_current` is called, `current_path_` is not a timed
version of the path of the current goal. -/
theorem path_cleared_at_success : ∃ (s : PathFollower ℚ) (g : GoalId)
    (goal : FollowPathGoal (List (PoseStamped ℚ))),
    (followSystem levelLib .defaults).Reach Transition.System.anyStep s ∧
    (followStep levelLib .defaults s (.control .succeededCurrent)).isSome = true ∧
    s.control.server.server.currentHandle = some g ∧
    s.control.server.server.message g = some goal ∧
    ¬ TimedVersion levelLib goal.path s.currentPath := by
  obtain ⟨s, hr, hs⟩ := Transition.System.exists_reach_of_runWhile
    (S := followSystem levelLib .defaults) Transition.System.anyStep climbed
    (fun s => decide (ClimbedTo s) &&
      (followStep levelLib .defaults s (.control .succeededCurrent)).isSome)
    rfl (by decide +kernel)
  rw [Bool.and_eq_true, decide_eq_true_eq] at hs
  obtain ⟨⟨hcurrent, hmessage, hpath⟩, hstep⟩ := hs
  refine ⟨s, 0, climb, hr, hstep, hcurrent, hmessage, ?_⟩
  rw [hpath]
  rintro ⟨now, speedLimit, heq⟩
  cases heq

/-- At the end of the climb the goal has been reached, and it has ended
when the callback returns. -/
theorem climb_succeeds : ∃ s s' : PathFollower ℚ,
    ReachedGoal levelLib .defaults s climb ∧
    s'.control.server.server.serverActive = true ∧
    (s'.control.server.server.status 0).isTerminal = true := by
  obtain ⟨s, hr, hs⟩ := Transition.System.exists_reach_of_runWhile
    (S := followSystem levelLib .defaults) Transition.System.anyStep climbed
    (fun s => decide (ClimbedTo s) &&
      (followStep levelLib .defaults s (.control .succeededCurrent)).any
        fun t : PathFollower ℚ => decide (t.executed = [0]) &&
          (followStep levelLib .defaults t (.control (.server (.callbackReturn 0)))).any
            fun s' : PathFollower ℚ => s'.control.server.server.serverActive)
    rfl (by decide +kernel)
  rw [Bool.and_eq_true, decide_eq_true_eq, Option.any_eq_true] at hs
  obtain ⟨⟨hcurrent, hmessage, _⟩, t, hsucceeded, ht⟩ := hs
  rw [Bool.and_eq_true, decide_eq_true_eq, Option.any_eq_true] at ht
  obtain ⟨hexecuted, s', hreturn, hactive⟩ := ht
  have hrt : (followSystem levelLib .defaults).Reach Transition.System.anyStep t :=
    .step (l := .control .succeededCurrent) hr trivial hsucceeded
  obtain ⟨_, goal, hgoal, hreached⟩ := (follow_path_success_sound hr).1 t hsucceeded
  obtain ⟨_, hended⟩ := (follow_path_success_sound hrt).2 0 s' hreturn hactive
  obtain rfl : climb = goal := Option.some.inj (hmessage.symm.trans (hgoal 0 hcurrent))
  exact ⟨s, s', hreached, hactive, hended 0 (by rw [hexecuted]; exact List.mem_singleton_self 0)⟩

end Nav3D.Controller

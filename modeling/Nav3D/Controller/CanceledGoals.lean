/-
Nav3D.Controller.CanceledGoals — how goals end whose cancellation has been
accepted, under the loops of the controller server and of the BT server.

Both loops look for a cancellation with `is_cancel_requested`, which asks
the pending goal if there is one, and then accept the pending goal. So a
goal that is canceling when another one arrives is not seen, and is aborted.
A goal that becomes canceling while a locked section is about to abort it is
aborted as well (`canceling_goal_aborted`). Nothing else aborts a canceling
goal (`canceled_or_succeeded`).
-/
import Nav3D.BtNavigator.GoalFlown
import Nav3D.Controller.ControllerServer

namespace Nav3D.Controller

open Nav3D.Ros Nav3D.Util Nav3D.BehaviorTree Nav3D.BtNavigator Transition.System

/-! ## The loop of the BT server -/

section NavigatorLoop

variable {P : Type} [DecidableEq P]

/-- The step of the action server that a step of the navigator is. -/
def navigatorServerLabel (s : NavigateToPose P) :
    NavigatorLabel P → Option (Label (NavigateToPoseGoal P) ErrorResult)
  | .server l => some l
  | .refuse codes => some (.call (.terminateCurrent (s.bt.populateErrorCode codes default)))
  | .acceptPendingGoal => some (.call .acceptPendingGoal)
  | .terminatePendingGoal => some (.call .terminatePendingGoal)
  | .report =>
    match s.pc with
    | .reporting rc result => some (.call (reportCall rc result))
    | _ => none
  | _ => none

theorem navigatorStep_server {params : NavigatorParams} {tf : Nat → Tf P}
    {s s' : NavigateToPose P} {l : NavigatorLabel P}
    (h : navigatorStep params tf s l = some s') :
    StepsServer s.server (navigatorServerLabel s l) s'.server := by
  unfold navigatorStep at h
  split at h
  · exact BtNavigator.server_serverPartyStep h
  · next navigating load k hpc =>
    unfold receiveGoal at h
    split at h
    · cases h; rfl
    split at h
    · split at h
      · next s₁ hinit =>
        cases h
        rcases goalReceived_spec hinit with ⟨_, pose, bt, _, rfl⟩ | ⟨hf, _⟩
        · rfl
        · cases hf
      · next s₁ hinit =>
        cases h
        rcases goalReceived_spec hinit with ⟨ht, _⟩ | ⟨_, bt, rfl⟩
        · cases ht
        · rfl
      · cases h
    · cases h
  · cases h; rfl
  · split at h
    · cases h; rfl
    split at h <;> (cases h; rfl)
  · cases h; rfl
  · cases h; rfl
  · cases h; rfl
  · split at h
    · cases h
    · cases h; rfl
  · cases h; rfl
  · next k r goal hpc =>
    unfold initializePreempting at h
    split at h
    · next s₁ hinit =>
      cases h
      rcases initializeGoalPose_spec hinit with ⟨_, g, pose, _, _, rfl⟩ | ⟨hf, _⟩
      · rfl
      · cases hf
    · next s₁ hinit =>
      cases h
      rcases initializeGoalPose_spec hinit with ⟨ht, _⟩ | ⟨_, ⟨bt, rfl⟩, _⟩
      · cases ht
      · rfl
    · cases h
  · cases h; rfl
  · cases h; rfl
  · cases h; rfl
  · next rc result hpc =>
    cases h
    show StepsServer s.server (navigatorServerLabel s .report) _
    rw [navigatorServerLabel, hpc]
    rfl
  · cases h

/-- `executeCallback()` under a `NavigateToPoseNavigator`. -/
def navigatorLoop (params : NavigatorParams) (tf : Nat → Tf P) :
    ExecuteLoop (NavigateToPoseGoal P) ErrorResult (NavigateToPose P) (NavigatorLabel P) where
  system := navigatorSystem params tf
  server := NavigateToPose.server
  serverLabel := navigatorServerLabel
  init_server := by rintro _ rfl; rfl
  step_server _ _ _ h := navigatorStep_server h

end NavigatorLoop

/-! ## Canceling goals -/

/-- **A canceling goal ends CANCELED or SUCCEEDED.** Under every execute
loop and every interleaving, in every run whose steps all spare goal `g`
(no `accept_pending_goal` while `g` is canceling in the current slot and
another goal is pending; `g` does not become canceling inside a locked
section that is about to abort it): once `g` has entered the canceling
state, it stays so until it ends CANCELED or SUCCEEDED. The first step that
does not spare it makes it a goal that has been canceling and is ABORTED. -/
theorem canceled_or_succeeded {Goal Result X L : Type} [Inhabited Result]
    (loop : ExecuteLoop Goal Result X L) {g : GoalId} {s : ExecuteLoop.CancelState X}
    (hreach : loop.cancelSystem.Reach (loop.Spares g) s) :
    (g ∈ s.entered → (loop.server s.loop).server.CancelKept g) ∧
    ∀ l s', ¬ loop.Spares g s l → loop.cancelSystem.step s l = some s' →
      g ∈ s'.entered ∧ (loop.server s'.loop).server.status g = .aborted := by
  constructor
  · have hinv := hreach.invariant
      (fun s => loop.CancelInv s ∧
        (g ∈ s.entered → (loop.server s.loop).server.CancelKept g))
      (fun s hs => ⟨loop.cancelInv (C := loop.Spares g) (.init hs), fun hg => by
        rw [hs.2] at hg
        cases hg⟩)
      (fun s l s' h hc hstep =>
        ⟨loop.cancelInv_step h.1 hstep, fun hg => loop.cancelKept_step h.1 h.2 hc hstep hg⟩)
    exact hinv.2
  · intro l s' hc hstep
    exact loop.aborted_step (loop.cancelInv hreach) hc hstep

/-! ## Runs of the two loops -/

def numbersGoal (path : List Nat) : FollowPathGoal (List Nat) := ⟨path, "FollowPath", "", ""⟩

/-- The controller server on poses that are numbers. -/
abbrev numbersLoop : ExecuteLoop (FollowPathGoal (List Nat)) ErrorResult (ControllerServer Nat)
    (ControllerLabel Nat) := controllerLoop

/-- The BT server on poses that are numbers. -/
abbrev numbersNavigator : ExecuteLoop (NavigateToPoseGoal Nat) ErrorResult (NavigateToPose Nat)
    (NavigatorLabel Nat) := navigatorLoop runParams flakyTf

/-- A step during which rclcpp_action cancels no goal that is aborted. -/
def plain {L : Type} (l : L) : L × List GoalId := (l, [])

/-- Goal 0 is followed, and a cancel request for it is accepted. -/
def followRequested : List (ControllerLabel Nat × List GoalId) :=
  [plain (.server .activate), plain (.server (.goalRequest 0 (numbersGoal [1]))),
    plain (.server (.goalAccepted 0)), plain (.server (.testGuard 0)), plain .getCurrentGoal,
    plain (.generate none), plain (.server (.cancelRequest 0))]

/-- Goal 0 becomes canceling, and goal 1 arrives before the loop looks for a
cancellation. -/
def followPreempted : List (ControllerLabel Nat × List GoalId) :=
  followRequested ++ [plain (.server (.cancelGoal 0)),
    plain (.server (.goalRequest 1 (numbersGoal [2]))), plain (.server (.goalAccepted 1)),
    plain .testOk, plain .testActive, plain .testCancel, plain .testPreempt,
    plain .acceptPendingGoal]

/-- The command fails, and goal 0 becomes canceling while the handler's
`terminate_current()` is about to abort it. -/
def followFailed : List (ControllerLabel Nat × List GoalId) :=
  followRequested ++ [plain .testOk, plain .testActive, plain .testCancel, plain .testPreempt,
    plain (.throwCommand (.controllerException, "")), (.terminateCurrent, [0])]

/-- `followPreempted` with the BT server. -/
def navigatePreempted : List (NavigatorLabel Nat × List GoalId) :=
  [plain (.server .activate), plain (.server (.goalRequest 0 (goalAt 10))),
    plain (.server (.goalAccepted 0)), plain (.server (.testGuard 0)),
    plain (.goalReceived false .created 0), plain (.server (.cancelRequest 0)),
    plain (.server (.cancelGoal 0)), plain (.server (.goalRequest 1 (goalAt 20))),
    plain (.server (.goalAccepted 1)), plain .testLoop, plain (.tick (some .running) 0),
    plain .testPreempt, plain .getPendingGoal, plain .acceptPendingGoal]

/-- A run of the loop in which goal 0 enters the canceling state and ends
ABORTED. -/
def AbortsGoal {Goal Result X L : Type} [Inhabited Result]
    (loop : ExecuteLoop Goal Result X L) (ls : List (L × List GoalId)) : Prop :=
  ∃ s s' : ExecuteLoop.CancelState X, loop.cancelSystem.init s ∧
    loop.cancelSystem.Path anyStep s ls s' ∧ 0 ∈ s'.entered ∧
    (loop.server s'.loop).server.status 0 = .aborted

/-- `AbortsGoal`, by evaluation. -/
theorem abortsGoal_of_run {Goal Result X L : Type} [Inhabited Result]
    (loop : ExecuteLoop Goal Result X L) (s : ExecuteLoop.CancelState X)
    (ls : List (L × List GoalId)) (hinit : loop.cancelSystem.init s)
    (h : (loop.cancelSystem.runWhile anyStep s ls).any (fun s' =>
      s'.entered.contains 0 && (loop.server s'.loop).server.status 0 == .aborted) = true) :
    AbortsGoal loop ls := by
  rw [Option.any_eq_true] at h
  obtain ⟨s', hrun, hs'⟩ := h
  rw [Bool.and_eq_true] at hs'
  exact ⟨s, s', hinit, path_of_runWhile hrun, List.contains_iff_mem.mp hs'.1,
    beq_iff_eq.mp hs'.2⟩

/-- In both servers a goal that is canceling is aborted when another one
arrives before the loop has seen the cancellation; and it is aborted when it
becomes canceling between `is_canceling()` and `abort()` in `terminate`. -/
theorem canceling_goal_aborted : AbortsGoal numbersLoop followPreempted ∧
    AbortsGoal numbersNavigator navigatePreempted ∧ AbortsGoal numbersLoop followFailed :=
  ⟨abortsGoal_of_run numbersLoop ⟨_, []⟩ followPreempted ⟨rfl, rfl⟩ (by decide +kernel),
    abortsGoal_of_run numbersNavigator ⟨_, []⟩ navigatePreempted ⟨rfl, rfl⟩ (by decide +kernel),
    abortsGoal_of_run numbersLoop ⟨_, []⟩ followFailed ⟨rfl, rfl⟩ (by decide +kernel)⟩

/-- Goal 1 arrives after the loop has seen the cancellation: goal 0 ends
CANCELED. -/
theorem canceled_or_succeeded_seen : ∃ s : ExecuteLoop.CancelState (ControllerServer Nat),
    numbersLoop.cancelSystem.Reach (numbersLoop.Spares 0) s ∧ 0 ∈ s.entered ∧
    s.loop.server.server.status 0 = .canceled ∧ s.loop.server.server.CancelKept 0 := by
  obtain ⟨s, hr, hs⟩ := exists_reach_of_runWhile (S := numbersLoop.cancelSystem)
    (numbersLoop.Spares 0) (followRequested ++ [plain (.server (.cancelGoal 0)), plain .testOk,
      plain .testActive, plain .testCancel, plain (.server (.goalRequest 1 (numbersGoal [2]))),
      plain (.server (.goalAccepted 1)), plain .terminateAll, plain (.server (.callbackReturn 0))])
    (fun s : ExecuteLoop.CancelState (ControllerServer Nat) =>
      s.entered.contains 0 && s.loop.server.server.status 0 == .canceled)
    (s := ⟨_, []⟩) ⟨rfl, rfl⟩ (by decide +kernel)
  rw [Bool.and_eq_true] at hs
  have hentered : 0 ∈ s.entered := List.contains_iff_mem.mp hs.1
  exact ⟨s, hr, hentered, beq_iff_eq.mp hs.2,
    (canceled_or_succeeded numbersLoop hr).1 hentered⟩

end Nav3D.Controller

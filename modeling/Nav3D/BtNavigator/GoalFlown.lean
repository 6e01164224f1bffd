/-
Nav3D.BtNavigator.GoalFlown — whether the goal that `NavigateToPose` reports
on is the goal whose pose is on the blackboard.

`onPreempt` accepts the pending goal before it knows whether the pose can be
transformed; when it cannot, there is no pending goal any more that could
be terminated, and the vehicle flies to the previous goal on behalf of the
new one (`reported_goal_not_flown`). In a run in which this transformation
never fails, the current goal is the one on the blackboard at every end of
`on_loop` and at completion, and only goals that have been on the
blackboard succeed (`goal_reported_is_flown`).
-/
import Nav3D.BtNavigator.NavigateToPose
import Nav3D.Util.ActionServerGoals

namespace Nav3D.BtNavigator

open Nav3D.Ros Nav3D.Util Nav3D.BehaviorTree Transition.System
open BT (NodeStatus)
open SimpleActionServer (KeepsGoals)

variable {P : Type} {params : NavigatorParams} {tf : Nat → Tf P}

/-! ## The initialisation of a goal pose -/

/-- `initializeGoalPose` puts the transformed pose on the blackboard or
leaves the blackboard alone. -/
theorem initializeGoalPose_spec {tf : Tf P} {goal : Option (NavigateToPoseGoal P)}
    {s s' : NavigateToPose P} {b : Bool} (h : initializeGoalPose params tf goal s = some (b, s')) :
    (b = true ∧ ∃ g pose, goal = some g ∧ tf.transform g.pose = some pose ∧
      s' = { s with numberRecoveries := 0, goal := some pose }) ∨
    (b = false ∧ (∃ bt, s' = { s with bt := bt }) ∧
      ∀ g, goal = some g → tf.robotPose = true → tf.transform g.pose = none) := by
  unfold initializeGoalPose at h
  split at h
  · split at h
    · cases h
    · next g =>
      split at h
      · next pose hpose =>
        cases h
        exact .inl ⟨rfl, g, pose, rfl, hpose, rfl⟩
      · next hnone =>
        cases h
        exact .inr ⟨rfl, ⟨_, rfl⟩, fun g' hg _ => by cases hg; exact hnone⟩
  · next hrobot =>
    cases h
    exact .inr ⟨rfl, ⟨_, rfl⟩, fun _ _ hr => absurd hr hrobot⟩

/-- `goalReceived` does the same, once the tree is loaded. -/
theorem goalReceived_spec {tf : Tf P} {load : XmlLoad} {goal : NavigateToPoseGoal P}
    {s s' : NavigateToPose P} {b : Bool}
    (h : goalReceived params tf load goal s = some (b, s')) :
    (b = true ∧ ∃ pose bt, tf.transform goal.pose = some pose ∧
      s' = { s with bt := bt, numberRecoveries := 0, goal := some pose }) ∨
    (b = false ∧ ∃ bt, s' = { s with bt := bt }) := by
  unfold goalReceived at h
  dsimp only at h
  split at h
  · rcases initializeGoalPose_spec h with ⟨hb, g, pose, hg, hpose, hs'⟩ | ⟨hb, ⟨bt, hs'⟩, _⟩
    · cases hg
      exact .inl ⟨hb, pose, _, hpose, hs'⟩
    · exact .inr ⟨hb, bt, hs'⟩
  · cases h
    exact .inr ⟨rfl, _, rfl⟩

/-! ## The goal that is flown -/

/-- The goal in `current_handle_`, if there is one, is the one whose pose
was put on the blackboard last, and that pose is there. -/
def Flown (tf : Nat → Tf P) (s : NavigateToPose P) : Prop :=
  ∀ g, s.server.server.currentHandle = some g → ∃ k goal pose,
    s.installs.head? = some (g, k) ∧ s.server.server.message g = some goal ∧
      (tf k).transform goal.pose = some pose ∧ s.goal = some pose

/-- The goal's pose has been on the blackboard. -/
def Installed (s : NavigateToPose P) (g : GoalId) : Prop := ∃ k, (g, k) ∈ s.installs

/-- What leaves the blackboard alone and at most empties the current slot
leaves the goal flown. -/
theorem Flown.keep {s s' : NavigateToPose P} (h : Flown tf s) (hinstalls : s'.installs = s.installs)
    (hgoal : s'.goal = s.goal)
    (hmessage : ∀ g goal, s.server.server.message g = some goal →
      s'.server.server.message g = some goal)
    (hcurrent : s'.server.server.currentHandle = s.server.server.currentHandle ∨
      s'.server.server.currentHandle = none) : Flown tf s' := by
  intro g hg
  rcases hcurrent with hsame | hnone
  · obtain ⟨k, goal, pose, hinst, hmsg, htf, hpose⟩ := h g (hsame ▸ hg)
    exact ⟨k, goal, pose, by rw [hinstalls]; exact hinst, hmessage g goal hmsg, htf,
      by rw [hgoal]; exact hpose⟩
  · rw [hnone] at hg; cases hg

/-- The places where the current goal has its pose on the blackboard. -/
def ExecutePc.flying : ExecutePc P → Bool
  | .loop | .ticking | .onLoop _ | .preempt _ | .accepting _ | .rejecting _ | .loopEnd _ => true
  | .completing _ | .reporting _ _ => true
  | _ => false

/-- The invariant of the navigator. -/
structure NavigatorInv (tf : Nat → Tf P) (s : NavigateToPose P) : Prop where
  /-- The navigator is in the callback as long as the newest worker is. -/
  busy : s.pc ≠ .idle ↔ s.server.workers.getLast? = some .executing
  flown : s.pc.flying = true → Flown tf s
  /-- A goal that is being initialised is the current one. -/
  accepted : ∀ r g goal, s.pc = .initializing r (some (g, goal)) →
    s.server.server.message g = some goal ∧
      (s.server.server.currentHandle = some g ∨ s.server.server.currentHandle = none)
  unaccepted : ∀ r, s.pc = .initializing r none → Flown tf s
  succeeded : ∀ g r, (g, .succeeded, r) ∈ s.server.server.results → Installed s g

theorem navigatorInv_initial : NavigatorInv tf (NavigateToPose.initial : NavigateToPose P) where
  busy := ⟨fun h => absurd rfl h, fun h => by cases h⟩
  flown h := by cases h
  accepted _ _ _ h := by cases h
  unaccepted _ h := by cases h
  succeeded _ _ h := by cases h

/-! ## Steps of the other parties -/

/-- A step of another party while the worker is in the callback. -/
theorem navigatorInv_bystander {s s' : NavigateToPose P}
    {l : Label (NavigateToPoseGoal P) ErrorResult} (h : NavigatorInv tf s)
    (hs : ServerInv s.server) (he : Effect s.server l s'.server) (hl : l.ofCallback = false)
    (hpc : s.pc ≠ .idle) (hpc' : s'.pc = s.pc) (hgoal : s'.goal = s.goal)
    (hinstalls : s'.installs = s.installs) : NavigatorInv tf s' := by
  obtain ⟨hw, hcurrent⟩ := bystander_effect hs he hl (h.busy.mp hpc)
  have hkeep := keepsGoals_effect he hl
  have hflown : Flown tf s → Flown tf s' := fun hf =>
    hf.keep hinstalls hgoal hkeep.message hcurrent
  refine ⟨⟨fun _ => hw, fun _ => by rw [hpc']; exact hpc⟩, fun hf => hflown (h.flown (hpc' ▸ hf)),
    fun r g goal hi => ?_, fun r hi => hflown (h.unaccepted r (hpc' ▸ hi)), fun g r hr => ?_⟩
  · obtain ⟨hmsg, hc⟩ := h.accepted r g goal (hpc' ▸ hi)
    refine ⟨hkeep.message g goal hmsg, ?_⟩
    rcases hcurrent with hsame | hnone
    · rw [hsame]; exact hc
    · exact .inr hnone
  · obtain ⟨k, hk⟩ := h.succeeded g r (hkeep.succeeded g r hr)
    exact ⟨k, by rw [hinstalls]; exact hk⟩

/-- Outside the callback, and right after its start, nothing is promised but
the successes. -/
theorem navigatorInv_outside {s : NavigateToPose P}
    {server : ActionServerState (NavigateToPoseGoal P) ErrorResult} {pc : ExecutePc P}
    (h : NavigatorInv tf s) (hpc : pc = .idle ∨ pc = .received)
    (hbusy : pc ≠ .idle ↔ server.workers.getLast? = some .executing)
    (hsucceeded : ∀ g r, (g, .succeeded, r) ∈ server.server.results →
      (g, .succeeded, r) ∈ s.server.server.results) :
    NavigatorInv tf { s with server := server, pc := pc } where
  busy := hbusy
  flown hf := by rcases hpc with rfl | rfl <;> cases hf
  accepted _ _ _ hi := by rcases hpc with rfl | rfl <;> cases hi
  unaccepted _ hi := by rcases hpc with rfl | rfl <;> cases hi
  succeeded g r hr := h.succeeded g r (hsucceeded g r hr)

/-! ## What a step can do -/

variable [DecidableEq P]

/-- The effect of one step. -/
inductive NavigatorEffect (params : NavigatorParams) (tf : Nat → Tf P) (s : NavigateToPose P) :
    NavigatorLabel P → NavigateToPose P → Prop
  /-- A step of another party, or one into or out of the callback. -/
  | party {l s'} : serverPartyStep s l = some s' → NavigatorEffect params tf s (.server l) s'
  | taken {navigating load k g goal pose bt} : s.pc = .received →
      s.server.server.currentHandle = some g → s.server.server.message g = some goal →
      (tf k).transform goal.pose = some pose →
      NavigatorEffect params tf s (.goalReceived navigating load k)
        { s with bt := bt, numberRecoveries := 0, goal := some pose, pc := .loop,
                 installs := (g, k) :: s.installs }
  | notTaken {navigating load k bt} : s.pc = .received →
      NavigatorEffect params tf s (.goalReceived navigating load k)
        { s with bt := bt, pc := .refused }
  | refused {codes c bt} : s.pc = .refused →
      c = .terminateCurrent (s.bt.populateErrorCode codes default) →
      NavigatorEffect params tf s (.refuse codes)
        { callServer s c with bt := bt, pc := .returning }
  /-- The worker goes on without touching the server. -/
  | moved {l pc' numberRecoveries} : s.pc.flying = true → pc'.flying = true →
      NavigatorEffect params tf s l { s with pc := pc', numberRecoveries := numberRecoveries }
  | pendingAccepted {r} : s.pc = .accepting r →
      NavigatorEffect params tf s .acceptPendingGoal
        { callServer s .acceptPendingGoal with pc := .initializing r (pendingGoal s) }
  | initialized {r g goal k pose} : s.pc = .initializing r (some (g, goal)) →
      (tf k).transform goal.pose = some pose →
      NavigatorEffect params tf s (.initializeGoalPose k)
        { s with numberRecoveries := 0, goal := some pose, pc := .loopEnd r,
                 installs := (g, k) :: s.installs }
  | notInitialized {r goal k bt} : s.pc = .initializing r goal →
      (∀ g, goal = some g → (tf k).robotPose = true → (tf k).transform g.2.pose = none) →
      NavigatorEffect params tf s (.initializeGoalPose k) { s with bt := bt, pc := .rejecting r }
  | pendingTerminated {r} : s.pc = .rejecting r →
      NavigatorEffect params tf s .terminatePendingGoal
        { callServer s .terminatePendingGoal with pc := .loopEnd r }
  | reported {rc result bt} : s.pc = .reporting rc result →
      NavigatorEffect params tf s .report
        { callServer s (reportCall rc result) with bt := bt, pc := .returning }

theorem NavigatorEffect.goesOn {params : NavigatorParams} {tf : Nat → Tf P} {s : NavigateToPose P}
    {l : NavigatorLabel P} {pc : ExecutePc P} (h : s.pc.flying = true) (hpc : pc.flying = true) :
    NavigatorEffect params tf s l { s with pc := pc } :=
  NavigatorEffect.moved h hpc

omit [DecidableEq P] in
theorem message_of_getCurrentGoal {s : SimpleActionServer (NavigateToPoseGoal P) ErrorResult}
    {g : GoalId} {goal : NavigateToPoseGoal P} (hc : s.currentHandle = some g)
    (h : s.getCurrentGoal = some goal) : s.message g = some goal := by
  simp only [SimpleActionServer.getCurrentGoal, SimpleActionServer.goalOf, hc] at h
  split at h
  · exact h
  · cases h

/-- **Step inversion.** -/
theorem effect_of_navigatorStep {s s' : NavigateToPose P} {l : NavigatorLabel P}
    (h : navigatorStep params tf s l = some s') : NavigatorEffect params tf s l s' := by
  unfold navigatorStep at h
  split at h
  · exact .party h
  · next hpc =>
    unfold receiveGoal at h
    split at h
    · cases h
      exact .notTaken hpc
    split at h
    · next g goal hc hgoal =>
      split at h
      · next s₁ hinit =>
        cases h
        rcases goalReceived_spec hinit with ⟨_, pose, bt, htf, rfl⟩ | ⟨hf, _⟩
        · exact .taken hpc hc (message_of_getCurrentGoal hc hgoal) htf
        · cases hf
      · next s₁ hinit =>
        cases h
        rcases goalReceived_spec hinit with ⟨ht, _⟩ | ⟨_, bt, rfl⟩
        · cases ht
        · exact .notTaken hpc
      · cases h
    · cases h
  · next hpc => cases h; exact .refused hpc rfl
  · next hpc =>
    split at h
    · cases h
      exact .goesOn (by rw [hpc]; rfl) rfl
    split at h
    · cases h
      exact .goesOn (by rw [hpc]; rfl) rfl
    · cases h
      exact .goesOn (by rw [hpc]; rfl) rfl
  · next hpc => cases h; exact .moved (by rw [hpc]; rfl) rfl
  · next hpc => cases h; exact .moved (by rw [hpc]; rfl) rfl
  · next hpc =>
    cases h
    exact .goesOn (by rw [hpc]; rfl) (by split <;> rfl)
  · next hpc =>
    split at h
    · cases h
    · cases h
      exact .goesOn (by rw [hpc]; rfl) (by split <;> rfl)
  · next hpc => cases h; exact .pendingAccepted hpc
  · next r goal hpc =>
    unfold initializePreempting at h
    split at h
    · next s₁ hinit =>
      cases h
      rcases initializeGoalPose_spec hinit with ⟨_, g, pose, hg, htf, rfl⟩ | ⟨hf, _⟩
      · obtain ⟨⟨g₀, goal₀⟩, rfl, rfl⟩ := Option.map_eq_some_iff.mp hg
        exact .initialized hpc htf
      · cases hf
    · next s₁ hinit =>
      cases h
      rcases initializeGoalPose_spec hinit with ⟨ht, _⟩ | ⟨_, ⟨bt, rfl⟩, hnone⟩
      · cases ht
      · refine .notInitialized hpc fun g hg => ?_
        subst hg
        exact hnone g.2 rfl
    · cases h
  · next hpc => cases h; exact .pendingTerminated hpc
  · next hpc =>
    cases h
    exact .goesOn (by rw [hpc]; rfl) (by split <;> rfl)
  · next hpc =>
    cases h
    exact .goesOn (by rw [hpc]; rfl) rfl
  · next hpc => cases h; exact .reported hpc
  · cases h

/-! ## The navigator's runs are runs of the action server -/

/-- A step of another party is a step of the server. -/
theorem server_serverPartyStep {s s' : NavigateToPose P}
    {l : Label (NavigateToPoseGoal P) ErrorResult} (h : serverPartyStep s l = some s') :
    serverStep s.server l = some s'.server := by
  unfold serverPartyStep at h
  split at h
  · cases h
  · split at h
    · obtain ⟨server, hserver, rfl⟩ := Option.map_eq_some_iff.mp h
      exact hserver
    · cases h
  all_goals
    obtain ⟨server, hserver, rfl⟩ := Option.map_eq_some_iff.mp h
    exact hserver

/-- **The navigator runs on the server**: what it reaches is reachable in
the action server, under calls from the callback only. -/
theorem server_reach {C : NavigateToPose P → NavigatorLabel P → Prop} {s : NavigateToPose P}
    (h : (navigatorSystem params tf).Reach C s) :
    (actionServerSystem (NavigateToPoseGoal P) ErrorResult).Reach anyStep s.server := by
  refine h.project NavigateToPose.server (fun s hs => by cases hs; rfl) fun s l s' _ _ hstep => ?_
  have call : ∀ c, ∃ k, anyStep s.server k ∧
      serverStep s.server k = some (callServer s c).server := fun c => ⟨.call c, trivial, rfl⟩
  cases effect_of_navigatorStep hstep with
  | party hparty => exact .inr ⟨_, trivial, server_serverPartyStep hparty⟩
  | refused _ _ => exact .inr (call _)
  | pendingAccepted _ => exact .inr (call _)
  | pendingTerminated _ => exact .inr (call _)
  | reported _ => exact .inr (call _)
  | _ => exact .inl rfl

/-! ## Each step keeps the invariant -/

/-- The navigator is in the callback as long as the newest worker is. -/
def Busy (s : NavigateToPose P) : Prop :=
  s.pc ≠ .idle ↔ s.server.workers.getLast? = some .executing

omit [DecidableEq P] in
/-- A worker that tests the `while` condition is not in the callback. -/
theorem idle_of_testGuard {s : NavigateToPose P}
    {server : ActionServerState (NavigateToPoseGoal P) ErrorResult} {i : Nat} (h : Busy s)
    (he : Effect s.server (.testGuard i) server) : s.pc = .idle := by
  by_contra hpc
  exact outside_of_testGuard he (h.mp hpc)

omit [DecidableEq P] in
theorem ofCallback_eq_false {l : Label (NavigateToPoseGoal P) ErrorResult}
    (hcall : ∀ c, l = .call c → False) (hreturn : ∀ i, l = .callbackReturn i → False)
    (hthrow : ∀ i, l = .callbackThrow i → False) : l.ofCallback = false := by
  cases l with
  | call c => exact (hcall c rfl).elim
  | callbackReturn i => exact (hreturn i rfl).elim
  | callbackThrow i => exact (hthrow i rfl).elim
  | _ => rfl

/-- A step of another party, and the worker's way in and out. -/
theorem busy_party {s s' : NavigateToPose P} {l : Label (NavigateToPoseGoal P) ErrorResult}
    (h : Busy s) (hs : ServerInv s.server) (hstep : serverPartyStep s l = some s') : Busy s' := by
  have he := effect_of_step hs (server_serverPartyStep hstep)
  unfold serverPartyStep at hstep
  split at hstep
  · cases hstep
  · next i =>
    split at hstep
    · obtain ⟨server, _, rfl⟩ := Option.map_eq_some_iff.mp hstep
      exact iff_of_false (fun hne => hne rfl) (outside_of_callbackReturn he)
    · cases hstep
  · next i =>
    obtain ⟨server, _, rfl⟩ := Option.map_eq_some_iff.mp hstep
    exact iff_of_false (fun hne => hne rfl) (outside_of_callbackThrow he)
  · next i =>
    obtain ⟨server, _, rfl⟩ := Option.map_eq_some_iff.mp hstep
    have hidle := idle_of_testGuard h he
    rw [Busy, enters_of_testGuard he, hidle]
    dsimp only
    split
    · next hc => exact ⟨fun _ => hc, fun _ => by simp⟩
    · next hc => exact ⟨fun hne => absurd rfl hne, fun hc' => absurd hc' hc⟩
  · next hcall hreturn hthrow htest =>
    obtain ⟨server, _, rfl⟩ := Option.map_eq_some_iff.mp hstep
    have hl := ofCallback_eq_false hcall hreturn hthrow
    exact Iff.trans h (executing_effect hs he hl fun i hi => htest i hi).symm

/-- A step of another party, and the worker's way in and out. -/
theorem navigatorInv_party {s s' : NavigateToPose P}
    {l : Label (NavigateToPoseGoal P) ErrorResult} (h : NavigatorInv tf s)
    (hs : ServerInv s.server) (hstep : serverPartyStep s l = some s') : NavigatorInv tf s' := by
  have he := effect_of_step hs (server_serverPartyStep hstep)
  have hbusy : Busy s' := busy_party h.busy hs hstep
  unfold serverPartyStep at hstep
  split at hstep
  · cases hstep
  · next i =>
    split at hstep
    · obtain ⟨server, _, rfl⟩ := Option.map_eq_some_iff.mp hstep
      cases he with
      | callbackReturned us _ _ => exact navigatorInv_outside h (.inl rfl) hbusy fun _ _ hr => hr
    · cases hstep
  · next i =>
    obtain ⟨server, _, rfl⟩ := Option.map_eq_some_iff.mp hstep
    cases he with
    | callbackThrew us _ _ => exact navigatorInv_outside h (.inl rfl) hbusy fun _ _ hr => hr
  · next i =>
    obtain ⟨server, _, rfl⟩ := Option.map_eq_some_iff.mp hstep
    have hidle := idle_of_testGuard h.busy he
    rw [hidle] at hbusy ⊢
    exact navigatorInv_outside h (by split <;> simp) hbusy (keepsGoals_effect he rfl).succeeded
  · next hcall hreturn hthrow htest =>
    obtain ⟨server, _, rfl⟩ := Option.map_eq_some_iff.mp hstep
    have hl := ofCallback_eq_false hcall hreturn hthrow
    by_cases hpc : s.pc = .idle
    · exact navigatorInv_outside h (.inl hpc) hbusy (keepsGoals_effect he hl).succeeded
    · exact navigatorInv_bystander h hs he hl hpc rfl rfl rfl

/-- The condition of the runs: when `onPreempt` has accepted a goal, TF
knows the robot's pose and transforms the goal's pose. -/
def preemptsTransform (tf : Nat → Tf P) (s : NavigateToPose P) : NavigatorLabel P → Bool
  | .initializeGoalPose k =>
    match s.pc with
    | .initializing _ (some (_, goal)) =>
      (tf k).robotPose && ((tf k).transform goal.pose).isSome
    | _ => true
  | _ => true

abbrev PreemptsTransform (tf : Nat → Tf P) (s : NavigateToPose P) (l : NavigatorLabel P) : Prop :=
  preemptsTransform tf s l = true

omit [DecidableEq P] in
theorem transforms_of_preempting {s : NavigateToPose P} {r : NodeStatus} {g : GoalId}
    {goal : NavigateToPoseGoal P} {k : Nat} (h : PreemptsTransform tf s (.initializeGoalPose k))
    (hpc : s.pc = .initializing r (some (g, goal))) :
    (tf k).robotPose = true ∧ ((tf k).transform goal.pose).isSome := by
  rw [PreemptsTransform, preemptsTransform, hpc] at h
  exact Bool.and_eq_true_iff.mp h

omit [DecidableEq P] in
/-- A step of the worker inside the callback. -/
theorem Busy.inside {s s' : NavigateToPose P} (h : Busy s) (hpc : s.pc ≠ .idle)
    (hpc' : s'.pc ≠ .idle) (hworkers : s'.server.workers = s.server.workers) : Busy s' :=
  ⟨fun _ => by rw [hworkers]; exact h.mp hpc, fun _ => hpc'⟩

omit [DecidableEq P] in
/-- After the pose of goal `g` has been put on the blackboard, `g` is flown
if it is still the current goal. -/
theorem flown_of_install {s : NavigateToPose P} {g : GoalId} {k : Nat}
    {goal : NavigateToPoseGoal P} {pose : PoseStamped P}
    (hinstalls : s.installs.head? = some (g, k)) (hmsg : s.server.server.message g = some goal)
    (htf : (tf k).transform goal.pose = some pose) (hpose : s.goal = some pose)
    (hcurrent : s.server.server.currentHandle = some g ∨
      s.server.server.currentHandle = none) : Flown tf s := by
  intro g' hg'
  rcases hcurrent with hg | hnone
  · rw [hg] at hg'
    cases hg'
    exact ⟨k, goal, pose, hinstalls, hmsg, htf, hpose⟩
  · rw [hnone] at hg'
    cases hg'

omit [DecidableEq P] in
theorem Installed.cons {s s' : NavigateToPose P} {g : GoalId} {entry : GoalId × Nat}
    (h : Installed s g) (hinstalls : s'.installs = entry :: s.installs) : Installed s' g := by
  obtain ⟨k, hk⟩ := h
  exact ⟨k, by rw [hinstalls]; exact List.mem_cons_of_mem _ hk⟩

omit [DecidableEq P] in
/-- `acceptPendingGoal` in `onPreempt`. -/
theorem navigatorInv_pendingAccepted {s : NavigateToPose P} {r : NodeStatus}
    (h : NavigatorInv tf s) (hs : ServerInv s.server) (hpc : s.pc = .accepting r) :
    NavigatorInv tf
      { callServer s .acceptPendingGoal with pc := .initializing r (pendingGoal s) } := by
  have hkeep := SimpleActionServer.keepsGoals_acceptPendingGoal s.server.server
  have hflown : Flown tf s := h.flown (by rw [hpc]; rfl)
  refine ⟨Busy.inside h.busy (by rw [hpc]; simp) (by simp) rfl, fun hf => (by cases hf),
    fun r' g goal hi => ?_, fun r' hi => ?_, fun g res hr => ?_⟩
  · have hpending : pendingGoal s = some (g, goal) := (ExecutePc.initializing.inj hi).2
    unfold pendingGoal at hpending
    split at hpending
    · next p goal' hp hgoal =>
      cases hpending
      obtain ⟨p', hp', hcurrent, hmsg⟩ := SimpleActionServer.acceptPendingGoal_returns hgoal
      rw [hp] at hp'
      cases hp'
      exact ⟨hkeep.message _ _ hmsg, .inl hcurrent⟩
    · cases hpending
  · have hpending : pendingGoal s = none := (ExecutePc.initializing.inj hi).2
    have hnone : s.server.server.acceptPendingGoal.2 = none := by
      unfold pendingGoal at hpending
      split at hpending
      · cases hpending
      · next hmissing =>
        cases hp : s.server.server.pendingHandle with
        | none => rw [SimpleActionServer.acceptPendingGoal_none hp]
        | some p =>
          cases hgoal : s.server.server.acceptPendingGoal.2 with
          | none => rfl
          | some goal => exact (hmissing p goal hp hgoal).elim
    have hsame := SimpleActionServer.acceptPendingGoal_returns_none hs.slots hnone
    exact hflown.keep rfl rfl hkeep.message (.inl (congrArg _ hsame))
  · exact h.succeeded g res (hkeep.succeeded g res hr)

omit [DecidableEq P] in
/-- The call at the end of `executeCallback()` reports a success only of a
goal whose pose has been on the blackboard. -/
theorem succeeded_reportCall {s : NavigateToPose P} {rc : BtStatus} {result : ErrorResult}
    (h : NavigatorInv tf s) (hflown : Flown tf s) (g : GoalId) (res : ErrorResult)
    (hr : (g, .succeeded, res) ∈ ((reportCall rc result).apply s.server.server).results) :
    Installed s g := by
  cases rc with
  | succeeded =>
    rcases (SimpleActionServer.succeeded_succeededCurrent s.server.server result).2 g res hr with
      hold | hcurrent
    · exact h.succeeded g res hold
    · obtain ⟨k, goal, pose, hinst, _⟩ := hflown g hcurrent
      exact ⟨k, List.mem_of_head? hinst⟩
  | failed =>
    have hends := SimpleActionServer.ends_terminate s.server.server .current result
    exact h.succeeded g res
      ((SimpleActionServer.keepsGoals_of_endsByState hends).succeeded g res hr)
  | canceled =>
    have hends := SimpleActionServer.ends_terminateAll s.server.server result
    exact h.succeeded g res
      ((SimpleActionServer.keepsGoals_of_endsByState hends).succeeded g res hr)

theorem busy_step {s s' : NavigateToPose P} {l : NavigatorLabel P} (h : Busy s)
    (hs : ServerInv s.server) (hstep : navigatorStep params tf s l = some s') : Busy s' := by
  cases effect_of_navigatorStep hstep with
  | party hparty => exact busy_party h hs hparty
  | @moved l pc' numberRecoveries hf hf' =>
    refine h.inside (fun hi => ?_) (fun hi => ?_) rfl
    · rw [hi] at hf; cases hf
    · rw [show pc' = .idle from hi] at hf'; cases hf'
  | taken hpc => exact h.inside (by rw [hpc]; simp) (by simp) rfl
  | notTaken hpc => exact h.inside (by rw [hpc]; simp) (by simp) rfl
  | refused hpc => exact h.inside (by rw [hpc]; simp) (by simp) rfl
  | pendingAccepted hpc => exact h.inside (by rw [hpc]; simp) (by simp) rfl
  | initialized hpc => exact h.inside (by rw [hpc]; simp) (by simp) rfl
  | notInitialized hpc => exact h.inside (by rw [hpc]; simp) (by simp) rfl
  | pendingTerminated hpc => exact h.inside (by rw [hpc]; simp) (by simp) rfl
  | reported hpc => exact h.inside (by rw [hpc]; simp) (by simp) rfl

/-- The invariants of every run, whatever TF answers. -/
theorem busy_of_reach {C : NavigateToPose P → NavigatorLabel P → Prop} {s : NavigateToPose P}
    (h : (navigatorSystem params tf).Reach C s) : Busy s := by
  induction h with
  | init hs => cases hs; exact ⟨fun hne => absurd rfl hne, fun hw => by cases hw⟩
  | step hr _ hstep ih => exact busy_step ih (serverInv_of_reach (server_reach hr)) hstep

/-- Each step keeps the invariant. -/
theorem navigatorInv_step {s s' : NavigateToPose P} {l : NavigatorLabel P}
    (h : NavigatorInv tf s) (hs : ServerInv s.server) (hc : PreemptsTransform tf s l)
    (hstep : navigatorStep params tf s l = some s') : NavigatorInv tf s' := by
  have hbusy : Busy s' := busy_step h.busy hs hstep
  cases effect_of_navigatorStep hstep with
  | party hparty => exact navigatorInv_party h hs hparty
  | taken hpc hcurrent hmsg htf =>
    exact ⟨hbusy,
      fun _ => flown_of_install rfl hmsg htf rfl (.inl hcurrent), fun _ _ _ hi => (by cases hi),
      fun _ hi => (by cases hi), fun g r hr => (h.succeeded g r hr).cons rfl⟩
  | notTaken hpc =>
    exact ⟨hbusy, fun hf => (by cases hf),
      fun _ _ _ hi => (by cases hi), fun _ hi => (by cases hi), h.succeeded⟩
  | refused hpc hcall =>
    subst hcall
    have hends := SimpleActionServer.ends_terminate s.server.server .current
    exact ⟨hbusy, fun hf => (by cases hf),
      fun _ _ _ hi => (by cases hi), fun _ hi => (by cases hi),
      fun g r hr => h.succeeded g r
        ((SimpleActionServer.keepsGoals_of_endsByState (hends _)).succeeded g r hr)⟩
  | @moved l pc' numberRecoveries hf hf' =>
    have hflown : Flown tf s := h.flown hf
    refine ⟨hbusy, fun _ => hflown, fun _ _ _ hi => ?_, fun _ _ => hflown, h.succeeded⟩
    rw [show pc' = .initializing _ _ from hi] at hf'
    cases hf'
  | pendingAccepted hpc => exact navigatorInv_pendingAccepted h hs hpc
  | initialized hpc htf =>
    obtain ⟨hmsg, hcurrent⟩ := h.accepted _ _ _ hpc
    exact ⟨hbusy,
      fun _ => flown_of_install rfl hmsg htf rfl hcurrent, fun _ _ _ hi => (by cases hi),
      fun _ hi => (by cases hi), fun g r hr => (h.succeeded g r hr).cons rfl⟩
  | @notInitialized r goal k bt hpc hfailed =>
    have hflown : Flown tf s := by
      cases goal with
      | none => exact h.unaccepted r hpc
      | some entry =>
        obtain ⟨hrobot, htf⟩ := transforms_of_preempting hc hpc
        rw [hfailed entry rfl hrobot] at htf
        cases htf
    exact ⟨hbusy, fun _ => hflown,
      fun _ _ _ hi => (by cases hi), fun _ hi => (by cases hi), h.succeeded⟩
  | pendingTerminated hpc =>
    have hkeep := SimpleActionServer.keepsGoals_of_endsByState
      (SimpleActionServer.ends_terminatePendingGoal s.server.server)
    have hflown : Flown tf s := h.flown (by rw [hpc]; rfl)
    exact ⟨hbusy,
      fun _ => hflown.keep rfl rfl hkeep.message
        (.inl (SimpleActionServer.currentHandle_terminatePendingGoal hs.slots)),
      fun _ _ _ hi => (by cases hi), fun _ hi => (by cases hi),
      fun g r hr => h.succeeded g r (hkeep.succeeded g r hr)⟩
  | reported hpc =>
    have hflown : Flown tf s := h.flown (by rw [hpc]; rfl)
    exact ⟨hbusy, fun hf => (by cases hf),
      fun _ _ _ hi => (by cases hi), fun _ hi => (by cases hi), succeeded_reportCall h hflown⟩

theorem navigatorInv_of_reach {s : NavigateToPose P}
    (h : (navigatorSystem params tf).Reach (PreemptsTransform tf) s) : NavigatorInv tf s := by
  induction h with
  | init hs => cases hs; exact navigatorInv_initial
  | step hr hc hstep ih =>
    exact navigatorInv_step ih (serverInv_of_reach (server_reach hr)) hc hstep

/-- The end of `on_loop`, and from `run()`'s return to the report. -/
def ExecutePc.reports : ExecutePc P → Bool
  | .loopEnd _ | .completing _ | .reporting _ _ => true
  | _ => false

/-- **The goal reported is the goal flown.** In every state of a run in
which the pose of a preempting goal that `onPreempt` has accepted can be
transformed: at the end of `on_loop` and at completion the blackboard holds
the transform of the pose of the goal in `current_handle_`, and a goal that
has been reported as succeeded has had its pose on the blackboard. -/
theorem goal_reported_is_flown {s : NavigateToPose P}
    (h : (navigatorSystem params tf).Reach (PreemptsTransform tf) s) :
    (s.pc.reports = true → Flown tf s) ∧
    ∀ g r, (g, .succeeded, r) ∈ s.server.server.results → Installed s g := by
  have hinv := navigatorInv_of_reach h
  refine ⟨fun hpc => hinv.flown ?_, hinv.succeeded⟩
  cases hs : s.pc <;> rw [hs] at hpc <;> first | rfl | cases hpc

/-! ## Two runs -/

/-- TF in the runs: poses are numbers, given in the global frame; lookup 1
fails. -/
def flakyTf (k : Nat) : Tf Nat := ⟨k ≠ 1, some⟩

def runParams : NavigatorParams := ⟨⟨"default.xml", false⟩, "map"⟩

/-- A goal for the default tree. -/
def goalAt (x : Nat) : NavigateToPoseGoal Nat := ⟨⟨⟨⟨⟩, "map"⟩, x⟩, ""⟩

/-- Goal 0 is being executed, goal 1 has been parked behind it and the tree
has been ticked. -/
def preemptingRun (tree : NodeStatus) : List (NavigatorLabel Nat) :=
  [.server .activate, .server (.goalRequest 0 (goalAt 10)), .server (.goalAccepted 0),
    .server (.testGuard 0), .goalReceived false .created 0,
    .server (.goalRequest 1 (goalAt 20)), .server (.goalAccepted 1),
    .testLoop, .tick (some tree) 0, .testPreempt, .getPendingGoal, .acceptPendingGoal]

/-- Lookup 1 fails: goal 1 is the current goal and is reported as succeeded,
while the blackboard holds the pose of goal 0. -/
theorem reported_goal_not_flown : ∃ s r,
    (navigatorSystem runParams flakyTf).Reach anyStep s ∧ s.goal = some (goalAt 10).pose ∧
    s.server.server.message 1 = some (goalAt 20) ∧ s.pc = .returning ∧
    (1, .succeeded, r) ∈ s.server.server.results ∧ ¬ Installed s 1 := by
  obtain ⟨s, hr, hs⟩ := exists_reach_of_runWhile (S := navigatorSystem runParams flakyTf) anyStep
    (preemptingRun .success ++ [.initializeGoalPose 1, .terminatePendingGoal, .loopEnd,
      .complete [], .report])
    (fun s => decide (s.goal = some (goalAt 10).pose ∧
      s.server.server.message 1 = some (goalAt 20) ∧ s.pc = .returning ∧
      (1, .succeeded, ⟨tfError, "Initial robot pose is not available."⟩) ∈
        s.server.server.results ∧ ∀ entry ∈ s.installs, entry.1 ≠ 1))
    rfl (by decide +kernel)
  obtain ⟨hgoal, hmessage, hpc, hresult, hinstalls⟩ := of_decide_eq_true hs
  exact ⟨s, _, hr, hgoal, hmessage, hpc, hresult, fun ⟨k, hk⟩ => hinstalls _ hk rfl⟩

/-- Lookup 2 does not fail: goal 1 has had its pose on the blackboard when it
is reported as succeeded. -/
theorem goal_reported_is_flown_preempted : ∃ s r,
    (1, .succeeded, r) ∈ s.server.server.results ∧
    ((s : NavigateToPose Nat).pc.reports = true → Flown flakyTf s) ∧ Installed s 1 := by
  obtain ⟨s, hr, hs⟩ := exists_reach_of_runWhile (S := navigatorSystem runParams flakyTf)
    (PreemptsTransform flakyTf)
    (preemptingRun .success ++ [.initializeGoalPose 2, .loopEnd, .complete [], .report])
    (fun s => decide ((1, .succeeded, default) ∈ s.server.server.results))
    rfl (by decide +kernel)
  have hresult := of_decide_eq_true hs
  obtain ⟨hflown, hinstalled⟩ := goal_reported_is_flown hr
  exact ⟨s, _, hresult, hflown, hinstalled 1 _ hresult⟩

end Nav3D.BtNavigator

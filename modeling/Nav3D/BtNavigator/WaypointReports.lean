/-
Nav3D.BtNavigator.WaypointReports — what `NavigateThroughPosesNavigator`
says about its waypoints.

The waypoints on the blackboard are those of the last goal poses that have
been installed, all of them pending (`ThroughInv`). So the feedback lists
every pose as pending, and the result of a goal that has been navigated
lists every pose as completed or every pose as failed, as the goal has ended
(`reported_waypoints`). These are the poses of the goal itself as long as
the poses of every preempting goal can be transformed
(`succeeded_waypoints`, `feedback_waypoints`); where one cannot, the old
poses go on under the new goal.
-/
import Nav3D.BtNavigator.NavigateThroughPoses
import Nav3D.Util.ActionServerResults

namespace Nav3D.BtNavigator.ThroughPoses

open Nav3D.Ros Nav3D.Util Nav3D.BehaviorTree
open CallbackProgram (CallbackInv CallbackEffect)
open ConvertFromString (Goals WaypointStatus)

section Waypoints

variable {D : Type}

/-! ## The goal poses -/

/-- The loop over the goal poses succeeds with one transformed pose for each
pose, in order. -/
theorem transformPoses_ok {tf : PosesTf D} {ps qs : List (PoseStamped D)} {i : Nat} :
    transformPoses tf i ps = .ok qs ↔
      qs.length = ps.length ∧ ∀ j p, ps[j]? = some p → tf.transform (i + j) p = qs[j]? := by
  induction ps generalizing i qs with
  | nil =>
    simp only [transformPoses, List.length_nil, List.length_eq_zero_iff, List.getElem?_nil]
    constructor
    · intro h
      cases h
      exact ⟨rfl, nofun⟩
    · rintro ⟨rfl, -⟩
      rfl
  | cons p ps ih =>
    cases htransform : tf.transform i p with
    | none =>
      simp only [transformPoses, htransform]
      constructor
      · nofun
      · rintro ⟨hlength, hposes⟩
        have hfirst := hposes 0 p rfl
        rw [Nat.add_zero, htransform] at hfirst
        rw [List.length_cons] at hlength
        rw [List.getElem?_eq_getElem (by omega)] at hfirst
        cases hfirst
    | some q =>
      simp only [transformPoses, htransform]
      constructor
      · intro h
        cases hrest : transformPoses tf (i + 1) ps with
        | error failure => rw [hrest] at h; cases h
        | ok qs' =>
          rw [hrest] at h
          cases h
          obtain ⟨hlength, hposes⟩ := ih.mp hrest
          refine ⟨by simp [hlength], fun j p' hp' => ?_⟩
          cases j with
          | zero =>
            cases hp'
            exact htransform
          | succ j =>
            have hrest := hposes j p' hp'
            rw [Nat.add_right_comm] at hrest
            exact hrest
      · rintro ⟨hlength, hposes⟩
        cases qs with
        | nil => cases hlength
        | cons q' qs' =>
          have hfirst := hposes 0 p rfl
          rw [Nat.add_zero, htransform] at hfirst
          cases hfirst
          have hrest : transformPoses tf (i + 1) ps = .ok qs' := by
            refine ih.mpr ⟨Nat.succ.inj hlength, fun j p' hp' => ?_⟩
            rw [Nat.add_right_comm]
            exact hposes (j + 1) p' hp'
          rw [hrest]
          rfl

/-- It fails with the first pose that cannot be transformed. -/
theorem transformPoses_error {tf : PosesTf D} {ps : List (PoseStamped D)} {i j : Nat}
    {p : PoseStamped D} (h : transformPoses tf i ps = .error (j, p)) :
    ∃ k, j = i + k ∧ ps[k]? = some p ∧ tf.transform j p = none ∧
      ∀ n p', n < k → ps[n]? = some p' → (tf.transform (i + n) p').isSome = true := by
  induction ps generalizing i with
  | nil => cases h
  | cons p' ps ih =>
    simp only [transformPoses] at h
    cases htransform : tf.transform i p' with
    | none =>
      rw [htransform] at h
      cases h
      exact ⟨0, rfl, rfl, htransform, fun n p'' hn => absurd hn (Nat.not_lt_zero n)⟩
    | some q =>
      rw [htransform] at h
      cases hrest : transformPoses tf (i + 1) ps with
      | ok qs => rw [hrest] at h; cases h
      | error failure =>
        rw [hrest] at h
        cases h
        obtain ⟨k, rfl, hp, hnone, hbefore⟩ := ih hrest
        refine ⟨k + 1, Nat.add_right_comm i 1 k, hp, hnone, fun n p'' hn hp'' => ?_⟩
        cases n with
        | zero =>
          cases hp''
          rw [Nat.add_zero, htransform]
          rfl
        | succ n =>
          rw [← Nat.add_assoc, Nat.add_right_comm]
          exact hbefore n p'' (Nat.lt_of_succ_lt_succ hn) hp''

/-- **All or nothing.** An `initializeGoalPoses` that fails changes nothing
but the internal error, which names the robot's pose or the first goal pose
that cannot be transformed. -/
theorem initializeGoalPoses_error {params : NavigatorParams} {tf : PosesTf D} {now : Int}
    {goal : Option (ThroughPosesGoal D)} {x x' : Members D}
    (h : initializeGoalPoses params tf now goal x = some (.error (), x')) :
    ∃ msg, x' = { x with bt := x.bt.setInternalError throughPosesTfError msg } ∧
      (tf.robotPose = none ∧ msg = "Initial robot pose is not available." ∨
        ∃ request i pose, goal = some request ∧ request.poses.goals[i]? = some pose ∧
          tf.transform i pose = none ∧ msg = transformPoseErrorMsg params i pose ∧
          ∀ j pose', j < i → request.poses.goals[j]? = some pose' →
            (tf.transform j pose').isSome = true) := by
  cases hrobot : tf.robotPose with
  | none =>
    simp only [initializeGoalPoses, hrobot] at h
    cases h
    exact ⟨_, rfl, .inl ⟨rfl, rfl⟩⟩
  | some pose =>
    cases goal with
    | none => simp [initializeGoalPoses, hrobot] at h
    | some request =>
      simp only [initializeGoalPoses, hrobot] at h
      cases hposes : transformPoses tf 0 request.poses.goals with
      | ok poses => simp [hposes] at h
      | error failure =>
        rw [hposes] at h
        cases h
        obtain ⟨k, hk, hp, hnone, hbefore⟩ := transformPoses_error hposes
        rw [Nat.zero_add] at hk
        subst hk
        refine ⟨_, rfl, .inr ⟨request, _, _, rfl, hp, hnone, rfl, fun j pose' hj hpose' => ?_⟩⟩
        simpa using hbefore j pose' hj hpose'

/-- `goalCompleted` on waypoints that are all pending. -/
theorem integrate_waypoints (rc : BtStatus) (poses : List (PoseStamped D)) :
    integrate rc (waypoints pending poses) = waypoints (integratedStatus rc) poses := by
  refine List.ext_getElem? fun i => ?_
  simp only [integrate, waypoints, List.getElem?_map, List.getElem?_mapIdx, Option.map_map]
  cases poses[i]? with
  | none => rfl
  | some pose => simp

/-! ## What is on record -/

/-- The navigator with its action server. -/
abbrev ThroughState (D : Type) : Type :=
  CallbackState (ThroughPosesGoal D) (ThroughPosesResult D) (Members D)

/-- One pose in the global frame for each pose of the message. -/
structure TransformedBy (tf : PosesTf D) (request : ThroughPosesGoal D)
    (poses : List (PoseStamped D)) : Prop where
  length_eq : poses.length = request.poses.goals.length
  transform_eq : ∀ j p, request.poses.goals[j]? = some p → tf.transform j p = poses[j]?

/-- The poses are those of the goal's message, in the global frame. -/
def Install.Genuine (tf : Nat → PosesTf D) (s : ThroughServer D) (i : Install D) : Prop :=
  ∃ request, s.server.message i.goal = some request ∧ TransformedBy (tf i.lookup) request i.poses

theorem Installed.transformedBy {tf : PosesTf D} {g : GoalId} {k : Nat}
    {goal : ThroughPosesGoal D} {poses : List (PoseStamped D)} {x x' : Members D}
    (h : Installed tf g k goal poses x x') : TransformedBy tf goal poses := by
  obtain ⟨hlength, hposes⟩ := transformPoses_ok.mp h.transformed
  refine ⟨hlength, fun j p hp => ?_⟩
  have hpose := hposes j p hp
  rw [Nat.zero_add] at hpose
  exact hpose

/-- The status of a waypoint of a goal that has ended with `st`. -/
def finalStatus (st : GoalStatus) : UInt8 := if st = .succeeded then completed else failed

/-- The result says nothing of waypoints, or it has the waypoints that were
installed, with the final status of the goal. -/
def Reported (installs : List (Install D)) (st : GoalStatus) (result : ThroughPosesResult D) :
    Prop :=
  (st ≠ .succeeded ∧ result.waypointStatuses = []) ∨
    ∃ i ∈ installs, result.waypointStatuses = waypoints (finalStatus st) i.poses

/-- What the callback has, by its place. -/
def Has (s : ThroughServer D) (x : Members D) : ThroughPc D → Prop
  | .initializing _ goal => x.installs ≠ [] ∧
      ∀ g request, goal = some (g, request) → s.server.message g = some request
  | .reporting rc result => ∃ i ∈ x.installs.head?,
      result.waypointStatuses = waypoints (integratedStatus rc) i.poses
  | pc => pc.isRunning = true → x.installs ≠ []

/-- What holds in every reachable state. -/
structure ThroughInv (tf : Nat → PosesTf D) (s : ThroughState D) : Prop where
  /-- The waypoints on the blackboard are those of the last install. -/
  blackboard : s.members.waypointStatuses =
    s.members.installs.head?.map fun i => waypoints pending i.poses
  has : Has s.server s.members s.members.pc
  genuine : ∀ i ∈ s.members.installs, i.Genuine tf s.server
  results : ∀ g st result, (g, st, result) ∈ s.server.server.results →
    Reported s.members.installs st result
  feedbacks : ∀ g msg, (g, msg) ∈ s.members.feedbacks →
    ∃ i ∈ s.members.installs, msg.waypointStatuses = waypoints pending i.poses

variable {params : NavigatorParams} {tf : Nat → PosesTf D}

theorem throughInv_initial : ThroughInv tf (executeCallback params tf).initialState where
  blackboard := rfl
  has := nofun
  genuine := fun _ hi => absurd hi List.not_mem_nil
  results := fun _ _ _ hr => absurd hr List.not_mem_nil
  feedbacks := fun _ _ hf => absurd hf List.not_mem_nil

theorem Has.of_running {s : ThroughServer D} {x : Members D} {pc : ThroughPc D}
    (hpc : pc.isRunning = true) (h : x.installs ≠ []) : Has s x pc := by
  cases pc with
  | initializing r goal => cases hpc
  | reporting rc result => cases hpc
  | _ => exact fun _ => h

theorem Has.installed {s : ThroughServer D} {x : Members D} {pc : ThroughPc D}
    (h : Has s x pc) (hpc : pc.isRunning = true) : x.installs ≠ [] := by
  cases pc with
  | initializing r goal => cases hpc
  | reporting rc result => cases hpc
  | _ => exact h hpc

/-- Steps that keep the messages and the record keep what the callback
has. -/
theorem Has.keep {s s' : ThroughServer D} {x x' : Members D} {pc : ThroughPc D} (h : Has s x pc)
    (hmessage : ∀ g request, s.server.message g = some request →
      s'.server.message g = some request)
    (hx : SameRecord x x') : Has s' x' pc := by
  have hinstalls := hx.installs
  cases pc with
  | initializing r goal =>
    refine ⟨?_, fun g request hgoal => hmessage g request (h.2 g request hgoal)⟩
    rw [hinstalls]
    exact h.1
  | reporting rc result =>
    obtain ⟨i, hi, hresult⟩ := h
    exact ⟨i, by rw [hinstalls]; exact hi, hresult⟩
  | _ =>
    intro hpc
    rw [hinstalls]
    exact h hpc

theorem Reported.mono {installs installs' : List (Install D)} {st : GoalStatus}
    {result : ThroughPosesResult D} (h : Reported installs st result)
    (hsub : ∀ i ∈ installs, i ∈ installs') : Reported installs' st result :=
  h.imp_right fun ⟨i, hi, hresult⟩ => ⟨i, hsub i hi, hresult⟩

/-- A step that leaves the record as it is, to a place where the callback has
what it needs. -/
theorem ThroughInv.same {s : ThroughState D} (hs : ThroughInv tf s) {server : ThroughServer D}
    {x' : Members D} (hx : SameRecord s.members x')
    (hmessage : ∀ g request, s.server.server.message g = some request →
      server.server.message g = some request)
    (hresults : ∀ g st result, (g, st, result) ∈ server.server.results →
      Reported s.members.installs st result)
    (hhas : Has server x' x'.pc) : ThroughInv tf ⟨server, x'⟩ where
  blackboard := by
    show x'.waypointStatuses = x'.installs.head?.map _
    rw [hx.waypointStatuses, hx.installs]
    exact hs.blackboard
  has := hhas
  genuine := by
    intro i hi
    obtain ⟨request, hrequest, hposes⟩ := hs.genuine i (hx.installs ▸ hi)
    exact ⟨request, hmessage i.goal request hrequest, hposes⟩
  results := by
    intro g st result hr
    refine (hresults g st result hr).mono fun i hi => ?_
    show i ∈ x'.installs
    rw [hx.installs]
    exact hi
  feedbacks := by
    intro g msg hf
    obtain ⟨i, hi, hmsg⟩ := hs.feedbacks g msg (hx.feedbacks ▸ hf)
    exact ⟨i, by show i ∈ x'.installs; rw [hx.installs]; exact hi, hmsg⟩

/-- A step that installs the poses of `g`. -/
theorem ThroughInv.install {s : ThroughState D} (hs : ThroughInv tf s) {x' : Members D}
    {g : GoalId} {k : Nat} {goal : ThroughPosesGoal D} {poses : List (PoseStamped D)}
    (hx : Installed (tf k) g k goal poses s.members x')
    (hmessage : s.server.server.message g = some goal) (hpc : x'.pc.isRunning = true) :
    ThroughInv tf ⟨s.server, x'⟩ where
  blackboard := by
    show x'.waypointStatuses = x'.installs.head?.map _
    rw [hx.waypointStatuses, hx.installs]
    rfl
  has := by
    refine .of_running hpc ?_
    show x'.installs ≠ []
    rw [hx.installs]
    exact List.cons_ne_nil _ _
  genuine := by
    intro i hi
    have hmem : i ∈ x'.installs := hi
    rw [hx.installs] at hmem
    rcases List.mem_cons.mp hmem with rfl | hi
    · exact ⟨goal, hmessage, hx.transformedBy⟩
    · exact hs.genuine i hi
  results := by
    intro g' st result hr
    refine (hs.results g' st result hr).mono fun i hi => ?_
    show i ∈ x'.installs
    rw [hx.installs]
    exact List.mem_cons_of_mem _ hi
  feedbacks := by
    intro g' msg hf
    obtain ⟨i, hi, hmsg⟩ := hs.feedbacks g' msg (hx.feedbacks ▸ hf)
    exact ⟨i, by show i ∈ x'.installs; rw [hx.installs]; exact List.mem_cons_of_mem _ hi, hmsg⟩

/-! ## The steps -/

/-- A step of another party, or a return of the callback. -/
theorem throughInv_party {s : ThroughState D} (hs : ThroughInv tf s)
    {l : Label (ThroughPosesGoal D) (ThroughPosesResult D)} {server : ThroughServer D}
    (he : Effect s.server l server) (hl : ∀ c, l ≠ .call c) {x' : Members D}
    (hx : SameRecord s.members x') (hhas : Has server x' x'.pc) :
    ThroughInv tf ⟨server, x'⟩ := by
  refine hs.same hx (message_effect he) (fun g st result hr => ?_) hhas
  rcases reported_bystander he hl hr with hold | ⟨hempty, hst⟩
  · exact hs.results g st result hold
  · exact .inl ⟨hst, by rw [hempty]; rfl⟩

/-- The current goal and its message. -/
theorem message_of_currentGoal {s : ThroughServer D} {g : GoalId} {goal : ThroughPosesGoal D}
    (h : currentGoal s = some (g, goal)) :
    s.server.currentHandle = some g ∧ s.server.message g = some goal := by
  unfold currentGoal at h
  split at h
  · next g' goal' hcurrent hmessage =>
    cases h
    refine ⟨hcurrent, ?_⟩
    simp only [SimpleActionServer.getCurrentGoal, SimpleActionServer.goalOf, hcurrent] at hmessage
    split at hmessage
    · exact hmessage
    · cases hmessage
  · cases h

theorem message_of_acceptedGoal {s : ThroughServer D} {g : GoalId} {goal : ThroughPosesGoal D}
    (h : acceptedGoal s = some (g, goal)) :
    s.server.acceptPendingGoal.1.currentHandle = some g ∧ s.server.message g = some goal := by
  unfold acceptedGoal at h
  split at h
  · next p goal' hp hgoal =>
    cases h
    obtain ⟨p', hp', hcurrent, hmessage⟩ := SimpleActionServer.acceptPendingGoal_returns hgoal
    cases hp.symm.trans hp'
    exact ⟨hcurrent, hmessage⟩
  · cases h

/-- A move without a call. -/
theorem throughInv_moved {s : ThroughState D} (hs : ThroughInv tf s) {x' : Members D}
    {l : ThroughLabel D} (h : ThroughMoves tf s.server s.members l x' none) :
    ThroughInv tf ⟨s.server, x'⟩ := by
  have hkeep : SameRecord s.members x' → Has s.server x' x'.pc → ThroughInv tf ⟨s.server, x'⟩ :=
    fun hx hhas => hs.same hx (fun _ _ h => h) hs.results hhas
  have hhas := hs.has
  cases h with
  | refused _ hx hto => exact hkeep hx (by rw [hto]; exact nofun)
  | crashed _ hx hto => exact hkeep hx (by rw [hto]; exact nofun)
  | taken hpc hgoal hx hto =>
    exact hs.install hx (message_of_currentGoal hgoal).2 (by rw [hto]; rfl)
  | ran hpc hx hto =>
    refine hkeep hx (.of_running hto ?_)
    rw [hx.installs]
    exact hhas.installed hpc
  | @published g msg hpc _ hmsg hstatuses hinstalls hfeedbacks hto =>
    have hinstalled := hhas.installed hpc
    refine ⟨?_, .of_running hto ?_, ?_, ?_, fun g' msg' hf => ?_⟩
    · show x'.waypointStatuses = x'.installs.head?.map _
      rw [hstatuses, hinstalls]
      exact hs.blackboard
    · show x'.installs ≠ []
      rw [hinstalls]
      exact hinstalled
    · exact fun i hi => hs.genuine i (hinstalls ▸ hi)
    · exact fun g' st result hr => (hs.results g' st result hr).mono
        fun i hi => by show i ∈ x'.installs; rw [hinstalls]; exact hi
    · -- the published waypoints are those on the blackboard
      have hmem : (g', msg') ∈ x'.feedbacks := hf
      rw [hfeedbacks] at hmem
      show ∃ i ∈ x'.installs, _
      rw [hinstalls]
      rcases List.mem_cons.mp hmem with hnew | hold
      · cases hnew
        rw [hs.blackboard] at hmsg
        obtain ⟨i, hi, hwaypoints⟩ := Option.map_eq_some_iff.mp hmsg
        exact ⟨i, List.mem_of_mem_head? hi, hwaypoints.symm⟩
      · exact hs.feedbacks g' msg' hold
  | preempted hpc hx hto =>
    rw [hpc] at hhas
    exact hs.install hx (hhas.2 _ _ rfl) (by rw [hto]; rfl)
  | notTransformed _ hpc _ hx hto =>
    rw [hpc] at hhas
    refine hkeep hx (.of_running (by rw [hto]; rfl) ?_)
    rw [hx.installs]
    exact hhas.1
  | @completed rc statuses result hpc hstatuses hx hto hresult =>
    refine hkeep hx ?_
    rw [hto]
    rw [hs.blackboard] at hstatuses
    obtain ⟨i, hi, rfl⟩ := Option.map_eq_some_iff.mp hstatuses
    refine ⟨i, ?_, hresult.trans (integrate_waypoints rc i.poses)⟩
    rw [hx.installs]
    exact hi

/-- A move with a call. -/
theorem throughInv_called {s : ThroughState D} (hs : ThroughInv tf s) {x' : Members D}
    {l : ThroughLabel D} {c : Call (ThroughPosesResult D)}
    (h : ThroughMoves tf s.server s.members l x' (some c)) :
    ThroughInv tf ⟨{ s.server with server := c.apply s.server.server }, x'⟩ := by
  have he : Effect s.server (.call c)
      { s.server with server := c.apply s.server.server } := .called c
  have hhas := hs.has
  cases h with
  | @accepted r hpc hx hto =>
    rw [hpc] at hhas
    refine hs.same hx (message_effect he) (fun g st result hr => ?_) ?_
    · rcases reported_call (by simp) hr with hold | ⟨hempty, hst⟩
      · exact hs.results g st result hold
      · exact .inl ⟨hst, by rw [hempty]; rfl⟩
    · rw [hto]
      refine ⟨?_, fun g request hgoal => ?_⟩
      · rw [hx.installs]
        exact hhas rfl
      · exact message_effect he g request (message_of_acceptedGoal hgoal).2
  | rejected hpc hx hto =>
    rw [hpc] at hhas
    refine hs.same hx (message_effect he) (fun g st result hr => ?_) (.of_running hto ?_)
    · rcases reported_call (by simp) hr with hold | ⟨hempty, hst⟩
      · exact hs.results g st result hold
      · exact .inl ⟨hst, by rw [hempty]; rfl⟩
    · rw [hx.installs]
      exact hhas rfl
  | @notTaken error _ hx hto =>
    refine hs.same hx (message_effect he) (fun g st result hr => ?_) (by rw [hto]; exact nofun)
    rcases reported_call (by simp) hr with hold | ⟨hgiven, hst⟩
    · exact hs.results g st result hold
    · exact .inl ⟨hst, by rw [hgiven]; rfl⟩
  | @reported rc result hpc hx hto =>
    rw [hpc] at hhas
    obtain ⟨i, hi, hwaypoints⟩ := hhas
    have hmem := List.mem_of_mem_head? hi
    refine hs.same hx (message_effect he) (fun g st result' hr => ?_) (by rw [hto]; exact nofun)
    cases rc with
    | succeeded =>
      rcases reported_succeededCurrent hr with hold | ⟨rfl, _, rfl⟩
      · exact hs.results g st result' hold
      · exact .inr ⟨i, hmem, hwaypoints⟩
    | _ =>
      rcases reported_call (by simp [reportCall]) hr with hold | ⟨rfl, hst⟩
      · exact hs.results g st result' hold
      · refine .inr ⟨i, hmem, ?_⟩
        rw [finalStatus, if_neg hst]
        exact hwaypoints

theorem throughInv_effect {s s' : ThroughState D}
    {l : CallbackLabel (ThroughPosesGoal D) (ThroughPosesResult D) (ThroughLabel D)}
    (hs : ThroughInv tf s) (h : CallbackEffect (executeCallback params tf) s l s') :
    ThroughInv tf s' := by
  cases h with
  | @bystander l server hl _ he =>
    have hne : ∀ c, l ≠ .call c := by
      rintro c rfl
      cases hl
    have hx : SameRecord s.members s.members := ⟨rfl, rfl, rfl⟩
    exact throughInv_party hs he hne hx (hs.has.keep (message_effect he) hx)
  | entered _ he => exact throughInv_party hs he nofun ⟨rfl, rfl, rfl⟩ nofun
  | passed _ he =>
    have hx : SameRecord s.members s.members := ⟨rfl, rfl, rfl⟩
    exact throughInv_party hs he nofun hx (hs.has.keep (message_effect he) hx)
  | returned _ he => exact throughInv_party hs he nofun ⟨rfl, rfl, rfl⟩ nofun
  | threw _ he => exact throughInv_party hs he nofun ⟨rfl, rfl, rfl⟩ nofun
  | moved hnext => exact throughInv_moved hs (throughMoves_of_next hnext)
  | called hnext => exact throughInv_called hs (throughMoves_of_next hnext)

theorem throughInv_of_reach {C : ThroughState D → _ → Prop} {s : ThroughState D}
    (h : (executeCallback params tf).system.Reach C s) : ThroughInv tf s :=
  (CallbackProgram.invariant h (ThroughInv tf) throughInv_initial
    fun _ _ _ _ _ hs _ he => throughInv_effect hs he).2

/-- **Waypoints in results.** Every result, in every interleaving, either is
of a goal that has not succeeded and says nothing of waypoints, or it has
one waypoint for each pose of a goal that was installed, in order and in the
global frame, with the status COMPLETED if the goal has succeeded and FAILED
otherwise. -/
theorem reported_waypoints {C : ThroughState D → _ → Prop} {s : ThroughState D}
    (h : (executeCallback params tf).system.Reach C s) {g : GoalId}
    {st : GoalStatus} {result : ThroughPosesResult D}
    (hr : (g, st, result) ∈ s.server.server.results) :
    (st ≠ .succeeded ∧ result.waypointStatuses = []) ∨
      ∃ i ∈ s.members.installs, i.Genuine tf s.server ∧
        result.waypointStatuses = waypoints (if st = .succeeded then completed else failed) i.poses
    := by
  have hinv := throughInv_of_reach h
  rcases hinv.results g st result hr with hnone | ⟨i, hi, hwaypoints⟩
  · exact .inl hnone
  · exact .inr ⟨i, hi, hinv.genuine i hi, hwaypoints⟩

/-! ## The poses of the goal itself -/

theorem exists_ok_iff {ε α : Type} (x : Except ε α) : (∃ a, x = .ok a) ↔ x.isOk = true := by
  cases x with
  | error e => exact ⟨nofun, nofun⟩
  | ok a => exact ⟨fun _ => rfl, fun _ => ⟨a, rfl⟩⟩

instance Transforms.decidable (tf : PosesTf D) (goal : ThroughPosesGoal D) :
    Decidable (Transforms tf goal) :=
  decidable_of_iff (tf.robotPose.isSome = true ∧ (transformPoses tf 0 goal.poses.goals).isOk = true)
    (and_congr_right fun _ => (exists_ok_iff _).symm)

/-- A goal has been accepted, and its poses can be transformed. -/
def TransformsAt (tf : PosesTf D) : ThroughPc D → Prop
  | .initializing _ none => False
  | .initializing _ (some (_, request)) => Transforms tf request
  | _ => True

instance TransformsAt.decidable (tf : PosesTf D) : (pc : ThroughPc D) → Decidable (TransformsAt tf pc)
  | .initializing _ none => isFalse id
  | .initializing _ (some (_, request)) => Transforms.decidable tf request
  | .idle | .received | .refused | .loop | .ticking | .onLoop _ | .preempt _ | .accepting _
  | .rejecting _ | .feedback _ | .completing _ | .reporting _ _ | .returning | .crashed =>
    isTrue trivial

/-- The poses of a preempting goal can be transformed. -/
def PreemptsTransform (tf : Nat → PosesTf D) (s : ThroughState D) :
    CallbackLabel (ThroughPosesGoal D) (ThroughPosesResult D) (ThroughLabel D) → Prop
  | .own (.initializeGoalPoses k _) => TransformsAt (tf k) s.members.pc
  | _ => True

instance PreemptsTransform.decidable (tf : Nat → PosesTf D) (s : ThroughState D) :
    (l : CallbackLabel (ThroughPosesGoal D) (ThroughPosesResult D) (ThroughLabel D)) →
      Decidable (PreemptsTransform tf s l)
  | .own (.initializeGoalPoses k _) => TransformsAt.decidable (tf k) s.members.pc
  | .own (.goalReceived _ _ _ _) | .own (.refuse _) | .own .testLoop | .own (.tick _ _ _)
  | .own .testPreempt | .own .getPendingGoal | .own .acceptPendingGoal
  | .own .terminatePendingGoal | .own (.onLoop _ _) | .own (.complete _) | .own .report
  | .server _ => isTrue trivial

/-- The last install was for the current goal, if there is one. -/
def LastIsCurrent (s : ThroughServer D) (x : Members D) : Prop :=
  ∀ i ∈ x.installs.head?, ∀ g, s.server.currentHandle = some g → i.goal = g

/-- Whose poses the callback goes on with, by its place. -/
def Owns (s : ThroughServer D) (x : Members D) : ThroughPc D → Prop
  | .initializing _ goal =>
    ∀ g request, goal = some (g, request) → ∀ g', s.server.currentHandle = some g' → g' = g
  | .reporting _ _ => LastIsCurrent s x
  | pc => pc.isRunning = true → LastIsCurrent s x

/-- What holds besides in every reachable state. -/
structure OwnInv (s : ThroughState D) : Prop where
  owns : Owns s.server s.members s.members.pc
  results : ∀ g result, (g, .succeeded, result) ∈ s.server.server.results →
    ∃ i ∈ s.members.installs, i.goal = g ∧ result.waypointStatuses = waypoints completed i.poses
  feedbacks : ∀ g msg, (g, msg) ∈ s.members.feedbacks →
    ∃ i ∈ s.members.installs, i.goal = g ∧ msg.waypointStatuses = waypoints pending i.poses

theorem ownInv_initial : OwnInv (executeCallback params tf).initialState where
  owns := nofun
  results := fun _ _ hr => absurd hr List.not_mem_nil
  feedbacks := fun _ _ hf => absurd hf List.not_mem_nil

theorem Owns.of_running {s : ThroughServer D} {x : Members D} {pc : ThroughPc D}
    (hpc : pc.isRunning = true) (h : LastIsCurrent s x) : Owns s x pc := by
  cases pc with
  | initializing r goal => cases hpc
  | reporting rc result => exact h
  | _ => exact fun _ => h

theorem Owns.last {s : ThroughServer D} {x : Members D} {pc : ThroughPc D} (h : Owns s x pc)
    (hpc : pc.isRunning = true) : LastIsCurrent s x := by
  cases pc with
  | initializing r goal => cases hpc
  | reporting rc result => cases hpc
  | _ => exact h hpc

theorem LastIsCurrent.keep {s s' : ThroughServer D} {x x' : Members D} (h : LastIsCurrent s x)
    (hcurrent : ∀ g, s'.server.currentHandle = some g → s.server.currentHandle = some g)
    (hinstalls : x'.installs = x.installs) : LastIsCurrent s' x' := by
  intro i hi g hg
  rw [hinstalls] at hi
  exact h i hi g (hcurrent g hg)

theorem Owns.keep {s s' : ThroughServer D} {x : Members D} {pc : ThroughPc D} (h : Owns s x pc)
    (hcurrent : ∀ g, s'.server.currentHandle = some g → s.server.currentHandle = some g) :
    Owns s' x pc := by
  cases pc with
  | initializing r goal =>
    exact fun g request hgoal g' hg' => h g request hgoal g' (hcurrent g' hg')
  | reporting rc result => exact LastIsCurrent.keep h hcurrent rfl
  | _ => exact fun hpc => (h hpc).keep hcurrent rfl

/-- A step after which no other goal has succeeded. -/
theorem OwnInv.same {s : ThroughState D} (hs : OwnInv s) {server : ThroughServer D}
    {x' : Members D} (hx : SameRecord s.members x')
    (hresults : ∀ g result, (g, .succeeded, result) ∈ server.server.results →
      (g, .succeeded, result) ∈ s.server.server.results)
    (howns : Owns server x' x'.pc) : OwnInv ⟨server, x'⟩ where
  owns := howns
  results := by
    intro g result hr
    obtain ⟨i, hi, hown⟩ := hs.results g result (hresults g result hr)
    exact ⟨i, by show i ∈ x'.installs; rw [hx.installs]; exact hi, hown⟩
  feedbacks := by
    intro g msg hf
    obtain ⟨i, hi, hown⟩ := hs.feedbacks g msg (hx.feedbacks ▸ hf)
    exact ⟨i, by show i ∈ x'.installs; rw [hx.installs]; exact hi, hown⟩

theorem OwnInv.install {s : ThroughState D} (hs : OwnInv s) {x' : Members D} {g : GoalId} {k : Nat}
    {goal : ThroughPosesGoal D} {poses : List (PoseStamped D)}
    (hx : Installed (tf k) g k goal poses s.members x') (hpc : x'.pc.isRunning = true)
    (hcurrent : ∀ g', s.server.server.currentHandle = some g' → g' = g) :
    OwnInv ⟨s.server, x'⟩ where
  owns := by
    refine .of_running hpc fun i hi g' hg' => ?_
    have hhead : i ∈ x'.installs.head? := hi
    rw [hx.installs] at hhead
    cases hhead
    exact (hcurrent g' hg').symm
  results := by
    intro g' result hr
    obtain ⟨i, hi, hown⟩ := hs.results g' result hr
    exact ⟨i, by show i ∈ x'.installs; rw [hx.installs]; exact List.mem_cons_of_mem _ hi, hown⟩
  feedbacks := by
    intro g' msg hf
    obtain ⟨i, hi, hown⟩ := hs.feedbacks g' msg (hx.feedbacks ▸ hf)
    exact ⟨i, by show i ∈ x'.installs; rw [hx.installs]; exact List.mem_cons_of_mem _ hi, hown⟩

theorem ownInv_moved {s : ThroughState D} (hinv : ThroughInv tf s) (hs : OwnInv s)
    {x' : Members D} {l : ThroughLabel D} (hl : PreemptsTransform tf s (.own l))
    (h : ThroughMoves tf s.server s.members l x' none) : OwnInv ⟨s.server, x'⟩ := by
  have hkeep : SameRecord s.members x' → Owns s.server x' x'.pc → OwnInv ⟨s.server, x'⟩ :=
    fun hx howns => hs.same hx (fun _ _ h => h) howns
  have howns := hs.owns
  cases h with
  | refused _ hx hto => exact hkeep hx (by rw [hto]; exact nofun)
  | crashed _ hx hto => exact hkeep hx (by rw [hto]; exact nofun)
  | taken hpc hgoal hx hto =>
    refine hs.install hx (by rw [hto]; rfl) fun g' hg' => ?_
    exact Option.some.inj (hg'.symm.trans (message_of_currentGoal hgoal).1)
  | ran hpc hx hto =>
    exact hkeep hx (.of_running hto ((howns.last hpc).keep (fun _ h => h) hx.installs))
  | @published g msg hpc hcurrent hmsg hstatuses hinstalls hfeedbacks hto =>
    have hlast := howns.last hpc
    refine ⟨.of_running hto (hlast.keep (fun _ h => h) hinstalls), ?_, fun g' msg' hf => ?_⟩
    · intro g' result hr
      show ∃ i ∈ x'.installs, _
      rw [hinstalls]
      exact hs.results g' result hr
    · have hmem : (g', msg') ∈ x'.feedbacks := hf
      rw [hfeedbacks] at hmem
      show ∃ i ∈ x'.installs, _
      rw [hinstalls]
      rcases List.mem_cons.mp hmem with hnew | hold
      · cases hnew
        rw [hinv.blackboard] at hmsg
        obtain ⟨i, hi, hwaypoints⟩ := Option.map_eq_some_iff.mp hmsg
        exact ⟨i, List.mem_of_mem_head? hi, hlast i hi g hcurrent, hwaypoints.symm⟩
      · exact hs.feedbacks g' msg' hold
  | preempted hpc hx hto =>
    rw [hpc] at howns
    exact hs.install hx (by rw [hto]; rfl) (howns _ _ rfl)
  | @notTransformed _ goal k now hlabel hpc hnot _ _ =>
    -- the goal can be transformed
    subst hlabel
    simp only [PreemptsTransform, hpc] at hl
    cases goal with
    | none => exact absurd hl id
    | some accepted => exact absurd hl (hnot accepted.1 accepted.2 rfl)
  | completed hpc _ hx hto _ =>
    refine hkeep hx ?_
    rw [hto]
    exact (howns.last (by rw [hpc]; rfl)).keep (fun _ h => h) hx.installs

theorem ownInv_called {s : ThroughState D} (hserver : ServerInv s.server) (hinv : ThroughInv tf s)
    (hs : OwnInv s) {x' : Members D} {l : ThroughLabel D} {c : Call (ThroughPosesResult D)}
    (h : ThroughMoves tf s.server s.members l x' (some c)) :
    OwnInv ⟨{ s.server with server := c.apply s.server.server }, x'⟩ := by
  have howns := hs.owns
  have hother : (∀ r, c ≠ .succeededCurrent r) → ∀ g result,
      (g, .succeeded, result) ∈ (c.apply s.server.server).results →
        (g, .succeeded, result) ∈ s.server.server.results := by
    intro hc g result hr
    rcases reported_call hc hr with hold | ⟨_, hst⟩
    · exact hold
    · exact absurd rfl hst
  cases h with
  | accepted hpc hx hto =>
    refine hs.same hx (hother (by simp)) ?_
    rw [hto]
    intro g request hgoal g' hg'
    exact Option.some.inj (hg'.symm.trans (message_of_acceptedGoal hgoal).1)
  | rejected hpc hx hto =>
    have hcurrent := SimpleActionServer.currentHandle_terminatePendingGoal hserver.slots
    refine hs.same hx (hother (by simp)) (.of_running hto ?_)
    refine (howns.last (by rw [hpc]; rfl)).keep (fun g hg => ?_) hx.installs
    exact hcurrent.symm.trans hg
  | notTaken _ hx hto =>
    exact hs.same hx (hother (by simp)) (by rw [hto]; exact nofun)
  | @reported rc result hpc hx hto =>
    have hhas := hinv.has
    rw [hpc] at howns hhas
    obtain ⟨i, hi, hwaypoints⟩ := hhas
    cases rc with
    | succeeded =>
      refine ⟨by rw [show CallbackState.members _ = x' from rfl, hto]; exact nofun,
        fun g result' hr => ?_, fun g msg hf => ?_⟩
      · show ∃ i ∈ x'.installs, _
        rw [hx.installs]
        rcases reported_succeededCurrent hr with hold | ⟨rfl, hcurrent, _⟩
        · exact hs.results g result' hold
        · exact ⟨i, List.mem_of_mem_head? hi, howns i hi g hcurrent, hwaypoints⟩
      · obtain ⟨i, hi, hown⟩ := hs.feedbacks g msg (hx.feedbacks ▸ hf)
        exact ⟨i, by show i ∈ x'.installs; rw [hx.installs]; exact hi, hown⟩
    | _ => exact hs.same hx (hother (by simp [reportCall])) (by rw [hto]; exact nofun)

/-- Another party keeps the current goal or takes it away. -/
theorem ownInv_bystander {s : ThroughState D} (hinv : CallbackInv (executeCallback params tf) s)
    (hs : OwnInv s) {l : Label (ThroughPosesGoal D) (ThroughPosesResult D)}
    {server : ThroughServer D} (he : Effect s.server l server) (hl : l.ofCallback = false) :
    OwnInv ⟨server, s.members⟩ := by
  have hne : ∀ c, l ≠ .call c := by
    rintro c rfl
    cases hl
  refine hs.same ⟨rfl, rfl, rfl⟩ (fun g result hr => ?_) ?_
  · rcases reported_bystander he hne hr with hold | ⟨_, hst⟩
    · exact hold
    · exact absurd rfl hst
  · cases hidle : s.members.pc.isIdle with
    | true =>
      cases hpc : s.members.pc with
      | idle => exact nofun
      | _ => rw [hpc] at hidle; cases hidle
    | false =>
      refine hs.owns.keep fun g hg => ?_
      rcases (bystander_effect hinv.server he hl (hinv.inCallback.mp hidle)).2 with hsame | hnone
      · exact hsame.symm.trans hg
      · rw [hnone] at hg
        cases hg

theorem ownInv_effect {s s' : ThroughState D}
    {l : CallbackLabel (ThroughPosesGoal D) (ThroughPosesResult D) (ThroughLabel D)}
    (hcallback : CallbackInv (executeCallback params tf) s) (hinv : ThroughInv tf s)
    (hs : OwnInv s) (hl : PreemptsTransform tf s l)
    (h : CallbackEffect (executeCallback params tf) s l s') : OwnInv s' := by
  have hleft : ∀ {l : Label (ThroughPosesGoal D) (ThroughPosesResult D)} {server : ThroughServer D},
      Effect s.server l server → (∀ c, l ≠ .call c) → ∀ pc : ThroughPc D,
        pc.isRunning = false → (∀ r goal, pc ≠ .initializing r goal) →
        (∀ rc result, pc ≠ .reporting rc result) → OwnInv ⟨server, { s.members with pc := pc }⟩ := by
    intro l server he hne pc hpc hinit hrep
    refine hs.same ⟨rfl, rfl, rfl⟩ (fun g result hr => ?_) ?_
    · rcases reported_bystander he hne hr with hold | ⟨_, hst⟩
      · exact hold
      · exact absurd rfl hst
    · cases pc with
      | initializing r goal => exact absurd rfl (hinit r goal)
      | reporting rc result => exact absurd rfl (hrep rc result)
      | _ =>
        intro hrunning
        rw [hpc] at hrunning
        cases hrunning
  cases h with
  | bystander hl' _ he => exact ownInv_bystander hcallback hs he hl'
  | entered _ he => exact hleft he nofun .received rfl nofun nofun
  | passed _ he => exact ownInv_bystander hcallback hs he rfl
  | returned _ he => exact hleft he nofun .idle rfl nofun nofun
  | threw _ he => exact hleft he nofun .idle rfl nofun nofun
  | moved hnext => exact ownInv_moved hinv hs hl (throughMoves_of_next hnext)
  | called hnext => exact ownInv_called hcallback.server hinv hs (throughMoves_of_next hnext)

theorem ownInv_of_reach {s : ThroughState D}
    (h : (executeCallback params tf).system.Reach (PreemptsTransform tf) s) : OwnInv s :=
  (CallbackProgram.invariant h (fun s => ThroughInv tf s ∧ OwnInv s)
    ⟨throughInv_initial, ownInv_initial⟩
    fun _ _ _ hcallback _ hs hl he =>
      ⟨throughInv_effect hs.1 he, ownInv_effect hcallback hs.1 hs.2 hl he⟩).2.2

/-- What an install of the goal itself says of its message. -/
theorem Install.Genuine.of_goal {s : ThroughServer D} {i : Install D} {g : GoalId}
    (h : i.Genuine tf s) (hg : i.goal = g) :
    ∃ request k, s.server.message g = some request ∧ TransformedBy (tf k) request i.poses := by
  obtain ⟨request, hrequest, htransformed⟩ := h
  exact ⟨request, i.lookup, hg ▸ hrequest, htransformed⟩

/-- **Waypoints of a goal that succeeds.** As long as the poses of every
preempting goal that is accepted can be transformed, a goal that succeeds is
told that each of its own poses, in order and in the global frame, is
COMPLETED. -/
theorem succeeded_waypoints {s : ThroughState D}
    (h : (executeCallback params tf).system.Reach (PreemptsTransform tf) s) {g : GoalId}
    {result : ThroughPosesResult D} (hr : (g, .succeeded, result) ∈ s.server.server.results) :
    ∃ request k poses, s.server.server.message g = some request ∧
      TransformedBy (tf k) request poses ∧
      result.waypointStatuses = waypoints completed poses := by
  obtain ⟨i, hi, hg, hwaypoints⟩ := (ownInv_of_reach h).results g result hr
  obtain ⟨request, k, hrequest, hposes⟩ := ((throughInv_of_reach h).genuine i hi).of_goal hg
  exact ⟨request, k, i.poses, hrequest, hposes, hwaypoints⟩

/-- **Waypoints in the feedback.** Under the same condition, the feedback
that a goal gets lists each of its own poses as PENDING. -/
theorem feedback_waypoints {s : ThroughState D}
    (h : (executeCallback params tf).system.Reach (PreemptsTransform tf) s) {g : GoalId}
    {msg : ThroughPosesFeedback D} (hf : (g, msg) ∈ s.members.feedbacks) :
    ∃ request k poses, s.server.server.message g = some request ∧
      TransformedBy (tf k) request poses ∧ msg.waypointStatuses = waypoints pending poses := by
  obtain ⟨i, hi, hg, hwaypoints⟩ := (ownInv_of_reach h).feedbacks g msg hf
  obtain ⟨request, k, hrequest, hposes⟩ := ((throughInv_of_reach h).genuine i hi).of_goal hg
  exact ⟨request, k, i.poses, hrequest, hposes, hwaypoints⟩

end Waypoints

/-! ## A run -/

/-- Poses that are in the global frame already. -/
def identityTf (_ : Nat) : PosesTf Int :=
  ⟨some ⟨⟨0, "map"⟩, ⟨0, 0, 0⟩, ⟨0, 0, 0, 1⟩⟩, fun _ pose => some pose⟩

def oneTree : NavigatorParams := ⟨⟨"through_poses.xml", false⟩, "map"⟩

/-- `z` metres up. -/
def climbTo (z : Int) : PoseStamped Int := ⟨⟨0, "map"⟩, ⟨0, 0, z⟩, ⟨0, 0, 0, 1⟩⟩

def climb (zs : List Int) : ThroughPosesGoal Int := ⟨⟨⟨0, "map"⟩, zs.map climbTo⟩, ""⟩

/-- Goal 1 preempts goal 0 in the first round of the loop and succeeds in
the second. -/
def preemptedRun :
    List (CallbackLabel (ThroughPosesGoal Int) (ThroughPosesResult Int) (ThroughLabel Int)) :=
  [.server .activate, .server (.goalRequest 0 (climb [1])), .server (.goalAccepted 0),
    .server (.testGuard 0), .own (.goalReceived false .created 0 0), .own .testLoop,
    .own (.tick (some .running) none 0), .server (.goalRequest 1 (climb [2, 3])),
    .server (.goalAccepted 1), .own .testPreempt, .own .getPendingGoal, .own .acceptPendingGoal,
    .own (.initializeGoalPoses 1 10), .own (.onLoop 1 20), .own .testLoop,
    .own (.tick (some .success) none 0), .own .testPreempt, .own (.onLoop 1 30),
    .own (.complete []), .own .report]

/-- The poses of goal 1. -/
def climbPoses : List (PoseStamped Int) := [climbTo 2, climbTo 3]

def preemptedResults : List (GoalId × GoalStatus × ThroughPosesResult Int) :=
  [(0, .aborted, default), (1, .succeeded, ⟨⟨0, ""⟩, waypoints completed climbPoses⟩)]

theorem exists_preempted : ∃ s : ThroughState Int,
    (executeCallback oneTree identityTf).system.Reach (PreemptsTransform identityTf) s ∧
    s.server.server.results = preemptedResults ∧
    ∃ msg, (1, msg) ∈ s.members.feedbacks ∧ msg.waypointStatuses = waypoints pending climbPoses := by
  obtain ⟨s, hr, hs⟩ := Transition.System.exists_reach_of_runWhile
    (S := (executeCallback oneTree identityTf).system) (PreemptsTransform identityTf) preemptedRun
    (fun s => decide (s.server.server.results = preemptedResults) &&
      s.members.feedbacks.any fun entry =>
        entry.1 == 1 && decide (entry.2.waypointStatuses = waypoints pending climbPoses))
    rfl (by decide +kernel)
  rw [Bool.and_eq_true, decide_eq_true_eq, List.any_eq_true] at hs
  obtain ⟨hresults, ⟨g, msg⟩, hmem, hmsg⟩ := hs
  rw [Bool.and_eq_true, beq_iff_eq, decide_eq_true_eq] at hmsg
  obtain ⟨hg, hwaypoints⟩ := hmsg
  have hg' : g = 1 := hg
  subst hg'
  exact ⟨s, hr, hresults, msg, hmem, hwaypoints⟩

theorem succeeded_mem_preemptedResults {s : ThroughState Int}
    (h : s.server.server.results = preemptedResults) :
    (1, GoalStatus.succeeded, ⟨⟨0, ""⟩, waypoints completed climbPoses⟩) ∈
      s.server.server.results := by
  rw [h]
  exact List.mem_cons_of_mem _ List.mem_cons_self

theorem reported_waypoints_preempted : ∃ s : ThroughState Int,
    ∃ i ∈ s.members.installs, i.Genuine identityTf s.server ∧
      waypoints completed climbPoses = waypoints completed i.poses := by
  obtain ⟨s, hr, hresults, _⟩ := exists_preempted
  rcases reported_waypoints hr (succeeded_mem_preemptedResults hresults) with
    ⟨hst, _⟩ | ⟨i, hi, hgenuine, hwaypoints⟩
  · exact absurd rfl hst
  · exact ⟨s, i, hi, hgenuine, hwaypoints⟩

theorem succeeded_waypoints_preempted : ∃ s : ThroughState Int, ∃ request k poses,
    s.server.server.message 1 = some request ∧ TransformedBy (identityTf k) request poses ∧
      waypoints completed climbPoses = waypoints completed poses := by
  obtain ⟨s, hr, hresults, _⟩ := exists_preempted
  exact ⟨s, succeeded_waypoints hr (succeeded_mem_preemptedResults hresults)⟩

theorem feedback_waypoints_preempted : ∃ s : ThroughState Int, ∃ request k poses,
    s.server.server.message 1 = some request ∧ TransformedBy (identityTf k) request poses ∧
      waypoints pending climbPoses = waypoints pending poses := by
  obtain ⟨s, hr, _, msg, hf, hmsg⟩ := exists_preempted
  obtain ⟨request, k, poses, hrequest, hposes, hwaypoints⟩ := feedback_waypoints hr hf
  exact ⟨s, request, k, poses, hrequest, hposes, hmsg.symm.trans hwaypoints⟩

end Nav3D.BtNavigator.ThroughPoses

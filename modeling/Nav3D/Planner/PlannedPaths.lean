/-
Nav3D.Planner.PlannedPaths — what the results of `computePlan()` say, and
what the callback leaves behind.

A goal that succeeds gets a path that a planner has returned while it was
the current goal, for its own request (`planned_path_sound`); any other
result is empty, or that of an exception which was thrown meanwhile
(`failed_plan_result`). Both rest on what the callback has at each place
(`Follows`), which no other party changes. `get_current_goal` and
`accept_pending_goal` may return null pointers; only a missed deadline of
`deactivate()` makes `computePlan()` read one
(`null_goal_only_after_deadline`). When it returns on an active server every
goal that it was handed has been answered, but for the pending one
(`computePlan_leaves_no_goal`).
-/
import Nav3D.Planner.ComputePlan
import Nav3D.Util.ActionServerResults

namespace Nav3D.Planner

open Nav3D.Ros Nav3D.Util
open Nav3D.BehaviorTree (ErrorResult)
open Nav3D.BehaviorTree.ConvertFromString (PoseStamped Path)
open Nav3D.BtNavigator (ComputePathGoal ComputePathResult)
open CallbackProgram (CallbackInv CallbackEffect)

section Planned

variable {D : Type}

/-- The action server of `computePlan()`. -/
abbrev PlanActionServer (D : Type) : Type :=
  ActionServerState (PlanGoal D) (ComputePathResult (Path D))

abbrev PlanState (D : Type) : Type :=
  CallbackState (PlanGoal D) (ComputePathResult (Path D)) (PlanMembers D)

/-! ## What the callback has -/

/-- The goal in the current slot, if there is one, has the message
`request`. -/
def CurrentRequest (s : PlanActionServer D) (request : PlanGoal D) : Prop :=
  ∀ g, s.server.currentHandle = some g → s.server.message g = some request

/-- The poses are those of the request, brought to the global frame. -/
def Located (config : PlanConfig D) (request : PlanGoal D) (start goalPose : PoseStamped D) :
    Prop :=
  ∃ t t' t'', locate config t t' t'' request = .ok (start, goalPose)

/-- The planner is the one that is asked for, and it is given the poses of
the request. -/
structure PlanCall.Genuine (config : PlanConfig D) (call : PlanCall D) : Prop where
  planner : config.planners.getPlannerOrThrow call.request.plannerId = .ok call.planner
  located : Located config call.request call.start call.goalPose

/-- The call was made for goal `g`. -/
def PlanCall.MadeFor (s : PlanActionServer D) (call : PlanCall D) (g : GoalId) : Prop :=
  call.executing = some g ∧ s.server.message g = some call.request

/-- The path was planned for the current goal. -/
def PlannedForCurrent (s : PlanActionServer D) (calls : List (PlanCall D)) (path : Path D) :
    Prop :=
  ∃ call ∈ calls, call.path = path ∧
    ∀ g, s.server.currentHandle = some g → call.MadeFor s g

/-- The exception was thrown for goal `g`: at its request, or at a path that
was planned for it. -/
def PlanThrow.ThrownFor (s : PlanActionServer D) (calls : List (PlanCall D)) (t : PlanThrow D)
    (g : GoalId) : Prop :=
  t.executing = some g ∧
    match t.stage with
    | .locating request | .planning request _ _ => s.server.message g = some request
    | .checking path | .publishing path => ∃ call ∈ calls, call.path = path ∧ call.MadeFor s g

/-- The result is that of an exception which was thrown for goal `g`. -/
def FailedFor (s : PlanActionServer D) (calls : List (PlanCall D)) (thrown : List (PlanThrow D))
    (g : GoalId) (result : ComputePathResult (Path D)) : Prop :=
  ∃ t ∈ thrown, t.ThrownFor s calls g ∧ result = t.result

/-- What the callback has, by its place. In a handler there is the result of
an exception. -/
def Follows (config : PlanConfig D) (s : PlanActionServer D) (calls : List (PlanCall D))
    (thrown : List (PlanThrow D)) : PlanPc D → Prop
  | .testActive goal | .testCancel goal | .testPreempt goal | .reading goal =>
    ∀ request, goal = some request → CurrentRequest s request
  | .checkStart request | .locating request => CurrentRequest s request
  | .checkPlan request start goalPose | .planning request start goalPose =>
    CurrentRequest s request ∧ Located config request start goalPose
  | .checkResult path => PlannedForCurrent s calls path
  | .publishing path | .succeeding path => PlannedForCurrent s calls path ∧ path.poses ≠ []
  | .failing result => ∀ g, s.server.currentHandle = some g → FailedFor s calls thrown g result
  | _ => True

/-- What a result says. -/
def Settled (s : PlanActionServer D) (calls : List (PlanCall D)) (thrown : List (PlanThrow D))
    (g : GoalId) (st : GoalStatus) (result : ComputePathResult (Path D)) : Prop :=
  (st = .succeeded ∧ result.error = ⟨0, ""⟩ ∧ result.path.poses ≠ [] ∧
      ∃ call ∈ calls, call.path = result.path ∧ call.MadeFor s g) ∨
    (st ≠ .succeeded ∧ (result = default ∨ FailedFor s calls thrown g result))

/-- What holds in every reachable state. -/
structure PlanInv (config : PlanConfig D) (s : PlanState D) : Prop where
  follows : Follows config s.server s.members.calls s.members.thrown s.members.pc
  genuine : ∀ call ∈ s.members.calls, call.Genuine config
  throws : ∀ t ∈ s.members.thrown, t.stage.Throws config t.exception t.what
  settled : ∀ g st result, (g, st, result) ∈ s.server.server.results →
    Settled s.server s.members.calls s.members.thrown g st result

variable {config : PlanConfig D}

theorem planInv_initial : PlanInv config (computePlan config).initialState where
  follows := trivial
  genuine := fun _ hcall => absurd hcall List.not_mem_nil
  throws := fun _ ht => absurd ht List.not_mem_nil
  settled := fun _ _ _ hr => absurd hr List.not_mem_nil

/-! ## What other steps leave of it -/

section Keeps

variable {s s' : PlanActionServer D} {calls calls' : List (PlanCall D)}
  {thrown thrown' : List (PlanThrow D)}

/-- Messages stay, and the current goal stays or goes. -/
structure KeepsRequest (s s' : PlanActionServer D) : Prop where
  current : ∀ g, s'.server.currentHandle = some g → s.server.currentHandle = some g
  message : ∀ g request, s.server.message g = some request → s'.server.message g = some request

theorem CurrentRequest.keep {request : PlanGoal D} (h : CurrentRequest s request)
    (hkeep : KeepsRequest s s') : CurrentRequest s' request :=
  fun g hg => hkeep.message g request (h g (hkeep.current g hg))

theorem PlannedForCurrent.keep {path : Path D} (h : PlannedForCurrent s calls path)
    (hkeep : KeepsRequest s s') : PlannedForCurrent s' calls path := by
  obtain ⟨call, hcall, hpath, hmade⟩ := h
  refine ⟨call, hcall, hpath, fun g hg => ?_⟩
  obtain ⟨hexecuting, hmessage⟩ := hmade g (hkeep.current g hg)
  exact ⟨hexecuting, hkeep.message g _ hmessage⟩

/-- An exception was thrown for a goal once and for all. -/
theorem PlanThrow.ThrownFor.keep {t : PlanThrow D} {g : GoalId} (h : t.ThrownFor s calls g)
    (hmessage : ∀ g request, s.server.message g = some request →
      s'.server.message g = some request)
    (hcalls : ∀ call ∈ calls, call ∈ calls') : t.ThrownFor s' calls' g := by
  obtain ⟨executing, stage, e, what⟩ := t
  obtain ⟨hexecuting, hstage⟩ := h
  refine ⟨hexecuting, ?_⟩
  have hpath : ∀ path, (∃ call ∈ calls, call.path = path ∧ call.MadeFor s g) →
      ∃ call ∈ calls', call.path = path ∧ call.MadeFor s' g := by
    rintro path ⟨call, hcall, hsame, hmade, hrequest⟩
    exact ⟨call, hcalls call hcall, hsame, hmade, hmessage g _ hrequest⟩
  cases stage with
  | locating request => exact hmessage g request hstage
  | planning request start goalPose => exact hmessage g request hstage
  | checking path => exact hpath path hstage
  | publishing path => exact hpath path hstage

theorem FailedFor.keep {g : GoalId} {result : ComputePathResult (Path D)}
    (h : FailedFor s calls thrown g result)
    (hmessage : ∀ g request, s.server.message g = some request →
      s'.server.message g = some request)
    (hcalls : ∀ call ∈ calls, call ∈ calls') (hthrown : ∀ t ∈ thrown, t ∈ thrown') :
    FailedFor s' calls' thrown' g result := by
  obtain ⟨t, ht, hfor, hresult⟩ := h
  exact ⟨t, hthrown t ht, hfor.keep hmessage hcalls, hresult⟩

theorem Follows.keep {pc : PlanPc D} (h : Follows config s calls thrown pc)
    (hkeep : KeepsRequest s s') : Follows config s' calls thrown pc := by
  cases pc with
  | testActive goal => exact fun request hgoal => (h request hgoal).keep hkeep
  | testCancel goal => exact fun request hgoal => (h request hgoal).keep hkeep
  | testPreempt goal => exact fun request hgoal => (h request hgoal).keep hkeep
  | reading goal => exact fun request hgoal => (h request hgoal).keep hkeep
  | checkStart request => exact CurrentRequest.keep h hkeep
  | locating request => exact CurrentRequest.keep h hkeep
  | checkPlan request start goalPose => exact ⟨h.1.keep hkeep, h.2⟩
  | planning request start goalPose => exact ⟨h.1.keep hkeep, h.2⟩
  | checkResult path => exact PlannedForCurrent.keep h hkeep
  | publishing path => exact ⟨h.1.keep hkeep, h.2⟩
  | succeeding path => exact ⟨h.1.keep hkeep, h.2⟩
  | failing result =>
    intro g hg
    exact (h g (hkeep.current g hg)).keep hkeep.message (fun _ hcall => hcall) fun _ ht => ht
  | _ => trivial

/-- What a result says, it goes on saying. -/
theorem Settled.keep {g : GoalId} {st : GoalStatus} {result : ComputePathResult (Path D)}
    (h : Settled s calls thrown g st result)
    (hmessage : ∀ g request, s.server.message g = some request →
      s'.server.message g = some request)
    (hcalls : ∀ call ∈ calls, call ∈ calls') (hthrown : ∀ t ∈ thrown, t ∈ thrown') :
    Settled s' calls' thrown' g st result := by
  rcases h with ⟨hst, herror, hpath, call, hcall, hsame, hexecuting, hrequest⟩ | ⟨hst, hfailed⟩
  · exact .inl ⟨hst, herror, hpath, call, hcalls call hcall, hsame, hexecuting,
      hmessage g _ hrequest⟩
  · exact .inr ⟨hst, hfailed.imp_right fun hfor => hfor.keep hmessage hcalls hthrown⟩

theorem currentRequest_of_getCurrentGoal {request : PlanGoal D}
    (h : s.server.getCurrentGoal = some request) : CurrentRequest s request := by
  intro g hg
  simp only [SimpleActionServer.getCurrentGoal, SimpleActionServer.goalOf, hg] at h
  split at h
  · exact h
  · cases h

/-- A step of another party settles goals without a path. -/
theorem settled_bystander {l : Label (PlanGoal D) (ComputePathResult (Path D))}
    (he : Effect s l s') (hl : ∀ c, l ≠ .call c)
    (h : ∀ g st result, (g, st, result) ∈ s.server.results → Settled s calls thrown g st result)
    (g : GoalId) (st : GoalStatus) (result : ComputePathResult (Path D))
    (hr : (g, st, result) ∈ s'.server.results) : Settled s' calls thrown g st result := by
  rcases reported_bystander he hl hr with hold | ⟨hempty, hst⟩
  · exact (h g st result hold).keep (message_effect he) (fun _ hcall => hcall) fun _ ht => ht
  · exact .inr ⟨hst, .inl hempty⟩

end Keeps

/-! ## The steps -/

/-- A step of another party. -/
theorem planInv_party {s : PlanState D} (hs : PlanInv config s)
    {l : Label (PlanGoal D) (ComputePathResult (Path D))} {server : PlanActionServer D}
    (he : Effect s.server l server) (hl : ∀ c, l ≠ .call c) {pc : PlanPc D}
    (hfollows : Follows config server s.members.calls s.members.thrown pc) :
    PlanInv config ⟨server, { s.members with pc := pc }⟩ :=
  ⟨hfollows, hs.genuine, hs.throws, settled_bystander he hl hs.settled⟩

/-- A step of another party leaves what the callback has. -/
theorem follows_bystander {s : PlanState D} (hinv : CallbackInv (computePlan config) s)
    (hs : PlanInv config s) {l : Label (PlanGoal D) (ComputePathResult (Path D))}
    {server : PlanActionServer D} (he : Effect s.server l server) (hl : l.ofCallback = false) :
    Follows config server s.members.calls s.members.thrown s.members.pc := by
  cases hidle : s.members.pc.isIdle with
  | true =>
    cases hpc : s.members.pc with
    | idle => trivial
    | _ => rw [hpc] at hidle; cases hidle
  | false =>
    have hw := hinv.inCallback.mp hidle
    refine hs.follows.keep ⟨fun g hg => ?_, message_effect he⟩
    rcases (bystander_effect hinv.server he hl hw).2 with hsame | hnone
    · exact hsame.symm.trans hg
    · rw [hnone] at hg
      cases hg

/-- What is thrown is thrown for the current goal. -/
theorem thrownFor_stage {s : PlanActionServer D} {calls : List (PlanCall D)}
    {thrown : List (PlanThrow D)} {stage : PlanStage D}
    (h : Follows config s calls thrown stage.pc) {g : GoalId}
    (hg : s.server.currentHandle = some g) (e : PlanException) (what : String) :
    PlanThrow.ThrownFor s calls ⟨s.server.currentHandle, stage, e, what⟩ g := by
  refine ⟨hg, ?_⟩
  cases stage with
  | locating request => exact h g hg
  | planning request start goalPose => exact h.1 g hg
  | checking path =>
    obtain ⟨call, hcall, hpath, hmade⟩ := h
    exact ⟨call, hcall, hpath, hmade g hg⟩
  | publishing path =>
    obtain ⟨⟨call, hcall, hpath, hmade⟩, -⟩ := h
    exact ⟨call, hcall, hpath, hmade g hg⟩

/-- An exception is caught. -/
theorem planInv_throwing {s : PlanState D} (hs : PlanInv config s) {stage : PlanStage D}
    {e : PlanException} {what : String} (hpc : s.members.pc = stage.pc)
    (hthrows : stage.Throws config e what) :
    PlanInv config ⟨s.server,
      s.members.throwing ⟨s.server.server.currentHandle, stage, e, what⟩⟩ := by
  have hfollows := hs.follows
  rw [hpc] at hfollows
  refine ⟨fun g hg => ?_, hs.genuine, fun t ht => ?_, fun g st result hr => ?_⟩
  · exact ⟨_, List.mem_append_right _ (List.mem_singleton_self _),
      thrownFor_stage hfollows hg e what, rfl⟩
  · rcases List.mem_append.mp ht with hold | hnew
    · exact hs.throws t hold
    · rw [List.mem_singleton.mp hnew]
      exact hthrows
  · exact (hs.settled g st result hr).keep (fun _ _ h => h) (fun _ hcall => hcall)
      fun _ ht => List.mem_append_left _ ht

/-- A move without a call. -/
theorem planInv_moved {s : PlanState D} (hs : PlanInv config s) {x : PlanMembers D}
    (h : PlanMoves config s.server s.members x none) : PlanInv config ⟨s.server, x⟩ := by
  have hkeep : ∀ {pc : PlanPc D}, Follows config s.server s.members.calls s.members.thrown pc →
      PlanInv config ⟨s.server, { s.members with pc := pc }⟩ :=
    fun hfollows => ⟨hfollows, hs.genuine, hs.throws, hs.settled⟩
  have hfollows := hs.follows
  cases h with
  | got _ => exact hkeep fun request hgoal => currentRequest_of_getCurrentGoal hgoal
  | inactive _ _ => exact hkeep trivial
  | active hpc _ => rw [hpc] at hfollows; exact hkeep hfollows
  | notCanceled hpc => rw [hpc] at hfollows; exact hkeep hfollows
  | preempted _ _ => exact hkeep trivial
  | kept hpc => rw [hpc] at hfollows; exact hkeep hfollows
  | crashes _ => exact hkeep trivial
  | reads hpc => rw [hpc] at hfollows; exact hkeep (hfollows _ rfl)
  | started hpc => rw [hpc] at hfollows; exact hkeep hfollows
  | located hpc hlocate => rw [hpc] at hfollows; exact hkeep ⟨hfollows, _, _, _, hlocate⟩
  | checked hpc => rw [hpc] at hfollows; exact hkeep hfollows
  | @planned request start goalPose planner path hpc hplanner =>
    rw [hpc] at hfollows
    have hgrow : ∀ call ∈ s.members.calls, call ∈ s.members.calls ++
        [⟨request, s.server.server.currentHandle, planner, start, goalPose, path⟩] :=
      fun call hcall => List.mem_append_left _ hcall
    refine ⟨?_, fun call hcall => ?_, hs.throws, fun g st result hr => ?_⟩
    · refine ⟨_, List.mem_append_right _ (List.mem_singleton_self _), rfl, fun g hg => ?_⟩
      exact ⟨hg, hfollows.1 g hg⟩
    · rcases List.mem_append.mp hcall with hold | hnew
      · exact hs.genuine call hold
      · rw [List.mem_singleton] at hnew
        subst hnew
        exact ⟨hplanner, hfollows.2⟩
    · exact (hs.settled g st result hr).keep (fun _ _ h => h) hgrow fun _ ht => ht
  | nonEmpty hpc hpath => rw [hpc] at hfollows; exact hkeep ⟨hfollows, hpath⟩
  | published hpc => rw [hpc] at hfollows; exact hkeep hfollows
  | threw _ hpc hthrows => exact planInv_throwing hs hpc hthrows
  | canceled _ => exact hkeep trivial

/-- A move with a call. The current goal is settled by it with what the
callback has, if it is settled. -/
theorem planInv_called {s : PlanState D} (hs : PlanInv config s) {x : PlanMembers D}
    {c : Call (ComputePathResult (Path D))}
    (h : PlanMoves config s.server s.members x (some c)) :
    PlanInv config ⟨{ s.server with server := c.apply s.server.server }, x⟩ := by
  have he : Effect s.server (.call c)
      { s.server with server := c.apply s.server.server } := .called c
  have hold : ∀ g st result, (g, st, result) ∈ s.server.server.results →
      Settled { s.server with server := c.apply s.server.server } s.members.calls
        s.members.thrown g st result :=
    fun g st result hr =>
      (hs.settled g st result hr).keep (message_effect he) (fun _ hcall => hcall) fun _ ht => ht
  have hfollows := hs.follows
  cases h with
  | accepted hpc =>
    refine ⟨fun request hgoal => ?_, hs.genuine, hs.throws, fun g st result hr => ?_⟩
    · obtain ⟨p, _, hcurrent, hmessage⟩ := SimpleActionServer.acceptPendingGoal_returns hgoal
      intro g hg
      have hp : g = p := Option.some.inj (hg.symm.trans hcurrent)
      subst hp
      exact message_effect he g request hmessage
    · rcases reported_call (by simp) hr with hr | ⟨hgiven, hst⟩
      · exact hold g st result hr
      · exact .inr ⟨hst, .inl hgiven⟩
  | @succeeded path hpc =>
    rw [hpc] at hfollows
    obtain ⟨⟨call, hcall, hpath, hmade⟩, hne⟩ := hfollows
    refine ⟨trivial, hs.genuine, hs.throws, fun g st result hr => ?_⟩
    rcases reported_succeededCurrent hr with hr | ⟨rfl, hcurrent, hst⟩
    · exact hold g st result hr
    · obtain ⟨hexecuting, hmessage⟩ := hmade g hcurrent
      exact .inl ⟨hst, rfl, hne, call, hcall, hpath, hexecuting, message_effect he g _ hmessage⟩
  | failed hpc =>
    rw [hpc] at hfollows
    refine ⟨trivial, hs.genuine, hs.throws, fun g st result hr => ?_⟩
    rcases reported_terminateCurrent hr with hr | ⟨hgiven, hcurrent, hst⟩
    · exact hold g st result hr
    · refine .inr ⟨hst, .inr ?_⟩
      rw [hgiven]
      exact (hfollows g hcurrent).keep (message_effect he) (fun _ hcall => hcall) fun _ ht => ht
  | ended _ =>
    refine ⟨trivial, hs.genuine, hs.throws, fun g st result hr => ?_⟩
    rcases reported_call (by simp) hr with hr | ⟨hgiven, hst⟩
    · exact hold g st result hr
    · exact .inr ⟨hst, .inl hgiven⟩

theorem planInv_effect {s s' : PlanState D}
    {l : CallbackLabel (PlanGoal D) (ComputePathResult (Path D)) (PlanLabel D)}
    (hinv : CallbackInv (computePlan config) s) (hs : PlanInv config s)
    (h : CallbackEffect (computePlan config) s l s') : PlanInv config s' := by
  cases h with
  | @bystander l server hl _ he =>
    have hne : ∀ c, l ≠ .call c := by
      rintro c rfl
      cases hl
    exact planInv_party hs he hne (follows_bystander hinv hs he hl)
  | entered _ he => exact planInv_party hs he nofun trivial
  | passed _ he => exact planInv_party hs he nofun (follows_bystander hinv hs he rfl)
  | returned _ he => exact planInv_party hs he nofun trivial
  | threw hthrows _ => cases hthrows
  | moved hnext => exact planInv_moved hs (planMoves_of_next hnext)
  | called hnext => exact planInv_called hs (planMoves_of_next hnext)

theorem planInv_of_reach {C : PlanState D → _ → Prop} {s : PlanState D}
    (h : (computePlan config).system.Reach C s) :
    CallbackInv (computePlan config) s ∧ PlanInv config s :=
  CallbackProgram.invariant h (PlanInv config) planInv_initial
    fun _ _ _ hinv _ hs _ he => planInv_effect hinv hs he

/-! ## Results -/

/-- **A success is a plan for its own goal.** In every interleaving, a goal
that has succeeded got without an error a path that is not empty, and that
the planner it asks for has returned for its request, from its start to its
goal in the global frame, while it was the current goal. -/
theorem planned_path_sound {s : PlanState D}
    (h : (computePlan config).system.Reach Transition.System.anyStep s) {g : GoalId}
    {result : ComputePathResult (Path D)}
    (hr : (g, .succeeded, result) ∈ s.server.server.results) :
    result.error = ⟨0, ""⟩ ∧ result.path.poses ≠ [] ∧
      ∃ call ∈ s.members.calls, call.path = result.path ∧ call.MadeFor s.server g ∧
        call.Genuine config := by
  have hs := (planInv_of_reach h).2
  rcases hs.settled g _ result hr with ⟨_, herror, hpath, call, hcall, hsame, hmade⟩ | ⟨hst, _⟩
  · exact ⟨herror, hpath, call, hcall, hsame, hmade, hs.genuine call hcall⟩
  · exact absurd rfl hst

/-- No handler reports that there was no error. -/
theorem PlanException.errorCode_ne_zero (e : PlanException) : e.errorCode ≠ 0 := by
  cases e <;> decide

/-- **What the other results say.** In every interleaving, the state of a
goal can be told from its result: it has succeeded exactly if there is a
path and no error. Otherwise the result is the empty one, or it is what a
handler makes of an exception that was thrown while this was the current
goal, at its request or at a path planned for it. It has no path then unless
publishing the path has thrown. -/
theorem failed_plan_result {s : PlanState D}
    (h : (computePlan config).system.Reach Transition.System.anyStep s) {g : GoalId}
    {st : GoalStatus} {result : ComputePathResult (Path D)}
    (hr : (g, st, result) ∈ s.server.server.results) :
    (st = .succeeded ↔ result.error.errorCode = 0 ∧ result.path.poses ≠ []) ∧
      (st ≠ .succeeded → result = default ∨
        ∃ t ∈ s.members.thrown, t.ThrownFor s.server s.members.calls g ∧
          t.stage.Throws config t.exception t.what ∧ result = t.result) := by
  have hinv := (planInv_of_reach h).2
  rcases hinv.settled g st result hr with
    ⟨hst, herror, hpath, _⟩ | ⟨hst, hdefault | hfailed⟩
  · have hcode : result.error.errorCode = 0 := by rw [herror]
    exact ⟨iff_of_true hst ⟨hcode, hpath⟩, fun hne => absurd hst hne⟩
  · have hempty : ¬ (result.error.errorCode = 0 ∧ result.path.poses ≠ []) := by
      rintro ⟨_, hpath⟩
      rw [hdefault] at hpath
      exact hpath rfl
    exact ⟨iff_of_false hst hempty, fun _ => .inl hdefault⟩
  · obtain ⟨t, ht, hfor, hresult⟩ := hfailed
    have hcode : result.error.errorCode ≠ 0 := by
      rw [hresult]
      exact t.exception.errorCode_ne_zero
    exact ⟨iff_of_false hst fun hboth => hcode hboth.1,
      fun _ => .inr ⟨t, ht, hfor, hinv.throws t ht, hresult⟩⟩

/-! ## Null pointers -/

/-- No deadline of `deactivate()` is missed. -/
def InTime (_ : PlanState D) :
    CallbackLabel (PlanGoal D) (ComputePathResult (Path D)) (PlanLabel D) → Prop
  | .server .deactivateDeadline => False
  | _ => True

/-- There is a goal where the callback is going to read one. -/
def HasGoal (s : PlanActionServer D) : PlanPc D → Prop
  | .start => s.server.currentHandle.isSome = true
  | .testActive goal | .testCancel goal | .testPreempt goal | .reading goal => goal.isSome = true
  | .accepting => s.server.pendingHandle.isSome = true
  | .crashed => False
  | _ => True

/-- A set current slot has a goal message. -/
theorem getCurrentGoal_isSome {s : PlanActionServer D} (hs : ServerInv s)
    (h : s.server.currentHandle.isSome = true) : s.server.getCurrentGoal.isSome = true := by
  obtain ⟨g, hg⟩ := Option.isSome_iff_exists.mp h
  have hact : s.server.active g = true := (hs.slots.slots.active_iff g).mpr (.inr (.inl hg))
  simp [SimpleActionServer.getCurrentGoal, SimpleActionServer.goalOf, hg, hact,
    SimpleActionServer.isSome_of_active hact]

/-- `accept_pending_goal` returns the message of a pending goal. -/
theorem acceptPendingGoal_isSome {s : PlanActionServer D} (hs : ServerInv s)
    (h : s.server.pendingHandle.isSome = true) : s.server.acceptPendingGoal.2.isSome = true := by
  obtain ⟨p, hp⟩ := Option.isSome_iff_exists.mp h
  rw [hs.slots.acceptPendingGoal_some hp]
  exact hs.slots.getPendingGoal_isSome hp

/-- Another party that is in time takes no goal away. -/
theorem hasGoal_bystander {s : PlanState D} (hinv : CallbackInv (computePlan config) s)
    {l : Label (PlanGoal D) (ComputePathResult (Path D))} {server : PlanActionServer D}
    (hs : HasGoal s.server s.members.pc) (hl : l.ofCallback = false)
    (htime : l ≠ .deactivateDeadline) (he : Effect s.server l server) :
    HasGoal server s.members.pc := by
  have hworker : s.members.pc.isIdle = false → s.server.workers.getLast? = some .executing :=
    hinv.inCallback.mp
  cases hpc : s.members.pc with
  | start =>
    rw [hpc] at hs
    rcases current_bystander hinv.server he hl (hworker (by rw [hpc]; rfl)) with hsame | ⟨hd, _⟩
    · show server.server.currentHandle.isSome = true
      rw [hsame]
      exact hs
    · exact absurd hd htime
  | accepting =>
    rw [hpc] at hs
    rcases pending_bystander hinv.server he hl (hworker (by rw [hpc]; rfl)) hs with hsome | hd
    · exact hsome
    · exact absurd hd htime
  | _ => rw [hpc] at hs; exact hs

theorem hasGoal_moves {s : PlanActionServer D} (hinv : ServerInv s) {x x' : PlanMembers D}
    {c : Option (Call (ComputePathResult (Path D)))} (hs : HasGoal s x.pc)
    (h : PlanMoves config s x x' c) : HasGoal (afterCall s c) x'.pc := by
  cases h with
  | got hpc => rw [hpc] at hs; exact getCurrentGoal_isSome hinv hs
  | active hpc _ => rw [hpc] at hs; exact hs
  | notCanceled hpc => rw [hpc] at hs; exact hs
  | preempted _ hpre => exact hinv.slots.preempt.symm.trans hpre
  | kept hpc => rw [hpc] at hs; exact hs
  | accepted hpc => rw [hpc] at hs; exact acceptPendingGoal_isSome hinv hs
  | crashes hpc => rw [hpc] at hs; cases hs
  | _ => trivial

theorem hasGoal_effect {s s' : PlanState D}
    {l : CallbackLabel (PlanGoal D) (ComputePathResult (Path D)) (PlanLabel D)}
    (hinv : CallbackInv (computePlan config) s) (hs : HasGoal s.server s.members.pc)
    (hc : InTime s l) (h : CallbackEffect (computePlan config) s l s') :
    HasGoal s'.server s'.members.pc := by
  cases h with
  | bystander hl _ he =>
    refine hasGoal_bystander hinv hs hl ?_ he
    rintro rfl
    exact hc
  | entered hloop he =>
    -- the loop condition has seen an active current goal
    have hcurrent : s.server.server.currentHandle.isSome = true := by
      simp only [loopCondition, Bool.and_eq_true] at hloop
      rw [← hinv.server.slots.slots.isActive_current]
      exact hloop.2
    cases he
    exact hcurrent
  | passed _ he => exact hasGoal_bystander hinv hs rfl (by simp) he
  | returned _ _ => trivial
  | threw hthrows _ => cases hthrows
  | moved hnext => exact hasGoal_moves hinv.server hs (planMoves_of_next hnext)
  | called hnext => exact hasGoal_moves hinv.server hs (planMoves_of_next hnext)

/-- The worker is in front of `goal->goal` with a null pointer: the pending
goal has been terminated between `is_preempt_requested` and
`accept_pending_goal`. -/
def lostGoal (request : PlanGoal D) :
    List (CallbackLabel (PlanGoal D) (ComputePathResult (Path D)) (PlanLabel D)) :=
  [.server .activate, .server (.goalRequest 0 request), .server (.goalAccepted 0),
    .server (.testGuard 0), .server (.goalRequest 1 request), .server (.goalAccepted 1),
    .own .getCurrentGoal, .own .testActive, .own .testCancel, .own .testPreempt,
    .server .deactivate, .server .deactivateDeadline, .own .acceptPendingGoal, .own .readGoal]

/-- **Null pointers.** As long as no deadline of `deactivate()` is missed,
`computePlan()` reads no goal through a null pointer, in any interleaving
of new goals, preemptions and cancellations. A missed deadline can make it
do so, whatever is requested. -/
theorem null_goal_only_after_deadline (config : PlanConfig D) (request : PlanGoal D) :
    (∀ s, (computePlan config).system.Reach InTime s → s.members.pc ≠ .crashed) ∧
      ∃ s, (computePlan config).system.run (computePlan config).initialState (lostGoal request) =
        some s ∧ s.members.pc = .crashed := by
  constructor
  · intro s h hcrashed
    have hs : HasGoal s.server s.members.pc :=
      (CallbackProgram.invariant h (fun s => HasGoal s.server s.members.pc) trivial
        fun _ _ _ hinv _ hs hc he => hasGoal_effect hinv hs hc he).2
    rw [hcrashed] at hs
    exact hs
  · exact ⟨_, rfl, rfl⟩

/-! ## What is left behind -/

/-- The callback returns with an empty current slot, or on a server that is
not active. -/
def ReturnsEmpty (s : PlanState D) : Prop :=
  s.members.pc = .returning →
    s.server.server.currentHandle = none ∨ s.server.server.serverActive = false

theorem returnsEmpty_moves {s : PlanActionServer D} (hinv : ServerInv s) {x x' : PlanMembers D}
    {c : Option (Call (ComputePathResult (Path D)))} (h : PlanMoves config s x x' c)
    (hret : x'.pc = .returning) :
    (afterCall s c).server.currentHandle = none ∨ (afterCall s c).server.serverActive = false := by
  cases h with
  | inactive _ hoff => exact .inr hoff
  | @succeeded path _ => exact .inl (SimpleActionServer.currentHandle_succeededCurrent hinv.slots _)
  | @failed result _ =>
    exact .inl (SimpleActionServer.currentHandle_terminateCurrent hinv.slots result)
  | ended _ => exact .inl (SimpleActionServer.slot_terminateAll hinv.slots _ .current)
  | _ => cases hret

theorem returnsEmpty_effect {s s' : PlanState D}
    {l : CallbackLabel (PlanGoal D) (ComputePathResult (Path D)) (PlanLabel D)}
    (hinv : CallbackInv (computePlan config) s) (hs : ReturnsEmpty s)
    (h : CallbackEffect (computePlan config) s l s') : ReturnsEmpty s' := by
  intro hret
  cases h with
  | bystander hl _ he =>
    have hw : s.server.workers.getLast? = some .executing :=
      hinv.inCallback.mp (PlanPc.not_idle_of_returning (by rw [hret]; rfl))
    rcases hs hret with hnone | hoff
    · rcases (bystander_effect hinv.server he hl hw).2 with hsame | hnone'
      · exact .inl (hsame.trans hnone)
      · exact .inl hnone'
    · exact .inr (inactive_effect hinv.active hw he hoff)
  | entered _ _ => cases hret
  | passed _ he =>
    cases he
    exact hs hret
  | returned _ _ => cases hret
  | threw hthrows _ => cases hthrows
  | moved hnext => exact returnsEmpty_moves hinv.server (planMoves_of_next hnext) hret
  | called hnext => exact returnsEmpty_moves hinv.server (planMoves_of_next hnext) hret

/-- **Nothing is left behind.** Whenever `computePlan()` returns and its
server is active, every goal that it has been handed has been answered with
exactly one result, of the state it has ended in, unless it is the pending
goal, for which `work()` will call the callback again. -/
theorem computePlan_leaves_no_goal {s s' : PlanState D} {i : Nat}
    (h : (computePlan config).system.Reach Transition.System.anyStep s)
    (hstep : (computePlan config).step s (.server (.callbackReturn i)) = some s')
    (hactive : s'.server.server.serverActive = true) (g : GoalId) (hg : s'.server.Accepted g)
    (hpending : s'.server.server.pendingHandle ≠ some g) :
    (s'.server.server.status g).isTerminal = true ∧
      ∃ r, (g, s'.server.server.status g, r) ∈ s'.server.server.results ∧
        ∀ st' r', (g, st', r') ∈ s'.server.server.results →
          st' = s'.server.server.status g ∧ r' = r := by
  obtain ⟨hinv, hs⟩ := CallbackProgram.invariant h ReturnsEmpty nofun
    fun _ _ _ hinv _ hs _ he => returnsEmpty_effect hinv hs he
  have hreach : (computePlan config).system.Reach Transition.System.anyStep s' :=
    .step (l := .server (.callbackReturn i)) h trivial hstep
  have hinv' := (planInv_of_reach hreach).1
  -- the return leaves the slots
  have hcurrent : s'.server.server.currentHandle = none := by
    cases CallbackProgram.effect_of_step hinv.server hstep with
    | bystander hl _ _ => cases hl
    | returned hret he =>
      have hpc : s.members.pc = .returning := by
        cases hpc : s.members.pc with
        | returning => rfl
        | _ => rw [show (computePlan config).returns s.members = s.members.pc.isReturning from rfl,
            hpc] at hret; cases hret
      cases he
      rcases hs hpc with hnone | hoff
      · exact hnone
      · rw [show s.server.server.serverActive = true from hactive] at hoff
        cases hoff
  rcases every_goal_answered (CallbackProgram.server_reach hreach) hg.1 with ⟨hact, _⟩ | hanswered
  · rcases (slotProperty_of_serverInv hinv'.server).placed g hg hact with hplace | hplace
    · rw [hcurrent] at hplace
      cases hplace
    · exact absurd hplace hpending
  · exact hanswered

end Planned

/-! ## A run -/

/-- A server with one planner, whose robot is at the origin. -/
def oneSystem : PlanConfig Int where
  planners := ⟨["GridBased"], by decide, "", fun id => if id = "GridBased" then some .other else none⟩
  globalFrame := "map"
  tf := ⟨fun _ _ => none, fun _ => some ⟨⟨0, "map"⟩, ⟨0, 0, 0⟩, ⟨0, 0, 0, 1⟩⟩⟩

/-- One metre up. -/
def above : PoseStamped Int := ⟨⟨0, "map"⟩, ⟨0, 0, 1⟩, ⟨0, 0, 0, 1⟩⟩

def planAbove : PlanGoal Int := ⟨above, above, "", false⟩

/-- Goal 0 gets a path, and goal 1 an exception. -/
def plannedRun :
    List (CallbackLabel (PlanGoal Int) (ComputePathResult (Path Int)) (PlanLabel Int)) :=
  [.server .activate, .server (.goalRequest 0 planAbove), .server (.goalAccepted 0),
    .server (.testGuard 0), .own .getCurrentGoal, .own .testActive, .own .testCancel,
    .own .testPreempt, .own .readGoal, .own .cancelCheck, .own (.locate 0 0 0), .own .cancelCheck,
    .own (.createPlan (.ok ⟨⟨0, "map"⟩, [above]⟩)), .own .cancelCheck, .own (.publish none),
    .server (.goalRequest 1 planAbove), .server (.goalAccepted 1), .own .succeededCurrent,
    .server (.callbackReturn 0), .server (.endOfIteration 0), .server (.testGuard 0),
    .own .getCurrentGoal, .own .testActive, .own .testCancel, .own .testPreempt, .own .readGoal,
    .own .cancelCheck, .own (.locate 0 0 0), .own .cancelCheck,
    .own (.createPlan (.error (.plannerTimedOut, "Planner timed out"))), .own .terminateCurrent]

/-- The results of the run. -/
def plannedResults : List (GoalId × GoalStatus × ComputePathResult (Path Int)) :=
  [(0, .succeeded, ⟨⟨⟨0, "map"⟩, [above]⟩, ⟨0, ""⟩⟩),
    (1, .aborted, ⟨default, ⟨207, "Planner timed out"⟩⟩)]

theorem exists_planned : ∃ s s' : PlanState Int,
    (computePlan oneSystem).system.Reach Transition.System.anyStep s ∧
    s.server.server.results = plannedResults ∧
    (computePlan oneSystem).step s (.server (.callbackReturn 0)) = some s' ∧
    s'.server.server.serverActive = true ∧ s'.server.Accepted 1 ∧
    s'.server.server.pendingHandle ≠ some 1 := by
  obtain ⟨s, hr, hs⟩ := Transition.System.exists_reach_of_runWhile
    (S := (computePlan oneSystem).system) Transition.System.anyStep plannedRun
    (fun s => decide (s.server.server.results = plannedResults) &&
      ((computePlan oneSystem).step s (.server (.callbackReturn 0))).any fun s' : PlanState Int =>
        decide (s'.server.server.serverActive = true ∧
          ((s'.server.server.handles 1).isSome = true ∧ 1 ∉ s'.server.transit) ∧
          s'.server.server.pendingHandle ≠ some 1))
    rfl (by decide +kernel)
  rw [Bool.and_eq_true, decide_eq_true_eq, Option.any_eq_true] at hs
  obtain ⟨hresults, s', hstep, hs'⟩ := hs
  rw [decide_eq_true_eq] at hs'
  exact ⟨s, s', hr, hresults, hstep, hs'.1, hs'.2.1, hs'.2.2⟩

theorem planned_path_sound_above : ∃ s : PlanState Int,
    (computePlan oneSystem).system.Reach Transition.System.anyStep s ∧
    ∃ call ∈ s.members.calls, call.path.poses = [above] ∧ call.MadeFor s.server 0 ∧
      call.Genuine oneSystem := by
  obtain ⟨s, s', hr, hresults, _⟩ := exists_planned
  have hmem : (0, GoalStatus.succeeded, ⟨⟨⟨0, "map"⟩, [above]⟩, ⟨0, ""⟩⟩) ∈
      s.server.server.results := by
    rw [hresults]
    exact List.mem_cons_self
  obtain ⟨_, _, call, hcall, hpath, hmade, hgenuine⟩ := planned_path_sound hr hmem
  exact ⟨s, hr, call, hcall, by rw [hpath], hmade, hgenuine⟩

theorem failed_plan_result_timeout : ∃ s : PlanState Int,
    (computePlan oneSystem).system.Reach Transition.System.anyStep s ∧
    ∃ t ∈ s.members.thrown, t.ThrownFor s.server s.members.calls 1 ∧
      t.stage.Throws oneSystem t.exception t.what ∧
      t.result = ⟨default, ⟨207, "Planner timed out"⟩⟩ := by
  obtain ⟨s, s', hr, hresults, _⟩ := exists_planned
  have hmem : (1, GoalStatus.aborted, ⟨default, ⟨207, "Planner timed out"⟩⟩) ∈
      s.server.server.results := by
    rw [hresults]
    exact List.mem_cons_of_mem _ List.mem_cons_self
  rcases (failed_plan_result hr hmem).2 (by decide) with hdefault | ⟨t, ht, hfor, hthrows, hresult⟩
  · cases hdefault
  · exact ⟨s, hr, t, ht, hfor, hthrows, hresult.symm⟩

theorem computePlan_leaves_no_goal_above : ∃ s' : PlanState Int,
    (s'.server.server.status 1).isTerminal = true := by
  obtain ⟨s, s', hr, _, hstep, hactive, haccepted, hpending⟩ := exists_planned
  exact ⟨s', (computePlan_leaves_no_goal hr hstep hactive 1 haccepted hpending).1⟩

end Nav3D.Planner

/-
Nav3D.Util.ActionServerResults — the results that goals are ended with.

A step adds a result for each goal that it ends. The calls of the execute
callback pass it on, every other step gives `empty_result()`
(`givenResult`). A goal ends SUCCEEDED by `succeeded_current` alone, and
then it is the current goal (`reported_effect`). The results are complete:
every goal that rclcpp_action knows is active or has been given its one
result, with the state that its handle is in (`every_goal_answered`).
-/
import Nav3D.Util.ActionServerGoals

namespace Nav3D.Util

open Nav3D.Ros

variable {Goal Result : Type}

namespace SimpleActionServer

variable {s s' s'' : SimpleActionServer Goal Result} {r : Result}

/-- From `s` to `s'` goals have been ended with `r`, none of them well. -/
def Reports (r : Result) (s s' : SimpleActionServer Goal Result) : Prop :=
  ∀ g st r', (g, st, r') ∈ s'.results → (g, st, r') ∈ s.results ∨ r' = r ∧ st ≠ .succeeded

theorem Reports.of_results (h : s'.results = s.results) : Reports r s s' := by
  intro g st r' hr
  rw [h] at hr
  exact .inl hr

theorem Reports.trans (h : Reports r s s') (h' : Reports r s' s'') : Reports r s s'' := by
  intro g st r' hr
  rcases h' g st r' hr with hold | hnew
  · exact h g st r' hold
  · exact .inr hnew

/-- The slots do not matter. -/
theorem Reports.congr (h : Reports r s s') (hresults : s''.results = s'.results) :
    Reports r s s'' :=
  h.trans (.of_results hresults)

theorem reports_finish (g : GoalId) (st : GoalStatus) (hst : st ≠ .succeeded)
    (hresults : s'.results = (s.finish g st r).results) : Reports r s s' := by
  intro g' st' r' hr
  rw [hresults] at hr
  rcases List.mem_append.mp hr with hold | hnew
  · exact .inl hold
  · rw [List.mem_singleton, Prod.mk.injEq, Prod.mk.injEq] at hnew
    obtain ⟨_, rfl, rfl⟩ := hnew
    exact .inr ⟨rfl, hst⟩

theorem reports_terminate (s : SimpleActionServer Goal Result) (sl : Slot) (r : Result) :
    Reports r s (s.terminate sl r) := by
  unfold terminate
  split
  · exact .of_results rfl
  · next g _ =>
    split
    · have hst : (if s.isCanceling g then GoalStatus.canceled else .aborted) ≠ .succeeded := by
        split <;> decide
      exact reports_finish g _ hst (by cases sl <;> rfl)
    · exact .of_results rfl

theorem reports_terminateAll (s : SimpleActionServer Goal Result) (r : Result) :
    Reports r s (s.terminateAll r) :=
  ((reports_terminate s .current r).trans (reports_terminate _ .pending r)).congr rfl

theorem results_cancelGoal (s : SimpleActionServer Goal Result) (g : GoalId) :
    (s.cancelGoal g).results = s.results := by
  unfold cancelGoal
  split <;> rfl

variable [Inhabited Result]

theorem reports_terminatePendingGoal (s : SimpleActionServer Goal Result) :
    Reports emptyResult s s.terminatePendingGoal := by
  unfold terminatePendingGoal
  split
  · exact (reports_terminate s .pending emptyResult).congr rfl
  · exact .of_results rfl

theorem reports_park (s : SimpleActionServer Goal Result) (g : GoalId) :
    Reports emptyResult s (s.park g) := by
  unfold park
  dsimp only
  split
  · exact (reports_terminate s .pending emptyResult).congr rfl
  · exact .of_results rfl

theorem reports_launch (s : SimpleActionServer Goal Result) (g : GoalId) :
    Reports emptyResult s (s.launch g) := by
  unfold launch
  dsimp only
  split
  · exact (reports_terminate s .pending emptyResult).congr rfl
  · exact .of_results rfl

theorem reports_acceptPendingGoal (s : SimpleActionServer Goal Result) :
    Reports emptyResult s s.acceptPendingGoal.1 := by
  unfold acceptPendingGoal
  split
  · unfold acceptPending
    split
    · exact .of_results rfl
    · next c _ =>
      split
      · exact reports_finish c .aborted (by decide) rfl
      · exact .of_results rfl
  · exact .of_results rfl

theorem reports_endOfIteration (s : SimpleActionServer Goal Result) :
    Reports emptyResult s s.endOfIteration.1 := by
  unfold endOfIteration
  split
  · exact reports_terminateAll s emptyResult
  · have hcurrent := reports_terminate s .current (emptyResult : Result)
    dsimp only
    split
    · exact hcurrent.trans (reports_acceptPendingGoal _)
    · exact hcurrent

end SimpleActionServer

open SimpleActionServer

/-! ## Steps -/

variable [Inhabited Result]

/-- The result that a step gives the goals it ends. -/
def givenResult : Label Goal Result → Result
  | .call (.terminateAll r) => r
  | .call (.terminateCurrent r) => r
  | .call (.succeededCurrent r) => r
  | _ => emptyResult

/-- A result that a step adds is the one that it gives. The goal has ended
SUCCEEDED exactly if it was the current one of a call of
`succeeded_current`. -/
theorem reported_effect {s s' : ActionServerState Goal Result} {l : Label Goal Result}
    (he : Effect s l s') {g : GoalId} {st : GoalStatus} {r : Result}
    (hr : (g, st, r) ∈ s'.server.results) :
    (g, st, r) ∈ s.server.results ∨ r = givenResult l ∧
      ((∀ r', l ≠ .call (.succeededCurrent r')) ∧ st ≠ .succeeded ∨
        l = .call (.succeededCurrent r) ∧ s.server.currentHandle = some g ∧ st = .succeeded) := by
  have hother (hreports : Reports (givenResult l) s.server s'.server)
      (hl : ∀ r', l ≠ .call (.succeededCurrent r')) :
      (g, st, r) ∈ s.server.results ∨ r = givenResult l ∧
        ((∀ r', l ≠ .call (.succeededCurrent r')) ∧ st ≠ .succeeded ∨
          l = .call (.succeededCurrent r) ∧ s.server.currentHandle = some g ∧ st = .succeeded) :=
    (hreports g st r hr).imp_right fun hnew => ⟨hnew.1, .inl ⟨hl, hnew.2⟩⟩
  cases he with
  | goalRequested g' goal _ _ => exact .inl hr
  | parked g' _ _ => exact hother (reports_park _ g') nofun
  | launched g' _ _ _ => exact hother (reports_launch _ g') nofun
  | cancelRequested g' _ => exact hother (.of_results (results_cancelGoal _ g')) nofun
  | deadlineMissed _ _ => exact hother (reports_terminateAll _ _) nofun
  | called c =>
    cases c with
    | acceptPendingGoal => exact hother (reports_acceptPendingGoal _) (by simp)
    | terminatePendingGoal => exact hother (reports_terminatePendingGoal _) (by simp)
    | terminateAll r' => exact hother (reports_terminateAll _ r') (by simp)
    | terminateCurrent r' => exact hother (reports_terminate _ .current r') (by simp)
    | succeededCurrent r' =>
      have hmem : (g, st, r) ∈ (s.server.succeededCurrent r').results := hr
      unfold succeededCurrent at hmem
      split at hmem
      · exact .inl hmem
      · next c hc =>
        split at hmem
        · rcases List.mem_append.mp hmem with hold | hnew
          · exact .inl hold
          · rw [List.mem_singleton, Prod.mk.injEq, Prod.mk.injEq] at hnew
            obtain ⟨rfl, rfl, rfl⟩ := hnew
            exact .inr ⟨rfl, .inr ⟨rfl, hc, rfl⟩⟩
        · exact .inl hmem
  | iterationEnded us _ _ => exact hother (reports_endOfIteration _) nofun
  | exceptionHandled us _ _ => exact hother (reports_terminateAll _ _) nofun
  | _ => exact .inl hr

/-- Every step keeps the messages. -/
theorem message_effect {s s' : ActionServerState Goal Result} {l : Label Goal Result}
    (he : Effect s l s') (g : GoalId) (goal : Goal) (h : s.server.message g = some goal) :
    s'.server.message g = some goal := by
  have hgoals := goalsEffect_of_effect he
  generalize s'.server = server at hgoals ⊢
  cases hgoals with
  | ended hends => exact (hends.message_eq g).trans h
  | added hfresh => exact (keepsGoals_addHandle _ hfresh _).message g goal h
  | canceling _ => exact (keepsGoals_cancelGoal _ _).message g goal h
  | activated _ => exact h
  | deactivated _ => exact h

/-- A step of another party gives empty results, and no goal ends well by
it. -/
theorem reported_bystander {s s' : ActionServerState Goal Result} {l : Label Goal Result}
    (he : Effect s l s') (hl : ∀ c, l ≠ .call c) {g : GoalId} {st : GoalStatus} {r : Result}
    (hr : (g, st, r) ∈ s'.server.results) :
    (g, st, r) ∈ s.server.results ∨ r = emptyResult ∧ st ≠ .succeeded := by
  rcases reported_effect he hr with hold | ⟨hgiven, ⟨_, hst⟩ | ⟨hcall, _⟩⟩
  · exact .inl hold
  · refine .inr ⟨hgiven.trans ?_, hst⟩
    cases l with
    | call c => exact absurd rfl (hl c)
    | _ => rfl
  · exact absurd hcall (hl _)

/-- Neither does one by a call other than `succeeded_current`. -/
theorem reported_call {s : ActionServerState Goal Result} {c : Call Result}
    (hc : ∀ r, c ≠ .succeededCurrent r) {g : GoalId} {st : GoalStatus} {r : Result}
    (hr : (g, st, r) ∈ (c.apply s.server).results) :
    (g, st, r) ∈ s.server.results ∨
      r = givenResult (.call c : Label Goal Result) ∧ st ≠ .succeeded := by
  have he : Effect s (.call c) { s with server := c.apply s.server } := .called c
  rcases reported_effect he hr with hold | ⟨hgiven, ⟨_, hst⟩ | ⟨hcall, _⟩⟩
  · exact .inl hold
  · exact .inr ⟨hgiven, hst⟩
  · exact absurd (Label.call.inj hcall) (hc r)

theorem reported_succeededCurrent {s : ActionServerState Goal Result} {r' : Result} {g : GoalId}
    {st : GoalStatus} {r : Result} (hr : (g, st, r) ∈ (s.server.succeededCurrent r').results) :
    (g, st, r) ∈ s.server.results ∨
      r = r' ∧ s.server.currentHandle = some g ∧ st = .succeeded := by
  have he : Effect s (.call (.succeededCurrent r'))
      { s with server := s.server.succeededCurrent r' } := .called _
  rcases reported_effect he hr with hold | ⟨hgiven, ⟨hnot, _⟩ | ⟨_, hcurrent, hst⟩⟩
  · exact .inl hold
  · exact absurd rfl (hnot r')
  · exact .inr ⟨hgiven, hcurrent, hst⟩

omit [Inhabited Result] in
/-- `terminate_current` ends the current goal. -/
theorem reported_terminateCurrent {s : ActionServerState Goal Result} {r' : Result} {g : GoalId}
    {st : GoalStatus} {r : Result} (hr : (g, st, r) ∈ (s.server.terminateCurrent r').results) :
    (g, st, r) ∈ s.server.results ∨
      r = r' ∧ s.server.currentHandle = some g ∧ st ≠ .succeeded := by
  rcases reports_terminate s.server .current r' g st r hr with hold | ⟨hgiven, hst⟩
  · exact .inl hold
  · simp only [terminateCurrent, terminate, slot] at hr
    split at hr
    · exact .inl hr
    · next c hc =>
      split at hr
      · rcases List.mem_append.mp hr with hold | hnew
        · exact .inl hold
        · rw [List.mem_singleton, Prod.mk.injEq] at hnew
          rw [hnew.1]
          exact .inr ⟨hgiven, hc, hst⟩
      · exact .inl hr

/-! ## Completeness -/

namespace SimpleActionServer

omit [Inhabited Result]

variable {s s' : SimpleActionServer Goal Result}

/-- Every known goal is active or has a result, and each result has the
state of its goal, which has ended. -/
structure Answered (s : SimpleActionServer Goal Result) : Prop where
  complete : ∀ g, (s.handles g).isSome = true →
    s.active g = true ∨ ∃ r, (g, s.status g, r) ∈ s.results
  sound : ∀ g st r, (g, st, r) ∈ s.results → s.status g = st ∧ st.isTerminal = true

theorem answered_initial : Answered (initial : SimpleActionServer Goal Result) where
  complete := fun _ h => by cases h
  sound := fun _ _ _ h => by cases h

/-- Only the goals and the results matter. -/
theorem Answered.congr (h : Answered s) (hhandles : s'.handles = s.handles)
    (hresults : s'.results = s.results) : Answered s' := by
  have hstatus : ∀ g, s'.status g = s.status g := by
    intro g
    rw [status, hhandles, status]
  refine ⟨fun g hg => ?_, fun g st r hr => ?_⟩
  · rw [hhandles] at hg
    rw [active, hstatus, hresults]
    exact h.complete g hg
  · rw [hresults] at hr
    rw [hstatus]
    exact h.sound g st r hr

theorem isSome_setStatus (s : SimpleActionServer Goal Result) (g g' : GoalId) (st : GoalStatus) :
    ((s.setStatus g st).handles g').isSome = (s.handles g').isSome := by
  by_cases hg : g' = g
  · subst hg
    cases hh : s.handles g' <;> simp [setStatus, hh]
  · simp [setStatus, hg]

/-- A goal with a result is not active. -/
theorem Answered.inactive (h : Answered s) {g : GoalId} {st : GoalStatus} {r : Result}
    (hr : (g, st, r) ∈ s.results) : s.active g = false := by
  obtain ⟨hst, hterminal⟩ := h.sound g st r hr
  rw [active, hst]
  exact GoalStatus.isActive_of_isTerminal hterminal

/-- A goal that is ended gets its result. -/
theorem Answered.finish (h : Answered s) {g : GoalId} (hact : s.active g = true)
    {st : GoalStatus} (hst : st.isTerminal = true) (r : Result) : Answered (s.finish g st r) := by
  have hstatus : ∀ g', (s.finish g st r).status g' = if g' = g then st else s.status g' := by
    intro g'
    show (s.setStatus g st).status g' = _
    rw [status_setStatus]
    simp [isSome_of_active hact]
  refine ⟨fun g' hg' => ?_, fun g' st' r' hr' => ?_⟩
  · have hknown : (s.handles g').isSome = true := by
      rw [← isSome_setStatus s g g' st]
      exact hg'
    rw [active, hstatus]
    by_cases hg : g' = g
    · subst hg
      right
      rw [if_pos rfl]
      exact ⟨r, List.mem_append_right _ (List.mem_singleton_self _)⟩
    · rw [if_neg hg]
      exact (h.complete g' hknown).imp_right (Exists.imp fun _ => List.mem_append_left _)
  · rw [hstatus]
    rcases List.mem_append.mp hr' with hold | hnew
    · have hne : g' ≠ g := by
        rintro rfl
        rw [h.inactive hold] at hact
        cases hact
      rw [if_neg hne]
      exact h.sound g' st' r' hold
    · rw [List.mem_singleton, Prod.mk.injEq, Prod.mk.injEq] at hnew
      obtain ⟨rfl, rfl, rfl⟩ := hnew
      rw [if_pos rfl]
      exact ⟨rfl, hst⟩

theorem Answered.ends {P : SimpleActionServer Goal Result → GoalId → GoalStatus → Prop}
    (h : Answered s) (he : Ends P s s') : Answered s' := by
  induction he with
  | done hsame => exact h.congr hsame.handles hsame.results
  | finish _ hact hst _ hsame ih =>
    exact (ih.finish hact hst _).congr hsame.handles hsame.results

theorem Answered.addHandle (h : Answered s) {g : GoalId} (hfresh : s.handles g = none)
    (goal : Goal) : Answered (s.addHandle g goal) := by
  have hstatus : ∀ g', g' ≠ g → (s.addHandle g goal).status g' = s.status g' := by
    intro g' hg
    simp [status, SimpleActionServer.addHandle, hg]
  refine ⟨fun g' hg' => ?_, fun g' st r hr => ?_⟩
  · by_cases hg : g' = g
    · subst hg
      left
      simp [active, status, SimpleActionServer.addHandle]
    · have hknown : (s.handles g').isSome = true := by
        simpa [SimpleActionServer.addHandle, hg] using hg'
      rw [active, hstatus g' hg]
      exact h.complete g' hknown
  · have hold : (g', st, r) ∈ s.results := hr
    have hne : g' ≠ g := by
      rintro rfl
      obtain ⟨hst, hterminal⟩ := h.sound g' st r hold
      rw [status, hfresh] at hst
      subst hst
      cases hterminal
    rw [hstatus g' hne]
    exact h.sound g' st r hold

theorem Answered.cancelGoal (h : Answered s) (g : GoalId) : Answered (s.cancelGoal g) := by
  unfold SimpleActionServer.cancelGoal
  split
  · next hexecuting =>
    have hknown : (s.handles g).isSome = true :=
      isSome_of_active (by rw [active, hexecuting]; rfl)
    have hstatus : ∀ g', (s.setStatus g .canceling).status g' =
        if g' = g then .canceling else s.status g' := by
      intro g'
      rw [status_setStatus]
      simp [hknown]
    refine ⟨fun g' hg' => ?_, fun g' st r hr => ?_⟩
    · rw [isSome_setStatus] at hg'
      rw [active, hstatus]
      by_cases hg : g' = g
      · rw [if_pos hg]
        exact .inl rfl
      · rw [if_neg hg]
        exact h.complete g' hg'
    · have hold : (g', st, r) ∈ s.results := hr
      have hne : g' ≠ g := by
        rintro rfl
        have hinactive := h.inactive hold
        rw [active, hexecuting] at hinactive
        cases hinactive
      rw [hstatus, if_neg hne]
      exact h.sound g' st r hold
  · exact h

end SimpleActionServer

theorem answered_effect {s s' : ActionServerState Goal Result} {l : Label Goal Result}
    (h : s.server.Answered) (he : Effect s l s') : s'.server.Answered := by
  have hgoals := goalsEffect_of_effect he
  generalize s'.server = server at hgoals
  cases hgoals with
  | ended hends => exact h.ends hends
  | added hfresh => exact h.addHandle hfresh _
  | canceling _ => exact h.cancelGoal _
  | activated _ => exact h.congr rfl rfl
  | deactivated _ => exact h.congr rfl rfl

/-- **Every goal is answered, once.** Whatever the callback calls and the
parties do, a goal that rclcpp_action knows is active, or the client has
been sent exactly one result for it, which is of the state that its handle
has ended in. -/
theorem every_goal_answered {s : ActionServerState Goal Result}
    (h : (actionServerSystem Goal Result).Reach Transition.System.anyStep s) {g : GoalId}
    (hg : (s.server.handles g).isSome = true) :
    (s.server.active g = true ∧ ∀ st r, (g, st, r) ∉ s.server.results) ∨
    ((s.server.status g).isTerminal = true ∧
      ∃ r, (g, s.server.status g, r) ∈ s.server.results ∧
        ∀ st' r', (g, st', r') ∈ s.server.results → st' = s.server.status g ∧ r' = r) := by
  have hinv : ServerInv s := serverInv_of_reach h
  have hanswered : s.server.Answered := by
    refine (h.invariant (fun s => ServerInv s ∧ s.server.Answered) ?_ ?_).2
    · rintro s rfl
      exact ⟨serverInv_initial, answered_initial⟩
    · intro s l s' hs _ hstep
      have he := effect_of_step hs.1 hstep
      exact ⟨serverInv_effect hs.1 he, answered_effect hs.2 he⟩
  rcases hanswered.complete g hg with hact | ⟨r, hr⟩
  · left
    refine ⟨hact, fun st r hr => ?_⟩
    rw [hanswered.inactive hr] at hact
    cases hact
  · right
    refine ⟨(hanswered.sound _ _ _ hr).2, r, hr, fun st' r' hr' => ?_⟩
    have heq := List.inj_on_of_nodup_map hinv.slots.slots.results_nodup hr' hr rfl
    rw [Prod.mk.injEq, Prod.mk.injEq] at heq
    exact heq.2

/-- Goal 0 is preempted by goal 1, which is canceled while it executes. -/
def answeredRun : List (Label Unit Unit) :=
  [.activate, .goalRequest 0 (), .goalAccepted 0, .testGuard 0, .goalRequest 1 (),
    .goalAccepted 1, .call .acceptPendingGoal, .cancelRequest 1, .cancelGoal 1,
    .call (.terminateAll ())]

theorem every_goal_answered_preempted : ∃ s : ActionServerState Unit Unit,
    (s.server.status 0 = .aborted ∧ s.server.status 1 = .canceled) ∧
    ((s.server.active 1 = true ∧ ∀ st r, (1, st, r) ∉ s.server.results) ∨
      ((s.server.status 1).isTerminal = true ∧
        ∃ r, (1, s.server.status 1, r) ∈ s.server.results ∧
          ∀ st' r', (1, st', r') ∈ s.server.results → st' = s.server.status 1 ∧ r' = r)) := by
  obtain ⟨s, hr, hs⟩ := Transition.System.exists_reach_of_runWhile
    (S := actionServerSystem Unit Unit) Transition.System.anyStep answeredRun
    (fun s => decide (s.server.status 0 = .aborted ∧ s.server.status 1 = .canceled ∧
      (s.server.handles 1).isSome = true)) rfl (by decide)
  rw [decide_eq_true_eq] at hs
  exact ⟨s, ⟨hs.1, hs.2.1⟩, every_goal_answered hr hs.2.2⟩

end Nav3D.Util

/-
Nav3D.Util.ActionServerGoals — the goal messages and the successes of
`SimpleActionServer`.

Every step keeps the message of each goal it knows, and only
`succeeded_current` reports a success (`KeepsGoals`). With the two slots
this gives what the step of another party can do to a goal that a worker is
executing: it stays in the current slot or the slot is emptied
(`bystander_effect`).
-/
import Nav3D.Util.ActionServerEnds

namespace Nav3D.Util

open Nav3D.Ros

variable {Goal Result : Type}

namespace SimpleActionServer

/-- The goal message of goal `g`. -/
def message (s : SimpleActionServer Goal Result) (g : GoalId) : Option Goal :=
  (s.handles g).map (·.goal)

/-- From `s` to `s'` no message changes and no success is reported. -/
structure KeepsGoals (s s' : SimpleActionServer Goal Result) : Prop where
  message : ∀ g goal, s.message g = some goal → s'.message g = some goal
  succeeded : ∀ g r, (g, .succeeded, r) ∈ s'.results → (g, .succeeded, r) ∈ s.results

theorem message_setStatus (s : SimpleActionServer Goal Result) (g g' : GoalId) (st : GoalStatus) :
    (s.setStatus g st).message g' = s.message g' := by
  by_cases hg : g' = g
  · subst hg
    cases hh : s.handles g' <;> simp [setStatus, message, hh]
  · simp [setStatus, message, hg]

section Ended

variable {s s' : SimpleActionServer Goal Result}
  {P : SimpleActionServer Goal Result → GoalId → GoalStatus → Prop}

/-- Goals that are ended keep their messages. -/
theorem Ends.message_eq (h : Ends P s s') (g : GoalId) : s'.message g = s.message g := by
  induction h with
  | done hsame => rw [message, hsame.handles, message]
  | @finish t u g' st _ _ _ _ _ hsame ih =>
    have hfinish : u.message g = (t.setStatus g' st).message g := by
      rw [message, hsame.handles]
      rfl
    rw [hfinish, message_setStatus]
    exact ih

/-- What is reported is what the goals are ended with. -/
theorem Ends.reported (h : Ends P s s') {g : GoalId} {st : GoalStatus} {r : Result}
    (hr : (g, st, r) ∈ s'.results) : (g, st, r) ∈ s.results ∨ ∃ t, P t g st := by
  induction h with
  | done hsame => exact .inl (hsame.results ▸ hr)
  | @finish t u g' st' r' _ _ _ hP hsame ih =>
    rw [hsame.results] at hr
    have hmem : (g, st, r) ∈ t.results ++ [(g', st', r')] := hr
    rcases List.mem_append.mp hmem with hold | hnew
    · exact ih hold
    · rw [List.mem_singleton, Prod.mk.injEq, Prod.mk.injEq] at hnew
      obtain ⟨rfl, rfl, _⟩ := hnew
      exact .inr ⟨t, hP⟩

theorem keepsGoals_of_ends (hP : ∀ t g, ¬ P t g .succeeded) (h : Ends P s s') :
    KeepsGoals s s' where
  message := fun g goal hg => (h.message_eq g).trans hg
  succeeded := by
    intro g r hr
    rcases h.reported hr with hold | ⟨t, hsucceeded⟩
    · exact hold
    · exact absurd hsucceeded (hP t g)

theorem keepsGoals_of_endsByState (h : Ends EndsByState s s') : KeepsGoals s s' := by
  refine keepsGoals_of_ends (fun t g hst => ?_) h
  unfold EndsByState at hst
  split at hst <;> cases hst

end Ended

theorem keepsGoals_addHandle (s : SimpleActionServer Goal Result) {g : GoalId}
    (hfresh : s.handles g = none) (goal : Goal) : KeepsGoals s (s.addHandle g goal) := by
  refine ⟨fun g' goal' hg => ?_, fun _ _ h => h⟩
  have hne : g' ≠ g := by
    rintro rfl
    rw [message, hfresh] at hg
    cases hg
  simp only [message, addHandle, Function.update_of_ne hne]
  exact hg

theorem keepsGoals_cancelGoal (s : SimpleActionServer Goal Result) (g : GoalId) :
    KeepsGoals s (s.cancelGoal g) := by
  unfold cancelGoal
  split
  · exact ⟨fun g' goal hg => by rw [message_setStatus]; exact hg, fun _ _ h => h⟩
  · exact ⟨fun _ _ h => h, fun _ _ h => h⟩

/-- `succeeded_current` keeps the messages and reports the current goal. -/
theorem succeeded_succeededCurrent (s : SimpleActionServer Goal Result) (r : Result) :
    (∀ g goal, s.message g = some goal → (s.succeededCurrent r).message g = some goal) ∧
    ∀ g r', (g, .succeeded, r') ∈ (s.succeededCurrent r).results →
      (g, .succeeded, r') ∈ s.results ∨ s.currentHandle = some g := by
  have hends := ends_succeededCurrent s r
  refine ⟨fun g goal hg => (hends.message_eq g).trans hg, fun g r' hr => ?_⟩
  rcases hends.reported hr with hold | ⟨t, _, hcurrent, _⟩
  · exact .inl hold
  · exact .inr hcurrent

variable [Inhabited Result]

theorem keepsGoals_acceptPendingGoal (s : SimpleActionServer Goal Result) :
    KeepsGoals s s.acceptPendingGoal.1 := by
  refine keepsGoals_of_ends (fun t g hst => ?_) (ends_acceptPendingGoal s)
  cases hst.2.2.2.2

/-- The goal that `accept_pending_goal()` returns is the new current goal. -/
theorem acceptPendingGoal_returns {s : SimpleActionServer Goal Result} {goal : Goal}
    (h : s.acceptPendingGoal.2 = some goal) : ∃ p, s.pendingHandle = some p ∧
      s.acceptPendingGoal.1.currentHandle = some p ∧ s.message p = some goal := by
  unfold acceptPendingGoal at h ⊢
  split at h
  · next hact =>
    rw [if_pos hact]
    cases hp : s.pendingHandle with
    | none => rw [hp] at hact; cases hact
    | some p =>
      refine ⟨p, rfl, (currentHandle_acceptPending s).trans hp, ?_⟩
      simp only [getPendingGoal, goalOf, hp] at h
      split at h
      · exact h
      · cases h
  · cases h

/-- Where it returns no goal, it does nothing. -/
theorem acceptPendingGoal_returns_none {s : SimpleActionServer Goal Result} {transit : List GoalId}
    (hinv : SlotInv s transit) (h : s.acceptPendingGoal.2 = none) : s.acceptPendingGoal.1 = s := by
  cases hp : s.pendingHandle with
  | none => rw [acceptPendingGoal_none hp]
  | some p =>
    rw [hinv.acceptPendingGoal_some hp] at h
    have hsome := hinv.getPendingGoal_isSome hp
    rw [show s.getPendingGoal = none from h] at hsome
    cases hsome

end SimpleActionServer

/-! ## The step of another party -/

variable [Inhabited Result]

open SimpleActionServer

/-- The steps of the thread that is in the execute callback. -/
def Label.ofCallback : Label Goal Result → Bool
  | .call _ | .callbackReturn _ | .callbackThrow _ => true
  | _ => false

/-- Any step but a call of the callback keeps the messages and reports no
success. -/
theorem keepsGoals_effect {s s' : ActionServerState Goal Result} {l : Label Goal Result}
    (he : Effect s l s') (hl : l.ofCallback = false) : KeepsGoals s.server s'.server := by
  have hgoals := goalsEffect_of_effect he
  generalize s'.server = server at hgoals
  cases hgoals with
  | ended h =>
    have hrule : endRule s l = EndsByState := by
      cases l with
      | call c => cases hl
      | _ => rfl
    rw [hrule] at h
    exact keepsGoals_of_endsByState h
  | added hfresh => exact keepsGoals_addHandle _ hfresh _
  | canceling _ => exact keepsGoals_cancelGoal _ _
  | activated _ => exact ⟨fun _ _ h => h, fun _ _ h => h⟩
  | deactivated _ => exact ⟨fun _ _ h => h, fun _ _ h => h⟩

/-- What a step of another party leaves of the goal that is executed: the
worker stays in the callback, and the current slot keeps its goal or is
emptied. -/
theorem bystander_effect {s s' : ActionServerState Goal Result} {l : Label Goal Result}
    (hs : ServerInv s) (he : Effect s l s') (hl : l.ofCallback = false)
    (hw : s.workers.getLast? = some .executing) :
    s'.workers.getLast? = some .executing ∧
      (s'.server.currentHandle = s.server.currentHandle ∨ s'.server.currentHandle = none) := by
  -- the newest worker is elsewhere
  have elsewhere : ∀ {us : List WorkerPc} {pc : WorkerPc}, s.workers = us ++ [pc] →
      pc = .executing := by
    intro us pc hus
    rw [hus, List.getLast?_concat] at hw
    exact Option.some.inj hw
  cases he with
  | parked g _ _ => exact ⟨hw, .inl (currentHandle_park hs.slots g)⟩
  | launched g _ _ hrun =>
    rw [ActionServerState.isRunning, hw] at hrun
    cases hrun
  | cancelRequested g _ =>
    refine ⟨hw, .inl ?_⟩
    show (s.server.cancelGoal g).currentHandle = _
    unfold cancelGoal
    split <;> rfl
  | deadlineMissed _ _ => exact ⟨hw, .inr (slot_terminateAll hs.slots _ .current)⟩
  | called c => cases hl
  | tested us hus _ => cases elsewhere hus
  | callbackReturned us _ _ => cases hl
  | callbackThrew us _ _ => cases hl
  | iterationEnded us hus _ => cases elsewhere hus
  | exceptionHandled us hus _ => cases elsewhere hus
  | exited us hus _ => cases elsewhere hus
  | _ => exact ⟨hw, .inl rfl⟩

/-- Only the test of the `while` condition takes a worker into the callback. -/
theorem enters_effect {s s' : ActionServerState Goal Result} {l : Label Goal Result}
    (he : Effect s l s') (hl : l.ofCallback = false)
    (hw : s.workers.getLast? ≠ some .executing) (hw' : s'.workers.getLast? = some .executing) :
    (∃ i, l = .testGuard i) ∧ loopCondition s = true := by
  cases he with
  | launched g _ _ _ => rw [List.getLast?_concat] at hw'; cases hw'
  | called c => cases hl
  | tested us _ _ =>
    rw [List.getLast?_concat] at hw'
    refine ⟨⟨us.length, rfl⟩, ?_⟩
    by_contra hc
    rw [if_neg hc] at hw'
    cases hw'
  | callbackReturned us _ _ => cases hl
  | callbackThrew us _ _ => cases hl
  | iterationEnded us _ _ =>
    rw [List.getLast?_concat] at hw'
    split at hw' <;> cases hw'
  | exceptionHandled us _ _ => rw [List.getLast?_concat] at hw'; cases hw'
  | exited us _ _ => rw [List.getLast?_concat] at hw'; cases hw'
  | _ => exact absurd hw' hw

/-- No other step of another party takes a worker in or out. -/
theorem executing_effect {s s' : ActionServerState Goal Result} {l : Label Goal Result}
    (hs : ServerInv s) (he : Effect s l s') (hl : l.ofCallback = false)
    (htest : ∀ i, l ≠ .testGuard i) :
    s'.workers.getLast? = some .executing ↔ s.workers.getLast? = some .executing := by
  constructor
  · intro hw'
    by_contra hw
    obtain ⟨⟨i, hi⟩, _⟩ := enters_effect he hl hw hw'
    exact htest i hi
  · intro hw
    exact (bystander_effect hs he hl hw).1

/-- A worker that tests the condition is not in the callback. -/
theorem outside_of_testGuard {s s' : ActionServerState Goal Result} {i : Nat}
    (he : Effect s (.testGuard i) s') : s.workers.getLast? ≠ some .executing := by
  intro hw
  cases he with
  | tested us hus _ => rw [hus, List.getLast?_concat] at hw; cases hw

/-- A worker that has returned is not in the callback. -/
theorem outside_of_callbackReturn {s s' : ActionServerState Goal Result} {i : Nat}
    (he : Effect s (.callbackReturn i) s') : s'.workers.getLast? ≠ some .executing := by
  intro hw
  cases he with
  | callbackReturned us _ _ => rw [List.getLast?_concat] at hw; cases hw

/-- A worker that has thrown is not in the callback. -/
theorem outside_of_callbackThrow {s s' : ActionServerState Goal Result} {i : Nat}
    (he : Effect s (.callbackThrow i) s') : s'.workers.getLast? ≠ some .executing := by
  intro hw
  cases he with
  | callbackThrew us _ _ => rw [List.getLast?_concat] at hw; cases hw

/-- The test of the `while` condition decides whether the worker enters. -/
theorem enters_of_testGuard {s s' : ActionServerState Goal Result} {i : Nat}
    (he : Effect s (.testGuard i) s') :
    s'.workers.getLast? = some .executing ↔ loopCondition s = true := by
  cases he with
  | tested us _ _ =>
    rw [List.getLast?_concat]
    split
    · next hc => exact ⟨fun _ => hc, fun _ => rfl⟩
    · next hc => exact ⟨(fun h => by cases h), fun h => absurd h hc⟩

end Nav3D.Util

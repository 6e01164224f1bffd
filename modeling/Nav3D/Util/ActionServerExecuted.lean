/-
Nav3D.Util.ActionServerExecuted — what becomes of a goal that a worker has
executed, once it is no longer the current goal.

A goal leaves the current slot by a terminal transition only, and a goal
that has been current comes into no other place again (`Executed`). So when
the current slot is empty, every goal that was executed has ended
(`Executed.terminal`). A server that is deactivated under a worker stays so
until the worker has left the callback (`inactive_effect`).
-/
import Nav3D.Util.ActionServerDeactivate
import Nav3D.Util.ActionServerGoals

namespace Nav3D.Util

open Nav3D.Ros

variable {Goal Result : Type}

/-! ## Goals stay known -/

namespace SimpleActionServer

variable {s s' s'' : SimpleActionServer Goal Result}

/-- From `s` to `s'` no goal loses its state. -/
def KeepsKnown (s s' : SimpleActionServer Goal Result) : Prop :=
  ∀ g, s.status g ≠ .unknown → s'.status g ≠ .unknown

theorem keepsKnown_setStatus (s : SimpleActionServer Goal Result) (g : GoalId) {st : GoalStatus}
    (hst : st ≠ .unknown) : KeepsKnown s (s.setStatus g st) := by
  intro g' hg'
  rw [status_setStatus]
  split
  · exact hst
  · exact hg'

theorem keepsKnown_addHandle (s : SimpleActionServer Goal Result) (g : GoalId) (goal : Goal) :
    KeepsKnown s (s.addHandle g goal) := by
  intro g' hg'
  by_cases hg : g' = g
  · subst hg; simp [status, addHandle]
  · simpa [status, addHandle, hg] using hg'

theorem keepsKnown_cancelGoal (s : SimpleActionServer Goal Result) (g : GoalId) :
    KeepsKnown s (s.cancelGoal g) := by
  unfold cancelGoal
  split
  · exact keepsKnown_setStatus s g (by decide)
  · intro g' hg'
    exact hg'

theorem keepsKnown_of_ends {P : SimpleActionServer Goal Result → GoalId → GoalStatus → Prop}
    (h : Ends P s s') : KeepsKnown s s' := by
  intro g hg
  induction h with
  | done hsame => rw [hsame.status]; exact hg
  | @finish t u g' st r _ _ hterminal _ hsame ih =>
    have hst : st ≠ .unknown := by
      rintro rfl
      cases hterminal
    rw [hsame.status]
    exact keepsKnown_setStatus t g' hst g ih

/-- `succeeded_current` empties the current slot. -/
theorem currentHandle_succeededCurrent {transit : List GoalId} (h : SlotInv s transit)
    (r : Result) : (s.succeededCurrent r).currentHandle = none := by
  cases hc : s.currentHandle with
  | none => simp [succeededCurrent, hc]
  | some c =>
    have hact : s.active c = true := (h.slots.active_iff c).mpr (.inr (.inl hc))
    simp only [succeededCurrent, hc, hact, if_true]
    rfl

variable [Inhabited Result]

/-- No call of the callback puts a goal into the pending slot. -/
theorem pendingHandle_apply {transit : List GoalId} (h : SlotInv s transit) (c : Call Result) :
    (c.apply s).pendingHandle = s.pendingHandle ∨ (c.apply s).pendingHandle = none := by
  cases c with
  | acceptPendingGoal =>
    show s.acceptPendingGoal.1.pendingHandle = _ ∨ s.acceptPendingGoal.1.pendingHandle = _
    cases hp : s.pendingHandle with
    | none => rw [acceptPendingGoal_none hp]; exact .inl hp
    | some p => rw [h.acceptPendingGoal_some hp]; exact .inr rfl
  | terminatePendingGoal => exact .inr (pendingHandle_terminatePendingGoal h)
  | terminateAll r => exact .inr (slot_terminateAll h r .pending)
  | terminateCurrent r => exact .inl (pendingHandle_terminateCurrent h r)
  | succeededCurrent r => exact .inl (pendingHandle_succeededCurrent s r)

end SimpleActionServer

open SimpleActionServer

/-! ## Goals that have been current -/

/-- Goal `g` has a state and is in no place but the current slot, if in
any. -/
structure Executed (s : ActionServerState Goal Result) (g : GoalId) : Prop where
  known : s.server.status g ≠ .unknown
  notTransit : g ∉ s.transit
  notPending : s.server.pendingHandle ≠ some g

/-- The current goal is such a goal. -/
theorem executed_current {s : ActionServerState Goal Result} {g : GoalId} (h : ServerInv s)
    (hg : s.server.currentHandle = some g) : Executed s g where
  known := by
    intro hst
    have hact : s.server.active g = true := (h.slots.slots.active_iff g).mpr (.inr (.inl hg))
    rw [active, hst] at hact
    cases hact
  notTransit := fun ht => h.slots.slots.transit_current g ht hg
  notPending := fun hp => h.slots.slots.distinct g hp hg

/-- With the current slot empty it has ended. -/
theorem Executed.terminal {s : ActionServerState Goal Result} {g : GoalId} (h : ServerInv s)
    (hg : Executed s g) (hcurrent : s.server.currentHandle = none) :
    (s.server.status g).isTerminal = true := by
  have hact : ¬ s.server.active g = true := by
    intro hact
    rcases (h.slots.slots.active_iff g).mp hact with ht | hc | hp
    · exact hg.notTransit ht
    · rw [hcurrent] at hc; cases hc
    · exact hg.notPending hp
  have hknown := hg.known
  rw [active] at hact
  cases hst : s.server.status g <;> rw [hst] at hact hknown <;>
    first | rfl | exact absurd rfl hact | exact absurd rfl hknown

variable [Inhabited Result]

/-- Every step keeps the goals known. -/
theorem keepsKnown_effect {s s' : ActionServerState Goal Result} {l : Label Goal Result}
    (he : Effect s l s') : KeepsKnown s.server s'.server := by
  have hgoals := goalsEffect_of_effect he
  generalize s'.server = server at hgoals
  cases hgoals with
  | ended h => exact keepsKnown_of_ends h
  | added _ => exact keepsKnown_addHandle _ _ _
  | canceling _ => exact keepsKnown_cancelGoal _ _
  | activated _ => exact fun _ hg => hg
  | deactivated _ => exact fun _ hg => hg

/-- A goal that has been current stays one: the goals that are delivered
are new. -/
theorem executed_effect {s s' : ActionServerState Goal Result} {l : Label Goal Result}
    {g : GoalId} (h : ServerInv s) (hg : Executed s g) (he : Effect s l s') : Executed s' g := by
  have hknown := keepsKnown_effect he g hg.known
  cases he with
  | goalRequested g' goal hfresh _ =>
    refine ⟨hknown, ?_, hg.notPending⟩
    intro ht
    rcases List.mem_append.mp ht with hold | hnew
    · exact hg.notTransit hold
    · rw [List.mem_singleton] at hnew
      subst hnew
      exact hg.known (by simp [status, hfresh])
  | parked g' hg' _ =>
    refine ⟨hknown, fun ht => hg.notTransit (List.mem_of_mem_erase ht), ?_⟩
    intro hp
    cases hp
    exact hg.notTransit hg'
  | launched g' _ _ _ =>
    refine ⟨hknown, fun ht => hg.notTransit (List.mem_of_mem_erase ht), ?_⟩
    show (s.server.launch g').pendingHandle ≠ some g
    rw [h.slots.launch_eq g', show ({ s.server.terminatePendingGoal with
      currentHandle := some g' } : SimpleActionServer Goal Result).pendingHandle = none from
        pendingHandle_terminatePendingGoal h.slots]
    exact Option.some_ne_none g |>.symm
  | cancelRequested g' _ =>
    refine ⟨hknown, hg.notTransit, ?_⟩
    show (s.server.cancelGoal g').pendingHandle ≠ some g
    unfold cancelGoal
    split <;> exact hg.notPending
  | deadlineMissed _ _ =>
    refine ⟨hknown, hg.notTransit, fun hp => ?_⟩
    rw [show (s.server.terminateAll _).pendingHandle = none from
      slot_terminateAll h.slots _ .pending] at hp
    cases hp
  | called c =>
    refine ⟨hknown, hg.notTransit, fun hp => ?_⟩
    rcases pendingHandle_apply h.slots c with heq | heq
    · exact hg.notPending (heq.symm.trans hp)
    · cases heq.symm.trans hp
  | iterationEnded us _ _ =>
    refine ⟨hknown, hg.notTransit, fun hp => ?_⟩
    cases (endOfIteration_slots h.slots).2.2.symm.trans hp
  | exceptionHandled us _ _ =>
    refine ⟨hknown, hg.notTransit, fun hp => ?_⟩
    rw [show (s.server.terminateAll _).pendingHandle = none from
      slot_terminateAll h.slots _ .pending] at hp
    cases hp
  | goalRejected _ _ _ => exact hg
  | cancelIgnored _ => exact hg
  | _ => exact ⟨hknown, hg.notTransit, hg.notPending⟩

/-! ## Deactivation under a worker -/

/-- A worker enters the callback on an active server, and as long as it is
there `deactivate()` has not returned. -/
structure ActiveInCallback (s : ActionServerState Goal Result) : Prop where
  /-- A server that was never activated has seen no goal. -/
  fresh : s.server.serverActive = false → s.server.stopExecution = false →
    AtRest s ∧ s.transit = []
  active : s.workers.getLast? = some .executing →
    s.server.serverActive = true ∨ s.lifecycle = .deactivating

omit [Inhabited Result] in
theorem activeInCallback_initial :
    ActiveInCallback (initialState : ActionServerState Goal Result) where
  fresh := fun _ _ => ⟨⟨⟨rfl, rfl⟩, rfl⟩, rfl⟩
  active := fun hw => by cases hw

omit [Inhabited Result] in
/-- A worker that enters the callback finds an active server. -/
theorem ActiveInCallback.active_of_loopCondition {s : ActionServerState Goal Result}
    (h : ActiveInCallback s) (hc : loopCondition s = true) : s.server.serverActive = true := by
  simp only [loopCondition, Bool.and_eq_true, Bool.not_eq_true'] at hc
  by_contra hoff
  rw [Bool.not_eq_true] at hoff
  have hempty := (h.fresh hoff hc.1.2).1.empty.1
  rw [hempty] at hc
  cases hc.2

/-- A server that has seen no goal sees none before it is activated. -/
theorem fresh_effect {s s' : ActionServerState Goal Result} {l : Label Goal Result}
    (h : ServerInv s) (hfresh : AtRest s ∧ s.transit = []) (hcall : FromCallback s l)
    (he : Effect s l s') (hoff : s'.server.serverActive = false) :
    AtRest s' ∧ s'.transit = [] := by
  obtain ⟨hrest, htransit⟩ := hfresh
  have hne : ∀ g, l ≠ .goalAccepted g := by
    rintro g rfl
    cases he with
    | parked _ hg _ => rw [htransit] at hg; cases hg
    | launched _ hg _ _ => rw [htransit] at hg; cases hg
  refine ⟨atRest_effect h hrest hcall hne he, ?_⟩
  cases he with
  | goalRequested g goal _ hact =>
    have hactive : s.server.serverActive = false := hoff
    rw [hactive] at hact
    cases hact
  | parked g _ _ => exact absurd rfl (hne g)
  | launched g _ _ _ => exact absurd rfl (hne g)
  | _ => exact htransit

theorem activeInCallback_effect {s s' : ActionServerState Goal Result} {l : Label Goal Result}
    (h : ServerInv s) (hs : ActiveInCallback s) (hcall : FromCallback s l) (he : Effect s l s') :
    ActiveInCallback s' := by
  have hkeep := activation_effect he
  refine ⟨fun hoff hstop => ?_, fun hw' => ?_⟩
  · by_cases hact : l = .activate
    · subst hact
      cases he
      cases hoff
    · by_cases hdeact : l = .deactivate
      · subst hdeact
        cases he
        cases hstop
      · have hflags := hkeep hact hdeact
        rw [activation, hoff, hstop, activation, Prod.mk.injEq] at hflags
        exact fresh_effect h (hs.fresh hflags.1.symm hflags.2.symm) hcall he hoff
  · have hsame : l ≠ .activate → l ≠ .deactivate →
        s'.server.serverActive = s.server.serverActive :=
      fun hact hdeact => congrArg Prod.fst (hkeep hact hdeact)
    cases he with
    | activated _ => exact .inl rfl
    | deactivated _ => exact .inr rfl
    | launched _ _ _ _ => rw [List.getLast?_concat] at hw'; cases hw'
    | deactivateReturned _ hrun =>
      have hw : s.workers.getLast? = some .executing := hw'
      rw [ActionServerState.isRunning, hw] at hrun
      cases hrun
    | tested us _ _ =>
      rw [List.getLast?_concat] at hw'
      split at hw'
      · next hc => exact .inl (hs.active_of_loopCondition hc)
      · cases hw'
    | callbackReturned us _ _ => rw [List.getLast?_concat] at hw'; cases hw'
    | callbackThrew us _ _ => rw [List.getLast?_concat] at hw'; cases hw'
    | iterationEnded us _ _ =>
      rw [List.getLast?_concat] at hw'
      split at hw' <;> cases hw'
    | exceptionHandled us _ _ => rw [List.getLast?_concat] at hw'; cases hw'
    | exited us _ _ => rw [List.getLast?_concat] at hw'; cases hw'
    | _ =>
      rw [hsame (by simp) (by simp)]
      exact hs.active hw'

/-- A server that is not active stays so while a worker is in the
callback. -/
theorem inactive_effect {s s' : ActionServerState Goal Result} {l : Label Goal Result}
    (hs : ActiveInCallback s) (hw : s.workers.getLast? = some .executing) (he : Effect s l s')
    (hoff : s.server.serverActive = false) : s'.server.serverActive = false := by
  by_cases hact : l = .activate
  · subst hact
    cases he with
    | activated hl =>
      rcases hs.active hw with hactive | hdeactivating
      · rw [hactive] at hoff; cases hoff
      · exact absurd hdeactivating hl
  · by_cases hdeact : l = .deactivate
    · subst hdeact
      cases he
      rfl
    · exact (congrArg Prod.fst (activation_effect he hact hdeact)).trans hoff

end Nav3D.Util

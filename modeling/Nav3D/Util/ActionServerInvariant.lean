/-
Nav3D.Util.ActionServerInvariant — what holds in every state of
`actionServerSystem`, whatever the interleaving.

`Effect` says once, for a server in order, what each step can do; the
invariants of this module and of the next two are case analyses on it.
`ServerInv` is the invariant of the server itself: the slots are in order
(`SlotInv`) and every worker but the newest has ended, so that the
`execution_future_` of the source speaks for all workers.
-/
import Nav3D.Util.ActionServerSlots
import Nav3D.Util.ActionServerSystem

namespace Nav3D.Util

open Nav3D.Ros Transition.System

variable {Goal Result : Type}

/-! ## The workers -/

/-- Every worker but the newest has ended. -/
def OnlyNewestBusy (workers : List WorkerPc) : Prop :=
  ∀ us pc, workers = us ++ [pc] → ∀ u ∈ us, u = .done

theorem onlyNewestBusy_nil : OnlyNewestBusy [] := fun us pc h => by simp at h

theorem onlyNewestBusy_snoc {us : List WorkerPc} {pc : WorkerPc} (h : ∀ u ∈ us, u = .done) :
    OnlyNewestBusy (us ++ [pc]) := by
  intro us' pc' heq
  rw [(List.append_inj' heq rfl).1] at h
  exact h

/-- A worker that has not ended is the newest one. -/
theorem OnlyNewestBusy.newest {workers : List WorkerPc} (h : OnlyNewestBusy workers) {i : Nat}
    {pc : WorkerPc} (hi : workers[i]? = some pc) (hpc : pc ≠ .done) :
    ∃ us, workers = us ++ [pc] ∧ i = us.length ∧ ∀ u ∈ us, u = .done := by
  rcases List.eq_nil_or_concat workers with rfl | ⟨us, last, rfl⟩
  · simp at hi
  · rw [List.concat_eq_append] at hi h ⊢
    have hdone := h us last rfl
    have hlt : i < (us ++ [last]).length := (List.getElem?_eq_some_iff.mp hi).1
    rw [List.length_append, List.length_singleton] at hlt
    rcases Nat.lt_or_ge i us.length with hold | hnew
    · rw [List.getElem?_append_left hold] at hi
      exact absurd (hdone pc (List.mem_of_getElem? hi)) hpc
    · have hieq : i = us.length := by omega
      subst hieq
      have hlast : last = pc := by simpa using hi
      exact ⟨us, by rw [hlast], rfl, hdone⟩

/-- A worker step is impossible for a thread that is elsewhere: the newest
worker is in one place. -/
theorem OnlyNewestBusy.unique {workers us : List WorkerPc} {i : Nat} {pc pc' : WorkerPc}
    (h : OnlyNewestBusy workers) (hi : workers[i]? = some pc) (hpc : pc ≠ .done)
    (hws : workers = us ++ [pc']) : i = us.length ∧ pc = pc' := by
  obtain ⟨us', hws', hlen, _⟩ := h.newest hi hpc
  rw [hws] at hws'
  obtain ⟨hus, hlast⟩ := List.append_inj' hws' rfl
  exact ⟨by rw [hlen, hus], by simpa using hlast.symm⟩

/-- When the newest worker is not running, none is. -/
theorem OnlyNewestBusy.all_done {s : ActionServerState Goal Result}
    (h : OnlyNewestBusy s.workers) (hrun : s.isRunning = false) : ∀ u ∈ s.workers, u = .done := by
  rcases List.eq_nil_or_concat s.workers with hnil | ⟨us, last, hws⟩
  · simp [hnil]
  · rw [List.concat_eq_append] at hws
    have hlast : last = .done := by simpa [ActionServerState.isRunning, hws] using hrun
    intro u hu
    rw [hws, List.mem_append, List.mem_singleton] at hu
    rcases hu with hu | rfl
    · exact h us last hws u hu
    · exact hlast

/-- A worker step moves the newest worker. -/
theorem moveWorker_newest {s s' : ActionServerState Goal Result} {i : Nat} {pc pc' : WorkerPc}
    (hs : moveWorker s i pc pc' = some s') (h : OnlyNewestBusy s.workers) (hpc : pc ≠ .done) :
    ∃ us, s.workers = us ++ [pc] ∧ (∀ u ∈ us, u = .done) ∧ i = us.length ∧
      s' = { s with workers := us ++ [pc'] } := by
  unfold moveWorker at hs
  split at hs
  · next hi =>
    obtain ⟨us, hws, hlen, hdone⟩ := h.newest hi hpc
    refine ⟨us, hws, hdone, hlen, ?_⟩
    rw [Option.some.injEq] at hs
    rw [← hs, hws, hlen]
    simp
  · cases hs

/-- The invariant of the server: the slots are in order, and all workers
but the newest have ended. -/
structure ServerInv (s : ActionServerState Goal Result) : Prop where
  slots : s.server.SlotInv s.transit
  workers : OnlyNewestBusy s.workers

theorem serverInv_initial : ServerInv (initialState : ActionServerState Goal Result) :=
  ⟨SimpleActionServer.slotInv_initial, onlyNewestBusy_nil⟩

/-! ## What the slots promise -/

/-- The two slots, the preemption flag, the workers and the results, as
the members and the goal handles show them. -/
structure SlotProperty (s : ActionServerState Goal Result) : Prop where
  /-- An accepted goal that is not terminal is in one of the slots. -/
  placed : ∀ g, s.Accepted g → s.server.active g = true →
    s.server.currentHandle = some g ∨ s.server.pendingHandle = some g
  /-- No active goal is in both slots. -/
  distinct : ∀ g, s.server.active g = true →
    ¬ (s.server.currentHandle = some g ∧ s.server.pendingHandle = some g)
  /-- The flag says whether an active goal is pending. -/
  preempt : s.server.isPreemptRequested = true ↔
    ∃ g, s.server.pendingHandle = some g ∧ s.server.active g = true
  /-- At most one worker is inside the execute callback. -/
  oneInCallback : ∀ i j : Nat, s.workers[i]? = some .executing →
    s.workers[j]? = some .executing → i = j
  /-- No goal has been given two results. -/
  oneResult : (s.server.results.map (·.1)).Nodup

theorem slotProperty_of_serverInv {s : ActionServerState Goal Result} (h : ServerInv s) :
    SlotProperty s where
  placed := by
    intro g hacc hact
    rcases (h.slots.slots.active_iff g).mp hact with ht | hs
    · exact absurd ht hacc.2
    · exact hs
  distinct := fun g _ hg => h.slots.slots.distinct g hg.2 hg.1
  preempt := by
    rw [SimpleActionServer.isPreemptRequested, h.slots.preempt, Option.isSome_iff_exists]
    constructor
    · rintro ⟨g, hg⟩
      exact ⟨g, hg, (h.slots.slots.active_iff g).mpr (Or.inr (Or.inr hg))⟩
    · rintro ⟨g, hg, _⟩
      exact ⟨g, hg⟩
  oneInCallback := by
    intro i j hi hj
    obtain ⟨us, hws, hlen, _⟩ := h.workers.newest hi (by decide)
    rw [hlen, (h.workers.unique hj (by decide) hws).1]
  oneResult := h.slots.slots.results_nodup

/-! ## What a step can do -/

variable [Inhabited Result]

/-- The effect of one step, by its label. The workers of a step are
written `us ++ [pc]`: only the newest one can move. -/
inductive Effect (s : ActionServerState Goal Result) :
    Label Goal Result → ActionServerState Goal Result → Prop
  | goalRejected (g : GoalId) (goal : Goal) : s.server.serverActive = false →
      Effect s (.goalRequest g goal) s
  | goalRequested (g : GoalId) (goal : Goal) : s.server.handles g = none →
      s.server.serverActive = true → Effect s (.goalRequest g goal)
        { s with server := s.server.addHandle g goal, transit := s.transit ++ [g] }
  | parked (g : GoalId) : g ∈ s.transit →
      (s.server.currentHandle.isSome || s.isRunning) = true → Effect s (.goalAccepted g)
        { s with server := s.server.park g, transit := s.transit.erase g }
  | launched (g : GoalId) : g ∈ s.transit → s.server.currentHandle = none →
      s.isRunning = false → Effect s (.goalAccepted g)
        { s with server := s.server.launch g, transit := s.transit.erase g,
                 workers := s.workers ++ [.guard] }
  | cancelIgnored (g : GoalId) : Effect s (.cancelRequest g) s
  | cancelAccepted (g : GoalId) : s.server.active g = true →
      Effect s (.cancelRequest g) { s with cancels := s.cancels ++ [g] }
  | cancelRequested (g : GoalId) : g ∈ s.cancels → Effect s (.cancelGoal g)
        { s with server := s.server.cancelGoal g, cancels := s.cancels.erase g }
  | activated : s.lifecycle ≠ .deactivating →
      Effect s .activate { s with server := s.server.activate, lifecycle := .idle }
  | deactivated : s.lifecycle ≠ .deactivating →
      Effect s .deactivate { s with server := s.server.deactivate, lifecycle := .deactivating }
  | deadlineMissed : s.lifecycle = .deactivating → s.isRunning = true → Effect s .deactivateDeadline
        { s with server := s.server.terminateAll SimpleActionServer.emptyResult }
  | deactivateReturned : s.lifecycle = .deactivating → s.isRunning = false →
      Effect s .deactivateReturn { s with lifecycle := .deactivated }
  | called (c : Call Result) : Effect s (.call c) { s with server := c.apply s.server }
  | tested (us : List WorkerPc) : s.workers = us ++ [.guard] → (∀ u ∈ us, u = .done) →
      Effect s (.testGuard us.length)
        { s with workers := us ++ [if loopCondition s then .executing else .leaving] }
  | callbackReturned (us : List WorkerPc) : s.workers = us ++ [.executing] →
      (∀ u ∈ us, u = .done) →
      Effect s (.callbackReturn us.length) { s with workers := us ++ [.returned] }
  | callbackThrew (us : List WorkerPc) : s.workers = us ++ [.executing] →
      (∀ u ∈ us, u = .done) →
      Effect s (.callbackThrow us.length) { s with workers := us ++ [.threw] }
  | iterationEnded (us : List WorkerPc) : s.workers = us ++ [.returned] →
      (∀ u ∈ us, u = .done) → Effect s (.endOfIteration us.length)
        { s with server := s.server.endOfIteration.1,
                 workers := us ++ [if s.server.endOfIteration.2 then .guard else .leaving] }
  | exceptionHandled (us : List WorkerPc) : s.workers = us ++ [.threw] →
      (∀ u ∈ us, u = .done) → Effect s (.handleException us.length)
        { s with server := s.server.terminateAll SimpleActionServer.emptyResult,
                 workers := us ++ [.leaving] }
  | exited (us : List WorkerPc) : s.workers = us ++ [.leaving] → (∀ u ∈ us, u = .done) →
      Effect s (.workerExit us.length) { s with workers := us ++ [.done] }
  | shutDown : Effect s .rclShutdown { s with ok := false }

/-- **Step inversion**: every step of a server in order has one of the
effects listed. -/
theorem effect_of_step {s s' : ActionServerState Goal Result} {l : Label Goal Result}
    (h : ServerInv s) (hs : serverStep s l = some s') : Effect s l s' := by
  cases l with
  | goalRequest g goal =>
    simp only [serverStep] at hs
    split at hs
    · cases hs
    · next hfresh =>
      rw [Option.not_isSome_iff_eq_none] at hfresh
      cases hact : s.server.serverActive with
      | true =>
        simp only [SimpleActionServer.handleGoal, hact, if_true] at hs
        cases hs
        exact .goalRequested g goal hfresh hact
      | false =>
        simp only [SimpleActionServer.handleGoal, hact, Bool.false_eq_true, if_false] at hs
        cases hs
        exact .goalRejected g goal hact
  | goalAccepted g =>
    simp only [serverStep] at hs
    split at hs
    · next hg =>
      cases hs
      have hwait := h.slots.slots.mustWait_eq s.isRunning
      cases hw : (s.server.currentHandle.isSome || s.isRunning) with
      | true =>
        rw [hw] at hwait
        rw [SimpleActionServer.handleAccepted, if_pos hwait]
        exact .parked g hg hw
      | false =>
        rw [hw] at hwait
        rw [SimpleActionServer.handleAccepted, if_neg (by simp [hwait])]
        rw [Bool.or_eq_false_iff, Option.isSome_eq_false_iff, Option.isNone_iff_eq_none] at hw
        exact .launched g hg hw.1 hw.2
    · cases hs
  | cancelRequest g =>
    simp only [serverStep] at hs
    split at hs
    · cases hs
      exact .cancelIgnored g
    · next haccept =>
      cases hs
      have hact : s.server.active g = true := by
        unfold SimpleActionServer.handleCancel at haccept
        split at haccept
        · assumption
        · cases haccept
      exact .cancelAccepted g hact
  | cancelGoal g =>
    simp only [serverStep] at hs
    split at hs
    · next hg => cases hs; exact .cancelRequested g hg
    · cases hs
  | activate =>
    simp only [serverStep] at hs
    split at hs
    · cases hs
    · next hl => cases hs; exact .activated hl
  | deactivate =>
    simp only [serverStep] at hs
    split at hs
    · cases hs
    · next hl => cases hs; exact .deactivated hl
  | deactivateDeadline =>
    simp only [serverStep] at hs
    split at hs
    · next hl => cases hs; exact .deadlineMissed hl.1 hl.2
    · cases hs
  | deactivateReturn =>
    simp only [serverStep] at hs
    split at hs
    · next hl => cases hs; exact .deactivateReturned hl.1 hl.2
    · cases hs
  | call c => cases hs; exact .called c
  | testGuard i =>
    obtain ⟨us, hws, hdone, rfl, rfl⟩ := moveWorker_newest hs h.workers (by decide)
    exact .tested us hws hdone
  | callbackReturn i =>
    obtain ⟨us, hws, hdone, rfl, rfl⟩ := moveWorker_newest hs h.workers (by decide)
    exact .callbackReturned us hws hdone
  | callbackThrow i =>
    obtain ⟨us, hws, hdone, rfl, rfl⟩ := moveWorker_newest hs h.workers (by decide)
    exact .callbackThrew us hws hdone
  | endOfIteration i =>
    have hs' : moveWorker { s with server := s.server.endOfIteration.1 } i .returned
      (if s.server.endOfIteration.2 then .guard else .leaving) = some s' := hs
    obtain ⟨us, hws, hdone, rfl, rfl⟩ := moveWorker_newest hs' h.workers (by decide)
    exact .iterationEnded us hws hdone
  | handleException i =>
    have hs' : moveWorker
      { s with server := s.server.terminateAll SimpleActionServer.emptyResult } i
      .threw .leaving = some s' := hs
    obtain ⟨us, hws, hdone, rfl, rfl⟩ := moveWorker_newest hs' h.workers (by decide)
    exact .exceptionHandled us hws hdone
  | workerExit i =>
    obtain ⟨us, hws, hdone, rfl, rfl⟩ := moveWorker_newest hs h.workers (by decide)
    exact .exited us hws hdone
  | rclShutdown => cases hs; exact .shutDown

/-! ## The invariant -/

/-- No call of the execute callback disturbs the slots. -/
theorem slotInv_apply {s : SimpleActionServer Goal Result} {transit : List GoalId}
    (h : s.SlotInv transit) (c : Call Result) : (c.apply s).SlotInv transit := by
  cases c with
  | acceptPendingGoal => exact h.acceptPendingGoal
  | terminatePendingGoal => exact h.terminatePendingGoal
  | terminateAll r => exact h.terminateAll r
  | terminateCurrent r => exact h.terminateCurrent r
  | succeededCurrent r => exact h.succeededCurrent r

theorem serverInv_effect {s s' : ActionServerState Goal Result} {l : Label Goal Result}
    (h : ServerInv s) (he : Effect s l s') : ServerInv s' := by
  cases he with
  | goalRejected g goal _ => exact h
  | goalRequested g goal hfresh _ => exact ⟨h.slots.addHandle hfresh goal, h.workers⟩
  | parked g hg _ => exact ⟨h.slots.park hg, h.workers⟩
  | launched g hg hc hrun =>
    exact ⟨h.slots.launch hg hc, onlyNewestBusy_snoc (h.workers.all_done hrun)⟩
  | cancelIgnored g => exact h
  | cancelAccepted g _ => exact ⟨h.slots, h.workers⟩
  | cancelRequested g _ => exact ⟨h.slots.cancelGoal g, h.workers⟩
  | activated _ => exact ⟨⟨h.slots.slots.congr rfl rfl rfl rfl, h.slots.preempt⟩, h.workers⟩
  | deactivated _ => exact ⟨⟨h.slots.slots.congr rfl rfl rfl rfl, h.slots.preempt⟩, h.workers⟩
  | deadlineMissed _ _ => exact ⟨h.slots.terminateAll _, h.workers⟩
  | deactivateReturned _ _ => exact ⟨h.slots, h.workers⟩
  | called c => exact ⟨slotInv_apply h.slots c, h.workers⟩
  | tested us _ hdone => exact ⟨h.slots, onlyNewestBusy_snoc hdone⟩
  | callbackReturned us _ hdone => exact ⟨h.slots, onlyNewestBusy_snoc hdone⟩
  | callbackThrew us _ hdone => exact ⟨h.slots, onlyNewestBusy_snoc hdone⟩
  | iterationEnded us _ hdone => exact ⟨h.slots.endOfIteration, onlyNewestBusy_snoc hdone⟩
  | exceptionHandled us _ hdone => exact ⟨h.slots.terminateAll _, onlyNewestBusy_snoc hdone⟩
  | exited us _ hdone => exact ⟨h.slots, onlyNewestBusy_snoc hdone⟩
  | shutDown => exact ⟨h.slots, h.workers⟩

/-- The invariant holds in every reachable state, under any condition on
the steps. -/
theorem serverInv_of_reach {C : ActionServerState Goal Result → Label Goal Result → Prop}
    {s : ActionServerState Goal Result} (h : (actionServerSystem Goal Result).Reach C s) :
    ServerInv s := by
  refine h.invariant ServerInv ?_ ?_
  · rintro s rfl
    exact serverInv_initial
  · intro s l s' hinv _ hs
    exact serverInv_effect hinv (effect_of_step hinv hs)


/-! ## What a worker that sees a preemption gets -/

/-- The steps between a worker `i` seeing the preemption and its next call
of `accept_pending_goal()`: it stays in the callback, and nobody calls an
operation that terminates or takes the pending goal. -/
def KeepsPending (i : Nat) : ActionServerState Goal Result → Label Goal Result → Prop
  | _, .call .acceptPendingGoal => False
  | _, .call .terminatePendingGoal => False
  | _, .call (.terminateAll _) => False
  | _, .deactivateDeadline => False
  | _, .callbackReturn j => j ≠ i
  | _, .callbackThrow j => j ≠ i
  | _, _ => True

/-- A preemption seen by the worker in the callback stays requested. -/
theorem preempt_effect {s s' : ActionServerState Goal Result} {l : Label Goal Result} {i : Nat}
    (h : ServerInv s) (hi : s.workers[i]? = some .executing)
    (hpre : s.server.preemptRequested = true) (hk : KeepsPending i s l) (he : Effect s l s') :
    s'.workers[i]? = some .executing ∧ s'.server.preemptRequested = true := by
  have elsewhere : ∀ {us pc}, s.workers = us ++ [pc] → i = us.length ∧ WorkerPc.executing = pc :=
    fun hws => h.workers.unique hi (by decide) hws
  cases he with
  | goalRejected g goal _ => exact ⟨hi, hpre⟩
  | goalRequested g goal _ _ => exact ⟨hi, hpre⟩
  | parked g _ _ => exact ⟨hi, rfl⟩
  | launched g _ _ hrun =>
    have hdone := h.workers.all_done hrun _ (List.mem_of_getElem? hi)
    cases hdone
  | cancelIgnored g => exact ⟨hi, hpre⟩
  | cancelAccepted g _ => exact ⟨hi, hpre⟩
  | cancelRequested g _ =>
    refine ⟨hi, ?_⟩
    show (s.server.cancelGoal g).preemptRequested = true
    unfold SimpleActionServer.cancelGoal
    split <;> exact hpre
  | activated _ => exact ⟨hi, hpre⟩
  | deactivated _ => exact ⟨hi, hpre⟩
  | deadlineMissed _ _ => exact absurd hk id
  | deactivateReturned _ _ => exact ⟨hi, hpre⟩
  | called c =>
    refine ⟨hi, ?_⟩
    cases c with
    | acceptPendingGoal => exact absurd hk id
    | terminatePendingGoal => exact absurd hk id
    | terminateAll r => exact absurd hk id
    | terminateCurrent r =>
      exact ((s.server.terminate_flags .current r).2.2).trans hpre
    | succeededCurrent r =>
      have hp := s.server.pendingHandle_succeededCurrent r
      show (s.server.succeededCurrent r).preemptRequested = true
      rw [(h.slots.succeededCurrent r).preempt, hp, ← h.slots.preempt, hpre]
  | tested us hws _ => cases (elsewhere hws).2
  | callbackReturned us hws _ => exact absurd (elsewhere hws).1.symm hk
  | callbackThrew us hws _ => exact absurd (elsewhere hws).1.symm hk
  | iterationEnded us hws _ => cases (elsewhere hws).2
  | exceptionHandled us hws _ => cases (elsewhere hws).2
  | exited us hws _ => cases (elsewhere hws).2
  | shutDown => exact ⟨hi, hpre⟩

/-- **Slot invariant.** Every reachable state has the slot property, and a
worker that sees a preemption is given a goal by its next
`accept_pending_goal()`, whatever happens in between that does not
terminate the pending goal. -/
theorem slot_invariant {s : ActionServerState Goal Result}
    (h : (actionServerSystem Goal Result).Reach anyStep s) :
    SlotProperty s ∧
    ∀ (i : Nat) (ls : List (Label Goal Result)) (s' : ActionServerState Goal Result),
      s.workers[i]? = some .executing → s.server.isPreemptRequested = true →
      (actionServerSystem Goal Result).Path (KeepsPending i) s ls s' →
      ∃ goal, s'.server.acceptPendingGoal.2 = some goal := by
  have hinv : ServerInv s := serverInv_of_reach h
  refine ⟨slotProperty_of_serverInv hinv, ?_⟩
  intro i ls s' hi hpre hpath
  have hend : ServerInv s' ∧ s'.workers[i]? = some .executing ∧
      s'.server.preemptRequested = true := by
    refine hpath.invariant (fun t => ServerInv t ∧ t.workers[i]? = some .executing ∧
      t.server.preemptRequested = true) ⟨hinv, hi, hpre⟩ ?_
    rintro t l t' - ⟨ht, hti, htp⟩ hk hs
    have he := effect_of_step ht hs
    exact ⟨serverInv_effect ht he, preempt_effect ht hti htp hk he⟩
  obtain ⟨hinv', _, hpre'⟩ := hend
  rw [hinv'.slots.preempt, Option.isSome_iff_exists] at hpre'
  obtain ⟨p, hp⟩ := hpre'
  rw [hinv'.slots.acceptPendingGoal_some hp]
  exact Option.isSome_iff_exists.mp (hinv'.slots.getPendingGoal_isSome hp)

/-- A preempted worker: goal 0 executes and goal 1 waits in the pending
slot and is being canceled. -/
def preemptedRun : List (Label Unit Unit) :=
  [.activate, .goalRequest 0 (), .goalAccepted 0, .testGuard 0, .goalRequest 1 (),
    .goalAccepted 1, .cancelRequest 1, .cancelGoal 1]

theorem slot_invariant_preempted : ∃ s, (actionServerSystem Unit Unit).Reach anyStep s ∧
    s.workers[0]? = some .executing ∧ s.server.isPreemptRequested = true ∧ SlotProperty s ∧
    ∃ goal, s.server.acceptPendingGoal.2 = some goal := by
  obtain ⟨s, hr, hs⟩ := exists_reach_of_runWhile (S := actionServerSystem Unit Unit) anyStep
    preemptedRun (fun s => s.workers[0]? = some .executing && s.server.isPreemptRequested)
    rfl (by decide)
  rw [Bool.and_eq_true, decide_eq_true_eq] at hs
  have hinv := slot_invariant hr
  exact ⟨s, hr, hs.1, hs.2, hinv.1, hinv.2 0 [] s hs.1 hs.2 (.nil s)⟩

end Nav3D.Util

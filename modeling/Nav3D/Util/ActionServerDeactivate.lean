/-
Nav3D.Util.ActionServerDeactivate — what `deactivate()` leaves behind.

`deactivate()` relies on the worker to end the goals: the locked section
after the callback calls `terminate_all()` when `stop_execution_` is set.
The loop condition of `work()` tests the same flag and leaves without it
(`leftBehindRun`): a goal accepted just before is then still active, still
the current goal, and after the next `activate()` every new goal is parked
behind it.
-/
import Nav3D.Util.ActionServerHandover

namespace Nav3D.Util

open Nav3D.Ros Transition.System

variable {Goal Result : Type}

/-! ## A server at rest -/

/-- No goal in the slots and no worker that has not ended. -/
structure AtRest (s : ActionServerState Goal Result) : Prop where
  empty : SlotsEmpty s
  idle : s.isRunning = false

/-- A server at rest has no worker step and no call to make. -/
theorem AtRest.no_worker_step {s : ActionServerState Goal Result} (h : AtRest s)
    (hinv : ServerInv s) {us : List WorkerPc} {pc : WorkerPc} (hws : s.workers = us ++ [pc]) :
    pc = .done := by
  have hdone := hinv.workers.all_done h.idle
  exact hdone pc (by simp [hws])

variable [Inhabited Result]

/-- Until a goal is delivered, a server at rest stays at rest. -/
theorem atRest_effect {s s' : ActionServerState Goal Result} {l : Label Goal Result}
    (hinv : ServerInv s) (h : AtRest s) (hcall : FromCallback s l)
    (hl : ∀ g, l ≠ .goalAccepted g) (he : Effect s l s') : AtRest s' := by
  cases he with
  | goalRejected g goal _ => exact h
  | goalRequested g goal _ _ => exact ⟨h.empty, h.idle⟩
  | parked g _ _ => exact absurd rfl (hl g)
  | launched g _ _ _ => exact absurd rfl (hl g)
  | cancelIgnored g => exact h
  | cancelAccepted g _ => exact ⟨h.empty, h.idle⟩
  | cancelRequested g _ =>
    refine ⟨?_, h.idle⟩
    show (s.server.cancelGoal g).currentHandle = none ∧ (s.server.cancelGoal g).pendingHandle = none
    unfold SimpleActionServer.cancelGoal
    split <;> exact h.empty
  | activated _ => exact ⟨h.empty, h.idle⟩
  | deactivated _ => exact ⟨h.empty, h.idle⟩
  | deadlineMissed _ hrun => rw [h.idle] at hrun; cases hrun
  | deactivateReturned _ _ => exact ⟨h.empty, h.idle⟩
  | called c =>
    have hdone := hinv.workers.all_done h.idle _ hcall
    cases hdone
  | tested us hws _ => cases h.no_worker_step hinv hws
  | callbackReturned us hws _ => cases h.no_worker_step hinv hws
  | callbackThrew us hws _ => cases h.no_worker_step hinv hws
  | iterationEnded us hws _ => cases h.no_worker_step hinv hws
  | exceptionHandled us hws _ => cases h.no_worker_step hinv hws
  | exited us hws _ => cases h.no_worker_step hinv hws
  | shutDown => exact ⟨h.empty, h.idle⟩

/-- A goal delivered to a server at rest is started. -/
theorem AtRest.starts {s s' : ActionServerState Goal Result} (hinv : ServerInv s) (h : AtRest s)
    {g : GoalId} (hs : serverStep s (.goalAccepted g) = some s') :
    s'.server.currentHandle = some g ∧ s'.server.pendingHandle = none ∧
      s'.workers = s.workers ++ [.guard] := by
  cases effect_of_step hinv hs with
  | parked _ _ hbusy =>
    rw [h.empty.1, h.idle] at hbusy
    cases hbusy
  | launched _ _ _ _ =>
    have hlaunch := hinv.slots.launch_eq g
    rw [SimpleActionServer.terminatePendingGoal_none h.empty.2] at hlaunch
    show (s.server.launch g).currentHandle = some g ∧ (s.server.launch g).pendingHandle = none ∧ _
    rw [hlaunch]
    exact ⟨rfl, h.empty.2, rfl⟩

/-! ## The property -/

/-- After `deactivate()` has returned no goal is active, and the first goal
that is delivered afterwards is started as the current goal. `C` says which
steps there are. -/
structure DeactivationClean (C : ActionServerState Goal Result → Label Goal Result → Prop)
    (s : ActionServerState Goal Result) : Prop where
  closed : s.lifecycle = .deactivated → ∀ g, s.server.active g = false
  starts : s.lifecycle = .deactivated →
    ∀ ls s₁ g s₂, (∀ g', Label.goalAccepted g' ∉ ls) →
      (actionServerSystem Goal Result).Path C s ls s₁ →
      serverStep s₁ (.goalAccepted g) = some s₂ →
      s₂.server.currentHandle = some g ∧ s₂.server.pendingHandle = none ∧
        s₂.workers = s₁.workers ++ [.guard]

/-! ## Runs that deactivate cleanly -/

/-- Every goal that `handle_goal` has accepted is delivered before
`deactivate()` returns. -/
def DeliveredBeforeReturn (s : ActionServerState Goal Result) : Label Goal Result → Prop
  | .deactivateReturn => s.transit = []
  | _ => True

/-- The steps that deactivation copes with: the loop condition does not
fail on a goal that is still in a slot, no goal is delivered to a worker on
its way out, and none is on its way when `deactivate()` returns. -/
def CleanStep (s : ActionServerState Goal Result) (l : Label Goal Result) : Prop :=
  FromCallback s l ∧ LeavesEmptyHanded s l ∧ DeliveredInLoop s l ∧ DeliveredBeforeReturn s l

instance (s : ActionServerState Goal Result) (l : Label Goal Result) :
    Decidable (DeliveredBeforeReturn s l) :=
  match l with
  | .deactivateReturn => inferInstanceAs (Decidable (s.transit = []))
  | .goalRequest _ _ | .goalAccepted _ | .cancelRequest _ | .cancelGoal _ | .activate | .deactivate
  | .deactivateDeadline | .call _ | .testGuard _ | .callbackReturn _ | .callbackThrow _
  | .endOfIteration _ | .handleException _ | .workerExit _ | .rclShutdown => isTrue trivial

instance (s : ActionServerState Goal Result) (l : Label Goal Result) : Decidable (CleanStep s l) :=
  inferInstanceAs (Decidable (_ ∧ _))

instance (s : ActionServerState Goal Result) (g : GoalId) : Decidable (s.Accepted g) :=
  inferInstanceAs (Decidable (_ ∧ _))

/-- After `deactivate()` the server refuses goals; once it has returned,
the server is at rest and no goal is on its way. -/
structure DeactivateInv (s : ActionServerState Goal Result) : Prop where
  served : ServedSlots s
  refusing : s.lifecycle ≠ .idle → s.server.serverActive = false
  rest : s.lifecycle = .deactivated → AtRest s ∧ s.transit = []

theorem deactivateInv_effect {s s' : ActionServerState Goal Result} {l : Label Goal Result}
    (h : ServerInv s) (hd : DeactivateInv s) (hclean : CleanStep s l) (he : Effect s l s') :
    DeactivateInv s' := by
  obtain ⟨hcall, hguard, hdeliver, hreturn⟩ := hclean
  have hserved := servedSlots_effect h hd.served hcall hdeliver hguard he
  have hrefuse : s'.lifecycle ≠ .idle → s'.server.serverActive = false := by
    intro hl
    by_cases hact : l = .activate
    · subst hact
      cases he
      exact absurd rfl hl
    · by_cases hdeact : l = .deactivate
      · subst hdeact
        cases he
        rfl
      · have hkeep := congrArg Prod.fst (activation_effect he hact hdeact)
        refine hkeep.trans (hd.refusing fun hidle => hl ?_)
        cases he with
        | activated _ => exact absurd rfl hact
        | deactivated _ => exact absurd rfl hdeact
        | deactivateReturned hdl _ => rw [hidle] at hdl; cases hdl
        | _ => exact hidle
  refine ⟨hserved, hrefuse, fun hl => ?_⟩
  -- the steps that keep the lifecycle state keep the rest; the others decide it
  have hkeep : s.lifecycle = .deactivated → (∀ g, l ≠ .goalAccepted g) → AtRest s' :=
    fun hl hne => atRest_effect h (hd.rest hl).1 hcall hne he
  cases he with
  | goalRejected g goal _ => exact hd.rest hl
  | goalRequested g goal _ hact =>
    have hoff := hd.refusing (by rw [show s.lifecycle = _ from hl]; decide)
    rw [hact] at hoff
    cases hoff
  | parked g hg _ => rw [(hd.rest hl).2] at hg; cases hg
  | launched g hg _ _ => rw [(hd.rest hl).2] at hg; cases hg
  | activated _ => cases hl
  | deactivated _ => cases hl
  | deactivateReturned _ hrun =>
    exact ⟨⟨hd.served (noWorker_of_not_running hrun), hrun⟩, hreturn⟩
  | cancelIgnored g => exact hd.rest hl
  | cancelAccepted g _ => exact ⟨hkeep hl (by simp), (hd.rest hl).2⟩
  | cancelRequested g _ => exact ⟨hkeep hl (by simp), (hd.rest hl).2⟩
  | deadlineMissed _ _ => exact ⟨hkeep hl (by simp), (hd.rest hl).2⟩
  | called c => exact ⟨hkeep hl (by simp), (hd.rest hl).2⟩
  | tested us _ _ => exact ⟨hkeep hl (by simp), (hd.rest hl).2⟩
  | callbackReturned us _ _ => exact ⟨hkeep hl (by simp), (hd.rest hl).2⟩
  | callbackThrew us _ _ => exact ⟨hkeep hl (by simp), (hd.rest hl).2⟩
  | iterationEnded us _ _ => exact ⟨hkeep hl (by simp), (hd.rest hl).2⟩
  | exceptionHandled us _ _ => exact ⟨hkeep hl (by simp), (hd.rest hl).2⟩
  | exited us _ _ => exact ⟨hkeep hl (by simp), (hd.rest hl).2⟩
  | shutDown => exact ⟨hkeep hl (by simp), (hd.rest hl).2⟩

/-- **Deactivation leaves nothing behind** in a run whose steps are all
clean. -/
theorem deactivation_clean {s : ActionServerState Goal Result}
    (h : (actionServerSystem Goal Result).Reach CleanStep s) : DeactivationClean CleanStep s := by
  have hinv : ServerInv s := serverInv_of_reach h
  have hd : DeactivateInv s := by
    have hboth : ServerInv s ∧ DeactivateInv s := by
      refine h.invariant (fun s => ServerInv s ∧ DeactivateInv s) ?_ ?_
      · rintro s rfl
        refine ⟨serverInv_initial, fun _ => ⟨rfl, rfl⟩, fun hl => absurd rfl hl, fun hl => ?_⟩
        cases hl
      · rintro s l s' ⟨hs, hd⟩ hclean hstep
        have he := effect_of_step hs hstep
        exact ⟨serverInv_effect hs he, deactivateInv_effect hs hd hclean he⟩
    exact hboth.2
  constructor
  · intro hl g
    obtain ⟨hrest, htransit⟩ := hd.rest hl
    by_contra hact
    rw [Bool.not_eq_false, hinv.slots.slots.active_iff g, htransit, hrest.empty.1,
      hrest.empty.2] at hact
    rcases hact with hmem | hcur | hpend
    · cases hmem
    · cases hcur
    · cases hpend
  · intro hl ls s₁ g s₂ hls hpath hstep
    have hend : ServerInv s₁ ∧ AtRest s₁ := by
      refine hpath.invariant (fun t => ServerInv t ∧ AtRest t) ⟨hinv, (hd.rest hl).1⟩ ?_
      rintro t l t' hmem ⟨ht, hrest⟩ hclean hs
      have he := effect_of_step ht hs
      refine ⟨serverInv_effect ht he, atRest_effect ht hrest hclean.1 ?_ he⟩
      rintro g' rfl
      exact hls g' hmem
    exact hend.2.starts hend.1 hstep

/-! ## The run that leaves a goal behind -/

/-- `deactivate()` falls between the launch of the worker and its first
test of the loop condition. -/
def leftBehindRun : List (Label Unit Unit) :=
  [.activate, .goalRequest 0 (), .goalAccepted 0, .deactivate, .testGuard 0, .workerExit 0,
    .deactivateReturn]

/-- The next activation and its first goal. -/
def nextGoal : List (Label Unit Unit) := [.activate, .goalRequest 1 (), .goalAccepted 1]

/-- Goal 0 is active after `deactivate()` has returned, and goal 1, the
first one after the next `activate()`, is parked with no worker. -/
theorem not_deactivation_clean :
    ∃ s, (actionServerSystem Unit Unit).Reach FromCallback s ∧ s.lifecycle = .deactivated ∧
      s.Accepted 0 ∧ s.server.active 0 = true ∧
      ∃ s', (actionServerSystem Unit Unit).run s nextGoal = some s' ∧
        s'.server.pendingHandle = some 1 ∧ s'.server.currentHandle = some 0 ∧
        s'.noWorker ∧ s'.isRunning = false := by
  obtain ⟨s, hr, hs⟩ := exists_reach_of_runWhile (S := actionServerSystem Unit Unit) FromCallback
    leftBehindRun
    (fun s => decide (s.lifecycle = .deactivated ∧ s.Accepted 0 ∧ s.server.active 0 = true) &&
      ((actionServerSystem Unit Unit).run s nextGoal).any fun s' : ActionServerState Unit Unit =>
        decide (s'.server.pendingHandle = some 1 ∧ s'.server.currentHandle = some 0 ∧
          s'.noWorker ∧ s'.isRunning = false)) rfl (by decide)
  rw [Bool.and_eq_true, decide_eq_true_eq, Option.any_eq_true] at hs
  obtain ⟨⟨hl, hacc, hact⟩, s', hrun, hend⟩ := hs
  exact ⟨s, hr, hl, hacc, hact, s', hrun, of_decide_eq_true hend⟩

/-- Deactivated while its goal executes, the server ends the goal and is
clean. -/
theorem deactivation_clean_executing :
    ∃ s, (actionServerSystem Unit Unit).Reach CleanStep s ∧ s.lifecycle = .deactivated ∧
      s.Accepted 0 ∧ s.server.active 0 = false ∧ DeactivationClean CleanStep s := by
  obtain ⟨s, hr, hs⟩ := exists_reach_of_runWhile (S := actionServerSystem Unit Unit) CleanStep
    [.activate, .goalRequest 0 (), .goalAccepted 0, .testGuard 0, .deactivate, .callbackReturn 0,
      .endOfIteration 0, .workerExit 0, .deactivateReturn]
    (fun s => decide (s.lifecycle = .deactivated ∧ s.Accepted 0)) rfl (by decide)
  obtain ⟨hl, hacc⟩ := of_decide_eq_true hs
  have hclean := deactivation_clean hr
  exact ⟨s, hr, hl, hacc, hclean.closed hl 0, hclean⟩

end Nav3D.Util

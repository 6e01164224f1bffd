/-
Nav3D.Util.ActionServerHandover — who looks at the pending slot when the
worker stops looking.

`work()` decides to end by a last look at `pending_handle_` under the
lock; `handle_accepted` decides to park a goal by the readiness of the
future, which comes later. Between the two a goal can be parked that
nobody will run (`stranded_run`). The step that does it is
`goalAccepted` while the worker `hasLeft`; a run without that step keeps
the slots empty whenever there is no worker to serve them.
-/
import Nav3D.Util.ActionServerEnds

namespace Nav3D.Util

open Nav3D.Ros Transition.System

variable {Goal Result : Type}

/-! ## Slots that nobody serves -/

/-- Both slots are empty. -/
def SlotsEmpty (s : ActionServerState Goal Result) : Prop :=
  s.server.currentHandle = none ∧ s.server.pendingHandle = none

/-- Goals in the slots have a worker that will still look at them. -/
def ServedSlots (s : ActionServerState Goal Result) : Prop := s.noWorker → SlotsEmpty s

theorem noWorker_snoc {s : ActionServerState Goal Result} {us : List WorkerPc} {pc : WorkerPc}
    (h : s.workers = us ++ [pc]) : s.noWorker ↔ pc = .leaving ∨ pc = .done := by
  simp [ActionServerState.noWorker, h]

/-- A worker inside the callback is the newest one, so it is still there. -/
theorem not_noWorker_of_inCallback {s : ActionServerState Goal Result} (h : ServerInv s)
    (hc : s.inCallback) : ¬ s.noWorker := by
  obtain ⟨i, hi⟩ := List.mem_iff_getElem?.mp hc
  obtain ⟨us, hws, _⟩ := h.workers.newest hi (by decide)
  rw [noWorker_snoc hws]
  decide

/-- With no worker, or with one that has ended, the future is not running;
what runs without serving the slots is the worker on its way out. -/
theorem hasLeft_of_noWorker {s : ActionServerState Goal Result} (h : s.noWorker)
    (hrun : s.isRunning = true) : s.hasLeft := by
  unfold ActionServerState.isRunning at hrun
  cases hl : s.workers.getLast? with
  | none => rw [hl] at hrun; cases hrun
  | some pc =>
    rw [hl] at hrun
    rcases h pc hl with rfl | rfl
    · exact hl
    · cases hrun

theorem noWorker_of_not_running {s : ActionServerState Goal Result} (h : s.isRunning = false) :
    s.noWorker := by
  intro pc hpc
  rw [Option.mem_def] at hpc
  rw [ActionServerState.isRunning, hpc] at h
  exact Or.inr (by simpa using h)

/-- What a server left alone adds to `ServedSlots`: the loop condition can
only fail for lack of a current goal, and a worker about to test it has
one. -/
structure HandoverInv (s : ActionServerState Goal Result) : Prop where
  ok : s.ok = true
  running : s.server.stopExecution = false
  lifecycle : s.lifecycle ≠ .deactivating
  guard : ∀ us, s.workers = us ++ [.guard] → s.server.currentHandle.isSome = true
  served : ServedSlots s

theorem HandoverInv.loopCondition {s : ActionServerState Goal Result} (h : ServerInv s)
    (hh : HandoverInv s) {us : List WorkerPc} (hws : s.workers = us ++ [.guard]) :
    loopCondition s = true := by
  have hact : s.server.isActive s.server.currentHandle = true := by
    rw [h.slots.slots.isActive_current]
    exact hh.guard us hws
  simp [Util.loopCondition, hh.ok, hh.running, hact]

variable [Inhabited Result]

instance (s : ActionServerState Goal Result) : Decidable s.inCallback :=
  inferInstanceAs (Decidable (_ ∈ _))

instance (s : ActionServerState Goal Result) : Decidable s.hasLeft :=
  inferInstanceAs (Decidable (_ = _))

instance (s : ActionServerState Goal Result) : Decidable s.noWorker :=
  inferInstanceAs (Decidable (∀ _ ∈ _, _))

/-- No goal is delivered while the worker is on its way out. -/
def DeliveredInLoop (s : ActionServerState Goal Result) : Label Goal Result → Prop
  | .goalAccepted _ => ¬ s.hasLeft
  | _ => True

/-- The worker's test of the loop condition fails only on empty slots. -/
def LeavesEmptyHanded (s : ActionServerState Goal Result) : Label Goal Result → Prop
  | .testGuard _ => SlotsEmpty s ∨ loopCondition s = true
  | _ => True

/-- The step lemma: served slots stay served, when goals are delivered in
the loop and the worker leaves it empty-handed. -/
theorem servedSlots_effect {s s' : ActionServerState Goal Result} {l : Label Goal Result}
    (h : ServerInv s) (hserved : ServedSlots s) (hcall : FromCallback s l)
    (hdeliver : DeliveredInLoop s l) (hguard : LeavesEmptyHanded s l) (he : Effect s l s') :
    ServedSlots s' := by
  cases he with
  | goalRejected g goal _ => exact hserved
  | goalRequested g goal _ _ => exact hserved
  | parked g _ hbusy =>
    intro hno
    have hempty := hserved hno
    rw [hempty.1, Option.isSome_none, Bool.false_or] at hbusy
    exact absurd (hasLeft_of_noWorker hno hbusy) hdeliver
  | launched g _ _ _ =>
    intro hno
    rw [noWorker_snoc rfl] at hno
    rcases hno with hno | hno <;> cases hno
  | cancelIgnored g => exact hserved
  | cancelAccepted g _ => exact hserved
  | cancelRequested g _ =>
    intro hno
    have hempty := hserved hno
    show (s.server.cancelGoal g).currentHandle = none ∧ (s.server.cancelGoal g).pendingHandle = none
    unfold SimpleActionServer.cancelGoal
    split <;> exact hempty
  | activated _ => exact hserved
  | deactivated _ => exact hserved
  | deadlineMissed _ _ =>
    intro _
    exact ⟨SimpleActionServer.slot_terminateAll h.slots _ .current,
      SimpleActionServer.slot_terminateAll h.slots _ .pending⟩
  | deactivateReturned _ _ => exact hserved
  | called c =>
    intro hno
    have hstay : ¬ s.noWorker := not_noWorker_of_inCallback h hcall
    exact absurd hno hstay
  | tested us hws _ =>
    intro hno
    rw [noWorker_snoc rfl] at hno
    rcases hguard with hempty | hloop
    · exact hempty
    · rw [if_pos hloop] at hno
      rcases hno with hno | hno <;> cases hno
  | callbackReturned us _ _ =>
    intro hno
    rw [noWorker_snoc rfl] at hno
    rcases hno with hno | hno <;> cases hno
  | callbackThrew us _ _ =>
    intro hno
    rw [noWorker_snoc rfl] at hno
    rcases hno with hno | hno <;> cases hno
  | iterationEnded us _ _ =>
    intro hno
    rw [noWorker_snoc rfl] at hno
    obtain ⟨_, hc, hp⟩ := SimpleActionServer.endOfIteration_slots h.slots
    cases hflag : s.server.endOfIteration.2 with
    | true =>
      rw [hflag] at hno
      rcases hno with hno | hno <;> cases hno
    | false =>
      rw [hflag] at hc
      exact ⟨hc, hp⟩
  | exceptionHandled us _ _ =>
    intro _
    exact ⟨SimpleActionServer.slot_terminateAll h.slots _ .current,
      SimpleActionServer.slot_terminateAll h.slots _ .pending⟩
  | exited us hws _ =>
    intro _
    exact hserved ((noWorker_snoc hws).mpr (Or.inl rfl))
  | shutDown => exact hserved

/-! ## Runs without deactivation -/

/-- Steps of a server that is left alone: `deactivate()` is not called and
`rclcpp::ok()` stays true. -/
def LeftAlone (s : ActionServerState Goal Result) (l : Label Goal Result) : Prop :=
  FromCallback s l ∧ match l with
    | .deactivate => False
    | .rclShutdown => False
    | _ => True

instance (s : ActionServerState Goal Result) (l : Label Goal Result) :
    Decidable (FromCallback s l) :=
  match l with
  | .call _ => inferInstanceAs (Decidable s.inCallback)
  | .goalRequest _ _ | .goalAccepted _ | .cancelRequest _ | .cancelGoal _ | .activate | .deactivate
  | .deactivateDeadline | .deactivateReturn | .testGuard _ | .callbackReturn _ | .callbackThrow _
  | .endOfIteration _ | .handleException _ | .workerExit _ | .rclShutdown => isTrue trivial

instance (s : ActionServerState Goal Result) (l : Label Goal Result) :
    Decidable (LeftAlone s l) := by
  unfold LeftAlone
  cases l <;> infer_instance

instance (s : ActionServerState Goal Result) (l : Label Goal Result) :
    Decidable (DeliveredInLoop s l) := by
  cases l <;> unfold DeliveredInLoop <;> infer_instance

instance (s : ActionServerState Goal Result) : Decidable (SlotsEmpty s) :=
  inferInstanceAs (Decidable (_ ∧ _))

instance (s : ActionServerState Goal Result) (l : Label Goal Result) :
    Decidable (LeavesEmptyHanded s l) := by
  cases l <;> unfold LeavesEmptyHanded <;> infer_instance

/-- When nobody will look at the pending slot, it holds no active goal. -/
def NothingStranded (s : ActionServerState Goal Result) : Prop :=
  s.noWorker → ∀ g, s.server.pendingHandle = some g → s.server.active g = false

/-- Two workers lists that end differently are different. -/
theorem snoc_ne {us us' : List WorkerPc} {pc pc' : WorkerPc} (h : us ++ [pc] = us' ++ [pc']) :
    pc = pc' := by
  simpa using (List.append_inj' h rfl).2

theorem handoverInv_effect {s s' : ActionServerState Goal Result} {l : Label Goal Result}
    (h : ServerInv s) (hh : HandoverInv s) (halone : LeftAlone s l)
    (hdeliver : DeliveredInLoop s l) (he : Effect s l s') : HandoverInv s' := by
  have hserved : ServedSlots s' := by
    refine servedSlots_effect h hh.served halone.1 hdeliver ?_ he
    cases he with
    | tested us hws _ => exact Or.inr (hh.loopCondition h hws)
    | _ => exact trivial
  have hstop : s'.server.stopExecution = false := by
    by_cases hl : l = .activate
    · subst hl
      cases he
      rfl
    · have hkeep := activation_effect he hl fun hd => by rw [hd] at halone; exact halone.2
      exact (congrArg Prod.snd hkeep).trans hh.running
  cases he with
  | goalRejected g goal _ => exact hh
  | goalRequested g goal _ _ => exact ⟨hh.ok, hstop, hh.lifecycle, hh.guard, hserved⟩
  | parked g hg hbusy =>
    have hc := SimpleActionServer.currentHandle_park h.slots g
    exact ⟨hh.ok, hstop, hh.lifecycle, fun us hws => by rw [hc]; exact hh.guard us hws, hserved⟩
  | launched g hg hc hrun => exact ⟨hh.ok, hstop, hh.lifecycle, fun us hws => rfl, hserved⟩
  | cancelIgnored g => exact hh
  | cancelAccepted g _ => exact ⟨hh.ok, hstop, hh.lifecycle, hh.guard, hserved⟩
  | cancelRequested g _ =>
    have hc : (s.server.cancelGoal g).currentHandle = s.server.currentHandle := by
      unfold SimpleActionServer.cancelGoal
      split <;> rfl
    exact ⟨hh.ok, hstop, hh.lifecycle, fun us hws => by rw [hc]; exact hh.guard us hws, hserved⟩
  | activated _ => exact ⟨hh.ok, hstop, fun hl => (nomatch hl), hh.guard, hserved⟩
  | deactivated _ => exact absurd halone.2 id
  | deadlineMissed hl _ => exact absurd hl hh.lifecycle
  | deactivateReturned hl _ => exact absurd hl hh.lifecycle
  | called c =>
    refine ⟨hh.ok, hstop, hh.lifecycle, fun us hws => ?_, hserved⟩
    obtain ⟨i, hi⟩ := List.mem_iff_getElem?.mp halone.1
    cases (h.workers.unique hi (by decide) hws).2
  | tested us hws _ =>
    refine ⟨hh.ok, hstop, hh.lifecycle, fun us' hws' => ?_, hserved⟩
    rw [if_pos (hh.loopCondition h hws)] at hws'
    cases snoc_ne hws'
  | callbackReturned us _ _ =>
    exact ⟨hh.ok, hstop, hh.lifecycle, fun us' hws' => (nomatch snoc_ne hws'), hserved⟩
  | callbackThrew us _ _ =>
    exact ⟨hh.ok, hstop, hh.lifecycle, fun us' hws' => (nomatch snoc_ne hws'), hserved⟩
  | iterationEnded us _ _ =>
    obtain ⟨hflag, hc, _⟩ := SimpleActionServer.endOfIteration_slots h.slots
    refine ⟨hh.ok, hstop, hh.lifecycle, fun us' hws' => ?_, hserved⟩
    cases hcont : s.server.endOfIteration.2 with
    | true =>
      rw [hcont] at hc
      rw [hcont, hh.running, Bool.not_false, Bool.true_and] at hflag
      show s.server.endOfIteration.1.currentHandle.isSome = true
      rw [hc, if_pos rfl, ← hflag]
    | false =>
      rw [hcont] at hws'
      cases snoc_ne hws'
  | exceptionHandled us _ _ =>
    exact ⟨hh.ok, hstop, hh.lifecycle, fun us' hws' => (nomatch snoc_ne hws'), hserved⟩
  | exited us _ _ =>
    exact ⟨hh.ok, hstop, hh.lifecycle, fun us' hws' => (nomatch snoc_ne hws'), hserved⟩
  | shutDown => exact absurd halone.2 id

/-- **No goal is stranded** in a run without deactivation that delivers no
goal to a worker on its way out; and such a delivery strands the goal. -/
theorem nothing_stranded {s : ActionServerState Goal Result}
    (h : (actionServerSystem Goal Result).Reach
      (fun s l => LeftAlone s l ∧ DeliveredInLoop s l) s) :
    NothingStranded s ∧
    ∀ g s', s.hasLeft → serverStep s (.goalAccepted g) = some s' → ¬ NothingStranded s' := by
  have hinv : ServerInv s := serverInv_of_reach h
  have hhand : HandoverInv s := by
    have hboth : ServerInv s ∧ HandoverInv s := by
      refine h.invariant (fun s => ServerInv s ∧ HandoverInv s) ?_ ?_
      · rintro s rfl
        refine ⟨serverInv_initial, rfl, rfl, fun hl => (nomatch hl), fun us hws => ?_, ?_⟩
        · exact absurd hws (by simp [initialState])
        · exact fun _ => ⟨rfl, rfl⟩
      · rintro s l s' ⟨hs, hh⟩ ⟨halone, hdeliver⟩ hstep
        have he := effect_of_step hs hstep
        exact ⟨serverInv_effect hs he, handoverInv_effect hs hh halone hdeliver he⟩
    exact hboth.2
  constructor
  · intro hno g hg
    rw [(hhand.served hno).2] at hg
    cases hg
  · intro g s' hleft hstep hgood
    have hinv' : ServerInv s' := serverInv_effect hinv (effect_of_step hinv hstep)
    have hno : s.noWorker := by
      intro pc hpc
      rw [hleft] at hpc
      cases hpc
      exact Or.inl rfl
    have hrun : s.isRunning = true := by simp [ActionServerState.isRunning, show _ = _ from hleft]
    have hpark : s'.server.pendingHandle = some g ∧ s'.workers = s.workers := by
      cases effect_of_step hinv hstep with
      | parked _ _ _ => exact ⟨s.server.pendingHandle_park g, rfl⟩
      | launched _ _ _ hidle => rw [hrun] at hidle; cases hidle
    have hact : s'.server.active g = true :=
      (hinv'.slots.slots.active_iff g).mpr (Or.inr (Or.inr hpark.1))
    have hno' : s'.noWorker := by
      unfold ActionServerState.noWorker at hno ⊢
      rw [hpark.2]
      exact hno
    rw [hgood hno' g hpark.1] at hact
    cases hact

/-- The run in which goal 1 reaches the server between the worker's last
look at the pending slot and the end of its thread. -/
def strandedRun : List (Label Unit Unit) :=
  [.activate, .goalRequest 0 (), .goalAccepted 0, .testGuard 0, .goalRequest 1 (),
    .call (.succeededCurrent ()), .callbackReturn 0, .endOfIteration 0, .goalAccepted 1]

theorem not_nothing_stranded : ∃ s, (actionServerSystem Unit Unit).Reach LeftAlone s ∧
    s.noWorker ∧ s.server.pendingHandle = some 1 ∧ s.server.active 1 = true := by
  obtain ⟨s, hr, hs⟩ := exists_reach_of_runWhile (S := actionServerSystem Unit Unit) LeftAlone
    strandedRun
    (fun s => decide (s.noWorker ∧ s.server.pendingHandle = some 1 ∧ s.server.active 1 = true))
    rfl (by decide)
  exact ⟨s, hr, of_decide_eq_true hs⟩

/-- Delivered before the worker's last look, the same goal is run. -/
theorem nothing_stranded_served : ∃ s, (actionServerSystem Unit Unit).Reach
    (fun s l => LeftAlone s l ∧ DeliveredInLoop s l) s ∧
    s.noWorker ∧ s.server.results.length = 2 ∧ NothingStranded s := by
  obtain ⟨s, hr, hs⟩ := exists_reach_of_runWhile (S := actionServerSystem Unit Unit)
    (fun s l => LeftAlone s l ∧ DeliveredInLoop s l)
    [.activate, .goalRequest 0 (), .goalAccepted 0, .testGuard 0, .goalRequest 1 (),
      .goalAccepted 1, .call (.succeededCurrent ()), .callbackReturn 0, .endOfIteration 0,
      .testGuard 0, .callbackThrow 0, .handleException 0, .workerExit 0]
    (fun s => decide (s.noWorker ∧ s.server.results.length = 2)) rfl (by decide)
  have hend := of_decide_eq_true hs
  exact ⟨s, hr, hend.1, hend.2, (nothing_stranded hr).1⟩

end Nav3D.Util

/-
Nav3D.Util.ActionServerEnds — what the operations of `SimpleActionServer`
do to the goals.

Apart from the requests of rclcpp_action, an operation ends goals that are
active, one after the other, and moves handles between the slots (`Ends`).
How it ends them is a parameter: `terminate` tells canceling goals apart
(`EndsByState`), `accept_pending_goal` and `succeeded_current` do not. A law
about the goals is then proved for one terminal transition, and holds of
every step (`goalsEffect_of_effect`).
-/
import Nav3D.Util.ActionServerInvariant

namespace Nav3D.Util

open Nav3D.Ros

variable {Goal Result : Type}

namespace SimpleActionServer

variable {s s' s'' : SimpleActionServer Goal Result}

/-! ## Goals that are ended -/

/-- `server_active_` and `stop_execution_`. -/
def activation (s : SimpleActionServer Goal Result) : Bool × Bool :=
  (s.serverActive, s.stopExecution)

/-- `s'` differs from `s` in its slots and in `preempt_requested_` only. -/
structure SameGoals (s s' : SimpleActionServer Goal Result) : Prop where
  handles : s'.handles = s.handles
  results : s'.results = s.results
  activation : s'.activation = s.activation

theorem SameGoals.refl (s : SimpleActionServer Goal Result) : SameGoals s s := ⟨rfl, rfl, rfl⟩

theorem SameGoals.trans (h : SameGoals s s') (h' : SameGoals s' s'') : SameGoals s s'' :=
  ⟨h'.handles.trans h.handles, h'.results.trans h.results, h'.activation.trans h.activation⟩

theorem SameGoals.status (h : SameGoals s s') (g : GoalId) : s'.status g = s.status g := by
  unfold SimpleActionServer.status
  rw [h.handles]

/-- From `s` to `s'` active goals have been ended, one after the other.
`P t g st` allows it to put goal `g` into the state `st` when the server has
come to `t`. -/
inductive Ends (P : SimpleActionServer Goal Result → GoalId → GoalStatus → Prop)
    (s : SimpleActionServer Goal Result) : SimpleActionServer Goal Result → Prop
  | done {u} : SameGoals s u → Ends P s u
  | finish {t u g st r} : Ends P s t → t.active g = true → st.isTerminal = true → P t g st →
      SameGoals (t.finish g st r) u → Ends P s u

variable {P : SimpleActionServer Goal Result → GoalId → GoalStatus → Prop}

theorem Ends.refl (s : SimpleActionServer Goal Result) : Ends P s s := .done (.refl s)

/-- The slots do not matter. -/
theorem Ends.congr (h : Ends P s s') (hsame : SameGoals s' s'') : Ends P s s'' := by
  cases h with
  | done h => exact .done (h.trans hsame)
  | finish h hact hst hP h' => exact .finish h hact hst hP (h'.trans hsame)

theorem Ends.trans (h : Ends P s s') (h' : Ends P s' s'') : Ends P s s'' := by
  induction h' with
  | done hsame => exact h.congr hsame
  | finish _ hact hst hP hsame ih => exact .finish ih hact hst hP hsame

theorem Ends.activation (h : Ends P s s') : s'.activation = s.activation := by
  induction h with
  | done hsame => exact hsame.activation
  | finish _ _ _ _ hsame ih => exact hsame.activation.trans ih

/-! ## The operations -/

/-- A canceling goal ends CANCELED, any other one ABORTED. -/
def EndsByState (t : SimpleActionServer Goal Result) (g : GoalId) (st : GoalStatus) : Prop :=
  st = if t.isCanceling g then .canceled else .aborted

/-- The current goal of `s` ends SUCCEEDED. -/
def EndsWell (s t : SimpleActionServer Goal Result) (g : GoalId) (st : GoalStatus) : Prop :=
  t = s ∧ s.currentHandle = some g ∧ st = .succeeded

/-- The current goal of `s` ends ABORTED, whatever its state: another goal
is pending. -/
def EndsPreempted (s t : SimpleActionServer Goal Result) (g : GoalId) (st : GoalStatus) : Prop :=
  t = s ∧ s.currentHandle = some g ∧ s.isActive s.pendingHandle = true ∧
    s.pendingHandle ≠ some g ∧ st = .aborted

theorem ends_terminate (s : SimpleActionServer Goal Result) (sl : Slot) (r : Result) :
    Ends EndsByState s (s.terminate sl r) := by
  unfold terminate
  split
  · exact .refl s
  · next g _ =>
    split
    · next hact =>
      have hst : (if s.isCanceling g then GoalStatus.canceled else .aborted).isTerminal = true := by
        split <;> rfl
      refine .finish (r := r) (.refl s) hact hst rfl ?_
      cases sl <;> exact ⟨rfl, rfl, rfl⟩
    · exact .refl s

/-- After `terminate` the current slot holds no active goal. -/
theorem currentHandle_terminate_inactive {r : Result} {c : GoalId}
    (hc : (s.terminate .current r).currentHandle = some c) :
    (s.terminate .current r).active c = false := by
  unfold terminate at hc ⊢
  split at hc
  · next hnone => rw [slot_current] at hnone; rw [hnone] at hc; cases hc
  · next g hg =>
    split at hc
    · cases hc
    · next hact =>
      rw [if_neg hact]
      rw [slot_current, hc] at hg
      cases hg
      exact Bool.eq_false_iff.mpr hact

theorem ends_terminateAll (s : SimpleActionServer Goal Result) (r : Result) :
    Ends EndsByState s (s.terminateAll r) :=
  ((ends_terminate s .current r).trans (ends_terminate _ .pending r)).congr ⟨rfl, rfl, rfl⟩

theorem ends_succeededCurrent (s : SimpleActionServer Goal Result) (r : Result) :
    Ends (EndsWell s) s (s.succeededCurrent r) := by
  unfold succeededCurrent
  split
  · exact .refl s
  · next g hg =>
    split
    · next hact => exact .finish (r := r) (.refl s) hact rfl ⟨rfl, hg, rfl⟩ ⟨rfl, rfl, rfl⟩
    · exact .refl s

variable [Inhabited Result]

/-- Whatever it may do to an active current goal when another goal is
pending. -/
theorem ends_acceptPendingGoal_of (h : ∀ c, s.currentHandle = some c → s.active c = true →
    s.isActive s.pendingHandle = true → s.pendingHandle ≠ some c → P s c .aborted) :
    Ends P s s.acceptPendingGoal.1 := by
  unfold acceptPendingGoal
  split
  · next hpending =>
    unfold acceptPending
    split
    · exact .done ⟨rfl, rfl, rfl⟩
    · next c hc =>
      split
      · next hboth =>
        rw [Bool.and_eq_true, bne_iff_ne, hc] at hboth
        have hP : P s c .aborted := h c hc hboth.1 hpending (Ne.symm hboth.2)
        exact .finish (r := emptyResult) (.refl s) hboth.1 rfl hP ⟨rfl, rfl, rfl⟩
      · exact .done ⟨rfl, rfl, rfl⟩
  · exact .refl s

theorem ends_acceptPendingGoal (s : SimpleActionServer Goal Result) :
    Ends (EndsPreempted s) s s.acceptPendingGoal.1 :=
  ends_acceptPendingGoal_of fun _ hc _ hpending hne => ⟨rfl, hc, hpending, hne, rfl⟩

theorem ends_terminatePendingGoal (s : SimpleActionServer Goal Result) :
    Ends EndsByState s s.terminatePendingGoal := by
  unfold terminatePendingGoal
  split
  · exact (ends_terminate s .pending emptyResult).congr ⟨rfl, rfl, rfl⟩
  · exact .refl s

theorem ends_park (s : SimpleActionServer Goal Result) (g : GoalId) :
    Ends EndsByState s (s.park g) := by
  unfold park
  dsimp only
  split
  · exact (ends_terminate s .pending emptyResult).congr ⟨rfl, rfl, rfl⟩
  · exact .done ⟨rfl, rfl, rfl⟩

theorem ends_launch (s : SimpleActionServer Goal Result) (g : GoalId) :
    Ends EndsByState s (s.launch g) := by
  unfold launch
  dsimp only
  split
  · exact (ends_terminate s .pending emptyResult).congr ⟨rfl, rfl, rfl⟩
  · exact .done ⟨rfl, rfl, rfl⟩

/-- The current goal has been terminated before the pending one is
accepted. -/
theorem ends_endOfIteration (s : SimpleActionServer Goal Result) :
    Ends EndsByState s s.endOfIteration.1 := by
  unfold endOfIteration
  split
  · exact ends_terminateAll s emptyResult
  · have hcurrent := ends_terminate s .current emptyResult
    dsimp only
    split
    · refine hcurrent.trans (ends_acceptPendingGoal_of fun c hc hact _ _ => ?_)
      rw [currentHandle_terminate_inactive hc] at hact
      cases hact
    · exact hcurrent

end SimpleActionServer

/-! ## Steps -/

open SimpleActionServer

variable [Inhabited Result]

/-- How the goals are ended by a step. -/
def endRule (s : ActionServerState Goal Result) :
    Label Goal Result → SimpleActionServer Goal Result → GoalId → GoalStatus → Prop
  | .call .acceptPendingGoal => EndsPreempted s.server
  | .call (.succeededCurrent _) => EndsWell s.server
  | _ => EndsByState

/-- What a step does to the goals. -/
inductive GoalsEffect (s : ActionServerState Goal Result) (l : Label Goal Result) :
    SimpleActionServer Goal Result → Prop
  | ended {server} : Ends (endRule s l) s.server server → GoalsEffect s l server
  | added {g goal} : s.server.handles g = none → GoalsEffect s l (s.server.addHandle g goal)
  | canceling {g} : l = .cancelGoal g → GoalsEffect s l (s.server.cancelGoal g)
  | activated : l = .activate → GoalsEffect s l s.server.activate
  | deactivated : l = .deactivate → GoalsEffect s l s.server.deactivate

/-- **Goal inversion.** -/
theorem goalsEffect_of_effect {s s' : ActionServerState Goal Result} {l : Label Goal Result}
    (he : Effect s l s') : GoalsEffect s l s'.server := by
  cases he with
  | goalRequested g goal hfresh _ => exact .added hfresh
  | parked g _ _ => exact .ended (ends_park _ g)
  | launched g _ _ _ => exact .ended (ends_launch _ g)
  | cancelRequested g _ => exact .canceling rfl
  | activated _ => exact .activated rfl
  | deactivated _ => exact .deactivated rfl
  | deadlineMissed _ _ => exact .ended (ends_terminateAll _ _)
  | called c =>
    cases c with
    | acceptPendingGoal => exact .ended (ends_acceptPendingGoal _)
    | terminatePendingGoal => exact .ended (ends_terminatePendingGoal _)
    | terminateAll r => exact .ended (ends_terminateAll _ r)
    | terminateCurrent r => exact .ended (ends_terminate _ .current r)
    | succeededCurrent r => exact .ended (ends_succeededCurrent _ r)
  | iterationEnded us _ _ => exact .ended (ends_endOfIteration _)
  | exceptionHandled us _ _ => exact .ended (ends_terminateAll _ _)
  | _ => exact .ended (.refl _)

/-- Only `activate()` and `deactivate()` change the activation flags. -/
theorem activation_effect {s s' : ActionServerState Goal Result} {l : Label Goal Result}
    (he : Effect s l s') (hact : l ≠ .activate) (hdeact : l ≠ .deactivate) :
    s'.server.activation = s.server.activation := by
  have hgoals := goalsEffect_of_effect he
  generalize s'.server = server at hgoals
  cases hgoals with
  | ended h => exact h.activation
  | added _ => rfl
  | canceling _ =>
    unfold cancelGoal
    split <;> rfl
  | activated h => exact absurd h hact
  | deactivated h => exact absurd h hdeact

end Nav3D.Util

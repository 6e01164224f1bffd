/-
Nav3D.Util.ActionServerCancel — what becomes of a goal whose cancellation
has been accepted.

`terminate` ends a canceling goal CANCELED, and every operation but one
ends goals through it or through `succeeded_current`. The exception is
`accept_pending_goal`, which aborts the current goal whatever state it is
in (`AbortsCanceling`). As long as it is not called while a canceling goal
is current and another one pending, the canceling goal stays so until it
ends CANCELED or SUCCEEDED (`keepsCancel_effect`).

A goal may also enter the canceling state inside a locked section:
rclcpp_action calls `_cancel_goal()` without `update_mutex_`, so the call
may come between the test of `is_canceling()` in `terminate` (or the test
of `is_active` in `accept_pending_goal`) and the `abort()` that follows.
`CancelState` keeps the goals that have entered the state, and a step of
its system (`cancelStep`) names the goals that enter it in this way.

All of this holds under every execute callback (`ExecuteLoop`), so under
every loop of the repository.
-/
import Nav3D.Util.ActionServerGoals

namespace Nav3D.Util

open Nav3D.Ros

variable {Goal Result : Type}

namespace SimpleActionServer

variable {s s' s'' : SimpleActionServer Goal Result}

/-- Goal `g` is canceling, or has ended CANCELED or SUCCEEDED. -/
def CancelKept (s : SimpleActionServer Goal Result) (g : GoalId) : Prop :=
  s.status g = .canceling ∨ s.status g = .canceled ∨ s.status g = .succeeded

/-- From `s` to `s'` goal `g`, if it is canceling, is not aborted. -/
def KeepsCancel (g : GoalId) (s s' : SimpleActionServer Goal Result) : Prop :=
  s.CancelKept g → s'.CancelKept g

variable {g : GoalId}

/-- Only the states of the goals matter. -/
theorem CancelKept.congr (h : s.CancelKept g) (hstatus : s'.status g = s.status g) :
    s'.CancelKept g := by
  unfold CancelKept
  rw [hstatus]
  exact h

/-- A goal that is not canceling, nor has ended well, may get any state. -/
theorem keepsCancel_setStatus {g' : GoalId} {st : GoalStatus}
    (h : g' = g → s.CancelKept g → st = .canceling ∨ st = .canceled ∨ st = .succeeded) :
    KeepsCancel g s (s.setStatus g' st) := by
  intro hg
  unfold CancelKept
  rw [status_setStatus]
  split
  · next heq => exact h heq.1.symm hg
  · exact hg

theorem keepsCancel_addHandle {g' : GoalId} (hfresh : s.handles g' = none) (goal : Goal) :
    KeepsCancel g s (s.addHandle g' goal) := by
  intro hg
  have hne : g ≠ g' := by
    rintro rfl
    simp [CancelKept, status, hfresh] at hg
  simpa [CancelKept, status, addHandle, hne] using hg

theorem keepsCancel_cancelGoal (s : SimpleActionServer Goal Result) (g' : GoalId) :
    KeepsCancel g s (s.cancelGoal g') := by
  unfold cancelGoal
  split
  · exact keepsCancel_setStatus fun _ _ => .inl rfl
  · intro hg
    exact hg

/-- A `_cancel_goal()` right before the end of a goal does not show in what
the end leaves: `abort()` is allowed on a canceling goal as well. -/
theorem finish_cancelGoal (s : SimpleActionServer Goal Result) (g : GoalId) (st : GoalStatus)
    (r : Result) : (s.cancelGoal g).finish g st r = s.finish g st r := by
  unfold cancelGoal
  split
  · have hhandles : ((s.setStatus g .canceling).setStatus g st).handles =
        (s.setStatus g st).handles := by
      funext g'
      by_cases heq : g' = g
      · subst heq
        simp only [setStatus, Function.update_self, Option.map_map]
        rfl
      · simp [setStatus, heq]
    have hfields : (s.setStatus g .canceling).setStatus g st = s.setStatus g st := by
      simp only [setStatus] at hhandles ⊢
      rw [hhandles]
    rw [finish, finish, hfields]
    rfl
  · rfl

/-- A goal that is active and kept is canceling. -/
theorem CancelKept.canceling (h : s.CancelKept g) (hact : s.active g = true) :
    s.status g = .canceling := by
  rcases h with hst | hst | hst
  · exact hst
  · rw [active, hst] at hact; cases hact
  · rw [active, hst] at hact; cases hact

/-- Goals that are ended keep the goal, unless it is canceling and ended in
another way. -/
theorem keepsCancel_of_ends {P : SimpleActionServer Goal Result → GoalId → GoalStatus → Prop}
    (hP : ∀ t st, t.status g = .canceling → P t g st → st = .canceled ∨ st = .succeeded)
    (h : Ends P s s') : KeepsCancel g s s' := by
  intro hg
  induction h with
  | done hsame => exact hg.congr (hsame.status g)
  | @finish t u g' st r _ hact _ hrule hsame ih =>
    have hfinish : KeepsCancel g t (t.setStatus g' st) := by
      refine keepsCancel_setStatus fun heq hkept => ?_
      rw [heq] at hact hrule
      exact .inr (hP t st (hkept.canceling hact) hrule)
    exact (hfinish ih).congr (hsame.status g)

/-- No goal is made canceling by being ended. -/
theorem Ends.canceling {P : SimpleActionServer Goal Result → GoalId → GoalStatus → Prop}
    (h : Ends P s s') (hg : s'.status g = .canceling) : s.status g = .canceling := by
  induction h with
  | done hsame => exact (hsame.status g).symm.trans hg
  | @finish t u g' st r _ _ hterminal _ hsame ih =>
    have hfinish : (t.setStatus g' st).status g = .canceling := (hsame.status g).symm.trans hg
    rw [status_setStatus] at hfinish
    split at hfinish
    · rw [hfinish] at hterminal
      cases hterminal
    · exact ih hfinish

/-- `terminate` tells canceling goals apart. -/
theorem keepsCancel_of_endsByState (h : Ends EndsByState s s') : KeepsCancel g s s' := by
  refine keepsCancel_of_ends (fun t st hcanceling hst => .inl ?_) h
  have hc : t.isCanceling g = true := by simp [isCanceling, hcanceling]
  rw [EndsByState, if_pos hc] at hst
  exact hst

theorem keepsCancel_of_endsWell {t : SimpleActionServer Goal Result} (h : Ends (EndsWell t) s s') :
    KeepsCancel g s s' :=
  keepsCancel_of_ends (fun _ _ _ hst => .inr hst.2.2) h

/-- `accept_pending_goal` is going to abort goal `g`, which is canceling. -/
def AbortsCanceling (s : SimpleActionServer Goal Result) (g : GoalId) : Prop :=
  s.currentHandle = some g ∧ s.status g = .canceling ∧
    s.isActive s.pendingHandle = true ∧ s.pendingHandle ≠ some g

instance (s : SimpleActionServer Goal Result) (g : GoalId) : Decidable (s.AbortsCanceling g) :=
  inferInstanceAs (Decidable (_ ∧ _ ∧ _ ∧ _))

theorem keepsCancel_of_endsPreempted (hnot : ¬ s.AbortsCanceling g)
    (h : Ends (EndsPreempted s) s s') : KeepsCancel g s s' := by
  refine keepsCancel_of_ends (fun t st hcanceling hst => ?_) h
  obtain ⟨rfl, hcurrent, hpending, hne, _⟩ := hst
  exact absurd ⟨hcurrent, hcanceling, hpending, hne⟩ hnot

variable [Inhabited Result]

/-- What is excluded does abort the goal. -/
theorem acceptPendingGoal_aborts (h : s.AbortsCanceling g) :
    s.acceptPendingGoal.1.status g = .aborted := by
  obtain ⟨hc, hst, hpending, hne⟩ := h
  have hact : s.active g = true := by rw [active, hst]; rfl
  have heq : s.acceptPendingGoal.1 = { s.finish g .aborted emptyResult with
      currentHandle := s.pendingHandle, pendingHandle := none, preemptRequested := false } := by
    rw [acceptPendingGoal, if_pos hpending]
    simp [acceptPending, hc, hact, Ne.symm hne]
  rw [heq]
  show (s.setStatus g .aborted).status g = .aborted
  rw [status_setStatus, if_pos ⟨rfl, isSome_of_active hact⟩]

end SimpleActionServer

/-! ## Steps -/

variable [Inhabited Result]

open SimpleActionServer

/-- A call of `accept_pending_goal`. -/
def Label.acceptsPending : Label Goal Result → Bool
  | .call .acceptPendingGoal => true
  | _ => false

/-- `accept_pending_goal` is not called while goal `g` is the current one,
is canceling, and another goal is pending. -/
def SparesCanceling (g : GoalId) (s : ActionServerState Goal Result) (l : Label Goal Result) :
    Prop :=
  l.acceptsPending = true → ¬ s.server.AbortsCanceling g

instance (g : GoalId) (s : ActionServerState Goal Result) (l : Label Goal Result) :
    Decidable (SparesCanceling g s l) :=
  inferInstanceAs (Decidable (_ → ¬ _))

theorem keepsCancel_effect {g : GoalId} {s s' : ActionServerState Goal Result}
    {l : Label Goal Result} (he : Effect s l s') (hc : SparesCanceling g s l) :
    KeepsCancel g s.server s'.server := by
  have hgoals := goalsEffect_of_effect he
  generalize s'.server = server at hgoals
  cases hgoals with
  | ended h =>
    unfold endRule at h
    split at h
    · exact keepsCancel_of_endsPreempted (hc rfl) h
    · exact keepsCancel_of_endsWell h
    · exact keepsCancel_of_endsByState h
  | added hfresh => exact keepsCancel_addHandle hfresh _
  | canceling _ => exact keepsCancel_cancelGoal _ _
  | activated _ => exact fun hg => hg
  | deactivated _ => exact fun hg => hg

/-- A goal that is canceling after a step was so before, or the step is its
`_cancel_goal()`. -/
theorem canceling_effect {g : GoalId} {s s' : ActionServerState Goal Result}
    {l : Label Goal Result} (he : Effect s l s') (hg : s'.server.status g = .canceling) :
    s.server.status g = .canceling ∨ l = .cancelGoal g ∧ s.server.status g = .executing := by
  have hgoals := goalsEffect_of_effect he
  generalize s'.server = server at hgoals hg
  cases hgoals with
  | ended h => exact .inl (h.canceling hg)
  | @added g' goal hfresh =>
    left
    by_cases heq : g = g'
    · subst heq
      simp [status, addHandle] at hg
    · simpa [status, addHandle, heq] using hg
  | @canceling g' hl =>
    unfold cancelGoal at hg
    split at hg
    · next hexec =>
      rw [status_setStatus] at hg
      split at hg
      · next heq =>
        rw [heq.1]
        exact .inr ⟨hl, hexec⟩
      · exact .inl hg
    · exact .inl hg
  | activated _ => exact .inl hg
  | deactivated _ => exact .inl hg

/-- `_cancel_goal()` on a goal that executes. -/
theorem status_of_cancelGoal {g : GoalId} {s s' : ActionServerState Goal Result}
    (hexec : s.server.status g = .executing) (h : serverStep s (.cancelGoal g) = some s') :
    s'.server.status g = .canceling := by
  simp only [serverStep] at h
  split at h
  · cases h
    have hact : s.server.active g = true := by rw [active, hexec]; rfl
    show (s.server.cancelGoal g).status g = .canceling
    rw [cancelGoal, if_pos hexec, status_setStatus, if_pos ⟨rfl, isSome_of_active hact⟩]
  · cases h

/-! ## Execute loops -/

/-- `s'` is `s` after the step `k`, if there is one. -/
def StepsServer (s : ActionServerState Goal Result) (k : Option (Label Goal Result))
    (s' : ActionServerState Goal Result) : Prop :=
  match k with
  | none => s' = s
  | some k => serverStep s k = some s'

/-- An action server with an execute callback whose locked sections are
interleaved with the other parties. -/
structure ExecuteLoop (Goal Result : Type) [Inhabited Result] (X L : Type) where
  system : Transition.System X L
  server : X → ActionServerState Goal Result
  /-- The step of the server that a step of the whole is, if it is one. -/
  serverLabel : X → L → Option (Label Goal Result)
  init_server : ∀ x, system.init x → server x = initialState
  step_server : ∀ x l x', system.step x l = some x' →
    StepsServer (server x) (serverLabel x l) (server x')

namespace ExecuteLoop

variable {X L : Type} (loop : ExecuteLoop Goal Result X L)

/-- A step leaves the server, or is a step of it. -/
theorem server_cases {x x' : X} {l : L} (h : loop.system.step x l = some x') :
    loop.server x' = loop.server x ∨
      ∃ k, loop.serverLabel x l = some k ∧
        serverStep (loop.server x) k = some (loop.server x') := by
  have hserver := loop.step_server x l x' h
  cases hk : loop.serverLabel x l with
  | none =>
    rw [hk] at hserver
    exact .inl hserver
  | some k =>
    rw [hk] at hserver
    exact .inr ⟨k, rfl, hserver⟩

/-- The server after a step is in order. -/
theorem serverInv_step {x x' : X} {l : L} (hinv : ServerInv (loop.server x))
    (h : loop.system.step x l = some x') : ServerInv (loop.server x') := by
  rcases loop.server_cases h with hsame | ⟨k, _, hserver⟩
  · rw [hsame]
    exact hinv
  · exact serverInv_effect hinv (effect_of_step hinv hserver)

/-! ## Cancellations inside a locked section -/

/-- Goal `g`, whose cancellation `handle_cancel` has accepted, was not yet
canceling in `s` and is aborted in `s'`. -/
def AbortsAccepted (s s' : ActionServerState Goal Result) (g : GoalId) : Prop :=
  g ∈ s.cancels ∧ s.server.status g = .executing ∧ s'.server.status g = .aborted

instance (s s' : ActionServerState Goal Result) (g : GoalId) : Decidable (AbortsAccepted s s' g) :=
  inferInstanceAs (Decidable (_ ∧ _ ∧ _))

/-- A loop, with the goals whose handles have been canceling so far. -/
structure CancelState (X : Type) where
  loop : X
  entered : List GoalId

/-- The goals that a step of the loop makes canceling. -/
def canceledBy (x : X) (l : L) : List GoalId :=
  match loop.serverLabel x l with
  | some (.cancelGoal g) => if (loop.server x).server.status g = .executing then [g] else []
  | _ => []

/-- A step `l.1` of the loop, with the goals `l.2` that rclcpp_action makes
canceling while the step holds the mutex, between its tests and its
`abort()` of them. The server ends up as without these calls
(`finish_cancelGoal`), as the calls of `_cancel_goal()` at any other moment
of the step can be taken to come before or after it. -/
def cancelStep (s : CancelState X) (l : L × List GoalId) : Option (CancelState X) :=
  (loop.system.step s.loop l.1).bind fun x' =>
    if ∀ g ∈ l.2, AbortsAccepted (loop.server s.loop) (loop.server x') g then
      some ⟨x', s.entered ++ l.2 ++ loop.canceledBy s.loop l.1⟩
    else none

/-- A loop whose goals rclcpp_action cancels at any time. -/
def cancelSystem : Transition.System (CancelState X) (L × List GoalId) where
  init := fun s => loop.system.init s.loop ∧ s.entered = []
  step := loop.cancelStep

theorem cancelStep_cases {s s' : CancelState X} {l : L × List GoalId}
    (h : loop.cancelSystem.step s l = some s') :
    loop.system.step s.loop l.1 = some s'.loop ∧
      (∀ g ∈ l.2, AbortsAccepted (loop.server s.loop) (loop.server s'.loop) g) ∧
      s'.entered = s.entered ++ l.2 ++ loop.canceledBy s.loop l.1 := by
  have h' : (loop.system.step s.loop l.1).bind _ = some s' := h
  rw [Option.bind_eq_some_iff] at h'
  obtain ⟨x', hx, h'⟩ := h'
  split at h'
  · next hlate =>
    cases h'
    exact ⟨hx, hlate, rfl⟩
  · cases h'

theorem mem_canceledBy {x : X} {l : L} {g : GoalId} :
    g ∈ loop.canceledBy x l ↔
      loop.serverLabel x l = some (.cancelGoal g) ∧
        (loop.server x).server.status g = .executing := by
  unfold canceledBy
  split
  · next g' hlabel =>
    rw [hlabel]
    split
    · next hexec =>
      simp only [List.mem_singleton, Option.some.injEq, Label.cancelGoal.injEq]
      constructor
      · intro heq
        subst heq
        exact ⟨rfl, hexec⟩
      · exact fun h => h.1.symm
    · next hnot =>
      constructor
      · intro h
        cases h
      · intro h
        have heq : g' = g := by simpa using h.1
        subst heq
        exact absurd h.2 hnot
  · next hnone =>
    constructor
    · intro h
      cases h
    · exact fun h => absurd h.1 (hnone g)

/-- The server is in order, and a goal that is canceling has entered the
state. -/
structure CancelInv (s : CancelState X) : Prop where
  server : ServerInv (loop.server s.loop)
  entered : ∀ g, (loop.server s.loop).server.status g = .canceling → g ∈ s.entered

theorem cancelInv_step {s s' : CancelState X} {l : L × List GoalId} (hinv : loop.CancelInv s)
    (h : loop.cancelSystem.step s l = some s') : loop.CancelInv s' := by
  obtain ⟨hstep, _, hentered⟩ := loop.cancelStep_cases h
  refine ⟨loop.serverInv_step hinv.server hstep, fun g hg => ?_⟩
  rw [hentered, List.mem_append, List.mem_append]
  rcases loop.server_cases hstep with hsame | ⟨k, hk, hserver⟩
  · rw [hsame] at hg
    exact .inl (.inl (hinv.entered g hg))
  · rcases canceling_effect (effect_of_step hinv.server hserver) hg with hold | ⟨rfl, hexec⟩
    · exact .inl (.inl (hinv.entered g hold))
    · exact .inr (loop.mem_canceledBy.mpr ⟨hk, hexec⟩)

theorem cancelInv {C : CancelState X → L × List GoalId → Prop} {s : CancelState X}
    (h : loop.cancelSystem.Reach C s) : loop.CancelInv s := by
  refine h.invariant loop.CancelInv (fun s hs => ?_) fun s l s' hinv _ hstep =>
    loop.cancelInv_step hinv hstep
  have hserver := loop.init_server s.loop hs.1
  constructor
  · rw [hserver]
    exact serverInv_initial
  · intro g hg
    rw [hserver] at hg
    cases hg

/-! ## Goals that are spared -/

/-- A step does not abort goal `g` after it has entered the canceling state:
it is not a call of `accept_pending_goal` while `g` is canceling, nor does
`g` enter the state while the step is about to abort it. -/
def Spares (g : GoalId) (s : CancelState X) (l : L × List GoalId) : Prop :=
  (∀ k ∈ loop.serverLabel s.loop l.1, SparesCanceling g (loop.server s.loop) k) ∧ g ∉ l.2

instance (g : GoalId) (s : CancelState X) (l : L × List GoalId) : Decidable (loop.Spares g s l) :=
  inferInstanceAs (Decidable ((∀ k ∈ loop.serverLabel s.loop l.1, _) ∧ _))

/-- One step that spares the goal. -/
theorem cancelKept_step {g : GoalId} {s s' : CancelState X} {l : L × List GoalId}
    (hinv : loop.CancelInv s)
    (hkept : g ∈ s.entered → (loop.server s.loop).server.CancelKept g)
    (hc : loop.Spares g s l) (h : loop.cancelSystem.step s l = some s') (hg : g ∈ s'.entered) :
    (loop.server s'.loop).server.CancelKept g := by
  obtain ⟨hstep, _, hentered⟩ := loop.cancelStep_cases h
  rw [hentered, List.mem_append, List.mem_append] at hg
  rcases hg with (hold | hlate) | hnew
  · rcases loop.server_cases hstep with hsame | ⟨k, hk, hserver⟩
    · rw [hsame]
      exact hkept hold
    · exact keepsCancel_effect (effect_of_step hinv.server hserver) (hc.1 k hk) (hkept hold)
  · exact absurd hlate hc.2
  · obtain ⟨hlabel, hexec⟩ := loop.mem_canceledBy.mp hnew
    have hserver := loop.step_server s.loop l.1 s'.loop hstep
    rw [hlabel] at hserver
    exact .inl (status_of_cancelGoal hexec hserver)

/-- A step that does not spare it aborts it. -/
theorem aborted_step {g : GoalId} {s s' : CancelState X} {l : L × List GoalId}
    (hinv : loop.CancelInv s) (hc : ¬ loop.Spares g s l)
    (h : loop.cancelSystem.step s l = some s') :
    g ∈ s'.entered ∧ (loop.server s'.loop).server.status g = .aborted := by
  obtain ⟨hstep, hlate, hentered⟩ := loop.cancelStep_cases h
  rw [hentered, List.mem_append, List.mem_append]
  by_cases hmem : g ∈ l.2
  · exact ⟨.inl (.inr hmem), (hlate g hmem).2.2⟩
  · unfold Spares SparesCanceling at hc
    rw [not_and_or, not_not] at hc
    push Not at hc
    obtain ⟨k, hk, haccepts, haborts⟩ := hc.resolve_right hmem
    refine ⟨.inl (.inl (hinv.entered g haborts.2.1)), ?_⟩
    have hserver := loop.step_server s.loop l.1 s'.loop hstep
    rw [show loop.serverLabel s.loop l.1 = some k from hk] at hserver
    unfold Label.acceptsPending at haccepts
    split at haccepts
    · have heq : loop.server s'.loop = { loop.server s.loop with
          server := (loop.server s.loop).server.acceptPendingGoal.1 } :=
        (Option.some.inj hserver).symm
      rw [heq]
      exact acceptPendingGoal_aborts haborts
    · cases haccepts

end ExecuteLoop

end Nav3D.Util

/-
Nav3D.BehaviorTree.ActionNodeResults — whose result a `BtActionNode`
reports.

Results of earlier goals may arrive in any spin. The node tells them apart
by `future_goal_handle_`, which is set while the last goal is not
acknowledged, and by the goal id of `goal_handle_`. While the node is
active both name the request that it has sent last (`Aligned`): every move
of a tick keeps this (`along_move`), so a result that is reported is the
result of that request (`reports_last_goal`).
-/
import Nav3D.BehaviorTree.ActionNodeTrace

namespace Nav3D.BehaviorTree

open Nav3D.Ros StateInvariant Transition.System
open BT (NodeStatus)

variable {Goal Result Feedback B : Type}

/-! ## Runs under a parent -/

/-- The request sent last has been given up. -/
def ActionNode.gaveUp (s : ActionNode Goal Result Feedback B) : Bool :=
  s.requests.getLast?.any (·.abandoned)

/-- The parent resets a node that has completed before it ticks it again. A
node that is still RUNNING though it has given up its request has thrown
from `on_timeout()`; the tree is halted then. -/
def ActionNode.mayTick (s : ActionNode Goal Result Feedback B) : Bool :=
  s.status == .idle || s.status == .running && !s.gaveUp

/-- A node and, for the record, how many requests it had sent when it was
activated last. -/
structure Activation (Goal Result Feedback B : Type) where
  node : ActionNode Goal Result Feedback B
  base : Nat

/-- How many requests were sent before the activation that a tick is part
of. -/
def Activation.tickBase (s : Activation Goal Result Feedback B) : Nat :=
  if s.node.status = .running then s.base else s.node.requests.length

def activationStep (hooks : ActionHooks Goal Result Feedback B) (params : ActionParams)
    (s : Activation Goal Result Feedback B) :
    ActionLabel Result Feedback → Option (Activation Goal Result Feedback B)
  | .tick input =>
    if s.node.mayTick then
      (actionStep hooks params s.node (.tick input)).map fun node => ⟨node, s.tickBase⟩
    else none
  | l => (actionStep hooks params s.node l).map fun node => ⟨node, s.base⟩

/-- A node under any sequence of halts, resets and ticks that its parent may
make, with any server. -/
def activationSystem (hooks : ActionHooks Goal Result Feedback B) (params : ActionParams) :
    Transition.System (Activation Goal Result Feedback B) (ActionLabel Result Feedback) where
  init := fun s => ∃ blackboard, s = ⟨ActionNode.initial hooks blackboard, 0⟩
  step := activationStep hooks params

/-- The node's result is that of the goal accepted last for the activation:
of the request sent last, which has been accepted. -/
def LastResult (base : Nat) (s : ActionNode Goal Result Feedback B) : Prop :=
  ∃ (i : Nat) (r : Request Goal Result) (expired : Bool), s.requests[i]? = some r ∧
    base ≤ i ∧ i + 1 = s.requests.length ∧ r.accepted = some true ∧ r.terminal = true ∧
    (∀ j, s.goalHandle = some j → j = i) ∧ s.result = wrapResult expired r

/-! ## What the node follows -/

/-- The node waits for the result of request `i`, or has taken it over. -/
def Follows (s : ActionNode Goal Result Feedback B) (i : GoalId) (r : Request Goal Result) :
    Prop :=
  (s.goalResultAvailable = false ∧ s.awaited = some i ∧ s.result.code = .unknown ∧
    (s.futureGoalHandle = none → r.accepted = some true)) ∨
  (s.goalResultAvailable = true ∧ s.futureGoalHandle = none ∧
    (∀ j, s.goalHandle = some j → j = i) ∧ r.accepted = some true ∧ r.terminal = true ∧
    ∃ expired, s.result = wrapResult expired r)

/-- What the node follows is the request sent last, and sent since it was
activated. -/
structure Aligned (base : Nat) (s : ActionNode Goal Result Feedback B) : Prop where
  valid : RequestsValid s.requests
  follows : ∃ (i : Nat) (r : Request Goal Result), s.requests[i]? = some r ∧ base ≤ i ∧
    i + 1 = s.requests.length ∧ Follows s i r

variable {base : Nat} {s s' : ActionNode Goal Result Feedback B}

theorem gaveUp_eq {i : Nat} {r : Request Goal Result} (hr : s.requests[i]? = some r)
    (hlast : i + 1 = s.requests.length) : s.gaveUp = r.abandoned := by
  rw [ActionNode.gaveUp, List.getLast?_eq_getElem?, ← hlast, Nat.add_sub_cancel, hr]
  rfl

/-- A node that holds no result follows the goal it waits for. -/
theorem Aligned.waits (h : Aligned base s) (havailable : s.goalResultAvailable = false) :
    s.result.code = .unknown := by
  obtain ⟨i, r, _, _, _, ⟨_, _, hcode, _⟩ | ⟨htrue, _⟩⟩ := h.follows
  · exact hcode
  · rw [htrue] at havailable
    cases havailable

/-- While a goal response is awaited, the request sent last is the one
awaited. -/
theorem Aligned.awaits (h : Aligned base s) {i : Nat} (hfuture : s.futureGoalHandle = some i) :
    ∃ r, s.requests[i]? = some r ∧ base ≤ i ∧ i + 1 = s.requests.length ∧
      s.goalResultAvailable = false := by
  obtain ⟨j, r, hr, hbase, hlast, ⟨hfalse, hawaited, _⟩ | ⟨_, hnone, _⟩⟩ := h.follows
  · rw [ActionNode.awaited, hfuture] at hawaited
    cases hawaited
    exact ⟨r, hr, hbase, hlast, hfalse⟩
  · rw [hnone] at hfuture
    cases hfuture

theorem Aligned.lastResult (h : Aligned base s) (hcode : s.result.code ≠ .unknown) :
    LastResult base s := by
  obtain ⟨i, r, hr, hbase, hlast, ⟨_, _, hunknown, _⟩ | ⟨_, _, hheld, hacc, hterm, expired, hresult⟩⟩
    := h.follows
  · exact absurd hunknown hcode
  · exact ⟨i, r, expired, hr, hbase, hlast, hacc, hterm, hheld, hresult⟩

/-- The requests grow, and no result comes in or only that of the goal
held. -/
theorem Aligned.spun (h : Aligned base s) (hspun : Spun s s') : Aligned base s' := by
  refine ⟨hspun.valid, ?_⟩
  obtain ⟨i, r, hr, hbase, hlast, hfollows⟩ := h.follows
  obtain ⟨r', hr', hgrow⟩ := hspun.grow i r hr
  refine ⟨i, r', hr', hbase, hlast.trans hspun.length.symm, ?_⟩
  have hheld : (∀ j, s.goalHandle = some j → j = i) → ∀ j, s'.goalHandle = some j → j = i :=
    fun hj j hs' => hj j (hspun.goalHandle.symm.trans hs')
  rcases hspun.result with ⟨havailable, hresult⟩ |
    ⟨htrue, hnone, j, rj, expired, hj, hrj, hterm, hresult⟩
  · rcases hfollows with ⟨hfalse, hawaited, hcode, hacc⟩ |
      ⟨htrue, hnone, hj, hacc, hterm, expired, hres⟩
    · refine .inl ⟨havailable.trans hfalse, ?_, by rw [hresult]; exact hcode, fun hf => ?_⟩
      · rw [ActionNode.awaited, hspun.futureGoalHandle, hspun.goalHandle]
        exact hawaited
      · exact hgrow.accepted _ (hacc (hspun.futureGoalHandle.symm.trans hf))
    · exact .inr ⟨havailable.trans htrue, hspun.futureGoalHandle.trans hnone, hheld hj,
        hgrow.accepted _ hacc, hgrow.terminal hterm, expired,
        hresult.trans (hres.trans (wrapResult_grows hgrow hterm expired).symm)⟩
  · -- the goal held is the one followed
    have hij : j = i ∧ r.accepted = some true := by
      rcases hfollows with ⟨_, hawaited, _, hacc⟩ | ⟨_, _, hheld, hacc, _⟩
      · rw [ActionNode.awaited, hnone, hj] at hawaited
        exact ⟨Option.some.inj hawaited, hacc hnone⟩
      · exact ⟨hheld j hj, hacc⟩
    obtain ⟨rfl, hacc⟩ := hij
    rw [hr'] at hrj
    cases hrj
    refine .inr ⟨htrue, hspun.futureGoalHandle.trans hnone, fun k hk => ?_,
      hgrow.accepted _ hacc, hterm, expired, hresult⟩
    rw [hspun.goalHandle, hj] at hk
    exact (Option.some.inj hk).symm

/-- A request that has been given up stays so. -/
theorem gaveUp_spun (hspun : Spun s s') (h : s'.gaveUp = false) : s.gaveUp = false := by
  cases hgave : s.gaveUp with
  | false => rfl
  | true =>
    rw [ActionNode.gaveUp, Option.any_eq_true] at hgave
    obtain ⟨r, hr, habandoned⟩ := hgave
    rw [List.getLast?_eq_getElem?] at hr
    obtain ⟨r', hr', hg⟩ := hspun.grow _ r hr
    have hlt := (List.getElem?_eq_some_iff.mp hr).1
    have hlength := hspun.length
    rw [gaveUp_eq hr' (by omega), hg.abandoned habandoned] at h
    cases h

/-! ## One move of a tick -/

/-- What holds where a tick stands, in an activation that began with `base`
requests. -/
def Along (base : Nat) : TickPc → ActionNode Goal Result Feedback B → Prop
  | .start, s => RequestsValid s.requests ∧
    (s.status.isActive = true → s.status = .running ∧ Aligned base s) ∧
    (s.status.isActive = false → s.requests.length = base)
  | .sending false, s => RequestsValid s.requests ∧ s.requests.length = base ∧
    s.result.code = .unknown
  | .sending true, s => Aligned base s ∧ s.futureGoalHandle = none ∧
    s.goalResultAvailable = false
  | .awaiting _, s => Aligned base s ∧ s.futureGoalHandle.isSome = true
  | .lost, s => RequestsValid s.requests ∧ s.gaveUp = true
  | .body, s => Aligned base s
  | .acknowledged, s => Aligned base s ∧ s.futureGoalHandle = none
  | .waited, s => Aligned base s ∧ s.futureGoalHandle = none ∧ s.goalResultAvailable = false
  | .spinning, s => Aligned base s ∧ s.futureGoalHandle = none
  | .reporting, s => Aligned base s
  | .returned status, s => RequestsValid s.requests ∧ (status = .failure ∨ Aligned base s)
  | .raised e, s => RequestsValid s.requests ∧ e ≠ .nullDeref ∧
    (s.status = .running → Aligned base s ∨ s.gaveUp = true)

/-- A goal is sent, and is the one followed from now on. -/
theorem aligned_send (hvalid : RequestsValid s.requests) (hbase : base ≤ s.requests.length)
    (hcode : s.result.code = .unknown) (update : Bool) : Aligned base (s.send update) := by
  refine ⟨send_valid hvalid update, s.requests.length, Request.new s.hook.goal update, ?_, hbase,
    ?_, .inl ⟨rfl, rfl, hcode, fun hf => by cases hf⟩⟩
  · exact List.getElem?_concat_length
  · rw [ActionNode.send, List.length_append, List.length_singleton]

theorem Aligned.length (h : Aligned base s) : base ≤ s.requests.length := by
  obtain ⟨i, _, _, hbase, hlast, _⟩ := h.follows
  omega

theorem Aligned.mono (h : Aligned base s) {base' : Nat} (hle : base' ≤ base) : Aligned base' s := by
  obtain ⟨i, r, hr, hbase, hlast, hfollows⟩ := h.follows
  exact ⟨h.valid, i, r, hr, Nat.le_trans hle hbase, hlast, hfollows⟩

/-- The request awaited is given up. -/
theorem gaveUp_abandon (h : Aligned base s) (hfuture : s.futureGoalHandle.isSome = true) :
    s.abandon.gaveUp = true := by
  obtain ⟨i, hi⟩ := Option.isSome_iff_exists.mp hfuture
  obtain ⟨r, hr, _, hlast, _⟩ := h.awaits hi
  have habandon : s.abandon.requests = s.requests.modify i Request.abandon := by
    rw [ActionNode.abandon, hi]
  have hr' : s.abandon.requests[i]? = some r.abandon := by
    rw [habandon, List.getElem?_modify, hr]
    simp
  rw [gaveUp_eq hr' (by rw [habandon, List.length_modify, hlast])]
  rfl

/-- The goal awaited is held. -/
theorem aligned_taken (h : Aligned base s) {i : Nat} (hfuture : s.futureGoalHandle = some i)
    (hspun : Spun s s') (hacc : AcceptedIn s'.requests i) :
    Aligned base { s' with goalHandle := some i, futureGoalHandle := none } := by
  have h' := h.spun hspun
  obtain ⟨r, hr, hbase, hlast, hfalse⟩ := h'.awaits (hspun.futureGoalHandle.trans hfuture)
  refine ⟨hspun.valid, i, r, hr, hbase, hlast, .inl ⟨hfalse, rfl, h'.waits hfalse, fun _ => ?_⟩⟩
  rw [AcceptedIn, hr] at hacc
  exact beq_iff_eq.mp hacc

/-- The result taken over is reported. -/
theorem aligned_reported {hooks : ActionHooks Goal Result Feedback B} {f : HookM Goal B NodeStatus}
    (h : Aligned base s) (hf : callsFor hooks s.result = some f) (hook : HookState Goal B) :
    Aligned base { s with hook := hook, goalHandle := none, reported := s.goalHandle } := by
  refine ⟨h.valid, ?_⟩
  obtain ⟨i, r, hr, hbase, hlast, ⟨_, _, hcode, _⟩ | ⟨htrue, hnone, _, hacc, hterm, hresult⟩⟩
    := h.follows
  · rw [callsFor, hcode] at hf
    cases hf
  · exact ⟨i, r, hr, hbase, hlast, .inr ⟨htrue, hnone, fun _ hf => (by cases hf), hacc, hterm,
      hresult⟩⟩

/-- **Every move keeps the node aligned.** -/
theorem along_move {hooks : ActionHooks Goal Result Feedback B}
    {es : List (SpinEvent Result Feedback)} {pc pc' : TickPc} (h : Along base pc s)
    (hmove : TickMove hooks es pc s pc' s') : Along base pc' s' := by
  cases hmove with
  | resumed hactive => exact (h.2.1 hactive).2
  | started hidle => exact ⟨h.1, h.2.2 hidle, rfl⟩
  | notStarted => exact ⟨h.1, .inl rfl⟩
  | startFailed hidle =>
    refine ⟨h.1, ActionFailure.noConfusion, fun hrunning => ?_⟩
    rw [show s.status = .running from hrunning] at hidle
    cases hidle
  | sentFirst => exact aligned_send h.1 (Nat.le_of_eq h.2.1.symm) h.2.2 false
  | sentUpdate => exact ⟨aligned_send h.1.valid h.1.length (h.1.waits h.2.2) true, rfl⟩
  | awaits hfuture => exact ⟨h, hfuture⟩
  | goesOn hnone => exact ⟨h, hnone⟩
  | givenUp => exact ⟨abandon_valid h.1.valid, gaveUp_abandon h.1 h.2⟩
  | @taken _ s' update i hfuture hspun _ _ hacc =>
    have htaken := aligned_taken h.1 hfuture hspun hacc
    cases update with
    | true => exact ⟨htaken, rfl⟩
    | false => exact ⟨htaken, rfl⟩
  | rejected _ hspun => exact ⟨hspun.valid, .inl rfl⟩
  | interrupted hspun => exact ⟨abandon_valid hspun.valid, .inl rfl⟩
  | stillAwaits _ hspun => exact ⟨hspun.valid, .inr (h.1.spun hspun)⟩
  | timedOut hspun =>
    refine ⟨abandon_valid hspun.valid, gaveUp_abandon (h.1.spun hspun) ?_⟩
    rw [hspun.futureGoalHandle]
    exact h.2
  | toldTimeout => exact ⟨h.1, .inl rfl⟩
  | timeoutFailed => exact ⟨h.1, ActionFailure.noConfusion, fun _ => .inr h.2⟩
  | waits hfalse => exact ⟨⟨h.1.valid, h.1.follows⟩, h.2, hfalse⟩
  | waitFailed => exact ⟨h.1.valid, ActionFailure.noConfusion, fun _ => .inl ⟨h.1.valid, h.1.follows⟩⟩
  | waitsNot => exact h.1
  | noHandle hhandle =>
    -- the goal awaited is held
    obtain ⟨i, _, _, _, _, ⟨_, hawaited, _⟩ | ⟨htrue, _⟩⟩ := h.1.follows
    · rw [ActionNode.awaited, h.2.1, hhandle] at hawaited
      cases hawaited
    · rw [h.2.2] at htrue
      cases htrue
  | updates => exact ⟨⟨h.1.valid, h.1.follows⟩, h.2.1, h.2.2⟩
  | keeps => exact ⟨h.1, h.2.1⟩
  | spunToResult hspun => exact h.1.spun hspun
  | spun hspun => exact ⟨hspun.valid, .inr (h.1.spun hspun)⟩
  | reported hf => exact ⟨h.valid, .inr (aligned_reported h hf _)⟩
  | reportFailed => exact ⟨h.valid, ActionFailure.noConfusion, fun _ => .inl ⟨h.valid, h.follows⟩⟩
  | noCode => exact ⟨h.valid, ActionFailure.noConfusion, fun _ => .inl h⟩

/-! ## Whole ticks and halts -/

/-- What holds between the calls of the node: one that is RUNNING and has
not given up its request is aligned. -/
structure AlignedNode (base : Nat) (s : ActionNode Goal Result Feedback B) : Prop where
  valid : RequestsValid s.requests
  aligned : s.status = .running → s.gaveUp = false → Aligned base s

theorem Aligned.node (h : Aligned base s) : AlignedNode base s := ⟨h.valid, fun _ _ => h⟩

theorem AlignedNode.spun (h : AlignedNode base s) (hspun : Spun s s') : AlignedNode base s' :=
  ⟨hspun.valid, fun hrunning hkept =>
    (h.aligned (hspun.status.symm.trans hrunning) (gaveUp_spun hspun hkept)).spun hspun⟩

/-- What an exception leaves. -/
def RaisedAligned (base : Nat) (e : ActionFailure) (s : ActionNode Goal Result Feedback B) :
    Prop :=
  e ≠ .nullDeref ∧ AlignedNode base s

/-- Where the parent may tick. -/
theorem along_start {s : Activation Goal Result Feedback B} (h : AlignedNode s.base s.node)
    (hmay : s.node.mayTick = true) : Along s.tickBase .start s.node := by
  rw [ActionNode.mayTick, Bool.or_eq_true, Bool.and_eq_true, beq_iff_eq, beq_iff_eq,
    Bool.not_eq_true'] at hmay
  refine ⟨h.valid, fun hactive => ?_, fun hinactive => ?_⟩
  · rcases hmay with hidle | ⟨hrunning, hkept⟩
    · rw [hidle] at hactive
      cases hactive
    · rw [Activation.tickBase, if_pos hrunning]
      exact ⟨hrunning, h.aligned hrunning hkept⟩
  · rcases hmay with hidle | ⟨hrunning, _⟩
    · rw [Activation.tickBase, if_neg (by rw [hidle]; exact NodeStatus.noConfusion)]
    · rw [hrunning] at hinactive
      cases hinactive

/-- **A tick** from where the parent may tick. -/
theorem executeTick_aligned {hooks : ActionHooks Goal Result Feedback B} {params : ActionParams}
    {input : TickInput Result Feedback} (h : Along base .start s) :
    Triple (· = s) (executeTick hooks params input) (fun _ => AlignedNode base)
      (RaisedAligned base) := by
  refine triple_conseq (executeTick_trace h.1) (fun _ hs => hs) ?_ ?_
  · rintro status _ ⟨s₁, hrun, rfl⟩
    obtain ⟨hvalid, hreturned⟩ := hrun.invariant (I := Along base) h fun _ _ _ _ => along_move
    rcases hreturned with rfl | haligned
    · exact ⟨hvalid, fun hrunning => by cases hrunning⟩
    · split
      · exact haligned.node
      · exact ⟨hvalid, fun _ _ => ⟨hvalid, haligned.follows⟩⟩
  · intro e s' hrun
    obtain ⟨hvalid, hne, hraised⟩ := hrun.invariant (I := Along base) h fun _ _ _ _ => along_move
    refine ⟨hne, hvalid, fun hrunning hkept => ?_⟩
    rcases hraised hrunning with haligned | hgaveUp
    · exact haligned
    · rw [hgaveUp] at hkept
      cases hkept

/-- **A halt.** -/
theorem halt_aligned {hooks : ActionHooks Goal Result Feedback B}
    {input : HaltInput Result Feedback} (h : AlignedNode base s) :
    Triple (· = s) (halt hooks input) (fun _ => AlignedNode base) (RaisedAligned base) := by
  refine triple_conseq (halt_trace h.valid) (fun _ hs => hs) ?_ ?_
  · rintro _ _ ⟨s₁, hook, hspun, _, rfl⟩
    exact ⟨hspun.valid, fun hrunning => by cases hrunning⟩
  · rintro _ _ ⟨rfl, s₁, hook, hspun, _, rfl⟩
    have hspun' := h.spun hspun
    refine ⟨ActionFailure.noConfusion, hspun.valid, fun hrunning hkept => ?_⟩
    exact ⟨hspun.valid, (hspun'.aligned hrunning hkept).follows⟩

theorem alignedNode_afterCall {α : Type} {x : ActionM Goal Result Feedback B α}
    (hx : Triple (· = s) x (fun _ => AlignedNode base) (RaisedAligned base))
    (hstep : afterCall x s = some s') : AlignedNode base s' := by
  have hpost := hx s rfl
  unfold afterCall at hstep
  cases hrun : x.run s with
  | ok a s₁ =>
    rw [hrun] at hpost hstep
    cases hstep
    exact hpost
  | error e s₁ =>
    rw [hrun] at hpost hstep
    cases e <;> cases hstep <;> exact hpost.2

/-- One step. -/
theorem alignedNode_step {hooks : ActionHooks Goal Result Feedback B} {params : ActionParams}
    {s s' : Activation Goal Result Feedback B} {l : ActionLabel Result Feedback}
    (h : AlignedNode s.base s.node) (hstep : activationStep hooks params s l = some s') :
    AlignedNode s'.base s'.node := by
  cases l with
  | tick input =>
    simp only [activationStep] at hstep
    split at hstep
    · next hmay =>
      obtain ⟨node, hnode, rfl⟩ := Option.map_eq_some_iff.mp hstep
      exact alignedNode_afterCall (executeTick_aligned (along_start h hmay)) hnode
    · cases hstep
  | halt input =>
    obtain ⟨node, hnode, rfl⟩ := Option.map_eq_some_iff.mp hstep
    exact alignedNode_afterCall (halt_aligned h) hnode
  | reset =>
    obtain ⟨node, hnode, rfl⟩ := Option.map_eq_some_iff.mp hstep
    simp only [actionStep] at hnode
    split at hnode
    · cases hnode
    · cases hnode
      exact ⟨h.valid, fun hrunning => by cases hrunning⟩
  | server e =>
    cases hstep
    obtain ⟨hvalid, hgrow, hlength⟩ := e.apply_spec h.valid
    exact h.spun (Spun.of_requests hvalid hgrow hlength)

theorem alignedNode_of_reach {hooks : ActionHooks Goal Result Feedback B} {params : ActionParams}
    {s : Activation Goal Result Feedback B} (h : (activationSystem hooks params).Reach anyStep s) :
    AlignedNode s.base s.node := by
  refine h.invariant (fun s => AlignedNode s.base s.node) ?_
    fun s l s' hs _ hstep => alignedNode_step hs hstep
  rintro _ ⟨blackboard, rfl⟩
  exact ⟨fun _ _ hr => (by cases hr), fun hrunning => by cases hrunning⟩

/-- A call that ends, with or without an exception. -/
def Ends {α : Type} (x : ActionM Goal Result Feedback B α)
    (s : ActionNode Goal Result Feedback B) : Prop :=
  (afterCall x s).isSome = true

theorem ends_of_aligned {α : Type} {x : ActionM Goal Result Feedback B α}
    (hx : Triple (· = s) x (fun _ => AlignedNode base) (RaisedAligned base)) : Ends x s := by
  have hpost := hx s rfl
  unfold Ends afterCall
  cases hrun : x.run s with
  | ok a s₁ => rfl
  | error e s₁ =>
    rw [hrun] at hpost
    cases e with
    | nullDeref => exact absurd rfl hpost.1
    | _ => rfl

/-- **The last goal is reported.** In every run, a tick that comes to report
a result has the result of the goal accepted last for its activation, and
no result of another goal is taken over between ticks either; and no tick
and no halt dereferences a null goal handle. -/
theorem reports_last_goal {hooks : ActionHooks Goal Result Feedback B} {params : ActionParams}
    {s : Activation Goal Result Feedback B} (h : (activationSystem hooks params).Reach anyStep s) :
    (∀ input s₁, s.node.mayTick = true →
      (tickToReport hooks params input).run s.node = .ok none s₁ → s₁.result.code ≠ .unknown →
      LastResult s.tickBase s₁) ∧
    (s.node.status = .running → s.node.gaveUp = false → s.node.result.code ≠ .unknown →
      LastResult s.base s.node) ∧
    (∀ input, s.node.mayTick = true → Ends (executeTick hooks params input) s.node) ∧
    ∀ input, Ends (halt hooks input) s.node := by
  have haligned := alignedNode_of_reach h
  refine ⟨fun input s₁ hmay hrun hcode => ?_, fun hrunning hkept hcode => ?_, fun input hmay => ?_,
    fun input => ?_⟩
  · have hstart := along_start haligned hmay
    have hleads := (tickToReport_trace hstart.1).ok rfl hrun
    have hreporting : Aligned s.tickBase s₁ :=
      hleads.invariant (I := Along s.tickBase) hstart fun _ _ _ _ => along_move
    exact hreporting.lastResult hcode
  · exact (haligned.aligned hrunning hkept).lastResult hcode
  · exact ends_of_aligned (executeTick_aligned (along_start haligned hmay))
  · exact ends_of_aligned (halt_aligned haligned)

/-! ## A run -/

/-- A subclass that updates its goal once. -/
def updatesOnce : ActionHooks Unit Nat Unit Bool where
  emptyGoal := ()
  onWaitForResult _ := modify fun h =>
    { h with goalUpdated := h.goalUpdated || h.blackboard, blackboard := false }

def resultParams : ActionParams := ⟨100, 10⟩

/-- The goal is accepted and updated; the server has accepted the update,
and has let the superseded goal succeed, but the node has heard of neither. -/
def updateSent : List (ActionLabel Nat Unit) :=
  [.tick ⟨⟨0, [.server (.decide 0 true), .response 0], false⟩, true, ⟨0, [], false⟩, []⟩,
    .server (.decide 1 true), .server (.move 0 .executing 5), .server (.move 0 .succeeded 5)]

/-- The result of the superseded goal comes first. -/
def lateResult : TickInput Nat Unit :=
  ⟨⟨0, [.result 0 false, .response 1], false⟩, true, ⟨0, [], false⟩,
    [.server (.move 1 .executing 7), .server (.move 1 .succeeded 7), .result 1 false]⟩

/-- A tick with `lateResult` is going to report the second result. -/
def reportsSecond (s : Activation Unit Nat Unit Bool) : Bool :=
  s.node.mayTick && s.node.goalHandle == some 0 &&
    match (tickToReport updatesOnce resultParams lateResult).run s.node with
    | .ok none s₁ => s₁.result == ⟨.succeeded, some 7⟩
    | _ => false

theorem reports_last_goal_superseded : ∃ s s₁,
    (activationSystem updatesOnce resultParams).Reach anyStep s ∧ s.node.goalHandle = some 0 ∧
    (tickToReport updatesOnce resultParams lateResult).run s.node = .ok none s₁ ∧
    s₁.result = ⟨.succeeded, some 7⟩ ∧ LastResult s.tickBase s₁ := by
  obtain ⟨s, hr, hs⟩ := exists_reach_of_runWhile (S := activationSystem updatesOnce resultParams)
    anyStep updateSent reportsSecond (s := ⟨.initial updatesOnce true, 0⟩) ⟨true, rfl⟩
    (by decide +kernel)
  rw [reportsSecond, Bool.and_eq_true, Bool.and_eq_true, beq_iff_eq] at hs
  obtain ⟨⟨hmay, hhandle⟩, hreports⟩ := hs
  split at hreports
  · next s₁ hrun =>
    have hresult : s₁.result = ⟨.succeeded, some 7⟩ := beq_iff_eq.mp hreports
    refine ⟨s, s₁, hr, hhandle, hrun, hresult, (reports_last_goal hr).1 lateResult s₁ hmay hrun ?_⟩
    rw [hresult]
    exact ResultCode.noConfusion
  · cases hreports

end Nav3D.BehaviorTree

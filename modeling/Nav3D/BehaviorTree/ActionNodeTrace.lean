/-
Nav3D.BehaviorTree.ActionNodeTrace — `BtActionNode::tick()` as a machine.

`TickMove` says what the single parts of a tick can do, `TickPc` where the
tick stands between them. Every tick is a run of this machine
(`executeTick_trace`), so what its moves preserve, a tick preserves, without
going through the code again.
-/
import Nav3D.BehaviorTree.ActionNodeSpin
import Mathlib.Logic.Relation

namespace Nav3D.BehaviorTree

open Nav3D.Ros StateInvariant
open BT (NodeStatus)

variable {Goal Result Feedback B : Type}

/-! ## Spins that cannot fail -/

/-- The result callback has something to compare with: a goal response is
still awaited, or a goal is held. -/
def Holds (s : ActionNode Goal Result Feedback B) : Prop :=
  s.futureGoalHandle.isSome = true ∨ s.goalHandle.isSome = true

theorem Holds.spun {s s' : ActionNode Goal Result Feedback B} (h : Holds s) (hspun : Spun s s') :
    Holds s' := by
  rw [Holds, hspun.futureGoalHandle, hspun.goalHandle]
  exact h

/-- The result callback dereferences `goal_handle_` only where it is set. -/
theorem resultCallback_safe {s : ActionNode Goal Result Feedback B} (h : Holds s) (i : GoalId)
    (result : WrappedResult Result) :
    Triple (· = s) (resultCallback i result) (fun _ _ => True) (fun _ _ => False) := by
  refine triple_get_bind ?_
  rintro s' rfl
  refine triple_ite (fun _ => triple_pure fun _ _ => trivial) (fun hfuture => ?_)
  split
  · next hnone =>
    rcases h with hf | hh
    · exact absurd hf hfuture
    · rw [hnone] at hh
      cases hh
  · exact triple_ite (fun _ => triple_set fun _ _ => trivial)
      (fun _ => triple_pure fun _ _ => trivial)

theorem spinEvent_safe {s : ActionNode Goal Result Feedback B} (h : Holds s)
    (e : SpinEvent Result Feedback) :
    Triple (· = s) (spinEvent e) (fun _ _ => True) (fun _ _ => False) := by
  cases e with
  | result i expired =>
    refine triple_get_bind ?_
    rintro s' rfl
    split
    · exact triple_pure fun _ _ => trivial
    · next r _ =>
      refine triple_ite (fun _ => ?_) (fun _ => triple_pure fun _ _ => trivial)
      let s₁ := { s' with requests := s'.requests.modify i (Request.receiveResult expired) }
      have hs₁ : Holds s₁ := h
      exact triple_bind (Q := fun _ => (· = s₁)) (triple_set fun _ _ => rfl)
        fun _ => resultCallback_safe hs₁ i (wrapResult expired r)
  | _ => exact triple_modify fun _ _ => trivial

theorem spin_safe (es : List (SpinEvent Result Feedback)) :
    ∀ {s : ActionNode Goal Result Feedback B}, RequestsValid s.requests → Holds s →
      Triple (· = s) (spin es) (fun _ s' => Spun s s') (fun _ _ => False) := by
  induction es with
  | nil => exact fun hvalid _ => triple_pure (by rintro _ rfl; exact .refl hvalid)
  | cons e es ih =>
    intro s hvalid h
    refine triple_bind (Q := fun _ s' => Spun s s') (triple_conseq
      (triple_and (spinEvent_spec hvalid e) (spinEvent_safe h e)) (fun _ hs => hs)
      (fun _ _ hs => hs.1) (fun _ _ he => he.2)) fun _ => triple_start fun s₁ hspun => ?_
    exact triple_post (ih hspun.valid (h.spun hspun)) (fun _ _ hs => hspun.trans hs)

theorem spinUntilResponse_safe (i : GoalId) (es : List (SpinEvent Result Feedback)) :
    ∀ {s : ActionNode Goal Result Feedback B}, RequestsValid s.requests → Holds s →
      Triple (· = s) (spinUntilResponse i es)
        (fun complete s' => Spun s s' ∧ (complete = true → Acknowledged s' i) ∧
          (Unheard s i → Unheard s' i))
        (fun _ _ => False) := by
  induction es with
  | nil =>
    intro s hvalid _
    refine triple_get_bind ?_
    rintro s' rfl
    exact triple_pure (by rintro _ rfl; exact ⟨.refl hvalid, id, id⟩)
  | cons e es ih =>
    intro s hvalid h
    refine triple_get_bind ?_
    rintro s' rfl
    refine triple_ite (fun hack => triple_pure ?_) (fun hnot => ?_)
    · rintro _ rfl
      exact ⟨.refl hvalid, fun _ => hack, id⟩
    · refine triple_bind (Q := fun _ s₁ => Spun s' s₁ ∧ Unheard s₁ i) (triple_conseq
        (triple_and (triple_and (spinEvent_spec hvalid e) (spinEvent_unheard hvalid hnot e))
          (spinEvent_safe h e)) (fun _ hs => hs) (fun _ _ hs => hs.1) (fun _ _ he => he.2))
        fun _ => triple_start fun s₁ ⟨hspun, hunheard⟩ => ?_
      exact triple_post (ih hspun.valid (h.spun hspun)) fun _ _ hs =>
        ⟨hspun.trans hs.1, hs.2.1, fun _ => hs.2.2 hunheard⟩

/-! ## The machine -/

/-- Where a tick stands. -/
inductive TickPc where
  | start
  /-- Before `send_new_goal()`, of a first goal or of an update. -/
  | sending (update : Bool)
  /-- Before `is_future_goal_handle_complete()`. -/
  | awaiting (update : Bool)
  /-- The future has been given up; `on_timeout()` is next. -/
  | lost
  /-- At the start of the `try` block. -/
  | body
  /-- No goal response is awaited any more. -/
  | acknowledged
  /-- `on_wait_for_result()` has returned. -/
  | waited
  /-- Before `spin_some()`. -/
  | spinning
  /-- Before the result is reported. -/
  | reporting
  | returned (status : NodeStatus)
  | raised (e : ActionFailure)

/-- The virtual function that is called for a result. -/
def callsFor (hooks : ActionHooks Goal Result Feedback B) (result : WrappedResult Result) :
    Option (HookM Goal B NodeStatus) :=
  match result.code with
  | .succeeded => some (hooks.onSuccess result.result)
  | .aborted => some (hooks.onAborted result.result)
  | .canceled => some (hooks.onCancelled result.result)
  | .unknown => none

/-- The node after `future_goal_handle_.reset()`. -/
def ActionNode.abandon (s : ActionNode Goal Result Feedback B) :
    ActionNode Goal Result Feedback B :=
  match s.futureGoalHandle with
  | none => s
  | some i => { s with futureGoalHandle := none, requests := s.requests.modify i Request.abandon }

/-- The node after `send_new_goal()`. -/
def ActionNode.send (s : ActionNode Goal Result Feedback B) (update : Bool) :
    ActionNode Goal Result Feedback B :=
  { s with
    goalResultAvailable := false
    futureGoalHandle := some s.requests.length
    requests := s.requests ++ [Request.new s.hook.goal update] }

/-- The request that the node waits for. -/
def ActionNode.awaited (s : ActionNode Goal Result Feedback B) : Option GoalId :=
  s.futureGoalHandle.or s.goalHandle

/-- Request `i` has been accepted. -/
def AcceptedIn (rs : List (Request Goal Result)) (i : GoalId) : Prop :=
  rs[i]?.any (·.accepted == some true) = true

/-- One move of a tick, in which `spin_some()` brings `es`. -/
inductive TickMove (hooks : ActionHooks Goal Result Feedback B)
    (es : List (SpinEvent Result Feedback)) :
    TickPc → ActionNode Goal Result Feedback B → TickPc → ActionNode Goal Result Feedback B → Prop
  /-- The node is active. -/
  | resumed {s} : s.status.isActive = true → TickMove hooks es .start s .body s
  /-- The node is activated, and has something to send. -/
  | started {s h} : s.status.isActive = false →
      hooks.onTick.run { s.hook with shouldSendGoal := true, goal := hooks.emptyGoal } =
        .ok () h → h.shouldSendGoal = true →
      TickMove hooks es .start s (.sending false)
        { s with hook := h, result := ⟨.unknown, none⟩, status := .running }
  | notStarted {s h} : s.status.isActive = false →
      hooks.onTick.run { s.hook with shouldSendGoal := true, goal := hooks.emptyGoal } =
        .ok () h → h.shouldSendGoal = false →
      TickMove hooks es .start s (.returned .failure)
        { s with hook := h, result := ⟨.unknown, none⟩, status := .running }
  | startFailed {s h} : s.status.isActive = false →
      hooks.onTick.run { s.hook with shouldSendGoal := true, goal := hooks.emptyGoal } =
        .error () h →
      TickMove hooks es .start s (.raised .hookFailed)
        { s with hook := h, result := ⟨.unknown, none⟩ }
  | sentFirst {s} : TickMove hooks es (.sending false) s .body (s.send false)
  | sentUpdate {s} : TickMove hooks es (.sending true) s (.awaiting true) (s.send true)
  | awaits {s} : s.futureGoalHandle.isSome = true → TickMove hooks es .body s (.awaiting false) s
  | goesOn {s} : s.futureGoalHandle = none → TickMove hooks es .body s .acknowledged s
  /-- There is no time left to wait. -/
  | givenUp {s update} : TickMove hooks es (.awaiting update) s .lost s.abandon
  /-- The goal has been accepted. -/
  | taken {s s' update i} : s.futureGoalHandle = some i → Spun s s' → Acknowledged s' i →
      (Unheard s i → Unheard s' i) → AcceptedIn s'.requests i →
      TickMove hooks es (.awaiting update) s (if update then .spinning else .acknowledged)
        { s' with goalHandle := some i, futureGoalHandle := none }
  | rejected {s s' update i} : s.futureGoalHandle = some i → Spun s s' → Acknowledged s' i →
      ¬ AcceptedIn s'.requests i → TickMove hooks es (.awaiting update) s (.returned .failure)
        { s' with goalHandle := none, futureGoalHandle := none }
  | interrupted {s s' update} : Spun s s' →
      TickMove hooks es (.awaiting update) s (.returned .failure) s'.abandon
  | stillAwaits {s s' update i} : s.futureGoalHandle = some i → Spun s s' →
      (Unheard s i → Unheard s' i) →
      TickMove hooks es (.awaiting update) s (.returned .running) s'
  | timedOut {s s' update} : Spun s s' → TickMove hooks es (.awaiting update) s .lost s'.abandon
  | toldTimeout {s h} : hooks.onTimeout.run s.hook = .ok () h →
      TickMove hooks es .lost s (.returned .failure) { s with hook := h }
  | timeoutFailed {s h} : hooks.onTimeout.run s.hook = .error () h →
      TickMove hooks es .lost s (.raised .hookFailed) { s with hook := h }
  /-- The node waits for the result, unless it has one or `rclcpp::ok()` is
  false. -/
  | waits {s h} : s.goalResultAvailable = false →
      (hooks.onWaitForResult s.feedback).run s.hook = .ok () h →
      TickMove hooks es .acknowledged s .waited { s with hook := h, feedback := none }
  | waitFailed {s h} : s.goalResultAvailable = false →
      (hooks.onWaitForResult s.feedback).run s.hook = .error () h →
      TickMove hooks es .acknowledged s (.raised .hookFailed) { s with hook := h }
  | waitsNot {s} : TickMove hooks es .acknowledged s .reporting s
  /-- `goal_handle_->get_status()` without a goal. -/
  | noHandle {s} : s.goalHandle = none → TickMove hooks es .waited s (.raised .nullDeref) s
  | updates {s i} : s.goalHandle = some i → s.hook.goalUpdated = true →
      TickMove hooks es .waited s (.sending true)
        { s with hook := { s.hook with goalUpdated := false } }
  /-- No goal is sent: none is new, or it is too late. -/
  | keeps {s i} : s.goalHandle = some i → s.hook.goalUpdated = false ∨ EndHeard s i →
      TickMove hooks es .waited s .spinning s
  | spunToResult {s s'} : Spun s s' → Hears es s s' → s'.goalResultAvailable = true →
      TickMove hooks es .spinning s .reporting s'
  | spun {s s'} : Spun s s' → Hears es s s' → s'.goalResultAvailable = false →
      TickMove hooks es .spinning s (.returned .running) s'
  | reported {s f status h} : callsFor hooks s.result = some f → f.run s.hook = .ok status h →
      TickMove hooks es .reporting s (.returned status)
        { s with hook := h, goalHandle := none, reported := s.goalHandle }
  | reportFailed {s f h} : callsFor hooks s.result = some f → f.run s.hook = .error () h →
      TickMove hooks es .reporting s (.raised .hookFailed) { s with hook := h }
  | noCode {s} : callsFor hooks s.result = none →
      TickMove hooks es .reporting s (.raised .invalidStatus) s

/-- A part of a tick, from one place in it to another. -/
def TickRun (hooks : ActionHooks Goal Result Feedback B) (es : List (SpinEvent Result Feedback))
    (x y : TickPc × ActionNode Goal Result Feedback B) : Prop :=
  Relation.ReflTransGen (fun x y => TickMove hooks es x.1 x.2 y.1 y.2) x y

variable {hooks : ActionHooks Goal Result Feedback B} {es : List (SpinEvent Result Feedback)}
  {x : TickPc × ActionNode Goal Result Feedback B} {pc pc' : TickPc}
  {s s' : ActionNode Goal Result Feedback B}

theorem TickRun.refl : TickRun hooks es x x := Relation.ReflTransGen.refl

theorem TickRun.move (h : TickRun hooks es x (pc, s)) (hmove : TickMove hooks es pc s pc' s') :
    TickRun hooks es x (pc', s') := .tail h hmove

/-- **Invariant rule**: what every move preserves holds where a run of the
machine ends. -/
theorem TickRun.invariant {I : TickPc → ActionNode Goal Result Feedback B → Prop}
    (h : TickRun hooks es (pc, s) (pc', s')) (h0 : I pc s)
    (hmove : ∀ pc s pc' s', I pc s → TickMove hooks es pc s pc' s' → I pc' s') : I pc' s' := by
  have hall : ∀ y, TickRun hooks es (pc, s) y → I y.1 y.2 := by
    intro y hy
    induction hy with
    | refl => exact h0
    | tail _ hstep ih => exact hmove _ _ _ _ ih hstep
  exact hall _ h

/-! ## The requests grow -/

theorem abandon_valid (h : RequestsValid s.requests) : RequestsValid s.abandon.requests := by
  unfold ActionNode.abandon
  split
  · exact h
  · exact requestsValid_modify h fun _ hr => hr.abandon

theorem abandon_hook (s : ActionNode Goal Result Feedback B) : s.abandon.hook = s.hook := by
  unfold ActionNode.abandon
  split <;> rfl

theorem abandon_grows (s : ActionNode Goal Result Feedback B) :
    RequestsGrow s.requests s.abandon.requests := by
  unfold ActionNode.abandon
  split
  · exact .refl _
  · exact requestsGrow_modify fun r _ => r.grows_abandon

theorem send_valid (h : RequestsValid s.requests) (update : Bool) :
    RequestsValid (s.send update).requests :=
  requestsValid_append h (Request.valid_new _ _)

/-- `s'` is `s` with more requests, or with requests that have gone on. -/
def Grown (s s' : ActionNode Goal Result Feedback B) : Prop :=
  RequestsValid s'.requests ∧ RequestsGrow s.requests s'.requests

theorem TickMove.grown (h : TickMove hooks es pc s pc' s') (hvalid : RequestsValid s.requests) :
    Grown s s' := by
  cases h with
  | sentFirst => exact ⟨send_valid hvalid _, requestsGrow_append _ _⟩
  | sentUpdate => exact ⟨send_valid hvalid _, requestsGrow_append _ _⟩
  | givenUp => exact ⟨abandon_valid hvalid, abandon_grows _⟩
  | taken _ hspun => exact ⟨hspun.valid, hspun.grow⟩
  | rejected _ hspun => exact ⟨hspun.valid, hspun.grow⟩
  | interrupted hspun => exact ⟨abandon_valid hspun.valid, hspun.grow.trans (abandon_grows _)⟩
  | stillAwaits _ hspun => exact ⟨hspun.valid, hspun.grow⟩
  | timedOut hspun => exact ⟨abandon_valid hspun.valid, hspun.grow.trans (abandon_grows _)⟩
  | spunToResult hspun => exact ⟨hspun.valid, hspun.grow⟩
  | spun hspun => exact ⟨hspun.valid, hspun.grow⟩
  | _ => exact ⟨hvalid, .refl _⟩

theorem TickRun.grown (h : TickRun hooks es (pc, s) (pc', s')) (hvalid : RequestsValid s.requests) :
    Grown s s' :=
  h.invariant (I := fun _ => Grown s) ⟨hvalid, .refl _⟩ fun _ _ _ _ hg hmove =>
    ⟨(hmove.grown hg.1).1, hg.2.trans (hmove.grown hg.1).2⟩

/-! ## The blackboard -/

/-- Every virtual function of a subclass keeps `I` of the blackboard. -/
structure KeepsBoard (hooks : ActionHooks Goal Result Feedback B) (I : B → Prop) : Prop where
  onTick : Preserves (fun h => I h.blackboard) hooks.onTick
  onWaitForResult : ∀ feedback, Preserves (fun h => I h.blackboard) (hooks.onWaitForResult feedback)
  onTimeout : Preserves (fun h => I h.blackboard) hooks.onTimeout
  result : ∀ result f, callsFor hooks result = some f → Preserves (fun h => I h.blackboard) f

theorem preserves_ended {σ α : Type} {I : σ → Prop} {x : EStateM Unit σ α} {h : σ}
    (hx : Preserves I x) (hI : I h) {r : EStateM.Result Unit σ α} (hrun : x.run h = r) :
    I (finalState r) := by
  subst hrun
  exact hx h hI

theorem keepsBoard_move {I : B → Prop} (hkeeps : KeepsBoard hooks I) (hI : I s.hook.blackboard)
    (h : TickMove hooks es pc s pc' s') : I s'.hook.blackboard := by
  have hspin : ∀ {s₁}, Spun s s₁ → I s₁.hook.blackboard := fun hspun => by
    rw [hspun.hook]
    exact hI
  have hstart : I { s.hook with shouldSendGoal := true, goal := hooks.emptyGoal }.blackboard := hI
  cases h with
  | started _ hrun => exact preserves_ended hkeeps.onTick hstart hrun
  | notStarted _ hrun => exact preserves_ended hkeeps.onTick hstart hrun
  | startFailed _ hrun => exact preserves_ended hkeeps.onTick hstart hrun
  | givenUp => rw [abandon_hook]; exact hI
  | taken _ hspun => exact hspun.hook ▸ hI
  | rejected _ hspun => exact hspun.hook ▸ hI
  | interrupted hspun => rw [abandon_hook]; exact hspin hspun
  | stillAwaits _ hspun => exact hspin hspun
  | timedOut hspun => rw [abandon_hook]; exact hspin hspun
  | toldTimeout hrun => exact preserves_ended hkeeps.onTimeout hI hrun
  | timeoutFailed hrun => exact preserves_ended hkeeps.onTimeout hI hrun
  | waits _ hrun => exact preserves_ended (hkeeps.onWaitForResult _) hI hrun
  | waitFailed _ hrun => exact preserves_ended (hkeeps.onWaitForResult _) hI hrun
  | spunToResult hspun => exact hspin hspun
  | spun hspun => exact hspin hspun
  | reported hf hrun => exact preserves_ended (hkeeps.result _ _ hf) hI hrun
  | reportFailed hf hrun => exact preserves_ended (hkeeps.result _ _ hf) hI hrun
  | _ => exact hI

/-! ## Every tick is a run of the machine -/

/-- What an exception within the `try` block leads to. -/
def Raises (hooks : ActionHooks Goal Result Feedback B) (es : List (SpinEvent Result Feedback))
    (x : TickPc × ActionNode Goal Result Feedback B) (e : ActionFailure)
    (s : ActionNode Goal Result Feedback B) : Prop :=
  if e = .sendGoalFailed ∨ e = .goalRejected then TickRun hooks es x (.returned .failure, s)
  else TickRun hooks es x (.raised e, s)

/-- Where the parts of the `try` block lead that may return. -/
def Leads (hooks : ActionHooks Goal Result Feedback B) (es : List (SpinEvent Result Feedback))
    (x : TickPc × ActionNode Goal Result Feedback B) (goesOn : TickPc)
    (early : Option NodeStatus) (s : ActionNode Goal Result Feedback B) : Prop :=
  TickRun hooks es x (match early with
    | none => goesOn
    | some status => .returned status, s)

theorem abandonFuture_run (s : ActionNode Goal Result Feedback B) :
    Triple (· = s) abandonFuture (fun _ => (· = s.abandon)) (fun _ _ => False) :=
  triple_modify (by rintro _ rfl; rfl)

theorem abandon_abandon (s : ActionNode Goal Result Feedback B) :
    s.abandon.abandon = s.abandon := by
  unfold ActionNode.abandon
  cases hfuture : s.futureGoalHandle with
  | none => simp only [hfuture]
  | some i => rfl

/-- What the tick goes on with after the wait for the response to request
`i`. -/
def Held (i : GoalId) (s : ActionNode Goal Result Feedback B) : Prop :=
  s.futureGoalHandle = none ∧ s.goalHandle = some i

/-- `goal_handle_ = future_goal_handle_->get()`. -/
theorem takeGoalHandle_trace {update : Bool} {i : GoalId} {s₁ : ActionNode Goal Result Feedback B}
    (hfuture : s.futureGoalHandle = some i) (hspun : Spun s s₁) (hack : Acknowledged s₁ i)
    (hunheard : Unheard s i → Unheard s₁ i) (h : TickRun hooks es x (.awaiting update, s)) :
    Triple (· = s₁) (takeGoalHandle i) (fun _ s' => RequestsValid s'.requests ∧ Held i s' ∧
      TickRun hooks es x (if update then .spinning else .acknowledged, s'))
      (Raises hooks es x) := by
  refine triple_get_bind ?_
  rintro s' rfl
  refine triple_bind (Q := fun _ s₂ => s₂ = { s' with
    goalHandle := if s'.requests[i]?.any (·.accepted == some true) then some i else none,
    futureGoalHandle := none }) (triple_modify fun s₂ hs₂ => by rw [hs₂]) fun _ => ?_
  refine triple_ite (fun hrejected => triple_throw ?_) (fun haccepted => triple_pure ?_)
  · rintro _ rfl
    rw [Bool.not_eq_true'] at hrejected
    rw [Raises, if_pos (.inr rfl), hrejected]
    exact h.move (.rejected hfuture hspun hack fun hacc => by
      rw [AcceptedIn, hrejected] at hacc; cases hacc)
  · rintro _ rfl
    rw [Bool.not_eq_true, Bool.not_eq_false'] at haccepted
    rw [haccepted]
    exact ⟨hspun.valid, ⟨rfl, rfl⟩, h.move (.taken hfuture hspun hack hunheard haccepted)⟩

/-- `is_future_goal_handle_complete()`. -/
theorem isFutureGoalHandleComplete_trace {params : ActionParams}
    {a : Acknowledgement Result Feedback} {update : Bool} {i : GoalId}
    (hvalid : RequestsValid s.requests) (hfuture : s.futureGoalHandle = some i)
    (h : TickRun hooks es x (.awaiting update, s)) :
    Triple (· = s) (isFutureGoalHandleComplete params a)
      (fun out s' =>
        (out.1 = true ∧ RequestsValid s'.requests ∧ Held i s' ∧
          TickRun hooks es x (if update then .spinning else .acknowledged, s')) ∨
        (out.1 = false ∧ (Spun s s' ∧ (Unheard s i → Unheard s' i) ∨
          s' = s.abandon ∧ params.serverTimeout ≤ out.2)))
      (Raises hooks es x) := by
  refine triple_ite (fun htime => ?_) (fun _ => triple_get_bind ?_)
  · refine triple_bind (triple_total (abandonFuture_run s))
      fun _ => triple_pure fun s' hs' => .inr ⟨rfl, .inr ⟨hs', ?_⟩⟩
    dsimp only
    omega
  · rintro s' rfl
    split
    · next hnone => rw [hfuture] at hnone; cases hnone
    · next j hj =>
      rw [hfuture] at hj
      cases hj
      refine triple_bind (triple_total (spinUntilResponse_safe i a.spin hvalid
        (.inl (by rw [hfuture]; rfl)))) fun complete =>
        triple_start fun s₁ ⟨hspun, hack, hunheard⟩ => ?_
      refine triple_ite (fun hc => ?_) (fun _ => triple_ite (fun _ => ?_) (fun _ => triple_pure ?_))
      · exact triple_bind (takeGoalHandle_trace hfuture hspun (hack hc) hunheard h) fun _ =>
          triple_pure fun _ hs => .inl ⟨rfl, hs⟩
      · refine triple_bind (triple_total (abandonFuture_run s₁)) fun _ => triple_throw ?_
        rintro _ rfl
        rw [Raises, if_pos (.inl rfl)]
        exact h.move (.interrupted hspun)
      · rintro _ rfl
        exact .inr ⟨rfl, .inl ⟨hspun, hunheard⟩⟩

/-- The wait for the goal response. -/
theorem awaitAcknowledgement_trace {params : ActionParams} {a : Acknowledgement Result Feedback}
    {update : Bool} {i : GoalId} (hvalid : RequestsValid s.requests)
    (hfuture : s.futureGoalHandle = some i) (h : TickRun hooks es x (.awaiting update, s)) :
    Triple (· = s) (awaitAcknowledgement hooks params a)
      (fun early s' => (early = none → RequestsValid s'.requests ∧ Held i s') ∧
        Leads hooks es x (if update then .spinning else .acknowledged) early s')
      (Raises hooks es x) := by
  refine triple_bind (isFutureGoalHandleComplete_trace hvalid hfuture h) fun out => ?_
  refine triple_start fun s₁ hs₁ => ?_
  refine triple_ite (fun hc => triple_pure ?_) (fun hc => triple_ite (fun htime => triple_pure ?_)
    (fun _ => ?_))
  · rintro _ rfl
    rcases hs₁ with ⟨_, hvalid₁, hheld, hrun⟩ | ⟨hf, _⟩
    · exact ⟨fun _ => ⟨hvalid₁, hheld⟩, hrun⟩
    · rw [hf] at hc; cases hc
  · rintro _ rfl
    rcases hs₁ with ⟨ht, _⟩ | ⟨_, ⟨hspun, hunheard⟩ | ⟨_, hlate⟩⟩
    · exact absurd ht hc
    · exact ⟨fun hf => (by cases hf), h.move (.stillAwaits hfuture hspun hunheard)⟩
    · omega
  · have hlost : TickRun hooks es x (.lost, s₁.abandon) := by
      rcases hs₁ with ⟨ht, _⟩ | ⟨_, ⟨hspun, _⟩ | ⟨rfl, _⟩⟩
      · exact absurd ht hc
      · exact h.move (.timedOut hspun)
      · rw [abandon_abandon]
        exact h.move .givenUp
    refine triple_bind (triple_total (abandonFuture_run s₁)) fun _ => ?_
    refine triple_bind (Q := fun _ s' => TickRun hooks es x (.returned .failure, s'))
      (triple_callHook fun h₀ hh₀ => ?_) fun _ => triple_pure fun _ hs =>
        ⟨fun hf => (by cases hf), hs⟩
    subst hh₀
    cases hrun : hooks.onTimeout.run s₁.abandon.hook with
    | ok _ h' => exact hlost.move (.toldTimeout hrun)
    | error _ h' => exact hlost.move (.timeoutFailed hrun)

/-- The part that sends an updated goal. -/
theorem updateGoal_trace {params : ActionParams} {a : Acknowledgement Result Feedback}
    {goalStatus : GoalStatus} {i : GoalId} (hvalid : RequestsValid s.requests)
    (hhandle : s.goalHandle = some i)
    (hstatus : goalStatus = (s.requests[i]?.map Request.clientStatus).getD .unknown)
    (h : TickRun hooks es x (.waited, s)) :
    Triple (· = s) (updateGoal hooks params a goalStatus)
      (fun early s' => (early = none → RequestsValid s'.requests ∧ Holds s') ∧
        Leads hooks es x .spinning early s')
      (Raises hooks es x) := by
  refine triple_get_bind ?_
  rintro s' rfl
  refine triple_ite (fun hsend => ?_) (fun hnot => triple_pure ?_)
  · rw [Bool.and_eq_true] at hsend
    let s₁ := { s' with hook := { s'.hook with goalUpdated := false } }
    have hsent : TickRun hooks es x (.awaiting true, s₁.send true) :=
      (h.move (.updates hhandle hsend.1)).move .sentUpdate
    refine triple_bind (Q := fun _ => (· = s₁)) (triple_modify (by rintro _ rfl; rfl)) fun _ => ?_
    refine triple_bind (Q := fun _ => (· = s₁.send true)) (triple_modify (by rintro _ rfl; rfl))
      fun _ => ?_
    have hvalid₁ : RequestsValid s₁.requests := hvalid
    exact triple_post (awaitAcknowledgement_trace (send_valid hvalid₁ true) rfl hsent)
      (fun early s₁ hs₁ =>
      ⟨fun hnone => ⟨(hs₁.1 hnone).1, .inr (by rw [(hs₁.1 hnone).2.2]; rfl)⟩, hs₁.2⟩)
  · rintro s' rfl
    have hkeeps : s'.hook.goalUpdated = false ∨ EndHeard s' i := by
      rw [Bool.and_eq_true, not_and_or, Bool.not_eq_true] at hnot
      refine hnot.imp id fun hlate r hr => ?_
      rw [hstatus, hr, Option.map_some, Option.getD_some] at hlate
      rw [Request.endHeard, Bool.eq_false_iff.mpr hlate]
      rfl
    exact ⟨fun _ => ⟨hvalid, .inr (by rw [hhandle]; rfl)⟩, h.move (.keeps hhandle hkeeps)⟩

/-- The part that waits for the result. -/
theorem waitForResult_trace {params : ActionParams} {input : TickInput Result Feedback}
    (hvalid : RequestsValid s.requests) (havailable : s.goalResultAvailable = false)
    (h : TickRun hooks input.spin x (.acknowledged, s)) :
    Triple (· = s) (waitForResult hooks params input) (Leads hooks input.spin x .reporting)
      (Raises hooks input.spin x) := by
  refine triple_get_bind ?_
  rintro s' rfl
  refine triple_bind (Q := fun _ s₁ => ∃ h', (hooks.onWaitForResult s'.feedback).run s'.hook =
    .ok () h' ∧ s₁ = { s' with hook := h' }) (triple_callHook ?_) fun _ => ?_
  · rintro _ rfl
    cases hrun : (hooks.onWaitForResult s'.feedback).run s'.hook with
    | ok _ h' => exact ⟨h', rfl, rfl⟩
    | error _ h' => exact h.move (.waitFailed havailable hrun)
  refine triple_start ?_
  rintro _ ⟨h', hrun, rfl⟩
  refine triple_bind (Q := fun _ => (· = { s' with hook := h', feedback := none }))
    (triple_modify (by rintro _ rfl; rfl)) fun _ => triple_get_bind ?_
  rintro s₁ rfl
  have hwaited := h.move (.waits havailable hrun)
  split
  · next hnone => exact triple_throw (by rintro _ rfl; exact hwaited.move (.noHandle hnone))
  · next i hhandle =>
    refine triple_get_bind ?_
    rintro _ rfl
    refine triple_bind (updateGoal_trace hvalid hhandle rfl hwaited) fun early =>
      triple_start fun s₂ ⟨hgoesOn, hleads⟩ => ?_
    cases early with
    | some status => exact triple_pure (by rintro _ rfl; exact hleads)
    | none =>
      obtain ⟨hvalid₂, hholds⟩ := hgoesOn rfl
      refine triple_bind (triple_total (triple_conseq
        (triple_and (spin_safe input.spin hvalid₂ hholds) (spin_hears input.spin s₂))
        (fun _ hs => hs) (fun _ _ hs => hs) fun _ _ he => he.1))
        fun _ => triple_get_bind fun s₃ ⟨hspun, hears⟩ => ?_
      refine triple_ite (fun htaken => triple_pure ?_) (fun hnot => triple_pure ?_)
      · rintro _ rfl
        exact hleads.move (.spunToResult hspun hears htaken)
      · rintro _ rfl
        exact hleads.move (.spun hspun hears (Bool.eq_false_iff.mpr hnot))

/-- The part that waits for a goal response still to come. -/
theorem pendingAcknowledgement_trace {params : ActionParams}
    {a : Acknowledgement Result Feedback} (hvalid : RequestsValid s.requests)
    (h : TickRun hooks es x (.body, s)) :
    Triple (· = s) (pendingAcknowledgement hooks params a)
      (fun early s' => (early = none → RequestsValid s'.requests) ∧
        Leads hooks es x .acknowledged early s')
      (Raises hooks es x) := by
  refine triple_get_bind ?_
  rintro s' rfl
  refine triple_ite (fun hsome => ?_) (fun hnone => triple_pure ?_)
  · obtain ⟨i, hi⟩ := Option.isSome_iff_exists.mp hsome
    exact triple_post (awaitAcknowledgement_trace hvalid hi (h.move (.awaits hsome)))
      (fun _ _ hs => ⟨fun hgo => (hs.1 hgo).1, hs.2⟩)
  · rintro _ rfl
    rw [Option.not_isSome_iff_eq_none] at hnone
    exact ⟨fun _ => hvalid, h.move (.goesOn hnone)⟩

/-- The `try` block and its handler. -/
theorem tickBody_trace {params : ActionParams} {input : TickInput Result Feedback}
    (hvalid : RequestsValid s.requests) (h : TickRun hooks input.spin x (.body, s)) :
    Triple (· = s) (tryCatch (tickBody hooks params input) tickCatch)
      (Leads hooks input.spin x .reporting)
      (fun e s' => TickRun hooks input.spin x (.raised e, s')) := by
  have hbody : Triple (· = s) (tickBody hooks params input) (Leads hooks input.spin x .reporting)
      (Raises hooks input.spin x) := by
    refine triple_bind (pendingAcknowledgement_trace hvalid h) fun early =>
      triple_start fun s₁ ⟨hgoesOn, hleads⟩ => ?_
    cases early with
    | some status => exact triple_pure (by rintro _ rfl; exact hleads)
    | none =>
      refine triple_get_bind ?_
      rintro s₂ rfl
      refine triple_ite (fun hwaits => ?_) (fun _ => triple_pure ?_)
      · rw [Bool.and_eq_true, Bool.not_eq_true'] at hwaits
        exact waitForResult_trace (hgoesOn rfl) hwaits.2 hleads
      · rintro _ rfl
        exact hleads.move .waitsNot
  refine triple_tryCatch hbody fun e => triple_ite (fun hcaught => triple_pure fun s' hs' => ?_)
    (fun hnot => triple_throw fun s' hs' => ?_)
  · rw [Raises, if_pos hcaught] at hs'
    exact hs'
  · rw [Raises, if_neg hnot] at hs'
    exact hs'

/-- The start of `tick()`, for a node that is not active. -/
theorem activate_trace (hvalid : RequestsValid s.requests) (hidle : s.status.isActive = false) :
    Triple (· = s) (activate hooks)
      (fun goesOn s' => RequestsValid s'.requests ∧
        TickRun hooks es (.start, s) (if goesOn then .body else .returned .failure, s'))
      (fun e s' => TickRun hooks es (.start, s) (.raised e, s')) := by
  let h₀ := { s.hook with shouldSendGoal := true, goal := hooks.emptyGoal }
  refine triple_bind (Q := fun _ => (· = { s with hook := h₀, result := ⟨.unknown, none⟩ }))
    (triple_modify (by rintro _ rfl; rfl)) fun _ => ?_
  refine triple_bind (Q := fun _ s₁ => ∃ h', hooks.onTick.run h₀ = .ok () h' ∧
    s₁ = { s with hook := h', result := ⟨.unknown, none⟩ }) (triple_callHook ?_) fun _ => ?_
  · rintro _ rfl
    dsimp only
    cases hrun : hooks.onTick.run h₀ with
    | ok _ h' => exact ⟨h', rfl, rfl⟩
    | error _ h' => exact TickRun.refl.move (.startFailed hidle hrun)
  refine triple_start ?_
  rintro _ ⟨h', hrun, rfl⟩
  let s₁ := { s with hook := h', result := ⟨.unknown, none⟩, status := .running }
  refine triple_bind (Q := fun _ => (· = s₁)) (triple_modify (by rintro _ rfl; rfl)) fun _ =>
    triple_get_bind ?_
  rintro _ rfl
  refine triple_ite (fun hsend => ?_) (fun hnot => triple_pure ?_)
  · refine triple_bind (Q := fun _ => (· = s₁.send false)) (triple_modify (by rintro _ rfl; rfl))
      fun _ => triple_pure ?_
    rintro _ rfl
    have hvalid₁ : RequestsValid s₁.requests := hvalid
    exact ⟨send_valid hvalid₁ false,
      (TickRun.refl.move (.started hidle hrun hsend)).move .sentFirst⟩
  · rintro _ rfl
    exact ⟨hvalid, TickRun.refl.move (.notStarted hidle hrun (Bool.eq_false_iff.mpr hnot))⟩

/-- `tick()` up to the report of the result: the status that it returns, if
it returns before. -/
def tickToReport (hooks : ActionHooks Goal Result Feedback B) (params : ActionParams)
    (input : TickInput Result Feedback) : ActionM Goal Result Feedback B (Option NodeStatus) := do
  if (← get).status.isActive then
    tryCatch (tickBody hooks params input) tickCatch
  else if ← activate hooks then
    tryCatch (tickBody hooks params input) tickCatch
  else
    return some .failure

theorem tick_eq_report (params : ActionParams) (input : TickInput Result Feedback) :
    tick hooks params input = (do
      match ← tickToReport hooks params input with
      | some status => return status
      | none => reportResult hooks) := by
  unfold tick tickToReport tickActive
  simp only [bind_assoc]
  congr 1
  funext s
  split
  · rfl
  · rw [bind_assoc]
    congr 1
    funext goesOn
    cases goesOn with
    | true => rfl
    | false => rfl

/-- **A tick up to its report** is a run of the machine. -/
theorem tickToReport_trace {params : ActionParams} {input : TickInput Result Feedback}
    (hvalid : RequestsValid s.requests) :
    Triple (· = s) (tickToReport hooks params input) (Leads hooks input.spin (.start, s) .reporting)
      (fun e s' => TickRun hooks input.spin (.start, s) (.raised e, s')) := by
  refine triple_get_bind ?_
  rintro s' rfl
  refine triple_ite (fun hactive => ?_) (fun hidle => ?_)
  · exact tickBody_trace hvalid (TickRun.refl.move (.resumed hactive))
  · refine triple_bind (activate_trace hvalid (Bool.eq_false_iff.mpr hidle)) fun goesOn =>
      triple_start fun s₁ ⟨hvalid₁, hrun⟩ => ?_
    cases goesOn with
    | true => exact tickBody_trace hvalid₁ hrun
    | false => exact triple_pure (by rintro _ rfl; exact hrun)

/-- The end of `tick()`. -/
theorem reportResult_trace (h : TickRun hooks es x (.reporting, s)) :
    Triple (· = s) (reportResult hooks) (fun status s' => TickRun hooks es x (.returned status, s'))
      (fun e s' => TickRun hooks es x (.raised e, s')) := by
  have hcall : ∀ f : HookM Goal B NodeStatus, callsFor hooks s.result = some f →
      Triple (· = s) (do
        let statusOut ← callHook f
        modify fun s => { s with goalHandle := none, reported := s.goalHandle }
        return statusOut) (fun status s' => TickRun hooks es x (.returned status, s'))
        (fun e s' => TickRun hooks es x (.raised e, s')) := by
    intro f hf
    refine triple_bind (Q := fun status s₁ => ∃ h', f.run s.hook = .ok status h' ∧
      s₁ = { s with hook := h' }) (triple_callHook ?_) fun status => triple_start ?_
    · rintro _ rfl
      cases hrun : f.run s.hook with
      | ok status h' => exact ⟨h', rfl, rfl⟩
      | error _ h' => exact h.move (.reportFailed hf hrun)
    · rintro _ ⟨h', hrun, rfl⟩
      have hreported := h.move (.reported hf hrun)
      exact triple_bind (Q := fun _ s' => TickRun hooks es x (.returned status, s'))
        (triple_modify (by rintro _ rfl; exact hreported)) fun _ => triple_pure fun _ hs => hs
  refine triple_get_bind ?_
  rintro s' rfl
  unfold resultStatus
  cases hcode : s'.result.code with
  | succeeded => exact hcall _ (by rw [callsFor, hcode])
  | aborted => exact hcall _ (by rw [callsFor, hcode])
  | canceled => exact hcall _ (by rw [callsFor, hcode])
  | unknown =>
    refine triple_bind (Q := fun _ _ => False) (triple_throw ?_) fun _ _ hf => hf.elim
    rintro _ rfl
    exact h.move (.noCode (by rw [callsFor, hcode]))

/-- **A tick** is a run of the machine. -/
theorem tick_trace {params : ActionParams} {input : TickInput Result Feedback}
    (hvalid : RequestsValid s.requests) :
    Triple (· = s) (tick hooks params input)
      (fun status s' => TickRun hooks input.spin (.start, s) (.returned status, s'))
      (fun e s' => TickRun hooks input.spin (.start, s) (.raised e, s')) := by
  rw [tick_eq_report]
  refine triple_bind (tickToReport_trace hvalid) fun early => triple_start fun s₁ hleads => ?_
  cases early with
  | some status => exact triple_pure (by rintro _ rfl; exact hleads)
  | none => exact reportResult_trace hleads

theorem tick_grows {params : ActionParams} {input : TickInput Result Feedback}
    (hvalid : RequestsValid s.requests) :
    Triple (· = s) (tick hooks params input) (fun _ => Grown s) (fun _ => Grown s) :=
  triple_conseq (tick_trace hvalid) (fun _ hs => hs) (fun _ _ hrun => hrun.grown hvalid)
    fun _ _ hrun => hrun.grown hvalid

theorem executeTick_trace {params : ActionParams} {input : TickInput Result Feedback}
    (hvalid : RequestsValid s.requests) :
    Triple (· = s) (executeTick hooks params input)
      (fun status s' => ∃ s₁, TickRun hooks input.spin (.start, s) (.returned status, s₁) ∧
        s' = if status = .skipped then s₁ else { s₁ with status := status })
      (fun e s' => TickRun hooks input.spin (.start, s) (.raised e, s')) := by
  refine triple_bind (tick_trace hvalid) fun status => triple_start fun s₁ hrun => ?_
  refine triple_bind (Q := fun _ s' => s' =
    if status = .skipped then s₁ else { s₁ with status := status })
    (triple_modify (by rintro _ rfl; rfl)) fun _ => triple_pure ?_
  rintro _ rfl
  exact ⟨s₁, hrun, rfl⟩

/-! ## `halt()` -/

/-- What `halt()` makes of the hook state: `on_cancelled()` may be called. -/
def CancelledHook (hooks : ActionHooks Goal Result Feedback B) (h h' : HookState Goal B) : Prop :=
  h' = h ∨ ∃ result, finalState ((hooks.onCancelled result).run h) = h'

/-- `should_cancel_goal()`: a goal to cancel is one that is held. -/
theorem shouldCancelGoal_trace {input : HaltInput Result Feedback}
    (hvalid : RequestsValid s.requests) :
    Triple (· = s) (shouldCancelGoal input)
      (fun goal s' => Spun s s' ∧ (goal.isSome = true → s'.goalHandle.isSome = true))
      (fun _ _ => False) := by
  refine triple_get_bind ?_
  rintro s' rfl
  have hnone : ∀ s₁, s₁ = s' → Spun s' s₁ ∧ ((none : Option GoalId).isSome = true →
      s₁.goalHandle.isSome = true) := by
    rintro _ rfl
    exact ⟨.refl hvalid, fun hf => by cases hf⟩
  refine triple_ite (fun _ => triple_pure hnone) (fun _ => ?_)
  split
  · exact triple_pure hnone
  · next i hi =>
    have hsome : s'.goalHandle.isSome = true := by rw [hi]; rfl
    refine triple_bind (triple_total (spin_safe input.spin hvalid (.inr hsome))) fun _ =>
      triple_get_bind fun s₁ hspun => ?_
    have hsome₁ : s₁.goalHandle.isSome = true := by rw [hspun.goalHandle]; exact hsome
    refine triple_ite (fun _ => triple_pure ?_) (fun _ => triple_pure ?_)
    · rintro _ rfl
      exact ⟨hspun, fun _ => hsome₁⟩
    · rintro _ rfl
      exact ⟨hspun, fun hf => by cases hf⟩

/-- The cancellation: spins, and then the virtual function. -/
theorem cancelGoal_trace {input : HaltInput Result Feedback} {goal : Option GoalId}
    (hvalid : RequestsValid s.requests)
    (hheld : goal.isSome = true → s.goalHandle.isSome = true) :
    Triple (· = s) (cancelGoal hooks input goal)
      (fun _ s' => ∃ s₁ h, Spun s s₁ ∧ CancelledHook hooks s.hook h ∧ s' = { s₁ with hook := h })
      (fun e s' => e = .hookFailed ∧ ∃ s₁ h, Spun s s₁ ∧ CancelledHook hooks s.hook h ∧
        s' = { s₁ with hook := h }) := by
  cases goal with
  | none => exact triple_pure (by rintro _ rfl; exact ⟨_, _, .refl hvalid, .inl rfl, rfl⟩)
  | some i =>
    have hspin : ∀ es : List (SpinEvent Result Feedback), Triple (Spun s) (spin es)
        (fun _ => Spun s) (fun _ _ => False) := by
      refine fun es => triple_start fun s₁ hspun => ?_
      have hholds : Holds s₁ := .inr (by rw [hspun.goalHandle]; exact hheld rfl)
      exact triple_post (spin_safe es hspun.valid hholds) (fun _ _ hs => hspun.trans hs)
    refine triple_bind (Q := fun _ => Spun s) (triple_modify ?_) fun _ => ?_
    · rintro _ rfl
      exact .of_modify hvalid (fun _ hr => hr.requestCancel) Request.grows_requestCancel
    refine triple_bind (triple_total (hspin _)) fun _ => ?_
    refine triple_bind (triple_total (hspin _)) fun _ => triple_get_bind fun s₁ hspun => ?_
    refine triple_bind (Q := fun _ s' => ∃ s₁ h, Spun s s₁ ∧ CancelledHook hooks s.hook h ∧
      s' = { s₁ with hook := h }) (triple_callHook ?_) fun _ => triple_pure fun _ hs => hs
    rintro _ rfl
    rw [hspun.hook]
    cases hrun : (hooks.onCancelled s₁.result.result).run s.hook with
    | ok _ h => exact ⟨s₁, h, hspun, .inr ⟨_, by rw [hrun]; rfl⟩, rfl⟩
    | error _ h => exact ⟨rfl, s₁, h, hspun, .inr ⟨_, by rw [hrun]; rfl⟩, rfl⟩

/-- **A halt** spins, and resets the status unless `on_cancelled()` throws. -/
theorem halt_trace {input : HaltInput Result Feedback} (hvalid : RequestsValid s.requests) :
    Triple (· = s) (halt hooks input)
      (fun _ s' => ∃ s₁ h, Spun s s₁ ∧ CancelledHook hooks s.hook h ∧
        s' = { s₁ with hook := h, status := .idle })
      (fun e s' => e = .hookFailed ∧ ∃ s₁ h, Spun s s₁ ∧ CancelledHook hooks s.hook h ∧
        s' = { s₁ with hook := h }) := by
  refine triple_bind (triple_total (shouldCancelGoal_trace hvalid))
    fun goal => triple_start fun s₁ ⟨hspun, hheld⟩ => ?_
  refine triple_bind (triple_conseq (cancelGoal_trace hspun.valid hheld) (fun _ hs => hs)
    (fun _ _ hs => hs) ?_) fun _ => triple_modify ?_
  · rintro e s' ⟨he, s₂, h, hspun₂, hhook, rfl⟩
    exact ⟨he, s₂, h, hspun.trans hspun₂, hspun.hook ▸ hhook, rfl⟩
  · rintro _ ⟨s₂, h, hspun₂, hhook, rfl⟩
    exact ⟨s₂, h, hspun.trans hspun₂, hspun.hook ▸ hhook, rfl⟩

/-- What the virtual function for a cancelled goal keeps of the blackboard,
`halt()` keeps. -/
theorem halt_keeps {I : B → Prop} {input : HaltInput Result Feedback}
    (hcancelled : ∀ result, Preserves (fun h => I h.blackboard) (hooks.onCancelled result))
    (hvalid : RequestsValid s.requests) (hI : I s.hook.blackboard) :
    Triple (· = s) (halt hooks input) (fun _ s' => Grown s s' ∧
      s'.requests.length = s.requests.length ∧ s'.status = .idle ∧ I s'.hook.blackboard)
      (fun e _ => e ≠ .invalidStatus) := by
  have hkeeps : ∀ h, CancelledHook hooks s.hook h → I h.blackboard := by
    rintro h (rfl | ⟨result, rfl⟩)
    · exact hI
    · exact hcancelled result s.hook hI
  refine triple_conseq (halt_trace hvalid) (fun _ hs => hs) ?_ ?_
  · rintro _ _ ⟨s₁, h, hspun, hhook, rfl⟩
    exact ⟨⟨hspun.valid, hspun.grow⟩, hspun.length, rfl, hkeeps h hhook⟩
  · rintro _ _ ⟨rfl, _⟩
    exact ActionFailure.noConfusion

end Nav3D.BehaviorTree

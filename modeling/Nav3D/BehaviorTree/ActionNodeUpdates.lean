/-
Nav3D.BehaviorTree.ActionNodeUpdates — which goals a `BtActionNode` sends
to replace the one that is running.

`goal_updated_` says that `goal_` is not the goal sent last. Two things
keep it true: a subclass that raises the flag exactly when it changes the
goal (`HooksTrack`), and a tick that does not find the flag raised from
before, unless the goal is going to differ anyway (`Current`). Then every
update that a tick sends differs from the goal sent before it
(`executeTick_sentLast`).
-/
import Nav3D.BehaviorTree.ActionNodeSpin

namespace Nav3D.BehaviorTree

open Nav3D.Ros StateInvariant
open BT (NodeStatus)

variable {Goal Result Feedback B : Type}

/-! ## The goals that have been sent -/

/-- The goal sent last. -/
def lastGoal (rs : List (Request Goal Result)) : Option Goal := rs.getLast?.map (·.goal)

/-- Every update differs from the goal sent before it. -/
def UpdatesDiffer (rs : List (Request Goal Result)) : Prop :=
  ∀ (k : Nat) (r r' : Request Goal Result), rs[k]? = some r → rs[k + 1]? = some r' →
    r'.update = true → r'.goal ≠ r.goal

theorem lastGoal_of_grow {rs rs' : List (Request Goal Result)} (h : RequestsGrow rs rs')
    (hlength : rs'.length = rs.length) : lastGoal rs' = lastGoal rs := by
  rw [lastGoal, lastGoal, List.getLast?_eq_getElem?, List.getLast?_eq_getElem?, hlength]
  cases hr : rs[rs.length - 1]? with
  | none =>
    rw [List.getElem?_eq_none_iff] at hr
    rw [List.getElem?_eq_none (by omega)]
  | some r =>
    obtain ⟨r', hr', hgrow⟩ := h _ r hr
    rw [hr', Option.map_some, Option.map_some, hgrow.goal]

theorem UpdatesDiffer.of_grow {rs rs' : List (Request Goal Result)} (h : UpdatesDiffer rs)
    (hgrow : RequestsGrow rs rs') (hlength : rs'.length = rs.length) : UpdatesDiffer rs' := by
  intro k r₁' r₂' hr₁' hr₂' hupdate
  obtain ⟨r₁, hr₁, hg₁⟩ := grows_of_length hgrow hlength hr₁'
  obtain ⟨r₂, hr₂, hg₂⟩ := grows_of_length hgrow hlength hr₂'
  rw [hg₁.goal, hg₂.goal]
  exact h k r₁ r₂ hr₁ hr₂ (hg₂.update.symm.trans hupdate)

@[simp] theorem lastGoal_append (rs : List (Request Goal Result)) (r : Request Goal Result) :
    lastGoal (rs ++ [r]) = some r.goal := by
  simp [lastGoal]

/-- One more request, which is no update or is for another goal. -/
theorem UpdatesDiffer.append {rs : List (Request Goal Result)} (h : UpdatesDiffer rs)
    {r : Request Goal Result} (hr : r.update = true → lastGoal rs ≠ some r.goal) :
    UpdatesDiffer (rs ++ [r]) := by
  intro k r₁ r₂ hr₁ hr₂ hupdate heq
  have hlt : k + 1 < (rs ++ [r]).length := (List.getElem?_eq_some_iff.mp hr₂).1
  rw [List.length_append, List.length_singleton] at hlt
  rw [List.getElem?_append_left (by omega)] at hr₁
  by_cases hnew : k + 1 < rs.length
  · rw [List.getElem?_append_left hnew] at hr₂
    exact h k r₁ r₂ hr₁ hr₂ hupdate heq
  · -- the update is the new request
    have hk : rs.length - 1 = k := by omega
    rw [List.getElem?_append_right (by omega), show k + 1 - rs.length = 0 by omega] at hr₂
    cases hr₂
    refine hr hupdate ?_
    rw [lastGoal, List.getLast?_eq_getElem?, hk, hr₁, Option.map_some, heq]

/-! ## What the virtual functions do -/

/-- `h'` is `h` after a function that leaves the goal and its flags. -/
def SameGoal (h h' : HookState Goal B) : Prop :=
  h'.goal = h.goal ∧ h'.goalUpdated = h.goalUpdated

/-- A virtual function of a subclass that raises `goal_updated_` exactly when
it changes the goal. -/
structure HooksTrack (hooks : ActionHooks Goal Result Feedback B) : Prop where
  onTick : ∀ h₀, Triple (· = h₀) hooks.onTick
    (fun _ h => h.shouldSendGoal = h₀.shouldSendGoal ∧ h.goalUpdated = h₀.goalUpdated)
    (fun _ _ => True)
  onWaitForResult : ∀ feedback h₀, Triple (· = h₀) (hooks.onWaitForResult feedback)
    (fun _ h => (h.goalUpdated = false → SameGoal h₀ h) ∧
      (h.goalUpdated = true → h₀.goalUpdated = true ∨ h.goal ≠ h₀.goal))
    (fun _ _ => False)
  onSuccess : ∀ result h₀, Triple (· = h₀) (hooks.onSuccess result) (fun _ => SameGoal h₀)
    (fun _ => SameGoal h₀)
  onAborted : ∀ result h₀, Triple (· = h₀) (hooks.onAborted result) (fun _ => SameGoal h₀)
    (fun _ => SameGoal h₀)
  onCancelled : ∀ result h₀, Triple (· = h₀) (hooks.onCancelled result) (fun _ => SameGoal h₀)
    (fun _ => SameGoal h₀)
  onTimeout : ∀ h₀, Triple (· = h₀) hooks.onTimeout (fun _ => SameGoal h₀) (fun _ => SameGoal h₀)

/-- `on_wait_for_result()` is going to leave a goal other than the one sent
last. -/
def WillDiffer (hooks : ActionHooks Goal Result Feedback B)
    (s : ActionNode Goal Result Feedback B) : Prop :=
  ∀ feedback h, (hooks.onWaitForResult feedback).run s.hook = .ok () h →
    lastGoal s.requests ≠ some h.goal

/-! ## The invariant -/

/-- Updates have differed so far, and `goal_` has been sent unless
`goal_updated_` is raised. -/
structure SentLast (s : ActionNode Goal Result Feedback B) : Prop where
  valid : RequestsValid s.requests
  differ : UpdatesDiffer s.requests
  last : s.hook.goalUpdated = false → lastGoal s.requests = some s.hook.goal

/-- The invariant between ticks: a node that is not active has no goal. -/
structure SentLastNode (s : ActionNode Goal Result Feedback B) : Prop where
  valid : RequestsValid s.requests
  differ : UpdatesDiffer s.requests
  last : s.status.isActive = true → s.hook.goalUpdated = false →
    lastGoal s.requests = some s.hook.goal

/-- The flag is up to date, or the goal is going to differ anyway. -/
def Current (hooks : ActionHooks Goal Result Feedback B)
    (s : ActionNode Goal Result Feedback B) : Prop :=
  s.hook.goalUpdated = true → WillDiffer hooks s

/-- `s'` is `s` after steps that neither send a goal nor change it. -/
structure Framed (s s' : ActionNode Goal Result Feedback B) : Prop where
  valid : RequestsValid s'.requests
  grow : RequestsGrow s.requests s'.requests
  length : s'.requests.length = s.requests.length
  status : s'.status = s.status
  goal : SameGoal s.hook s'.hook

variable {s : ActionNode Goal Result Feedback B}

theorem SentLast.framed {s' : ActionNode Goal Result Feedback B} (h : SentLast s)
    (hframed : Framed s s') : SentLast s' where
  valid := hframed.valid
  differ := h.differ.of_grow hframed.grow hframed.length
  last hflag := by
    rw [lastGoal_of_grow hframed.grow hframed.length, hframed.goal.1]
    exact h.last (hframed.goal.2.symm.trans hflag)

theorem SentLastNode.framed {s' : ActionNode Goal Result Feedback B} (h : SentLastNode s)
    (hframed : Framed s s') : SentLastNode s' where
  valid := hframed.valid
  differ := h.differ.of_grow hframed.grow hframed.length
  last hactive hflag := by
    rw [lastGoal_of_grow hframed.grow hframed.length, hframed.goal.1]
    exact h.last (hframed.status ▸ hactive) (hframed.goal.2.symm.trans hflag)

theorem SentLast.node (h : SentLast s) : SentLastNode s := ⟨h.valid, h.differ, fun _ => h.last⟩

theorem Spun.framed {s' : ActionNode Goal Result Feedback B} (h : Spun s s') : Framed s s' :=
  ⟨h.valid, h.grow, h.length, h.status, by rw [h.hook]; exact ⟨rfl, rfl⟩⟩

theorem Framed.trans {s' s'' : ActionNode Goal Result Feedback B} (h : Framed s s')
    (h' : Framed s' s'') : Framed s s'' :=
  ⟨h'.valid, h.grow.trans h'.grow, h'.length.trans h.length, h'.status.trans h.status,
    h'.goal.1.trans h.goal.1, h'.goal.2.trans h.goal.2⟩

theorem Framed.refl (h : RequestsValid s.requests) : Framed s s := ⟨h, .refl _, rfl, rfl, rfl, rfl⟩

/-- The requests after something has happened to one of them. -/
theorem Framed.of_modify (h : RequestsValid s.requests) {i : GoalId}
    {f : Request Goal Result → Request Goal Result}
    (hvalid : ∀ r : Request Goal Result, r.Valid → (f r).Valid)
    (hgrow : ∀ r : Request Goal Result, r.Grows (f r)) :
    Framed s { s with requests := s.requests.modify i f } :=
  (Spun.of_modify h hvalid hgrow).framed

/-- What an exception leaves; after a null dereference there is no state. -/
def RaisedFramed (s : ActionNode Goal Result Feedback B) (e : ActionFailure)
    (s' : ActionNode Goal Result Feedback B) : Prop :=
  e ≠ .nullDeref → Framed s s'

theorem raisedFramed_nullDeref {s' : ActionNode Goal Result Feedback B} :
    RaisedFramed s .nullDeref s' := fun h => absurd rfl h

theorem RaisedFramed.of_framed {s' s'' : ActionNode Goal Result Feedback B} {e : ActionFailure}
    (h : Framed s s') (h' : RaisedFramed s' e s'') : RaisedFramed s e s'' :=
  fun he => h.trans (h' he)

/-- A virtual function that leaves the goal. -/
theorem callHook_framed {α : Type} {f : HookM Goal B α}
    (hf : ∀ h₀, Triple (· = h₀) f (fun _ => SameGoal h₀) (fun _ => SameGoal h₀))
    (h : RequestsValid s.requests) :
    Triple (· = s) (callHook f : ActionM Goal Result Feedback B α) (fun _ => Framed s)
      (RaisedFramed s) := by
  refine triple_callHook (triple_conseq (hf s.hook) (fun _ hs => hs) ?_ ?_)
  · exact fun _ h' hsame => ⟨h, .refl _, rfl, rfl, hsame⟩
  · exact fun _ h' hsame _ => ⟨h, .refl _, rfl, rfl, hsame⟩

/-! ## The wait for the goal response -/

theorem abandonFuture_framed (h : RequestsValid s.requests) :
    Triple (· = s) abandonFuture (fun _ s' => Framed s s' ∧ s'.hook = s.hook)
      (fun _ _ => False) := by
  refine triple_modify ?_
  rintro s' rfl
  split
  · exact ⟨.refl h, rfl⟩
  · next i _ =>
    have hframed := Framed.of_modify h (i := i) (fun _ hr => hr.abandon) Request.grows_abandon
    exact ⟨⟨hframed.valid, hframed.grow, hframed.length, rfl, rfl, rfl⟩, rfl⟩

theorem takeGoalHandle_framed (i : GoalId) (h : RequestsValid s.requests) :
    Triple (· = s) (takeGoalHandle i) (fun _ s' => Framed s s' ∧ s'.hook = s.hook)
      (RaisedFramed s) := by
  refine triple_get_bind ?_
  rintro s' rfl
  refine triple_bind (Q := fun _ s₁ => Framed s' s₁ ∧ s₁.hook = s'.hook) (triple_modify ?_)
    fun _ => ?_
  · rintro _ rfl
    exact ⟨⟨h, .refl _, rfl, rfl, rfl, rfl⟩, rfl⟩
  · exact triple_ite (fun _ => triple_throw fun _ hs _ => hs.1) (fun _ => triple_pure fun _ hs => hs)

theorem isFutureGoalHandleComplete_framed {params : ActionParams}
    {a : Acknowledgement Result Feedback} (h : RequestsValid s.requests) :
    Triple (· = s) (isFutureGoalHandleComplete params a)
      (fun _ s' => Framed s s' ∧ s'.hook = s.hook) (RaisedFramed s) := by
  have habandon : ∀ {s₁ : ActionNode Goal Result Feedback B}, Framed s s₁ → s₁.hook = s.hook →
      Triple (· = s₁) abandonFuture (fun _ s' => Framed s s' ∧ s'.hook = s.hook)
        (RaisedFramed s) := fun hframed hhook =>
    triple_conseq (abandonFuture_framed hframed.valid) (fun _ hs => hs)
      (fun _ _ hs => ⟨hframed.trans hs.1, hs.2.trans hhook⟩) (fun _ _ hf => hf.elim)
  refine triple_ite (fun _ => ?_) (fun _ => triple_get_bind ?_)
  · exact triple_bind (habandon (.refl h) rfl) fun _ => triple_pure fun _ hs => hs
  · rintro s' rfl
    split
    · exact triple_throw fun _ _ => raisedFramed_nullDeref
    · next i _ =>
      refine triple_bind (triple_conseq (spinUntilResponse_spec i a.spin h) (fun _ hs => hs)
        (fun _ _ hs => hs.1) fun _ _ he => ?_) fun complete => triple_start fun s₁ hspun => ?_
      · rw [show _ = ActionFailure.nullDeref from he]
        exact raisedFramed_nullDeref
      have hframed := hspun.framed
      refine triple_ite (fun _ => ?_) (fun _ => triple_ite (fun _ => ?_) (fun _ => triple_pure ?_))
      · refine triple_bind (triple_conseq (takeGoalHandle_framed i hframed.valid)
          (fun _ hs => hs) (fun _ _ hs => ?_) fun _ _ he => he.of_framed hframed) fun _ =>
          triple_pure fun _ hs => hs
        exact ⟨hframed.trans hs.1, hs.2.trans hspun.hook⟩
      · exact triple_bind (habandon hframed hspun.hook) fun _ =>
          triple_throw fun _ hs _ => hs.1
      · rintro _ rfl
        exact ⟨hframed, hspun.hook⟩

/-- The wait for the goal response; if the tick goes on, nothing has changed
for the subclass. -/
theorem awaitAcknowledgement_framed {hooks : ActionHooks Goal Result Feedback B}
    {params : ActionParams} {a : Acknowledgement Result Feedback} (htrack : HooksTrack hooks)
    (h : RequestsValid s.requests) :
    Triple (· = s) (awaitAcknowledgement hooks params a)
      (fun early s' => Framed s s' ∧ (early = none → s'.hook = s.hook)) (RaisedFramed s) := by
  refine triple_bind (isFutureGoalHandleComplete_framed h) fun out => ?_
  refine triple_start fun s₁ ⟨hframed, hhook⟩ => ?_
  refine triple_ite (fun _ => triple_pure ?_) (fun _ => triple_ite (fun _ => triple_pure ?_)
    (fun _ => ?_))
  · rintro _ rfl
    exact ⟨hframed, fun _ => hhook⟩
  · rintro _ rfl
    exact ⟨hframed, fun hf => by cases hf⟩
  · refine triple_bind (triple_total (abandonFuture_framed hframed.valid))
      fun _ => triple_start fun s₂ hs₂ => ?_
    have hframed₂ := hframed.trans hs₂.1
    refine triple_bind (triple_conseq (callHook_framed htrack.onTimeout hs₂.1.valid)
      (fun _ hs => hs) (fun _ _ hs => hframed₂.trans hs) fun _ _ he => he.of_framed hframed₂)
      fun _ => triple_pure fun _ hs => ?_
    exact ⟨hs, fun hf => by cases hf⟩

/-! ## `tick()` -/

/-- What an exception out of a tick leaves. -/
def RaisedSentLast (e : ActionFailure) (s : ActionNode Goal Result Feedback B) : Prop :=
  e ≠ .nullDeref → SentLast s

theorem RaisedFramed.sentLast {s' : ActionNode Goal Result Feedback B} {e : ActionFailure}
    (h : SentLast s) (he : RaisedFramed s e s') : RaisedSentLast e s' :=
  fun hne => h.framed (he hne)

theorem raisedSentLast_nullDeref : RaisedSentLast .nullDeref s := fun h => absurd rfl h

/-- The goal is sent: an update only if it differs from the one before. -/
theorem sendNewGoal_sentLast {update : Bool} (hvalid : RequestsValid s.requests)
    (hdiffer : UpdatesDiffer s.requests)
    (hupdate : update = true → lastGoal s.requests ≠ some s.hook.goal) :
    Triple (· = s) (sendNewGoal update) (fun _ s' => SentLast s' ∧ s'.hook = s.hook)
      (fun _ _ => False) := by
  refine triple_modify ?_
  rintro s' rfl
  exact ⟨⟨requestsValid_append hvalid (Request.valid_new _ _), hdiffer.append hupdate,
    fun _ => lastGoal_append _ _⟩, rfl⟩

theorem updateGoal_sentLast {hooks : ActionHooks Goal Result Feedback B} {params : ActionParams}
    {a : Acknowledgement Result Feedback} {goalStatus : GoalStatus} (htrack : HooksTrack hooks)
    (h : SentLast s)
    (hflag : s.hook.goalUpdated = true → lastGoal s.requests ≠ some s.hook.goal) :
    Triple (· = s) (updateGoal hooks params a goalStatus) (fun _ => SentLast) RaisedSentLast := by
  refine triple_get_bind ?_
  rintro s' rfl
  refine triple_ite (fun hsend => ?_) (fun _ => triple_pure ?_)
  · rw [Bool.and_eq_true] at hsend
    refine triple_bind (Q := fun _ s₁ => RequestsValid s₁.requests ∧ UpdatesDiffer s₁.requests ∧
      lastGoal s₁.requests ≠ some s₁.hook.goal) (triple_modify ?_) fun _ => ?_
    · rintro _ rfl
      exact ⟨h.valid, h.differ, hflag hsend.1⟩
    refine triple_bind (Q := fun _ => SentLast) (triple_start fun s₁ hs₁ => ?_) fun _ =>
      triple_start fun s₂ hs₂ => ?_
    · exact triple_conseq (sendNewGoal_sentLast hs₁.1 hs₁.2.1 fun _ => hs₁.2.2)
        (fun _ hs => hs) (fun _ _ hs => hs.1) (fun _ _ hf => hf.elim)
    exact triple_conseq (awaitAcknowledgement_framed htrack hs₂.valid) (fun _ hs => hs)
      (fun _ _ hs => hs₂.framed hs.1) (fun _ _ he => he.sentLast hs₂)
  · rintro _ rfl
    exact h

/-- `on_wait_for_result()`: the flag is up to date when it has been called,
if it was before or the goal was going to differ. -/
theorem onWaitForResult_sentLast {hooks : ActionHooks Goal Result Feedback B}
    {feedback : Option Feedback} (htrack : HooksTrack hooks) (h : SentLast s)
    (hcurrent : Current hooks s) :
    Triple (· = s) (callHook (hooks.onWaitForResult feedback))
      (fun _ s' => SentLast s' ∧
        (s'.hook.goalUpdated = true → lastGoal s'.requests ≠ some s'.hook.goal))
      RaisedSentLast := by
  refine triple_callHook (triple_conseq (triple_run (htrack.onWaitForResult feedback s.hook))
    (fun _ hs => hs) ?_ (fun _ _ hf => hf.elim))
  rintro _ h' ⟨hrun, hlowered, hraised⟩
  refine ⟨⟨h.valid, h.differ, fun hflag => ?_⟩, fun hflag => ?_⟩
  · obtain ⟨hgoal, hflag'⟩ := hlowered hflag
    show lastGoal s.requests = some h'.goal
    rw [hgoal]
    exact h.last (hflag'.symm.trans hflag)
  · show lastGoal s.requests ≠ some h'.goal
    cases hbefore : s.hook.goalUpdated with
    | true => exact hcurrent hbefore feedback h' hrun
    | false =>
      -- the flag has been raised by this call, so the goal has changed
      have hchanged : h'.goal ≠ s.hook.goal :=
        (hraised hflag).resolve_left fun hf => by rw [hbefore] at hf; cases hf
      rw [h.last hbefore]
      exact fun heq => hchanged (Option.some.inj heq).symm

/-- The part that waits for the result. -/
theorem waitForResult_sentLast {hooks : ActionHooks Goal Result Feedback B}
    {params : ActionParams} {input : TickInput Result Feedback} (htrack : HooksTrack hooks)
    (h : SentLast s) (hcurrent : Current hooks s) :
    Triple (· = s) (waitForResult hooks params input) (fun _ => SentLast) RaisedSentLast := by
  refine triple_get_bind ?_
  rintro s' rfl
  refine triple_bind (onWaitForResult_sentLast htrack h hcurrent) fun _ => ?_
  refine triple_bind (Q := fun _ s₁ => SentLast s₁ ∧
    (s₁.hook.goalUpdated = true → lastGoal s₁.requests ≠ some s₁.hook.goal))
    (triple_modify fun s₁ hs₁ => ⟨⟨hs₁.1.valid, hs₁.1.differ, hs₁.1.last⟩, hs₁.2⟩) fun _ => ?_
  refine triple_get_bind fun s₁ hs₁ => ?_
  split
  · exact triple_throw fun _ _ => raisedSentLast_nullDeref
  · refine triple_get_bind ?_
    rintro s₂ rfl
    refine triple_bind (updateGoal_sentLast htrack hs₁.1 hs₁.2) fun early => ?_
    cases early with
    | some status => exact triple_pure fun _ hs => hs
    | none =>
      refine triple_bind (Q := fun _ => SentLast) (triple_start fun s₃ hs₃ => ?_) fun _ =>
        triple_get_bind fun s₄ hs₄ => ?_
      · refine triple_conseq (spin_spec input.spin hs₃.valid) (fun _ hs => hs)
          (fun _ _ hspun => hs₃.framed hspun.framed) fun _ _ he => ?_
        rw [show _ = ActionFailure.nullDeref from he]
        exact raisedSentLast_nullDeref
      · have hs₄' : ∀ s', s' = s₄ → SentLast s' := by rintro _ rfl; exact hs₄
        exact triple_ite (fun _ => triple_pure hs₄') (fun _ => triple_pure hs₄')

/-- The `try` block. -/
theorem tickBody_sentLast {hooks : ActionHooks Goal Result Feedback B}
    {params : ActionParams} {input : TickInput Result Feedback} (htrack : HooksTrack hooks)
    (h : SentLast s) (hcurrent : Current hooks s) :
    Triple (· = s) (tickBody hooks params input) (fun _ => SentLast) RaisedSentLast := by
  have hpending : Triple (· = s) (pendingAcknowledgement hooks params input.first)
      (fun early s' => Framed s s' ∧ (early = none → s'.hook = s.hook)) (RaisedFramed s) := by
    refine triple_get_bind ?_
    rintro s' rfl
    refine triple_ite (fun _ => awaitAcknowledgement_framed htrack h.valid)
      (fun _ => triple_pure ?_)
    rintro _ rfl
    exact ⟨.refl h.valid, fun _ => rfl⟩
  refine triple_bind (triple_conseq hpending (fun _ hs => hs) (fun _ _ hs => hs)
    (fun _ _ he => he.sentLast h)) fun early => triple_start fun s₁ ⟨hframed, hhook⟩ => ?_
  have hs₁ := h.framed hframed
  have hs₁' : ∀ s', s' = s₁ → SentLast s' := by rintro _ rfl; exact hs₁
  cases early with
  | some status => exact triple_pure hs₁'
  | none =>
    have hcurrent₁ : Current hooks s₁ := by
      rw [Current, WillDiffer, hhook rfl, lastGoal_of_grow hframed.grow hframed.length]
      exact hcurrent
    refine triple_get_bind ?_
    rintro s₂ rfl
    exact triple_ite (fun _ => waitForResult_sentLast htrack hs₁ hcurrent₁)
      (fun _ => triple_pure hs₁')

/-- The end of `tick()`. -/
theorem reportResult_sentLast {hooks : ActionHooks Goal Result Feedback B}
    (htrack : HooksTrack hooks) (h : SentLast s) :
    Triple (· = s) (reportResult hooks) (fun _ => SentLast) RaisedSentLast := by
  refine triple_get_bind ?_
  rintro s' rfl
  refine triple_bind (Q := fun _ => SentLast) ?_ fun _ => ?_
  · have hcall : ∀ f : HookM Goal B NodeStatus,
        (∀ h₀, Triple (· = h₀) f (fun _ => SameGoal h₀) (fun _ => SameGoal h₀)) →
        Triple (· = s') (callHook f) (fun _ => SentLast) RaisedSentLast := fun f hf =>
      triple_conseq (callHook_framed hf h.valid) (fun _ hs => hs) (fun _ _ hs => h.framed hs)
        (fun _ _ he => he.sentLast h)
    unfold resultStatus
    cases s'.result.code with
    | succeeded => exact hcall _ (htrack.onSuccess _)
    | aborted => exact hcall _ (htrack.onAborted _)
    | canceled => exact hcall _ (htrack.onCancelled _)
    | unknown =>
      refine triple_throw ?_
      rintro _ rfl _
      exact h
  · exact triple_bind (Q := fun _ => SentLast)
      (triple_modify fun _ hs => ⟨hs.valid, hs.differ, hs.last⟩) fun _ =>
      triple_pure fun _ hs => hs

/-- The rest of `tick()`. -/
theorem tickActive_sentLast {hooks : ActionHooks Goal Result Feedback B}
    {params : ActionParams} {input : TickInput Result Feedback} (htrack : HooksTrack hooks)
    (h : SentLast s) (hcurrent : Current hooks s) :
    Triple (· = s) (tickActive hooks params input) (fun _ => SentLast) RaisedSentLast := by
  refine triple_bind (Q := fun _ => SentLast)
    (triple_tryCatch (tickBody_sentLast htrack h hcurrent) fun e => ?_) fun early => ?_
  · refine triple_ite (fun hcaught => triple_pure fun s' hs' => hs' ?_)
      (fun _ => triple_throw fun s' hs' => hs')
    rintro rfl
    rcases hcaught with hc | hc <;> cases hc
  · refine triple_start fun s₁ hs₁ => ?_
    cases early with
    | some status =>
      refine triple_pure ?_
      rintro _ rfl
      exact hs₁
    | none => exact reportResult_sentLast htrack hs₁

/-- The start of `tick()`: a goal is sent that replaces none. -/
theorem activate_sentLast {hooks : ActionHooks Goal Result Feedback B} (htrack : HooksTrack hooks)
    (h : SentLastNode s) (hidle : s.status.isActive = false) (hflag : s.hook.goalUpdated = false) :
    Triple (· = s) (activate hooks)
      (fun goesOn s' => goesOn = true ∧ SentLast s' ∧ s'.hook.goalUpdated = false)
      (fun e s' => e ≠ .nullDeref → SentLastNode s') := by
  refine triple_bind (Q := fun _ s₁ => s₁.requests = s.requests ∧ s₁.status = s.status ∧
    s₁.hook.shouldSendGoal = true ∧ s₁.hook.goalUpdated = false) (triple_modify ?_) fun _ => ?_
  · rintro _ rfl
    exact ⟨rfl, rfl, rfl, hflag⟩
  refine triple_bind (Q := fun _ s₁ => s₁.requests = s.requests ∧
    s₁.hook.shouldSendGoal = true ∧ s₁.hook.goalUpdated = false) ?_ fun _ => ?_
  · refine triple_start fun s₁ ⟨hrequests, hstatus, hshould, hlowered⟩ => ?_
    refine triple_callHook (triple_conseq (htrack.onTick s₁.hook) (fun _ hs => hs) ?_ ?_)
    · exact fun _ hook hs => ⟨hrequests, hs.1.trans hshould, hs.2.trans hlowered⟩
    · -- the node has not become active
      have hinactive : s₁.status.isActive = false := by rw [hstatus]; exact hidle
      refine fun _ hook _ _ => ⟨hrequests ▸ h.valid, hrequests ▸ h.differ, fun hactive => ?_⟩
      rw [hinactive] at hactive
      cases hactive
  refine triple_bind (Q := fun _ s₁ => s₁.requests = s.requests ∧
    s₁.hook.shouldSendGoal = true ∧ s₁.hook.goalUpdated = false)
    (triple_modify fun _ hs => hs) fun _ => ?_
  refine triple_get_bind fun s₁ ⟨hrequests, hshould, hlowered⟩ => triple_ite (fun _ => ?_)
    (fun hnot => absurd hshould hnot)
  have hfirst : false = true → lastGoal s₁.requests ≠ some s₁.hook.goal := fun hf => by cases hf
  refine triple_bind (triple_total (sendNewGoal_sentLast (hrequests ▸ h.valid)
    (hrequests ▸ h.differ) hfirst))
    fun _ => triple_pure fun s₂ ⟨hs₂, hhook⟩ => ?_
  exact ⟨rfl, hs₂, hhook ▸ hlowered⟩

/-- **A tick.** A node that is not active has to find the flag lowered. -/
theorem executeTick_sentLast {hooks : ActionHooks Goal Result Feedback B}
    {params : ActionParams} {input : TickInput Result Feedback} (htrack : HooksTrack hooks)
    (h : SentLastNode s)
    (hflag : s.hook.goalUpdated = true → s.status.isActive = true ∧ WillDiffer hooks s) :
    Triple (· = s) (executeTick hooks params input) (fun _ => SentLastNode)
      (fun e s' => e ≠ .nullDeref → SentLastNode s') := by
  have hactive : ∀ {s' : ActionNode Goal Result Feedback B}, SentLast s' → Current hooks s' →
      Triple (· = s') (tickActive hooks params input) (fun _ => SentLast)
        (fun e s'' => e ≠ .nullDeref → SentLastNode s'') := fun hs' hcurrent =>
    triple_conseq (tickActive_sentLast htrack hs' hcurrent) (fun _ hs => hs) (fun _ _ hs => hs)
      (fun _ _ he hne => (he hne).node)
  refine triple_bind (Q := fun _ => SentLast) (triple_get_bind ?_) fun status => ?_
  · rintro s' rfl
    refine triple_ite (fun hact => ?_) (fun hidle => ?_)
    · exact hactive ⟨h.valid, h.differ, h.last hact⟩ fun hf => (hflag hf).2
    · rw [Bool.not_eq_true] at hidle
      have hlowered : s'.hook.goalUpdated = false := by
        cases hf : s'.hook.goalUpdated with
        | false => rfl
        | true => rw [(hflag hf).1] at hidle; cases hidle
      refine triple_bind (activate_sentLast htrack h hidle hlowered) fun goesOn =>
        triple_start fun s₁ ⟨hgo, hs₁, hflag₁⟩ => ?_
      rw [hgo]
      exact hactive hs₁ fun hf => by rw [hflag₁] at hf; cases hf
  · refine triple_bind (Q := fun _ => SentLastNode) (triple_modify fun s₁ hs₁ => ?_) fun _ =>
      triple_pure fun _ hs => hs
    split
    · exact hs₁.node
    · exact ⟨hs₁.valid, hs₁.differ, fun _ => hs₁.last⟩

/-! ## `halt()` -/

/-- `halt()` sends nothing. -/
theorem halt_sentLast {hooks : ActionHooks Goal Result Feedback B}
    {input : HaltInput Result Feedback} (htrack : HooksTrack hooks) (h : SentLastNode s) :
    Triple (· = s) (halt hooks input) (fun _ => SentLastNode)
      (fun e s' => e ≠ .nullDeref → SentLastNode s') := by
  have hspin : ∀ {s₁ : ActionNode Goal Result Feedback B} es, Framed s s₁ →
      Triple (· = s₁) (spin es) (fun _ => Framed s) (RaisedFramed s) := fun es hs₁ =>
    triple_conseq (spin_spec es hs₁.valid) (fun _ hs => hs)
      (fun _ _ hspun => hs₁.trans hspun.framed) fun _ _ he hne => absurd he hne
  have hgoal : Triple (· = s) (shouldCancelGoal input) (fun _ => Framed s) (RaisedFramed s) := by
    have hrefl : ∀ s', s' = s → Framed s s' := by rintro _ rfl; exact .refl h.valid
    refine triple_get_bind ?_
    rintro s' rfl
    refine triple_ite (fun _ => triple_pure hrefl) (fun _ => ?_)
    split
    · exact triple_pure hrefl
    · refine triple_bind (hspin input.spin (.refl h.valid)) fun _ =>
        triple_get_bind fun s₁ hs₁ => ?_
      have hs₁' : ∀ s₂, s₂ = s₁ → Framed s' s₂ := by rintro _ rfl; exact hs₁
      exact triple_ite (fun _ => triple_pure hs₁') (fun _ => triple_pure hs₁')
  have hcancel : ∀ goal, Triple (Framed s) (cancelGoal hooks input goal) (fun _ => Framed s)
      (RaisedFramed s) := by
    intro goal
    cases goal with
    | none => exact triple_pure fun _ hs => hs
    | some i =>
      refine triple_bind (Q := fun _ => Framed s) (triple_modify fun s₁ hs₁ => ?_) fun _ => ?_
      · exact hs₁.trans (.of_modify hs₁.valid (fun _ hr => hr.requestCancel)
          Request.grows_requestCancel)
      · refine triple_bind (triple_start fun s₁ hs₁ => hspin _ hs₁) fun _ =>
          triple_bind (triple_start fun s₁ hs₁ => hspin _ hs₁) fun _ => ?_
        refine triple_get_bind fun s₁ hs₁ => ?_
        refine triple_bind (triple_conseq (callHook_framed (htrack.onCancelled s₁.result.result)
          hs₁.valid) (fun _ hs => hs) (fun _ _ hs => hs₁.trans hs)
          fun _ _ he => he.of_framed hs₁) fun _ => triple_pure fun _ hs => hs
  refine triple_conseq (triple_bind hgoal fun goal => triple_bind (hcancel goal) fun _ =>
    triple_modify (Q := fun _ => SentLastNode) fun s₁ hs₁ => ?_) (fun _ hs => hs)
    (fun _ _ hs => hs) (fun _ _ he hne => h.framed (he hne))
  have hs₁' := h.framed hs₁
  exact ⟨hs₁'.valid, hs₁'.differ, fun hf => by cases hf⟩

end Nav3D.BehaviorTree

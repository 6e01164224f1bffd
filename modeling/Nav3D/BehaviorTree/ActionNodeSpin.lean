/-
Nav3D.BehaviorTree.ActionNodeSpin — what spinning its executor does to a
`BtActionNode`.

Whatever the server does and whatever is delivered, a spin leaves the
status, the goal handle, the future and the hook state of the node; the
requests grow; and either no result is taken over, or it is the result of
the goal that the node holds, which is then terminal (`Spun`).
-/
import Nav3D.BehaviorTree.BtActionNode

namespace Nav3D.BehaviorTree

open Nav3D.Ros StateInvariant

variable {Goal Result Feedback B : Type}

/-- The result callback has taken over the result of the held goal. -/
def TookResult (s s' : ActionNode Goal Result Feedback B) : Prop :=
  s'.goalResultAvailable = true ∧ s.futureGoalHandle = none ∧ ∃ h r expired,
    s.goalHandle = some h ∧ s'.requests[h]? = some r ∧ r.terminal = true ∧
      s'.result = wrapResult expired r

/-- `s'` is `s` after a spin. -/
structure Spun (s s' : ActionNode Goal Result Feedback B) : Prop where
  valid : RequestsValid s'.requests
  grow : RequestsGrow s.requests s'.requests
  length : s'.requests.length = s.requests.length
  status : s'.status = s.status
  hook : s'.hook = s.hook
  goalHandle : s'.goalHandle = s.goalHandle
  futureGoalHandle : s'.futureGoalHandle = s.futureGoalHandle
  result : (s'.goalResultAvailable = s.goalResultAvailable ∧ s'.result = s.result) ∨
    TookResult s s'

theorem Spun.refl {s : ActionNode Goal Result Feedback B} (h : RequestsValid s.requests) :
    Spun s s :=
  ⟨h, .refl _, rfl, rfl, rfl, rfl, rfl, .inl ⟨rfl, rfl⟩⟩

/-- A result that has been taken over stays the result of its goal. -/
theorem wrapResult_grows {r r' : Request Goal Result} (h : r.Grows r') (ht : r.terminal = true)
    (expired : Bool) : wrapResult expired r' = wrapResult expired r := by
  obtain ⟨hst, hres⟩ := h.final ht
  simp only [wrapResult, Request.resultCode, hst, hres]

theorem Spun.trans {s s' s'' : ActionNode Goal Result Feedback B} (h : Spun s s')
    (h' : Spun s' s'') : Spun s s'' where
  valid := h'.valid
  grow := h.grow.trans h'.grow
  length := h'.length.trans h.length
  status := h'.status.trans h.status
  hook := h'.hook.trans h.hook
  goalHandle := h'.goalHandle.trans h.goalHandle
  futureGoalHandle := h'.futureGoalHandle.trans h.futureGoalHandle
  result := by
    rcases h'.result with ⟨ha', hr'⟩ | ⟨ha', hfut, i, r, expired, hi, hreq, hterm, hres⟩
    · rcases h.result with ⟨ha, hr⟩ | ⟨ha, hfut, i, r, expired, hi, hreq, hterm, hres⟩
      · exact .inl ⟨ha'.trans ha, hr'.trans hr⟩
      · obtain ⟨r', hreq', hgrow⟩ := h'.grow i r hreq
        exact .inr ⟨ha'.trans ha, hfut, i, r', expired, hi, hreq', hgrow.terminal hterm,
          hr'.trans (hres.trans (wrapResult_grows hgrow hterm expired).symm)⟩
    · exact .inr ⟨ha', h.futureGoalHandle.symm.trans hfut, i, r, expired,
        h.goalHandle.symm.trans hi, hreq, hterm, hres⟩

/-- A spin whose only effect is on the requests. -/
theorem Spun.of_requests {s : ActionNode Goal Result Feedback B}
    {rs : List (Request Goal Result)} (hvalid : RequestsValid rs)
    (hgrow : RequestsGrow s.requests rs) (hlength : rs.length = s.requests.length) :
    Spun s { s with requests := rs } :=
  ⟨hvalid, hgrow, hlength, rfl, rfl, rfl, rfl, .inl ⟨rfl, rfl⟩⟩

/-- The requests after a message about request `i`. -/
theorem Spun.of_modify {s : ActionNode Goal Result Feedback B} (h : RequestsValid s.requests)
    {i : GoalId} {f : Request Goal Result → Request Goal Result}
    (hvalid : ∀ r : Request Goal Result, r.Valid → (f r).Valid)
    (hgrow : ∀ r : Request Goal Result, r.Grows (f r)) :
    Spun s { s with requests := s.requests.modify i f } :=
  .of_requests (requestsValid_modify h hvalid) (requestsGrow_modify fun r _ => hgrow r)
    (List.length_modify _ _ _)

/-- The only exception out of a spin is a null dereference. -/
def OnlyNullDeref (e : ActionFailure) (_ : ActionNode Goal Result Feedback B) : Prop :=
  e = .nullDeref

/-- The result callback changes nothing, or takes over the result of the
goal that the node holds. -/
theorem resultCallback_spec (s : ActionNode Goal Result Feedback B) (i : GoalId)
    (result : WrappedResult Result) :
    Triple (· = s) (resultCallback i result)
      (fun _ s' => s' = s ∨ s.futureGoalHandle = none ∧ s.goalHandle = some i ∧
        s' = { s with goalResultAvailable := true, result := result }) OnlyNullDeref := by
  refine triple_get_bind fun s₁ hs₁ => ?_
  subst hs₁
  refine triple_ite (fun _ => triple_pure fun _ hs => .inl hs) (fun hfut => ?_)
  rw [Option.not_isSome_iff_eq_none] at hfut
  split
  · exact triple_throw fun _ _ => rfl
  · next h hhandle =>
    refine triple_ite (fun heq => ?_) (fun _ => triple_pure fun _ hs => .inl hs)
    exact triple_set fun _ _ => .inr ⟨hfut, by rw [hhandle, heq], rfl⟩

/-- The result of request `i` arrives. -/
theorem spinEvent_result_spec {s : ActionNode Goal Result Feedback B}
    (h : RequestsValid s.requests) (i : GoalId) (expired : Bool) :
    Triple (· = s) (spinEvent (.result i expired : SpinEvent Result Feedback))
      (fun _ s' => Spun s s') OnlyNullDeref := by
  refine triple_get_bind fun s₁ hs₁ => ?_
  subst hs₁
  split
  · exact triple_pure (by rintro _ rfl; exact .refl h)
  · next r hreq =>
    refine triple_ite (fun hready => ?_) (fun _ => triple_pure (by rintro _ rfl; exact .refl h))
    have hspun := Spun.of_modify h (i := i) (fun r hr => hr.receiveResult expired)
      (fun r => r.grows_receiveResult expired)
    rw [Request.resultReady, Bool.and_eq_true] at hready
    refine triple_bind (Q := fun _ s' => s' =
      { s₁ with requests := s₁.requests.modify i (Request.receiveResult expired) })
      (triple_set fun _ _ => rfl) fun _ => ?_
    refine triple_post (resultCallback_spec _ i (wrapResult expired r)) ?_
    rintro _ s' (rfl | ⟨hfut, hhandle, rfl⟩)
    · exact hspun
    · have hgrow := r.grows_receiveResult expired
      have hreq' : (s₁.requests.modify i (Request.receiveResult expired))[i]? =
          some (r.receiveResult expired) := by
        rw [List.getElem?_modify, hreq]
        simp
      exact ⟨hspun.valid, hspun.grow, hspun.length, rfl, rfl, rfl, rfl,
        .inr ⟨rfl, hfut, i, _, expired, hhandle, hreq', hgrow.terminal hready.2,
          (wrapResult_grows hgrow hready.2 expired).symm⟩⟩

/-- One event of a spin. -/
theorem spinEvent_spec {s : ActionNode Goal Result Feedback B} (h : RequestsValid s.requests)
    (e : SpinEvent Result Feedback) :
    Triple (· = s) (spinEvent e) (fun _ s' => Spun s s') OnlyNullDeref := by
  cases e with
  | server e =>
    refine triple_modify fun s₁ hs₁ => ?_
    subst hs₁
    obtain ⟨hvalid, hgrow, hlength⟩ := e.apply_spec h
    exact .of_requests hvalid hgrow hlength
  | response i =>
    refine triple_modify fun s₁ hs₁ => ?_
    subst hs₁
    exact .of_modify h (fun _ hr => hr.acknowledge) Request.grows_acknowledge
  | status i st =>
    refine triple_modify fun s₁ hs₁ => ?_
    subst hs₁
    exact .of_modify h (fun _ hr => hr.receiveStatus st) (fun r => r.grows_receiveStatus st)
  | result i expired => exact spinEvent_result_spec h i expired
  | feedback i feedback =>
    refine triple_modify fun s₁ hs₁ => ?_
    subst hs₁
    have hrefl := Spun.refl h
    split
    · exact ⟨h, .refl _, rfl, rfl, rfl, rfl, rfl, .inl ⟨rfl, rfl⟩⟩
    · exact hrefl

/-- **A spin.** By induction on the events. -/
theorem spin_spec (es : List (SpinEvent Result Feedback)) :
    ∀ {s : ActionNode Goal Result Feedback B}, RequestsValid s.requests →
      Triple (· = s) (spin es) (fun _ s' => Spun s s') OnlyNullDeref := by
  induction es with
  | nil => exact fun h => triple_pure (by rintro _ rfl; exact .refl h)
  | cons e es ih =>
    intro s h
    refine triple_bind (spinEvent_spec h e) fun _ s₁ hspun => ?_
    have hrest := ih hspun.valid s₁ rfl
    cases hrun : (spin es).run s₁ with
    | ok _ s₂ => rw [hrun] at hrest; exact hspun.trans hrest
    | error e s₂ => rw [hrun] at hrest; exact hrest

/-! ## What is heard -/

/-- The requests whose results are delivered during a spin. -/
def deliveries (es : List (SpinEvent Result Feedback)) : List GoalId :=
  es.filterMap SpinEvent.delivers

/-- The requests of whose end a spin tells. -/
def endsTold (es : List (SpinEvent Result Feedback)) : List GoalId :=
  es.filterMap SpinEvent.tellsEnd

theorem mem_endsTold_of_delivered {es : List (SpinEvent Result Feedback)} {i : GoalId}
    (h : i ∈ deliveries es) : i ∈ endsTold es := by
  obtain ⟨e, he, hi⟩ := List.mem_filterMap.mp h
  refine List.mem_filterMap.mpr ⟨e, he, ?_⟩
  cases e with
  | result j expired => exact hi
  | _ => cases hi

/-- What is new in `s'` has been told during the spin `es`: a result that is
taken over is that of the goal held, and has been delivered. -/
structure Hears (es : List (SpinEvent Result Feedback)) (s s' : ActionNode Goal Result Feedback B) :
    Prop where
  goalHandle : s'.goalHandle = s.goalHandle
  result : s'.result = s.result ∨ ∃ i ∈ deliveries es, s.goalHandle = some i
  ended : ∀ (i : GoalId) (r' : Request Goal Result), s'.requests[i]? = some r' →
    r'.endHeard = true →
      (∃ r, s.requests[i]? = some r ∧ r.endHeard = true) ∨ i ∈ endsTold es

section Hears

variable {s s' : ActionNode Goal Result Feedback B} {es : List (SpinEvent Result Feedback)}

theorem Hears.refl (s : ActionNode Goal Result Feedback B) : Hears es s s :=
  ⟨rfl, .inl rfl, fun _ r' hr' hheard => .inl ⟨r', hr', hheard⟩⟩

theorem Hears.cons {s'' : ActionNode Goal Result Feedback B} {e : SpinEvent Result Feedback}
    (h : Hears [e] s s') (h' : Hears es s' s'') : Hears (e :: es) s s'' where
  goalHandle := h'.goalHandle.trans h.goalHandle
  result := by
    have hmem : ∀ i ∈ deliveries es, i ∈ deliveries (e :: es) := fun i hi =>
      (List.sublist_cons_self e es).filterMap _ |>.subset hi
    rcases h'.result with hsame' | ⟨i, hi, hheld⟩
    · rcases h.result with hsame | ⟨i, hi, hheld⟩
      · exact .inl (hsame'.trans hsame)
      · refine .inr ⟨i, ?_, hheld⟩
        exact (List.singleton_sublist.mpr List.mem_cons_self).filterMap _ |>.subset hi
    · exact .inr ⟨i, hmem i hi, h.goalHandle.symm.trans hheld⟩
  ended i r'' hr'' hheard := by
    rcases h'.ended i r'' hr'' hheard with ⟨r', hr', hheard'⟩ | htold
    · refine (h.ended i r' hr' hheard').imp id fun htold => ?_
      exact (List.singleton_sublist.mpr List.mem_cons_self).filterMap _ |>.subset htold
    · exact .inr ((List.sublist_cons_self e es).filterMap _ |>.subset htold)

/-- Something happens to one request; its end is heard of only if that is
told. -/
theorem Hears.of_modify {i : GoalId} {f : Request Goal Result → Request Goal Result}
    (hf : ∀ r : Request Goal Result, (f r).endHeard = true → r.endHeard = true ∨ i ∈ endsTold es) :
    Hears es s { s with requests := s.requests.modify i f } := by
  refine ⟨rfl, .inl rfl, fun j r' hr' hheard => ?_⟩
  rw [List.getElem?_modify, Option.map_eq_map, Option.map_eq_some_iff] at hr'
  obtain ⟨r, hr, rfl⟩ := hr'
  split at hheard
  · next hij =>
    subst hij
    exact (hf r hheard).imp (fun h => ⟨r, hr, h⟩) id
  · exact .inl ⟨r, hr, hheard⟩

/-- The server tells the client nothing. -/
theorem hears_server (e : ServerEvent Result) :
    Hears es s { s with requests := e.apply s.requests } := by
  cases e with
  | decide i accepts => exact .of_modify fun r h => .inl (r.endHeard_decide accepts ▸ h)
  | requestCancel i => exact .of_modify fun r h => .inl h
  | move i st result => exact .of_modify fun r h => .inl (r.endHeard_move st result ▸ h)

/-- One event. -/
theorem spinEvent_hears (s : ActionNode Goal Result Feedback B) (e : SpinEvent Result Feedback) :
    Triple (· = s) (spinEvent e) (fun _ s' => Hears [e] s s') OnlyNullDeref := by
  cases e with
  | server e => exact triple_modify (by rintro _ rfl; exact hears_server e)
  | response i =>
    refine triple_modify ?_
    rintro _ rfl
    exact .of_modify fun r h => .inl (r.endHeard_acknowledge ▸ h)
  | status i st =>
    refine triple_modify ?_
    rintro _ rfl
    refine .of_modify fun r h => ?_
    unfold Request.receiveStatus at h
    split at h
    · refine .inr (List.mem_filterMap.mpr ⟨_, List.mem_singleton.mpr rfl, ?_⟩)
      rw [Request.endHeard, Bool.not_eq_true'] at h
      exact if_neg (by rw [h]; exact Bool.false_ne_true)
    · exact .inl h
  | feedback i feedback =>
    refine triple_modify ?_
    rintro _ rfl
    split
    · exact ⟨rfl, .inl rfl, fun _ r' hr' hheard => .inl ⟨r', hr', hheard⟩⟩
    · exact .refl _
  | result i expired =>
    refine triple_get_bind ?_
    rintro s₁ rfl
    have htold : i ∈ endsTold [(.result i expired : SpinEvent Result Feedback)] :=
      List.mem_filterMap.mpr ⟨_, List.mem_singleton.mpr rfl, rfl⟩
    split
    · exact triple_pure (by rintro _ rfl; exact .refl _)
    · next r hreq =>
      refine triple_ite (fun _ => ?_) (fun _ => triple_pure (by rintro _ rfl; exact .refl _))
      refine triple_bind (Q := fun _ s' => s' =
        { s₁ with requests := s₁.requests.modify i (Request.receiveResult expired) })
        (triple_set fun _ _ => rfl) fun _ => ?_
      have hreceived : Hears [(.result i expired : SpinEvent Result Feedback)] s₁
          { s₁ with requests := s₁.requests.modify i (Request.receiveResult expired) } :=
        .of_modify fun _ _ => .inr htold
      refine triple_post (resultCallback_spec _ i (wrapResult expired r)) ?_
      rintro _ s' (rfl | ⟨_, hhandle, rfl⟩)
      · exact hreceived
      · refine ⟨rfl, .inr ⟨i, ?_, hhandle⟩, hreceived.ended⟩
        exact List.mem_filterMap.mpr ⟨_, List.mem_singleton.mpr rfl, rfl⟩

/-- **What a spin tells.** By induction on the events. -/
theorem spin_hears (es : List (SpinEvent Result Feedback)) :
    ∀ s : ActionNode Goal Result Feedback B,
      Triple (· = s) (spin es) (fun _ s' => Hears es s s') OnlyNullDeref := by
  induction es with
  | nil => exact fun _ => triple_pure (by rintro _ rfl; exact .refl _)
  | cons e es ih =>
    intro s
    refine triple_bind (spinEvent_hears s e) fun _ => triple_start fun s₁ hears => ?_
    exact triple_post (ih s₁) fun _ _ hears' => hears.cons hears'

end Hears

/-! ## The wait for a goal response -/

/-- Request `i` is acknowledged. -/
def Acknowledged (s : ActionNode Goal Result Feedback B) (i : GoalId) : Prop :=
  s.requests[i]?.any (·.acknowledged) = true

/-- The client has heard of the end of goal `i`. -/
def EndHeard (s : ActionNode Goal Result Feedback B) (i : GoalId) : Prop :=
  ∀ r, s.requests[i]? = some r → r.endHeard = true

/-- It has not. -/
def Unheard (s : ActionNode Goal Result Feedback B) (i : GoalId) : Prop :=
  ∀ r, s.requests[i]? = some r → r.endHeard = false

theorem not_acknowledged {s : ActionNode Goal Result Feedback B} {i : GoalId}
    (h : ¬ Acknowledged s i) {r : Request Goal Result} (hr : s.requests[i]? = some r) :
    r.acknowledged = false := by
  rw [Acknowledged, hr] at h
  exact Bool.eq_false_iff.mpr h

theorem not_registered {s : ActionNode Goal Result Feedback B} {i : GoalId}
    (h : ¬ Acknowledged s i) {r : Request Goal Result} (hr : s.requests[i]? = some r) :
    r.registered = false := by
  rw [Request.registered, not_acknowledged h hr]
  rfl

theorem unheard_of_not_acknowledged {s : ActionNode Goal Result Feedback B} {i : GoalId}
    (hvalid : RequestsValid s.requests) (h : ¬ Acknowledged s i) : Unheard s i := by
  intro r hr
  rw [Request.endHeard, (hvalid i r hr).unheard (not_acknowledged h hr)]
  rfl

/-- Nothing is heard about a goal before the response. -/
theorem spinEvent_unheard {s : ActionNode Goal Result Feedback B} {i : GoalId}
    (hvalid : RequestsValid s.requests) (h : ¬ Acknowledged s i)
    (e : SpinEvent Result Feedback) :
    Triple (· = s) (spinEvent e) (fun _ s' => Unheard s' i) OnlyNullDeref := by
  have hunheard := unheard_of_not_acknowledged hvalid h
  -- the event tells nothing of this goal
  have hother : e.tellsEnd ≠ some i →
      Triple (· = s) (spinEvent e) (fun _ s' => Unheard s' i) OnlyNullDeref := by
    intro hnot
    refine triple_post (spinEvent_hears s e) fun _ s' hears r' hr' => ?_
    rw [Bool.eq_false_iff]
    intro hheard
    rcases hears.ended i r' hr' hheard with ⟨r, hr, hheard'⟩ | htold
    · rw [hunheard r hr] at hheard'
      cases hheard'
    · simp only [endsTold, List.mem_filterMap, List.mem_singleton, exists_eq_left] at htold
      exact hnot htold
  cases e with
  | server e => exact hother nofun
  | response j => exact hother nofun
  | feedback j feedback => exact hother nofun
  | status j st =>
    refine triple_modify ?_
    rintro s rfl r' hr'
    rw [List.getElem?_modify, Option.map_eq_map, Option.map_eq_some_iff] at hr'
    obtain ⟨r, hr, rfl⟩ := hr'
    split
    · rw [Request.receiveStatus, not_registered h hr]
      exact hunheard r hr
    · exact hunheard r hr
  | result j expired =>
    by_cases hij : j = i
    · subst hij
      refine triple_get_bind ?_
      rintro s rfl
      split
      · exact triple_pure (by rintro _ rfl; exact hunheard)
      · next r hr =>
        refine triple_ite (fun hready => ?_) fun _ => triple_pure (by rintro _ rfl; exact hunheard)
        rw [Request.resultReady, not_registered h hr] at hready
        cases hready
    · exact hother fun hi => hij (Option.some.inj hi)

/-- The spin that waits for a goal response. -/
theorem spinUntilResponse_spec (i : GoalId) (es : List (SpinEvent Result Feedback)) :
    ∀ {s : ActionNode Goal Result Feedback B}, RequestsValid s.requests →
      Triple (· = s) (spinUntilResponse i es)
        (fun complete s' => Spun s s' ∧ (complete = true → Acknowledged s' i)) OnlyNullDeref := by
  induction es with
  | nil =>
    refine fun h => triple_get_bind fun s₁ hs₁ => ?_
    subst hs₁
    refine triple_pure fun s hs => ?_
    subst hs
    exact ⟨.refl h, id⟩
  | cons e es ih =>
    refine fun h => triple_get_bind fun s₁ hs₁ => ?_
    subst hs₁
    refine triple_ite (fun hack => triple_pure fun s hs => ?_) (fun _ => ?_)
    · subst hs
      exact ⟨.refl h, fun _ => hack⟩
    · refine triple_bind (spinEvent_spec h e) fun _ s₁ hspun => ?_
      have hrest := ih hspun.valid s₁ rfl
      cases hrun : (spinUntilResponse i es).run s₁ with
      | ok complete s₂ =>
        rw [hrun] at hrest
        exact ⟨hspun.trans hrest.1, hrest.2⟩
      | error e s₂ => rw [hrun] at hrest; exact hrest

/-! ## Calls of virtual functions -/

section Hooks

variable {α : Type} {f : HookM Goal B α} {s : ActionNode Goal Result Feedback B}
  {hook : HookState Goal B}

theorem callHook_of_ok {a : α} (h : f.run s.hook = .ok a hook) :
    (callHook f).run s = .ok a { s with hook := hook } := by
  show callHook f s = _
  rw [callHook, h]

theorem callHook_of_error {e : Unit} (h : f.run s.hook = .error e hook) :
    (callHook f).run s = .error .hookFailed { s with hook := hook } := by
  show callHook f s = _
  rw [callHook, h]

end Hooks

/-- A virtual function is called on the hook state alone. -/
theorem triple_callHook {α : Type} {f : HookM Goal B α} {s : ActionNode Goal Result Feedback B}
    {Q : α → ActionNode Goal Result Feedback B → Prop}
    {E : ActionFailure → ActionNode Goal Result Feedback B → Prop}
    (h : Triple (· = s.hook) f (fun a hook => Q a { s with hook := hook })
      (fun _ hook => E .hookFailed { s with hook := hook })) :
    Triple (· = s) (callHook f) Q E := by
  rintro s' rfl
  cases hcase : f.run s'.hook with
  | ok a hook =>
    rw [callHook_of_ok hcase]
    exact h.ok rfl hcase
  | error _ hook =>
    rw [callHook_of_error hcase]
    exact h.error rfl hcase

/-- A property that does not look at the hook state is kept by a virtual
function, also when it throws. -/
theorem callHook_spec {α : Type} {P : ActionNode Goal Result Feedback B → Prop}
    (hP : ∀ s hook, P s → P { s with hook := hook }) (f : HookM Goal B α) :
    Triple P (callHook f) (fun _ => P) (fun e s => e = .hookFailed ∧ P s) := by
  intro s hs
  cases hcase : f.run s.hook with
  | ok a hook =>
    rw [callHook_of_ok hcase]
    exact hP s hook hs
  | error _ hook =>
    rw [callHook_of_error hcase]
    exact ⟨rfl, hP s hook hs⟩

end Nav3D.BehaviorTree

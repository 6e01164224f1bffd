/-
Nav3D.BehaviorTree.ActionNodeKept — when a `BtActionNode` keeps sight of the
goals it has sent.

The node loses sight of a goal when it gives up the future of its goal
response, and of the goal before an update when the update is rejected
(`Kept`). Whether a step does this is decided by its inputs and the state
before it (`KeptStep`): the responses that come in each wait and the time
that is left, the interruptions, the decisions of the server on updated
goals, and the moments at which the node is halted. `kept_step` follows the
code through one tick and one halt.
-/
import Nav3D.BehaviorTree.ActionNodeSpin

namespace Nav3D.BehaviorTree

open Nav3D.Ros StateInvariant
open BT (NodeStatus)

variable {Goal Result Feedback B : Type}

/-- No future has been given up, and no updated goal has been rejected. -/
def Kept (rs : List (Request Goal Result)) : Prop :=
  ∀ r ∈ rs, r.abandoned = false ∧ (r.update = true → r.accepted ≠ some false)

instance (rs : List (Request Goal Result)) : Decidable (Kept rs) :=
  inferInstanceAs (Decidable (∀ r ∈ rs, _))

/-- What has been kept so far had been kept before. -/
theorem Kept.of_grow {rs rs' : List (Request Goal Result)} (hgrow : RequestsGrow rs rs')
    (h : Kept rs') : Kept rs := by
  intro r hr
  obtain ⟨i, hi⟩ := List.getElem?_of_mem hr
  obtain ⟨r', hr', hg⟩ := hgrow i r hi
  obtain ⟨habandoned, hupdate⟩ := h r' (List.mem_of_getElem? hr')
  refine ⟨?_, fun hu hrej => hupdate (hg.update.trans hu) (hg.accepted _ hrej)⟩
  cases hab : r.abandoned with
  | false => rfl
  | true => rw [hg.abandoned hab] at habandoned; cases habandoned

/-! ## The condition on a step -/

/-- The response to request `i` comes during the events; `decided` says
whether the server has decided on the request before. -/
def arrives (i : GoalId) : Bool → List (SpinEvent Result Feedback) → Bool
  | _, [] => false
  | decided, .server (.decide j _) :: es => arrives i (decided || j == i) es
  | decided, .response j :: es => decided && j == i || arrives i decided es
  | decided, _ :: es => arrives i decided es

/-- The response to request `i`, which is `r` before the events (none if it
is yet to be sent), has come by the end of them. -/
def answered (i : GoalId) (r : Option (Request Goal Result))
    (es : List (SpinEvent Result Feedback)) : Bool :=
  r.any (·.acknowledged) || arrives i (r.any (·.accepted.isSome)) es

/-- A wait for the response to request `i` that does not give it up: there
is time left when it starts, and either the response comes, or the wait is
not interrupted and there is time left when it ends. -/
def InTime (params : ActionParams) (i : GoalId) (r : Option (Request Goal Result))
    (a : Acknowledgement Result Feedback) : Prop :=
  a.elapsed < params.serverTimeout ∧ (answered i r a.spin = true ∨
    a.interrupted = false ∧ a.elapsed + params.maxTimeout < params.serverTimeout)

instance (params : ActionParams) (i : GoalId) (r : Option (Request Goal Result))
    (a : Acknowledgement Result Feedback) : Decidable (InTime params i r a) :=
  inferInstanceAs (Decidable (_ ∧ _))

/-- The request whose response a tick waits for first: the one that is
waited for already, or the one that a node which is not active sends. -/
def ActionNode.waitsFor (s : ActionNode Goal Result Feedback B) : Option GoalId :=
  if s.status.isActive then s.futureGoalHandle else some s.requests.length

/-- The request that a tick sends when it updates the goal. -/
def ActionNode.nextUpdate (s : ActionNode Goal Result Feedback B) : GoalId :=
  if s.status.isActive then s.requests.length else s.requests.length + 1

/-- No event rejects an updated goal, neither one that has been sent before
nor one that a tick sends meanwhile. -/
def UpdatesAccepted (s : ActionNode Goal Result Feedback B)
    (es : List (SpinEvent Result Feedback)) : Prop :=
  ∀ e ∈ es, ∀ i ∈ e.rejects, i ≠ s.nextUpdate ∧ ∀ r ∈ s.requests[i]?, r.update = false

instance (s : ActionNode Goal Result Feedback B) (es : List (SpinEvent Result Feedback)) :
    Decidable (UpdatesAccepted s es) :=
  inferInstanceAs (Decidable (∀ e ∈ es, ∀ i ∈ e.rejects, _))

/-- A tick whose waits give up no response, with no updated goal rejected. -/
def KeptTick (params : ActionParams) (s : ActionNode Goal Result Feedback B)
    (input : TickInput Result Feedback) : Prop :=
  (∀ i ∈ s.waitsFor, InTime params i s.requests[i]? input.first) ∧
    InTime params s.nextUpdate (none : Option (Request Goal Result)) input.update ∧
    UpdatesAccepted s (input.first.spin ++ input.update.spin ++ input.spin)

instance (params : ActionParams) (s : ActionNode Goal Result Feedback B)
    (input : TickInput Result Feedback) : Decidable (KeptTick params s input) :=
  inferInstanceAs (Decidable ((∀ i ∈ s.waitsFor, _) ∧ _))

/-- A step that loses sight of no goal: a tick as above; a halt while no goal
response is outstanding; an event that rejects no updated goal. -/
def KeptStep (params : ActionParams) (s : ActionNode Goal Result Feedback B) :
    ActionLabel Result Feedback → Prop
  | .tick input => KeptTick params s input
  | .halt input => s.futureGoalHandle = none ∧
      UpdatesAccepted s (input.spin ++ input.cancelSpin ++ input.resultSpin)
  | .reset => True
  | .server e => UpdatesAccepted s [.server e]

instance (params : ActionParams) (s : ActionNode Goal Result Feedback B)
    (l : ActionLabel Result Feedback) : Decidable (KeptStep params s l) :=
  match l with
  | .tick input => inferInstanceAs (Decidable (KeptTick params s input))
  | .halt _ => inferInstanceAs (Decidable (_ ∧ _))
  | .reset => isTrue trivial
  | .server e => inferInstanceAs (Decidable (UpdatesAccepted s [.server e]))

/-! ## One event -/

/-- `r'` differs from `r` in nothing that `Kept` looks at. -/
structure SameAnswer (r r' : Request Goal Result) : Prop where
  abandoned : r'.abandoned = r.abandoned
  update : r'.update = r.update
  accepted : r'.accepted = r.accepted

theorem sameAnswer_acknowledge (r : Request Goal Result) : SameAnswer r r.acknowledge := by
  unfold Request.acknowledge
  split <;> exact ⟨rfl, rfl, rfl⟩

theorem sameAnswer_receiveStatus (r : Request Goal Result) (st : GoalStatus) :
    SameAnswer r (r.receiveStatus st) := by
  unfold Request.receiveStatus
  split <;> exact ⟨rfl, rfl, rfl⟩

theorem sameAnswer_receiveResult (r : Request Goal Result) (expired : Bool) :
    SameAnswer r (r.receiveResult expired) := by
  unfold Request.receiveResult
  split <;> exact ⟨rfl, rfl, rfl⟩

theorem sameAnswer_move (r : Request Goal Result) (st : GoalStatus) (result : Result) :
    SameAnswer r (r.move st result) := by
  unfold Request.move
  split
  · exact ⟨rfl, rfl, rfl⟩
  · split <;> exact ⟨rfl, rfl, rfl⟩

/-- A change of one request that gives it up as little as before. -/
theorem Kept.modify {rs : List (Request Goal Result)} (h : Kept rs) {i : GoalId}
    {f : Request Goal Result → Request Goal Result}
    (hf : ∀ r, rs[i]? = some r → (f r).abandoned = r.abandoned ∧ (f r).update = r.update ∧
      (r.update = true → (f r).accepted = some false → r.accepted = some false)) :
    Kept (rs.modify i f) := by
  intro r hr
  obtain ⟨j, hj⟩ := List.getElem?_of_mem hr
  rw [List.getElem?_modify, Option.map_eq_map, Option.map_eq_some_iff] at hj
  obtain ⟨r₀, hr₀, rfl⟩ := hj
  have hold := h r₀ (List.mem_of_getElem? hr₀)
  split
  · next heq =>
    subst heq
    obtain ⟨habandoned, hupdate, haccepted⟩ := hf r₀ hr₀
    rw [habandoned, hupdate]
    exact ⟨hold.1, fun hu hrej => hold.2 hu (haccepted hu hrej)⟩
  · exact hold

theorem Kept.modify_same {rs : List (Request Goal Result)} (h : Kept rs) {i : GoalId}
    {f : Request Goal Result → Request Goal Result} (hf : ∀ r, SameAnswer r (f r)) :
    Kept (rs.modify i f) :=
  h.modify fun r _ => ⟨(hf r).abandoned, (hf r).update, fun _ hrej => (hf r).accepted ▸ hrej⟩

/-- A step of the server that rejects no updated goal. -/
theorem Kept.served {rs : List (Request Goal Result)} (h : Kept rs) (e : ServerEvent Result)
    (he : ∀ i ∈ (.server e : SpinEvent Result Feedback).rejects,
      ∀ r, rs[i]? = some r → r.update = false) : Kept (e.apply rs) := by
  cases e with
  | decide i accepts =>
    apply h.modify
    intro r hr
    unfold Request.decide
    split
    · exact ⟨rfl, rfl, fun _ hrej => hrej⟩
    · refine ⟨rfl, rfl, fun hupdate hrej => ?_⟩
      cases accepts with
      | true => cases hrej
      | false =>
        -- the request rejected is not an update
        rw [he i rfl r hr] at hupdate
        cases hupdate
  | requestCancel i => exact h.modify_same fun _ => ⟨rfl, rfl, rfl⟩
  | move i st result => exact h.modify_same fun r => sameAnswer_move r st result

/-- An event that rejects no updated goal. -/
theorem spinEvent_kept {s : ActionNode Goal Result Feedback B} {e : SpinEvent Result Feedback}
    (h : Kept s.requests)
    (he : ∀ i ∈ e.rejects, ∀ r, s.requests[i]? = some r → r.update = false) :
    Triple (· = s) (spinEvent e) (fun _ s' => Kept s'.requests) OnlyNullDeref := by
  cases e with
  | server e =>
    refine triple_modify fun s₁ hs₁ => ?_
    subst hs₁
    exact h.served e he
  | response i =>
    refine triple_modify fun s₁ hs₁ => ?_
    subst hs₁
    exact h.modify_same sameAnswer_acknowledge
  | status i st =>
    refine triple_modify fun s₁ hs₁ => ?_
    subst hs₁
    exact h.modify_same fun r => sameAnswer_receiveStatus r st
  | result i expired =>
    refine triple_get_bind fun s₁ hs₁ => ?_
    subst hs₁
    split
    · refine triple_pure ?_
      rintro _ rfl
      exact h
    · refine triple_ite (fun _ => ?_) (fun _ => triple_pure ?_)
      · refine triple_bind (Q := fun _ s' => s' =
          { s₁ with requests := s₁.requests.modify i (Request.receiveResult expired) })
          (triple_set fun _ _ => rfl) fun _ => ?_
        have hkept := h.modify_same (i := i) fun r => sameAnswer_receiveResult r expired
        refine triple_post (resultCallback_spec _ _ _) ?_
        rintro _ s' (rfl | ⟨_, _, rfl⟩)
        · exact hkept
        · exact hkept
      · rintro _ rfl
        exact h
  | feedback i feedback =>
    refine triple_modify fun s₁ hs₁ => ?_
    subst hs₁
    split <;> exact h

/-! ## A call as long as it keeps its goals -/

/-- In a tick or halt from `s₀`, which has made it `n` requests by now:
everything is kept, and the updates among the requests are those of `s₀` and
the one that the tick sends. -/
structure Keeping (s₀ : ActionNode Goal Result Feedback B) (n : Nat)
    (s : ActionNode Goal Result Feedback B) : Prop where
  valid : RequestsValid s.requests
  kept : Kept s.requests
  length : s.requests.length = n
  updates : ∀ i r, s.requests[i]? = some r → r.update = true →
    i = s₀.nextUpdate ∨ ∃ r₀, s₀.requests[i]? = some r₀ ∧ r₀.update = true

variable {s₀ s s' : ActionNode Goal Result Feedback B} {n : Nat}

theorem keeping_start (hvalid : RequestsValid s.requests) (hkept : Kept s.requests) :
    Keeping s s.requests.length s :=
  ⟨hvalid, hkept, rfl, fun _ r hr hu => .inr ⟨r, hr, hu⟩⟩

/-- Only the requests matter. -/
theorem Keeping.congr (h : Keeping s₀ n s) (hrequests : s'.requests = s.requests) :
    Keeping s₀ n s' := by
  obtain ⟨hvalid, hkept, hlength, hupdates⟩ := h
  constructor
  · rw [hrequests]; exact hvalid
  · rw [hrequests]; exact hkept
  · rw [hrequests]; exact hlength
  · rw [hrequests]; exact hupdates

theorem Keeping.spun (h : Keeping s₀ n s) (hspun : Spun s s') (hkept : Kept s'.requests) :
    Keeping s₀ n s' := by
  refine ⟨hspun.valid, hkept, hspun.length.trans h.length, fun i r' hr' hu => ?_⟩
  have hlt : i < s.requests.length := by
    rw [← hspun.length]
    exact (List.getElem?_eq_some_iff.mp hr').1
  obtain ⟨r'', hr'', hg⟩ := hspun.grow i _ (List.getElem?_eq_getElem hlt)
  rw [hr'] at hr''
  cases hr''
  exact h.updates i _ (List.getElem?_eq_getElem hlt) (hg.update.symm.trans hu)

/-- What the condition says of the events of a call holds of the requests as
they are by now. -/
theorem Keeping.rejects (h : Keeping s₀ n s) {es : List (SpinEvent Result Feedback)}
    (hes : UpdatesAccepted s₀ es) {e : SpinEvent Result Feedback} (he : e ∈ es) :
    ∀ i ∈ e.rejects, ∀ r, s.requests[i]? = some r → r.update = false := by
  intro i hi r hr
  obtain ⟨hne, hold⟩ := hes e he i hi
  cases hu : r.update with
  | false => rfl
  | true =>
    rcases h.updates i r hr hu with heq | ⟨r₀, hr₀, hu₀⟩
    · exact absurd heq hne
    · rw [hold r₀ hr₀] at hu₀
      cases hu₀

theorem UpdatesAccepted.subset {es es' : List (SpinEvent Result Feedback)}
    (h : UpdatesAccepted s es) (hsub : ∀ e ∈ es', e ∈ es) : UpdatesAccepted s es' :=
  fun e he => h e (hsub e he)

theorem spinEvent_keeping (h : Keeping s₀ n s) {es : List (SpinEvent Result Feedback)}
    (hes : UpdatesAccepted s₀ es) {e : SpinEvent Result Feedback} (he : e ∈ es) :
    Triple (· = s) (spinEvent e) (fun _ s' => Keeping s₀ n s' ∧ Spun s s') OnlyNullDeref :=
  triple_conseq (triple_and (spinEvent_spec h.valid e) (spinEvent_kept h.kept (h.rejects hes he)))
    (fun _ hs => hs) (fun _ _ hs => ⟨h.spun hs.1 hs.2, hs.1⟩) fun _ _ he => he.1

/-- A spin. By induction on the events. -/
theorem spin_keeping {es : List (SpinEvent Result Feedback)} (hes : UpdatesAccepted s₀ es) :
    ∀ {s}, Keeping s₀ n s →
      Triple (· = s) (spin es) (fun _ s' => Keeping s₀ n s') OnlyNullDeref := by
  induction es with
  | nil =>
    intro s h
    refine triple_pure fun s' hs' => ?_
    rw [hs']
    exact h
  | cons e es ih =>
    intro s h
    refine triple_bind (spinEvent_keeping h hes List.mem_cons_self) fun _ => ?_
    exact triple_start fun s₁ hs₁ => ih (hes.subset fun _ => List.mem_cons_of_mem e) hs₁.1

/-! ## The response comes in time -/

theorem arrives_mono {i : GoalId} {decided : Bool} {es : List (SpinEvent Result Feedback)}
    (h : arrives i false es = true) : arrives i decided es = true := by
  induction es generalizing decided with
  | nil => cases h
  | cons e es ih =>
    cases decided with
    | false => exact h
    | true =>
      cases e with
      | server e =>
        cases e with
        | decide j accepts =>
          simp only [arrives, Bool.false_or, Bool.true_or] at h ⊢
          cases hj : (j == i) with
          | true => rw [hj] at h; exact h
          | false => rw [hj] at h; exact ih h
        | requestCancel j => exact ih h
        | move j st result => exact ih h
      | response j =>
        simp only [arrives, Bool.false_and, Bool.false_or, Bool.true_and, Bool.or_eq_true] at h ⊢
        exact .inr (ih h)
      | status j st => exact ih h
      | result j expired => exact ih h
      | feedback j feedback => exact ih h

/-- A response that is yet to come is still to come after an event, or has
come with it. -/
theorem answered_step {i : GoalId} {r r' : Request Goal Result}
    {e : SpinEvent Result Feedback} {es : List (SpinEvent Result Feedback)} (hg : r.Grows r')
    (hdecide : ∀ accepts, e = .server (.decide i accepts) → r'.accepted.isSome = true)
    (hresponse : e = .response i → r.accepted.isSome = true → r'.acknowledged = true)
    (h : answered i (some r) (e :: es) = true) : answered i (some r') es = true := by
  have hlater : arrives i r.accepted.isSome es = true → arrives i r'.accepted.isSome es = true := by
    intro harrives
    cases hacc : r.accepted with
    | none =>
      rw [hacc] at harrives
      exact arrives_mono harrives
    | some b =>
      rw [hg.accepted b hacc]
      rw [hacc] at harrives
      exact harrives
  simp only [answered, Option.any_some, Bool.or_eq_true] at h ⊢
  rcases h with hack | harrives
  · exact .inl (hg.acknowledged hack)
  · cases e with
    | server e =>
      cases e with
      | decide j accepts =>
        simp only [arrives] at harrives
        by_cases hj : j = i
        · subst hj
          rw [hdecide accepts rfl]
          rw [beq_self_eq_true, Bool.or_true] at harrives
          exact .inr harrives
        · rw [beq_false_of_ne hj, Bool.or_false] at harrives
          exact .inr (hlater harrives)
      | requestCancel j => exact .inr (hlater harrives)
      | move j st result => exact .inr (hlater harrives)
    | response j =>
      simp only [arrives, Bool.or_eq_true, Bool.and_eq_true, beq_iff_eq] at harrives
      rcases harrives with ⟨hacc, rfl⟩ | harrives
      · exact .inl (hresponse rfl hacc)
      · exact .inr (hlater harrives)
    | status j st => exact .inr (hlater harrives)
    | result j expired => exact .inr (hlater harrives)
    | feedback j feedback => exact .inr (hlater harrives)

/-- An event leaves a response to come, or brings it. -/
theorem spinEvent_answered {i : GoalId} {r : Request Goal Result}
    {e : SpinEvent Result Feedback} {es : List (SpinEvent Result Feedback)}
    (hvalid : RequestsValid s.requests) (hr : s.requests[i]? = some r)
    (h : answered i (some r) (e :: es) = true) :
    Triple (· = s) (spinEvent e)
      (fun _ s' => ∃ r', s'.requests[i]? = some r' ∧ answered i (some r') es = true)
      OnlyNullDeref := by
  by_cases hdecide : ∃ accepts, e = .server (.decide i accepts)
  · obtain ⟨accepts, rfl⟩ := hdecide
    refine triple_modify fun s₁ hs₁ => ?_
    subst hs₁
    refine ⟨r.decide accepts, ?_, answered_step (Request.grows_decide (hvalid i r hr) accepts)
      (fun _ _ => ?_) (fun heq => by cases heq) h⟩
    · show (s₁.requests.modify i _)[i]? = _
      rw [List.getElem?_modify, hr]
      simp
    · unfold Request.decide
      split
      · next hacc => rw [hacc]; rfl
      · rfl
  · by_cases hresponse : e = .response i
    · subst hresponse
      refine triple_modify fun s₁ hs₁ => ?_
      subst hs₁
      refine ⟨r.acknowledge, ?_, answered_step (Request.grows_acknowledge r)
        (fun _ heq => by cases heq) (fun _ hacc => ?_) h⟩
      · rw [List.getElem?_modify, hr]
        simp
      · rw [Request.acknowledge, if_pos hacc]
    · refine triple_post (spinEvent_spec hvalid e) fun _ s' hspun => ?_
      obtain ⟨r', hr', hg⟩ := hspun.grow i r hr
      exact ⟨r', hr', answered_step hg (fun accepts heq => absurd ⟨accepts, heq⟩ hdecide)
        (fun heq => absurd heq hresponse) h⟩

/-- The spin that waits for request `i`: it keeps the goals, and ends with
the response if that comes. -/
theorem spinUntilResponse_keeping {i : GoalId} {es : List (SpinEvent Result Feedback)}
    (hes : UpdatesAccepted s₀ es) :
    ∀ {s} {r : Request Goal Result}, Keeping s₀ n s → s.requests[i]? = some r →
      Triple (· = s) (spinUntilResponse i es)
        (fun complete s' => Keeping s₀ n s' ∧ s'.futureGoalHandle = s.futureGoalHandle ∧
          (answered i (some r) es = true → complete = true)) OnlyNullDeref := by
  induction es with
  | nil =>
    intro s r h hr
    refine triple_get_bind fun s₁ hs₁ => ?_
    subst hs₁
    refine triple_pure fun s' hs' => ?_
    subst hs'
    refine ⟨h, rfl, fun hans => ?_⟩
    rw [hr]
    simpa [answered, arrives] using hans
  | cons e es ih =>
    intro s r h hr
    refine triple_get_bind fun s₁ hs₁ => ?_
    subst hs₁
    refine triple_ite (fun _ => triple_pure fun s' hs' => ?_) (fun _ => ?_)
    · subst hs'
      exact ⟨h, rfl, fun _ => rfl⟩
    · have hevent : Triple (· = s₁) (spinEvent e)
          (fun _ s' => answered i (some r) (e :: es) = true →
            ∃ r', s'.requests[i]? = some r' ∧ answered i (some r') es = true) OnlyNullDeref := by
        by_cases hans : answered i (some r) (e :: es) = true
        · exact triple_post (spinEvent_answered h.valid hr hans) fun _ _ hs _ => hs
        · exact triple_post (spinEvent_spec h.valid e) fun _ _ _ habs => absurd habs hans
      refine triple_bind (triple_conseq
        (triple_and (spinEvent_keeping h hes List.mem_cons_self) hevent)
        (fun _ hs => hs) (fun _ _ hs => hs) (fun _ _ he => he.1)) fun _ => ?_
      refine triple_start fun s₂ ⟨⟨hkeep, hspun⟩, hans⟩ => ?_
      obtain ⟨r', hr', _⟩ := hspun.grow i r hr
      refine triple_post (ih (hes.subset fun _ => List.mem_cons_of_mem e) hkeep hr')
        fun complete s' hs' => ⟨hs'.1, hs'.2.1.trans hspun.futureGoalHandle, fun h' => ?_⟩
      obtain ⟨r'', hr'', hans'⟩ := hans h'
      rw [hr'] at hr''
      cases hr''
      exact hs'.2.2 hans'

/-- How a call may throw. -/
def RaisedKept (e : ActionFailure) (s : ActionNode Goal Result Feedback B) : Prop :=
  e = .nullDeref ∨ Kept s.requests

theorem isFutureGoalHandleComplete_keeping {params : ActionParams}
    {a : Acknowledgement Result Feedback} {i : GoalId} {r : Request Goal Result}
    (h : Keeping s₀ n s) (hfuture : s.futureGoalHandle = some i) (hr : s.requests[i]? = some r)
    (hin : InTime params i (some r) a) (hes : UpdatesAccepted s₀ a.spin) :
    Triple (· = s) (isFutureGoalHandleComplete params a)
      (fun out s' => Keeping s₀ n s' ∧ (out.1 = true ∨ out.2 < params.serverTimeout))
      RaisedKept := by
  refine triple_ite (fun hlate => ?_) (fun _ => triple_get_bind fun s₁ hs₁ => ?_)
  · have hstarts := hin.1
    omega
  · subst hs₁
    split
    · exact triple_throw fun _ _ => .inl rfl
    · next j hj =>
      rw [hfuture] at hj
      cases hj
      refine triple_bind (triple_conseq (spinUntilResponse_keeping hes h hr) (fun _ hs => hs)
        (fun _ _ hs => hs) (fun _ _ he => .inl he)) fun complete => ?_
      refine triple_start fun s₂ ⟨hkeep, _, hcomplete⟩ => ?_
      refine triple_ite (fun _ => ?_) (fun hnot => ?_)
      · refine triple_bind (Q := fun _ s' => Keeping s₀ n s') ?_ fun _ => triple_pure
          fun s' hs' => ⟨hs', .inl rfl⟩
        refine triple_get_bind fun s₃ hs₃ => ?_
        subst hs₃
        refine triple_bind (Q := fun _ s' => Keeping s₀ n s') (triple_modify fun s' hs' => ?_)
          fun _ => triple_ite (fun _ => triple_throw fun s' hs' => .inr hs'.kept)
            fun _ => triple_pure fun _ hs' => hs'
        subst hs'
        exact hkeep.congr rfl
      · -- the response has not come, so there is time left
        obtain ⟨hok, htime⟩ := hin.2.resolve_left fun hans => hnot (hcomplete hans)
        refine triple_ite (fun hint => ?_) (fun _ => triple_pure fun s' hs' => ?_)
        · rw [hok] at hint
          cases hint
        · subst hs'
          refine ⟨hkeep, .inr ?_⟩
          show a.elapsed + (if params.maxTimeout < params.serverTimeout - a.elapsed then
            params.maxTimeout else params.serverTimeout - a.elapsed) < params.serverTimeout
          rw [if_pos (by omega)]
          exact htime

theorem awaitAcknowledgement_keeping {hooks : ActionHooks Goal Result Feedback B}
    {params : ActionParams} {a : Acknowledgement Result Feedback} {i : GoalId}
    {r : Request Goal Result} (h : Keeping s₀ n s) (hfuture : s.futureGoalHandle = some i)
    (hr : s.requests[i]? = some r) (hin : InTime params i (some r) a)
    (hes : UpdatesAccepted s₀ a.spin) :
    Triple (· = s) (awaitAcknowledgement hooks params a) (fun _ s' => Keeping s₀ n s')
      RaisedKept := by
  refine triple_bind (isFutureGoalHandleComplete_keeping h hfuture hr hin hes) fun out => ?_
  refine triple_start fun s₁ ⟨hkeep, hout⟩ => ?_
  refine triple_ite (fun _ => triple_pure fun s' hs' => ?_) (fun hnot => ?_)
  · subst hs'
    exact hkeep
  · refine triple_ite (fun _ => triple_pure fun s' hs' => ?_) (fun hover => ?_)
    · subst hs'
      exact hkeep
    · exact absurd (hout.resolve_left hnot) hover

/-! ## `tick()` -/

/-- A goal is sent. -/
theorem sendNewGoal_keeping (h : Keeping s₀ n s) {update : Bool}
    (hupdate : update = true → n = s₀.nextUpdate) :
    Triple (· = s) (sendNewGoal update)
      (fun _ s' => Keeping s₀ (n + 1) s' ∧ s'.futureGoalHandle = some n ∧
        s'.requests[n]? = some (Request.new s.hook.goal update) ∧ s'.hook = s.hook ∧
        s'.status = s.status) RaisedKept := by
  refine triple_modify fun s₁ hs₁ => ?_
  subst hs₁
  have hlast : (s₁.requests ++ [Request.new s₁.hook.goal update])[n]? =
      some (Request.new s₁.hook.goal update) := by
    rw [← h.length]
    exact List.getElem?_concat_length
  refine ⟨⟨requestsValid_append h.valid (Request.valid_new _ _), fun r hr => ?_, ?_,
    fun i r hr hu => ?_⟩, by rw [← h.length], hlast, rfl, rfl⟩
  · rcases List.mem_append.mp hr with hold | hnew
    · exact h.kept r hold
    · rw [List.mem_singleton] at hnew
      subst hnew
      exact ⟨rfl, fun _ hrej => by cases hrej⟩
  · rw [List.length_append, List.length_singleton, h.length]
  · rcases Nat.lt_or_ge i s₁.requests.length with hlt | hge
    · rw [List.getElem?_append_left hlt] at hr
      exact h.updates i r hr hu
    · have heq : i = n := by
        have hlt := (List.getElem?_eq_some_iff.mp hr).1
        rw [List.length_append, List.length_singleton, h.length] at hlt
        rw [h.length] at hge
        exact Nat.le_antisymm (Nat.le_of_lt_succ hlt) hge
      subst heq
      rw [hlast] at hr
      cases hr
      exact .inl (hupdate hu)

/-- A virtual function. -/
theorem callHook_keeping {α : Type} (h : Keeping s₀ n s) (f : HookM Goal B α) :
    Triple (· = s) (callHook f) (fun _ s' => Keeping s₀ n s' ∧ s'.status = s.status ∧
      s'.futureGoalHandle = s.futureGoalHandle) RaisedKept := by
  refine triple_conseq (callHook_spec (P := fun s' => Keeping s₀ n s' ∧ s'.status = s.status ∧
    s'.futureGoalHandle = s.futureGoalHandle) (fun s' hook hs' => ?_) f) (fun s' hs' => ?_)
    (fun _ _ hs => hs) (fun _ _ he => .inr he.2.1.kept)
  · exact ⟨hs'.1.congr rfl, hs'.2⟩
  · subst hs'
    exact ⟨h, rfl, rfl⟩

/-- The part that sends an updated goal. -/
theorem updateGoal_keeping {hooks : ActionHooks Goal Result Feedback B} {params : ActionParams}
    {a : Acknowledgement Result Feedback} {goalStatus : GoalStatus} (h : Keeping s₀ n s)
    (hn : n = s₀.nextUpdate)
    (hin : InTime params s₀.nextUpdate (none : Option (Request Goal Result)) a)
    (hes : UpdatesAccepted s₀ a.spin) :
    Triple (· = s) (updateGoal hooks params a goalStatus)
      (fun _ s' => ∃ m, Keeping s₀ m s') RaisedKept := by
  refine triple_get_bind fun s₁ hs₁ => ?_
  subst hs₁
  refine triple_ite (fun _ => ?_) (fun _ => triple_pure fun s' hs' => ?_)
  · refine triple_bind (Q := fun _ s' => Keeping s₀ n s') (triple_modify fun s' hs' => ?_)
      fun _ => ?_
    · subst hs'
      exact h.congr rfl
    · refine triple_start fun s₂ hs₂ => ?_
      refine triple_bind (sendNewGoal_keeping hs₂ fun _ => hn) fun _ => ?_
      refine triple_start fun s₃ ⟨hkeep, hfuture, hr, _⟩ => ?_
      rw [← hn] at hin
      exact triple_post (awaitAcknowledgement_keeping hkeep hfuture hr hin hes)
        fun _ _ hs => ⟨_, hs⟩
  · subst hs'
    exact ⟨n, h⟩

/-- The part that waits for the result. -/
theorem waitForResult_keeping {hooks : ActionHooks Goal Result Feedback B}
    {params : ActionParams} {input : TickInput Result Feedback} (h : Keeping s₀ n s)
    (hn : n = s₀.nextUpdate)
    (hin : InTime params s₀.nextUpdate (none : Option (Request Goal Result)) input.update)
    (hupdate : UpdatesAccepted s₀ input.update.spin) (hspin : UpdatesAccepted s₀ input.spin) :
    Triple (· = s) (waitForResult hooks params input)
      (fun _ s' => Kept s'.requests) RaisedKept := by
  refine triple_get_bind fun s₁ hs₁ => ?_
  subst hs₁
  refine triple_bind (callHook_keeping h _) fun _ => ?_
  refine triple_bind (Q := fun _ s' => Keeping s₀ n s') (triple_modify fun s' hs' => ?_) fun _ => ?_
  · exact hs'.1.congr rfl
  refine triple_get_bind fun s₂ hs₂ => ?_
  split
  · exact triple_throw fun _ _ => .inl rfl
  · refine triple_get_bind fun s₃ hs₃ => ?_
    subst hs₃
    refine triple_bind (updateGoal_keeping hs₂ hn hin hupdate) fun early => ?_
    refine triple_start fun s₄ ⟨m, hkeep⟩ => ?_
    split
    · refine triple_pure fun s' hs' => ?_
      subst hs'
      exact hkeep.kept
    · refine triple_bind (triple_conseq (spin_keeping hspin hkeep) (fun _ hs => hs)
        (fun _ _ hs => hs) (fun _ _ he => .inl he)) fun _ => ?_
      refine triple_get_bind fun s₅ hs₅ => ?_
      refine triple_ite (fun _ => triple_pure fun s' hs' => ?_) (fun _ => triple_pure
        fun s' hs' => ?_)
      · subst hs'
        exact hs₅.kept
      · subst hs'
        exact hs₅.kept

/-- The end of `tick()`. -/
theorem reportResult_kept {hooks : ActionHooks Goal Result Feedback B} :
    Triple (fun s : ActionNode Goal Result Feedback B => Kept s.requests) (reportResult hooks)
      (fun _ s' => Kept s'.requests) RaisedKept := by
  refine triple_get_bind fun s₁ hs₁ => ?_
  have hcall : ∀ f : HookM Goal B NodeStatus, Triple (· = s₁) (callHook f)
      (fun _ s' => Kept s'.requests) RaisedKept := fun f =>
    triple_conseq (callHook_spec (P := fun s' => Kept s'.requests) (fun _ _ hs => hs) f)
      (fun s' hs' => by subst hs'; exact hs₁) (fun _ _ hs => hs) (fun _ _ he => .inr he.2)
  refine triple_bind (Q := fun _ s' => Kept s'.requests) ?_ fun _ => ?_
  · unfold resultStatus
    split
    · exact hcall _
    · exact hcall _
    · exact hcall _
    · refine triple_throw fun s' hs' => ?_
      subst hs'
      exact .inr hs₁
  · exact triple_bind (Q := fun _ s' => Kept s'.requests) (triple_modify fun _ hs' => hs')
      fun _ => triple_pure fun _ hs' => hs'

/-- The rest of `tick()`, for an active node that waits for request `i`, if
for any. -/
theorem tickActive_keeping {hooks : ActionHooks Goal Result Feedback B} {params : ActionParams}
    {input : TickInput Result Feedback} (h : Keeping s₀ n s) (hn : n = s₀.nextUpdate)
    (hfirst : ∀ i, s.futureGoalHandle = some i →
      ∃ r, s.requests[i]? = some r ∧ InTime params i (some r) input.first)
    (hin : InTime params s₀.nextUpdate (none : Option (Request Goal Result)) input.update)
    (hes : UpdatesAccepted s₀ (input.first.spin ++ input.update.spin ++ input.spin)) :
    Triple (· = s) (tickActive hooks params input) (fun _ s' => Kept s'.requests) RaisedKept := by
  have hbody : Triple (· = s) (tickBody hooks params input)
      (fun _ s' => Kept s'.requests) RaisedKept := by
    refine triple_bind (Q := fun _ s' => Keeping s₀ n s') ?_ fun early => ?_
    · refine triple_get_bind fun s₁ hs₁ => ?_
      subst hs₁
      refine triple_ite (fun hfuture => ?_) (fun _ => triple_pure fun s' hs' => ?_)
      · obtain ⟨i, hi⟩ := Option.isSome_iff_exists.mp hfuture
        obtain ⟨r, hr, hintime⟩ := hfirst i hi
        exact awaitAcknowledgement_keeping h hi hr hintime (hes.subset fun e he => by simp [he])
      · subst hs'
        exact h
    · refine triple_start fun s₁ hs₁ => ?_
      split
      · refine triple_pure fun s' hs' => ?_
        subst hs'
        exact hs₁.kept
      · refine triple_get_bind fun s₂ hs₂ => ?_
        subst hs₂
        refine triple_ite (fun _ => ?_) (fun _ => triple_pure fun s' hs' => ?_)
        · exact waitForResult_keeping hs₁ hn hin (hes.subset fun e he => by simp [he])
            (hes.subset fun e he => by simp [he])
        · subst hs'
          exact hs₁.kept
  refine triple_bind (Q := fun _ s' => Kept s'.requests) (triple_tryCatch hbody fun e => ?_)
    fun early => ?_
  · refine triple_ite (fun hcaught => triple_pure fun s' hs' => ?_) (fun _ => triple_throw
      fun _ hs' => hs')
    rcases hs' with rfl | hkept
    · rcases hcaught with hc | hc <;> cases hc
    · exact hkept
  · split
    · exact triple_pure fun _ hs' => hs'
    · exact reportResult_kept

/-- The start of an inactive node. If it goes on, the response to its first
request comes in time. -/
theorem activate_keeping {hooks : ActionHooks Goal Result Feedback B} {params : ActionParams}
    {first : Acknowledgement Result Feedback} (h : Keeping s₀ s₀.requests.length s)
    (hfirst : InTime params s₀.requests.length (none : Option (Request Goal Result)) first) :
    Triple (· = s) (activate hooks)
      (fun goesOn s' => Kept s'.requests ∧ (goesOn = true →
        Keeping s₀ (s₀.requests.length + 1) s' ∧ ∀ i, s'.futureGoalHandle = some i →
          ∃ r, s'.requests[i]? = some r ∧ InTime params i (some r) first)) RaisedKept := by
  refine triple_bind (Q := fun _ s' => Keeping s₀ s₀.requests.length s')
    (triple_modify fun s' hs' => ?_) fun _ => ?_
  · subst hs'
    exact h.congr rfl
  refine triple_start fun s₁ hs₁ => ?_
  refine triple_bind (callHook_keeping hs₁ _) fun _ => ?_
  refine triple_bind (Q := fun _ s' => Keeping s₀ s₀.requests.length s')
    (triple_modify fun s' hs' => hs'.1.congr rfl) fun _ => ?_
  refine triple_get_bind fun s₂ hs₂ => ?_
  refine triple_ite (fun _ => ?_) (fun _ => triple_pure fun s' hs' => ?_)
  · refine triple_bind (sendNewGoal_keeping hs₂ fun hupdate => by cases hupdate) fun _ => ?_
    refine triple_pure fun s' ⟨hkeep, hfuture, hr, _⟩ => ⟨hkeep.kept, fun _ => ⟨hkeep, ?_⟩⟩
    intro i hi
    rw [hfuture] at hi
    cases hi
    exact ⟨_, hr, hfirst⟩
  · subst hs'
    exact ⟨hs₂.kept, fun hgoes => by cases hgoes⟩

/-- A tick that meets the condition. -/
theorem executeTick_kept {hooks : ActionHooks Goal Result Feedback B} {params : ActionParams}
    {input : TickInput Result Feedback} (hvalid : RequestsValid s.requests)
    (hkept : Kept s.requests) (hlast : ∀ i, s.futureGoalHandle = some i → i < s.requests.length)
    (h : KeptTick params s input) :
    Triple (· = s) (executeTick hooks params input) (fun _ s' => Kept s'.requests)
      RaisedKept := by
  obtain ⟨hfirst, hin, hes⟩ := h
  have hstart := keeping_start hvalid hkept
  refine triple_bind (Q := fun _ s' => Kept s'.requests) ?_ fun status => ?_
  · refine triple_get_bind fun s₁ hs₁ => ?_
    subst hs₁
    refine triple_ite (fun hactive => ?_) (fun hidle => ?_)
    · refine tickActive_keeping hstart (by rw [ActionNode.nextUpdate, if_pos hactive])
        (fun i hi => ?_) hin hes
      rw [ActionNode.waitsFor, if_pos hactive] at hfirst
      have hr := List.getElem?_eq_getElem (hlast i hi)
      exact ⟨_, hr, hr ▸ hfirst i hi⟩
    · rw [ActionNode.waitsFor, if_neg hidle] at hfirst
      have hnext : s₁.requests.length + 1 = s₁.nextUpdate := by
        rw [ActionNode.nextUpdate, if_neg hidle]
      have hintime := hfirst s₁.requests.length rfl
      rw [List.getElem?_eq_none (Nat.le_refl _)] at hintime
      refine triple_bind (activate_keeping hstart hintime) fun goesOn => ?_
      refine triple_start fun s₂ ⟨hkept₂, hgoes⟩ => ?_
      refine triple_ite (fun hgo => ?_) (fun _ => triple_pure fun s' hs' => ?_)
      · obtain ⟨hkeep, hfuture⟩ := hgoes hgo
        exact tickActive_keeping hkeep hnext hfuture hin hes
      · subst hs'
        exact hkept₂
  · refine triple_bind (Q := fun _ s' => Kept s'.requests) (triple_modify fun s' hs' => ?_)
      fun _ => triple_pure fun _ hs' => hs'
    split <;> exact hs'

/-! ## `halt()` -/

/-- A halt whose events reject no updated goal. -/
theorem halt_kept {hooks : ActionHooks Goal Result Feedback B}
    {input : HaltInput Result Feedback} (hvalid : RequestsValid s.requests)
    (hkept : Kept s.requests)
    (hes : UpdatesAccepted s (input.spin ++ input.cancelSpin ++ input.resultSpin)) :
    Triple (· = s) (halt hooks input) (fun _ s' => Kept s'.requests) RaisedKept := by
  have hstart := keeping_start hvalid hkept
  have hspin : ∀ es : List (SpinEvent Result Feedback), UpdatesAccepted s es →
      Triple (Keeping s s.requests.length) (spin es) (fun _ => Keeping s s.requests.length)
        RaisedKept := fun es hes' =>
    triple_start fun s₁ hs₁ => triple_conseq (spin_keeping hes' hs₁) (fun _ hs => hs)
      (fun _ _ hs => hs) (fun _ _ he => .inl he)
  refine triple_bind (Q := fun _ s' => Keeping s s.requests.length s') ?_ fun goal => ?_
  · refine triple_get_bind fun s₁ hs₁ => ?_
    subst hs₁
    refine triple_ite (fun _ => triple_pure fun s' hs' => ?_) (fun _ => ?_)
    · subst hs'
      exact hstart
    split
    · refine triple_pure fun s' hs' => ?_
      subst hs'
      exact hstart
    · refine triple_bind (triple_pre (hspin _ (hes.subset fun e he => by simp [he]))
        fun s' hs' => by subst hs'; exact hstart) fun _ => ?_
      refine triple_get_bind fun s₂ hs₂ => ?_
      refine triple_ite (fun _ => triple_pure fun s' hs' => ?_) (fun _ => triple_pure
        fun s' hs' => ?_)
      · subst hs'
        exact hs₂
      · subst hs'
        exact hs₂
  · refine triple_bind (Q := fun _ s' => Kept s'.requests) ?_ fun _ =>
      triple_modify fun _ hs' => hs'
    cases goal with
    | none => exact triple_pure fun _ hs' => hs'.kept
    | some i =>
      refine triple_bind (Q := fun _ s' => Keeping s s.requests.length s')
        (triple_modify fun s' hs' => ?_) fun _ => ?_
      · exact hs'.spun (.of_modify hs'.valid (fun _ hr => hr.requestCancel)
          Request.grows_requestCancel) (hs'.kept.modify_same fun _ => ⟨rfl, rfl, rfl⟩)
      refine triple_bind (hspin _ (hes.subset fun e he => by simp [he])) fun _ => ?_
      refine triple_bind (hspin _ (hes.subset fun e he => by simp [he])) fun _ => ?_
      refine triple_get_bind fun s₁ hs₁ => ?_
      refine triple_bind (callHook_keeping hs₁ _) fun _ => triple_pure fun _ hs' => hs'.1.kept

/-! ## Steps -/

theorem kept_afterCall {α : Type} {x : ActionM Goal Result Feedback B α}
    (hx : Triple (· = s) x (fun _ s' => Kept s'.requests) RaisedKept)
    (h : afterCall x s = some s') : Kept s'.requests := by
  unfold afterCall at h
  split at h
  · next hrun =>
    cases h
    exact hx.ok rfl hrun
  · cases h
  · next hne hrun =>
    cases h
    exact (hx.error rfl hrun).resolve_left hne

/-- **A step that meets the condition** loses sight of no goal. -/
theorem kept_step {hooks : ActionHooks Goal Result Feedback B} {params : ActionParams}
    {l : ActionLabel Result Feedback} (hvalid : RequestsValid s.requests)
    (hkept : Kept s.requests) (hlast : ∀ i, s.futureGoalHandle = some i → i < s.requests.length)
    (h : KeptStep params s l) (hstep : actionStep hooks params s l = some s') :
    Kept s'.requests := by
  cases l with
  | tick input => exact kept_afterCall (executeTick_kept hvalid hkept hlast h) hstep
  | halt input => exact kept_afterCall (halt_kept hvalid hkept h.2) hstep
  | reset =>
    simp only [actionStep] at hstep
    split at hstep
    · cases hstep
    · cases hstep
      exact hkept
  | server e =>
    have hes : UpdatesAccepted s [(.server e : SpinEvent Result Feedback)] := h
    cases hstep
    exact hkept.served e ((keeping_start hvalid hkept).rejects hes List.mem_cons_self)

end Nav3D.BehaviorTree

/-
Nav3D.Ros.ActionClient — the goal requests of one `rclcpp_action` client,
with what the action server has made of them and what the client knows.

A request is named by its number, in the order of sending; the number
stands for the goal's UUID. The server decides on a request, moves an
accepted goal through the states of `action_msgs/GoalStatus`, and answers
with the messages that the client has not received yet: the goal response,
status messages, the result. Messages are delivered late, in any order
that the client can see, and a status message may report any state that
the goal has been in. The result is requested when the goal response
arrives, so it cannot arrive earlier.
-/
import Nav3D.Ros.Action
import Mathlib.Data.List.Basic

namespace Nav3D.Ros

/-! ## States of a goal on the server -/

/-- The transitions of a goal on the server. -/
def GoalStatus.canBecome : GoalStatus → GoalStatus → Bool
  | .accepted, .executing | .accepted, .canceling => true
  | .executing, .canceling | .executing, .succeeded | .executing, .aborted => true
  | .canceling, .succeeded | .canceling, .canceled | .canceling, .aborted => true
  | _, _ => false

/-- A goal request. -/
structure Request (Goal Result : Type) where
  goal : Goal
  /-- Sent to replace the goal that is running. -/
  update : Bool
  /-- The server's decision on the request. -/
  accepted : Option Bool
  /-- A cancel request has been sent, by any client. -/
  cancelRequested : Bool
  /-- The states of the goal on the server, newest first. -/
  statuses : List GoalStatus
  /-- The result that the server has set. -/
  result : Option Result
  /-- The client has received the goal response. -/
  acknowledged : Bool
  /-- `ClientGoalHandle::get_status()`. -/
  clientStatus : GoalStatus
  /-- The client has received the result. -/
  resultReceived : Bool
  /-- The client has given up the future of the goal response. -/
  abandoned : Bool
  deriving DecidableEq

section Request

variable {Goal Result : Type}

/-- A request as it is sent. -/
def Request.new (goal : Goal) (update : Bool) : Request Goal Result where
  goal := goal
  update := update
  accepted := none
  cancelRequested := false
  statuses := []
  result := none
  acknowledged := false
  clientStatus := .accepted
  resultReceived := false
  abandoned := false

/-- The goal is in a terminal state on the server. -/
def Request.terminal (r : Request Goal Result) : Bool :=
  match r.statuses with
  | [] => false
  | st :: _ => st.isTerminal

/-- The code of the result of a terminal goal. -/
def Request.resultCode (r : Request Goal Result) : ResultCode :=
  match r.statuses with
  | .succeeded :: _ => .succeeded
  | .canceled :: _ => .canceled
  | .aborted :: _ => .aborted
  | _ => .unknown

/-! ### What the server does -/

/-- The server accepts or rejects the request. -/
def Request.decide (accepts : Bool) (r : Request Goal Result) : Request Goal Result :=
  match r.accepted with
  | some _ => r
  | none =>
    { r with accepted := some accepts, statuses := if accepts then [.accepted] else r.statuses }

def Request.requestCancel (r : Request Goal Result) : Request Goal Result :=
  { r with cancelRequested := true }

/-- The goal moves to a next state; only a cancel request makes it cancel. -/
def Request.move (st : GoalStatus) (result : Result) (r : Request Goal Result) :
    Request Goal Result :=
  match r.statuses with
  | [] => r
  | now :: _ =>
    if now.canBecome st && (st != .canceling || r.cancelRequested) then
      { r with
        statuses := st :: r.statuses
        result := if st.isTerminal then some result else r.result }
    else r

/-! ### What the client receives -/

/-- The goal response arrives, if the server has decided. -/
def Request.acknowledge (r : Request Goal Result) : Request Goal Result :=
  if r.accepted.isSome then { r with acknowledged := true } else r

/-- The client knows the goal and waits for its result. -/
def Request.registered (r : Request Goal Result) : Bool :=
  r.acknowledged && r.accepted == some true && !r.resultReceived

/-- A status message about a state that the goal has been in. -/
def Request.receiveStatus (st : GoalStatus) (r : Request Goal Result) : Request Goal Result :=
  if r.registered && r.statuses.contains st then { r with clientStatus := st } else r

/-- The result can arrive. -/
def Request.resultReady (r : Request Goal Result) : Bool := r.registered && r.terminal

/-- The state that a result reports: unknown when the server no longer
keeps the goal. -/
def Request.reportedStatus (expired : Bool) (r : Request Goal Result) : GoalStatus :=
  if expired then .unknown else r.statuses.headD .unknown

def Request.receiveResult (expired : Bool) (r : Request Goal Result) : Request Goal Result :=
  if r.resultReady then
    { r with clientStatus := r.reportedStatus expired, resultReceived := true }
  else r

def Request.abandon (r : Request Goal Result) : Request Goal Result :=
  { r with abandoned := true }

/-- The client has heard of a state in which the goal is no longer to be
executed. -/
def Request.endHeard (r : Request Goal Result) : Bool :=
  !(r.clientStatus == .executing || r.clientStatus == .accepted)

/-! ## What every request satisfies -/

/-- What holds of a request at any time. -/
structure Request.Valid (r : Request Goal Result) : Prop where
  /-- Only an accepted goal has a state. -/
  accepted : r.statuses ≠ [] → r.accepted = some true
  /-- A goal is never in the state `unknown` on the server. -/
  known : GoalStatus.unknown ∉ r.statuses
  /-- A goal cancels only on request. -/
  canceling : GoalStatus.canceling ∈ r.statuses → r.cancelRequested = true
  /-- A terminal state is the last one. -/
  last : ∀ st ∈ r.statuses, st.isTerminal = true → r.terminal = true
  /-- The client has heard of the goal's states or of its end. -/
  heard : r.clientStatus = .accepted ∨ r.clientStatus ∈ r.statuses ∨
    r.clientStatus = .unknown ∧ r.terminal = true
  acknowledged : r.acknowledged = true → r.accepted.isSome = true
  received : r.resultReceived = true → r.terminal = true
  /-- Before the goal response the client hears nothing. -/
  unheard : r.acknowledged = false → r.clientStatus = .accepted

theorem Request.valid_new (goal : Goal) (update : Bool) :
    (Request.new goal update : Request Goal Result).Valid where
  accepted h := absurd rfl h
  known h := by cases h
  canceling h := by cases h
  last _ h := by cases h
  heard := .inl rfl
  acknowledged h := by cases h
  received h := by cases h
  unheard _ := rfl

variable {r : Request Goal Result}

/-- A terminal state has no next one. -/
theorem GoalStatus.not_terminal_of_canBecome {st st' : GoalStatus}
    (h : st.canBecome st' = true) : st.isTerminal = false := by
  cases st <;> first | rfl | (cases st' <;> cases h)

theorem GoalStatus.not_unknown_of_canBecome {st st' : GoalStatus}
    (h : st.canBecome st' = true) : st' ≠ .unknown := by
  rintro rfl
  cases st <;> cases h

theorem Request.Valid.decide (h : r.Valid) (accepts : Bool) : (r.decide accepts).Valid := by
  unfold Request.decide
  split
  · exact h
  · next hnone =>
    have hempty : r.statuses = [] := by
      by_contra hne
      rw [h.accepted hne] at hnone
      cases hnone
    cases accepts with
    | false =>
      exact ⟨fun hne => absurd hempty hne, h.known, h.canceling, h.last, h.heard, fun _ => rfl,
        h.received, h.unheard⟩
    | true =>
      have hheard : r.clientStatus = .accepted := by
        rcases h.heard with hacc | hmem | ⟨_, hterm⟩
        · exact hacc
        · rw [hempty] at hmem; cases hmem
        · rw [Request.terminal, hempty] at hterm; cases hterm
      have hrec : r.resultReceived ≠ true := fun hr => by
        have hterm := h.received hr
        rw [Request.terminal, hempty] at hterm
        cases hterm
      refine ⟨fun _ => rfl, by simp, by simp, ?_, .inl hheard, fun _ => rfl,
        fun hr => absurd hr hrec, fun _ => hheard⟩
      intro st hst hterm
      rw [if_pos rfl, List.mem_singleton] at hst
      rw [hst] at hterm
      cases hterm

theorem Request.Valid.requestCancel (h : r.Valid) : r.requestCancel.Valid :=
  ⟨h.accepted, h.known, fun _ => rfl, h.last, h.heard, h.acknowledged, h.received, h.unheard⟩

theorem Request.Valid.move (h : r.Valid) (st : GoalStatus) (result : Result) :
    (r.move st result).Valid := by
  unfold Request.move
  split
  · exact h
  · next now rest hst =>
    split
    · next hc =>
      rw [Bool.and_eq_true, Bool.or_eq_true, bne_iff_ne] at hc
      obtain ⟨hbecome, hcancel⟩ := hc
      have hacc := h.accepted (by rw [hst]; exact List.cons_ne_nil _ _)
      -- the goal was not terminal, so it had no terminal state at all
      have hopen : r.terminal = false := by
        rw [Request.terminal, hst]
        exact GoalStatus.not_terminal_of_canBecome hbecome
      refine ⟨fun _ => hacc, ?_, ?_, ?_, ?_, h.acknowledged, ?_, h.unheard⟩
      · intro hmem
        rcases List.mem_cons.mp hmem with heq | hmem
        · exact GoalStatus.not_unknown_of_canBecome hbecome heq.symm
        · exact h.known hmem
      · intro hmem
        rcases List.mem_cons.mp hmem with heq | hmem
        · exact hcancel.resolve_left (not_not_intro heq.symm)
        · exact h.canceling hmem
      · intro st' hmem hterm
        rcases List.mem_cons.mp hmem with heq | hmem
        · rw [heq] at hterm
          exact hterm
        · rw [h.last st' hmem hterm] at hopen
          cases hopen
      · rcases h.heard with hacc | hmem | ⟨_, hterm⟩
        · exact .inl hacc
        · exact .inr (.inl (List.mem_cons_of_mem _ hmem))
        · rw [hterm] at hopen; cases hopen
      · intro hr
        rw [h.received hr] at hopen
        cases hopen
    · exact h

theorem Request.Valid.acknowledge (h : r.Valid) : r.acknowledge.Valid := by
  unfold Request.acknowledge
  split
  · next hsome =>
    exact ⟨h.accepted, h.known, h.canceling, h.last, h.heard, fun _ => hsome, h.received,
      fun hf => by cases hf⟩
  · exact h

theorem Request.acknowledged_of_registered (h : r.registered = true) : r.acknowledged = true := by
  rw [Request.registered, Bool.and_eq_true, Bool.and_eq_true] at h
  exact h.1.1

theorem Request.Valid.receiveStatus (h : r.Valid) (st : GoalStatus) :
    (r.receiveStatus st).Valid := by
  unfold Request.receiveStatus
  split
  · next hc =>
    rw [Bool.and_eq_true, List.contains_iff_mem] at hc
    exact ⟨h.accepted, h.known, h.canceling, h.last, .inr (.inl hc.2), h.acknowledged, h.received,
      fun hf => by rw [Request.acknowledged_of_registered hc.1] at hf; cases hf⟩
  · exact h

theorem Request.Valid.receiveResult (h : r.Valid) (expired : Bool) :
    (r.receiveResult expired).Valid := by
  unfold Request.receiveResult
  split
  · next hready =>
    rw [Request.resultReady, Bool.and_eq_true] at hready
    refine ⟨h.accepted, h.known, h.canceling, h.last, ?_, h.acknowledged, fun _ => hready.2,
      fun hf => by rw [Request.acknowledged_of_registered hready.1] at hf; cases hf⟩
    cases expired with
    | true => exact .inr (.inr ⟨rfl, hready.2⟩)
    | false =>
      obtain ⟨st, rest, hst⟩ : ∃ st rest, r.statuses = st :: rest := by
        refine List.exists_cons_of_ne_nil fun hnil => ?_
        have hterm := hready.2
        rw [Request.terminal, hnil] at hterm
        cases hterm
      refine .inr (.inl ?_)
      show r.statuses.headD .unknown ∈ r.statuses
      rw [hst]
      exact List.mem_cons_self
  · exact h

theorem Request.Valid.abandon (h : r.Valid) : r.abandon.Valid :=
  ⟨h.accepted, h.known, h.canceling, h.last, h.heard, h.acknowledged, h.received, h.unheard⟩

/-! ## What never comes undone -/

/-- `r'` is `r` later on: what the property of interest looks at only grows. -/
structure Request.Grows (r r' : Request Goal Result) : Prop where
  goal : r'.goal = r.goal
  update : r'.update = r.update
  accepted : ∀ b, r.accepted = some b → r'.accepted = some b
  cancelRequested : r.cancelRequested = true → r'.cancelRequested = true
  /-- A terminal goal keeps its states and its result. -/
  final : r.terminal = true → r'.statuses = r.statuses ∧ r'.result = r.result
  acknowledged : r.acknowledged = true → r'.acknowledged = true
  abandoned : r.abandoned = true → r'.abandoned = true

theorem Request.Grows.refl (r : Request Goal Result) : r.Grows r :=
  ⟨rfl, rfl, fun _ h => h, id, fun _ => ⟨rfl, rfl⟩, id, id⟩

theorem Request.Grows.trans {r r' r'' : Request Goal Result} (h : r.Grows r')
    (h' : r'.Grows r'') : r.Grows r'' where
  goal := h'.goal.trans h.goal
  update := h'.update.trans h.update
  accepted b hb := h'.accepted b (h.accepted b hb)
  cancelRequested hc := h'.cancelRequested (h.cancelRequested hc)
  final ht := by
    obtain ⟨hst, hres⟩ := h.final ht
    have ht' : r'.terminal = true := by rw [Request.terminal, hst]; exact ht
    exact ⟨(h'.final ht').1.trans hst, (h'.final ht').2.trans hres⟩
  acknowledged ha := h'.acknowledged (h.acknowledged ha)
  abandoned ha := h'.abandoned (h.abandoned ha)

/-- A goal whose result has a code is terminal. -/
theorem Request.terminal_of_resultCode {r : Request Goal Result} (h : r.resultCode ≠ .unknown) :
    r.terminal = true := by
  unfold Request.resultCode at h
  split at h
  · next hst => rw [Request.terminal, hst]; rfl
  · next hst => rw [Request.terminal, hst]; rfl
  · next hst => rw [Request.terminal, hst]; rfl
  · exact absurd rfl h

theorem Request.Grows.terminal {r r' : Request Goal Result} (h : r.Grows r')
    (ht : r.terminal = true) : r'.terminal = true := by
  rw [Request.terminal, (h.final ht).1]
  exact ht

/-- What a request has come to is final. -/
theorem Request.Grows.resultCode {r r' : Request Goal Result} (h : r.Grows r')
    (hcode : r.resultCode ≠ .unknown) : r'.resultCode = r.resultCode ∧ r'.result = r.result := by
  obtain ⟨hst, hres⟩ := h.final (Request.terminal_of_resultCode hcode)
  exact ⟨by rw [Request.resultCode, hst]; rfl, hres⟩

theorem Request.grows_decide (h : r.Valid) (accepts : Bool) : r.Grows (r.decide accepts) := by
  unfold Request.decide
  split
  · exact .refl r
  · next hnone =>
    refine ⟨rfl, rfl, fun b hb => ?_, id, fun hterm => ?_, id, id⟩
    · rw [hnone] at hb; cases hb
    · have hacc := h.accepted fun hnil => by
        rw [Request.terminal, hnil] at hterm
        cases hterm
      rw [hacc] at hnone
      cases hnone

theorem Request.grows_requestCancel (r : Request Goal Result) : r.Grows r.requestCancel :=
  ⟨rfl, rfl, fun _ h => h, fun _ => rfl, fun _ => ⟨rfl, rfl⟩, id, id⟩

theorem Request.grows_move (r : Request Goal Result) (st : GoalStatus) (result : Result) :
    r.Grows (r.move st result) := by
  unfold Request.move
  split
  · exact .refl r
  · next now rest hst =>
    split
    · next hc =>
      rw [Bool.and_eq_true] at hc
      refine ⟨rfl, rfl, fun _ h => h, id, fun hterm => ?_, id, id⟩
      have hopen : r.terminal = false := by
        rw [Request.terminal, hst]
        exact GoalStatus.not_terminal_of_canBecome hc.1
      rw [hopen] at hterm
      cases hterm
    · exact .refl r

theorem Request.grows_acknowledge (r : Request Goal Result) : r.Grows r.acknowledge := by
  unfold Request.acknowledge
  split
  · exact ⟨rfl, rfl, fun _ h => h, id, fun _ => ⟨rfl, rfl⟩, fun _ => rfl, id⟩
  · exact .refl r

theorem Request.grows_receiveStatus (r : Request Goal Result) (st : GoalStatus) :
    r.Grows (r.receiveStatus st) := by
  unfold Request.receiveStatus
  split
  · exact ⟨rfl, rfl, fun _ h => h, id, fun _ => ⟨rfl, rfl⟩, id, id⟩
  · exact .refl r

theorem Request.grows_receiveResult (r : Request Goal Result) (expired : Bool) :
    r.Grows (r.receiveResult expired) := by
  unfold Request.receiveResult
  split
  · exact ⟨rfl, rfl, fun _ h => h, id, fun _ => ⟨rfl, rfl⟩, id, id⟩
  · exact .refl r

theorem Request.endHeard_decide (accepts : Bool) (r : Request Goal Result) :
    (r.decide accepts).endHeard = r.endHeard := by
  unfold Request.decide
  split <;> rfl

theorem Request.endHeard_move (st : GoalStatus) (result : Result) (r : Request Goal Result) :
    (r.move st result).endHeard = r.endHeard := by
  unfold Request.move
  split
  · rfl
  · split <;> rfl

theorem Request.endHeard_acknowledge (r : Request Goal Result) :
    r.acknowledge.endHeard = r.endHeard := by
  unfold Request.acknowledge
  split <;> rfl

theorem Request.grows_abandon (r : Request Goal Result) : r.Grows r.abandon :=
  ⟨rfl, rfl, fun _ h => h, id, fun _ => ⟨rfl, rfl⟩, id, fun _ => rfl⟩

end Request

/-! ## Events of the world outside the node -/

/-- What the server or another client does. -/
inductive ServerEvent (Result : Type) where
  | decide (i : GoalId) (accepts : Bool)
  | requestCancel (i : GoalId)
  | move (i : GoalId) (st : GoalStatus) (result : Result)

/-- What an executor that is spun can do meanwhile: the server goes on, and
messages are delivered to the client. -/
inductive SpinEvent (Result Feedback : Type) where
  | server (e : ServerEvent Result)
  | response (i : GoalId)
  | status (i : GoalId) (st : GoalStatus)
  | result (i : GoalId) (expired : Bool)
  | feedback (i : GoalId) (feedback : Feedback)

/-- The request whose result an event delivers. -/
def SpinEvent.delivers {Result Feedback : Type} : SpinEvent Result Feedback → Option GoalId
  | .result i _ => some i
  | _ => none

/-- The request of which an event tells that its goal is no longer to be
executed. -/
def SpinEvent.tellsEnd {Result Feedback : Type} : SpinEvent Result Feedback → Option GoalId
  | .status i st => if st == .executing || st == .accepted then none else some i
  | .result i _ => some i
  | _ => none

/-- The request that an event rejects. -/
def SpinEvent.rejects {Result Feedback : Type} : SpinEvent Result Feedback → Option GoalId
  | .server (.decide i false) => some i
  | _ => none

section Requests

variable {Goal Result Feedback : Type}

/-- The effect of the server's event on the requests. -/
def ServerEvent.apply (e : ServerEvent Result) (rs : List (Request Goal Result)) :
    List (Request Goal Result) :=
  match e with
  | .decide i accepts => rs.modify i (Request.decide accepts)
  | .requestCancel i => rs.modify i Request.requestCancel
  | .move i st result => rs.modify i (Request.move st result)

/-- Every request of `rs` is there later on, and further requests may be. -/
def RequestsGrow (rs rs' : List (Request Goal Result)) : Prop :=
  ∀ (i : GoalId) (r : Request Goal Result), rs[i]? = some r → ∃ r', rs'[i]? = some r' ∧ r.Grows r'

theorem RequestsGrow.refl (rs : List (Request Goal Result)) : RequestsGrow rs rs :=
  fun _ r h => ⟨r, h, .refl r⟩

theorem RequestsGrow.trans {rs rs' rs'' : List (Request Goal Result)} (h : RequestsGrow rs rs')
    (h' : RequestsGrow rs' rs'') : RequestsGrow rs rs'' := by
  intro i r hr
  obtain ⟨r', hr', hgrow⟩ := h i r hr
  obtain ⟨r'', hr'', hgrow'⟩ := h' i r' hr'
  exact ⟨r'', hr'', hgrow.trans hgrow'⟩

/-- Requests grow when one of them grows. -/
theorem requestsGrow_modify {rs : List (Request Goal Result)} {i : GoalId}
    {f : Request Goal Result → Request Goal Result}
    (hf : ∀ r, rs[i]? = some r → r.Grows (f r)) : RequestsGrow rs (rs.modify i f) := by
  intro j r hr
  rw [List.getElem?_modify, hr]
  by_cases hij : i = j
  · subst hij
    exact ⟨f r, by simp, hf r hr⟩
  · exact ⟨r, by simp [hij], .refl r⟩

theorem RequestsGrow.length_le {rs rs' : List (Request Goal Result)} (h : RequestsGrow rs rs') :
    rs.length ≤ rs'.length := by
  refine Nat.le_of_not_lt fun hlt => ?_
  obtain ⟨r', hr', _⟩ := h _ _ (List.getElem?_eq_getElem hlt)
  rw [List.getElem?_eq_none (Nat.le_refl _)] at hr'
  cases hr'

/-- Later requests that are as many as before are the earlier ones, grown. -/
theorem grows_of_length {rs rs' : List (Request Goal Result)} (h : RequestsGrow rs rs')
    (hlength : rs'.length = rs.length) {i : GoalId} {r' : Request Goal Result}
    (hr' : rs'[i]? = some r') : ∃ r, rs[i]? = some r ∧ r.Grows r' := by
  have hlt : i < rs.length := Nat.lt_of_lt_of_eq (List.getElem?_eq_some_iff.mp hr').1 hlength
  obtain ⟨r'', hr'', hgrow⟩ := h i _ (List.getElem?_eq_getElem hlt)
  rw [hr'] at hr''
  cases hr''
  exact ⟨_, List.getElem?_eq_getElem hlt, hgrow⟩

/-- Sending a request adds one. -/
theorem requestsGrow_append (rs : List (Request Goal Result)) (r : Request Goal Result) :
    RequestsGrow rs (rs ++ [r]) := by
  intro i r' hr'
  exact ⟨r', by rw [List.getElem?_append_left (List.getElem?_eq_some_iff.mp hr').1]; exact hr',
    .refl r'⟩

/-- All requests of a list are valid. -/
def RequestsValid (rs : List (Request Goal Result)) : Prop :=
  ∀ (i : GoalId) (r : Request Goal Result), rs[i]? = some r → r.Valid

theorem requestsValid_modify {rs : List (Request Goal Result)} (h : RequestsValid rs) {i : GoalId}
    {f : Request Goal Result → Request Goal Result} (hf : ∀ r, r.Valid → (f r).Valid) :
    RequestsValid (rs.modify i f) := by
  intro j r hr
  rw [List.getElem?_modify, Option.map_eq_map, Option.map_eq_some_iff] at hr
  obtain ⟨r₀, hr₀, rfl⟩ := hr
  split
  · exact hf r₀ (h j r₀ hr₀)
  · exact h j r₀ hr₀

theorem requestsValid_append {rs : List (Request Goal Result)} (h : RequestsValid rs)
    {r : Request Goal Result} (hr : r.Valid) : RequestsValid (rs ++ [r]) := by
  intro i r' hr'
  rcases List.mem_append.mp (List.mem_of_getElem? hr') with hmem | hmem
  · obtain ⟨j, hj⟩ := List.getElem?_of_mem hmem
    exact h j r' hj
  · rw [List.mem_singleton.mp hmem]
    exact hr

/-- The server keeps the requests valid and makes them grow. -/
theorem ServerEvent.apply_spec (e : ServerEvent Result) {rs : List (Request Goal Result)}
    (h : RequestsValid rs) : RequestsValid (e.apply rs) ∧ RequestsGrow rs (e.apply rs) ∧
      (e.apply rs).length = rs.length := by
  cases e with
  | decide i accepts =>
    exact ⟨requestsValid_modify h fun _ hr => hr.decide accepts,
      requestsGrow_modify fun r hr => Request.grows_decide (h i r hr) accepts,
      List.length_modify _ _ _⟩
  | requestCancel i =>
    exact ⟨requestsValid_modify h fun _ hr => hr.requestCancel,
      requestsGrow_modify fun r _ => r.grows_requestCancel, List.length_modify _ _ _⟩
  | move i st result =>
    exact ⟨requestsValid_modify h fun _ hr => hr.move st result,
      requestsGrow_modify fun r _ => r.grows_move st result, List.length_modify _ _ _⟩

end Requests

end Nav3D.Ros

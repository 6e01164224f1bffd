/-
Nav3D.BehaviorTree.ActionNodeHandOver — how a `BtActionNode` hands a new
goal over to the server.

`on_wait_for_result()` is called in every tick that no goal response holds
up, before `spin_some()`. A goal that it changes is sent in that tick, unless
the client has heard of the end of the goal that is running. So whatever the
node hears of an end in a tick, it hears of a goal that
`on_wait_for_result()` has left in it (`G`), or has heard of before
(`tick_handsOver`).
-/
import Nav3D.BehaviorTree.ActionNodeResults

namespace Nav3D.BehaviorTree

open Nav3D.Ros StateInvariant
open BT (NodeStatus)

variable {Goal Result Feedback B : Type} {hooks : ActionHooks Goal Result Feedback B}
  {es : List (SpinEvent Result Feedback)} {base : Nat} {pc pc' : TickPc}
  {s s' s₀ : ActionNode Goal Result Feedback B}

/-! ## Reported results have been delivered -/

/-- No result has been taken over. -/
def Quiet (s : ActionNode Goal Result Feedback B) : Prop := s.result.code = .unknown

/-- The virtual functions for a result do not return RUNNING. -/
def Concludes (hooks : ActionHooks Goal Result Feedback B) : Prop :=
  ∀ result f h status h', callsFor hooks result = some f → f.run h = .ok status h' →
    status ≠ .running

/-- What holds where a tick stands: a result that is reported was delivered
in `es`. -/
def DeliveredAt (es : List (SpinEvent Result Feedback)) :
    TickPc → ActionNode Goal Result Feedback B → Prop
  | .start, s => s.status.isActive = true → Quiet s
  | .reporting, s => Quiet s ∨ ∃ i ∈ deliveries es, s.goalHandle = some i
  | .returned .failure, _ | .lost, _ | .raised _, _ => True
  | .returned .running, s => Quiet s
  | .returned _, s => ∃ i ∈ deliveries es, s.reported = some i
  | _, s => Quiet s

/-- While a goal response is awaited, no result is taken over. -/
theorem Quiet.awaits (h : Quiet s) (hspun : Spun s s') {i : GoalId}
    (hfuture : s.futureGoalHandle = some i) : Quiet s' := by
  rcases hspun.result with ⟨_, hresult⟩ | ⟨_, hnone, _⟩
  · rw [Quiet, hresult]
    exact h
  · rw [hnone] at hfuture
    cases hfuture

theorem callsFor_quiet (h : Quiet s) : callsFor hooks s.result = none := by
  have hcode : s.result.code = .unknown := h
  rw [callsFor, hcode]

theorem deliveredAt_move (hconcludes : Concludes hooks) (h : DeliveredAt es pc s)
    (hmove : TickMove hooks es pc s pc' s') : DeliveredAt es pc' s' := by
  cases hmove with
  | resumed hactive => exact h hactive
  | started => exact rfl
  | sentFirst => exact h
  | sentUpdate => exact h
  | taken hfuture hspun =>
    have hquiet := Quiet.awaits h hspun hfuture
    split
    · exact hquiet
    · exact hquiet
  | stillAwaits hfuture hspun => exact Quiet.awaits h hspun hfuture
  | waitsNot => exact .inl h
  | spunToResult _ hears =>
    rcases hears.result with hsame | ⟨i, hi, hheld⟩
    · exact .inl (by rw [Quiet, hsame]; exact h)
    · exact .inr ⟨i, hi, hears.goalHandle.trans hheld⟩
  | spun hspun _ hfalse =>
    rcases hspun.result with ⟨_, hsame⟩ | ⟨htrue, _⟩
    · exact show Quiet _ by rw [Quiet, hsame]; exact h
    · rw [hfalse] at htrue
      cases htrue
  | @reported _ f status hook hf hrun =>
    have hne := hconcludes _ _ _ _ _ hf hrun
    rcases h with hquiet | hdelivered
    · rw [callsFor_quiet hquiet] at hf
      cases hf
    · cases status with
      | running => exact absurd rfl hne
      | failure => trivial
      | _ => exact hdelivered
  | _ => trivial

/-! ## What is handed over -/

/-- `on_wait_for_result()` leaves a goal in `G` as long as `I` holds of the
blackboard, and raises `goal_updated_` if it changes the goal. -/
structure HandsOver (hooks : ActionHooks Goal Result Feedback B) (I : B → Prop)
    (G : Goal → Prop) : Prop where
  keeps : KeepsBoard hooks I
  concludes : Concludes hooks
  onWaitForResult : ∀ feedback h h', (hooks.onWaitForResult feedback).run h = .ok () h' →
    I h.blackboard → G h'.goal ∧
      (h'.goalUpdated = false → h.goalUpdated = false ∧ h'.goal = h.goal)

/-- The client has heard of the end of the goal that the node holds, `i`. -/
def HeldEnded (s : ActionNode Goal Result Feedback B) (i : GoalId) : Prop :=
  s.futureGoalHandle = none ∧ s.goalHandle = some i ∧
    ∃ r, s.requests[i]? = some r ∧ r.endHeard = true

instance HeldEnded.decidable (s : ActionNode Goal Result Feedback B) (i : GoalId) :
    Decidable (HeldEnded s i) :=
  inferInstanceAs (Decidable (_ ∧ _ ∧ ∃ r ∈ s.requests[i]?, r.endHeard = true))

/-- `goal_` is the goal of the request that the node waits for, unless
`goal_updated_` is raised; before its response nothing is heard of it. -/
structure UpToDate (s : ActionNode Goal Result Feedback B) : Prop where
  unheard : ∀ i, s.futureGoalHandle = some i → Unheard s i
  same : s.hook.goalUpdated = false → ∀ (i : GoalId) (r : Request Goal Result),
    s.awaited = some i → s.requests[i]? = some r → r.goal = s.hook.goal

/-- The node waits for a request sent since `s₀`, or for the one that it has
waited for in `s₀`. -/
def WaitsSince (s₀ s : ActionNode Goal Result Feedback B) : Prop :=
  ∀ i, s.awaited = some i →
    s₀.requests.length ≤ i ∨ s₀.status = .running ∧ s₀.awaited = some i

/-- In a tick from `s₀`, the end of a goal that is held was heard of
before. -/
def HeardBefore (s₀ s : ActionNode Goal Result Feedback B) : Prop :=
  ∀ i, HeldEnded s i → s₀.status = .running ∧ HeldEnded s₀ i

/-- The goal held is one in `G`, or its end was heard of before. -/
def HeldIn (G : Goal → Prop) (s₀ s : ActionNode Goal Result Feedback B) : Prop :=
  ∀ (i : GoalId) (r : Request Goal Result), s.goalHandle = some i → s.requests[i]? = some r →
    G r.goal ∨ s₀.status = .running ∧ HeldEnded s₀ i

/-- What holds where a tick from `s₀` stands. -/
def HandOverAt (G : Goal → Prop) (es : List (SpinEvent Result Feedback))
    (s₀ : ActionNode Goal Result Feedback B) : TickPc → ActionNode Goal Result Feedback B → Prop
  | .start, s => s = s₀ ∧ (s.status.isActive = true → UpToDate s)
  | .sending false, s => s.requests.length = s₀.requests.length
  | .sending true, s => G s.hook.goal ∧ s.hook.goalUpdated = false
  | .awaiting update, s => UpToDate s ∧ WaitsSince s₀ s ∧
    (update = true → G s.hook.goal ∧ s.hook.goalUpdated = false)
  | .body, s | .acknowledged, s => UpToDate s ∧ WaitsSince s₀ s ∧ HeardBefore s₀ s
  | .waited, s => UpToDate s ∧ WaitsSince s₀ s ∧ HeardBefore s₀ s ∧ G s.hook.goal
  | .spinning, s => UpToDate s ∧ WaitsSince s₀ s ∧ HeardBefore s₀ s ∧ HeldIn G s₀ s
  | .reporting, s => Quiet s ∨ WaitsSince s₀ s ∧ HeldIn G s₀ s
  | .returned .failure, _ | .lost, _ | .raised _, _ => True
  | .returned .running, s => UpToDate s ∧ WaitsSince s₀ s ∧ ∀ i r, HeldEnded s i →
    s.requests[i]? = some r → (i ∈ endsTold es ∧ G r.goal) ∨ s₀.status = .running ∧ HeldEnded s₀ i
  | .returned _, s => ∀ i, s.reported = some i → ∃ r, s.requests[i]? = some r ∧
    (s₀.requests.length ≤ i ∨ s₀.status = .running ∧ s₀.awaited = some i) ∧
      (G r.goal ∨ s₀.status = .running ∧ HeldEnded s₀ i)

variable {I : B → Prop} {G : Goal → Prop}

/-! ### Sending -/

theorem awaited_send (update : Bool) : (s.send update).awaited = some s.requests.length := rfl

theorem request_send {update : Bool} {r : Request Goal Result}
    (hr : (s.send update).requests[s.requests.length]? = some r) :
    r = Request.new s.hook.goal update := by
  rw [ActionNode.send, List.getElem?_concat_length] at hr
  exact (Option.some.inj hr).symm

theorem upToDate_send (update : Bool) : UpToDate (s.send update) where
  unheard i hi r hr := by
    cases hi
    rw [request_send hr]
    rfl
  same _ i r hi hr := by
    rw [awaited_send] at hi
    cases hi
    rw [request_send hr]
    rfl

theorem waitsSince_send (h : s₀.requests.length ≤ s.requests.length) (update : Bool) :
    WaitsSince s₀ (s.send update) := by
  intro i hi
  rw [awaited_send] at hi
  cases hi
  exact .inl h

theorem heardBefore_of_awaiting {i : GoalId} (hfuture : s.futureGoalHandle = some i) :
    HeardBefore s₀ s := by
  rintro _ ⟨hnone, _⟩
  rw [hfuture] at hnone
  cases hnone

/-! ### Spinning -/

theorem awaited_spun (hspun : Spun s s') : s'.awaited = s.awaited := by
  rw [ActionNode.awaited, hspun.futureGoalHandle, hspun.goalHandle]
  rfl

theorem WaitsSince.of_awaited (h : WaitsSince s₀ s) (hsame : s'.awaited = s.awaited) :
    WaitsSince s₀ s' := fun i hi => h i (hsame.symm.trans hi)

theorem UpToDate.spun (h : UpToDate s) (hspun : Spun s s')
    (hunheard : ∀ i, s.futureGoalHandle = some i → Unheard s' i) : UpToDate s' where
  unheard i hi := hunheard i (hspun.futureGoalHandle.symm.trans hi)
  same hflag i r' hi hr' := by
    obtain ⟨r, hr, hgrow⟩ := grows_of_length hspun.grow hspun.length hr'
    rw [hspun.hook] at hflag ⊢
    rw [hgrow.goal]
    exact h.same hflag i r (by rw [← awaited_spun hspun]; exact hi) hr

theorem HeldIn.spun (h : HeldIn G s₀ s) (hspun : Spun s s') : HeldIn G s₀ s' := by
  intro i r' hi hr'
  obtain ⟨r, hr, hgrow⟩ := grows_of_length hspun.grow hspun.length hr'
  rw [hgrow.goal]
  exact h i r (hspun.goalHandle.symm.trans hi) hr

/-- The response to the request awaited has come; nothing is heard of it
yet. -/
theorem upToDate_taken (s₀ : ActionNode Goal Result Feedback B) {i : GoalId}
    (h : UpToDate s) (hfuture : s.futureGoalHandle = some i)
    (hspun : Spun s s') (hunheard : Unheard s i → Unheard s' i) :
    UpToDate { s' with goalHandle := some i, futureGoalHandle := none } ∧
      HeardBefore s₀ { s' with goalHandle := some i, futureGoalHandle := none } := by
  have hs' : UpToDate s' := h.spun hspun fun j hj => by
    rw [hfuture] at hj
    cases hj
    exact hunheard (h.unheard i hfuture)
  have hawaited : s'.awaited = some i := by
    rw [ActionNode.awaited, hspun.futureGoalHandle, hfuture]
    rfl
  refine ⟨⟨fun j hj => (by cases hj), fun hflag j r hj hr => ?_⟩, ?_⟩
  · cases hj
    exact hs'.same hflag i r hawaited hr
  · rintro j ⟨_, hj, r, hr, hheard⟩
    cases hj
    rw [hunheard (h.unheard i hfuture) r hr] at hheard
    cases hheard

/-- `on_wait_for_result()` has been called. -/
theorem upToDate_waits {h' : HookState Goal B} {feedback : Option Feedback}
    (hdate : UpToDate s) (hsame : h'.goalUpdated = false → s.hook.goalUpdated = false ∧
      h'.goal = s.hook.goal) : UpToDate { s with hook := h', feedback := feedback } where
  unheard := hdate.unheard
  same hflag i r hi hr := by
    obtain ⟨hlowered, hgoal⟩ := hsame hflag
    rw [show _ = s.hook.goal from hgoal]
    exact hdate.same hlowered i r hi hr

/-! ### A tick -/

/-- Where a result is reported, no goal response is awaited. -/
theorem Aligned.future_of_calls {f : HookM Goal B NodeStatus} (h : Aligned base s)
    (hf : callsFor hooks s.result = some f) : s.futureGoalHandle = none := by
  obtain ⟨i, r, _, _, _, ⟨_, _, hcode, _⟩ | ⟨_, hnone, _⟩⟩ := h.follows
  · rw [callsFor, hcode] at hf
    cases hf
  · exact hnone

/-- The goal held is one that was sent. -/
theorem Aligned.held (h : Aligned base s) (hnone : s.futureGoalHandle = none) {i : GoalId}
    (hi : s.goalHandle = some i) : ∃ r, s.requests[i]? = some r := by
  obtain ⟨j, r, hr, _, _, ⟨_, hawaited, _⟩ | ⟨_, _, hheld, _⟩⟩ := h.follows
  · rw [ActionNode.awaited, hnone, hi] at hawaited
    cases hawaited
    exact ⟨r, hr⟩
  · cases hheld i hi
    exact ⟨r, hr⟩

/-- The response to the request awaited has come: the goal of an update is
the wanted one. -/
theorem handOverAt_taken {update : Bool} {i : GoalId} (h : HandOverAt G es s₀ (.awaiting update) s)
    (hfuture : s.futureGoalHandle = some i) (hspun : Spun s s')
    (hunheard : Unheard s i → Unheard s' i) :
    HandOverAt G es s₀ (if update then .spinning else .acknowledged)
      { s' with goalHandle := some i, futureGoalHandle := none } := by
  obtain ⟨hdate, hwaits, hupdate⟩ := h
  obtain ⟨hdate', hheard⟩ := upToDate_taken s₀ hdate hfuture hspun hunheard
  have hwaits' : WaitsSince s₀ { s' with goalHandle := some i, futureGoalHandle := none } := by
    apply hwaits.of_awaited
    rw [ActionNode.awaited, ActionNode.awaited, hfuture]
    rfl
  cases update with
  | false => exact ⟨hdate', hwaits', hheard⟩
  | true =>
    obtain ⟨hgoal, hflag⟩ := hupdate rfl
    rw [← hspun.hook] at hgoal hflag
    refine ⟨hdate', hwaits', hheard, ?_⟩
    intro j r hj hr
    rw [hdate'.same hflag j r hj hr]
    exact .inl hgoal

/-- A goal that is not sent again is the wanted one, or has ended. -/
theorem heldIn_keeps {i : GoalId} (hfuture : s.futureGoalHandle = none) (hdate : UpToDate s)
    (hheard : HeardBefore s₀ s) (hgoal : G s.hook.goal) (hhandle : s.goalHandle = some i)
    (hkeeps : s.hook.goalUpdated = false ∨ EndHeard s i) : HeldIn G s₀ s := by
  intro j r hj hr
  rcases hkeeps with hflag | hended
  · have hawaited : s.awaited = some j := by
      rw [ActionNode.awaited, hfuture]
      exact hj
    rw [hdate.same hflag j r hawaited hr]
    exact .inl hgoal
  · rw [hhandle] at hj
    cases hj
    exact .inr (hheard _ ⟨hfuture, hhandle, r, hr, hended r hr⟩)

/-- An end that is heard of while spinning is that of a goal in `G`, or was
heard of before. -/
theorem heldEnded_spun (hfuture : s.futureGoalHandle = none) (hheard : HeardBefore s₀ s)
    (hheld : HeldIn G s₀ s) (hspun : Spun s s') (hears : Hears es s s') {i : GoalId}
    {r : Request Goal Result} (hi : HeldEnded s' i) (hr : s'.requests[i]? = some r) :
    (i ∈ endsTold es ∧ G r.goal) ∨ s₀.status = .running ∧ HeldEnded s₀ i := by
  obtain ⟨_, hhandle, r₁, hr₁, hended⟩ := hi
  have hhandle' : s.goalHandle = some i := hears.goalHandle.symm.trans hhandle
  rcases hears.ended i r₁ hr₁ hended with ⟨r₂, hr₂, hold⟩ | htold
  · exact .inr (hheard i ⟨hfuture, hhandle', r₂, hr₂, hold⟩)
  · exact (hheld.spun hspun i r hhandle hr).imp (fun hG => ⟨htold, hG⟩) id

/-- The goal whose result is reported. -/
theorem reported_since {f : HookM Goal B NodeStatus} (halong : Aligned base s)
    (hf : callsFor hooks s.result = some f)
    (h : Quiet s ∨ WaitsSince s₀ s ∧ HeldIn G s₀ s) {i : GoalId} (hi : s.goalHandle = some i) :
    ∃ r, s.requests[i]? = some r ∧
      (s₀.requests.length ≤ i ∨ s₀.status = .running ∧ s₀.awaited = some i) ∧
        (G r.goal ∨ s₀.status = .running ∧ HeldEnded s₀ i) := by
  have hnone := halong.future_of_calls hf
  rcases h with hquiet | ⟨hwaits, hheld⟩
  · rw [callsFor_quiet hquiet] at hf
    cases hf
  · obtain ⟨r, hr⟩ := halong.held hnone hi
    have hawaited : s.awaited = some i := by
      rw [ActionNode.awaited, hnone]
      exact hi
    exact ⟨r, hr, hwaits i hawaited, hheld i r hi hr⟩

theorem handOverAt_move (hands : HandsOver hooks I G) (halong : Along base pc s)
    (hdelivered : DeliveredAt es pc s) (hgrown : Grown s₀ s) (hI : I s.hook.blackboard)
    (h : HandOverAt G es s₀ pc s) (hmove : TickMove hooks es pc s pc' s') :
    HandOverAt G es s₀ pc' s' := by
  cases hmove with
  | resumed hactive =>
    obtain ⟨rfl, hdate⟩ := h
    have hrunning := (halong.2.1 hactive).1
    exact ⟨hdate hactive, fun i hi => .inr ⟨hrunning, hi⟩, fun i hi => ⟨hrunning, hi⟩⟩
  | started =>
    obtain ⟨rfl, _⟩ := h
    exact rfl
  | sentFirst =>
    exact ⟨upToDate_send false, waitsSince_send (Nat.le_of_eq h.symm) false,
      heardBefore_of_awaiting rfl⟩
  | sentUpdate =>
    exact ⟨upToDate_send true, waitsSince_send hgrown.2.length_le true, fun _ => h⟩
  | awaits => exact ⟨h.1, h.2.1, nofun⟩
  | goesOn => exact h
  | taken hfuture hspun _ hunheard => exact handOverAt_taken h hfuture hspun hunheard
  | @stillAwaits _ s' update i hfuture hspun hunheard =>
    refine ⟨h.1.spun hspun fun j hj => ?_, h.2.1.of_awaited (awaited_spun hspun), fun j r hj => ?_⟩
    · rw [hfuture] at hj
      cases hj
      exact hunheard (h.1.unheard i hfuture)
    · have hnone := hj.1
      rw [hspun.futureGoalHandle, hfuture] at hnone
      cases hnone
  | waits _ hrun =>
    obtain ⟨hgoal, hsame⟩ := hands.onWaitForResult _ _ _ hrun hI
    exact ⟨upToDate_waits h.1 hsame, h.2.1, h.2.2, hgoal⟩
  | waitsNot => exact .inl hdelivered
  | updates => exact ⟨h.2.2.2, rfl⟩
  | keeps hhandle hkeeps =>
    obtain ⟨hdate, hwaits, hheard, hgoal⟩ := h
    exact ⟨hdate, hwaits, hheard, heldIn_keeps halong.2.1 hdate hheard hgoal hhandle hkeeps⟩
  | spunToResult hspun =>
    exact .inr ⟨h.2.1.of_awaited (awaited_spun hspun), h.2.2.2.spun hspun⟩
  | spun hspun hears =>
    obtain ⟨hdate, hwaits, hheard, hheld⟩ := h
    have hdate' : UpToDate s' := hdate.spun hspun fun i hi => by
      rw [halong.2] at hi
      cases hi
    exact ⟨hdate', hwaits.of_awaited (awaited_spun hspun),
      fun _ _ hi hr => heldEnded_spun halong.2 hheard hheld hspun hears hi hr⟩
  | @reported _ f status hook hf hrun =>
    have hne := hands.concludes _ _ _ _ _ hf hrun
    cases status with
    | running => exact absurd rfl hne
    | failure => trivial
    | _ => exact fun _ => reported_since halong hf h
  | _ => trivial

/-- What is reported in a tick has been delivered in it. -/
theorem TickRun.delivered (h : TickRun hooks es (.start, s) (pc', s'))
    (hconcludes : Concludes hooks) (hquiet : s.status.isActive = true → Quiet s) :
    DeliveredAt es pc' s' :=
  h.invariant (I := DeliveredAt es) hquiet fun _ _ _ _ hdelivered hmove =>
    deliveredAt_move hconcludes hdelivered hmove

/-- **A goal is handed over** within the tick, or the end of the one before
has been heard of before the tick. -/
theorem TickRun.handsOver (h : TickRun hooks es (.start, s) (pc', s'))
    (hands : HandsOver hooks I G) (halong : Along base .start s) (hI : I s.hook.blackboard)
    (hstart : s.status.isActive = true → Quiet s ∧ UpToDate s) : HandOverAt G es s pc' s' := by
  have hall := h.invariant (I := fun pc s' => (Along base pc s' ∧ DeliveredAt es pc s') ∧
    (Grown s s' ∧ I s'.hook.blackboard) ∧ HandOverAt G es s pc s')
    ⟨⟨halong, fun hactive => (hstart hactive).1⟩, ⟨⟨halong.1, .refl _⟩, hI⟩, rfl,
      fun hactive => (hstart hactive).2⟩ ?_
  · exact hall.2.2
  · rintro _ _ _ _ ⟨⟨hal, hdelivered⟩, ⟨hgrown, hboard⟩, hover⟩ hmove
    have hgrown' := hmove.grown hgrown.1
    exact ⟨⟨along_move hal hmove, deliveredAt_move hands.concludes hdelivered hmove⟩,
      ⟨⟨hgrown'.1, hgrown.2.trans hgrown'.2⟩, keepsBoard_move hands.keeps hboard hmove⟩,
      handOverAt_move hands hal hdelivered hgrown hboard hover hmove⟩

end Nav3D.BehaviorTree

/-
Nav3D.BehaviorTree.ActionNodeSettled — which goals a `BtActionNode` leaves
running when it leaves RUNNING.

A goal is settled when nothing has to be done about it any more
(`Settled`). The node knows of at most two goals: the one it holds
(`goal_handle_`), which stands for every earlier one, and the one it waits
for (`future_goal_handle_`). It forgets the second one in four places: when
the goal response does not come in time, when the wait is interrupted, when
it is halted while it waits, and, the other way round, it forgets the first
one when an updated goal is rejected. In a run without these every goal is
settled whenever the node is not running (`leaves_no_goal_running`).
-/
import Nav3D.BehaviorTree.ActionNodeKept

namespace Nav3D.BehaviorTree

open Nav3D.Ros StateInvariant Transition.System
open BT (NodeStatus)

variable {Goal Result Feedback B : Type}

/-! ## Settled goals -/

/-- Request `i` has been rejected, has reached a terminal state, has had a
cancel request sent for it, or has been superseded by a later goal that is
settled itself. -/
inductive Settled (rs : List (Request Goal Result)) : GoalId → Prop
  | rejected {i r} : rs[i]? = some r → r.accepted = some false → Settled rs i
  | terminal {i r} : rs[i]? = some r → r.terminal = true → Settled rs i
  | cancelRequested {i r} : rs[i]? = some r → r.cancelRequested = true → Settled rs i
  | superseded {i j r} : i < j → rs[j]? = some r → r.accepted = some true → Settled rs j →
      Settled rs i

theorem Settled.grow {rs rs' : List (Request Goal Result)} (hgrow : RequestsGrow rs rs')
    {i : GoalId} (h : Settled rs i) : Settled rs' i := by
  induction h with
  | rejected hr hacc =>
    obtain ⟨r', hr', hg⟩ := hgrow _ _ hr
    exact .rejected hr' (hg.accepted _ hacc)
  | terminal hr hterm =>
    obtain ⟨r', hr', hg⟩ := hgrow _ _ hr
    exact .terminal hr' (hg.terminal hterm)
  | cancelRequested hr hc =>
    obtain ⟨r', hr', hg⟩ := hgrow _ _ hr
    exact .cancelRequested hr' (hg.cancelRequested hc)
  | superseded hlt hr hacc _ ih =>
    obtain ⟨r', hr', hg⟩ := hgrow _ _ hr
    exact .superseded hlt hr' (hg.accepted _ hacc) ih

/-- Every request is settled. -/
def AllSettled (rs : List (Request Goal Result)) : Prop := ∀ i < rs.length, Settled rs i

theorem AllSettled.grow {rs rs' : List (Request Goal Result)} (hgrow : RequestsGrow rs rs')
    (hlength : rs'.length = rs.length) (h : AllSettled rs) : AllSettled rs' :=
  fun i hi => (h i (hlength ▸ hi)).grow hgrow

/-! ## The invariant -/

/-- The node knows of every goal that is not settled. -/
structure Covered (s : ActionNode Goal Result Feedback B) : Prop where
  /-- A goal that is not settled is waited for, or is not later than the
  goal held. -/
  covered : ∀ i < s.requests.length, Settled s.requests i ∨ s.futureGoalHandle = some i ∨
    ∃ h, s.goalHandle = some h ∧ i ≤ h
  /-- The goal held has been accepted. -/
  held : ∀ h, s.goalHandle = some h → ∃ r, s.requests[h]? = some r ∧ r.accepted = some true

/-- The bookkeeping of the node about its goals. -/
structure Tracked (s : ActionNode Goal Result Feedback B) : Prop extends Covered s where
  /-- The goal that is waited for is the last one. -/
  last : ∀ j, s.futureGoalHandle = some j → j + 1 = s.requests.length
  /-- The goals before a first goal are settled. -/
  first : ∀ (j : GoalId) (r : Request Goal Result), s.futureGoalHandle = some j →
    s.requests[j]? = some r → r.update = false → ∀ i < j, Settled s.requests i
  /-- A result is available only when everything is settled. -/
  done : s.goalResultAvailable = true → s.futureGoalHandle = none ∧ AllSettled s.requests
  quiet : s.goalResultAvailable = false → s.result.code = .unknown

/-- The node has nothing left to do. -/
def AtRest (s : ActionNode Goal Result Feedback B) : Prop :=
  Kept s.requests → s.futureGoalHandle = none ∧ AllSettled s.requests

/-- The invariant of a node at any time. -/
structure Sound (s : ActionNode Goal Result Feedback B) : Prop where
  valid : RequestsValid s.requests
  tracked : Kept s.requests → Tracked s

/-- The invariant of a node between calls. -/
structure SoundNode (s : ActionNode Goal Result Feedback B) : Prop extends Sound s where
  rest : s.status ≠ .running → AtRest s

/-- If the goal held is settled, and no other is waited for, all goals are. -/
theorem Covered.allSettled {s : ActionNode Goal Result Feedback B} (h : Covered s)
    (hfuture : s.futureGoalHandle = none)
    (hheld : ∀ i, s.goalHandle = some i → Settled s.requests i) : AllSettled s.requests := by
  intro i hi
  rcases h.covered i hi with hs | hf | ⟨j, hj, hij⟩
  · exact hs
  · rw [hfuture] at hf; cases hf
  · rcases Nat.eq_or_lt_of_le hij with rfl | hlt
    · exact hheld i hj
    · -- an earlier goal is superseded by the one held
      obtain ⟨r, hr, hacc⟩ := h.held j hj
      exact .superseded hlt hr hacc (hheld j hj)

/-! ## Spins keep it -/

theorem Covered.spun {s s' : ActionNode Goal Result Feedback B} (h : Covered s)
    (hspun : Spun s s') : Covered s' where
  covered i hi := by
    rw [hspun.length] at hi
    rw [hspun.futureGoalHandle, hspun.goalHandle]
    exact (h.covered i hi).imp_left (·.grow hspun.grow)
  held i hi := by
    obtain ⟨r, hr, hacc⟩ := h.held i (hspun.goalHandle ▸ hi)
    obtain ⟨r', hr', hg⟩ := hspun.grow i r hr
    exact ⟨r', hr', hg.accepted _ hacc⟩

theorem Tracked.spun {s s' : ActionNode Goal Result Feedback B} (h : Tracked s)
    (hspun : Spun s s') : Tracked s' where
  toCovered := h.toCovered.spun hspun
  last j hj := by rw [hspun.length]; exact h.last j (hspun.futureGoalHandle ▸ hj)
  first j r hj hr hupdate i hi := by
    rw [hspun.futureGoalHandle] at hj
    have hlt : j < s.requests.length := Nat.lt_of_lt_of_eq (Nat.lt_succ_self j) (h.last j hj)
    obtain ⟨r', hr', hg⟩ := hspun.grow j _ (List.getElem?_eq_getElem hlt)
    rw [hr] at hr'
    cases hr'
    exact (h.first j _ hj (List.getElem?_eq_getElem hlt) (hg.update.symm.trans hupdate) i hi).grow
      hspun.grow
  done ha := by
    rcases hspun.result with ⟨hsame, _⟩ | ⟨_, hfut, i, r, expired, hi, hr, hterm, _⟩
    · obtain ⟨hfut, hall⟩ := h.done (hsame ▸ ha)
      exact ⟨hspun.futureGoalHandle.trans hfut, hall.grow hspun.grow hspun.length⟩
    · -- the goal held is terminal now
      have hfut' := hspun.futureGoalHandle.trans hfut
      refine ⟨hfut', (h.toCovered.spun hspun).allSettled hfut' fun j hj => ?_⟩
      rw [hspun.goalHandle, hi] at hj
      cases hj
      exact .terminal hr hterm
  quiet ha := by
    rcases hspun.result with ⟨hsame, hres⟩ | ⟨htrue, _⟩
    · rw [hres]; exact h.quiet (hsame ▸ ha)
    · rw [ha] at htrue; cases htrue

theorem Sound.spun {s s' : ActionNode Goal Result Feedback B} (h : Sound s)
    (hspun : Spun s s') : Sound s' :=
  ⟨hspun.valid, fun hkept => (h.tracked (hkept.of_grow hspun.grow)).spun hspun⟩

theorem AtRest.spun {s s' : ActionNode Goal Result Feedback B} (h : AtRest s)
    (hspun : Spun s s') : AtRest s' := by
  intro hkept
  obtain ⟨hfut, hall⟩ := h (hkept.of_grow hspun.grow)
  exact ⟨hspun.futureGoalHandle.trans hfut, hall.grow hspun.grow hspun.length⟩

theorem SoundNode.spun {s s' : ActionNode Goal Result Feedback B} (h : SoundNode s)
    (hspun : Spun s s') : SoundNode s' where
  toSound := h.toSound.spun hspun
  rest hst := (h.rest (hspun.status ▸ hst)).spun hspun

/-- The invariant looks at the requests, the two handles and the result. -/
theorem Sound.congr {s s' : ActionNode Goal Result Feedback B} (h : Sound s)
    (hrequests : s'.requests = s.requests) (hfuture : s'.futureGoalHandle = s.futureGoalHandle)
    (hhandle : s'.goalHandle = s.goalHandle)
    (havailable : s'.goalResultAvailable = s.goalResultAvailable)
    (hresult : s'.result = s.result) : Sound s' := by
  refine ⟨hrequests ▸ h.valid, fun hkept => ?_⟩
  obtain ⟨⟨hcovered, hheld⟩, hlast, hfirst, hdone, hquiet⟩ := h.tracked (hrequests ▸ hkept)
  refine ⟨⟨?_, ?_⟩, ?_, ?_, ?_, ?_⟩
  · rw [hrequests, hfuture, hhandle]; exact hcovered
  · rw [hrequests, hhandle]; exact hheld
  · rw [hrequests, hfuture]; exact hlast
  · rw [hrequests, hfuture]; exact hfirst
  · rw [hrequests, hfuture, havailable]; exact hdone
  · rw [havailable, hresult]; exact hquiet

/-- A node at rest holds no goal that it must know of. -/
theorem Sound.of_atRest {s : ActionNode Goal Result Feedback B}
    (hvalid : RequestsValid s.requests) (hrest : AtRest s)
    (hhandle : s.goalHandle = none)
    (hquiet : Kept s.requests → s.goalResultAvailable = false → s.result.code = .unknown) :
    Sound s := by
  refine ⟨hvalid, fun hkept => ?_⟩
  obtain ⟨hfut, hall⟩ := hrest hkept
  refine ⟨⟨fun i hi => .inl (hall i hi), fun i hi => ?_⟩, fun j hj => ?_, fun j _ hj => ?_,
    fun _ => ⟨hfut, hall⟩, hquiet hkept⟩
  · rw [hhandle] at hi; cases hi
  · rw [hfut] at hj; cases hj
  · rw [hfut] at hj; cases hj

/-- Once a goal has been given up, nothing is promised. -/
theorem Sound.of_not_kept {s : ActionNode Goal Result Feedback B}
    (hvalid : RequestsValid s.requests) (h : ¬ Kept s.requests) : Sound s :=
  ⟨hvalid, fun hkept => absurd hkept h⟩

theorem AtRest.of_not_kept {s : ActionNode Goal Result Feedback B} (h : ¬ Kept s.requests) :
    AtRest s := fun hkept => absurd hkept h

/-! ## The acknowledgement -/

/-- `s'` is reached from `s` within a call that keeps the status. -/
structure Within (s s' : ActionNode Goal Result Feedback B) : Prop extends Sound s' where
  status : s'.status = s.status
  grow : RequestsGrow s.requests s'.requests

theorem Within.trans {s s' s'' : ActionNode Goal Result Feedback B} (h : Within s s')
    (h' : Within s' s'') : Within s s'' :=
  ⟨h'.toSound, h'.status.trans h.status, h.grow.trans h'.grow⟩

theorem Within.of_spun {s s' : ActionNode Goal Result Feedback B} (h : Sound s)
    (hspun : Spun s s') : Within s s' :=
  ⟨h.spun hspun, hspun.status, hspun.grow⟩

/-- A call throws where the node is at rest, or crashes. -/
def RaisedAtRest (e : ActionFailure) (s : ActionNode Goal Result Feedback B) : Prop :=
  e = .nullDeref ∨ Sound s ∧ AtRest s

/-- The future is given up: the node is not kept any more. -/
theorem abandonFuture_spec {s : ActionNode Goal Result Feedback B} (h : Sound s)
    (hlost : s.futureGoalHandle.isSome = true ∨ ¬ Kept s.requests) :
    Triple (· = s) abandonFuture (fun _ s' => Within s s' ∧ ¬ Kept s'.requests)
      (fun _ _ => False) := by
  refine triple_modify fun s₁ hs₁ => ?_
  subst hs₁
  cases hfut : s₁.futureGoalHandle with
  | none =>
    rw [hfut] at hlost
    have hnot := hlost.resolve_left Bool.false_ne_true
    exact ⟨⟨h, rfl, .refl _⟩, hnot⟩
  | some i =>
    have hgrow : RequestsGrow s₁.requests (s₁.requests.modify i Request.abandon) :=
      requestsGrow_modify fun r _ => r.grows_abandon
    have hnot : ¬ Kept (s₁.requests.modify i Request.abandon) := by
      intro hkept
      have hlt : i < s₁.requests.length :=
        Nat.lt_of_lt_of_eq (Nat.lt_succ_self i) ((h.tracked (hkept.of_grow hgrow)).last i hfut)
      obtain ⟨r, hr⟩ : ∃ r, s₁.requests[i]? = some r := ⟨_, List.getElem?_eq_getElem hlt⟩
      have hmem : r.abandon ∈ s₁.requests.modify i Request.abandon :=
        List.mem_of_getElem? (i := i) (by rw [List.getElem?_modify, hr]; simp)
      have habandoned := (hkept r.abandon hmem).1
      cases habandoned
    exact ⟨⟨.of_not_kept (requestsValid_modify h.valid fun _ hr => hr.abandon) hnot, rfl, hgrow⟩,
      hnot⟩

/-- The future is read: an accepted goal is held from now on, a rejected
first goal leaves the node at rest. -/
theorem takeGoalHandle_spec {s : ActionNode Goal Result Feedback B} {i : GoalId} (h : Sound s)
    (hfut : s.futureGoalHandle = some i) (hack : Acknowledged s i) :
    Triple (· = s) (takeGoalHandle i)
      (fun _ s' => Within s s' ∧ s'.futureGoalHandle = none) RaisedAtRest := by
  refine triple_get_bind fun s₁ hs₁ => ?_
  subst hs₁
  obtain ⟨r, hr, hrack⟩ := (Option.any_eq_true _ _).mp hack
  obtain ⟨b, hb⟩ := Option.isSome_iff_exists.mp ((h.valid i r hr).acknowledged hrack)
  have haccepted : s₁.requests[i]?.any (·.accepted == some true) = b := by
    rw [hr, Option.any_some, hb]
    cases b <;> rfl
  rw [haccepted]
  refine triple_bind (Q := fun _ s' => s' = { s₁ with
    goalHandle := if b then some i else none, futureGoalHandle := none })
    (triple_modify fun s hs => by rw [hs]) fun _ => ?_
  cases b with
  | true =>
    refine triple_pure ?_
    rintro _ rfl
    refine ⟨⟨⟨h.valid, fun hkept => ?_⟩, rfl, .refl _⟩, rfl⟩
    have ht := h.tracked hkept
    refine ⟨⟨fun k hk => ?_, ?_⟩, ?_, ?_, fun ha => ?_, ht.quiet⟩
    · -- the goal is the last one
      exact .inr (.inr ⟨i, rfl, Nat.le_of_lt_succ (Nat.lt_of_lt_of_eq hk (ht.last i hfut).symm)⟩)
    · rintro _ ⟨rfl⟩
      exact ⟨r, hr, hb⟩
    · rintro _ ⟨⟩
    · rintro _ _ ⟨⟩
    · have hnone := (ht.done ha).1
      rw [hfut] at hnone
      cases hnone
  | false =>
    refine triple_throw ?_
    rintro _ rfl
    have hrest : AtRest ({ s₁ with goalHandle := none, futureGoalHandle := none } :
        ActionNode Goal Result Feedback B) := by
      intro hkept
      have ht := h.tracked hkept
      refine ⟨rfl, fun k hk => ?_⟩
      have hfirst : r.update = false := by
        cases hu : r.update with
        | false => rfl
        | true => exact absurd hb ((hkept r (List.mem_of_getElem? hr)).2 hu)
      rcases Nat.eq_or_lt_of_le
        (Nat.le_of_lt_succ (Nat.lt_of_lt_of_eq hk (ht.last i hfut).symm)) with rfl | hlt
      · exact .rejected hr hb
      · exact ht.first i r hfut hr hfirst k hlt
    exact .inr ⟨.of_atRest h.valid hrest rfl fun hkept => (h.tracked hkept).quiet, hrest⟩

/-- `is_future_goal_handle_complete()`: if it is not complete, the future is
still there or has been given up. -/
theorem isFutureGoalHandleComplete_spec {params : ActionParams}
    {a : Acknowledgement Result Feedback} {s : ActionNode Goal Result Feedback B} (h : Sound s)
    (hfut : s.futureGoalHandle.isSome = true) :
    Triple (· = s) (isFutureGoalHandleComplete params a)
      (fun out s' => Within s s' ∧ (out.1 = true → s'.futureGoalHandle = none) ∧
        (out.1 = false → s'.futureGoalHandle.isSome = true ∨ ¬ Kept s'.requests))
      RaisedAtRest := by
  refine triple_ite (fun _ => ?_) (fun _ => triple_get_bind fun s₁ hs₁ => ?_)
  · refine triple_bind (triple_total (abandonFuture_spec h (.inl hfut)))
      fun _ => triple_pure fun s' hs' => ?_
    exact ⟨hs'.1, fun hf => (Bool.false_ne_true hf).elim, fun _ => .inr hs'.2⟩
  · subst hs₁
    split
    · exact triple_throw fun _ _ => .inl rfl
    · next i hi =>
      refine triple_bind (triple_conseq (spinUntilResponse_spec i a.spin h.valid) (fun _ hs => hs)
        (fun _ _ hs => hs) (fun _ _ he => .inl he)) fun complete => ?_
      refine triple_start fun s₂ ⟨hspun, hack⟩ => ?_
      have hwithin := Within.of_spun h hspun
      have hi' := hspun.futureGoalHandle.trans hi
      refine triple_ite (fun hcomplete => ?_) (fun hcomplete => ?_)
      · refine triple_bind (takeGoalHandle_spec hwithin.toSound hi' (hack hcomplete)) fun _ =>
          triple_pure fun s' hs' => ?_
        exact ⟨hwithin.trans hs'.1, fun _ => hs'.2, fun hf => Bool.noConfusion hf⟩
      · refine triple_ite (fun _ => ?_) (fun _ => triple_pure ?_)
        · refine triple_bind (triple_total
            (abandonFuture_spec hwithin.toSound (.inl (by rw [hi']; rfl))))
            fun _ => triple_throw fun s' hs' => ?_
          exact .inr ⟨hs'.1.toSound, .of_not_kept hs'.2⟩
        · rintro _ rfl
          exact ⟨hwithin, fun hf => Bool.noConfusion hf, fun _ => .inl (by rw [hi']; rfl)⟩

/-- Where `tick()` returns early, it returns RUNNING or the node is at rest. -/
def ReturnsAtRest (early : Option NodeStatus) (s : ActionNode Goal Result Feedback B) : Prop :=
  ∀ status, early = some status → status = .running ∨ AtRest s

theorem returnsAtRest_none {s : ActionNode Goal Result Feedback B} : ReturnsAtRest none s :=
  fun _ h => by cases h

theorem returnsAtRest_running {s : ActionNode Goal Result Feedback B} :
    ReturnsAtRest (some .running) s :=
  fun _ h => .inl (Option.some.inj h).symm

theorem AtRest.returns {s : ActionNode Goal Result Feedback B} (h : AtRest s)
    {early : Option NodeStatus} : ReturnsAtRest early s :=
  fun _ _ => .inr h

theorem Sound.withHook {s : ActionNode Goal Result Feedback B} (h : Sound s)
    (hook : HookState Goal B) : Sound { s with hook := hook } :=
  h.congr rfl rfl rfl rfl rfl

/-- The wait for the goal response. -/
theorem awaitAcknowledgement_spec {hooks : ActionHooks Goal Result Feedback B}
    {params : ActionParams} {a : Acknowledgement Result Feedback}
    {s : ActionNode Goal Result Feedback B} (h : Sound s)
    (hfut : s.futureGoalHandle.isSome = true) :
    Triple (· = s) (awaitAcknowledgement hooks params a)
      (fun early s' => Within s s' ∧ (early = none → s'.futureGoalHandle = none) ∧
        ReturnsAtRest early s') RaisedAtRest := by
  refine triple_bind (isFutureGoalHandleComplete_spec h hfut) fun out => ?_
  refine triple_start fun s₁ ⟨hwithin, hcomplete, hpending⟩ => ?_
  refine triple_ite (fun hc => triple_pure ?_) (fun hc => ?_)
  · rintro _ rfl
    exact ⟨hwithin, fun _ => hcomplete hc, returnsAtRest_none⟩
  · refine triple_ite (fun _ => triple_pure ?_) (fun _ => ?_)
    · rintro _ rfl
      exact ⟨hwithin, (fun hn => by cases hn), returnsAtRest_running⟩
    · have hlost := hpending (Bool.eq_false_iff.mpr hc)
      refine triple_bind (triple_total (abandonFuture_spec hwithin.toSound hlost)) fun _ => ?_
      refine triple_bind (triple_conseq (callHook_spec (P := fun s' => Within s₁ s' ∧
        ¬ Kept s'.requests) (fun s' hook hs' => ?_) hooks.onTimeout) (fun _ hs => hs)
        (fun _ _ hs => hs) (fun e s' he => ?_)) fun _ => triple_pure fun s' hs' => ?_
      · exact ⟨⟨hs'.1.toSound.withHook hook, hs'.1.status, hs'.1.grow⟩, hs'.2⟩
      · exact .inr ⟨he.2.1.toSound, .of_not_kept he.2.2⟩
      · exact ⟨hwithin.trans hs'.1, (fun hn => by cases hn), (AtRest.of_not_kept hs'.2).returns⟩

/-! ## `tick()` -/

/-- A goal is sent when none is waited for. A first goal is sent only when
the node is at rest. -/
theorem sendNewGoal_spec {update : Bool} {s : ActionNode Goal Result Feedback B} (h : Sound s)
    (hfut : Kept s.requests → s.futureGoalHandle = none)
    (hfirst : update = false → AtRest s) (hquiet : Kept s.requests → s.result.code = .unknown) :
    Triple (· = s) (sendNewGoal update)
      (fun _ s' => Within s s' ∧ s'.futureGoalHandle.isSome = true) (fun _ _ => False) := by
  refine triple_modify fun s₁ hs₁ => ?_
  subst hs₁
  have hgrow := requestsGrow_append s₁.requests (Request.new s₁.hook.goal update)
  refine ⟨⟨⟨requestsValid_append h.valid (Request.valid_new _ _), fun hkept => ?_⟩, rfl, hgrow⟩,
    rfl⟩
  have hkept₁ := hkept.of_grow hgrow
  have ht := h.tracked hkept₁
  refine ⟨⟨fun i hi => ?_, fun j hj => ?_⟩, ?_, ?_, fun ha => Bool.noConfusion ha,
    fun _ => hquiet hkept₁⟩
  · rw [List.length_append, List.length_singleton] at hi
    rcases Nat.lt_succ_iff_lt_or_eq.mp hi with hlt | rfl
    · rcases ht.covered i hlt with hs | hf | hheld
      · exact .inl (hs.grow hgrow)
      · rw [hfut hkept₁] at hf; cases hf
      · exact .inr (.inr hheld)
    · exact .inr (.inl rfl)
  · obtain ⟨r, hr, hacc⟩ := ht.held j hj
    obtain ⟨r', hr', hg⟩ := hgrow j r hr
    exact ⟨r', hr', hg.accepted _ hacc⟩
  · rintro j ⟨rfl⟩
    rw [List.length_append, List.length_singleton]
  · rintro j r ⟨rfl⟩ hr hupdate i hi
    rw [List.getElem?_concat_length] at hr
    cases hr
    exact ((hfirst hupdate hkept₁).2 i hi).grow hgrow

/-- The part that sends an updated goal. -/
theorem updateGoal_spec {hooks : ActionHooks Goal Result Feedback B} {params : ActionParams}
    {a : Acknowledgement Result Feedback} {goalStatus : GoalStatus}
    {s : ActionNode Goal Result Feedback B} (h : Sound s)
    (hfut : Kept s.requests → s.futureGoalHandle = none)
    (hquiet : Kept s.requests → s.result.code = .unknown) :
    Triple (· = s) (updateGoal hooks params a goalStatus)
      (fun early s' => Sound s' ∧ ReturnsAtRest early s') RaisedAtRest := by
  refine triple_get_bind fun s₁ hs₁ => ?_
  subst hs₁
  refine triple_ite (fun _ => ?_) (fun _ => triple_pure ?_)
  · refine triple_bind (Q := fun _ s' => s' =
      { s₁ with hook := { s₁.hook with goalUpdated := false } })
      (triple_modify fun s hs => by rw [hs]) fun _ => ?_
    refine triple_bind (triple_total (sendNewGoal_spec
      (h.withHook { s₁.hook with goalUpdated := false }) hfut (fun hu => Bool.noConfusion hu)
      hquiet)) fun _ => ?_
    refine triple_start fun s₂ ⟨hwithin, hsome⟩ => ?_
    exact triple_post (awaitAcknowledgement_spec hwithin.toSound hsome)
      (fun _ _ hs => ⟨hs.1.toSound, hs.2.2⟩)
  · rintro _ rfl
    exact ⟨h, returnsAtRest_none⟩

/-- How `tick()` may throw: the node is still sound, and at rest when it was
not RUNNING. -/
def RaisedSound (e : ActionFailure) (s : ActionNode Goal Result Feedback B) : Prop :=
  e = .nullDeref ∨ SoundNode s

/-- How the `try` block may throw: what is caught leaves the node at rest. -/
def RaisedByBody (e : ActionFailure) (s : ActionNode Goal Result Feedback B) : Prop :=
  e = .nullDeref ∨ SoundNode s ∧ (e = .sendGoalFailed ∨ e = .goalRejected → AtRest s)

theorem raisedByBody_of_atRest {e : ActionFailure} {s : ActionNode Goal Result Feedback B}
    (h : RaisedAtRest e s) : RaisedByBody e s :=
  h.imp_right fun ⟨hsound, hrest⟩ => ⟨⟨hsound, fun _ => hrest⟩, fun _ => hrest⟩

theorem SoundNode.withHook {s : ActionNode Goal Result Feedback B} (h : SoundNode s)
    (hook : HookState Goal B) : SoundNode { s with hook := hook } :=
  ⟨h.toSound.withHook hook, h.rest⟩

/-- The part that waits for the result. It returns none only when a result
is available. -/
theorem waitForResult_spec {hooks : ActionHooks Goal Result Feedback B} {params : ActionParams}
    {input : TickInput Result Feedback} {s : ActionNode Goal Result Feedback B}
    (h : SoundNode s) (hfut : Kept s.requests → s.futureGoalHandle = none)
    (havailable : s.goalResultAvailable = false) :
    Triple (· = s) (waitForResult hooks params input)
      (fun early s' => Sound s' ∧ (early = none → AtRest s') ∧ ReturnsAtRest early s')
      RaisedByBody := by
  refine triple_get_bind fun s₁ hs₁ => ?_
  subst hs₁
  -- what holds until a goal is sent
  let I : ActionNode Goal Result Feedback B → Prop := fun s' => SoundNode s' ∧
    (Kept s'.requests → s'.futureGoalHandle = none) ∧ s'.goalResultAvailable = false
  refine triple_bind (triple_conseq (callHook_spec (P := I)
    (fun s' hook hs' => ⟨hs'.1.withHook hook, hs'.2⟩) (hooks.onWaitForResult s₁.feedback))
    (fun s' hs' => ?_) (fun _ _ hs => hs) (fun e s' he => .inr ⟨he.2.1, ?_⟩)) fun _ => ?_
  · subst hs'
    exact ⟨h, hfut, havailable⟩
  · rw [he.1]
    rintro (hc | hc) <;> cases hc
  refine triple_bind (Q := fun _ => I) (triple_modify fun s' hs' =>
    ⟨⟨hs'.1.toSound.congr rfl rfl rfl rfl rfl, hs'.1.rest⟩, hs'.2⟩) fun _ => ?_
  refine triple_get_bind fun s₂ hs₂ => ?_
  split
  · exact triple_throw fun _ _ => .inl rfl
  · next handle _ =>
    refine triple_get_bind fun s₃ hs₃ => ?_
    subst hs₃
    obtain ⟨hnode, hfut₃, havailable₃⟩ := hs₂
    refine triple_bind (triple_conseq (updateGoal_spec hnode.toSound hfut₃
      fun hkept => (hnode.tracked hkept).quiet havailable₃) (fun _ hs => hs) (fun _ _ hs => hs)
      fun _ _ he => raisedByBody_of_atRest he) fun early => ?_
    refine triple_start fun s₄ ⟨hsound, hreturns⟩ => ?_
    split
    · next status =>
      refine triple_pure ?_
      rintro _ rfl
      exact ⟨hsound, (fun hn => by cases hn), hreturns⟩
    · refine triple_bind (triple_conseq (spin_spec input.spin hsound.valid) (fun _ hs => hs)
        (fun _ _ hs => hs) (fun _ _ he => .inl he)) fun _ => ?_
      refine triple_get_bind fun s₅ hspun => ?_
      have hsound₅ := hsound.spun hspun
      refine triple_ite (fun ha => triple_pure ?_) (fun _ => triple_pure ?_)
      · rintro _ rfl
        exact ⟨hsound₅, fun _ hkept => (hsound₅.tracked hkept).done ha, returnsAtRest_none⟩
      · rintro _ rfl
        exact ⟨hsound₅, (fun hn => by cases hn), returnsAtRest_running⟩

/-- The part that waits for a goal response still to come. -/
theorem pendingAcknowledgement_spec {hooks : ActionHooks Goal Result Feedback B}
    {params : ActionParams} {a : Acknowledgement Result Feedback}
    {s : ActionNode Goal Result Feedback B} (h : SoundNode s) :
    Triple (· = s) (pendingAcknowledgement hooks params a)
      (fun early s' => Sound s' ∧
        (early = none → SoundNode s' ∧ s'.futureGoalHandle = none) ∧ ReturnsAtRest early s')
      RaisedByBody := by
  refine triple_get_bind fun s₁ hs₁ => ?_
  subst hs₁
  refine triple_ite (fun hfut => ?_) (fun hfut => triple_pure ?_)
  · refine triple_conseq (awaitAcknowledgement_spec h.toSound hfut) (fun _ hs => hs)
      (fun early s' hs => ⟨hs.1.toSound, fun hn => ⟨⟨hs.1.toSound, fun hst hkept => ?_⟩,
        hs.2.1 hn⟩, hs.2.2⟩) fun _ _ he => raisedByBody_of_atRest he
    -- a node that waits for a goal response is RUNNING
    have hfut₁ := (h.rest (hs.1.status ▸ hst) (hkept.of_grow hs.1.grow)).1
    rw [hfut₁] at hfut
    cases hfut
  · rintro _ rfl
    rw [Option.not_isSome_iff_eq_none] at hfut
    exact ⟨h.toSound, fun _ => ⟨h, hfut⟩, returnsAtRest_none⟩

/-- The `try` block. -/
theorem tickBody_spec {hooks : ActionHooks Goal Result Feedback B} {params : ActionParams}
    {input : TickInput Result Feedback} {s : ActionNode Goal Result Feedback B}
    (h : SoundNode s) :
    Triple (· = s) (tickBody hooks params input)
      (fun early s' => Sound s' ∧ (early = none → SoundNode s') ∧ ReturnsAtRest early s')
      RaisedByBody := by
  refine triple_bind (pendingAcknowledgement_spec h) fun early => ?_
  refine triple_start fun s₂ ⟨hsound, hnone, hreturns⟩ => ?_
  split
  · next status =>
    refine triple_pure ?_
    rintro _ rfl
    exact ⟨hsound, (fun hn => by cases hn), hreturns⟩
  · obtain ⟨hnode, hfut⟩ := hnone rfl
    refine triple_get_bind fun s₃ hs₃ => ?_
    subst hs₃
    refine triple_ite (fun hc => ?_) (fun _ => triple_pure ?_)
    · rw [Bool.and_eq_true, Bool.not_eq_true'] at hc
      exact triple_conseq (waitForResult_spec hnode (fun _ => hfut) hc.2) (fun _ hs => hs)
        (fun early s' hs => ⟨hs.1, fun hn => ⟨hs.1, fun _ => hs.2.1 hn⟩, hs.2.2⟩)
        fun _ _ he => he
    · rintro _ rfl
      exact ⟨hsound, fun _ => hnode, returnsAtRest_none⟩

/-- A result that has a code has been taken over, so the node is at rest. -/
theorem Sound.atRest_of_code {s : ActionNode Goal Result Feedback B} (h : Sound s)
    (hcode : s.result.code ≠ .unknown) : AtRest s := by
  intro hkept
  have ht := h.tracked hkept
  cases ha : s.goalResultAvailable with
  | true => exact ht.done ha
  | false => exact absurd (ht.quiet ha) hcode

/-- What a result comes to: the virtual function is called on a node at rest. -/
theorem resultStatus_spec {hooks : ActionHooks Goal Result Feedback B}
    {s : ActionNode Goal Result Feedback B} (h : SoundNode s) :
    Triple (· = s) (resultStatus hooks s.result) (fun _ s' => Sound s' ∧ AtRest s')
      RaisedSound := by
  have hcall : ∀ f : HookM Goal B NodeStatus, s.result.code ≠ .unknown →
      Triple (· = s) (callHook f) (fun _ s' => Sound s' ∧ AtRest s') RaisedSound := fun f hcode =>
    triple_conseq (callHook_spec (P := fun s' => Sound s' ∧ AtRest s')
      (fun s' hook hs' => ⟨hs'.1.withHook hook, hs'.2⟩) f)
      (fun s' hs' => by subst hs'; exact ⟨h.toSound, h.atRest_of_code hcode⟩) (fun _ _ hs => hs)
      (fun _ _ he => .inr ⟨he.2.1, fun _ => he.2.2⟩)
  unfold resultStatus
  split
  · next hcode => exact hcall _ (by rw [hcode]; exact ResultCode.noConfusion)
  · next hcode => exact hcall _ (by rw [hcode]; exact ResultCode.noConfusion)
  · next hcode => exact hcall _ (by rw [hcode]; exact ResultCode.noConfusion)
  · exact triple_throw fun _ hs => .inr (hs ▸ h)

/-- The end of `tick()`. -/
theorem reportResult_spec {hooks : ActionHooks Goal Result Feedback B}
    {s : ActionNode Goal Result Feedback B} (h : SoundNode s) :
    Triple (· = s) (reportResult hooks) (fun _ s' => Sound s' ∧ AtRest s') RaisedSound := by
  refine triple_get_bind fun s₁ hs₁ => ?_
  subst hs₁
  refine triple_bind (resultStatus_spec h) fun status => ?_
  refine triple_bind (Q := fun _ s' => Sound s' ∧ AtRest s') (triple_modify fun s' hs' => ?_)
    fun _ => triple_pure fun _ hs => hs
  exact ⟨.of_atRest hs'.1.valid hs'.2 rfl fun hkept => (hs'.1.tracked hkept).quiet, hs'.2⟩

/-- The rest of `tick()`, for an active node. -/
theorem tickActive_spec {hooks : ActionHooks Goal Result Feedback B} {params : ActionParams}
    {input : TickInput Result Feedback} {s : ActionNode Goal Result Feedback B}
    (h : SoundNode s) :
    Triple (· = s) (tickActive hooks params input)
      (fun status s' => Sound s' ∧ (status = .running ∨ AtRest s')) RaisedSound := by
  refine triple_bind (Q := fun early s' => Sound s' ∧ (early = none → SoundNode s') ∧
    ReturnsAtRest early s') (triple_tryCatch (tickBody_spec h) fun e => ?_) fun early => ?_
  · refine triple_ite (fun hcaught => triple_pure fun s' hs' => ?_)
      (fun _ => triple_throw fun s' hs' => hs'.imp_right (·.1))
    rcases hs' with rfl | ⟨hnode, hrest⟩
    · rcases hcaught with hc | hc <;> cases hc
    · exact ⟨hnode.toSound, (fun hn => by cases hn), (hrest hcaught).returns⟩
  · split
    · next status => exact triple_pure fun s' hs' => ⟨hs'.1, hs'.2.2 status rfl⟩
    · refine triple_start fun s₁ hs₁ => ?_
      have hnone := hs₁.2.1
      exact triple_conseq (reportResult_spec (hnone rfl)) (fun _ hs => hs)
        (fun _ _ hs => ⟨hs.1, .inr hs.2⟩) fun _ _ he => he

/-- The start of `tick()`, for a node that is not active. -/
theorem activate_spec {hooks : ActionHooks Goal Result Feedback B}
    {s : ActionNode Goal Result Feedback B} (h : SoundNode s) (hrest : AtRest s) :
    Triple (· = s) (activate hooks)
      (fun goesOn s' => SoundNode s' ∧ (goesOn = false → AtRest s')) RaisedSound := by
  let I : ActionNode Goal Result Feedback B → Prop := fun s' =>
    Sound s' ∧ AtRest s' ∧ s'.result.code = .unknown
  refine triple_bind (Q := fun _ => I) (triple_modify fun s' hs' => ?_) fun _ => ?_
  · subst hs'
    refine ⟨⟨h.valid, fun hkept => ?_⟩, hrest, rfl⟩
    have ht := h.tracked hkept
    exact ⟨⟨ht.covered, ht.held⟩, ht.last, ht.first, ht.done, fun _ => rfl⟩
  refine triple_bind (triple_conseq (callHook_spec (P := I)
    (fun s' hook hs' => ⟨hs'.1.withHook hook, hs'.2⟩) hooks.onTick) (fun _ hs => hs)
    (fun _ _ hs => hs) (fun _ s' he => .inr ⟨he.2.1, fun _ => he.2.2.1⟩)) fun _ => ?_
  refine triple_bind (Q := fun _ s' => I s' ∧ s'.status = .running)
    (triple_modify fun s' hs' => ⟨⟨hs'.1.congr rfl rfl rfl rfl rfl, hs'.2⟩, rfl⟩) fun _ => ?_
  refine triple_get_bind fun s₁ ⟨⟨hsound, hrest₁, hcode⟩, hstatus⟩ => ?_
  refine triple_ite (fun _ => ?_) (fun _ => triple_pure ?_)
  · refine triple_bind (triple_total (sendNewGoal_spec hsound (fun hkept => (hrest₁ hkept).1)
      (fun _ => hrest₁) fun _ => hcode)) fun _ => triple_pure fun s' hs' => ?_
    exact ⟨⟨hs'.1.toSound, fun hne => absurd (hs'.1.status.trans hstatus) hne⟩,
      fun hf => Bool.noConfusion hf⟩
  · rintro _ rfl
    exact ⟨⟨hsound, fun _ => hrest₁⟩, fun _ => hrest₁⟩

/-- `executeTick()`. -/
theorem executeTick_spec {hooks : ActionHooks Goal Result Feedback B} {params : ActionParams}
    {input : TickInput Result Feedback} {s : ActionNode Goal Result Feedback B}
    (h : SoundNode s) :
    Triple (· = s) (executeTick hooks params input) (fun _ => SoundNode) RaisedSound := by
  refine triple_bind (Q := fun status s' => Sound s' ∧ (status = .running ∨ AtRest s')) ?_
    fun status => ?_
  · refine triple_get_bind fun s₁ hs₁ => ?_
    subst hs₁
    refine triple_ite (fun _ => tickActive_spec h) (fun hactive => ?_)
    have hrest : AtRest s₁ := h.rest fun hrun => hactive (by rw [hrun]; rfl)
    refine triple_bind (activate_spec h hrest) fun goesOn => ?_
    refine triple_start fun s₂ ⟨hnode, hstop⟩ => triple_ite (fun _ => tickActive_spec hnode)
      (fun hgo => triple_pure ?_)
    rintro _ rfl
    exact ⟨hnode.toSound, .inr (hstop (Bool.eq_false_iff.mpr hgo))⟩
  · refine triple_bind (Q := fun _ => SoundNode) (triple_modify fun s' ⟨hsound, hreturns⟩ => ?_)
      fun _ => triple_pure fun _ hs => hs
    split
    · next hskipped =>
      have hrest := hreturns.resolve_left (by rw [hskipped]; exact NodeStatus.noConfusion)
      exact ⟨hsound, fun _ => hrest⟩
    · exact ⟨hsound.congr rfl rfl rfl rfl rfl, fun hne => hreturns.resolve_left hne⟩

/-! ## `halt()` -/

/-- The state of a goal that is not to be cancelled: it is settled. -/
theorem settled_of_clientStatus {rs : List (Request Goal Result)} (h : RequestsValid rs)
    {i : GoalId} {r : Request Goal Result} (hr : rs[i]? = some r)
    (hst : ¬ (r.clientStatus = .accepted ∨ r.clientStatus = .executing)) : Settled rs i := by
  have hv := h i r hr
  rw [not_or] at hst
  rcases hv.heard with hacc | hmem | ⟨_, hterm⟩
  · exact absurd hacc hst.1
  · cases hc : r.clientStatus with
    | unknown => rw [hc] at hmem; exact absurd hmem hv.known
    | accepted => exact absurd hc hst.1
    | executing => exact absurd hc hst.2
    | canceling => rw [hc] at hmem; exact .cancelRequested hr (hv.canceling hmem)
    | succeeded => rw [hc] at hmem; exact .terminal hr (hv.last _ hmem rfl)
    | canceled => rw [hc] at hmem; exact .terminal hr (hv.last _ hmem rfl)
    | aborted => rw [hc] at hmem; exact .terminal hr (hv.last _ hmem rfl)
  · exact .terminal hr hterm

/-- `should_cancel_goal()`: a goal that is not to be cancelled leaves the node
at rest. -/
theorem shouldCancelGoal_spec {input : HaltInput Result Feedback}
    {s : ActionNode Goal Result Feedback B} (h : SoundNode s) (hfut : s.futureGoalHandle = none) :
    Triple (· = s) (shouldCancelGoal input)
      (fun goal s' => Sound s' ∧ s'.futureGoalHandle = none ∧ (goal = none → AtRest s') ∧
        (goal.isSome = true → s'.goalHandle = goal)) OnlyNullDeref := by
  refine triple_get_bind fun s₁ hs₁ => ?_
  subst hs₁
  refine triple_ite (fun hidle => triple_pure ?_) (fun _ => ?_)
  · rintro _ rfl
    exact ⟨h.toSound, hfut, fun _ => h.rest hidle, fun hn => by cases hn⟩
  split
  · next hnone =>
    refine triple_pure ?_
    rintro _ rfl
    refine ⟨h.toSound, hfut, fun _ hkept => ⟨hfut, ?_⟩, fun hn => by cases hn⟩
    exact (h.tracked hkept).allSettled hfut fun i hi => by rw [hnone] at hi; cases hi
  · next i hi =>
    refine triple_bind (spin_spec input.spin h.valid) fun _ => ?_
    refine triple_get_bind fun s₂ hspun => ?_
    have hsound := h.toSound.spun hspun
    have hfut₂ := hspun.futureGoalHandle.trans hfut
    have hi₂ := hspun.goalHandle.trans hi
    refine triple_ite (fun _ => triple_pure ?_) (fun hst => triple_pure ?_)
    · rintro _ rfl
      exact ⟨hsound, hfut₂, (fun hn => by cases hn), fun _ => hi₂⟩
    · rintro _ rfl
      refine ⟨hsound, hfut₂, fun _ hkept => ⟨hfut₂, ?_⟩, fun hn => by cases hn⟩
      have ht := hsound.tracked hkept
      refine ht.allSettled hfut₂ fun j hj => ?_
      obtain ⟨r, hr, _⟩ := ht.held j hj
      rw [hi₂] at hj
      cases hj
      refine settled_of_clientStatus hsound.valid hr fun hc => hst ?_
      rw [hr, Option.map_some, Option.getD_some, Bool.or_eq_true, beq_iff_eq, beq_iff_eq]
      exact hc

/-- The cancellation: once a cancel request for the goal held has been sent,
the node is at rest. -/
theorem cancelGoal_spec {hooks : ActionHooks Goal Result Feedback B}
    {input : HaltInput Result Feedback} {goal : Option GoalId}
    {s : ActionNode Goal Result Feedback B} (h : Sound s) (hfut : s.futureGoalHandle = none)
    (hnone : goal = none → AtRest s) (hheld : goal.isSome = true → s.goalHandle = goal) :
    Triple (· = s) (cancelGoal hooks input goal) (fun _ s' => Sound s' ∧ AtRest s')
      RaisedSound := by
  cases goal with
  | none =>
    refine triple_pure ?_
    rintro _ rfl
    exact ⟨h, hnone rfl⟩
  | some i =>
    have hi := hheld rfl
    refine triple_bind (Q := fun _ s' => Sound s' ∧ AtRest s') (triple_modify fun s₁ hs₁ => ?_)
      fun _ => ?_
    · subst hs₁
      have hspun : Spun s₁ { s₁ with requests := s₁.requests.modify i Request.requestCancel } :=
        .of_modify h.valid (fun _ hr => hr.requestCancel) Request.grows_requestCancel
      refine ⟨h.spun hspun, fun hkept => ⟨hfut, ?_⟩⟩
      have ht := (h.spun hspun).tracked hkept
      refine ht.allSettled hfut fun j hj => ?_
      rw [show s₁.goalHandle = some j from hj] at hi
      cases hi
      obtain ⟨r, hr, _⟩ := (h.tracked (hkept.of_grow hspun.grow)).held i hj
      exact .cancelRequested (r := r.requestCancel)
        (by rw [List.getElem?_modify, hr]; simp) rfl
    · have hspin : ∀ es : List (SpinEvent Result Feedback),
          Triple (fun s' : ActionNode Goal Result Feedback B => Sound s' ∧ AtRest s') (spin es)
            (fun _ s' => Sound s' ∧ AtRest s') RaisedSound :=
        fun es => triple_start fun s₁ hs₁ => triple_conseq (spin_spec es hs₁.1.valid)
          (fun _ hs => hs) (fun _ _ hspun => ⟨hs₁.1.spun hspun, hs₁.2.spun hspun⟩)
          fun _ _ he => .inl he
      refine triple_bind (hspin _) fun _ => triple_bind (hspin _) fun _ => ?_
      refine triple_get_bind fun s₁ hs₁ => ?_
      refine triple_bind (triple_conseq (callHook_spec (P := fun s' => Sound s' ∧ AtRest s')
        (fun s' hook hs' => ⟨hs'.1.withHook hook, hs'.2⟩) _) (fun s' hs' => hs' ▸ hs₁)
        (fun _ _ hs => hs) (fun _ _ he => .inr ⟨he.2.1, fun _ => he.2.2⟩)) fun _ => ?_
      exact triple_pure fun _ hs => hs

/-- `halt()`, when no goal response is outstanding. -/
theorem halt_spec {hooks : ActionHooks Goal Result Feedback B}
    {input : HaltInput Result Feedback} {s : ActionNode Goal Result Feedback B}
    (h : SoundNode s) (hfut : s.futureGoalHandle = none) :
    Triple (· = s) (halt hooks input) (fun _ => SoundNode) RaisedSound := by
  refine triple_bind (triple_conseq (shouldCancelGoal_spec h hfut) (fun _ hs => hs)
    (fun _ _ hs => hs) (fun _ _ he => .inl he)) fun goal => ?_
  refine triple_start fun s₁ ⟨hsound, hfut₁, hnone, hheld⟩ => ?_
  refine triple_bind (cancelGoal_spec hsound hfut₁ hnone hheld) fun _ => ?_
  exact triple_modify fun s' hs' => ⟨hs'.1.congr rfl rfl rfl rfl rfl, fun _ => hs'.2⟩

/-! ## Runs -/

/-- What a call keeps, a step keeps. -/
theorem soundNode_afterCall {α : Type} {x : ActionM Goal Result Feedback B α}
    {s s' : ActionNode Goal Result Feedback B}
    (hx : Triple (· = s) x (fun _ => SoundNode) RaisedSound) (h : afterCall x s = some s') :
    SoundNode s' := by
  unfold afterCall at h
  split at h
  · next s₁ hrun =>
    cases h
    exact hx.ok rfl hrun
  · cases h
  · next e s₁ hne hrun =>
    cases h
    exact (hx.error rfl hrun).resolve_left hne

/-- Each step keeps the invariant. -/
theorem soundNode_step {hooks : ActionHooks Goal Result Feedback B} {params : ActionParams}
    {s s' : ActionNode Goal Result Feedback B} {l : ActionLabel Result Feedback}
    (h : SoundNode s) (hhalt : l.isHalt = true → s.futureGoalHandle = none)
    (hstep : actionStep hooks params s l = some s') : SoundNode s' := by
  cases l with
  | tick input => exact soundNode_afterCall (executeTick_spec h) hstep
  | halt input => exact soundNode_afterCall (halt_spec h (hhalt rfl)) hstep
  | reset =>
    simp only [actionStep] at hstep
    split at hstep
    · cases hstep
    · next hidle =>
      cases hstep
      exact ⟨h.toSound.congr rfl rfl rfl rfl rfl, fun _ => h.rest hidle⟩
  | server e =>
    cases hstep
    obtain ⟨hvalid, hgrow, hlength⟩ := e.apply_spec h.valid
    exact h.spun (.of_requests hvalid hgrow hlength)

/-- A node as constructed. -/
theorem soundNode_initial {hooks : ActionHooks Goal Result Feedback B} (blackboard : B) :
    SoundNode (ActionNode.initial hooks blackboard : ActionNode Goal Result Feedback B) := by
  have hrest : AtRest (ActionNode.initial hooks blackboard : ActionNode Goal Result Feedback B) :=
    fun _ => ⟨rfl, fun _ hi => absurd hi (Nat.not_lt_zero _)⟩
  exact ⟨.of_atRest (fun _ _ hr => by cases hr) hrest rfl fun _ _ => rfl, fun _ => hrest⟩

/-- **No goal is left running.** In every run whose steps all meet the
condition `KeptStep` (every wait for a goal response gets it or has time
left, and is not interrupted; no updated goal is rejected; no halt comes
while a goal response is outstanding): in every state in which the node is
not RUNNING, every goal request it has sent is settled. -/
theorem leaves_no_goal_running {hooks : ActionHooks Goal Result Feedback B}
    {params : ActionParams} {s : ActionNode Goal Result Feedback B}
    (h : (actionSystem hooks params).Reach (KeptStep params) s)
    (hstatus : s.status ≠ .running) : AllSettled s.requests := by
  have hinv : SoundNode s ∧ Kept s.requests := by
    refine h.invariant (fun s => SoundNode s ∧ Kept s.requests) (fun s hs => ?_)
      (fun s l s' hs hkept hstep => ?_)
    · obtain ⟨blackboard, rfl⟩ := hs
      exact ⟨soundNode_initial blackboard, fun _ hr => by cases hr⟩
    · have hlast : ∀ i, s.futureGoalHandle = some i → i < s.requests.length := fun i hi =>
        Nat.lt_of_lt_of_eq (Nat.lt_succ_self i) ((hs.1.tracked hs.2).last i hi)
      have hhalt : l.isHalt = true → s.futureGoalHandle = none := by
        intro hl
        cases l with
        | halt input => exact hkept.1
        | _ => cases hl
      exact ⟨soundNode_step hs.1 hhalt hstep, kept_step hs.1.valid hs.2 hlast hkept hstep⟩
  exact (hinv.1.rest hstatus hinv.2).2

/-! ## Two runs -/

/-- A node with no virtual function of its own. -/
def plainHooks : ActionHooks Unit Unit Unit Unit where
  emptyGoal := ()

/-- A node that updates its goal at every tick. -/
def updatingHooks : ActionHooks Unit Unit Unit Unit where
  emptyGoal := ()
  onWaitForResult _ := modify fun s => { s with goalUpdated := true }

/-- Server timeout 100 ms, a loop of 20 ms. -/
def plainParams : ActionParams := ⟨100, 10⟩

/-- A tick in which nothing arrives, and one in which the spin for the
response and the spin at the end bring the given events. -/
def tickWith (response last : List (SpinEvent Unit Unit)) : ActionLabel Unit Unit :=
  .tick ⟨⟨0, response, false⟩, true, ⟨0, [], false⟩, last⟩

/-- A node that is halted before the goal response has come leaves a goal
running: the server accepts it and starts it. -/
theorem halted_before_acknowledgement : ∃ s,
    (actionSystem plainHooks plainParams).Reach anyStep s ∧ s.status ≠ .running ∧
    ¬ AllSettled s.requests := by
  obtain ⟨s, hr, hs⟩ := exists_reach_of_runWhile (S := actionSystem plainHooks plainParams) anyStep
    [tickWith [] [], .halt ⟨[], [], []⟩, .server (.decide 0 true), .server (.move 0 .executing ())]
    (fun s => decide (s.status = .idle ∧ s.requests =
      [{ goal := (), update := false, accepted := some true, cancelRequested := false,
         statuses := [.executing, .accepted], result := none, acknowledged := false,
         clientStatus := .accepted, resultReceived := false, abandoned := false }]))
    ⟨(), rfl⟩ (by decide +kernel)
  obtain ⟨hstatus, hreq⟩ := of_decide_eq_true hs
  refine ⟨s, hr, by rw [hstatus]; decide, fun hall => ?_⟩
  have hset := hall 0 (by rw [hreq]; decide)
  rw [hreq] at hset
  cases hset with
  | rejected h hacc => cases h; cases hacc
  | terminal h hterm => cases h; cases hterm
  | cancelRequested h hc => cases h; cases hc
  | superseded hlt h =>
    rw [List.getElem?_eq_none hlt] at h
    cases h

/-- A goal is accepted and started, an update replaces it, and the node is
halted: it cancels the update, and the first goal is superseded. -/
theorem leaves_no_goal_running_halted : ∃ s,
    (actionSystem updatingHooks plainParams).Reach (KeptStep plainParams) s ∧
    s.status ≠ .running ∧ s.requests.length = 2 ∧ AllSettled s.requests := by
  obtain ⟨s, hr, hs⟩ := exists_reach_of_runWhile (S := actionSystem updatingHooks plainParams)
    (KeptStep plainParams)
    [.tick ⟨⟨0, [.server (.decide 0 true), .response 0], false⟩, true,
      ⟨0, [.server (.decide 1 true), .response 1], false⟩, []⟩, .halt ⟨[], [], []⟩]
    (fun s => decide (s.status ≠ .running ∧ s.requests.length = 2))
    ⟨(), rfl⟩ (by decide +kernel)
  obtain ⟨hstatus, hlength⟩ := of_decide_eq_true hs
  exact ⟨s, hr, hstatus, hlength, leaves_no_goal_running hr hstatus⟩

end Nav3D.BehaviorTree

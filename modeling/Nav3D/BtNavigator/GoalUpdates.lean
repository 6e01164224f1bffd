/-
Nav3D.BtNavigator.GoalUpdates — whether the default tree can lose a goal.

`GlobalUpdatedGoal` reports a new goal once, and `ComputePathToPose` reads
the goal when it is started: a goal that is written while
`ComputePathToPose` is RUNNING is not planned for, and the tree succeeds
with the path to the previous one (`update_lost`). When no goal is written
at such a time, nor after `FollowPath` has heard of the end of its goal, and
`FollowPath` hears of an end only while a plan stands, the tree succeeds
with a path that was planned for the goal on the blackboard
(`no_update_lost`).
-/
import Nav3D.BtNavigator.GoalPlanning
import Nav3D.BtNavigator.NavigationTick

namespace Nav3D.BtNavigator

open Nav3D.Ros Nav3D.BehaviorTree StateInvariant Transition.System
open BT (NodeStatus StatusCell TreeNode leaf)

variable {Pose Path : Type}

/-! ## `FollowPath` -/

/-- `FollowPath` has reported on a goal whose path was planned for {goal}. -/
def FollowedPlanned (s : TreeState Pose Path) : Prop :=
  ∃ (i : GoalId) (r : Request (FollowPathGoal Path) ErrorResult),
    s.followPath.reported = some i ∧ s.followPath.requests[i]? = some r ∧
      PlannedFor s.computePath.requests r.goal.path s.blackboard.goal

/-- In a tick in which `spin_some()` brings `es`, the node hears for the
first time of the end of the goal that it waits for, or of one that it sends
in the tick. -/
def HearsEnd (es : List (SpinEvent ErrorResult Unit)) (n : FollowNode Pose Path) : Prop :=
  ∃ i ∈ endsTold es, n.requests.length ≤ i ∨
    (n.status = .running ∧ n.awaited = some i) ∧ ¬ (n.status = .running ∧ HeldEnded n i)

instance HearsEnd.decidable (es : List (SpinEvent ErrorResult Unit)) (n : FollowNode Pose Path) :
    Decidable (HearsEnd es n) :=
  inferInstanceAs (Decidable (∃ i ∈ endsTold es, _ ∨ _))

/-- An end is heard of only where a plan stands, and no planning result
comes in that tick. -/
def EndsPlanned [Inhabited Path] (input : TreeInput Path) (s : TreeState Pose Path) : Prop :=
  HearsEnd input.follow.spin s.followPath →
    PlanStands s ∧ deliveries input.compute.spin = []

section Follow

variable [Inhabited Path] {params : TreeParams} {input : TreeInput Path}
  {s₀ s : TreeState Pose Path}

/-- What the tick of `FollowPath` comes to. -/
def Followed (status : NodeStatus) (s : TreeState Pose Path) : Prop :=
  match status with
  | .running => Kept s
  | .success => ClientsValid s ∧ FollowedPlanned s ∧ s.followPath.status = .success
  | .failure => ClientsValid s
  | _ => False

/-- The node as it is when it is ticked. -/
theorem Kept.followStarts (h : Kept s) :
    ∃ base, Along base .start (viewFollow s) ∧
      ((viewFollow s).status.isActive = true → Quiet (viewFollow s) ∧ UpToDate (viewFollow s)) := by
  rcases h.followRests with hidle | hrunning
  · have hidle : (viewFollow s).status = .idle := hidle
    have hinactive : (viewFollow s).status.isActive ≠ true := by
      rw [hidle]
      exact Bool.false_ne_true
    exact ⟨s.followPath.requests.length,
      ⟨h.follow, fun hactive => absurd hactive hinactive, fun _ => rfl⟩,
      fun hactive => absurd hactive hinactive⟩
  · obtain ⟨hquiet, hdate, base, haligned⟩ := h.following hrunning
    have hrunning : (viewFollow s).status = .running := hrunning
    have hactive : (viewFollow s).status.isActive ≠ false := by
      rw [hrunning]
      exact Bool.noConfusion
    exact ⟨base, ⟨h.follow, fun _ => ⟨hrunning, haligned.valid, haligned.follows⟩,
      fun hinactive => absurd hinactive hactive⟩, fun _ => ⟨hquiet, hdate.unheard, hdate.same⟩⟩

/-- A goal whose end is told for the first time has been handed over in this
tick, so it is for the plan that stands. -/
theorem plannedFor_of_told (h₀ : Kept s₀) (hs : PlanKept input s₀ s)
    (hends : EndsPlanned input s₀) {i : GoalId} {g : FollowPathGoal Path}
    (htold : i ∈ endsTold input.follow.spin)
    (hsince : s.followPath.requests.length ≤ i ∨
      s.followPath.status = .running ∧ s.followPath.awaited = some i)
    (hnew : ¬ (s.followPath.status = .running ∧ HeldEnded s.followPath i))
    (hg : IsFor (readPath s) g) :
    Seen s ∧ PlannedFor s.computePath.requests g.path s.blackboard.goal := by
  rw [hs.followPath] at hsince hnew
  obtain ⟨hstands, hquiet⟩ := hends ⟨i, htold, hsince.imp id fun hwaits => ⟨hwaits, hnew⟩⟩
  have hpath : readPath s = readPath s₀ := hs.stands hstands hquiet
  rw [hg (by rw [hpath]; exact hstands.2.2), hpath, hs.goal]
  exact ⟨hs.seen hstands.1, (h₀.plannedFor hstands).grow hs.grow⟩

/-- **A goal whose end is told is for a path planned for {goal}**: it has
been handed over in this tick, or its end was heard of before. -/
theorem plannedFor_of_ended (h₀ : Kept s₀) (hs : PlanKept input s₀ s)
    (hends : EndsPlanned input s₀) {i : GoalId} {r : Request (FollowPathGoal Path) ErrorResult}
    {rs : List (Request (FollowPathGoal Path) ErrorResult)}
    (hgrow : RequestsGrow s.followPath.requests rs) (hr : rs[i]? = some r)
    (hsince : s.followPath.requests.length ≤ i ∨
      s.followPath.status = .running ∧ s.followPath.awaited = some i)
    (hended : (i ∈ endsTold input.follow.spin ∧ IsFor (readPath s) r.goal) ∨
      s.followPath.status = .running ∧ HeldEnded s.followPath i) :
    Seen s ∧ PlannedFor s.computePath.requests r.goal.path s.blackboard.goal := by
  by_cases hheld : s.followPath.status = .running ∧ HeldEnded s.followPath i
  · obtain ⟨hrunning, hheld⟩ := hheld
    obtain ⟨r₀, hr₀, _⟩ := hheld.2.2
    obtain ⟨r', hr', hg⟩ := hgrow i r₀ hr₀
    rw [hr] at hr'
    cases hr'
    rw [hg.goal]
    exact (hs.kept h₀).ended hrunning i r₀ hheld hr₀
  · obtain ⟨htold, hfor⟩ := hended.resolve_right hheld
    exact plannedFor_of_told h₀ hs hends htold hsince hheld hfor

variable [DecidableEq Path]

/-- What the tick of the node comes to, before its parent resets it. -/
theorem followPath_comes (params : TreeParams) {n : FollowNode Pose Path} {status : NodeStatus}
    (h₀ : Kept s₀) (hs : PlanKept input s₀ s) (hends : EndsPlanned input s₀)
    (hrun : TickRun (followPathHooks {}) input.follow.spin (.start, viewFollow s)
      (.returned status, n)) :
    Followed status ((followPath params input).setStatus status (putFollow n s)) := by
  have hkept := hs.kept h₀
  obtain ⟨base, halong, hstart⟩ := hkept.followStarts
  have hands : HandsOver (followPathHooks {}) (BoardHas s.blackboard.goal (readPath s))
      (IsFor (readPath s)) := followPath_handsOver
  have hgrown : Grown (viewFollow s) n := hrun.grown halong.1
  have hboard : BoardHas s.blackboard.goal (readPath s) n.hook.blackboard :=
    hrun.invariant (I := fun _ n => BoardHas s.blackboard.goal (readPath s) n.hook.blackboard)
      ⟨rfl, rfl⟩ fun _ _ _ _ hI hmove => keepsBoard_move hands.keeps hI hmove
  have haligned : Along base (.returned status) n :=
    hrun.invariant (I := Along base) halong fun _ _ _ _ h hmove => along_move h hmove
  have hdelivered := hrun.delivered hands.concludes fun hactive => (hstart hactive).1
  have hover := hrun.handsOver hands halong ⟨rfl, rfl⟩ hstart
  have hvalid : ClientsValid (putFollow n s) := ⟨hkept.compute, hgrown.1⟩
  cases status with
  | running =>
    obtain ⟨hdate, hwaits, hheld⟩ := hover
    have haligned := haligned.2.resolve_left NodeStatus.noConfusion
    refine ⟨⟨hvalid.compute, hvalid.follow⟩, hkept.computeRests, fun hrunning => ?_, ?_,
      .inr rfl, fun _ => ⟨hdelivered, ⟨hdate.unheard, hdate.same⟩, base, haligned.valid,
        haligned.follows⟩, fun _ i r hi hr => ?_, hkept.last⟩
    · exact (hkept.computing hrunning).same rfl hboard.1
    · exact hkept.planned.imp id fun hfor => hfor.grow (.refl _) hboard.2
    · have hi : HeldEnded n i := hi
      have hawaited : n.awaited = some i := by
        rw [ActionNode.awaited, hi.1]
        exact hi.2.1
      have hplanned := plannedFor_of_ended h₀ hs hends hgrown.2 hr (hwaits i hawaited)
        (hheld i r hi hr)
      refine ⟨hplanned.1.trans hboard.1.symm, ?_⟩
      show PlannedFor s.computePath.requests r.goal.path n.hook.blackboard.goal
      rw [hboard.1]
      exact hplanned.2
  | success =>
    obtain ⟨i, hi, hreported⟩ := hdelivered
    obtain ⟨r, hr, hsince, hheld⟩ := hover i hreported
    have hplanned := plannedFor_of_ended h₀ hs hends hgrown.2 hr hsince
      (hheld.imp (fun hfor => ⟨mem_endsTold_of_delivered hi, hfor⟩) id)
    refine ⟨⟨hvalid.compute, hvalid.follow⟩, ⟨i, r, hreported, hr, ?_⟩, rfl⟩
    show PlannedFor s.computePath.requests r.goal.path n.hook.blackboard.goal
    rw [hboard.1]
    exact hplanned.2
  | failure => exact ⟨hvalid.compute, hvalid.follow⟩
  | idle => rcases followPath_returns hrun with hf | hf | hf <;> cases hf
  | skipped => rcases followPath_returns hrun with hf | hf | hf <;> cases hf

/-- **`FollowPath` reports on a path planned for {goal}.** -/
theorem followPath_reportsPlanned (h₀ : Kept s₀) (hs : PlanKept input s₀ s)
    (hends : EndsPlanned input s₀) :
    Triple (· = s) (followPath params input).executeTick Followed RaisedValid := by
  refine BT.triple_executeTick ?_ fun _ => triple_pure fun _ h => h
  have hkept := hs.kept h₀
  have hvalid : RequestsValid (viewFollow s).requests := hkept.follow
  refine triple_conseq (triple_zoom (tick_trace hvalid)) (fun _ h => h) ?_ ?_
  · rintro status _ ⟨n, hrun, rfl⟩
    have hcomes := followPath_comes params h₀ hs hends hrun
    cases status with
    | skipped => exact hcomes.elim
    | _ => exact hcomes
  · rintro e _ ⟨n, hrun, rfl⟩ _
    exact ⟨hkept.compute, (hrun.grown hvalid).1⟩

/-! ## A tick of the tree -/

/-- What a tick of the tree ends with. -/
def TickEnds (status : NodeStatus) (s : TreeState Pose Path) : Prop :=
  match status with
  | .running => Kept s
  | .success => ClientsValid s ∧ FollowedPlanned s
  | _ => ClientsValid s

omit [DecidableEq Path] in
theorem TickEnds.clientsValid {status : NodeStatus} (h : TickEnds status s) : ClientsValid s := by
  cases status with
  | running => exact Kept.toClientsValid h
  | success => exact h.1
  | _ => exact h

omit [DecidableEq Path] in
theorem tickEnds_ignoresStatuses (status : NodeStatus) :
    IgnoresStatuses fun s : TreeState Pose Path => TickEnds status s := by
  intro s statuses h
  cases status with
  | running =>
    have hkept : Kept s := h
    exact ⟨⟨hkept.compute, hkept.follow⟩, hkept.computeRests, hkept.computing, hkept.planned,
      hkept.followRests, hkept.following, hkept.ended, hkept.last⟩
  | success => exact ⟨⟨h.1.compute, h.1.follow⟩, h.2⟩
  | _ => exact ⟨h.compute, h.follow⟩

/-- `FollowPath` has succeeded, and the pipeline is about to reset it. -/
def Reported (s : TreeState Pose Path) : Prop :=
  ClientsValid s ∧ FollowedPlanned s ∧ s.followPath.status ≠ .running

omit [Inhabited Path] [DecidableEq Path] in
theorem Reported.ignoresStatuses : IgnoresStatuses fun s : TreeState Pose Path => Reported s :=
  fun _ _ h => ⟨⟨h.1.compute, h.1.follow⟩, h.2⟩

omit [Inhabited Path] [DecidableEq Path] in
/-- What `FollowPath` has followed stays planned. -/
theorem FollowedPlanned.grow {s' : TreeState Pose Path} (h : FollowedPlanned s)
    (hreported : s'.followPath.reported = s.followPath.reported)
    (hrequests : s'.followPath.requests = s.followPath.requests)
    (hgrow : RequestsGrow s.computePath.requests s'.computePath.requests)
    (hgoal : s'.blackboard.goal = s.blackboard.goal) : FollowedPlanned s' := by
  obtain ⟨i, r, hi, hr, hplanned⟩ := h
  exact ⟨i, r, hreported ▸ hi, hrequests ▸ hr, hgoal ▸ hplanned.grow hgrow⟩

variable [Inhabited Pose]

/-- The reset of the children. -/
theorem pipeline_resets [DecidableEq Pose] :
    Triple (fun s : TreeState Pose Path => Reported s) (BT.haltChildren (pipeline params input))
      (fun _ s => Reported s) RaisedValid := by
  refine BT.triple_haltChildren (pipeline_halts Reported.ignoresStatuses ?_ ?_)
  · refine computePathToPose_halts (fun _ _ => raisedValid_of_ne) (fun s hs => hs.1.compute)
      fun s s' hs hs' => ⟨hs.1.computeStopped hs'.toComputeStopped, ?_, ?_⟩
    · exact hs.2.1.grow (by rw [hs'.followPath]) (by rw [hs'.followPath]) hs'.grow hs'.goal
    · rw [hs'.followPath]
      exact hs.2.2
  · refine followPath_halts (fun _ _ => raisedValid_of_ne) (fun s hs => hs.1.follow)
      fun s s' hs hs' => ⟨hs.1.followStopped hs'.toFollowStopped, ?_, ?_⟩
    · have hsame := hs'.kept hs.2.2
      exact hs.2.1.grow (by rw [hsame]) (by rw [hsame])
        (by rw [hs'.computePath]; exact .refl _) hs'.goal
    · rw [hs'.status]
      exact NodeStatus.noConfusion

variable [DecidableEq Pose]

/-- The rest of the tick, from `FollowPath` on. -/
theorem followPath_finishes (h₀ : Kept s₀) (hs : PlanKept input s₀ s)
    (hends : EndsPlanned input s₀) (skippedCount : Nat) :
    Triple (· = s) (tickChildren idleChild pipelineCell (pipeline params input) 3 skippedCount
        [followPath params input] >>= endPipeline pipelineCell (pipeline params input))
      TickEnds RaisedValid := by
  rw [tickChildren, bind_assoc]
  refine triple_bind (followPath_reportsPlanned h₀ hs hends) fun status => ?_
  cases status with
  | failure =>
    rw [bind_assoc]
    refine triple_bind (BT.triple_haltChildren pipeline_haltsValid) fun _ => ?_
    rw [bind_assoc]
    exact triple_bind (Q := fun _ s => ClientsValid s)
      (triple_modify fun _ hs => ⟨hs.compute, hs.follow⟩) fun _ => triple_pure fun _ hs => hs
  | success =>
    show Triple _ (endPipeline pipelineCell (pipeline params input) (.inr skippedCount)) _ _
    refine triple_bind (triple_conseq pipeline_resets (fun _ hs => ?_) (fun _ _ hs => hs)
      fun _ _ he => he) fun _ => ?_
    · exact ⟨hs.1, hs.2.1, by rw [hs.2.2]; exact NodeStatus.noConfusion⟩
    refine triple_bind (Q := fun _ s => Reported s)
      (triple_modify fun _ hs => ⟨⟨hs.1.compute, hs.1.follow⟩, hs.2⟩) fun _ => triple_pure ?_
    intro s' hs'
    split
    · exact hs'.1
    · exact ⟨hs'.1, hs'.2.1⟩
  | running =>
    rw [bind_assoc]
    refine triple_get_bind fun s' hs' => ?_
    have hkept : Kept s' := hs'
    -- no earlier child has stopped the pipeline after this one
    rw [if_pos (show pipelineCell.lastChildTicked s' ≤ 3 from hkept.last), bind_assoc]
    refine triple_bind (Q := fun _ s => Kept s) (triple_modify ?_) fun _ =>
      triple_pure fun _ hs => hs
    rintro _ rfl
    exact hkept.setLastChildTicked (Nat.le_refl 3)
  | idle => exact triple_throw fun _ _ => raisedValid_of_ne (by decide)
  | skipped => exact triple_start fun _ hf => hf.elim

/-- **A tick of the tree.** -/
theorem tickOnce_follows (h : Kept s) (hends : EndsPlanned input s) :
    Triple (· = s) (tickOnce params input) TickEnds RaisedValid := by
  have hcell : ∀ status, (cell .navigateWithReplanning).Ignored
      fun s : TreeState Pose Path => TickEnds status s := fun status =>
    (tickEnds_ignoresStatuses status).cell _
  have htick : Triple (· = s) (navigateWithReplanning params input).executeTick TickEnds
      RaisedValid := by
    refine BT.triple_executeTick_ignored hcell ?_ fun _ => triple_pure fun _ hs => hs
    show Triple _ (tickChildren idleChild pipelineCell (pipeline params input) 0 0
      (planning params input ++ [followPath params input]) >>= _) _ _
    rw [tickChildren_append, bind_assoc]
    refine triple_bind (planning_keepsPlan h) fun out => ?_
    cases out with
    | inl status =>
      refine triple_pure fun s' hs' => ?_
      cases status with
      | running => exact hs'
      | failure => exact hs'
      | _ => exact hs'.elim
    | inr skippedCount =>
      exact triple_start fun s' hs' => followPath_finishes h hs' hends skippedCount
  refine triple_bind htick fun status => triple_ite (fun _ => ?_) fun _ =>
    triple_pure fun _ hs => hs
  exact triple_bind (BT.triple_resetStatus (hcell status)) fun _ => triple_pure fun _ hs => hs

end Follow

/-! ## Between the ticks -/

section Events

variable [Inhabited Path] {input : TreeInput Path} {s : TreeState Pose Path}

/-- The server of `ComputePathToPose` goes on. -/
theorem Kept.computeServed (h : Kept s) (e : ServerEvent (ComputePathResult Path)) :
    Kept { s with computePath :=
      { s.computePath with requests := e.apply s.computePath.requests } } := by
  obtain ⟨hvalid, hgrow, hlength⟩ := e.apply_spec h.compute
  refine ⟨⟨hvalid, h.follow⟩, h.computeRests, fun hrunning => ?_,
    h.planned.imp id fun hfor => hfor.grow hgrow rfl, h.followRests, h.following,
    fun hrunning => (h.ended hrunning).grow hgrow rfl rfl id, h.last⟩
  obtain ⟨hquiet, base, haligned, hplans⟩ := h.computing hrunning
  have hspun : Spun s.computePath
      { s.computePath with requests := e.apply s.computePath.requests } :=
    .of_requests hvalid hgrow hlength
  refine ⟨hquiet, base, haligned.spun hspun, rfl, fun i r' hi hr' => ?_, hplans.next⟩
  obtain ⟨r, hr, hg⟩ := grows_of_length hgrow hlength hr'
  rw [hg.goal]
  exact hplans.sent i r hi hr

/-- The server of `FollowPath` goes on, and the client hears nothing. -/
theorem Kept.followServed (h : Kept s) (e : ServerEvent ErrorResult) :
    Kept { s with followPath :=
      { s.followPath with requests := e.apply s.followPath.requests } } := by
  obtain ⟨hvalid, hgrow, hlength⟩ := e.apply_spec h.follow
  have hheard : ∀ (i : GoalId) (r' : Request (FollowPathGoal Path) ErrorResult),
      (e.apply s.followPath.requests)[i]? = some r' → ∃ r, s.followPath.requests[i]? = some r ∧
        r'.goal = r.goal ∧ (r'.endHeard = true → r.endHeard = true) := by
    intro i r' hr'
    obtain ⟨r, hr, hg⟩ := grows_of_length hgrow hlength hr'
    refine ⟨r, hr, hg.goal, fun hended => ?_⟩
    have hears : Hears [] s.followPath
        { s.followPath with requests := e.apply s.followPath.requests } := hears_server e
    rcases hears.ended i r' hr' hended with ⟨r₁, hr₁, hold⟩ | htold
    · rw [hr] at hr₁
      cases hr₁
      exact hold
    · cases htold
  refine ⟨⟨h.compute, hvalid⟩, h.computeRests, h.computing, h.planned, h.followRests,
    fun hrunning => ?_, fun hrunning i r' hi hr' => ?_, h.last⟩
  · obtain ⟨hquiet, hdate, base, haligned⟩ := h.following hrunning
    have hspun : Spun s.followPath
        { s.followPath with requests := e.apply s.followPath.requests } :=
      .of_requests hvalid hgrow hlength
    refine ⟨hquiet, ⟨fun i hi r' hr' => ?_, fun hflag i r' hi hr' => ?_⟩, base,
      haligned.spun hspun⟩
    · obtain ⟨r, hr, _, hended⟩ := hheard i r' hr'
      exact Bool.eq_false_iff.mpr fun htrue =>
        Bool.eq_false_iff.mp (hdate.unheard i hi r hr) (hended htrue)
    · obtain ⟨r, hr, hgoal, _⟩ := hheard i r' hr'
      rw [hgoal]
      exact hdate.same hflag i r hi hr
  · obtain ⟨hnone, hhandle, r₁, hr₁, hended₁⟩ := hi
    obtain ⟨r, hr, hgoal, _⟩ := hheard i r' hr'
    obtain ⟨r₀, hr₀, _, hended⟩ := hheard i r₁ hr₁
    have hheld : HeldEnded s.followPath i := ⟨hnone, hhandle, r₀, hr₀, hended hended₁⟩
    rw [hgoal]
    exact h.ended hrunning i r hheld hr

/-- A navigation that begins. -/
theorem Halted.kept (h : Halted s) (hvalid : ClientsValid s) (goal : Pose) :
    Kept { s with blackboard := { s.blackboard with goal := goal } } where
  toClientsValid := ⟨hvalid.compute, hvalid.follow⟩
  computeRests := .inl h.computeIdle
  computing hrunning := absurd (h.computeIdle.symm.trans hrunning) NodeStatus.noConfusion
  planned := .inr (.inl h.path)
  followRests := .inl h.followIdle
  following hrunning := absurd (h.followIdle.symm.trans hrunning) NodeStatus.noConfusion
  ended hrunning := absurd (h.followIdle.symm.trans hrunning) NodeStatus.noConfusion
  last := Nat.le_trans (Nat.le_of_eq h.last) (Nat.zero_le 3)

variable [DecidableEq Pose] [DecidableEq Path]

/-- {goal} is changed only while `ComputePathToPose` is not RUNNING, and not
when `FollowPath` has heard of the end of the goal that it holds. In a tick,
`FollowPath` hears of an end only where a plan stands. -/
def UpdatesTaken (s : Navigation Pose Path) : NavigationLabel Pose Path → Prop
  | .preempt goal => goal ≠ s.tree.blackboard.goal →
    s.tree.computePath.status ≠ .running ∧
      ∀ i ∈ s.tree.followPath.goalHandle,
        ¬ (s.tree.followPath.status = .running ∧ HeldEnded s.tree.followPath i)
  | .tick input => EndsPlanned input s.tree
  | _ => True

instance UpdatesTaken.decidable (s : Navigation Pose Path) (l : NavigationLabel Pose Path) :
    Decidable (UpdatesTaken s l) :=
  match l with
  | .preempt goal => inferInstanceAs (Decidable (goal ≠ s.tree.blackboard.goal →
      s.tree.computePath.status ≠ .running ∧ ∀ i ∈ s.tree.followPath.goalHandle,
        ¬ (s.tree.followPath.status = .running ∧ HeldEnded s.tree.followPath i)))
  | .tick input => inferInstanceAs (Decidable (HearsEnd input.follow.spin s.tree.followPath →
      PlanStands s.tree ∧ deliveries input.compute.spin = []))
  | .goalReceived _ | .cancel _ | .leave | .haltAllActions _ | .computeServer _
  | .followServer _ => isTrue trivial

omit [DecidableEq Path] in
/-- A goal that is written while nothing is being planned for another one. -/
theorem Kept.setGoal {n : Navigation Pose Path} (h : Kept n.tree) {goal : Pose}
    (hc : UpdatesTaken n (.preempt goal)) :
    Kept { n.tree with blackboard := { n.tree.blackboard with goal := goal } } := by
  by_cases hsame : goal = n.tree.blackboard.goal
  · subst hsame
    exact h
  · obtain ⟨hrests, hopen⟩ := hc hsame
    exact ⟨⟨h.compute, h.follow⟩, h.computeRests, fun hrunning => absurd hrunning hrests, h.planned,
      h.followRests, h.following, fun hrunning i _ hi _ => absurd ⟨hrunning, hi⟩ (hopen i hi.2.1),
      h.last⟩

variable [Inhabited Pose]

/-! ## Runs -/

/-- What the events keep. -/
theorem kept_rules (params : TreeParams) :
    PhaseRules params (fun s : Navigation Pose Path => UpdatesTaken s) (fun _ _ tree => Kept tree)
      fun _ _ tree => ClientsValid tree where
  left _ _ _ hs := hs.toClientsValid
  started _ _ _ goal hs hhalted := hhalted.kept hs goal
  preempted _ _ _ _ hc hs := Kept.setGoal hs hc
  ticked _ _ _ input hends hs := by
    refine triple_conseq (tickOnce_follows hs hends) (fun _ h => h) (fun status _ hs' => ?_)
      fun _ _ he => he
    split
    · next hrunning =>
      subst hrunning
      exact hs'
    · exact hs'.clientsValid
  halted _ _ input := by
    refine triple_start fun tree hs => ?_
    -- no goal has been sent since now
    have haccounted : ∀ tree', tree' = tree →
        Accounted 0 tree.followPath.requests.length tree' := by
      intro tree' htree
      rw [htree]
      exact ⟨hs, .inl rfl⟩
    exact triple_conseq haltTree_halts haccounted
      (fun _ _ hs' => ⟨hs'.1.toClientsValid, hs'.2⟩) fun _ _ he he' => (he he').toClientsValid
  computeServed _ _ _ e _ htree := by
    subst htree
    exact ⟨fun hs => hs.computeServed e, fun hs => ⟨(e.apply_spec hs.compute).1, hs.follow⟩⟩
  followServed _ _ _ e _ htree := by
    subst htree
    exact ⟨fun hs => hs.followServed e, fun hs => ⟨hs.compute, (e.apply_spec hs.follow).1⟩⟩

theorem kept_of_reach {params : TreeParams} {s : Navigation Pose Path}
    (h : (navigationSystem params).Reach (fun s => UpdatesTaken s) s)
    (hphase : s.phase = .running) : Kept s.tree := by
  have hinv : InPhase (fun _ _ tree => Kept tree) (fun _ _ tree => ClientsValid tree) s := by
    refine h.invariant (InPhase (fun _ _ tree => Kept tree) fun _ _ tree => ClientsValid tree) ?_
      fun _ _ _ hs hc hstep => hs.step (kept_rules params) hc hstep
    rintro _ ⟨goal, rfl⟩
    exact .initial goal ⟨fun _ _ hr => (by cases hr), fun _ _ hr => (by cases hr)⟩
  exact hinv.running hphase

/-- **No goal update is lost** in a run that keeps to `UpdatesTaken`: when
the tree succeeds, the path that `FollowPath` has followed was planned for
the goal on the blackboard. -/
theorem no_update_lost {params : TreeParams} {s : Navigation Pose Path} {input : TreeInput Path}
    {tree : TreeState Pose Path}
    (h : (navigationSystem params).Reach (fun s => UpdatesTaken s) s) (hphase : s.phase = .running)
    (hc : UpdatesTaken s (.tick input))
    (htick : (tickOnce params input).run s.tree = .ok .success tree) : FollowedPlanned tree :=
  ((tickOnce_follows (kept_of_reach h hphase) hc).ok rfl htick).2

end Events

/-! ## A goal written while `ComputePathToPose` is RUNNING -/

/-- Navigations on poses that are numbers and paths that are lists of
them. -/
abbrev numberedNavigations :
    Transition.System (Navigation Nat (List Nat)) (NavigationLabel Nat (List Nat)) :=
  navigationSystem defaultParams

/-- Planning for goal 10 is accepted; goal 20 is written; the path to 10
arrives, and `FollowPath` is started with it. -/
def lostUpdate : List (NavigationLabel Nat (List Nat)) :=
  [.goalReceived 10,
    .tick { quietInput 0 with compute := ⟨accepted 0, true, silence, []⟩ },
    .preempt 20,
    .tick { quietInput 100 with
      compute := ⟨silence, true, silence, succeeded 0 ⟨[1, 10], default⟩⟩
      follow := ⟨accepted 0, true, silence, []⟩ }]

/-- The result for the path to 10 arrives. -/
def followedOld : TreeInput (List Nat) :=
  { quietInput 200 with follow := ⟨silence, true, silence, succeeded 0 default⟩ }

/-- The tree, which a navigation ticks, succeeds, in a state with `p`. -/
def succeedsWith (input : TreeInput (List Nat)) (p : TreeState Nat (List Nat) → Bool)
    (s : Navigation Nat (List Nat)) : Bool :=
  s.phase == .running &&
    match (tickOnce defaultParams input).run s.tree with
    | .ok .success tree => p tree
    | _ => false

theorem exists_of_succeedsWith {input : TreeInput (List Nat)}
    {p : TreeState Nat (List Nat) → Bool} {s : Navigation Nat (List Nat)}
    (h : succeedsWith input p s = true) : s.phase = .running ∧
      ∃ tree, (tickOnce defaultParams input).run s.tree = .ok .success tree ∧ p tree = true := by
  rw [succeedsWith, Bool.and_eq_true, beq_iff_eq] at h
  obtain ⟨hphase, hsucceeds⟩ := h
  split at hsucceeds
  · next tree hrun => exact ⟨hphase, tree, hrun, hsucceeds⟩
  · cases hsucceeds

/-- The tree succeeds with a path that was not planned for the goal on the
blackboard: no request was ever sent for it. -/
theorem update_lost : ∃ s tree, numberedNavigations.Reach anyStep s ∧ s.phase = .running ∧
    (tickOnce defaultParams followedOld).run s.tree = .ok .success tree ∧
    ¬ FollowedPlanned tree := by
  obtain ⟨s, hr, hs⟩ := exists_reach_of_runWhile (S := numberedNavigations) anyStep lostUpdate
    (succeedsWith followedOld fun tree =>
      tree.computePath.requests.all fun r => r.goal.goal != tree.blackboard.goal)
    ⟨0, rfl⟩ (by decide +kernel)
  obtain ⟨hphase, tree, hrun, hnone⟩ := exists_of_succeedsWith hs
  refine ⟨s, tree, hr, hphase, hrun, ?_⟩
  rintro ⟨_, _, _, _, j, request, hj, hgoal, _⟩
  have hother := List.all_eq_true.mp hnone request (List.mem_of_getElem? hj)
  rw [hgoal, bne_self_eq_false] at hother
  cases hother

/-- The path to 10 is planned at once and followed; goal 20 is written, and
more than a second later it is planned for. -/
def takenUpdate : List (NavigationLabel Nat (List Nat)) :=
  [.goalReceived 10,
    .tick { quietInput 0 with
      compute := ⟨accepted 0, true, silence, succeeded 0 ⟨[1, 10], default⟩⟩
      follow := ⟨accepted 0, true, silence, []⟩ },
    .preempt 20,
    .tick { quietInput 1500 with
      compute := ⟨accepted 1, true, silence, succeeded 1 ⟨[1, 20], default⟩⟩
      follow := ⟨silence, true, accepted 1, []⟩ }]

/-- The result for the path to 20 arrives. -/
def followedNew : TreeInput (List Nat) :=
  { quietInput 1600 with follow := ⟨silence, true, silence, succeeded 1 default⟩ }

/-- The path followed to the end was planned for goal 20. -/
theorem no_update_lost_replanned : ∃ s tree,
    numberedNavigations.Reach (fun s => UpdatesTaken s) s ∧ s.phase = .running ∧
    (tickOnce defaultParams followedNew).run s.tree = .ok .success tree ∧
    tree.blackboard.goal = 20 ∧ FollowedPlanned tree := by
  obtain ⟨s, hr, hs⟩ := exists_reach_of_runWhile (S := numberedNavigations)
    (fun s => UpdatesTaken s) takenUpdate
    (fun s : Navigation Nat (List Nat) => UpdatesTaken s (.tick followedNew) &&
      succeedsWith followedNew (fun tree => tree.blackboard.goal == 20) s)
    ⟨0, rfl⟩ (by decide +kernel)
  rw [Bool.and_eq_true, decide_eq_true_eq] at hs
  obtain ⟨hphase, tree, hrun, hgoal⟩ := exists_of_succeedsWith hs.2
  exact ⟨s, tree, hr, hphase, hrun, beq_iff_eq.mp hgoal, no_update_lost hr hphase hs.1 hrun⟩

end Nav3D.BtNavigator

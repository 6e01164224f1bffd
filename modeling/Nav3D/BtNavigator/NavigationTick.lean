/-
Nav3D.BtNavigator.NavigationTick — a tick of the tree before and after the
first goal of a navigation.

While there is no plan the planning part ticks `ComputePathToPose`, and the
pipeline comes to `FollowPath` when that has returned SUCCESS
(`planning_plans`); afterwards every tick keeps what was sent first
(`planning_keepsFirst`). When a navigation ends the tree is halted
(`haltTree_halts`).
-/
import Nav3D.BtNavigator.PlanningNodes

namespace Nav3D.BtNavigator

open Nav3D.Ros Nav3D.BehaviorTree StateInvariant Transition.System
open BT (NodeStatus StatusCell TreeNode leaf)

variable {Pose Path : Type}

/-! ## A tick of the tree -/

/-- What the tick of the planning part comes to, by the status. -/
def PlanTicked [Inhabited Path] (computeBase followBase : Nat) (status : NodeStatus)
    (s : TreeState Pose Path) : Prop :=
  match status with
  | .success => PlanReady computeBase followBase s
  | .running | .failure => BeforePlan computeBase followBase s
  | _ => False

section Tick

variable [Inhabited Path] {computeBase followBase : Nat} {params : TreeParams}
  {input : TreeInput Path} {s : TreeState Pose Path}

theorem planTicked_aboutPlans (status : NodeStatus) :
    AboutPlans fun s : TreeState Pose Path => PlanTicked computeBase followBase status s := by
  intro s s' hs hsame
  cases status with
  | success => exact PlanReady.aboutPlans s s' hs hsame
  | running => exact BeforePlan.aboutPlans s s' hs hsame
  | failure => exact BeforePlan.aboutPlans s s' hs hsame
  | idle => exact hs.elim
  | skipped => exact hs.elim

/-- The node as it is when it is ticked. -/
theorem BeforePlan.along (h : BeforePlan computeBase followBase s) :
    ∃ base, computeBase ≤ base ∧ Along base .start (viewCompute s) := by
  rcases h.computing with hidle | ⟨hrunning, haligned⟩
  · refine ⟨s.computePath.requests.length, h.base, h.compute, fun hactive => ?_, fun _ => rfl⟩
    rw [show (viewCompute s).status = .idle from hidle] at hactive
    cases hactive
  · refine ⟨computeBase, Nat.le_refl _, h.compute, fun _ => ⟨hrunning, ?_⟩, fun hinactive => ?_⟩
    · exact ⟨haligned.valid, haligned.follows⟩
    · rw [show (viewCompute s).status = .running from hrunning] at hinactive
      cases hinactive

variable [Inhabited Pose]

/-- `ComputePathToPose` as a child of the fallback. -/
theorem computePathToPose_plans :
    Triple (fun s : TreeState Pose Path => BeforePlan computeBase followBase s)
      (computePathToPose params input).executeTick
      (fun status s => match status with
        | .success => PlanReady computeBase followBase s
        | .running => BeforePlan computeBase followBase s
        | .failure => PlanFailed computeBase followBase s
        | _ => False)
      (RaisedAccounted computeBase followBase) := by
  refine BT.triple_executeTick (triple_start fun s hs => ?_) fun _ => triple_pure fun _ h => h
  obtain ⟨base, hbase, hstart⟩ := hs.along
  have hunsent : ∀ {n}, Grown (viewCompute s) n → ∀ status, Unsent computeBase followBase
      ((computePathToPose params input).setStatus status (putCompute n s)) := fun hgrown _ =>
    ⟨⟨hgrown.1, hs.follow⟩, hs.unsent, hs.followIdle,
      Nat.le_trans hs.base hgrown.2.length_le, hs.last⟩
  refine triple_conseq (triple_zoom (tick_trace hstart.1)) (fun _ h => h) ?_ ?_
  · rintro status _ ⟨n, hrun, rfl⟩
    have hgrown := hrun.grown hstart.1
    obtain ⟨halong, hpath⟩ := computePathToPose_path hrun hstart
    rw [show nodePath (viewCompute s) = default from hs.path] at hpath
    cases status with
    | running =>
      rw [if_neg NodeStatus.noConfusion]
      refine ⟨hunsent hgrown _, hpath, .inr ⟨rfl, ?_⟩⟩
      have hmono := (halong.2.resolve_left NodeStatus.noConfusion).mono hbase
      exact ⟨hmono.valid, hmono.follows⟩
    | success =>
      rw [if_neg NodeStatus.noConfusion]
      exact ⟨hunsent hgrown _, hpath.mono hbase, NodeStatus.noConfusion⟩
    | failure =>
      rw [if_neg NodeStatus.noConfusion]
      exact ⟨hunsent hgrown _, hpath.elim id id⟩
    | idle => exact hpath.elim
    | skipped => exact hpath.elim
  · rintro e _ ⟨n, hrun, rfl⟩ _
    exact ⟨⟨(hrun.grown hstart.1).1, hs.follow⟩, .inl hs.unsent⟩

/-- A tick of `ComputePathToPose` after the first goal has been sent. -/
theorem firstSent_computeTicks :
    Triple (fun s : TreeState Pose Path => FirstSent computeBase followBase s)
      (computePathToPose params input).executeTick (fun _ s => FirstSent computeBase followBase s)
      (RaisedAccounted computeBase followBase) := by
  refine BT.triple_executeTick (triple_start fun s hs => ?_) fun _ => triple_pure fun _ h => h
  have hsent : ∀ {n}, Grown (viewCompute s) n →
      FirstSent computeBase followBase (putCompute n s) := fun hgrown =>
    ⟨⟨hgrown.1, hs.follow⟩, hs.first.grow hgrown.2 (.refl _)⟩
  have hvalid : RequestsValid (viewCompute s).requests := hs.compute
  refine triple_conseq (triple_zoom (tick_grows hvalid)) (fun _ h => h) ?_ ?_
  · rintro status _ ⟨n, hgrown, rfl⟩
    have hn := hsent hgrown
    split
    · exact hn
    · exact ⟨⟨hn.compute, hn.follow⟩, hn.first⟩
  · rintro e _ ⟨n, hgrown, rfl⟩ _
    exact (hsent hgrown).accounted

variable [DecidableEq Pose] [DecidableEq Path]

omit [Inhabited Pose] in
/-- The conditions do not succeed with an empty path. -/
theorem reactiveSequence_fails (hempty : ¬ FoundValid input default) :
    Triple (fun s : TreeState Pose Path => BeforePlan computeBase followBase s)
      (reactiveSequence input).executeTick
      (Decides (fun _ => False) fun s => BeforePlan computeBase followBase s)
      (RaisedAccounted computeBase followBase) := by
  have hstatuses : IgnoresStatuses fun s : TreeState Pose Path =>
      BeforePlan computeBase followBase s := BeforePlan.aboutPlans.ignoresStatuses
  refine triple_post (reactiveSequence_ticks hstatuses BeforePlan.aboutPlans hstatuses
    (fun _ hs => hs) (fun _ _ => raisedAccounted_of_ne)
    (globalUpdatedGoal_completes hstatuses fun _ _ hs => ⟨⟨⟨hs.compute, hs.follow⟩, hs.unsent,
      hs.followIdle, hs.base, hs.last⟩, hs.path, hs.computing⟩)) fun status s hs => ?_
  cases status with
  | success =>
    obtain ⟨hbefore, hvalid⟩ := hs
    rw [hbefore.path] at hvalid
    exact hempty hvalid
  | _ => exact hs

/-- **As long as {path} is empty, `ComputePathToPose` is ticked**, and the
fallback succeeds when that has a plan. -/
theorem reactiveFallback_plans (hempty : ¬ FoundValid input default) :
    Triple (fun s : TreeState Pose Path => BeforePlan computeBase followBase s)
      (reactiveFallback params input).executeTick (PlanTicked computeBase followBase)
      (RaisedAccounted computeBase followBase) := by
  have hbefore : IgnoresStatuses fun s : TreeState Pose Path =>
      BeforePlan computeBase followBase s := BeforePlan.aboutPlans.ignoresStatuses
  refine reactiveFallback_ticks hbefore (fun _ _ hs => hs.elim) hbefore
    PlanReady.aboutPlans.ignoresStatuses PlanFailed.aboutPlans.ignoresStatuses
    (fun status => (planTicked_aboutPlans status).ignoresStatuses)
    (fun _ _ => raisedAccounted_of_ne) (reactiveSequence_fails hempty) computePathToPose_plans
    (fun _ hs => hs.elim) ?_ ?_ fun _ hs => hs.failed
  · exact computePathToPose_halts (fun _ _ => raisedAccounted_of_ne) (fun _ hs => hs.compute)
      fun _ _ hs hs' => hs.computeHalted hs'
  · exact computePathToPose_halts (fun _ _ => raisedAccounted_of_ne) (fun _ hs => hs.compute)
      fun _ _ hs hs' => hs.computeStopped hs'.toComputeStopped

/-! ### The pipeline -/

theorem rateController_plans (hempty : ¬ FoundValid input default) :
    Triple (fun s : TreeState Pose Path => BeforePlan computeBase followBase s)
      (rateController rateCell (some replanningPeriod) input.clock
        (reactiveFallback params input)).executeTick
      (PlanTicked computeBase followBase) (RaisedAccounted computeBase followBase) :=
  rateController_ticks BeforePlan.aboutPlans.ignoresStatuses
    (fun status => (planTicked_aboutPlans status).ignoresStatuses)
    (fun _ s hs => BeforePlan.aboutPlans s _ hs ⟨rfl, rfl, rfl, rfl, rfl, rfl⟩)
    (fun _ s hs => PlanReady.aboutPlans s _ hs ⟨rfl, rfl, rfl, rfl, rfl, rfl⟩) (fun _ hf => hf)
    (fun _ hs => hs) (reactiveFallback_plans hempty)

omit [Inhabited Pose] [Inhabited Path] [DecidableEq Pose] [DecidableEq Path] in
theorem Unsent.setLastChildTicked (h : Unsent computeBase followBase s) {i : Nat} (hi : i ≤ 2) :
    Unsent computeBase followBase (pipelineCell.setLastChildTicked i s) :=
  ⟨⟨h.compute, h.follow⟩, h.unsent, h.followIdle, h.base, hi⟩

omit [Inhabited Pose] [DecidableEq Pose] [DecidableEq Path] in
theorem BeforePlan.setLastChildTicked (h : BeforePlan computeBase followBase s) {i : Nat}
    (hi : i ≤ 2) : BeforePlan computeBase followBase (pipelineCell.setLastChildTicked i s) :=
  ⟨h.toUnsent.setLastChildTicked hi, h.path, h.computing⟩

/-- What the loop over the planning part comes to. -/
def PlanningTicked (computeBase followBase : Nat) (out : NodeStatus ⊕ Nat)
    (s : TreeState Pose Path) : Prop :=
  match out with
  | .inl _ => BeforePlan computeBase followBase s
  | .inr _ => PlanReady computeBase followBase s

/-- The tick comes to `FollowPath` only when there is a plan. -/
theorem planning_plans (hempty : ¬ FoundValid input default) :
    Triple (fun s : TreeState Pose Path => BeforePlan computeBase followBase s)
      (tickChildren idleChild pipelineCell (pipeline params input) 0 0 (planning params input))
      (PlanningTicked computeBase followBase) (RaisedAccounted computeBase followBase) := by
  have hfailed : Triple (fun s : TreeState Pose Path => BeforePlan computeBase followBase s)
      (BT.haltChildren (pipeline params input)) (fun _ s =>
        BeforePlan computeBase followBase (pipelineCell.setLastChildTicked 0 s))
      (RaisedAccounted computeBase followBase) :=
    triple_conseq (BT.triple_haltChildren (pipeline_halts BeforePlan.aboutPlans.ignoresStatuses
      beforePlan_computeHalts beforePlan_followHalts)) (fun _ hs => hs)
      (fun _ _ hs => hs.setLastChildTicked (by decide)) fun _ _ he => he
  refine planning_ticks BeforePlan.aboutPlans (fun _ _ => raisedAccounted_of_ne) hfailed
    (fun i hi s hs => hs.setLastChildTicked (Nat.le_succ_of_le hi)) fun skippedCount => ?_
  refine triple_tickChild (rateController_plans hempty) hfailed (fun s hs _ => ?_)
    (triple_start fun s hs => ?_) (triple_pure fun _ hs => hs) (triple_start fun _ hf => hf.elim)
    fun _ hf => hf.elim
  · exact BeforePlan.setLastChildTicked hs (by decide)
  · exact absurd hs.1.last hs.2

omit [Inhabited Pose] [DecidableEq Pose] in
/-- **The first goal is for the plan.** -/
theorem followPath_sendsFirst :
    Triple (fun s : TreeState Pose Path => PlanReady computeBase followBase s)
      (followPath params input).executeTick (fun _ s => FirstSent computeBase followBase s)
      (RaisedAccounted computeBase followBase) := by
  refine BT.triple_executeTick (triple_start fun s hs => ?_) fun _ => triple_pure fun _ h => h
  have hvalid : RequestsValid (viewFollow s).requests := hs.follow
  have htick : Triple (· = viewFollow s)
      (BehaviorTree.tick (followPathHooks {}) params.follow input.follow)
      (fun _ n => RequestsValid n.requests ∧
        ∃ r, n.requests[followBase]? = some r ∧ r.goal.path = nodePath (viewFollow s))
      (fun _ n => RequestsValid n.requests ∧
        ∃ r, n.requests[followBase]? = some r ∧ r.goal.path = nodePath (viewFollow s)) :=
    followPath_tick hvalid hs.followIdle hs.unsent rfl
  have hsent : ∀ {n : FollowNode Pose Path}, RequestsValid n.requests →
      (∃ r, n.requests[followBase]? = some r ∧ r.goal.path = nodePath (viewFollow s)) →
      FirstSent computeBase followBase (putFollow n s) := by
    rintro n hn ⟨r, hr, hpath⟩
    exact ⟨⟨hs.compute, hn⟩, r, hr, hpath ▸ hs.path⟩
  refine triple_conseq (triple_zoom htick) (fun _ h => h) ?_ ?_
  · rintro status _ ⟨n, ⟨hn, hfirst⟩, rfl⟩
    have hsent' := hsent hn hfirst
    split
    · exact hsent'
    · exact ⟨⟨hsent'.compute, hsent'.follow⟩, hsent'.first⟩
  · rintro e _ ⟨n, ⟨hn, hfirst⟩, rfl⟩ _
    exact (hsent hn hfirst).accounted

/-! ### After the first goal -/

omit [Inhabited Pose] [DecidableEq Pose] in
theorem firstSent_followTicks :
    Triple (fun s : TreeState Pose Path => FirstSent computeBase followBase s)
      (followPath params input).executeTick (fun _ s => FirstSent computeBase followBase s)
      (RaisedAccounted computeBase followBase) := by
  refine BT.triple_executeTick (triple_start fun s hs => ?_) fun _ => triple_pure fun _ h => h
  have hsent : ∀ {n}, Grown (viewFollow s) n →
      FirstSent computeBase followBase (putFollow n s) := fun hgrown =>
    ⟨⟨hs.compute, hgrown.1⟩, hs.first.grow (.refl _) hgrown.2⟩
  have hvalid : RequestsValid (viewFollow s).requests := hs.follow
  refine triple_conseq (triple_zoom (tick_grows hvalid)) (fun _ h => h) ?_ ?_
  · rintro status _ ⟨n, hgrown, rfl⟩
    have hn := hsent hgrown
    split
    · exact hn
    · exact ⟨⟨hn.compute, hn.follow⟩, hn.first⟩
  · rintro e _ ⟨n, hgrown, rfl⟩ _
    exact (hsent hgrown).accounted

/-- The planning part after the first goal has been sent. -/
theorem planning_keepsFirst :
    ∀ c ∈ planning params input,
      Triple (fun s : TreeState Pose Path => FirstSent computeBase followBase s) c.executeTick
        (fun _ s => FirstSent computeBase followBase s)
        (RaisedAccounted computeBase followBase) := by
  have hcell : ∀ id : NodeId, (cell id).Ignored
      fun s : TreeState Pose Path => FirstSent computeBase followBase s :=
    FirstSent.aboutPlans.ignoresStatuses.cell
  have hsequence : Triple (fun s : TreeState Pose Path => FirstSent computeBase followBase s)
      (reactiveSequence input).executeTick (fun _ s => FirstSent computeBase followBase s)
      (RaisedAccounted computeBase followBase) :=
    triple_post (reactiveSequence_ticks FirstSent.aboutPlans.ignoresStatuses FirstSent.aboutPlans
      FirstSent.aboutPlans.ignoresStatuses (fun _ hs => hs) (fun _ _ => raisedAccounted_of_ne)
      (globalUpdatedGoal_completes FirstSent.aboutPlans.ignoresStatuses fun _ _ hs =>
        ⟨⟨hs.compute, hs.follow⟩, hs.first⟩)) fun status s hs => hs.elim_status (·.1) id
  have hfallback : Triple (fun s : TreeState Pose Path => FirstSent computeBase followBase s)
      (reactiveFallback params input).executeTick (fun _ s => FirstSent computeBase followBase s)
      (RaisedAccounted computeBase followBase) := by
    refine BT.triple_reactive_first (fun _ => raisedAccounted_of_ne (by decide)) (.inr ⟨rfl, rfl⟩)
      (hcell _) (hcell _) hsequence (fun c hc => ?_) (fun c hc => ?_)
    · rw [List.mem_singleton.mp hc]
      exact firstSent_computeTicks
    · simp only [List.mem_cons, List.not_mem_nil, or_false] at hc
      rcases hc with rfl | rfl
      · exact reactiveSequence_halts FirstSent.aboutPlans.ignoresStatuses
      · exact firstSent_computeHalts
  have hrate : ∀ members (s : TreeState Pose Path), FirstSent computeBase followBase s →
      FirstSent computeBase followBase (rateCell.setMembers members s) := fun _ s hs =>
    FirstSent.aboutPlans s _ hs ⟨rfl, rfl, rfl, rfl, rfl, rfl⟩
  intro c hc
  rcases List.mem_append.mp (show c ∈ [controllerSelector input, plannerSelector input] ++
    [rateController rateCell (some replanningPeriod) input.clock (reactiveFallback params input)]
    from hc)
    with hmem | hmem
  · exact selectors_keep FirstSent.aboutPlans c hmem
  · rw [List.mem_singleton.mp hmem]
    exact triple_rateController (hcell _) hrate (fun _ => hcell _) hrate (fun _ => hcell _)
      (fun _ hs => hs) (fun s hs => hcell _ _ s hs) hfallback

omit [Inhabited Pose] [DecidableEq Pose] [DecidableEq Path] in
theorem FirstSent.setLastChildTicked (h : FirstSent computeBase followBase s) (i : Nat) :
    FirstSent computeBase followBase (pipelineCell.setLastChildTicked i s) :=
  ⟨⟨h.compute, h.follow⟩, h.first⟩

theorem pipeline_haltsFirst :
    ∀ c ∈ pipeline params input,
      Triple (fun s : TreeState Pose Path => FirstSent computeBase followBase s) c.haltChild
        (fun _ s => FirstSent computeBase followBase s)
        (RaisedAccounted computeBase followBase) :=
  pipeline_halts FirstSent.aboutPlans.ignoresStatuses firstSent_computeHalts firstSent_followHalts

/-- The rest of the loop over the children, after the first goal has been
sent. -/
theorem children_keepFirst (cs : List (Node Pose Path)) (i skippedCount : Nat)
    (hlength : i + cs.length ≤ 4) (hcs : ∀ c ∈ cs, c ∈ pipeline params input) :
    Triple (fun s : TreeState Pose Path => FirstSent computeBase followBase s)
      (tickChildren idleChild pipelineCell (pipeline params input) i skippedCount cs)
      (fun _ s => FirstSent computeBase followBase s)
      (RaisedAccounted computeBase followBase) := by
  refine triple_conseq (triple_tickChildren (fun _ _ => raisedAccounted_of_ne (by decide))
    (fun i _ s hs => hs.setLastChildTicked i) pipeline_haltsFirst cs i skippedCount hlength
    fun c hc => ?_) (fun _ hs => hs) (fun _ _ hs => hs.1) fun _ _ he => he
  rcases List.mem_append.mp (hcs c hc) with hmem | hmem
  · exact planning_keepsFirst c hmem
  · rw [List.mem_singleton.mp hmem]
    exact firstSent_followTicks

/-! ### The whole tick -/

/-- What holds between the ticks of a navigation. -/
def Navigated (computeBase followBase : Nat) (s : TreeState Pose Path) : Prop :=
  BeforePlan computeBase followBase s ∨ FirstSent computeBase followBase s

omit [Inhabited Pose] [DecidableEq Pose] [DecidableEq Path] in
theorem Navigated.aboutPlans :
    AboutPlans fun s : TreeState Pose Path => Navigated computeBase followBase s := by
  rintro s s' (hs | hs) hsame
  · exact .inl (BeforePlan.aboutPlans s s' hs hsame)
  · exact .inr (FirstSent.aboutPlans s s' hs hsame)

omit [Inhabited Pose] [DecidableEq Pose] [DecidableEq Path] in
/-- The goal is not looked at. -/
theorem BeforePlan.setGoal (h : BeforePlan computeBase followBase s) (goal : Pose) :
    BeforePlan computeBase followBase
      { s with blackboard := { s.blackboard with goal := goal } } :=
  ⟨⟨⟨h.compute, h.follow⟩, h.unsent, h.followIdle, h.base, h.last⟩, h.path, h.computing⟩

omit [Inhabited Pose] [DecidableEq Pose] [DecidableEq Path] in
theorem Navigated.setGoal (h : Navigated computeBase followBase s) (goal : Pose) :
    Navigated computeBase followBase
      { s with blackboard := { s.blackboard with goal := goal } } :=
  h.imp (fun hbefore => hbefore.setGoal goal)
    fun hfirst => ⟨⟨hfirst.compute, hfirst.follow⟩, hfirst.first⟩

omit [Inhabited Pose] [DecidableEq Pose] [DecidableEq Path] in
theorem Navigated.accounted (h : Navigated computeBase followBase s) :
    Accounted computeBase followBase s := by
  rcases h with hs | hs
  · exact hs.toUnsent.accounted
  · exact hs.accounted

/-- The rest of a tick that comes to `FollowPath` with a plan. -/
theorem followPath_ends (skippedCount : Nat) :
    Triple (fun s : TreeState Pose Path => PlanReady computeBase followBase s)
      (tickChildren idleChild pipelineCell (pipeline params input) 3 skippedCount
        [followPath params input] >>= endPipeline pipelineCell (pipeline params input))
      (fun _ s => FirstSent computeBase followBase s)
      (RaisedAccounted computeBase followBase) := by
  have hrest : ∀ k, Triple (fun s : TreeState Pose Path => FirstSent computeBase followBase s)
      (tickChildren idleChild pipelineCell (pipeline params input) 4 k [])
      (fun _ s => FirstSent computeBase followBase s) (RaisedAccounted computeBase followBase) :=
    fun k => children_keepFirst [] 4 k (Nat.le_refl 4) fun _ hc => by cases hc
  refine triple_bind (Q := fun _ s => FirstSent computeBase followBase s)
    (triple_tickChild (T := fun _ s => FirstSent computeBase followBase s) followPath_sendsFirst
      ?_ (fun s hs _ => hs.setLastChildTicked 3) ?_ (hrest _) (hrest _)
      fun _ _ => raisedAccounted_of_ne (by decide)) fun out => ?_
  · exact triple_conseq (BT.triple_haltChildren pipeline_haltsFirst) (fun _ hs => hs)
      (fun _ _ hs => hs.setLastChildTicked 0) fun _ _ he => he
  · exact triple_conseq (hrest _) (fun _ hs => hs.1) (fun _ _ hs => hs) fun _ _ he => he
  · exact triple_endPipeline (fun _ hs => hs.setLastChildTicked 0) pipeline_haltsFirst out

/-- A tick before the first goal. -/
theorem navigate_plans (hempty : ¬ FoundValid input default) :
    Triple (fun s : TreeState Pose Path => BeforePlan computeBase followBase s)
      (navigateWithReplanning params input).executeTick
      (fun _ s => Navigated computeBase followBase s)
      (RaisedAccounted computeBase followBase) := by
  refine BT.triple_executeTick_ignored
    (fun _ => Navigated.aboutPlans.ignoresStatuses.cell .navigateWithReplanning) ?_
    fun _ => triple_pure fun _ hs => hs
  show Triple _ (tickChildren idleChild pipelineCell (pipeline params input) 0 0
    (planning params input ++ [followPath params input]) >>= _) _ _
  rw [tickChildren_append, bind_assoc]
  refine triple_bind (planning_plans hempty) fun out => ?_
  cases out with
  | inl status => exact triple_pure fun _ hs => .inl hs
  | inr skippedCount =>
    exact triple_conseq (followPath_ends skippedCount) (fun _ hs => hs) (fun _ _ hs => .inr hs)
      fun _ _ he => he

/-- A tick after the first goal. -/
theorem navigate_keepsFirst :
    Triple (fun s : TreeState Pose Path => FirstSent computeBase followBase s)
      (navigateWithReplanning params input).executeTick
      (fun _ s => FirstSent computeBase followBase s)
      (RaisedAccounted computeBase followBase) := by
  refine BT.triple_executeTick_ignored
    (fun _ => FirstSent.aboutPlans.ignoresStatuses.cell .navigateWithReplanning) ?_
    fun _ => triple_pure fun _ hs => hs
  exact triple_bind (children_keepFirst _ 0 0 (Nat.le_refl 4) fun _ hc => hc) fun out =>
    triple_endPipeline (fun _ hs => hs.setLastChildTicked 0) pipeline_haltsFirst out

/-- **A tick of the tree.** -/
theorem tickOnce_navigates {s : TreeState Pose Path} (h : Navigated computeBase followBase s)
    (hempty : ¬ FoundValid input default) :
    Triple (· = s) (tickOnce params input) (fun _ s => Navigated computeBase followBase s)
      (RaisedAccounted computeBase followBase) := by
  have htick : Triple (· = s) (navigateWithReplanning params input).executeTick
      (fun _ s => Navigated computeBase followBase s)
      (RaisedAccounted computeBase followBase) := by
    rcases h with hbefore | hfirst
    · exact triple_conseq (navigate_plans hempty) (by rintro _ rfl; exact hbefore)
        (fun _ _ hs => hs) fun _ _ he => he
    · exact triple_conseq navigate_keepsFirst (by rintro _ rfl; exact hfirst)
        (fun _ _ hs => .inr hs) fun _ _ he => he
  refine triple_bind htick fun status => triple_ite (fun _ => ?_) fun _ =>
    triple_pure fun _ hs => hs
  exact triple_bind (BT.triple_resetStatus
    (Navigated.aboutPlans.ignoresStatuses.cell .navigateWithReplanning)) fun _ =>
    triple_pure fun _ hs => hs

end Tick

/-! ## The end of a navigation -/

section HaltTree

variable [Inhabited Pose] [Inhabited Path] [DecidableEq Pose] [DecidableEq Path]
  {computeBase followBase : Nat} {params : TreeParams} {input : TreeInput Path}
  {s s' : TreeState Pose Path}

omit [Inhabited Pose] [DecidableEq Pose] [DecidableEq Path] in
theorem Accounted.computeStopped (h : Accounted computeBase followBase s)
    (hs' : ComputeStopped s s') : Accounted computeBase followBase s' :=
  ⟨h.toClientsValid.computeStopped hs',
    h.first.imp (fun hl => by rw [hs'.followPath]; exact hl) fun hf => hf.computeStopped hs'⟩

omit [Inhabited Pose] [DecidableEq Pose] [DecidableEq Path] in
theorem Accounted.followStopped (h : Accounted computeBase followBase s)
    (hs' : FollowStopped s s') : Accounted computeBase followBase s' :=
  ⟨h.toClientsValid.followStopped hs', h.first.imp hs'.length.trans fun hf => hf.followStopped hs'⟩

/-- What holds in `haltTree()` once the root has been halted. -/
def RootHalted (computeBase followBase : Nat) (s : TreeState Pose Path) : Prop :=
  Accounted computeBase followBase s ∧ s.lastChildTicked = 0

omit [Inhabited Pose] [DecidableEq Pose] [DecidableEq Path] in
theorem Accounted.ignoresStatuses :
    IgnoresStatuses fun s : TreeState Pose Path => Accounted computeBase followBase s :=
  fun _ _ hs => ⟨⟨hs.compute, hs.follow⟩, hs.first⟩

/-- **`haltTree()` clears the path and stops both action nodes.** -/
theorem haltTree_halts :
    Triple (fun s : TreeState Pose Path => Accounted computeBase followBase s)
      (haltTree params input) (fun _ s => Accounted computeBase followBase s ∧ Halted s)
      (RaisedAccounted computeBase followBase) := by
  have hstatuses : IgnoresStatuses fun s : TreeState Pose Path =>
      RootHalted computeBase followBase s := fun s statuses hs =>
    ⟨Accounted.ignoresStatuses s statuses hs.1, hs.2⟩
  have hroot : Triple (fun s : TreeState Pose Path => Accounted computeBase followBase s)
      (navigateWithReplanning params input).halt
      (fun _ s => RootHalted computeBase followBase s)
      (RaisedAccounted computeBase followBase) := by
    refine halt_pipelineSequence
        (P := fun s : TreeState Pose Path => Accounted computeBase followBase s)
      (Accounted.ignoresStatuses.cell .navigateWithReplanning)
      (fun s hs => ⟨⟨⟨hs.compute, hs.follow⟩, hs.first⟩, rfl⟩)
      (pipeline_halts Accounted.ignoresStatuses ?_ ?_)
    · exact computePathToPose_halts (fun _ _ => raisedAccounted_of_ne) (fun _ hs => hs.compute)
        fun _ _ hs hs' => hs.computeStopped hs'.toComputeStopped
    · exact followPath_halts (fun _ _ => raisedAccounted_of_ne) (fun _ hs => hs.follow)
        fun _ _ hs hs' => hs.followStopped hs'.toFollowStopped
  have hplain : ∀ n ∈ plainNodes params input,
      Triple (fun s : TreeState Pose Path => RootHalted computeBase followBase s) n.halt
        (fun _ s => RootHalted computeBase followBase s)
        (RaisedAccounted computeBase followBase) := by
    refine plainNodes_halt hstatuses (fun s hs => ⟨⟨⟨hs.1.compute, hs.1.follow⟩, hs.1.first⟩, rfl⟩)
      ?_ ?_
    · exact computePathToPose_halts (fun _ _ => raisedAccounted_of_ne) (fun _ hs => hs.1.compute)
        fun _ _ hs hs' => ⟨hs.1.computeStopped hs'.toComputeStopped, hs'.last.trans hs.2⟩
    · exact followPath_halts (fun _ _ => raisedAccounted_of_ne) (fun _ hs => hs.1.follow)
        fun _ _ hs hs' => ⟨hs.1.followStopped hs'.toFollowStopped, hs'.last.trans hs.2⟩
  refine triple_bind hroot fun _ => ?_
  rw [BT.haltNodes_append]
  refine triple_bind (Q := fun _ s => Accounted computeBase followBase s ∧ Halted s) ?_ fun _ =>
    triple_modify fun s hs => ⟨Accounted.ignoresStatuses.cell .navigateWithReplanning _ s hs.1,
      hs.2.path, hs.2.computeIdle, hs.2.followIdle, hs.2.last⟩
  refine triple_bind (BT.triple_haltNodes hplain) fun _ => ?_
  -- the action nodes come last
  refine triple_bind (Q := fun _ s => RootHalted computeBase followBase s ∧
    s.computePath.status = .idle ∧ readPath s = default) (triple_start fun s hs => ?_) fun _ => ?_
  · refine triple_conseq (computePathToPose_halt hs.1.compute) (fun _ h => h)
      (fun _ s' hs' => ?_) fun _ _ => raisedAccounted_of_ne
    exact ⟨⟨hs.1.computeStopped hs'.1, hs'.1.last.trans hs.2⟩, hs'.1.status, hs'.2⟩
  · refine triple_bind (Q := fun _ s => Accounted computeBase followBase s ∧ Halted s)
      (triple_start fun s hs => ?_) fun _ => triple_pure fun _ hs => hs
    refine triple_conseq (followPath_halt hs.1.1.follow) (fun _ h => h) (fun _ s' hs' => ?_)
      fun _ _ => raisedAccounted_of_ne
    exact ⟨hs.1.1.followStopped hs', by rw [readPath, hs'.path]; exact hs.2.2,
      by rw [hs'.computePath]; exact hs.2.1, hs'.status, hs'.last.trans hs.1.2⟩

end HaltTree

end Nav3D.BtNavigator

/-
Nav3D.BtNavigator.TreeHalts — what a halt does to the nodes of the default
tree.

A halt of an action node keeps its requests, and that of `ComputePathToPose`
clears {path}. `haltChild()` halts a node only if it is RUNNING: a plan that
has been made stays. The other nodes lose their status, and the pipeline
starts again with its first child.
-/
import Nav3D.BtNavigator.PlannedGoals

namespace Nav3D.BtNavigator

open Nav3D.Ros Nav3D.BehaviorTree StateInvariant Transition.System
open BT (NodeStatus StatusCell TreeNode leaf)

variable {Pose Path : Type} {params : TreeParams} {input : TreeInput Path}
  {s s' : TreeState Pose Path}

/-! ## `ComputePathToPose` -/

/-- The effect of `halt()` on `ComputePathToPose`. -/
structure ComputeStopped [Inhabited Path] (s s' : TreeState Pose Path) : Prop where
  valid : RequestsValid s'.computePath.requests
  grow : RequestsGrow s.computePath.requests s'.computePath.requests
  length : s'.computePath.requests.length = s.computePath.requests.length
  status : s'.computePath.status = .idle
  goal : s'.blackboard.goal = s.blackboard.goal
  path : readPath s' = default ∨ readPath s' = readPath s
  updatedGoal : s'.updatedGoal = s.updatedGoal
  followPath : s'.followPath = s.followPath
  last : s'.lastChildTicked = s.lastChildTicked

/-- The effect of `haltChild()` on `ComputePathToPose`. -/
structure ComputeHalted [Inhabited Path] (s s' : TreeState Pose Path) : Prop
    extends ComputeStopped s s' where
  cleared : s.computePath.status = .running → readPath s' = default
  kept : s.computePath.status ≠ .running → readPath s' = readPath s

section Compute

variable [Inhabited Pose] [Inhabited Path]

/-- `halt()` clears the path, also that of a node that is not RUNNING. -/
theorem computePathToPose_halt (hvalid : RequestsValid s.computePath.requests) :
    Triple (· = s) (computePathToPose params input).halt
      (fun _ s' => ComputeStopped s s' ∧ readPath s' = default)
      (fun e _ => e ≠ .invalidStatus) := by
  let s₁ := { s with blackboard := { s.blackboard with path := some default } }
  refine triple_bind (Q := fun _ => (· = s₁)) (triple_modify (by rintro _ rfl; rfl)) fun _ => ?_
  have hvalid₁ : RequestsValid (viewCompute s₁).requests := hvalid
  have hhalt : Triple (· = viewCompute s₁)
      (BehaviorTree.halt (computePathToPoseHooks {}) input.computeHalt)
      (fun _ n => Grown (viewCompute s₁) n ∧
        n.requests.length = (viewCompute s₁).requests.length ∧ n.status = .idle ∧
        BoardHas s.blackboard.goal default n.hook.blackboard)
      (fun e _ => e ≠ .invalidStatus) :=
    halt_keeps (I := BoardHas s.blackboard.goal default)
      (fun _ => preserves_bind (preserves_modify fun _ h => ⟨h.1, rfl⟩) fun _ => preserves_pure _)
      hvalid₁ ⟨rfl, rfl⟩
  refine triple_conseq (triple_zoom hhalt) (fun _ hs => hs) ?_ (fun _ _ ⟨_, he, _⟩ => he)
  rintro _ _ ⟨n, ⟨hgrown, hlength, hstatus, hboard⟩, rfl⟩
  exact ⟨⟨hgrown.1, hgrown.2, hlength, hstatus, hboard.1, .inl hboard.2, rfl, rfl, rfl⟩, hboard.2⟩

theorem computePathToPose_haltChild (hvalid : RequestsValid s.computePath.requests) :
    Triple (· = s) (computePathToPose params input).haltChild (fun _ s' => ComputeHalted s s')
      (fun e _ => e ≠ .invalidStatus) := by
  refine BT.triple_haltChild (M := fun s' => (ComputeStopped s s' ∧ readPath s' = default) ∧
    s.computePath.status = .running) (triple_start ?_) ?_ ?_
  · rintro s' ⟨rfl, hrun⟩
    exact triple_post (computePathToPose_halt hvalid) (fun _ _ hs => ⟨hs, hrun⟩)
  · rintro s' ⟨⟨⟨hnvalid, hgrow, hlength, _, hgoal, hpath, hupdated, hfollow, hlast⟩, hcleared⟩,
      hrun⟩
    exact ⟨⟨hnvalid, hgrow, hlength, rfl, hgoal, hpath, hupdated, hfollow, hlast⟩,
      fun _ => hcleared, fun hne => absurd hrun hne⟩
  · rintro _ rfl hrests
    exact ⟨⟨hvalid, .refl _, rfl, rfl, rfl, .inr rfl, rfl, rfl, rfl⟩,
      fun hrun => absurd hrun hrests, fun _ => rfl⟩

end Compute

/-! ## `FollowPath` -/

/-- {goal} and {path} are those of `b₀`. -/
def SameRoute (b₀ b : Blackboard Pose Path) : Prop := b.goal = b₀.goal ∧ b.path = b₀.path

/-- The effect of `halt()` on `FollowPath`. -/
structure FollowStopped (s s' : TreeState Pose Path) : Prop where
  valid : RequestsValid s'.followPath.requests
  grow : RequestsGrow s.followPath.requests s'.followPath.requests
  length : s'.followPath.requests.length = s.followPath.requests.length
  status : s'.followPath.status = .idle
  goal : s'.blackboard.goal = s.blackboard.goal
  path : s'.blackboard.path = s.blackboard.path
  updatedGoal : s'.updatedGoal = s.updatedGoal
  computePath : s'.computePath = s.computePath
  last : s'.lastChildTicked = s.lastChildTicked

/-- The effect of `haltChild()` on `FollowPath`. -/
structure FollowHalted (s s' : TreeState Pose Path) : Prop extends FollowStopped s s' where
  kept : s.followPath.status ≠ .running → s'.followPath = { s.followPath with status := .idle }

section Follow

variable [Inhabited Path] [DecidableEq Path]

theorem followPath_halt (hvalid : RequestsValid s.followPath.requests) :
    Triple (· = s) (followPath params input).halt (fun _ s' => FollowStopped s s')
      (fun e _ => e ≠ .invalidStatus) := by
  have hvalid' : RequestsValid (viewFollow s).requests := hvalid
  have hhalt : Triple (· = viewFollow s)
      (BehaviorTree.halt (followPathHooks {}) input.followHalt)
      (fun _ n => Grown (viewFollow s) n ∧ n.requests.length = (viewFollow s).requests.length ∧
        n.status = .idle ∧ SameRoute s.blackboard n.hook.blackboard)
      (fun e _ => e ≠ .invalidStatus) :=
    halt_keeps (I := SameRoute s.blackboard)
      (fun _ => preserves_bind (preserves_modify fun _ hb => hb) fun _ => preserves_pure _)
      hvalid' ⟨rfl, rfl⟩
  refine triple_conseq (triple_zoom hhalt) (fun _ hs => hs) ?_ (fun _ _ ⟨_, he, _⟩ => he)
  rintro _ _ ⟨n, ⟨hgrown, hlength, hstatus, hgoal, hpath⟩, rfl⟩
  exact ⟨hgrown.1, hgrown.2, hlength, hstatus, hgoal, hpath, rfl, rfl, rfl⟩

theorem followPath_haltChild (hvalid : RequestsValid s.followPath.requests) :
    Triple (· = s) (followPath params input).haltChild (fun _ s' => FollowHalted s s')
      (fun e _ => e ≠ .invalidStatus) := by
  refine BT.triple_haltChild (M := fun s' => FollowStopped s s' ∧ s.followPath.status = .running)
    (triple_start ?_) ?_ ?_
  · rintro s' ⟨rfl, hrun⟩
    exact triple_post (followPath_halt hvalid) (fun _ _ hs => ⟨hs, hrun⟩)
  · rintro s' ⟨⟨hnvalid, hgrow, hlength, _, hgoal, hpath, hupdated, hcompute, hlast⟩, hrun⟩
    exact ⟨⟨hnvalid, hgrow, hlength, rfl, hgoal, hpath, hupdated, hcompute, hlast⟩,
      fun hne => absurd hrun hne⟩
  · rintro _ rfl _
    exact ⟨⟨hvalid, .refl _, rfl, rfl, rfl, rfl, rfl, rfl, rfl⟩, fun _ => rfl⟩

end Follow

/-! ## The other nodes -/

/-- A property of the state that does not look at the statuses of the nodes
that are no action nodes. -/
def IgnoresStatuses (P : TreeState Pose Path → Prop) : Prop :=
  ∀ s statuses, P s → P { s with statuses := statuses }

theorem IgnoresStatuses.cell {P : TreeState Pose Path → Prop} (h : IgnoresStatuses P)
    (id : NodeId) : (cell id).Ignored P := fun _ s hs => h s _ hs

variable {P Q : TreeState Pose Path → Prop} {E : ActionFailure → TreeState Pose Path → Prop}

/-- `haltChild()` on `ComputePathToPose`. -/
theorem computePathToPose_halts [Inhabited Pose] [Inhabited Path]
    (hraised : ∀ e s, e ≠ .invalidStatus → E e s)
    (hvalid : ∀ s, P s → RequestsValid s.computePath.requests)
    (hhalted : ∀ s s', P s → ComputeHalted s s' → Q s') :
    Triple P (computePathToPose params input).haltChild (fun _ => Q) E :=
  triple_start fun s hs => triple_conseq (computePathToPose_haltChild (hvalid s hs))
    (fun _ h => h) (fun _ s' hs' => hhalted s s' hs hs') hraised

/-- `haltChild()` on `FollowPath`. -/
theorem followPath_halts [Inhabited Path] [DecidableEq Path]
    (hraised : ∀ e s, e ≠ .invalidStatus → E e s)
    (hvalid : ∀ s, P s → RequestsValid s.followPath.requests)
    (hhalted : ∀ s s', P s → FollowHalted s s' → Q s') :
    Triple P (followPath params input).haltChild (fun _ => Q) E :=
  triple_start fun s hs => triple_conseq (followPath_haltChild (hvalid s hs))
    (fun _ h => h) (fun _ s' hs' => hhalted s s' hs hs') hraised

variable [DecidableEq Pose] [Inhabited Path] [DecidableEq Path]

theorem sequenceChildren_halt (h : IgnoresStatuses P) :
    ∀ c ∈ [BT.inverter idleChild (cell .inverter) globalUpdatedGoal, truncatePathLocal input,
      publishPath, isPathValid input], Triple P c.haltChild (fun _ => P) E := by
  have hleaf : ∀ (id : NodeId) (tick : TreeM Pose Path NodeStatus),
      Triple P (leaf (cell id) tick).haltChild (fun _ => P) E :=
    fun id _ => BT.haltChild_leaf (h.cell id)
  intro c hc
  simp only [List.mem_cons, List.not_mem_nil, or_false] at hc
  rcases hc with rfl | rfl | rfl | rfl
  · exact BT.haltChild_decorator (h.cell _) (hleaf _ _)
  · exact BT.triple_haltChild_ignored (h.cell .truncatePathLocal) (triple_pure fun _ hs => hs)
  · exact hleaf _ _
  · exact hleaf _ _

theorem reactiveSequence_halts (h : IgnoresStatuses P) :
    Triple P (reactiveSequence input).haltChild (fun _ => P) E :=
  BT.haltChild_reactive (h.cell _) (sequenceChildren_halt h)

variable [Inhabited Pose]

/-- `haltChild()` on the children before `FollowPath`. -/
theorem planning_halts (h : IgnoresStatuses P)
    (hcompute : Triple P (computePathToPose params input).haltChild (fun _ => P) E) :
    ∀ c ∈ planning params input, Triple P c.haltChild (fun _ => P) E := by
  intro c hc
  simp only [planning, List.mem_cons, List.not_mem_nil, or_false] at hc
  rcases hc with rfl | rfl | rfl
  · exact BT.haltChild_leaf (h.cell _)
  · exact BT.haltChild_leaf (h.cell _)
  · refine BT.haltChild_decorator (h.cell _) (BT.haltChild_reactive (h.cell _) fun c hc => ?_)
    simp only [List.mem_cons, List.not_mem_nil, or_false] at hc
    rcases hc with rfl | rfl
    · exact reactiveSequence_halts h
    · exact hcompute

/-- `haltChild()` on the children of the pipeline. -/
theorem pipeline_halts (h : IgnoresStatuses P)
    (hcompute : Triple P (computePathToPose params input).haltChild (fun _ => P) E)
    (hfollow : Triple P (followPath params input).haltChild (fun _ => P) E) :
    ∀ c ∈ pipeline params input, Triple P c.haltChild (fun _ => P) E := by
  intro c hc
  rcases List.mem_append.mp hc with hmem | hmem
  · exact planning_halts h hcompute c hmem
  · rw [List.mem_singleton.mp hmem]
    exact hfollow

/-- `halt()` on the nodes that are no action nodes. -/
theorem plainNodes_halt (h : IgnoresStatuses P)
    (hlast : ∀ s, P s → P (pipelineCell.setLastChildTicked 0 s))
    (hcompute : Triple P (computePathToPose params input).haltChild (fun _ => P) E)
    (hfollow : Triple P (followPath params input).haltChild (fun _ => P) E) :
    ∀ n ∈ plainNodes params input, Triple P n.halt (fun _ => P) E := by
  have hfallback : ∀ c ∈ [reactiveSequence input, computePathToPose params input],
      Triple P c.haltChild (fun _ => P) E := by
    intro c hc
    simp only [List.mem_cons, List.not_mem_nil, or_false] at hc
    rcases hc with rfl | rfl
    · exact reactiveSequence_halts h
    · exact hcompute
  intro n hn
  simp only [plainNodes, List.mem_cons, List.not_mem_nil, or_false] at hn
  rcases hn with rfl | rfl | rfl | rfl | rfl | rfl | rfl | rfl | rfl | rfl | rfl
  · exact halt_pipelineSequence (h.cell _) hlast (pipeline_halts h hcompute hfollow)
  · exact BT.halt_leaf (h.cell _)
  · exact BT.halt_leaf (h.cell _)
  · exact BT.halt_decorator (h.cell _) (BT.haltChild_reactive (h.cell _) hfallback)
  · exact BT.halt_reactive (h.cell _) hfallback
  · exact BT.halt_reactive (h.cell _) (sequenceChildren_halt h)
  · exact BT.halt_decorator (h.cell _) (BT.haltChild_leaf (h.cell _))
  · exact BT.halt_leaf (h.cell _)
  · exact triple_pure fun _ hs => hs
  · exact BT.halt_leaf (h.cell _)
  · exact BT.halt_leaf (h.cell _)

end Nav3D.BtNavigator

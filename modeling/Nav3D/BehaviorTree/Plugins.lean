/-
Nav3D.BehaviorTree.Plugins — the control node, the decorator, the
selectors and the condition of the goal in the default behavior tree
(`plugins/control/pipeline_sequence.cpp`,
`plugins/decorator/rate_controller.cpp`,
`plugins/action/controller_selector_node.cpp`,
`plugins/action/planner_selector_node.cpp`,
`plugins/condition/globally_updated_goal_condition.cpp`).
-/
import Nav3D.Lib.BehaviorTree

namespace Nav3D.BehaviorTree

open BT StateInvariant

variable {ε σ : Type}

/-! ## `PipelineSequence` -/

/-- Where the members of a `PipelineSequence` are kept. -/
structure PipelineCell (σ : Type) extends StatusCell σ where
  lastChildTicked : σ → Nat
  setLastChildTicked : Nat → σ → σ

/-- The loop of `PipelineSequence::tick()` over the children `cs`, the first
of which is child `i`, with `skippedCount`. On the left, the status that
`tick()` returns from within the loop. -/
def tickChildren (logicError : ε) (cell : PipelineCell σ) (children : List (TreeNode ε σ)) :
    Nat → Nat → List (TreeNode ε σ) → EStateM ε σ (NodeStatus ⊕ Nat)
  | _, skippedCount, [] => pure (.inr skippedCount)
  | i, skippedCount, c :: cs => do
    match ← c.executeTick with
    | .failure => do
      haltChildren children
      modify (cell.setLastChildTicked 0)
      return .inl .failure
    | .skipped => tickChildren logicError cell children (i + 1) (skippedCount + 1) cs
    | .success => tickChildren logicError cell children (i + 1) skippedCount cs
    | .running => do
      if cell.lastChildTicked (← get) ≤ i then do
        modify (cell.setLastChildTicked i)
        return .inl .running
      else tickChildren logicError cell children (i + 1) skippedCount cs
    | .idle => throw logicError

/-- The end of `PipelineSequence::tick()`, after the loop. -/
def endPipeline (cell : PipelineCell σ) (children : List (TreeNode ε σ)) :
    NodeStatus ⊕ Nat → EStateM ε σ NodeStatus
  | .inl status => pure status
  | .inr skippedCount => do
    haltChildren children
    modify (cell.setLastChildTicked 0)
    return if skippedCount = children.length then .skipped else .success

/-- `PipelineSequence`. -/
def pipelineSequence (logicError : ε) (cell : PipelineCell σ) (children : List (TreeNode ε σ)) :
    TreeNode ε σ where
  toStatusCell := cell.toStatusCell
  tick := do
    endPipeline cell children (← tickChildren logicError cell children 0 0 children)
  halt := do
    haltChildren children
    modify (cell.setStatus .idle)
    modify (cell.setLastChildTicked 0)

/-- The loop over `cs ++ ds` is the loop over `cs` and then, unless it has
returned, the loop over `ds`. By induction on `cs`. -/
theorem tickChildren_append (logicError : ε) (cell : PipelineCell σ)
    (children cs ds : List (TreeNode ε σ)) (i skippedCount : Nat) :
    tickChildren logicError cell children i skippedCount (cs ++ ds) = (do
      match ← tickChildren logicError cell children i skippedCount cs with
      | .inl status => return .inl status
      | .inr count => tickChildren logicError cell children (i + cs.length) count ds) := by
  induction cs generalizing i skippedCount with
  | nil => rfl
  | cons c cs ih =>
    rw [List.cons_append, tickChildren, tickChildren, bind_assoc]
    have hnext : i + (c :: cs).length = i + 1 + cs.length := by
      rw [List.length_cons, Nat.add_assoc, Nat.add_comm cs.length 1]
    rw [hnext]
    refine bind_congr fun status => ?_
    cases status with
    | failure => simp only [bind_assoc, pure_bind]
    | skipped => exact ih (i + 1) (skippedCount + 1)
    | success => exact ih (i + 1) skippedCount
    | idle => rfl
    | running =>
      simp only [bind_assoc]
      refine bind_congr fun s => ?_
      split
      · simp only [bind_assoc, pure_bind]
      · exact ih (i + 1) skippedCount

variable {P Q : σ → Prop} {E : ε → σ → Prop} {logicError : ε}

/-- The rule of one child of the pipeline: `T` holds of the status that it
returns. -/
theorem triple_tickChild {cell : PipelineCell σ} {children : List (TreeNode ε σ)}
    {c : TreeNode ε σ} {cs : List (TreeNode ε σ)} {i skippedCount : Nat}
    {T : NodeStatus → σ → Prop} {R : NodeStatus ⊕ Nat → σ → Prop}
    (htick : Triple P c.executeTick T E)
    (hfailure : Triple (T .failure) (haltChildren children)
      (fun _ s => R (.inl .failure) (cell.setLastChildTicked 0 s)) E)
    (hstops : ∀ s, T .running s → cell.lastChildTicked s ≤ i →
      R (.inl .running) (cell.setLastChildTicked i s))
    (hpasses : Triple (fun s => T .running s ∧ ¬ cell.lastChildTicked s ≤ i)
      (tickChildren logicError cell children (i + 1) skippedCount cs) R E)
    (hsuccess : Triple (T .success)
      (tickChildren logicError cell children (i + 1) skippedCount cs) R E)
    (hskipped : Triple (T .skipped)
      (tickChildren logicError cell children (i + 1) (skippedCount + 1) cs) R E)
    (hidle : ∀ s, T .idle s → E logicError s) :
    Triple P (tickChildren logicError cell children i skippedCount (c :: cs)) R E := by
  refine triple_bind htick fun status => ?_
  cases status with
  | failure =>
    refine triple_bind hfailure fun _ => ?_
    exact triple_bind (Q := fun _ => R (.inl .failure)) (triple_modify fun _ hs => hs) fun _ =>
      triple_pure fun _ hs => hs
  | skipped => exact hskipped
  | success => exact hsuccess
  | idle => exact triple_throw hidle
  | running =>
    refine triple_get_bind fun s hs => triple_ite (fun hle => ?_) (fun hgt => ?_)
    · refine triple_bind (Q := fun _ => R (.inl .running)) (triple_modify ?_) fun _ =>
        triple_pure fun _ hs' => hs'
      rintro _ rfl
      exact hstops _ hs hle
    · refine triple_pre hpasses ?_
      rintro _ rfl
      exact ⟨hs, hgt⟩

/-- What the children and the members of the pipeline keep, the loop keeps;
it does not return SUCCESS. -/
theorem triple_tickChildren {cell : PipelineCell σ} {children : List (TreeNode ε σ)}
    (herror : ∀ s, P s → E logicError s)
    (hcell : ∀ i < children.length, ∀ s, P s → P (cell.setLastChildTicked i s))
    (hhalt : ∀ c ∈ children, Triple P c.haltChild (fun _ => P) E) (cs : List (TreeNode ε σ)) :
    ∀ i skippedCount, i + cs.length ≤ children.length →
      (∀ c ∈ cs, Triple P c.executeTick (fun _ => P) E) →
      Triple P (tickChildren logicError cell children i skippedCount cs)
        (fun out s => P s ∧ out ≠ .inl .success) E := by
  induction cs with
  | nil => exact fun _ _ _ _ => triple_pure fun _ hs => ⟨hs, by simp⟩
  | cons c cs ih =>
    intro i skippedCount hlength hcs
    rw [List.length_cons] at hlength
    have hrest := fun k => ih (i + 1) k (by omega) fun c' hc' => hcs c' (List.mem_cons_of_mem _ hc')
    refine triple_tickChild (T := fun _ => P) (hcs c List.mem_cons_self) ?_ (fun s hs _ => ?_) ?_
      (hrest _) (hrest _) herror
    · exact triple_post (triple_haltChildren hhalt)
        (fun _ s hs => ⟨hcell 0 (by omega) s hs, by simp⟩)
    · exact ⟨hcell i (by omega) s hs, by simp⟩
    · exact triple_pre (hrest _) (fun _ hs => hs.1)

/-- The end of the tick, which halts the children if none has stopped the
loop. -/
theorem triple_endPipeline {cell : PipelineCell σ} {children : List (TreeNode ε σ)}
    (hcell : ∀ s, P s → P (cell.setLastChildTicked 0 s))
    (hhalt : ∀ c ∈ children, Triple P c.haltChild (fun _ => P) E) (out : NodeStatus ⊕ Nat) :
    Triple P (endPipeline cell children out) (fun _ => P) E := by
  cases out with
  | inl status => exact triple_pure fun _ hs => hs
  | inr skippedCount =>
    refine triple_bind (triple_haltChildren hhalt) fun _ => ?_
    exact triple_bind (Q := fun _ => P) (triple_modify hcell) fun _ => triple_pure fun _ hs => hs

theorem halt_pipelineSequence {cell : PipelineCell σ} {children : List (TreeNode ε σ)}
    (hstatus : cell.Ignored P) (hcell : ∀ s, P s → Q (cell.setLastChildTicked 0 s))
    (hhalt : ∀ c ∈ children, Triple P c.haltChild (fun _ => P) E) :
    Triple P (pipelineSequence logicError cell children).halt (fun _ => Q) E := by
  refine triple_bind (triple_haltChildren hhalt) fun _ => ?_
  refine triple_bind (Q := fun _ => P) (triple_modify fun s hs => hstatus _ s hs) fun _ => ?_
  exact triple_modify hcell

/-! ## `RateController` -/

/-- The members of a `RateController`. Times are milliseconds. -/
structure RateController where
  firstTime : Bool
  period : Int
  start : Int
  deriving DecidableEq

/-- Where they are kept. -/
structure RateControllerCell (σ : Type) extends StatusCell σ where
  members : σ → RateController
  setMembers : RateController → σ → σ

/-- What `now()` returns in one tick: when the controller is started, when
the elapsed time is taken, and after the child has succeeded. -/
structure RateClock where
  started : Int
  now : Int
  succeeded : Int

/-- The part of `RateController::tick()` that ticks the child. -/
def tickRated (cell : RateControllerCell σ) (clock : RateClock) (child : TreeNode ε σ) :
    EStateM ε σ NodeStatus := do
  modify fun s => cell.setMembers { cell.members s with firstTime := false } s
  match ← child.executeTick with
  | .success => do
    modify fun s => cell.setMembers { cell.members s with start := clock.succeeded } s
    return .success
  | .idle => return .failure
  | childState => return childState

/-- The members after `initialize()` and the start of the timer, with
`1.0 / hz` if the port is set. Without it `hz` is 1. -/
def RateController.initialized (period : Option Int) (clock : RateClock) : RateController where
  firstTime := true
  period := period.getD 1000
  start := clock.started

/-- `RateController`. -/
def rateController (cell : RateControllerCell σ) (period : Option Int) (clock : RateClock)
    (child : TreeNode ε σ) : TreeNode ε σ :=
  decorator cell.toStatusCell child do
    modify fun s =>
      if (cell.status s).isActive then s
      else cell.setMembers (RateController.initialized period clock) s
    modify (cell.setStatus .running)
    let s ← get
    if (cell.members s).firstTime || child.status s == .running ||
        (cell.members s).period ≤ clock.now - (cell.members s).start then
      tickRated cell clock child
    else return cell.status s

/-- The rule of the controller: `T` holds of the status that the child
returns, and of RUNNING when the child is not due. -/
theorem triple_rateController {cell : RateControllerCell σ} {period : Option Int}
    {clock : RateClock} {child : TreeNode ε σ} {T : NodeStatus → σ → Prop}
    (hstatus : cell.Ignored P)
    (hcell : ∀ members s, P s → P (cell.setMembers members s))
    (hstatusT : ∀ status, cell.Ignored (T status))
    (hcellT : ∀ members s, T .success s → T .success (cell.setMembers members s))
    (hchild : ∀ status, child.Ignored (T status)) (hidle : ∀ s, T .idle s → T .failure s)
    (hnotDue : ∀ s, P s →
      T (cell.status (cell.setStatus .running s)) (cell.setStatus .running s))
    (htick : Triple P child.executeTick T E) :
    Triple P (rateController cell period clock child).executeTick T E := by
  refine triple_decorator hstatusT hchild ?_
  refine triple_bind (Q := fun _ => P) (triple_modify fun s hs => ?_) fun _ => ?_
  · split
    · exact hs
    · exact hcell _ s hs
  refine triple_bind (Q := fun _ s => P s ∧ T (cell.status s) s)
    (triple_modify fun s hs => ⟨hstatus _ s hs, hnotDue s hs⟩) fun _ => ?_
  refine triple_get_bind fun s hs => triple_ite (fun _ => ?_) (fun _ => triple_pure ?_)
  · refine triple_bind (Q := fun _ => P) (triple_modify ?_) fun _ => ?_
    · rintro _ rfl
      exact hcell _ _ hs.1
    refine triple_bind htick fun childState => ?_
    cases childState with
    | success =>
      exact triple_bind (Q := fun _ => T .success) (triple_modify fun s' h => hcellT _ s' h)
        fun _ => triple_pure fun _ h => h
    | idle => exact triple_pure hidle
    | _ => exact triple_pure fun _ h => h
  · rintro _ rfl
    exact hs.2

/-! ## `ControllerSelector` and `PlannerSelector` -/

/-- Where the members of a selector and its output port are kept. -/
structure SelectorCell (σ : Type) extends StatusCell σ where
  lastSelected : σ → String
  setLastSelected : String → σ → σ
  setOutput : String → σ → σ

/-- A selector, with its default and the message that `spin_some()` brings
last, if any. -/
def selector (cell : SelectorCell σ) (default : String) (message : Option String) :
    TreeNode ε σ :=
  leaf cell.toStatusCell do
    let last := message.getD (cell.lastSelected (← get))
    let selected := if last.isEmpty then default else last
    modify (cell.setLastSelected selected)
    if selected.isEmpty then
      return .failure
    else do
      modify (cell.setOutput selected)
      return .success

theorem triple_selector {cell : SelectorCell σ} {default : String} {message : Option String}
    (hstatus : cell.Ignored P) (hlast : ∀ selected s, P s → P (cell.setLastSelected selected s))
    (houtput : ∀ selected s, P s → P (cell.setOutput selected s)) :
    Triple P (selector cell default message).executeTick (fun _ => P) E := by
  refine triple_leaf (fun _ => hstatus) (triple_get_bind fun s hs => ?_)
  refine triple_bind (Q := fun _ => P) (triple_modify ?_) fun _ => ?_
  · rintro _ rfl
    exact hlast _ _ hs
  · refine triple_ite (fun _ => triple_pure fun _ h => h) (fun _ => ?_)
    exact triple_bind (Q := fun _ => P) (triple_modify fun s' h => houtput _ s' h) fun _ =>
      triple_pure fun _ h => h

/-! ## `GloballyUpdatedGoalCondition` -/

/-- The members of a `GloballyUpdatedGoalCondition`. -/
structure GloballyUpdatedGoal (Pose : Type) where
  firstTime : Bool
  goal : Pose
  goals : List Pose
  deriving DecidableEq

/-- `GloballyUpdatedGoalCondition::tick()`, with the goal and the goals that
it reads. -/
def GloballyUpdatedGoal.tick {Pose : Type} [DecidableEq Pose] (members : GloballyUpdatedGoal Pose)
    (currentGoal : Pose) (currentGoals : List Pose) : NodeStatus × GloballyUpdatedGoal Pose :=
  if members.firstTime then (.success, ⟨false, currentGoal, currentGoals⟩)
  else if members.goal ≠ currentGoal ∨ members.goals ≠ currentGoals then
    (.success, ⟨false, currentGoal, currentGoals⟩)
  else (.failure, members)

/-- After its tick the condition has seen the goal; it fails only when it
had seen it before. -/
theorem GloballyUpdatedGoal.tick_spec {Pose : Type} [DecidableEq Pose]
    (members : GloballyUpdatedGoal Pose) (currentGoal : Pose) (currentGoals : List Pose) :
    (members.tick currentGoal currentGoals).2.goal = currentGoal ∧
      ((members.tick currentGoal currentGoals).1 = .success ∨
        (members.tick currentGoal currentGoals) = (.failure, members)) := by
  unfold GloballyUpdatedGoal.tick
  split
  · exact ⟨rfl, .inl rfl⟩
  split
  · exact ⟨rfl, .inl rfl⟩
  · next hsame =>
    rw [not_or, not_not, not_not] at hsame
    exact ⟨hsame.1, .inr rfl⟩

end Nav3D.BehaviorTree

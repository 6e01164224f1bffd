/-
Nav3D.Lib.BehaviorTree — behavior trees in the manner of BehaviorTree.CPP,
version 4.

A tree is a program over a state `σ` that holds the members of all its
nodes; a node is given by where its status is kept and by its virtual
functions. The control nodes and decorators are translated as functions
from nodes to nodes, and each has one rule for triples
(`Nav3D.Lib.StateInvariant`). Pre- and postconditions of the XML,
callbacks and the wake-up signal are left out.
-/
import Nav3D.Lib.StateInvariant

namespace BT

open StateInvariant

inductive NodeStatus where
  | idle
  | running
  | success
  | failure
  | skipped
  deriving DecidableEq, Repr

/-- `isStatusActive`: neither idle nor skipped. A node that has completed
is active until its parent resets it. -/
def NodeStatus.isActive : NodeStatus → Bool
  | .idle | .skipped => false
  | _ => true

/-- `isStatusCompleted`. -/
def NodeStatus.isCompleted : NodeStatus → Bool
  | .success | .failure => true
  | _ => false

/-! ## Nodes -/

/-- Where the status of a node is kept. -/
structure StatusCell (σ : Type) where
  status : σ → NodeStatus
  setStatus : NodeStatus → σ → σ

/-- `TreeNode`. -/
structure TreeNode (ε σ : Type) extends StatusCell σ where
  tick : EStateM ε σ NodeStatus
  halt : EStateM ε σ PUnit
  /-- What the `executeTick()` of a subclass adds. -/
  afterTick : EStateM ε σ PUnit := pure ⟨⟩

variable {ε σ : Type}

/-- `executeTick()`. -/
def TreeNode.executeTick (n : TreeNode ε σ) : EStateM ε σ NodeStatus := do
  let status ← n.tick
  modify fun s => if status = .skipped then s else n.setStatus status s
  n.afterTick
  return status

def TreeNode.resetStatus (n : TreeNode ε σ) : EStateM ε σ PUnit := modify (n.setStatus .idle)

/-- `haltNode()` on a node that is RUNNING. -/
def TreeNode.haltIfRunning (n : TreeNode ε σ) : EStateM ε σ PUnit := do
  if n.status (← get) = .running then n.halt else pure ⟨⟩

/-- `haltChild()`. -/
def TreeNode.haltChild (n : TreeNode ε σ) : EStateM ε σ PUnit := do
  n.haltIfRunning
  n.resetStatus

/-- `haltChildren()`, which is `resetChildren()`. -/
def haltChildren : List (TreeNode ε σ) → EStateM ε σ PUnit
  | [] => pure ⟨⟩
  | c :: cs => do
    c.haltChild
    haltChildren cs

/-- `haltNode()` on each node. -/
def haltNodes : List (TreeNode ε σ) → EStateM ε σ PUnit
  | [] => pure ⟨⟩
  | n :: ns => do
    n.halt
    haltNodes ns

/-- `Tree::haltTree()`, with all nodes in the order of the recursive
visitor. The visitor halts a node whether it is RUNNING or not. -/
def haltTree (root : TreeNode ε σ) (nodes : List (TreeNode ε σ)) : EStateM ε σ PUnit := do
  root.halt
  haltNodes nodes
  root.resetStatus

/-- A condition or a synchronous action. -/
def leaf (cell : StatusCell σ) (tick : EStateM ε σ NodeStatus) : TreeNode ε σ where
  toStatusCell := cell
  tick := tick
  halt := modify (cell.setStatus .idle)

/-- `DecoratorNode`: its `executeTick()` resets a child that has completed. -/
def decorator (cell : StatusCell σ) (child : TreeNode ε σ) (tick : EStateM ε σ NodeStatus) :
    TreeNode ε σ where
  toStatusCell := cell
  tick := tick
  halt := do
    child.haltChild
    modify (cell.setStatus .idle)
  afterTick := do
    if (child.status (← get)).isCompleted then child.resetStatus else pure ⟨⟩

/-- `InverterNode::tick()`. -/
def invertChild (logicError : ε) (child : TreeNode ε σ) : EStateM ε σ NodeStatus := do
  match ← child.executeTick with
  | .success => do
    child.haltChild
    return .failure
  | .failure => do
    child.haltChild
    return .success
  | .idle => throw logicError
  | status => return status

/-- `Inverter`. -/
def inverter (logicError : ε) (cell : StatusCell σ) (child : TreeNode ε σ) : TreeNode ε σ :=
  decorator cell child do
    modify (cell.setStatus .running)
    invertChild logicError child

/-- The loop of a reactive control node, from the child after those in
`ticked`: a child that returns `go` is passed over, one that returns `stop`
ends the tick. -/
def reactiveLoop (logicError : ε) (go stop : NodeStatus) :
    List (TreeNode ε σ) → Bool → List (TreeNode ε σ) → EStateM ε σ NodeStatus
  | ticked, allSkipped, [] => do
    haltChildren ticked
    return if allSkipped then .skipped else go
  | ticked, allSkipped, c :: cs => do
    match ← c.executeTick with
    | .running => do
      haltChildren (ticked ++ cs)
      return .running
    | .skipped => do
      c.haltChild
      reactiveLoop logicError go stop (ticked ++ [c]) allSkipped cs
    | .idle => throw logicError
    | status =>
      if status = stop then do
        haltChildren (ticked ++ c :: cs)
        return stop
      else reactiveLoop logicError go stop (ticked ++ [c]) false cs

/-- A control node that ticks all its children from the first one in each
tick. A second RUNNING child is no error here. -/
def reactive (logicError : ε) (go stop : NodeStatus) (cell : StatusCell σ)
    (children : List (TreeNode ε σ)) : TreeNode ε σ where
  toStatusCell := cell
  tick := do
    modify (cell.setStatus .running)
    reactiveLoop logicError go stop [] true children
  halt := do
    haltChildren children
    modify (cell.setStatus .idle)

/-- `ReactiveSequence`. -/
def reactiveSequence (logicError : ε) (cell : StatusCell σ) (children : List (TreeNode ε σ)) :
    TreeNode ε σ :=
  reactive logicError .success .failure cell children

/-- `ReactiveFallback`. -/
def reactiveFallback (logicError : ε) (cell : StatusCell σ) (children : List (TreeNode ε σ)) :
    TreeNode ε σ :=
  reactive logicError .failure .success cell children

/-! ## Rules -/

variable {P M Q R : σ → Prop} {E : ε → σ → Prop} {n : TreeNode ε σ} {logicError : ε}

/-- What does not look at the status of a node. -/
def StatusCell.Ignored (cell : StatusCell σ) (P : σ → Prop) : Prop :=
  ∀ status s, P s → P (cell.setStatus status s)

theorem triple_resetStatus (h : n.Ignored P) : Triple P n.resetStatus (fun _ => P) E :=
  triple_modify fun s hs => h _ s hs

/-- The rule of `executeTick()`, for a node whose status is looked at. -/
theorem triple_executeTick {T : NodeStatus → σ → Prop}
    (htick : Triple P n.tick
      (fun status s => T status (if status = .skipped then s else n.setStatus status s)) E)
    (hafter : ∀ status, Triple (T status) n.afterTick (fun _ => T status) E) :
    Triple P n.executeTick T E := by
  refine triple_bind htick fun status => ?_
  refine triple_bind (Q := fun _ => T status) (triple_modify fun s hs => hs) fun _ => ?_
  exact triple_bind (hafter status) fun _ => triple_pure fun s hs => hs

/-- For a node whose status is not looked at. -/
theorem triple_executeTick_ignored {T : NodeStatus → σ → Prop} (hT : ∀ status, n.Ignored (T status))
    (htick : Triple P n.tick T E)
    (hafter : ∀ status, Triple (T status) n.afterTick (fun _ => T status) E) :
    Triple P n.executeTick T E := by
  refine triple_executeTick (triple_post htick (fun status s hs => ?_)) hafter
  split
  · exact hs
  · exact hT status status s hs

/-- The rule of `haltChild()`. -/
theorem triple_haltChild
    (hhalt : Triple (fun s => P s ∧ n.status s = .running) n.halt (fun _ => M) E)
    (hreset : ∀ s, M s → Q (n.setStatus .idle s))
    (hidle : ∀ s, P s → n.status s ≠ .running → Q (n.setStatus .idle s)) :
    Triple P n.haltChild (fun _ => Q) E := by
  refine triple_bind (Q := fun _ s => Q (n.setStatus .idle s)) ?_ fun _ =>
    triple_modify fun s hs => hs
  refine triple_get_bind fun s hs => triple_ite (fun hrun => ?_) (fun hrun => triple_pure ?_)
  · refine triple_conseq hhalt ?_ (fun _ s' hs' => hreset s' hs') (fun _ _ he => he)
    rintro _ rfl
    exact ⟨hs, hrun⟩
  · rintro _ rfl
    exact hidle _ hs hrun

theorem triple_haltChild_ignored (hignored : n.Ignored P)
    (hhalt : Triple P n.halt (fun _ => P) E) : Triple P n.haltChild (fun _ => P) E :=
  triple_haltChild (triple_pre hhalt (fun _ hs => hs.1))
    (fun s hs => hignored _ s hs) (fun s hs _ => hignored _ s hs)

theorem triple_haltChildren {cs : List (TreeNode ε σ)}
    (h : ∀ c ∈ cs, Triple P c.haltChild (fun _ => P) E) :
    Triple P (haltChildren cs) (fun _ => P) E := by
  induction cs with
  | nil => exact triple_pure fun _ hs => hs
  | cons c cs ih =>
    exact triple_bind (h c List.mem_cons_self) fun _ =>
      ih fun c' hc' => h c' (List.mem_cons_of_mem _ hc')

/-- The last child brings the children to where they are to be. -/
theorem triple_haltChildren_concat {cs : List (TreeNode ε σ)} {d : TreeNode ε σ}
    (h : ∀ c ∈ cs, Triple P c.haltChild (fun _ => P) E)
    (hd : Triple P d.haltChild (fun _ => Q) E) :
    Triple P (haltChildren (cs ++ [d])) (fun _ => Q) E := by
  induction cs with
  | nil => exact triple_bind hd fun _ => triple_pure fun _ hs => hs
  | cons c cs ih =>
    exact triple_bind (h c List.mem_cons_self) fun _ =>
      ih fun c' hc' => h c' (List.mem_cons_of_mem _ hc')

theorem triple_haltNodes {ns : List (TreeNode ε σ)}
    (h : ∀ n ∈ ns, Triple P n.halt (fun _ => P) E) :
    Triple P (haltNodes ns) (fun _ => P) E := by
  induction ns with
  | nil => exact triple_pure fun _ hs => hs
  | cons n ns ih =>
    exact triple_bind (h n List.mem_cons_self) fun _ =>
      ih fun n' hn' => h n' (List.mem_cons_of_mem _ hn')

theorem haltNodes_append (ns ms : List (TreeNode ε σ)) :
    haltNodes (ns ++ ms) = (do haltNodes ns; haltNodes ms) := by
  induction ns with
  | nil => rfl
  | cons n ns ih =>
    rw [List.cons_append, haltNodes, haltNodes, ih, bind_assoc]

/-! ### Leaves and decorators -/

/-- A node without children. -/
theorem triple_childless {T : NodeStatus → σ → Prop} (hafter : n.afterTick = pure ⟨⟩)
    (hT : ∀ status, n.Ignored (T status)) (htick : Triple P n.tick T E) :
    Triple P n.executeTick T E := by
  refine triple_executeTick_ignored hT htick fun _ => ?_
  rw [hafter]
  exact triple_pure fun _ hs => hs

theorem triple_leaf {cell : StatusCell σ} {tick : EStateM ε σ NodeStatus}
    {T : NodeStatus → σ → Prop} (hT : ∀ status, cell.Ignored (T status))
    (htick : Triple P tick T E) : Triple P (leaf cell tick).executeTick T E :=
  triple_childless rfl hT htick

theorem halt_leaf {cell : StatusCell σ} {tick : EStateM ε σ NodeStatus}
    (h : cell.Ignored P) : Triple P (leaf cell tick).halt (fun _ => P) E :=
  triple_modify fun s hs => h _ s hs

theorem haltChild_leaf {cell : StatusCell σ} {tick : EStateM ε σ NodeStatus}
    (h : cell.Ignored P) : Triple P (leaf cell tick).haltChild (fun _ => P) E :=
  triple_haltChild_ignored h (halt_leaf h)

theorem triple_decorator {cell : StatusCell σ} {child : TreeNode ε σ}
    {tick : EStateM ε σ NodeStatus} {T : NodeStatus → σ → Prop}
    (hcell : ∀ status, cell.Ignored (T status)) (hchild : ∀ status, child.Ignored (T status))
    (htick : Triple P tick T E) : Triple P (decorator cell child tick).executeTick T E := by
  refine triple_executeTick_ignored hcell htick fun status => ?_
  refine triple_get_bind fun s hs => triple_ite (fun _ => ?_) (fun _ => triple_pure ?_)
  · refine triple_pre (triple_resetStatus (hchild status)) ?_
    rintro _ rfl
    exact hs
  · rintro _ rfl
    exact hs

theorem halt_decorator {cell : StatusCell σ} {child : TreeNode ε σ}
    {tick : EStateM ε σ NodeStatus} (hcell : cell.Ignored P)
    (hchild : Triple P child.haltChild (fun _ => P) E) :
    Triple P (decorator cell child tick).halt (fun _ => P) E :=
  triple_bind hchild fun _ => triple_modify fun s hs => hcell _ s hs

theorem haltChild_decorator {cell : StatusCell σ} {child : TreeNode ε σ}
    {tick : EStateM ε σ NodeStatus} (hcell : cell.Ignored P)
    (hchild : Triple P child.haltChild (fun _ => P) E) :
    Triple P (decorator cell child tick).haltChild (fun _ => P) E :=
  triple_haltChild_ignored hcell (halt_decorator hcell hchild)

/-- The rule of an inverter: `T` holds of the status that it returns, and
of the inverse of the status that the child returns, once the child has been
halted. -/
theorem triple_inverter {cell : StatusCell σ} {child : TreeNode ε σ}
    {C T : NodeStatus → σ → Prop} (hP : cell.Ignored P) (hT : ∀ status, cell.Ignored (T status))
    (hT' : ∀ status, child.Ignored (T status)) (hchild : Triple P child.executeTick C E)
    (hsuccess : Triple (C .success) child.haltChild (fun _ => T .failure) E)
    (hfailure : Triple (C .failure) child.haltChild (fun _ => T .success) E)
    (hrunning : ∀ s, C .running s → T .running s) (hskipped : ∀ s, C .skipped s → T .skipped s)
    (herror : ∀ s, C .idle s → E logicError s) :
    Triple P (inverter logicError cell child).executeTick T E := by
  refine triple_decorator hT hT' ?_
  refine triple_bind (Q := fun _ => P) (triple_modify fun s hs => hP _ s hs) fun _ => ?_
  refine triple_bind hchild fun status => ?_
  cases status with
  | success => exact triple_bind hsuccess fun _ => triple_pure fun _ hs => hs
  | failure => exact triple_bind hfailure fun _ => triple_pure fun _ hs => hs
  | idle => exact triple_throw herror
  | running => exact triple_pure hrunning
  | skipped => exact triple_pure hskipped

/-! ### Reactive nodes -/

/-- What the tick of child `i` of a reactive node comes to: `A b i` holds
before child `i` is ticked, where `b` says that all earlier children have
been skipped, `R` when a child has stopped the tick, and `S i` when child `i`
is RUNNING. -/
def ChildTicked (go stop : NodeStatus) (A : Bool → Nat → σ → Prop) (R : σ → Prop)
    (S : Nat → σ → Prop) (b : Bool) (i : Nat) (status : NodeStatus) (s : σ) : Prop :=
  match status with
  | .running => S i s
  | .skipped => A b (i + 1) s
  | .idle => True
  | status => (status = stop → R s) ∧ (status = go → A false (i + 1) s)

/-- The loop of a reactive node, from child `i`. -/
theorem triple_reactiveLoop {go stop : NodeStatus} {A : Bool → Nat → σ → Prop}
    {S : Nat → σ → Prop} {Q : NodeStatus → σ → Prop} (herror : ∀ s, E logicError s)
    (hstatus : go = .success ∧ stop = .failure ∨ go = .failure ∧ stop = .success)
    (all : List (TreeNode ε σ))
    (hchild : ∀ b i c, all[i]? = some c →
      Triple (A b i) c.executeTick (ChildTicked go stop A R S b i) E)
    (hskip : ∀ b i c, all[i]? = some c →
      Triple (A b (i + 1)) c.haltChild (fun _ => A b (i + 1)) E)
    (hend : ∀ b, Triple (A b all.length) (haltChildren all)
      (fun _ => Q (if b then .skipped else go)) E)
    (hreset : Triple R (haltChildren all) (fun _ => Q stop) E)
    (hhalt : ∀ i < all.length,
      Triple (S i) (haltChildren (all.eraseIdx i)) (fun _ => Q .running) E)
    (cs : List (TreeNode ε σ)) :
    ∀ (ticked : List (TreeNode ε σ)) (allSkipped : Bool), ticked ++ cs = all →
      Triple (A allSkipped ticked.length) (reactiveLoop logicError go stop ticked allSkipped cs)
        Q E := by
  induction cs with
  | nil =>
    intro ticked allSkipped hall
    rw [List.append_nil] at hall
    subst hall
    exact triple_bind (hend allSkipped) fun _ => triple_pure fun _ hs => hs
  | cons c cs ih =>
    intro ticked allSkipped hall
    have hc : all[ticked.length]? = some c := by
      rw [← hall, List.getElem?_append_right (Nat.le_refl _), Nat.sub_self, List.getElem?_cons_zero]
    have hrest : ∀ skipped, Triple (A skipped (ticked.length + 1))
        (reactiveLoop logicError go stop (ticked ++ [c]) skipped cs) Q E := by
      intro skipped
      have h := ih (ticked ++ [c]) skipped (by rw [List.append_assoc]; exact hall)
      rwa [List.length_append, List.length_singleton] at h
    have hothers : Triple (S ticked.length) (haltChildren (ticked ++ cs))
        (fun _ => Q .running) E := by
      have hall' : all.eraseIdx ticked.length = ticked ++ cs := by
        rw [← hall, List.eraseIdx_append_of_length_le (Nat.le_refl _), Nat.sub_self,
          List.eraseIdx_cons_zero]
      rw [← hall']
      exact hhalt _ (List.getElem?_eq_some_iff.mp hc).1
    -- the child has completed
    have hcompleted : ∀ status, (status = stop ∨ status = go) → Triple (fun s =>
        (status = stop → R s) ∧ (status = go → A false (ticked.length + 1) s))
        (if status = stop then do haltChildren (ticked ++ c :: cs); return stop
          else reactiveLoop logicError go stop (ticked ++ [c]) false cs) Q E := by
      intro status hcase
      refine triple_ite (fun hstop => ?_) (fun hnot => ?_)
      · rw [hall]
        exact triple_bind (triple_pre hreset
          (fun s hs => hs.1 hstop)) fun _ => triple_pure fun _ hs => hs
      · exact triple_pre (hrest false) (fun s hs => hs.2 (hcase.resolve_left hnot))
    refine triple_bind (hchild allSkipped _ c hc) fun status => ?_
    cases status with
    | running => exact triple_bind hothers fun _ => triple_pure fun _ hs => hs
    | skipped => exact triple_bind (hskip allSkipped _ c hc) fun _ => hrest allSkipped
    | idle => exact triple_throw fun s _ => herror s
    | success =>
      refine hcompleted .success ?_
      rcases hstatus with ⟨rfl, rfl⟩ | ⟨rfl, rfl⟩
      · exact .inr rfl
      · exact .inl rfl
    | failure =>
      refine hcompleted .failure ?_
      rcases hstatus with ⟨rfl, rfl⟩ | ⟨rfl, rfl⟩
      · exact .inl rfl
      · exact .inr rfl

/-- The rule of a reactive node; its own status is not looked at. -/
theorem triple_reactive {go stop : NodeStatus} {A : Bool → Nat → σ → Prop}
    {S : Nat → σ → Prop} {Q : NodeStatus → σ → Prop} {cell : StatusCell σ}
    {children : List (TreeNode ε σ)} (herror : ∀ s, E logicError s)
    (hstatus : go = .success ∧ stop = .failure ∨ go = .failure ∧ stop = .success)
    (hcell : cell.Ignored (A true 0)) (hcellQ : ∀ status, cell.Ignored (Q status))
    (hchild : ∀ b i c, children[i]? = some c →
      Triple (A b i) c.executeTick (ChildTicked go stop A R S b i) E)
    (hskip : ∀ b i c, children[i]? = some c →
      Triple (A b (i + 1)) c.haltChild (fun _ => A b (i + 1)) E)
    (hend : ∀ b, Triple (A b children.length) (haltChildren children)
      (fun _ => Q (if b then .skipped else go)) E)
    (hreset : Triple R (haltChildren children) (fun _ => Q stop) E)
    (hhalt : ∀ i < children.length,
      Triple (S i) (haltChildren (children.eraseIdx i)) (fun _ => Q .running) E) :
    Triple (A true 0) (reactive logicError go stop cell children).executeTick Q E := by
  refine triple_executeTick_ignored hcellQ ?_ fun _ => triple_pure fun _ hs => hs
  refine triple_bind (Q := fun _ => A true 0) (triple_modify fun s hs => hcell _ s hs) fun _ => ?_
  exact triple_reactiveLoop herror hstatus children hchild hskip hend hreset hhalt children [] true
    rfl

/-- What holds of the state whatever a child returns. -/
theorem ChildTicked.of_all {go stop : NodeStatus} {A : Bool → Nat → σ → Prop}
    {S : Nat → σ → Prop} {b : Bool} {i : Nat} {status : NodeStatus} {s : σ}
    (hrunning : S i s) (hreset : R s) (hnext : ∀ b, A b (i + 1) s) :
    ChildTicked go stop A R S b i status s := by
  cases status with
  | running => exact hrunning
  | skipped => exact hnext b
  | idle => trivial
  | success => exact ⟨fun _ => hreset, fun _ => hnext false⟩
  | failure => exact ⟨fun _ => hreset, fun _ => hnext false⟩

/-- The rule of a reactive node whose first child brings `P` to `Q`, which
the others keep. -/
theorem triple_reactive_first {go stop : NodeStatus} {cell : StatusCell σ} {first : TreeNode ε σ}
    {rest : List (TreeNode ε σ)} (herror : ∀ s, E logicError s)
    (hstatus : go = .success ∧ stop = .failure ∨ go = .failure ∧ stop = .success)
    (hcell : cell.Ignored P) (hcellQ : cell.Ignored Q)
    (hfirst : Triple P first.executeTick (fun _ => Q) E)
    (hrest : ∀ c ∈ rest, Triple Q c.executeTick (fun _ => Q) E)
    (hhalt : ∀ c ∈ first :: rest, Triple Q c.haltChild (fun _ => Q) E) :
    Triple P (reactive logicError go stop cell (first :: rest)).executeTick (fun _ => Q) E := by
  have hreset := triple_haltChildren hhalt
  refine triple_reactive (A := fun _ i => if i = 0 then P else Q) (R := Q) (S := fun _ => Q)
    (Q := fun _ => Q) herror hstatus hcell (fun _ => hcellQ) (fun b i c hc => ?_)
    (fun _ i c hc => ?_) (fun _ => hreset) hreset fun i _ => ?_
  · have hc' : Triple (if i = 0 then P else Q) c.executeTick (fun _ => Q) E := by
      cases i with
      | zero =>
        cases hc
        exact hfirst
      | succ i => exact hrest c (List.mem_of_getElem? hc)
    exact triple_post hc' (fun _ _ hs => .of_all hs hs fun _ => hs)
  · exact hhalt c (List.mem_of_getElem? hc)
  · exact triple_haltChildren fun c hc => hhalt c (List.mem_of_mem_eraseIdx hc)

theorem halt_reactive {go stop : NodeStatus} {cell : StatusCell σ}
    {children : List (TreeNode ε σ)} (hcell : cell.Ignored P)
    (hhalt : ∀ c ∈ children, Triple P c.haltChild (fun _ => P) E) :
    Triple P (reactive logicError go stop cell children).halt (fun _ => P) E :=
  triple_bind (triple_haltChildren hhalt) fun _ => triple_modify fun s hs => hcell _ s hs

theorem haltChild_reactive {go stop : NodeStatus} {cell : StatusCell σ}
    {children : List (TreeNode ε σ)} (hcell : cell.Ignored P)
    (hhalt : ∀ c ∈ children, Triple P c.haltChild (fun _ => P) E) :
    Triple P (reactive logicError go stop cell children).haltChild (fun _ => P) E :=
  triple_haltChild_ignored hcell (halt_reactive hcell hhalt)

end BT

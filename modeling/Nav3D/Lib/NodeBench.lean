/-
Nav3D.Lib.NodeBench — a control node on a bench.

The children answer what they are told and the parent ticks the node, halts
it or resets its status as it likes. What happens is recorded in a trace,
newest first, so that a law of a node speaks of its whole history: a law
that holds `Always` holds of the trace as it was at each moment. The trace
since the last return other than RUNNING or the last halt is the current
activation.

A predicate of the node's members, of the answers to come and of the trace
is kept by whatever the statuses of the nodes do (`Bench.Shows`);
`invariant_of_reach` carries one over all runs.
-/
import Nav3D.Lib.BehaviorTree
import Nav3D.Lib.Transition

namespace BT

open StateInvariant Transition

/-! ## The trace -/

/-- What a child may return. -/
abbrev Answer := {status : NodeStatus // status ≠ .idle}

def Answer.success : Answer := ⟨.success, by decide⟩

def Answer.failure : Answer := ⟨.failure, by decide⟩

def Answer.running : Answer := ⟨.running, by decide⟩

def Answer.skipped : Answer := ⟨.skipped, by decide⟩

/-- The answers of a list, and then FAILURE. -/
def answerWith (statuses : List Answer) (k : Nat) : Answer := statuses[k]?.getD .failure

/-- Child `i` has returned, the node has returned, or it has been halted. -/
inductive Event where
  | child (i : Nat) (status : NodeStatus)
  | returned (status : NodeStatus)
  | halted
  deriving DecidableEq, Repr

/-- The event ends an activation. -/
def Event.ends : Event → Bool
  | .child _ _ => false
  | .returned status => status != .running
  | .halted => true

/-- A child has returned. -/
def Event.isChild : Event → Bool
  | .child _ _ => true
  | _ => false

/-- The current activation. -/
def activation (trace : List Event) : List Event := trace.takeWhile fun e => !e.ends

/-- The events since the node last returned or has been halted. -/
def currentTick (trace : List Event) : List Event := trace.takeWhile Event.isChild

section Traces

variable {e : Event} {trace t : List Event}

theorem activation_cons_ends (h : e.ends = true) : activation (e :: trace) = [] := by
  simp [activation, h]

@[simp] theorem activation_child (i : Nat) (status : NodeStatus) (trace : List Event) :
    activation (.child i status :: trace) = .child i status :: activation trace := rfl

@[simp] theorem activation_running (trace : List Event) :
    activation (.returned .running :: trace) = .returned .running :: activation trace := rfl

@[simp] theorem activation_halted (trace : List Event) : activation (.halted :: trace) = [] := rfl

theorem activation_returned {status : NodeStatus} (h : status ≠ .running) (trace : List Event) :
    activation (.returned status :: trace) = [] :=
  activation_cons_ends (by simp [Event.ends, h])

@[simp] theorem currentTick_child (i : Nat) (status : NodeStatus) (trace : List Event) :
    currentTick (.child i status :: trace) = .child i status :: currentTick trace := rfl

/-- `P` holds of the trace and of all that it was before. -/
def Always (P : List Event → Prop) (trace : List Event) : Prop := ∀ t, t <:+ trace → P t

variable {P : List Event → Prop}

theorem Always.now (h : Always P trace) : P trace := h trace (List.suffix_refl trace)

theorem always_nil : Always P [] ↔ P [] := by
  constructor
  · intro h
    exact h.now
  · intro h t ht
    rw [List.suffix_nil.mp ht]
    exact h

theorem always_cons : Always P (e :: trace) ↔ P (e :: trace) ∧ Always P trace := by
  constructor
  · intro h
    exact ⟨h.now, fun t ht => h t (ht.trans (List.suffix_cons e trace))⟩
  · rintro ⟨hnow, hbefore⟩ t ht
    rcases List.suffix_cons_iff.mp ht with rfl | ht
    · exact hnow
    · exact hbefore t ht

end Traces

/-! ## The bench -/

/-- A node's status and members, its children's statuses, what they answer
next, and what has happened. -/
structure Bench (μ : Type) where
  status : NodeStatus
  members : μ
  childStatus : Nat → NodeStatus
  answers : Nat → Answer
  trace : List Event

variable {ε μ σ : Type}

/-- A node that has been created. -/
def Bench.created (members : μ) : Bench μ where
  status := .idle
  members := members
  childStatus := fun _ => .idle
  answers := answerWith []
  trace := []

/-- Where the status and the members of a node are kept. -/
structure MemberCell (μ σ : Type) extends StatusCell σ where
  members : σ → μ
  setMembers : μ → σ → σ

/-- Write the members. -/
def MemberCell.update (cell : MemberCell μ σ) (f : μ → μ) : EStateM ε σ PUnit :=
  modify fun s => cell.setMembers (f (cell.members s)) s

namespace Bench

/-- Where the status of the node is kept. -/
def cell : StatusCell (Bench μ) where
  status := Bench.status
  setStatus status s := { s with status := status }

def memberCell : MemberCell μ (Bench μ) where
  toStatusCell := cell
  members := Bench.members
  setMembers m s := { s with members := m }

def childCell (i : Nat) : StatusCell (Bench μ) where
  status s := s.childStatus i
  setStatus status s := { s with childStatus := Function.update s.childStatus i status }

def log (e : Event) (s : Bench μ) : Bench μ := { s with trace := e :: s.trace }

/-- Child `i` has given the next answer. -/
def answered (i : Nat) (s : Bench μ) : Bench μ :=
  { s with answers := fun k => s.answers (k + 1), trace := .child i (s.answers 0).1 :: s.trace }

/-- Child `i`. -/
def child (ε : Type) (i : Nat) : TreeNode ε (Bench μ) where
  toStatusCell := childCell i
  tick := do
    let s ← get
    set (s.answered i)
    return (s.answers 0).1
  halt := modify ((childCell i).setStatus .idle)

def children (ε : Type) (n : Nat) : List (TreeNode ε (Bench μ)) := (List.range n).map (child ε)

@[simp] theorem length_children (n : Nat) : (children (μ := μ) ε n).length = n := by
  simp [children]

theorem getElem?_children {n i : Nat} (h : i < n) :
    (children (μ := μ) ε n)[i]? = some (child ε i) := by
  simp [children, h]

/-- What can be said without the statuses of the nodes. -/
def Shows (P : μ → (Nat → Answer) → List Event → Prop) (s : Bench μ) : Prop :=
  P s.members s.answers s.trace

variable {P Q : μ → (Nat → Answer) → List Event → Prop} {E : ε → Bench μ → Prop}

theorem ignored_shows : (cell : StatusCell (Bench μ)).Ignored (Shows P) := fun _ _ h => h

theorem childCell_ignored_shows (i : Nat) : (childCell (μ := μ) i).Ignored (Shows P) :=
  fun _ _ h => h

theorem triple_update {f : μ → μ} (h : ∀ m a t, P m a t → Q (f m) a t) :
    Triple (Shows P) (memberCell.update f) (fun _ => Shows Q) E :=
  triple_modify fun _ hs => h _ _ _ hs

/-- The rule of a tick of child `i`. -/
theorem triple_child {T : NodeStatus → μ → (Nat → Answer) → List Event → Prop} (i : Nat)
    (h : ∀ m a trace, P m a trace →
      T (a 0).1 m (fun k => a (k + 1)) (.child i (a 0).1 :: trace)) :
    Triple (Shows P) (child ε i).executeTick (fun status => Shows (T status)) E := by
  refine triple_childless rfl (fun _ => childCell_ignored_shows i) ?_
  refine triple_get_bind fun s hs => ?_
  refine triple_bind (Q := fun _ s' => s' = s.answered i) (triple_set fun _ _ => rfl) fun _ => ?_
  refine triple_pure ?_
  rintro _ rfl
  exact h _ _ _ hs

theorem triple_haltChild (i : Nat) :
    Triple (Shows P) (child ε i).haltChild (fun _ => Shows P) E :=
  triple_haltChild_ignored (childCell_ignored_shows i)
    (triple_modify fun s hs => childCell_ignored_shows i _ s hs)

theorem triple_haltChildren (n : Nat) :
    Triple (Shows P) (haltChildren (children ε n)) (fun _ => Shows P) E := by
  refine BT.triple_haltChildren fun c hc => ?_
  obtain ⟨i, -, rfl⟩ := List.mem_map.mp hc
  exact triple_haltChild i

end Bench

/-! ## Runs -/

/-- What the parent of the node does. -/
inductive Call where
  | tick (answers : Nat → Answer)
  | halt
  | haltChild
  | resetStatus

/-- The node with its halts recorded. -/
def observed (n : TreeNode ε (Bench μ)) : TreeNode ε (Bench μ) where
  toStatusCell := n.toStatusCell
  tick := n.tick
  halt := do
    n.halt
    modify (Bench.log .halted)
  afterTick := n.afterTick

def call (n : TreeNode ε (Bench μ)) : Call → EStateM ε (Bench μ) PUnit
  | .tick answers => do
    modify fun s => { s with answers := answers }
    let status ← n.executeTick
    modify (Bench.log (.returned status))
  | .halt => (observed n).halt
  | .haltChild => (observed n).haltChild
  | .resetStatus => n.resetStatus

/-- The runs of a node from when it is created. A call that throws is no
step. -/
def benchSystem (n : TreeNode ε (Bench μ)) (start : μ) : System (Bench μ) Call where
  init := fun s => s.status = .idle ∧ s.members = start ∧ s.trace = []
  step := fun s l => match (call n l).run s with
    | .ok _ s' => some s'
    | .error _ _ => none

section Runs

variable {n : TreeNode ε (Bench μ)} {start : μ} {s s' : Bench μ} {l : Call}

theorem step_eq_some {Q : Bench μ → Prop} {E : ε → Bench μ → Prop}
    (h : Triple (· = s) (call n l) (fun _ => Q) E)
    (hstep : (benchSystem n start).step s l = some s') : Q s' := by
  have hrun := h s rfl
  simp only [benchSystem] at hstep
  split at hstep
  · next hok =>
    cases hstep
    rw [hok] at hrun
    exact hrun
  · cases hstep

variable (start) in
/-- A call that cannot throw is a step. -/
theorem exists_step {Q : Bench μ → Prop}
    (h : Triple (· = s) (call n l) (fun _ => Q) (fun _ _ => False)) :
    ∃ s', (benchSystem n start).step s l = some s' ∧ Q s' := by
  have hrun := h s rfl
  simp only [benchSystem]
  cases hcall : (call n l).run s with
  | ok a s' =>
    rw [hcall] at hrun
    exact ⟨s', rfl, hrun⟩
  | error e s' =>
    rw [hcall] at hrun
    exact absurd hrun id

variable {E : ε → Bench μ → Prop}

/-- The rule of a tick. -/
theorem triple_call_tick {a : Nat → Answer} {Q : Bench μ → Prop}
    (h : Triple (· = { s with answers := a }) n.executeTick
      (fun status s' => Q (s'.log (.returned status))) E) :
    Triple (· = s) (call n (.tick a)) (fun _ => Q) E := by
  refine triple_bind (Q := fun _ s' => s' = { s with answers := a }) (triple_modify ?_) fun _ => ?_
  · rintro _ rfl
    rfl
  · exact triple_bind h fun status => triple_modify fun _ hs => hs

/-- What a halt may do to the members and the trace. -/
theorem triple_call_halts {P : μ → List Event → Prop} (hcell : n.toStatusCell = Bench.cell)
    (hhalt : Triple (fun s => P s.members s.trace) n.halt
      (fun _ s => P s.members (.halted :: s.trace)) E)
    (hs : P s.members s.trace) (hl : ∀ a, l ≠ .tick a) :
    Triple (· = s) (call n l) (fun _ s' => P s'.members s'.trace) E := by
  have hobserved : Triple (fun s => P s.members s.trace) (observed n).halt
      (fun _ s' => P s'.members s'.trace) E :=
    triple_bind hhalt fun _ => triple_modify fun _ hs => hs
  have hignored : n.Ignored fun s => P s.members s.trace := by
    rw [hcell]
    exact fun _ _ h => h
  have hstart : ∀ s', s' = s → P s'.members s'.trace := by
    rintro _ rfl
    exact hs
  cases l with
  | tick a => exact absurd rfl (hl a)
  | halt => exact triple_pre hobserved hstart
  | haltChild =>
    exact triple_pre (triple_haltChild_ignored hignored hobserved) hstart
  | resetStatus =>
    exact triple_pre (triple_resetStatus hignored) hstart

/-- **Runs of a node.** What a tick from an admitted state and a halt keep
of the members and the trace holds after every run. -/
theorem invariant_of_reach {C : Bench μ → Call → Prop} {P : μ → List Event → Prop}
    (hcell : n.toStatusCell = Bench.cell) (hstart : P start [])
    (htick : ∀ s a, P s.members s.trace → C s (.tick a) →
      Triple (· = { s with answers := a }) n.executeTick
        (fun status s' => P s'.members (.returned status :: s'.trace)) E)
    (hhalt : Triple (fun s => P s.members s.trace) n.halt
      (fun _ s => P s.members (.halted :: s.trace)) E)
    (h : (benchSystem n start).Reach C s) : P s.members s.trace := by
  refine h.invariant (fun s => P s.members s.trace) ?_ ?_
  · rintro s ⟨-, hmembers, htrace⟩
    rw [hmembers, htrace]
    exact hstart
  · intro s l s' hs hl hstep
    refine step_eq_some (Q := fun s => P s.members s.trace) (E := E) ?_ hstep
    cases l with
    | tick a => exact triple_call_tick (htick s a hs hl)
    | _ => exact triple_call_halts hcell hhalt hs (by simp)

end Runs

end BT

/-
Nav3D.BehaviorTree.RoundRobin — the control node that ticks its children in
turn until one succeeds (`plugins/control/round_robin_node.cpp`).

A cycle runs from one end of the node's activity to the next. The index and
the count of the failed children outlive a tick, the count of the skipped
ones does not: when a RUNNING child ends a tick, the children skipped in it
are no longer counted. A child that had failed before them is then ticked
again in the same cycle (`failed_child_ticked_again`).
`children_tried_once` says that this is the only way.

The loop of `tick()` has as much fuel as it may need. An index that is out
of range would be undefined behaviour and is an exception here.
-/
import Nav3D.Lib.NodeBench

namespace Nav3D.BehaviorTree.RoundRobin

open BT StateInvariant Transition

/-! ## The node -/

/-- The members of a `RoundRobinNode`. -/
structure Members where
  currentChildIdx : Nat := 0
  numFailedChildren : Nat := 0
  deriving DecidableEq

inductive Exception where
  | logicError
  | outOfRange
  | outOfFuel
  deriving DecidableEq

variable {σ : Type}

/-- `RoundRobinNode::halt()`. -/
def halt (cell : MemberCell Members σ) (children : List (TreeNode Exception σ)) :
    EStateM Exception σ PUnit := do
  haltChildren children
  modify (cell.setStatus .idle)
  cell.update fun _ => { currentChildIdx := 0, numFailedChildren := 0 }

/-- The index of the child after the current one. -/
def Members.advance (numChildren : Nat) (m : Members) : Members :=
  { m with
    currentChildIdx := if m.currentChildIdx + 1 = numChildren then 0 else m.currentChildIdx + 1 }

/-- Unless the child is RUNNING, go on to the one after it. -/
def nextChild (cell : MemberCell Members σ) (numChildren : Nat) (childStatus : NodeStatus) :
    EStateM Exception σ PUnit :=
  if childStatus ≠ .running then cell.update (·.advance numChildren) else pure ⟨⟩

/-- What the loop does with the status of a child; `next` is the rest of the
loop, with the number of skipped children. -/
def afterChild (cell : MemberCell Members σ) (children : List (TreeNode Exception σ))
    (numSkippedChildren : Nat) (next : Nat → EStateM Exception σ NodeStatus) :
    NodeStatus → EStateM Exception σ NodeStatus
  | .success => do
    cell.update fun m => { m with numFailedChildren := 0 }
    haltChildren children
    return .success
  | .failure => do
    cell.update fun m => { m with numFailedChildren := m.numFailedChildren + 1 }
    next numSkippedChildren
  | .skipped => next (numSkippedChildren + 1)
  | .running => return .running
  | .idle => throw .logicError

/-- The loop of `RoundRobinNode::tick()` and its end. -/
def tickChildren (cell : MemberCell Members σ) (children : List (TreeNode Exception σ)) :
    Nat → Nat → EStateM Exception σ NodeStatus
  | 0, _ => throw .outOfFuel
  | fuel + 1, numSkippedChildren => do
    let m := cell.members (← get)
    if m.numFailedChildren + numSkippedChildren < children.length then
      match children[m.currentChildIdx]? with
      | none => throw .outOfRange
      | some child => do
        let childStatus ← child.executeTick
        nextChild cell children.length childStatus
        afterChild cell children numSkippedChildren (tickChildren cell children fuel) childStatus
    else do
      halt cell children
      return if numSkippedChildren = children.length then .skipped else .failure

/-- `RoundRobinNode`. -/
def roundRobin (cell : MemberCell Members σ) (children : List (TreeNode Exception σ)) :
    TreeNode Exception σ where
  toStatusCell := cell.toStatusCell
  tick := do
    modify (cell.setStatus .running)
    tickChildren cell children (children.length + 1) 0
  halt := halt cell children

/-! ## Cycles -/

/-- A tick ticks at most `n` children, and the node returns FAILURE only if
every child has failed or has been skipped in the cycle. -/
structure TriesAll (n : Nat) (t : List Event) : Prop where
  tick_le : (currentTick t).length ≤ n
  failed : ∀ t', t = .returned .failure :: t' → ∀ i < n,
    .child i .failure ∈ activation t' ∨ .child i .skipped ∈ activation t'

/-- A child that is ticked has not failed in the cycle. -/
def FailsOnce (t : List Event) : Prop :=
  ∀ i status t', t = .child i status :: t' → .child i .failure ∉ activation t'

/-- Within the next `rounds` children, with none before that succeeds, one
returns RUNNING. -/
def RunsWithin (rounds : Nat) (answers : Nat → Answer) : Prop :=
  ∃ k < rounds, (answers k).1 = .running ∧
    ∀ j < k, (answers j).1 = .failure ∨ (answers j).1 = .skipped

/-- Before it, a child is skipped after one has failed; `failed` children
have failed already. -/
def LosesSkip (failed rounds : Nat) (answers : Nat → Answer) : Prop :=
  ∃ k < rounds, (answers k).1 = .running ∧
    (∀ j < k, (answers j).1 = .failure ∨ (answers j).1 = .skipped) ∧
    ∃ j < k, (answers j).1 = .skipped ∧ (0 < failed ∨ ∃ i < j, (answers i).1 = .failure)

instance (failed rounds : Nat) (answers : Nat → Answer) :
    Decidable (LosesSkip failed rounds answers) :=
  inferInstanceAs (Decidable (∃ k < rounds, _ ∧ _ ∧ _))

/-- The call is no tick that ends RUNNING and has skipped a child after one
had failed in the cycle. -/
def CountsSkips (n : Nat) (s : Bench Members) : Call → Prop
  | .tick answers =>
    ¬ LosesSkip s.members.numFailedChildren (n - s.members.numFailedChildren) answers
  | _ => True

instance (n : Nat) (s : Bench Members) : (l : Call) → Decidable (CountsSkips n s l)
  | .tick _ => inferInstanceAs (Decidable (¬ LosesSkip _ _ _))
  | .halt | .haltChild | .resetStatus => isTrue trivial

/-- The node on the bench. -/
def benchNode (n : Nat) : TreeNode Exception (Bench Members) :=
  roundRobin Bench.memberCell (Bench.children Exception n)

def system (n : Nat) : System (Bench Members) Call := benchSystem (benchNode n) {}

/-! ## Turns -/

/-- A child that is no longer RUNNING has returned. -/
def isTurn : Event → Bool
  | .child _ status => status != .running
  | _ => false

/-- The turns of the current cycle, newest first. -/
def turns (t : List Event) : List Event := (activation t).filter isTurn

section Turns

variable {n start lost i : Nat} {c t : List Event}

@[simp] theorem turns_child_running (i : Nat) (t : List Event) :
    turns (.child i .running :: t) = turns t := by
  simp [turns, isTurn]

theorem turns_child {status : NodeStatus} (h : status ≠ .running) (i : Nat) (t : List Event) :
    turns (.child i status :: t) = .child i status :: turns t :=
  List.filter_cons_of_pos (by simp [isTurn, h])

@[simp] theorem turns_running (t : List Event) : turns (.returned .running :: t) = turns t := by
  simp [turns, isTurn]

theorem turns_of_activation_nil (h : activation t = []) : turns t = [] := by
  simp [turns, h]

/-- From child `start` the children have had turns one after another, and
each has failed or has been skipped. -/
def Rotates (n start : Nat) : List Event → Prop
  | [] => True
  | e :: c =>
    (e = .child ((start + c.length) % n) .failure ∨ e = .child ((start + c.length) % n) .skipped) ∧
      Rotates n start c

/-- The first `lost` turns are no failures. -/
def FailsFrom (lost : Nat) : List Event → Prop
  | [] => True
  | e :: c => (∀ i, e = .child i .failure → lost ≤ c.length) ∧ FailsFrom lost c

/-- The failures among some turns. -/
def failures (c : List Event) : Nat :=
  c.countP fun
    | .child _ .failure => true
    | _ => false

/-- Every turn is in the list. -/
theorem Rotates.visits (h : Rotates n start c) : ∀ q < c.length,
    .child ((start + q) % n) .failure ∈ c ∨ .child ((start + q) % n) .skipped ∈ c := by
  induction c with
  | nil =>
    intro q hq
    exact absurd hq (Nat.not_lt_zero q)
  | cons e c ih =>
    intro q hq
    obtain ⟨he, hrest⟩ := h
    rw [List.length_cons] at hq
    rcases Nat.lt_or_ge q c.length with hlt | hge
    · rcases ih hrest q hlt with hmem | hmem
      · exact .inl (List.mem_cons_of_mem _ hmem)
      · exact .inr (List.mem_cons_of_mem _ hmem)
    · have hq' : q = c.length := by omega
      rw [hq']
      rcases he with rfl | rfl
      · exact .inl List.mem_cons_self
      · exact .inr List.mem_cons_self

/-- `n` turns reach every child. -/
theorem Rotates.visits_all (h : Rotates n start c) (hstart : start < n) (hn : n ≤ c.length)
    (hi : i < n) : .child i .failure ∈ c ∨ .child i .skipped ∈ c := by
  rcases Nat.lt_or_ge i start with hlt | hge
  · have hmod : (start + (i + n - start)) % n = i := by
      rw [show start + (i + n - start) = i + n by omega, Nat.add_mod_right, Nat.mod_eq_of_lt hi]
    rw [← hmod]
    exact h.visits (i + n - start) (by omega)
  · have hmod : (start + (i - start)) % n = i := by
      rw [show start + (i - start) = i by omega, Nat.mod_eq_of_lt hi]
    rw [← hmod]
    exact h.visits (i - start) (by omega)

/-- The turn in which a child has failed. -/
theorem Rotates.failed_turn (h : Rotates n start c) (hlost : FailsFrom lost c)
    (hmem : .child i .failure ∈ c) : ∃ q < c.length, lost ≤ q ∧ i = (start + q) % n := by
  induction c with
  | nil => exact absurd hmem (List.not_mem_nil)
  | cons e c ih =>
    obtain ⟨he, hrest⟩ := h
    obtain ⟨hfirst, hlost⟩ := hlost
    rcases List.mem_cons.mp hmem with rfl | hmem
    · refine ⟨c.length, by simp, hfirst i rfl, ?_⟩
      rcases he with he | he
      · cases he
        rfl
      · cases he
    · obtain ⟨q, hq, hle, hi⟩ := ih hrest hlost hmem
      exact ⟨q, Nat.lt_succ_of_lt hq, hle, hi⟩

/-- Fewer than `n` turns after a failure it is not that child's turn. -/
theorem Rotates.not_failed (h : Rotates n start c) (hlost : FailsFrom lost c)
    (hlt : c.length < n + lost) : .child ((start + c.length) % n) .failure ∉ c := by
  intro hmem
  obtain ⟨q, hq, hle, hmod⟩ := h.failed_turn hlost hmem
  have hzero := Nat.sub_mod_eq_zero_of_mod_eq hmod
  rw [show start + c.length - (start + q) = c.length - q by omega,
    Nat.mod_eq_of_lt (by omega)] at hzero
  omega

/-- Without failures, none comes early. -/
theorem failsFrom_of_failures (h : failures c = 0) (lost : Nat) : FailsFrom lost c := by
  induction c with
  | nil => trivial
  | cons e c ih =>
    unfold failures at h
    rw [List.countP_cons] at h
    refine ⟨?_, ih (by unfold failures; omega)⟩
    rintro i rfl
    simp at h

end Turns

/-! ## The counters -/

section Counting

variable {kept : Prop} {n start lost skips : Nat} {m : Members} {c t : List Event}
  {answers : Nat → Answer}

/-- What the members say in a cycle that has begun with child `start`: all
turns are counted but the first `lost` ones that skipped a child. If the
cycle has kept its skips, no failure is among these. -/
structure Counted (kept : Prop) (n start lost skips : Nat) (m : Members) (c : List Event) :
    Prop where
  start_lt : start < n
  idx_eq : m.currentChildIdx = (start + c.length) % n
  rotates : Rotates n start c
  failed_eq : m.numFailedChildren = failures c
  length_eq : c.length = m.numFailedChildren + skips + lost
  counted_le : m.numFailedChildren + skips ≤ n
  failsFrom : kept → FailsFrom lost c

theorem Counted.idx_lt (h : Counted kept n start lost skips m c) : m.currentChildIdx < n := by
  rw [h.idx_eq]
  exact Nat.mod_lt _ (Nat.zero_lt_of_lt h.start_lt)

/-- A cycle begins. -/
theorem counted_start (hidx : m.currentChildIdx < n) (hfailed : m.numFailedChildren = 0) :
    Counted kept n m.currentChildIdx 0 0 m [] where
  start_lt := hidx
  idx_eq := (Nat.mod_eq_of_lt hidx).symm
  rotates := trivial
  failed_eq := hfailed
  length_eq := by simp [hfailed]
  counted_le := by omega
  failsFrom := fun _ => trivial

/-- The index goes round. -/
theorem advance_eq (hn : 0 < n) (hidx : m.currentChildIdx = start % n) :
    (m.advance n).currentChildIdx = (start + 1) % n := by
  have hlt := Nat.mod_lt start hn
  have hsplit : start + 1 = n * (start / n) + (start % n + 1) := by
    have hdiv := Nat.div_add_mod start n
    omega
  rw [hsplit, Nat.mul_add_mod]
  show (if m.currentChildIdx + 1 = n then 0 else m.currentChildIdx + 1) = _
  rw [hidx]
  split
  · next hlast => rw [hlast, Nat.mod_self]
  · next hnot => exact (Nat.mod_eq_of_lt (by omega : start % n + 1 < n)).symm

theorem Counted.failure (h : Counted kept n start lost skips m c)
    (hlt : m.numFailedChildren + skips < n) :
    Counted kept n start lost skips
      { m.advance n with numFailedChildren := m.numFailedChildren + 1 }
      (.child m.currentChildIdx .failure :: c) where
  start_lt := h.start_lt
  idx_eq := by
    have hadvance := advance_eq (Nat.zero_lt_of_lt h.start_lt) h.idx_eq
    rwa [List.length_cons, ← Nat.add_assoc]
  rotates := by
    refine ⟨.inl ?_, h.rotates⟩
    rw [h.idx_eq]
  failed_eq := by
    have hfailed := h.failed_eq
    unfold failures at hfailed ⊢
    simp [hfailed]
  length_eq := by
    have hlength := h.length_eq
    simp only [List.length_cons]
    omega
  counted_le := by
    simp only
    omega
  failsFrom := fun hkept => by
    refine ⟨fun i _ => ?_, h.failsFrom hkept⟩
    have hlength := h.length_eq
    omega

theorem Counted.skipped (h : Counted kept n start lost skips m c)
    (hlt : m.numFailedChildren + skips < n) :
    Counted kept n start lost (skips + 1) (m.advance n)
      (.child m.currentChildIdx .skipped :: c) where
  start_lt := h.start_lt
  idx_eq := by
    have hadvance := advance_eq (Nat.zero_lt_of_lt h.start_lt) h.idx_eq
    rwa [List.length_cons, ← Nat.add_assoc]
  rotates := by
    refine ⟨.inr ?_, h.rotates⟩
    rw [h.idx_eq]
  failed_eq := by
    have hfailed := h.failed_eq
    unfold failures at hfailed ⊢
    simpa [Members.advance] using hfailed
  length_eq := by
    have hlength := h.length_eq
    show c.length + 1 = m.numFailedChildren + (skips + 1) + lost
    omega
  counted_le := by
    show m.numFailedChildren + (skips + 1) ≤ n
    omega
  failsFrom := fun hkept => by
    refine ⟨?_, h.failsFrom hkept⟩
    rintro i ⟨⟩

/-- The tick ends RUNNING: what it has skipped is no longer counted. -/
theorem Counted.running (h : Counted kept n start lost skips m c)
    (hkept : kept → FailsFrom (lost + skips) c) :
    Counted kept n start (lost + skips) 0 m c where
  start_lt := h.start_lt
  idx_eq := h.idx_eq
  rotates := h.rotates
  failed_eq := h.failed_eq
  length_eq := by
    have hlength := h.length_eq
    omega
  counted_le := by
    have hle := h.counted_le
    omega
  failsFrom := hkept

/-- What has happened so far. -/
structure History (kept : Prop) (n : Nat) (t : List Event) : Prop where
  triesAll : Always (TriesAll n) t
  failsOnce : kept → Always FailsOnce t

theorem history_nil : History kept n [] where
  triesAll := always_nil.mpr ⟨Nat.zero_le n, by rintro t' ⟨⟩⟩
  failsOnce := fun _ => always_nil.mpr (by rintro i status t' ⟨⟩)

/-- A child is ticked in its turn. -/
theorem History.child (h : History kept n t)
    (hcounted : Counted kept n start lost skips m (turns t))
    (hlt : m.numFailedChildren + skips < n)
    (htick : (currentTick t).length ≤ m.numFailedChildren + skips) (status : NodeStatus) :
    History kept n (.child m.currentChildIdx status :: t) where
  triesAll := by
    refine always_cons.mpr ⟨⟨?_, by rintro t' ⟨⟩⟩, h.triesAll⟩
    rw [currentTick_child, List.length_cons]
    omega
  failsOnce := fun hkept => by
    refine always_cons.mpr ⟨?_, h.failsOnce hkept⟩
    intro i status' t' heq hmem
    cases heq
    have hlength := hcounted.length_eq
    refine hcounted.rotates.not_failed (hcounted.failsFrom hkept) (by omega) ?_
    rw [← hcounted.idx_eq]
    exact List.mem_filter.mpr ⟨hmem, rfl⟩

theorem History.returned (h : History kept n t) {status : NodeStatus}
    (hfailed : status = .failure → ∀ i < n,
      .child i .failure ∈ activation t ∨ .child i .skipped ∈ activation t) :
    History kept n (.returned status :: t) where
  triesAll := by
    refine always_cons.mpr ⟨⟨Nat.zero_le n, ?_⟩, h.triesAll⟩
    intro t' heq
    cases heq
    exact hfailed rfl
  failsOnce := fun hkept => always_cons.mpr ⟨by rintro i status' t' ⟨⟩, h.failsOnce hkept⟩

theorem History.halted (h : History kept n t) : History kept n (.halted :: t) where
  triesAll := always_cons.mpr ⟨⟨Nat.zero_le n, by rintro t' ⟨⟩⟩, h.triesAll⟩
  failsOnce := fun hkept => always_cons.mpr ⟨by rintro i status' t' ⟨⟩, h.failsOnce hkept⟩

/-- Between two calls. -/
def Kept (kept : Prop) (n : Nat) (m : Members) (t : List Event) : Prop :=
  (∃ start lost, Counted kept n start lost 0 m (turns t)) ∧ History kept n t ∧ currentTick t = []

/-- The cycle has ended. -/
theorem kept_end {e : Event} (he : e.ends = true) (htick : e.isChild = false)
    (hhistory : History kept n (e :: t)) (hidx : m.currentChildIdx < n)
    (hfailed : m.numFailedChildren = 0) : Kept kept n m (e :: t) := by
  refine ⟨⟨m.currentChildIdx, 0, ?_⟩, hhistory, ?_⟩
  · rw [turns_of_activation_nil (activation_cons_ends he)]
    exact counted_start hidx hfailed
  · simp [currentTick, htick]

/-! ### The answers to come -/

theorem RunsWithin.cons {rounds : Nat}
    (h : RunsWithin rounds fun k => answers (k + 1))
    (hanswer : (answers 0).1 = .failure ∨ (answers 0).1 = .skipped) :
    RunsWithin (rounds + 1) answers := by
  obtain ⟨k, hk, hrunning, hbefore⟩ := h
  refine ⟨k + 1, by omega, hrunning, fun j hj => ?_⟩
  cases j with
  | zero => exact hanswer
  | succ j => exact hbefore j (by omega)

/-- A child has failed. -/
theorem LosesSkip.failure {failed rounds : Nat}
    (h : LosesSkip (failed + 1) rounds fun k => answers (k + 1))
    (hanswer : (answers 0).1 = .failure) : LosesSkip failed (rounds + 1) answers := by
  obtain ⟨k, hk, hrunning, hbefore, j, hj, hskip, -⟩ := h
  refine ⟨k + 1, by omega, hrunning, fun j hj => ?_, j + 1, by omega, hskip,
    .inr ⟨0, by omega, hanswer⟩⟩
  cases j with
  | zero => exact .inl hanswer
  | succ j => exact hbefore j (by omega)

/-- A child has been skipped, before any has failed. -/
theorem LosesSkip.skipped {rounds : Nat} (h : LosesSkip 0 rounds fun k => answers (k + 1))
    (hanswer : (answers 0).1 = .skipped) : LosesSkip 0 (rounds + 1) answers := by
  obtain ⟨k, hk, hrunning, hbefore, j, hj, hskip, hfailed⟩ := h
  refine ⟨k + 1, by omega, hrunning, fun j hj => ?_, j + 1, by omega, hskip, .inr ?_⟩
  · cases j with
    | zero => exact .inr hanswer
    | succ j => exact hbefore j (by omega)
  · rcases hfailed with hpos | ⟨i, hi, hfailed⟩
    · exact absurd hpos (Nat.lt_irrefl 0)
    · exact ⟨i + 1, by omega, hfailed⟩

/-- A child has been skipped, after one has failed. -/
theorem losesSkip_of_runs {failed rounds : Nat}
    (h : RunsWithin rounds fun k => answers (k + 1)) (hanswer : (answers 0).1 = .skipped)
    (hfailed : 0 < failed) : LosesSkip failed (rounds + 1) answers := by
  obtain ⟨k, hk, hrunning, hbefore⟩ := h.cons (.inr hanswer)
  refine ⟨k, hk, hrunning, hbefore, 0, Nat.pos_of_ne_zero ?_, hanswer, .inl hfailed⟩
  rintro rfl
  rw [hanswer] at hrunning
  cases hrunning

/-- The tick to come loses no skip that follows a failure, or it does not
end RUNNING. -/
def SkipsKept (n lost skips : Nat) (m : Members) (c : List Event) (answers : Nat → Answer) :
    Prop :=
  (FailsFrom (lost + skips) c ∧
      ¬ LosesSkip m.numFailedChildren (n - (m.numFailedChildren + skips)) answers) ∨
    ¬ RunsWithin (n - (m.numFailedChildren + skips)) answers

variable (h : SkipsKept n lost skips m c answers) (hlt : m.numFailedChildren + skips < n)

include h hlt

theorem SkipsKept.failure (hlength : c.length = m.numFailedChildren + skips + lost)
    (hanswer : (answers 0).1 = .failure) (i : Nat) :
    SkipsKept n lost skips { m.advance n with numFailedChildren := m.numFailedChildren + 1 }
      (.child i .failure :: c) fun k => answers (k + 1) := by
  have hrounds : n - (m.numFailedChildren + skips) =
      n - (m.numFailedChildren + 1 + skips) + 1 := by omega
  rcases h with ⟨hfrom, hloses⟩ | hruns
  · refine .inl ⟨⟨fun _ _ => ?_, hfrom⟩, fun hloses' => hloses ?_⟩
    · omega
    · rw [hrounds]
      exact hloses'.failure hanswer
  · refine .inr fun hruns' => hruns ?_
    rw [hrounds]
    exact hruns'.cons (.inl hanswer)

theorem SkipsKept.skipped (hfailed : m.numFailedChildren = failures c)
    (hanswer : (answers 0).1 = .skipped) (i : Nat) :
    SkipsKept n lost (skips + 1) (m.advance n) (.child i .skipped :: c)
      fun k => answers (k + 1) := by
  have hrounds : n - (m.numFailedChildren + skips) =
      n - (m.numFailedChildren + (skips + 1)) + 1 := by omega
  rcases h with ⟨hfrom, hloses⟩ | hruns
  · rcases Nat.eq_zero_or_pos m.numFailedChildren with hzero | hpos
    · refine .inl ⟨⟨by rintro _ ⟨⟩, ?_⟩, fun hloses' => hloses ?_⟩
      · exact failsFrom_of_failures (hfailed ▸ hzero) _
      · have hzero' : (m.advance n).numFailedChildren = 0 := hzero
        rw [hzero'] at hloses'
        rw [hrounds, hzero]
        exact hloses'.skipped hanswer
    · refine .inr fun hruns' => hloses ?_
      rw [hrounds]
      exact losesSkip_of_runs hruns' hanswer hpos
  · refine .inr fun hruns' => hruns ?_
    rw [hrounds]
    exact hruns'.cons (.inr hanswer)

theorem SkipsKept.running (hanswer : (answers 0).1 = .running) : FailsFrom (lost + skips) c := by
  rcases h with ⟨hfrom, -⟩ | hruns
  · exact hfrom
  · exact absurd ⟨0, by omega, hanswer, fun j hj => absurd hj (Nat.not_lt_zero j)⟩ hruns

end Counting

/-! ## One tick -/

section Ticks

variable {kept : Prop} {n fuel skips : Nat} {E : Exception → Bench Members → Prop}
  {P Q : Members → (Nat → Answer) → List Event → Prop}

theorem triple_halt (h : ∀ m a t, P m a t → Q {} a t) :
    Triple (Bench.Shows P) (halt Bench.memberCell (Bench.children Exception n))
      (fun _ => Bench.Shows Q) E := by
  refine triple_bind (Bench.triple_haltChildren n) fun _ => ?_
  refine triple_bind (Q := fun _ => Bench.Shows P) (triple_modify fun _ hs => hs) fun _ => ?_
  exact Bench.triple_update h

/-- A round of the loop begins. -/
structure InLoop (kept : Prop) (n fuel skips : Nat) (m : Members) (answers : Nat → Answer)
    (t : List Event) : Prop where
  counted : ∃ start lost, Counted kept n start lost skips m (turns t) ∧
    (kept → SkipsKept n lost skips m (turns t) answers)
  history : History kept n t
  tick_le : (currentTick t).length ≤ m.numFailedChildren + skips
  fuel_le : n < fuel + (m.numFailedChildren + skips)

/-- The current child has answered in this round. -/
def Answered (kept : Prop) (n fuel skips : Nat) (status : NodeStatus) (m : Members)
    (rest : Nat → Answer) (t : List Event) : Prop :=
  ∃ answers t', InLoop kept n fuel skips m answers t' ∧ m.numFailedChildren + skips < n ∧
    (answers 0).1 = status ∧ rest = (fun k => answers (k + 1)) ∧
    t = .child m.currentChildIdx status :: t'

/-- The tick returns. -/
def TickEnds (kept : Prop) (n : Nat) (status : NodeStatus) (m : Members) (_ : Nat → Answer)
    (t : List Event) : Prop :=
  Kept kept n m (.returned status :: t)

theorem Answered.history {status : NodeStatus} {m : Members} {a : Nat → Answer} {t : List Event}
    (h : Answered kept n fuel skips status m a t) : History kept n t := by
  obtain ⟨answers, t', hloop, hlt, -, -, rfl⟩ := h
  obtain ⟨start, lost, hcounted, -⟩ := hloop.counted
  exact hloop.history.child hcounted hlt hloop.tick_le status

theorem Answered.idx_lt {status : NodeStatus} {m : Members} {a : Nat → Answer} {t : List Event}
    (h : Answered kept n fuel skips status m a t) : (m.advance n).currentChildIdx < n := by
  obtain ⟨answers, t', hloop, -⟩ := h
  obtain ⟨start, lost, hcounted, -⟩ := hloop.counted
  have hn := Nat.zero_lt_of_lt hcounted.start_lt
  rw [advance_eq hn hcounted.idx_eq]
  exact Nat.mod_lt _ hn

theorem Answered.failure {m : Members} {a : Nat → Answer} {t : List Event}
    (h : Answered kept n (fuel + 1) skips .failure m a t) :
    InLoop kept n fuel skips
      { m.advance n with numFailedChildren := m.numFailedChildren + 1 } a t := by
  have hhistory := h.history
  obtain ⟨answers, t', hloop, hlt, hanswer, rfl, rfl⟩ := h
  obtain ⟨start, lost, hcounted, hskips⟩ := hloop.counted
  have hfuel := hloop.fuel_le
  have htick := hloop.tick_le
  refine ⟨⟨start, lost, ?_, fun hkept => ?_⟩, hhistory, ?_, ?_⟩
  · rw [turns_child (by simp)]
    exact hcounted.failure hlt
  · rw [turns_child (by simp)]
    exact (hskips hkept).failure hlt hcounted.length_eq hanswer _
  · simp only [currentTick_child, List.length_cons]
    omega
  · simp only
    omega

theorem Answered.skipped {m : Members} {a : Nat → Answer} {t : List Event}
    (h : Answered kept n (fuel + 1) skips .skipped m a t) :
    InLoop kept n fuel (skips + 1) (m.advance n) a t := by
  have hhistory := h.history
  obtain ⟨answers, t', hloop, hlt, hanswer, rfl, rfl⟩ := h
  obtain ⟨start, lost, hcounted, hskips⟩ := hloop.counted
  have hfuel := hloop.fuel_le
  have htick := hloop.tick_le
  refine ⟨⟨start, lost, ?_, fun hkept => ?_⟩, hhistory, ?_, ?_⟩
  · rw [turns_child (by simp)]
    exact hcounted.skipped hlt
  · rw [turns_child (by simp)]
    exact (hskips hkept).skipped hlt hcounted.failed_eq hanswer _
  · show (currentTick _).length ≤ m.numFailedChildren + (skips + 1)
    simp only [currentTick_child, List.length_cons]
    omega
  · show n < fuel + (m.numFailedChildren + (skips + 1))
    omega

theorem Answered.running {m : Members} {a : Nat → Answer} {t : List Event}
    (h : Answered kept n fuel skips .running m a t) : TickEnds kept n .running m a t := by
  have hhistory := h.history
  obtain ⟨answers, t', hloop, hlt, hanswer, -, rfl⟩ := h
  obtain ⟨start, lost, hcounted, hskips⟩ := hloop.counted
  refine ⟨⟨start, lost + skips, ?_⟩, hhistory.returned (by simp), rfl⟩
  rw [turns_running, turns_child_running]
  exact hcounted.running fun hkept => (hskips hkept).running hlt hanswer

/-- What the loop does after a child. -/
theorem triple_afterChild {next : Nat → EStateM Exception (Bench Members) NodeStatus}
    (hnext : ∀ skips, Triple (Bench.Shows (InLoop kept n fuel skips)) (next skips)
      (fun status => Bench.Shows (TickEnds kept n status)) E) (status : NodeStatus) :
    Triple
      (Bench.Shows fun m' a t => ∃ m, Answered kept n (fuel + 1) skips status m a t ∧
        m' = if status = .running then m else m.advance n)
      (afterChild Bench.memberCell (Bench.children Exception n) skips next status)
      (fun status => Bench.Shows (TickEnds kept n status)) E := by
  cases status with
  | success =>
    refine triple_bind (Bench.triple_update (Q := TickEnds kept n .success) ?_) fun _ =>
      triple_bind (Bench.triple_haltChildren n) fun _ => triple_pure fun _ hs => hs
    rintro _ a t ⟨m, h, rfl⟩
    exact kept_end rfl rfl (h.history.returned (by simp)) h.idx_lt rfl
  | failure =>
    refine triple_bind (Bench.triple_update ?_) fun _ => hnext skips
    rintro _ a t ⟨m, h, rfl⟩
    exact h.failure
  | skipped =>
    refine triple_pre (hnext (skips + 1)) ?_
    rintro s ⟨m, h, hm⟩
    show InLoop kept n fuel (skips + 1) s.members s.answers s.trace
    rw [hm]
    exact h.skipped
  | running =>
    refine triple_pure ?_
    rintro s ⟨m, h, hm⟩
    show TickEnds kept n .running s.members s.answers s.trace
    rw [hm]
    exact h.running
  | idle =>
    refine triple_throw ?_
    rintro s ⟨m, ⟨answers, -, -, -, hanswer, -⟩, -⟩
    exact absurd hanswer (answers 0).2

/-- One round of the loop with a child. -/
theorem triple_round {next : Nat → EStateM Exception (Bench Members) NodeStatus}
    (hnext : ∀ skips, Triple (Bench.Shows (InLoop kept n fuel skips)) (next skips)
      (fun status => Bench.Shows (TickEnds kept n status)) E) (i : Nat) :
    Triple
      (Bench.Shows fun m a t => InLoop kept n (fuel + 1) skips m a t ∧
        m.numFailedChildren + skips < n ∧ m.currentChildIdx = i)
      (do
        let childStatus ← (Bench.child Exception i).executeTick
        nextChild Bench.memberCell n childStatus
        afterChild Bench.memberCell (Bench.children Exception n) skips next childStatus)
      (fun status => Bench.Shows (TickEnds kept n status)) E := by
  refine triple_bind (Bench.triple_child i (T := Answered kept n (fuel + 1) skips) ?_)
    fun status => ?_
  · rintro m a t ⟨hloop, hlt, rfl⟩
    exact ⟨a, t, hloop, hlt, rfl, rfl, rfl⟩
  · refine triple_bind ?_ fun _ => triple_afterChild hnext status
    refine triple_ite (fun hdone => Bench.triple_update fun m a t h => ?_)
      (fun hrunning => triple_pure fun s h => ?_)
    · exact ⟨m, h, (if_neg hdone).symm⟩
    · exact ⟨s.members, h, (if_pos (not_not.mp hrunning)).symm⟩

/-- The end of the loop. -/
theorem triple_endLoop (fuel : Nat) :
    Triple
      (Bench.Shows fun m a t => InLoop kept n fuel skips m a t ∧ n ≤ m.numFailedChildren + skips)
      (do
        halt Bench.memberCell (Bench.children Exception n)
        return if skips = n then .skipped else .failure)
      (fun status => Bench.Shows (TickEnds kept n status)) E := by
  refine triple_bind
    (triple_halt (Q := fun m a t => ∀ status : NodeStatus, status ≠ .running →
      TickEnds kept n status m a t) ?_) fun _ => triple_pure fun s hs => hs _ ?_
  · rintro m a t ⟨hloop, hge⟩ status hstatus
    obtain ⟨start, lost, hcounted, -⟩ := hloop.counted
    have hlength := hcounted.length_eq
    refine kept_end (by simp [Event.ends, hstatus]) rfl (hloop.history.returned fun _ i hi => ?_)
      (Nat.zero_lt_of_lt hcounted.start_lt) rfl
    rcases hcounted.rotates.visits_all hcounted.start_lt (by omega) hi with hmem | hmem
    · exact .inl (List.mem_of_mem_filter hmem)
    · exact .inr (List.mem_of_mem_filter hmem)
  · split
    · simp
    · simp

/-- The loop ends before the fuel does. By induction on the fuel. -/
theorem triple_tickChildren :
    ∀ fuel skips, Triple (Bench.Shows (InLoop kept n fuel skips))
      (tickChildren Bench.memberCell (Bench.children Exception n) fuel skips)
      (fun status => Bench.Shows (TickEnds kept n status)) E := by
  intro fuel
  induction fuel with
  | zero =>
    intro skips
    refine triple_throw fun s h => ?_
    obtain ⟨start, lost, hcounted, -⟩ := h.counted
    have hle := hcounted.counted_le
    have hfuel := h.fuel_le
    omega
  | succ fuel ih =>
    intro skips
    unfold tickChildren
    simp only [Bench.length_children]
    refine triple_get_bind fun s h => ?_
    obtain ⟨start, lost, hcounted, -⟩ := h.counted
    refine triple_ite (fun hlt => ?_) (fun hge => ?_)
    · have hchild : (Bench.children Exception n : List (TreeNode Exception (Bench Members)))[
          (Bench.memberCell.members s).currentChildIdx]? =
            some (Bench.child Exception s.members.currentChildIdx) :=
        Bench.getElem?_children hcounted.idx_lt
      rw [hchild]
      refine triple_pre (triple_round ih s.members.currentChildIdx) ?_
      rintro _ rfl
      exact ⟨h, hlt, rfl⟩
    · refine triple_pre (triple_endLoop (fuel + 1)) ?_
      rintro _ rfl
      exact ⟨h, Nat.le_of_not_lt hge⟩

/-- One tick of the node. -/
theorem triple_tick {s : Bench Members} (h : Kept kept n s.members s.trace) (answers : Nat → Answer)
    (hskips : kept → CountsSkips n s (.tick answers)) :
    Triple (· = { s with answers := answers }) (benchNode n).executeTick
      (fun status => Bench.Shows (TickEnds kept n status)) E := by
  refine triple_executeTick_ignored (fun _ => Bench.ignored_shows) ?_ fun _ =>
    triple_pure fun _ hs => hs
  obtain ⟨⟨start, lost, hcounted⟩, hhistory, htick⟩ := h
  have hloop : InLoop kept n (n + 1) 0 s.members answers s.trace := by
    refine ⟨⟨start, lost, hcounted, fun hkept => .inl ⟨hcounted.failsFrom hkept, ?_⟩⟩, hhistory,
      ?_, ?_⟩
    · exact hskips hkept
    · rw [htick]
      exact Nat.zero_le _
    · omega
  refine triple_bind (Q := fun _ => Bench.Shows (InLoop kept n (n + 1) 0)) (triple_modify ?_)
    fun _ => ?_
  · rintro _ rfl
    exact hloop
  · rw [Bench.length_children]
    exact triple_tickChildren (n + 1) 0

theorem halt_kept (hn : 0 < n) :
    Triple (fun s : Bench Members => Kept kept n s.members s.trace) (benchNode n).halt
      (fun _ s => Kept kept n s.members (.halted :: s.trace)) E :=
  triple_halt (P := fun m _ t => Kept kept n m t)
    (Q := fun m _ t => Kept kept n m (.halted :: t))
    fun _ _ _ h => kept_end rfl rfl h.2.1.halted hn rfl

end Ticks

/-! ## Runs -/

theorem kept_of_reach (kept : Prop) {n : Nat} (hn : 0 < n) {C : Bench Members → Call → Prop}
    (hC : kept → ∀ s l, C s l → CountsSkips n s l) {s : Bench Members}
    (h : (system n).Reach C s) : Kept kept n s.members s.trace := by
  refine invariant_of_reach (P := Kept kept n) (E := fun _ _ => False) rfl ?_
    (fun s a hs hl => ?_) (halt_kept hn) h
  · exact ⟨⟨0, 0, counted_start (m := {}) hn rfl⟩, history_nil, rfl⟩
  · exact triple_tick hs a fun hkept => hC hkept _ _ hl

/-- **Children in turn.** In every run the index stays in range, every call
returns, a tick ticks each child at most once, and FAILURE is returned only
if every child has failed or has been skipped in the cycle. In every run in
which no tick that ends RUNNING has skipped a child after one had failed in
the cycle, no child that has failed is ticked again in the cycle. -/
theorem children_tried_once {n : Nat} (hn : 0 < n) :
    (∀ s, (system n).Reach System.anyStep s →
      s.members.currentChildIdx < n ∧ Always (TriesAll n) s.trace ∧
        ∀ l, ∃ s', (system n).step s l = some s') ∧
      ∀ s, (system n).Reach (CountsSkips n) s → Always FailsOnce s.trace := by
  constructor
  · intro s h
    have hkept := kept_of_reach False hn (fun hfalse => absurd hfalse id) h
    obtain ⟨start, lost, hcounted⟩ := hkept.1
    refine ⟨hcounted.idx_lt, hkept.2.1.triesAll, fun l => ?_⟩
    have hcall : Triple (· = s) (call (benchNode n) l) (fun _ _ => True) (fun _ _ => False) := by
      by_cases hl : ∃ a, l = .tick a
      · obtain ⟨a, rfl⟩ := hl
        exact triple_call_tick (triple_post (triple_tick hkept a fun hfalse => absurd hfalse id)
          (fun _ _ _ => trivial))
      · exact triple_post (triple_call_halts rfl (halt_kept hn) hkept fun a ha => hl ⟨a, ha⟩)
          (fun _ _ _ => trivial)
    obtain ⟨s', hs', -⟩ := exists_step {} hcall
    exact ⟨s', hs'⟩
  · intro s h
    exact (kept_of_reach True hn (fun _ _ _ hl => hl) h).2.1.failsOnce trivial

/-! ### A skip that is lost -/

/-- Child 0 is skipped, child 1 is RUNNING for a tick, and then the others
fail. -/
def skippedFirst : List Call := [.tick (answerWith [.skipped, .running]), .tick (answerWith [])]

/-- The run keeps to the condition. -/
theorem children_tried_once_three :
    ∃ s : Bench Members, s.trace.head? = some (.returned .failure) ∧ Always FailsOnce s.trace := by
  obtain ⟨s, hreach, hs⟩ := System.exists_reach_of_runWhile (S := system 3) (CountsSkips 3)
    skippedFirst (fun s => s.trace.head? = some (.returned .failure)) (s := .created {})
    ⟨rfl, rfl, rfl⟩ (by decide +kernel)
  exact ⟨s, of_decide_eq_true hs, (children_tried_once (by decide)).2 s hreach⟩

/-- Child 0 fails, child 1 is skipped and child 2 is RUNNING for a tick; in
the next one child 2 fails. -/
def skippedAfterFailure : List Call :=
  [.tick (answerWith [.failure, .skipped, .running]), .tick (answerWith [.failure, .running])]

/-- Then child 0 is ticked again. -/
theorem failed_child_ticked_again :
    ¬ ∀ n, 0 < n → ∀ s, (system n).Reach System.anyStep s →
      s.members.currentChildIdx < n ∧ Always (TriesAll n) s.trace ∧ Always FailsOnce s.trace := by
  intro hclaim
  obtain ⟨s, hreach, hs⟩ := System.exists_reach_of_runWhile (S := system 3) System.anyStep
    skippedAfterFailure
    (fun s => s.trace.drop 1 = .child 0 .running :: s.trace.drop 2 ∧
      .child 0 .failure ∈ activation (s.trace.drop 2)) (s := .created {}) ⟨rfl, rfl, rfl⟩
    (by decide +kernel)
  obtain ⟨hdrop, hmem⟩ := of_decide_eq_true hs
  have hlaw := (hclaim 3 (by decide) s hreach).2.2 (s.trace.drop 1) (List.drop_suffix 1 s.trace)
  exact hlaw _ _ _ hdrop hmem

end Nav3D.BehaviorTree.RoundRobin

/-
Nav3D.BehaviorTree.PipelineStages — a `PipelineSequence` starts its children
one after another (`plugins/control/pipeline_sequence.cpp`).

`last_child_ticked_` is the furthest child that the activation has reached.
A RUNNING child before it is passed over, a RUNNING child at or after it
ends the tick and becomes the mark. So a child beyond the mark is ticked
only right after the one before it has returned SUCCESS or SKIPPED.
-/
import Nav3D.BehaviorTree.Plugins
import Nav3D.Lib.NodeBench

namespace Nav3D.BehaviorTree.PipelineStages

open BT StateInvariant Transition

/-! ## The node on the bench -/

/-- The member `last_child_ticked_`. -/
def pipelineCell : PipelineCell (Bench Nat) where
  toStatusCell := Bench.cell
  lastChildTicked := Bench.members
  setLastChildTicked i s := { s with members := i }

def benchNode (n : Nat) : TreeNode Unit (Bench Nat) :=
  pipelineSequence () pipelineCell (Bench.children Unit n)

def system (n : Nat) : System (Bench Nat) Call := benchSystem (benchNode n) 0

/-! ## Stages -/

/-- Child `i` has completed in the activation. -/
def Completed (t : List Event) (i : Nat) : Prop :=
  .child i .success ∈ activation t ∨ .child i .skipped ∈ activation t

/-- Child `i` has been ticked in the activation. -/
def Ticked (t : List Event) (i : Nat) : Prop := ∃ status, .child i status ∈ activation t

/-- A child is ticked for the first time when the one before it has just
returned SUCCESS or SKIPPED and all before it have completed; RUNNING is
returned when the furthest child has just returned RUNNING. -/
structure InOrder (t : List Event) : Prop where
  started : ∀ j status t', t = .child (j + 1) status :: t' → ¬ Ticked t' (j + 1) →
    (∃ t'', t' = .child j .success :: t'' ∨ t' = .child j .skipped :: t'') ∧
      ∀ i ≤ j, Completed t' i
  running : ∀ t', t = .returned .running :: t' →
    ∃ i t'', t' = .child i .running :: t'' ∧ ∀ j, Ticked t' j → j ≤ i

/-- A return other than RUNNING and a halt leave the mark at 0. -/
def Rested (mark : Nat) (t : List Event) : Prop := ∀ e t', t = e :: t' → e.ends = true → mark = 0

/-- The tick from `t` to `t'` has ticked every child before `mark`, or one
before it has failed. -/
def Reticks (mark : Nat) (t t' : List Event) : Prop :=
  ∃ status ticked, t' = .returned status :: (ticked ++ t) ∧ (∀ e ∈ ticked, e.isChild = true) ∧
    ∀ i < mark, (∃ status, .child i status ∈ ticked) ∨ ∃ k < i, .child k .failure ∈ ticked

section Stages

variable {t : List Event} {i j : Nat} {status : NodeStatus}

theorem completed_child (h : Completed t i) (j : Nat) (status : NodeStatus) :
    Completed (.child j status :: t) i := by
  rcases h with h | h
  · exact .inl (List.mem_cons_of_mem _ h)
  · exact .inr (List.mem_cons_of_mem _ h)

theorem completed_running (h : Completed t i) : Completed (.returned .running :: t) i := by
  rcases h with h | h
  · exact .inl (List.mem_cons_of_mem _ h)
  · exact .inr (List.mem_cons_of_mem _ h)

theorem Completed.ticked (h : Completed t i) : Ticked t i := by
  rcases h with h | h
  · exact ⟨.success, h⟩
  · exact ⟨.skipped, h⟩

theorem ticked_child_iff : Ticked (.child j status :: t) i ↔ i = j ∨ Ticked t i := by
  constructor
  · rintro ⟨status', hmem⟩
    rcases List.mem_cons.mp hmem with heq | hmem
    · cases heq
      exact .inl rfl
    · exact .inr ⟨status', hmem⟩
  · rintro (rfl | ⟨status', hmem⟩)
    · exact ⟨status, List.mem_cons_self⟩
    · exact ⟨status', List.mem_cons_of_mem _ hmem⟩

theorem ticked_running_iff : Ticked (.returned .running :: t) i ↔ Ticked t i := by
  constructor
  · rintro ⟨status', hmem⟩
    rcases List.mem_cons.mp hmem with heq | hmem
    · cases heq
    · exact ⟨status', hmem⟩
  · rintro ⟨status', hmem⟩
    exact ⟨status', List.mem_cons_of_mem _ hmem⟩

/-- The mark is the furthest child of the activation, and those before it
have completed. -/
structure Marked (mark : Nat) (t : List Event) : Prop where
  rested : activation t = [] → mark = 0
  completed : ∀ i < mark, Completed t i
  ticked : 0 < mark → Ticked t mark
  furthest : ∀ j, Ticked t j → j ≤ mark

theorem marked_end (h : activation t = []) : Marked 0 t where
  rested _ := rfl
  completed i hi := absurd hi (Nat.not_lt_zero i)
  ticked hmark := absurd hmark (Nat.lt_irrefl 0)
  furthest := by
    rintro j ⟨status, hmem⟩
    rw [h] at hmem
    cases hmem

/-- Between two calls. -/
def Kept (mark : Nat) (t : List Event) : Prop := Marked mark t ∧ Always InOrder t

theorem Kept.rest (h : Kept i t) : Rested i t := by
  rintro e t' rfl he
  exact h.1.rested (activation_cons_ends he)

theorem inOrder_nil : InOrder [] where
  started := by rintro j status t' ⟨⟩
  running := by rintro t' ⟨⟩

/-- An event that ends the activation. -/
theorem kept_end {e : Event} (he : e.ends = true) (h : Always InOrder t) : Kept 0 (e :: t) := by
  refine ⟨marked_end (activation_cons_ends he), always_cons.mpr ⟨⟨?_, ?_⟩, h⟩⟩
  · intro j status t' heq
    cases heq
    cases he
  · intro t' heq
    cases heq
    cases he

/-! ## One tick -/

/-- The loop is at child `i`; the tick has begun after `t₀`. -/
structure InLoop (t₀ : List Event) (mark i : Nat) (t : List Event) : Prop where
  inOrder : Always InOrder t
  marked : ∀ k < mark, Completed t k
  ticked : 0 < mark → Ticked t mark
  passed : ∀ k < i, mark ≤ k → Completed t k
  before : mark < i → ∃ t', t = .child (i - 1) .success :: t' ∨ t = .child (i - 1) .skipped :: t'
  furthest : ∀ j, Ticked t j → j ≤ mark ∨ j < i
  reticks : ∃ ticked, t = ticked ++ t₀ ∧ (∀ e ∈ ticked, e.isChild = true) ∧
    ∀ k < i, ∃ status, .child k status ∈ ticked

variable {t₀ : List Event} {mark : Nat}

theorem Kept.inLoop (h : Kept mark t) : InLoop t mark 0 t where
  inOrder := h.2
  marked := h.1.completed
  ticked := h.1.ticked
  passed k hk := absurd hk (Nat.not_lt_zero k)
  before hmark := absurd hmark (Nat.not_lt_zero mark)
  furthest j hj := .inl (h.1.furthest j hj)
  reticks := ⟨[], rfl, by simp, fun k hk => absurd hk (Nat.not_lt_zero k)⟩

/-- Child `i` is ticked in order. -/
theorem InLoop.child (h : InLoop t₀ mark i t) (status : NodeStatus) :
    Always InOrder (.child i status :: t) := by
  refine always_cons.mpr ⟨⟨?_, by rintro t' ⟨⟩⟩, h.inOrder⟩
  intro j status' t' heq hfirst
  cases heq
  -- a child up to the mark has been ticked
  have hmark : mark < j + 1 := by
    by_contra hnot
    rcases Nat.lt_or_ge (j + 1) mark with hlt | hge
    · exact hfirst (h.marked _ hlt).ticked
    · have hsame : mark = j + 1 := by omega
      exact hfirst (hsame ▸ h.ticked (by omega))
  refine ⟨h.before hmark, fun i hi => ?_⟩
  rcases Nat.lt_or_ge i mark with hlt | hge
  · exact h.marked i hlt
  · exact h.passed i (by omega) hge

theorem InLoop.reticks_child (h : InLoop t₀ mark i t) (status : NodeStatus) :
    ∃ ticked, .child i status :: t = ticked ++ t₀ ∧ (∀ e ∈ ticked, e.isChild = true) ∧
      .child i status ∈ ticked ∧ ∀ k ≤ i, ∃ status, .child k status ∈ ticked := by
  obtain ⟨ticked, rfl, hchild, hticked⟩ := h.reticks
  refine ⟨.child i status :: ticked, rfl, ?_, List.mem_cons_self, fun k hk => ?_⟩
  · intro e he
    rcases List.mem_cons.mp he with rfl | he
    · rfl
    · exact hchild e he
  · rcases Nat.lt_or_ge k i with hlt | hge
    · obtain ⟨status', hmem⟩ := hticked k hlt
      exact ⟨status', List.mem_cons_of_mem _ hmem⟩
    · have hsame : k = i := by omega
      exact ⟨status, hsame ▸ List.mem_cons_self⟩

/-- The loop goes on after child `i`. -/
theorem InLoop.next (h : InLoop t₀ mark i t)
    (hstatus : i < mark ∨ status = .success ∨ status = .skipped) :
    InLoop t₀ mark (i + 1) (.child i status :: t) where
  inOrder := h.child status
  marked k hk := completed_child (h.marked k hk) i status
  ticked hmark := ticked_child_iff.mpr (.inr (h.ticked hmark))
  passed k hk hge := by
    rcases Nat.lt_or_ge k i with hlt | hle
    · exact completed_child (h.passed k hlt hge) i status
    · have hsame : k = i := by omega
      rcases hstatus with hlt | rfl | rfl
      · omega
      · exact .inl (hsame ▸ List.mem_cons_self)
      · exact .inr (hsame ▸ List.mem_cons_self)
  before hmark := by
    rcases hstatus with hlt | rfl | rfl
    · omega
    · exact ⟨t, .inl rfl⟩
    · exact ⟨t, .inr rfl⟩
  furthest j hj := by
    rcases ticked_child_iff.mp hj with rfl | hj
    · exact .inr (Nat.lt_succ_self j)
    · rcases h.furthest j hj with hle | hlt
      · exact .inl hle
      · exact .inr (Nat.lt_succ_of_lt hlt)
  reticks := by
    obtain ⟨ticked, heq, hchild, -, hticked⟩ := h.reticks_child status
    exact ⟨ticked, heq, hchild, fun k hk => hticked k (Nat.le_of_lt_succ hk)⟩

/-- The tick returns, with its mark. -/
structure TickEnds (n : Nat) (t₀ : List Event) (mark : Nat) (status : NodeStatus) (mark' : Nat)
    (t : List Event) : Prop where
  kept : Kept mark' (.returned status :: t)
  le : mark' ≤ n
  grows : status = .running → mark ≤ mark'
  reticks : Reticks mark t₀ (.returned status :: t)

variable {n : Nat}

theorem InLoop.fails (h : InLoop t₀ mark i t) :
    TickEnds n t₀ mark .failure 0 (.child i .failure :: t) where
  kept := kept_end rfl (h.child .failure)
  le := Nat.zero_le n
  grows := by rintro ⟨⟩
  reticks := by
    obtain ⟨ticked, heq, hchild, hfailed, hticked⟩ := h.reticks_child .failure
    refine ⟨.failure, ticked, by rw [heq], hchild, fun k _ => ?_⟩
    rcases Nat.lt_or_ge i k with hlt | hge
    · exact .inr ⟨i, hlt, hfailed⟩
    · exact .inl (hticked k hge)

theorem InLoop.stops (h : InLoop t₀ mark i t) (hmark : mark ≤ i) (hi : i < n) :
    TickEnds n t₀ mark .running i (.child i .running :: t) where
  kept := by
    have hnext : ∀ k < i, Completed (.returned .running :: .child i .running :: t) k := by
      intro k hk
      refine completed_running (completed_child ?_ i .running)
      rcases Nat.lt_or_ge k mark with hlt | hge
      · exact h.marked k hlt
      · exact h.passed k hk hge
    have hfurthest : ∀ j, Ticked (.child i .running :: t) j → j ≤ i := by
      intro j hj
      rcases ticked_child_iff.mp hj with rfl | hj
      · exact Nat.le_refl j
      · have hor := h.furthest j hj
        omega
    refine ⟨⟨by rintro ⟨⟩, hnext, fun _ => ?_, fun j hj => ?_⟩, always_cons.mpr ⟨⟨?_, ?_⟩, ?_⟩⟩
    · exact ticked_running_iff.mpr (ticked_child_iff.mpr (.inl rfl))
    · exact hfurthest j (ticked_running_iff.mp hj)
    · rintro j status t' ⟨⟩
    · intro t' heq
      cases heq
      exact ⟨i, t, rfl, hfurthest⟩
    · exact h.child .running
  le := Nat.le_of_lt hi
  grows _ := hmark
  reticks := by
    obtain ⟨ticked, heq, hchild, -, hticked⟩ := h.reticks_child .running
    refine ⟨.running, ticked, by rw [heq], hchild, fun k hk => .inl (hticked k ?_)⟩
    omega

theorem InLoop.ends (h : InLoop t₀ mark n t) (hmark : mark ≤ n) {status : NodeStatus}
    (hstatus : status ≠ .running) : TickEnds n t₀ mark status 0 t where
  kept := kept_end (by simp [Event.ends, hstatus]) h.inOrder
  le := Nat.zero_le n
  grows := fun hrunning => absurd hrunning hstatus
  reticks := by
    obtain ⟨ticked, heq, hchild, hticked⟩ := h.reticks
    exact ⟨status, ticked, by rw [heq], hchild, fun k hk => .inl (hticked k (by omega))⟩

variable {E : Unit → Bench Nat → Prop}

/-- What the loop leaves: its return, or all children passed. -/
def LoopLeaves (n : Nat) (t₀ : List Event) (mark : Nat) : NodeStatus ⊕ Nat → Bench Nat → Prop
  | .inl status => Bench.Shows fun m _ t => TickEnds n t₀ mark status m t
  | .inr _ => Bench.Shows fun m _ t => m = mark ∧ InLoop t₀ mark n t

/-- The loop from child `i`. By induction on the number of children left. -/
theorem triple_loop (t₀ : List Event) (mark k : Nat) : ∀ i skippedCount, i + k = n →
    Triple (Bench.Shows fun m _ t => m = mark ∧ InLoop t₀ mark i t)
      (tickChildren () pipelineCell (Bench.children Unit n) i skippedCount
        ((List.range' i k).map (Bench.child Unit)))
      (LoopLeaves n t₀ mark) E := by
  induction k with
  | zero =>
    intro i skippedCount hi
    rw [Nat.add_zero] at hi
    subst hi
    exact triple_pure fun s hs => hs
  | succ k ih =>
    intro i skippedCount hi
    have hrest := fun skippedCount => ih (i + 1) skippedCount (by omega)
    rw [List.range'_succ, List.map_cons]
    refine triple_tickChild (T := fun status => Bench.Shows fun m _ t =>
      ∃ t', m = mark ∧ InLoop t₀ mark i t' ∧ t = .child i status :: t' ∧ status ≠ .idle)
      (Bench.triple_child i ?_) ?_ ?_ ?_ ?_ ?_ ?_
    · rintro m a t ⟨hm, hloop⟩
      exact ⟨t, hm, hloop, rfl, (a 0).2⟩
    · -- FAILURE
      refine triple_post (Bench.triple_haltChildren n) ?_
      rintro _ s ⟨t', hm, hloop, ht, -⟩
      show TickEnds n t₀ mark .failure 0 s.trace
      rw [ht]
      exact hloop.fails
    · -- RUNNING, at or after the mark
      rintro s ⟨t', hm, hloop, ht, -⟩ hle
      have hmark : s.members ≤ i := hle
      show TickEnds n t₀ mark .running i s.trace
      rw [ht]
      exact hloop.stops (hm ▸ hmark) (by omega)
    · -- RUNNING, before the mark
      refine triple_pre (hrest skippedCount) ?_
      rintro s ⟨⟨t', hm, hloop, ht, -⟩, hgt⟩
      have hmark : ¬ s.members ≤ i := hgt
      refine ⟨hm, ?_⟩
      rw [ht]
      exact hloop.next (.inl (by omega))
    · refine triple_pre (hrest skippedCount) ?_
      rintro s ⟨t', hm, hloop, ht, -⟩
      refine ⟨hm, ?_⟩
      rw [ht]
      exact hloop.next (.inr (.inl rfl))
    · refine triple_pre (hrest (skippedCount + 1)) ?_
      rintro s ⟨t', hm, hloop, ht, -⟩
      refine ⟨hm, ?_⟩
      rw [ht]
      exact hloop.next (.inr (.inr rfl))
    · rintro s ⟨t', -, -, -, hidle⟩
      exact absurd rfl hidle

/-- One tick of the node. -/
theorem triple_tick {s : Bench Nat} (h : Kept s.members s.trace) (hle : s.members ≤ n)
    (answers : Nat → Answer) :
    Triple (· = { s with answers := answers }) (benchNode n).executeTick
      (fun status => Bench.Shows fun m _ t => TickEnds n s.trace s.members status m t) E := by
  refine triple_executeTick_ignored (fun _ => Bench.ignored_shows) ?_ fun _ =>
    triple_pure fun _ hs => hs
  have hloop := triple_loop (E := E) s.trace s.members n 0 0 (Nat.zero_add n)
  rw [← List.range_eq_range'] at hloop
  refine triple_bind (triple_pre hloop ?_) fun out => ?_
  · rintro _ rfl
    exact ⟨rfl, h.inLoop⟩
  · cases out with
    | inl status => exact triple_pure fun _ hs => hs
    | inr skippedCount =>
      refine triple_bind (Bench.triple_haltChildren
        (P := fun m _ t => m = s.members ∧ InLoop s.trace s.members n t) n) fun _ => ?_
      refine triple_bind (Q := fun _ => Bench.Shows fun m _ t => ∀ status : NodeStatus,
        status ≠ .running → TickEnds n s.trace s.members status m t) (triple_modify ?_) fun _ =>
          triple_pure fun s' hs => hs _ ?_
      · rintro s' ⟨-, hpassed⟩ status hstatus
        exact hpassed.ends hle hstatus
      · split
        · simp
        · simp

theorem halt_kept :
    Triple (fun s : Bench Nat => Kept s.members s.trace ∧ s.members ≤ n) (benchNode n).halt
      (fun _ s => Kept s.members (.halted :: s.trace) ∧ s.members ≤ n) E := by
  refine triple_bind (Bench.triple_haltChildren (P := fun m _ t => Kept m t ∧ m ≤ n) n) fun _ => ?_
  refine triple_bind (Q := fun _ => Bench.Shows fun m _ t => Kept m t ∧ m ≤ n)
    (triple_modify fun _ hs => hs) fun _ => triple_modify ?_
  rintro s ⟨hkept, -⟩
  exact ⟨kept_end rfl hkept.2, Nat.zero_le n⟩

end Stages

/-! ## Runs -/

theorem kept_of_reach {n : Nat} {s : Bench Nat} (h : (system n).Reach System.anyStep s) :
    Kept s.members s.trace ∧ s.members ≤ n :=
  invariant_of_reach (P := fun m t => Kept m t ∧ m ≤ n) (E := fun _ _ => False) rfl
    ⟨⟨marked_end rfl, always_nil.mpr inOrder_nil⟩, Nat.zero_le n⟩
    (fun _ a hs _ => triple_post (triple_tick hs.1 hs.2 a)
      (fun _ _ hends => ⟨hends.kept, hends.le⟩))
    halt_kept h

/-- **Stages in order.** In every run the children are started in order and
the mark is 0 after each end of an activation. A call returns, and it lowers
the mark only by ending the activation; a tick ticks every child before the
mark again unless one before it fails. -/
theorem stages_in_order {n : Nat} {s : Bench Nat} (h : (system n).Reach System.anyStep s) :
    Rested s.members s.trace ∧ Always InOrder s.trace ∧
      ∀ l, ∃ s', (system n).step s l = some s' ∧
        (s'.members < s.members → ∃ e t, s'.trace = e :: t ∧ e.ends = true) ∧
        ((∃ answers, l = .tick answers) → Reticks s.members s.trace s'.trace) := by
  obtain ⟨hkept, hle⟩ := kept_of_reach h
  refine ⟨hkept.rest, hkept.2, fun l => exists_step _ ?_⟩
  by_cases hl : ∃ a, l = .tick a
  · obtain ⟨a, rfl⟩ := hl
    refine triple_call_tick (triple_post (triple_tick hkept hle a) ?_)
    intro status s' hends
    refine ⟨fun hlt => ⟨.returned status, s'.trace, rfl, ?_⟩, fun _ => hends.reticks⟩
    by_contra hnot
    have hrunning : status = .running := by simpa [Event.ends] using hnot
    have hgrows := hends.grows hrunning
    exact absurd hlt (Nat.not_lt_of_le hgrows)
  · -- a halt ends the activation, and nothing else writes the mark
    let P : Nat → List Event → Prop := fun m t =>
      m = s.members ∨ ∃ e t', t = e :: t' ∧ e.ends = true
    have hhalt : Triple (fun s => P s.members s.trace) (benchNode n).halt
        (fun _ s => P s.members (.halted :: s.trace)) fun _ _ => False :=
      triple_bind (Bench.triple_haltChildren (P := fun m _ t => P m t) n) fun _ =>
        triple_bind (Q := fun _ => Bench.Shows fun m _ t => P m t) (triple_modify fun _ hs => hs)
          fun _ => triple_modify fun s' _ => .inr ⟨.halted, s'.trace, rfl, rfl⟩
    refine triple_post (triple_call_halts rfl hhalt (.inl rfl) fun a ha => hl ⟨a, ha⟩)
      (fun _ s' hs' => ?_)
    refine ⟨fun hlt => ?_, fun htick => absurd htick hl⟩
    rcases hs' with hsame | hends
    · exact absurd hlt (hsame ▸ Nat.lt_irrefl _)
    · exact hends

/-- Child 0 of three succeeds and child 1 is RUNNING for a tick, in which
child 0 runs again and child 1 completes. -/
def passesRunning : List Call :=
  [.tick (answerWith [.success, .running]), .tick (answerWith [.running, .success, .running])]

/-- Child 2 has been started. -/
theorem stages_in_order_three :
    ∃ s : Bench Nat, s.members = 2 ∧ s.trace.head? = some (.returned .running) ∧
      Always InOrder s.trace := by
  obtain ⟨s, hreach, hs⟩ := System.exists_reach_of_runWhile (S := system 3) System.anyStep
    passesRunning (fun s => s.members = 2 ∧ s.trace.head? = some (.returned .running))
    (s := .created 0) ⟨rfl, rfl, rfl⟩ (by decide +kernel)
  obtain ⟨hmark, hhead⟩ := of_decide_eq_true hs
  exact ⟨s, hmark, hhead, (stages_in_order hreach).2.1⟩

end Nav3D.BehaviorTree.PipelineStages

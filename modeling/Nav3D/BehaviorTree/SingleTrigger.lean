/-
Nav3D.BehaviorTree.SingleTrigger — the decorator that lets its child
complete once (`plugins/decorator/single_trigger_node.cpp`).

`first_time_` says that the child has not completed in the activation
(`Fresh`). So in one activation the child is never ticked after it has
completed; the decorator then returns FAILURE in every tick
(`child_completes_once`). An exception of the child leaves the flag set, and
the child is ticked again.
-/
import Nav3D.Lib.DecoratorBench

namespace Nav3D.BehaviorTree.SingleTrigger

open BT Transition
open DecoratorBench DecoratorEvent

/-- `SingleTrigger`, whose member is `first_time_`. -/
def singleTrigger {ε σ : Type} (cell : MemberCell Bool σ) (child : TreeNode ε σ) : TreeNode ε σ :=
  decorator cell.toStatusCell child do
    modify fun s => if (cell.status s).isActive then s else cell.setMembers true s
    modify (cell.setStatus .running)
    if cell.members (← get) then
      match ← child.executeTick with
      | .idle => do
        modify (cell.setMembers false)
        return .failure
      | .success => do
        modify (cell.setMembers false)
        return .success
      | .failure => do
        modify (cell.setMembers false)
        return .failure
      | childState => return childState
    else return .failure

/-- `SingleTrigger::tick()` on the bench. -/
def tick : Tick Bool PUnit := fun _ child => (singleTrigger memberCell child).tick

def triggerSystem : System (DecoratorBench Bool PUnit) (Label PUnit) := system tick true

/-! ## One tick -/

/-- The child has done its work: it has returned neither RUNNING nor
SKIPPED. -/
def Completes : DecoratorEvent PUnit → Prop
  | .child _ _ (some status) => status ≠ .running ∧ status ≠ .skipped
  | _ => False

instance Completes.decidable : (e : DecoratorEvent PUnit) → Decidable (Completes e)
  | .child _ _ (some _) => inferInstanceAs (Decidable (_ ∧ _))
  | .child _ _ none | .ticked _ _ | .returned _ => isFalse id

/-- The child has completed in the activation. -/
def HasCompleted (trace : List (DecoratorEvent PUnit)) : Prop :=
  ∃ e ∈ activation trace, Completes e

/-- The flag when `tick()` tests it. -/
def firstTime (s : DecoratorBench Bool PUnit) : Bool := !s.status.isActive || s.members

/-- The flag after the child has answered. -/
def keepsFlag : Option NodeStatus → Bool
  | none | some .running | some .skipped => true
  | _ => false

/-- The trace and the flag after a tick. -/
structure Ticked (a : ChildAnswer) (s s' : DecoratorBench Bool PUnit) : Prop where
  members : s'.members = (firstTime s && keepsFlag a.result)
  trace : s'.trace =
    (if firstTime s then
      returnEvent a.result ++ [.child ⟨⟩ (s.childStatus == .running) a.result]
    else [.returned .failure]) ++ .ticked ⟨⟩ (!s.status.isActive) :: s.trace

theorem tick_spec (a : ChildAnswer) (s : DecoratorBench Bool PUnit) :
    Ticked a s (afterTick ((tick ⟨⟩ (child ⟨⟩ a)).run (s.beforeTick ⟨⟩))) := by
  obtain ⟨leaves, result⟩ := a
  obtain ⟨status, childStatus, flag, trace⟩ := s
  cases flag <;> cases status <;> rcases result with _ | _ | _ | _ | _ | _ <;> exact ⟨rfl, rfl⟩

/-! ## Runs -/

/-- In an activation no tick of the child follows one in which it has
completed. -/
def CompletesOnce (trace : List (DecoratorEvent PUnit)) : Prop :=
  (activation trace).Pairwise fun later earlier => Completes earlier → later.isChild = false

/-- What `first_time_` says. -/
structure Fresh (s : DecoratorBench Bool PUnit) : Prop where
  once : CompletesOnce s.trace
  flag : s.status.isActive = true → (s.members = true ↔ ¬ HasCompleted s.trace)

theorem fresh_created : Fresh (created true) := ⟨List.Pairwise.nil, nofun⟩

theorem Fresh.reset {s s' : DecoratorBench Bool PUnit} (h : Fresh s) (hreset : Reset s s') :
    Fresh s' := by
  refine ⟨?_, fun hactive => ?_⟩
  · rw [hreset.trace]
    exact h.once
  · rw [hreset.members, hreset.trace]
    rcases hreset.status with hsame | hidle
    · rw [hsame] at hactive
      exact h.flag hactive
    · rw [hidle] at hactive
      cases hactive

/-- A return is no tick of the child. -/
theorem append_returnEvent (result : Option NodeStatus) (trace : List (DecoratorEvent PUnit)) :
    (CompletesOnce (returnEvent result ++ trace) ↔ CompletesOnce trace) ∧
      (HasCompleted (returnEvent result ++ trace) ↔ HasCompleted trace) := by
  rcases result with _ | _ | _ | _ | _ | _ <;>
    simp [returnEvent, CompletesOnce, HasCompleted, Completes, isChild]

/-- The flag when `tick()` tests it, and the trace then. -/
theorem Fresh.before {s : DecoratorBench Bool PUnit} (h : Fresh s) :
    CompletesOnce (.ticked ⟨⟩ (!s.status.isActive) :: s.trace) ∧
      (firstTime s = true ↔ ¬ HasCompleted (.ticked ⟨⟩ (!s.status.isActive) :: s.trace)) := by
  cases hactive : s.status.isActive with
  | true =>
    refine ⟨?_, ?_⟩
    · have honce := h.once
      simp only [CompletesOnce, Bool.not_true, activation_continued, List.pairwise_cons] at *
      exact ⟨fun e _ _ => rfl, honce⟩
    · have hflag := h.flag hactive
      simpa [firstTime, hactive, HasCompleted, Completes] using hflag
  | false => simp [CompletesOnce, HasCompleted, Completes, firstTime, hactive]

theorem fresh_tick {a : ChildAnswer} {s : DecoratorBench Bool PUnit} (h : Fresh s) :
    Fresh (afterTick ((tick ⟨⟩ (child ⟨⟩ a)).run (s.beforeTick ⟨⟩))) := by
  obtain ⟨hmembers, htrace⟩ := tick_spec a s
  obtain ⟨honce, hflag⟩ := h.before
  cases hfirst : firstTime s with
  | false =>
    rw [hfirst] at hmembers htrace hflag
    rw [if_neg (by simp)] at htrace
    refine ⟨?_, fun _ => ?_⟩
    · rw [htrace]
      simpa [CompletesOnce, isChild] using honce
    · rw [hmembers, htrace]
      simpa [HasCompleted, Completes] using hflag
  | true =>
    rw [hfirst] at hmembers htrace hflag
    rw [if_pos rfl, List.append_assoc] at htrace
    have hnone := hflag.mp rfl
    obtain ⟨hreturnOnce, hreturnCompleted⟩ := append_returnEvent a.result
      (.child ⟨⟩ (s.childStatus == .running) a.result ::
        .ticked ⟨⟩ (!s.status.isActive) :: s.trace)
    refine ⟨?_, fun _ => ?_⟩
    · rw [htrace]
      refine hreturnOnce.mpr ?_
      simp only [CompletesOnce, activation_childTicked, List.pairwise_cons]
      -- the child has not completed before
      exact ⟨fun e he hcompletes => absurd ⟨e, he, hcompletes⟩ hnone, honce⟩
    · rw [hmembers, htrace]
      refine Iff.trans ?_ (not_congr hreturnCompleted).symm
      have hchild : HasCompleted (.child ⟨⟩ (s.childStatus == .running) a.result ::
          .ticked ⟨⟩ (!s.status.isActive) :: s.trace) ↔
          Completes (.child ⟨⟩ (s.childStatus == .running) a.result) := by
        unfold HasCompleted at hnone ⊢
        rw [activation_childTicked, List.exists_mem_cons_iff, or_iff_left hnone]
      rw [hchild]
      rcases a.result with _ | _ | _ | _ | _ | _ <;> simp [keepsFlag, Completes]

theorem fresh_of_reach {C : DecoratorBench Bool PUnit → Label PUnit → Prop}
    {s : DecoratorBench Bool PUnit} (h : triggerSystem.Reach C s) : Fresh s :=
  invariant_of_reach h Fresh fresh_created (fun _ _ _ hs _ => fresh_tick hs)
    (fun _ _ hs hreset => hs.reset hreset)

/-- **Once.** In every run, the child is not ticked after it has completed in
an activation, and a tick in the rest of the activation returns FAILURE.
Every other tick, the first one of an activation included, ticks the child
exactly once and returns what the child does. -/
theorem child_completes_once {C : DecoratorBench Bool PUnit → Label PUnit → Prop}
    {s : DecoratorBench Bool PUnit} (h : triggerSystem.Reach C s) :
    CompletesOnce s.trace ∧ ∀ a,
      let s' := stepLabel tick s (.executeTick ⟨⟩ a)
      (s.status.isActive = true ∧ HasCompleted s.trace →
        s'.trace = .returned .failure :: .ticked ⟨⟩ false :: s.trace) ∧
      (¬ (s.status.isActive = true ∧ HasCompleted s.trace) →
        s'.trace = returnEvent a.result ++ .child ⟨⟩ (s.childStatus == .running) a.result ::
          .ticked ⟨⟩ (!s.status.isActive) :: s.trace) := by
  have hfresh := fresh_of_reach h
  refine ⟨hfresh.once, ?_⟩
  intro a s'
  have hs' : s' = afterTick ((tick ⟨⟩ (child ⟨⟩ a)).run (s.beforeTick ⟨⟩)) :=
    stepLabel_executeTick tick s ⟨⟩ a
  have htrace := (tick_spec a s).trace
  have hflag : firstTime s = true ↔ ¬ (s.status.isActive = true ∧ HasCompleted s.trace) := by
    cases hactive : s.status.isActive with
    | false => simp [firstTime, hactive]
    | true => simp [firstTime, hactive, hfresh.flag hactive]
  rw [hs', htrace]
  refine ⟨fun hspent => ?_, fun hspent => ?_⟩
  · have hfirst : firstTime s = false := Bool.eq_false_iff.mpr fun hf => hflag.mp hf hspent
    rw [hfirst, hspent.1]
    rfl
  · rw [hflag.mpr hspent]
    simp

/-! ### A run -/

/-- The child throws, runs and succeeds. -/
def triggeredRun : List (Label PUnit) :=
  [.executeTick ⟨⟩ ⟨.running, none⟩, .executeTick ⟨⟩ ⟨.running, some .running⟩,
    .executeTick ⟨⟩ ⟨.success, some .success⟩]

theorem child_completes_once_third : ∃ s : DecoratorBench Bool PUnit, CompletesOnce s.trace ∧
    ∀ a, (stepLabel tick s (.executeTick ⟨⟩ a)).trace =
      .returned .failure :: .ticked ⟨⟩ false :: s.trace := by
  obtain ⟨s, hr, hs⟩ := System.exists_reach_of_runWhile (S := triggerSystem) System.anyStep
    triggeredRun
    (fun s => s.status.isActive && (activation s.trace).any fun e => decide (Completes e)) rfl
    (by decide +kernel)
  rw [Bool.and_eq_true, List.any_eq_true] at hs
  obtain ⟨hactive, e, he, hcompletes⟩ := hs
  obtain ⟨honce, hafter⟩ := child_completes_once hr
  refine ⟨s, honce, fun a => ?_⟩
  exact (hafter a).1 ⟨hactive, e, he, of_decide_eq_true hcompletes⟩

end Nav3D.BehaviorTree.SingleTrigger

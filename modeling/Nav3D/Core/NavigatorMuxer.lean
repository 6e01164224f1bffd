/-
Nav3D.Core.NavigatorMuxer — the lock that the navigators share, and the
workers of `BehaviorTreeNavigator` that take and release it.

`NavigatorMuxer` holds the name of the navigator that is navigating; its
three member functions are atomic under its mutex. A navigator's worker
runs `executeCallback` of its `BtActionServer`: `onGoalReceived` asks
`isNavigating()`, runs the long `goalReceived` callback and only then calls
`startNavigating`; when the tree has ended, `onCompletion` calls
`stopNavigating`. Each of these is a step of its own, and the workers of
the navigators interleave. An exception in any callback ends the pass
through `executeCallback` where it stands; a navigator whose tree had
started is then still between `onGoalReceived` and `onCompletion`.

One worker a navigator is enough: the action server never has two of its
workers in the callback (`SlotProperty.oneInCallback`).
-/
import Nav3D.Lib.Transition
import Mathlib.Data.Set.Subsingleton
import Mathlib.Logic.Function.Basic

namespace Nav3D.Core

/-! ## The muxer -/

/-- `NavigatorMuxer`: the name of the current navigator, empty for none. -/
structure NavigatorMuxer where
  currentNavigator : String
  deriving DecidableEq

namespace NavigatorMuxer

/-- The muxer as constructed. -/
def initial : NavigatorMuxer := ⟨""⟩

def isNavigating (m : NavigatorMuxer) : Bool := m.currentNavigator != ""

/-- The name is installed whether or not another one is there; then only
the "Major error!" text is logged. -/
def startNavigating (_ : NavigatorMuxer) (navigatorName : String) : NavigatorMuxer :=
  ⟨navigatorName⟩

/-- Only the navigator whose name is installed frees the muxer. -/
def stopNavigating (m : NavigatorMuxer) (navigatorName : String) : NavigatorMuxer :=
  if m.currentNavigator ≠ navigatorName then m else ⟨""⟩

theorem isNavigating_eq_false {m : NavigatorMuxer} :
    m.isNavigating = false ↔ m.currentNavigator = "" := by
  simp [isNavigating]

end NavigatorMuxer

/-! ## The navigators -/

/-- Where a navigator's worker is in `executeCallback`. -/
inductive NavigatorPc where
  /-- Not in `executeCallback`. -/
  | idle
  /-- In `goalReceived`, the muxer having been found free. -/
  | receiving
  /-- `goalReceived` returned true; `startNavigating` is next. -/
  | starting
  /-- `onGoalReceived` returned true; the tree runs. -/
  | navigating
  /-- Past `stopNavigating`: `goalCompleted` and the end of the goal. -/
  | completing
  deriving DecidableEq

/-- The steps of the navigators' workers. -/
inductive NavigatorStep (ι : Type) where
  /-- A goal is executed: `isNavigating()` is asked. -/
  | testNavigating (i : ι)
  /-- `goalReceived` returns. -/
  | goalReceived (i : ι) (accepted : Bool)
  | startNavigating (i : ι)
  /-- The tree has ended and `onCompletion` begins. -/
  | stopNavigating (i : ι)
  /-- `executeCallback` returns after `onCompletion`. -/
  | finish (i : ι)
  /-- An exception leaves `executeCallback`. -/
  | throws (i : ι)

/-- The muxer and the navigators. `between i` says that navigator `i` has
had a successful `onGoalReceived` that no `onCompletion` has matched. -/
structure NavigatorsState (ι : Type) where
  muxer : NavigatorMuxer
  pc : ι → NavigatorPc
  between : ι → Bool

section System

variable {ι : Type} [DecidableEq ι] (getName : ι → String)

/-- Move navigator `i` to `pc`. -/
def NavigatorsState.goto (s : NavigatorsState ι) (i : ι) (pc : NavigatorPc) : NavigatorsState ι :=
  { s with pc := Function.update s.pc i pc }

/-- One step of one navigator. -/
def navigatorStep (s : NavigatorsState ι) : NavigatorStep ι → Option (NavigatorsState ι)
  | .testNavigating i =>
    if s.pc i = .idle then
      -- an occupied muxer rejects the goal, and the callback returns
      if s.muxer.isNavigating then some s else some (s.goto i .receiving)
    else none
  | .goalReceived i accepted =>
    if s.pc i = .receiving then some (s.goto i (if accepted then .starting else .idle)) else none
  | .startNavigating i =>
    if s.pc i = .starting then
      some { s.goto i .navigating with
        muxer := s.muxer.startNavigating (getName i)
        between := Function.update s.between i true }
    else none
  | .stopNavigating i =>
    if s.pc i = .navigating then
      some { s.goto i .completing with
        muxer := s.muxer.stopNavigating (getName i)
        between := Function.update s.between i false }
    else none
  | .finish i => if s.pc i = .completing then some (s.goto i .idle) else none
  | .throws i => if s.pc i = .idle then none else some (s.goto i .idle)

/-- The navigators of a node, none of them busy. -/
def navigatorSystem : Transition.System (NavigatorsState ι) (NavigatorStep ι) where
  init := fun s => s = ⟨.initial, fun _ => .idle, fun _ => false⟩
  step := navigatorStep getName

/-- At most one navigator is between a successful `onGoalReceived` and the
matching `onCompletion`. -/
def MutualExclusion (s : NavigatorsState ι) : Prop := {i | s.between i = true}.Subsingleton

/-- `startNavigating` finds the muxer free and installs a name that shows
that it is not. -/
def StartsFree (s : NavigatorsState ι) : NavigatorStep ι → Prop
  | .startNavigating i => s.muxer.currentNavigator = "" ∧ getName i ≠ ""
  | _ => True

/-! ## The invariant -/

variable {getName}

/-- The muxer holds the name of the one navigator that is between; a
navigator on its way to `startNavigating` is not. -/
structure MuxerInv (getName : ι → String) (s : NavigatorsState ι) : Prop where
  named : ∀ i, s.between i = true → s.muxer.currentNavigator = getName i ∧ getName i ≠ ""
  owned : s.muxer.currentNavigator ≠ "" → ∃ i, s.between i = true
  unique : MutualExclusion s
  navigating : ∀ i, s.pc i = .navigating → s.between i = true
  starting : ∀ i, s.pc i = .receiving ∨ s.pc i = .starting → s.between i = false

omit [DecidableEq ι] in
/-- A free muxer has no navigator between. -/
theorem MuxerInv.free {s : NavigatorsState ι} (h : MuxerInv getName s)
    (hfree : s.muxer.currentNavigator = "") (i : ι) : s.between i = false := by
  cases hb : s.between i with
  | false => rfl
  | true =>
    obtain ⟨hname, hne⟩ := h.named i hb
    exact absurd (hname.symm.trans hfree) hne

/-- Moving a worker without the muxer: enough that the new place agrees
with `between`. -/
theorem MuxerInv.goto {s : NavigatorsState ι} (h : MuxerInv getName s) (i : ι) (pc : NavigatorPc)
    (hnav : pc = .navigating → s.between i = true)
    (hstart : pc = .receiving ∨ pc = .starting → s.between i = false) :
    MuxerInv getName (s.goto i pc) := by
  refine ⟨h.named, h.owned, h.unique, fun j hj => ?_, fun j hj => ?_⟩
  · by_cases hji : j = i
    · subst hji
      simp only [NavigatorsState.goto, Function.update_self] at hj
      exact hnav hj
    · simp only [NavigatorsState.goto, Function.update_of_ne hji] at hj
      exact h.navigating j hj
  · by_cases hji : j = i
    · subst hji
      simp only [NavigatorsState.goto, Function.update_self] at hj
      exact hstart hj
    · simp only [NavigatorsState.goto, Function.update_of_ne hji] at hj
      exact h.starting j hj

theorem muxerInv_step {s s' : NavigatorsState ι} {l : NavigatorStep ι} (h : MuxerInv getName s)
    (hfree : StartsFree getName s l) (hs : navigatorStep getName s l = some s') :
    MuxerInv getName s' := by
  cases l with
  | testNavigating i =>
    simp only [navigatorStep] at hs
    split at hs
    · split at hs
      · cases hs; exact h
      · next hmux =>
        cases hs
        rw [Bool.not_eq_true, NavigatorMuxer.isNavigating_eq_false] at hmux
        exact h.goto i .receiving (fun hpc => nomatch hpc) fun _ => h.free hmux i
    · cases hs
  | goalReceived i accepted =>
    simp only [navigatorStep] at hs
    split at hs
    · next hpc =>
      cases hs
      have hnot := h.starting i (Or.inl hpc)
      cases accepted with
      | true => exact h.goto i .starting (fun hpc => nomatch hpc) fun _ => hnot
      | false => exact h.goto i .idle (fun hpc => nomatch hpc) fun _ => hnot
    · cases hs
  | startNavigating i =>
    simp only [navigatorStep] at hs
    split at hs
    · cases hs
      obtain ⟨hmux, hname⟩ := hfree
      have hnone := h.free hmux
      refine ⟨fun j hj => ?_, fun _ => ⟨i, Function.update_self ..⟩, fun j hj k hk => ?_,
        fun j hj => ?_, fun j hj => ?_⟩
      · by_cases hji : j = i
        · subst hji; exact ⟨rfl, hname⟩
        · simp only [Function.update_of_ne hji, hnone j, Bool.false_eq_true] at hj
      · have only : ∀ j, Function.update s.between i true j = true → j = i := by
          intro j hj
          by_contra hji
          rw [Function.update_of_ne hji, hnone j] at hj
          cases hj
        rw [only j hj, only k hk]
      · by_cases hji : j = i
        · subst hji; exact Function.update_self ..
        · simp only [NavigatorsState.goto, Function.update_of_ne hji] at hj ⊢
          exact h.navigating j hj
      · by_cases hji : j = i
        · subst hji
          simp only [NavigatorsState.goto, Function.update_self] at hj
          rcases hj with hj | hj <;> cases hj
        · simp only [NavigatorsState.goto, Function.update_of_ne hji] at hj ⊢
          exact h.starting j hj
    · cases hs
  | stopNavigating i =>
    simp only [navigatorStep] at hs
    split at hs
    · next hpc =>
      cases hs
      have hi := h.navigating i hpc
      have hothers : ∀ j, Function.update s.between i false j = false := by
        intro j
        by_cases hji : j = i
        · subst hji; exact Function.update_self ..
        · rw [Function.update_of_ne hji]
          cases hj : s.between j with
          | false => rfl
          | true => exact absurd (h.unique hj hi) hji
      have hmux : (s.muxer.stopNavigating (getName i)).currentNavigator = "" := by
        simp [NavigatorMuxer.stopNavigating, (h.named i hi).1]
      refine ⟨fun j hj => ?_, fun hne => absurd hmux hne, fun j hj => ?_, fun j hj => ?_,
        fun j _ => hothers j⟩
      · simp only [hothers j, Bool.false_eq_true] at hj
      · have hj' : Function.update s.between i false j = true := hj
        rw [hothers j] at hj'
        cases hj'
      · by_cases hji : j = i
        · subst hji
          simp only [NavigatorsState.goto, Function.update_self, reduceCtorEq] at hj
        · simp only [NavigatorsState.goto, Function.update_of_ne hji] at hj
          exact absurd (h.unique (h.navigating j hj) hi) hji
    · cases hs
  | finish i =>
    simp only [navigatorStep] at hs
    split at hs
    · cases hs
      exact h.goto i .idle (fun hpc => nomatch hpc) fun hpc => by rcases hpc with hpc | hpc <;> cases hpc
    · cases hs
  | throws i =>
    simp only [navigatorStep] at hs
    split at hs
    · cases hs
    · cases hs
      exact h.goto i .idle (fun hpc => nomatch hpc) fun hpc => by rcases hpc with hpc | hpc <;> cases hpc

/-- **Mutual exclusion of the navigators** in a run where every
`startNavigating` finds the muxer free; and one that does not breaks it. -/
theorem mutual_exclusion {s : NavigatorsState ι}
    (h : (navigatorSystem getName).Reach (StartsFree getName) s) :
    MutualExclusion s ∧
    ∀ i s', s.muxer.currentNavigator ≠ "" →
      navigatorStep getName s (.startNavigating i) = some s' → ¬ MutualExclusion s' := by
  have hinv : MuxerInv getName s := by
    refine h.invariant (MuxerInv getName) ?_ fun s l s' hs hc hstep => muxerInv_step hs hc hstep
    rintro s rfl
    refine ⟨fun i hi => ?_, fun hne => absurd rfl hne, fun i hi => ?_, fun i hi => ?_,
      fun i _ => rfl⟩
    · cases hi
    · cases hi
    · cases hi
  refine ⟨hinv.unique, fun i s' hbusy hstep hexcl => ?_⟩
  obtain ⟨j, hj⟩ := hinv.owned hbusy
  simp only [navigatorStep] at hstep
  split at hstep
  · next hpc =>
    cases hstep
    have hi : s.between i = false := hinv.starting i (Or.inr hpc)
    have hji : j ≠ i := fun he => by rw [he, hi] at hj; cases hj
    have hj' : Function.update s.between i true j = true := by
      rw [Function.update_of_ne hji]
      exact hj
    exact hji (hexcl hj' (Function.update_self ..))
  · cases hstep

end System

/-! ## The two navigators of the repository -/

/-- `NavigateToPoseNavigator` and `NavigateThroughPosesNavigator`. -/
inductive Navigator where
  | navigateToPose
  | navigateThroughPoses
  deriving DecidableEq

/-- `getName()`. -/
def Navigator.getName : Navigator → String
  | .navigateToPose => "navigate_to_pose"
  | .navigateThroughPoses => "navigate_through_poses"

instance {ι : Type} (getName : ι → String) (s : NavigatorsState ι) (l : NavigatorStep ι) :
    Decidable (StartsFree getName s l) := by
  cases l <;> unfold StartsFree <;> infer_instance

/-- Both navigators ask before either starts, and both start. -/
theorem not_mutual_exclusion : ∃ s,
    (navigatorSystem Navigator.getName).Reach Transition.System.anyStep s ∧
    s.between .navigateToPose = true ∧ s.between .navigateThroughPoses = true := by
  obtain ⟨s, hr, hs⟩ := Transition.System.exists_reach_of_runWhile
    (S := navigatorSystem Navigator.getName) Transition.System.anyStep
    [.testNavigating .navigateToPose, .testNavigating .navigateThroughPoses,
      .goalReceived .navigateToPose true, .startNavigating .navigateToPose,
      .goalReceived .navigateThroughPoses true, .startNavigating .navigateThroughPoses]
    (fun s => s.between .navigateToPose && s.between .navigateThroughPoses) rfl (by decide)
  rw [Bool.and_eq_true] at hs
  exact ⟨s, hr, hs.1, hs.2⟩

/-- One navigator after the other, the second one rejected in between. -/
theorem mutual_exclusion_in_turn : ∃ s,
    (navigatorSystem Navigator.getName).Reach (StartsFree Navigator.getName) s ∧
    s.between .navigateThroughPoses = true ∧ MutualExclusion s := by
  obtain ⟨s, hr, hs⟩ := Transition.System.exists_reach_of_runWhile
    (S := navigatorSystem Navigator.getName) (StartsFree Navigator.getName)
    [.testNavigating .navigateToPose, .goalReceived .navigateToPose true,
      .startNavigating .navigateToPose, .testNavigating .navigateThroughPoses,
      .stopNavigating .navigateToPose, .testNavigating .navigateThroughPoses,
      .goalReceived .navigateThroughPoses true, .startNavigating .navigateThroughPoses]
    (fun s => s.between .navigateThroughPoses) rfl (by decide)
  exact ⟨s, hr, hs, (mutual_exclusion hr).1⟩

end Nav3D.Core

/-
Nav3D.BehaviorTree.TruncateProgress — `TruncatePathLocal` does not go back
along its path (`plugins/action/truncate_path_local_action.cpp`).

`closest_pose_detection_begin_` is an iterator into the member `path_` that
outlives the tick. It is set anew whenever the member is, also in a tick
that fails afterwards, so it never dangles. While the path stays the same
and the bound finite, it is where the last closest pose was found, and the
next one is searched from there on (`never_goes_back`).
-/
import Nav3D.BehaviorTree.TruncatePathLocal

namespace Nav3D.BehaviorTree.TruncatePathLocal

open ArcLength Transition
open Nav3D.Controller (PoseStamped)

section Progress

variable {K : Type} [Field K] [LinearOrder K] (fns : Functions K)

/-! ## Runs on one path -/

/-- A closest pose, with the bound of the tick that has found it. -/
structure Closest (K : Type) where
  index : Nat
  bound : Option K

/-- The node, and the closest poses that its ticks have found, the last one
first. -/
structure Progress (K : Type) where
  members : Members K
  closest : List (Closest K)

def progressStep (p : Progress K) (inputs : Inputs K) : Option (Progress K) :=
  (tick fns inputs p.members).map fun t =>
    { members := t.members
      closest := (t.currentPose.map fun i => ⟨i, inputs.maxRobotPoseSearchDist⟩).toList ++
        p.closest }

/-- The ticks from some state of the node on. -/
def progressSystem (start : Members K) : System (Progress K) (Inputs K) where
  init := fun p => p = ⟨start, []⟩
  step := progressStep fns

/-- The input path is `path`, and the bound is finite. -/
def Steady (path : Path K) (_ : Progress K) (inputs : Inputs K) : Prop :=
  inputs.inputPath = path ∧ ∃ bound ∈ inputs.maxRobotPoseSearchDist, 0 ≤ bound

instance (path : Path K) (p : Progress K) (inputs : Inputs K) :
    Decidable (Steady path p inputs) :=
  inferInstanceAs (Decidable (_ ∧ _))

/-- `later` is not before `earlier`, and not farther from it than its bound
allows. -/
def Onward (path : Path K) (later earlier : Closest K) : Prop :=
  earlier.index ≤ later.index ∧ ∀ bound, later.bound = some bound →
    arcLength (euclideanDistance fns) path.poses earlier.index later.index ≤ bound

/-! ## The iterator -/

/-- The iterator is where the last closest pose has been found. -/
structure Along (path : Path K) (p : Progress K) : Prop where
  pointsInto : PointsInto p.members
  onward : p.closest.IsChain (Onward fns path)
  begins : ∀ c ∈ p.closest.head?, p.members.path = path ∧
    p.members.closestPoseDetectionBegin = c.index

variable {fns} {path : Path K} {p p' : Progress K} {inputs : Inputs K}

/-- After a closest pose has been found, the same path is not taken over
again. -/
theorem Along.rebase_eq (h : Along fns path p) (hsteady : Steady path p inputs) {c : Closest K}
    (hc : c ∈ p.closest.head?) : rebase inputs p.members = p.members := by
  obtain ⟨hpath, bound, hbound, -⟩ := hsteady
  rw [rebase, if_neg]
  rintro (hnone | hother)
  · rw [hnone] at hbound
    cases hbound
  · exact hother (hpath.trans (h.begins c hc).1.symm)

/-- A new closest pose is ahead of the last one, within the bound. -/
theorem Along.onward_of_found (h : Along fns path p) (hsteady : Steady path p inputs)
    {pose : PoseStamped K} {last current forward backward : Nat}
    (hfound : Found fns inputs pose (rebase inputs p.members) last current forward backward) :
    (⟨current, inputs.maxRobotPoseSearchDist⟩ :: p.closest).IsChain (Onward fns path) := by
  refine List.isChain_cons.mpr ⟨fun c hc => ?_, h.onward⟩
  obtain ⟨hpath, hbegin⟩ := h.begins c hc
  rw [h.rebase_eq hsteady hc] at hfound
  refine ⟨hbegin ▸ hfound.closest.ge, fun bound (hbound : inputs.maxRobotPoseSearchDist = _) => ?_⟩
  obtain ⟨-, bound', hbound', hnonneg⟩ := hsteady
  rw [hbound] at hbound'
  cases hbound'
  rw [← hbegin, ← hpath]
  exact (hfound.searched.bounded bound hbound).arcLength_le hnonneg hfound.closest.ge
    hfound.closest.lt

/-- One tick. -/
theorem Along.step (h : Along fns path p) (hsteady : Steady path p inputs)
    (hstep : progressStep fns p inputs = some p') : Along fns path p' := by
  obtain ⟨t, ht, heffect⟩ := tick_effect fns inputs h.pointsInto
  have hpoints := heffect.pointsInto (rebase_pointsInto inputs h.pointsInto)
  simp only [progressStep, ht, Option.map_some, Option.some.injEq] at hstep
  subst hstep
  have hsame : ∀ c ∈ p.closest.head?, (rebase inputs p.members).path = path ∧
      (rebase inputs p.members).closestPoseDetectionBegin = c.index := by
    intro c hc
    rw [h.rebase_eq hsteady hc]
    exact h.begins c hc
  cases heffect with
  | noPose _ => exact ⟨hpoints, h.onward, hsame⟩
  | empty pose _ _ => exact ⟨hpoints, h.onward, hsame⟩
  | found pose last current forward backward _ hfound =>
    refine ⟨hpoints, h.onward_of_found hsteady hfound, fun c hc => ?_⟩
    obtain ⟨hpath, bound, hbound, -⟩ := hsteady
    cases hc
    have hbounded : inputs.maxRobotPoseSearchDist ≠ none := by
      rw [Option.mem_def.mp hbound]
      exact Option.some_ne_none bound
    rw [if_neg hbounded]
    exact ⟨(rebase_path inputs p.members).trans hpath, rfl⟩

variable (fns) in
/-- **Progress.** In every state of every run the iterator points into the
path, and every tick stays within it. From each such state on, in a run of
ticks with one input path and finite bounds, each closest pose is at or
after the one before it and no farther along the path than the bound of its
tick. -/
theorem never_goes_back :
    (∀ m, (tickSystem fns).Reach System.anyStep m →
      PointsInto m ∧ ∀ inputs, ∃ t, tick fns inputs m = some t ∧ PointsInto t.members) ∧
    ∀ start, (tickSystem fns).Reach System.anyStep start → ∀ path p,
      (progressSystem fns start).Reach (Steady path) p → p.closest.IsChain (Onward fns path) := by
  refine ⟨fun m hm => ?_, fun start hstart path p hp => ?_⟩
  · have hpoints := pointsInto_of_reach hm
    refine ⟨hpoints, fun inputs => ?_⟩
    obtain ⟨t, ht, heffect⟩ := tick_effect fns inputs hpoints
    exact ⟨t, ht, heffect.pointsInto (rebase_pointsInto inputs hpoints)⟩
  · refine (hp.invariant (Along fns path) (fun p hinit => ?_) fun p inputs p' h hsteady hstep =>
      h.step hsteady hstep).onward
    obtain rfl := hinit
    exact ⟨pointsInto_of_reach hstart, List.isChain_nil, fun c hc => nomatch hc⟩

end Progress

/-! ### Out and back -/

/-- The path goes out 2 m and back; the robot stays near its start, which is
also its end. -/
def outAndBack : Path ℚ := axisPath [0, 1, 2, 1, 0]

/-- Three ticks with a bound of 1 m. The robot is at the start, then 2 m out,
then at the start again. -/
def threeTicks : List (Inputs ℚ) :=
  [oneMetreAround outAndBack 0 (some 1), oneMetreAround outAndBack 2 (some 1),
    oneMetreAround outAndBack 0 (some 1)]

/-- The closest pose is neither back at the start nor at the end already. -/
theorem never_goes_back_three : ∃ p,
    (progressSystem axisFunctions .initial).Reach (Steady outAndBack) p ∧
      p.closest.map Closest.index = [1, 1, 0] ∧
      p.closest.IsChain (Onward axisFunctions outAndBack) := by
  obtain ⟨p, hp, hindices⟩ := System.exists_reach_of_runWhile
    (S := progressSystem axisFunctions .initial) (Steady outAndBack) threeTicks
    (fun p => p.closest.map Closest.index = [1, 1, 0]) (s := ⟨.initial, []⟩) rfl
    (by decide +kernel)
  have hnew : (tickSystem axisFunctions).Reach System.anyStep .initial := .init rfl
  exact ⟨p, hp, of_decide_eq_true hindices,
    (never_goes_back axisFunctions).2 .initial hnew outAndBack p hp⟩

end Nav3D.BehaviorTree.TruncatePathLocal

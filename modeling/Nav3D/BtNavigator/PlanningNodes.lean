/-
Nav3D.BtNavigator.PlanningNodes — rules for the nodes of the planning part.

The sequence of the conditions succeeds only with a path that has been cut
from {path} and found valid (`reactiveSequence_ticks`); the pipeline comes
to `FollowPath` by way of the rate controller (`planning_ticks`). The halts
of the action nodes are said in terms of a navigation that has or has not
sent its first goal.
-/
import Nav3D.BtNavigator.Navigations

namespace Nav3D.BtNavigator

open Nav3D.Ros Nav3D.BehaviorTree StateInvariant Transition.System
open BT (NodeStatus StatusCell TreeNode leaf)

variable {Pose Path : Type}

/-! ## Halts -/

/-- How a part of a tick may throw: a `std::logic_error` leaves the first
goal accounted for. -/
def RaisedAccounted [Inhabited Path] (computeBase followBase : Nat) (e : ActionFailure)
    (s : TreeState Pose Path) : Prop :=
  e = .invalidStatus → Accounted computeBase followBase s

section Halts

variable {computeBase followBase : Nat} {params : TreeParams} {input : TreeInput Path}
  {s s' : TreeState Pose Path}

theorem ClientsValid.followStopped (h : ClientsValid s) (hs' : FollowStopped s s') :
    ClientsValid s' := ⟨by rw [hs'.computePath]; exact h.compute, hs'.valid⟩

variable [Inhabited Path]

theorem raisedAccounted_of_ne {e : ActionFailure} (h : e ≠ .invalidStatus) :
    RaisedAccounted computeBase followBase e s := fun he => absurd he h

theorem ClientsValid.computeStopped (h : ClientsValid s) (hs' : ComputeStopped s s') :
    ClientsValid s' := ⟨hs'.valid, by rw [hs'.followPath]; exact h.follow⟩

theorem FirstReported.computeStopped (h : FirstReported computeBase followBase s)
    (hs' : ComputeStopped s s') : FirstReported computeBase followBase s' :=
  h.grow hs'.grow (by rw [hs'.followPath]; exact .refl _)

theorem FirstReported.followStopped (h : FirstReported computeBase followBase s)
    (hs' : FollowStopped s s') : FirstReported computeBase followBase s' :=
  h.grow (by rw [hs'.computePath]; exact .refl _) hs'.grow

theorem Unsent.computeStopped (h : Unsent computeBase followBase s) (hs' : ComputeStopped s s') :
    Unsent computeBase followBase s' :=
  ⟨h.toClientsValid.computeStopped hs', by rw [hs'.followPath]; exact h.unsent,
    by rw [hs'.followPath]; exact h.followIdle, by rw [hs'.length]; exact h.base,
    by rw [hs'.last]; exact h.last⟩

omit [Inhabited Path] in
theorem Unsent.followStopped (h : Unsent computeBase followBase s) (hs' : FollowStopped s s') :
    Unsent computeBase followBase s' :=
  ⟨h.toClientsValid.followStopped hs', hs'.length.trans h.unsent, hs'.status,
    by rw [hs'.computePath]; exact h.base, by rw [hs'.last]; exact h.last⟩

/-- A halt of `ComputePathToPose` leaves no plan. -/
theorem PlanFailed.computeStopped (h : PlanFailed computeBase followBase s)
    (hs' : ComputeStopped s s') : BeforePlan computeBase followBase s' := by
  refine ⟨h.toUnsent.computeStopped hs', ?_, .inl hs'.status⟩
  rcases hs'.path with hpath | hpath
  · exact hpath
  · exact hpath.trans h.path

/-- A node that has completed is reset, and its plan stays. -/
theorem PlanReady.computeHalted (h : PlanReady computeBase followBase s)
    (hs' : ComputeHalted s s') : PlanReady computeBase followBase s' := by
  refine ⟨h.toUnsent.computeStopped hs'.toComputeStopped, ?_,
    by rw [hs'.status]; exact NodeStatus.noConfusion⟩
  rw [hs'.kept h.computeRests]
  exact h.path.grow hs'.grow

theorem BeforePlan.followStopped (h : BeforePlan computeBase followBase s)
    (hs' : FollowStopped s s') : BeforePlan computeBase followBase s' :=
  ⟨h.toUnsent.followStopped hs', by rw [readPath, hs'.path]; exact h.path,
    by rw [hs'.computePath]; exact h.computing⟩

variable [DecidableEq Path]

theorem firstSent_followHalts :
    Triple (fun s : TreeState Pose Path => FirstSent computeBase followBase s)
      (followPath params input).haltChild (fun _ s => FirstSent computeBase followBase s)
      (RaisedAccounted computeBase followBase) :=
  followPath_halts (fun _ _ => raisedAccounted_of_ne) (fun _ hs => hs.follow) fun _ _ hs hs' =>
    ⟨hs.toClientsValid.followStopped hs'.toFollowStopped,
      hs.first.followStopped hs'.toFollowStopped⟩

theorem beforePlan_followHalts :
    Triple (fun s : TreeState Pose Path => BeforePlan computeBase followBase s)
      (followPath params input).haltChild (fun _ s => BeforePlan computeBase followBase s)
      (RaisedAccounted computeBase followBase) :=
  followPath_halts (fun _ _ => raisedAccounted_of_ne) (fun _ hs => hs.follow) fun _ _ hs hs' =>
    hs.followStopped hs'.toFollowStopped

variable [Inhabited Pose]

omit [DecidableEq Path] in
theorem firstSent_computeHalts :
    Triple (fun s : TreeState Pose Path => FirstSent computeBase followBase s)
      (computePathToPose params input).haltChild (fun _ s => FirstSent computeBase followBase s)
      (RaisedAccounted computeBase followBase) :=
  computePathToPose_halts (fun _ _ => raisedAccounted_of_ne) (fun _ hs => hs.compute)
    fun _ _ hs hs' => ⟨hs.toClientsValid.computeStopped hs'.toComputeStopped,
      hs.first.computeStopped hs'.toComputeStopped⟩

omit [DecidableEq Path] in
theorem beforePlan_computeHalts :
    Triple (fun s : TreeState Pose Path => BeforePlan computeBase followBase s)
      (computePathToPose params input).haltChild (fun _ s => BeforePlan computeBase followBase s)
      (RaisedAccounted computeBase followBase) :=
  computePathToPose_halts (fun _ _ => raisedAccounted_of_ne) (fun _ hs => hs.compute)
    fun _ _ hs hs' => hs.failed.computeStopped hs'.toComputeStopped

end Halts

/-! ## The conditions -/

/-- A condition: `P` holds when it succeeds, and `R` when it fails. -/
def Decides (P R : TreeState Pose Path → Prop) (status : NodeStatus) (s : TreeState Pose Path) :
    Prop :=
  match status with
  | .success => P s
  | .failure => R s
  | _ => False

section Conditions

variable [Inhabited Path] {input : TreeInput Path} {P P₀ R : TreeState Pose Path → Prop}
  {E : ActionFailure → TreeState Pose Path → Prop} {status : NodeStatus} {s : TreeState Pose Path}

/-- The path on {remaining_path} has been cut from {path}. -/
def Cut (input : TreeInput Path) (s : TreeState Pose Path) : Prop :=
  ∃ (m : Pruning Path) (path : Path) (begin : Nat), m.path = readPath s ∧
    input.truncate m = some (some (path, begin)) ∧ s.blackboard.remainingPath = some path

/-- `TruncatePathLocal` can cut `path` to a path that is found valid. -/
def FoundValid (input : TreeInput Path) (path : Path) : Prop :=
  ∃ (m : Pruning Path) (cut : Path) (begin : Nat), m.path = path ∧
    input.truncate m = some (some (cut, begin)) ∧ input.valid cut = true

omit [Inhabited Path] in
/-- What holds whatever a condition says. -/
theorem Decides.elim_status {Q : Prop} (h : Decides P R status s) (hP : P s → Q) (hR : R s → Q) :
    Q := by
  cases status with
  | success => exact hP h
  | failure => exact hR h
  | _ => exact h.elim

omit [Inhabited Path] in
theorem decides_ignoresStatuses (hP : IgnoresStatuses P) (hR : IgnoresStatuses R)
    (status : NodeStatus) : IgnoresStatuses (Decides P R status) := by
  intro s statuses hs
  cases status with
  | success => exact hP s statuses hs
  | failure => exact hR s statuses hs
  | _ => exact hs.elim

omit [Inhabited Path] in
theorem Pruning.rebase_path [DecidableEq Path] (path : Path) (m : Pruning Path) :
    (m.rebase path).path = path := by
  unfold Pruning.rebase
  split
  · rfl
  · next hsame => exact (not_not.mp hsame).symm

theorem AboutPlans.cut (h : AboutPlans P) :
    IgnoresStatuses fun s : TreeState Pose Path => P s ∧ Cut input s :=
  fun s statuses hs => ⟨h.ignoresStatuses s statuses hs.1, hs.2⟩

theorem truncatePathLocal_ticks [DecidableEq Path] (h : AboutPlans P)
    (hraised : ∀ e s, e ≠ .invalidStatus → E e s) :
    Triple P (truncatePathLocal input).executeTick (Decides (fun s => P s ∧ Cut input s) P) E := by
  refine BT.triple_childless rfl (fun status => (decides_ignoresStatuses h.cut h.ignoresStatuses
    status).cell .truncatePathLocal) ?_
  refine triple_bind (Q := fun _ => P)
    (triple_modify fun s hs => h.ignoresStatuses.cell _ _ s hs) fun _ => ?_
  refine triple_bind (Q := fun _ s => P s ∧ s.pruning.path = readPath s)
    (triple_modify fun s hs => ⟨h s _ hs ⟨rfl, rfl, rfl, rfl, rfl, rfl⟩,
      Pruning.rebase_path _ _⟩) fun _ => triple_get_bind fun s hs => ?_
  cases htruncate : input.truncate s.pruning with
  | none => exact triple_throw fun _ _ => hraised _ _ (by decide)
  | some output =>
    cases output with
    | none => exact triple_pure (by rintro _ rfl; exact hs.1)
    | some cut =>
      obtain ⟨path, begin⟩ := cut
      refine triple_bind (Q := fun _ s => P s ∧ Cut input s) (triple_modify ?_) fun _ =>
        triple_pure fun _ hs => hs
      intro s' hs'
      rw [hs']
      exact ⟨h s _ hs.1 ⟨rfl, rfl, rfl, rfl, rfl, rfl⟩, s.pruning, path, begin, hs.2, htruncate,
        rfl⟩

omit [Inhabited Path] in
theorem publishPath_ticks (h : IgnoresStatuses P) :
    Triple P publishPath.executeTick (Decides P P) E := by
  refine BT.triple_leaf (fun status => (decides_ignoresStatuses h h status).cell _)
    (triple_get_bind fun s hs => triple_pure ?_)
  rintro _ rfl
  split
  · exact hs
  · exact hs

theorem isPathValid_ticks (h : AboutPlans P) :
    Triple (fun s => P s ∧ Cut input s) (isPathValid input).executeTick
      (Decides (fun s => P s ∧ FoundValid input (readPath s)) P) E := by
  have hvalid : IgnoresStatuses fun s : TreeState Pose Path =>
      P s ∧ FoundValid input (readPath s) :=
    fun s statuses hs => ⟨h.ignoresStatuses s statuses hs.1, hs.2⟩
  refine BT.triple_leaf (fun status =>
    (decides_ignoresStatuses hvalid h.ignoresStatuses status).cell _)
    (triple_get_bind fun s hs => triple_pure ?_)
  rintro _ rfl
  obtain ⟨hP, m, path, begin, hm, htruncate, hremaining⟩ := hs
  rw [hremaining, Option.any_some]
  split
  · next hanswer => exact ⟨hP, m, path, begin, hm, htruncate, hanswer⟩
  · exact hP

variable [DecidableEq Pose]

omit [Inhabited Path] in
/-- `GlobalUpdatedGoal`, for what does not look at it. -/
theorem globalUpdatedGoal_completes (h : IgnoresStatuses P)
    (hmembers : ∀ s members, P s → P { s with updatedGoal := members }) :
    Triple P globalUpdatedGoal.executeTick (Decides P P) E := by
  refine BT.triple_leaf (fun status => (decides_ignoresStatuses h h status).cell _)
    (triple_get_bind fun s hs => ?_)
  obtain ⟨_, hreport⟩ := s.updatedGoal.tick_spec s.blackboard.goal s.blackboard.goals
  rcases hticked : s.updatedGoal.tick s.blackboard.goal s.blackboard.goals with ⟨status, members⟩
  rw [hticked] at hreport
  refine triple_bind (Q := fun _ => P) (triple_set fun _ _ => hmembers s members hs)
    fun _ => triple_pure fun _ hs' => ?_
  rcases hreport with hsuccess | hfailure
  · rw [show status = .success from hsuccess]
    exact hs'
  · rw [show status = .failure from congrArg Prod.fst hfailure]
    exact hs'

omit [Inhabited Path] in
/-- The inverter of `GlobalUpdatedGoal`. -/
theorem inverter_ticks (hP₀ : IgnoresStatuses P₀) (hP : IgnoresStatuses P)
    (hR : IgnoresStatuses R) (hraised : ∀ e s, e ≠ .invalidStatus → E e s)
    (hupdated : Triple P₀ globalUpdatedGoal.executeTick (Decides R P) E) :
    Triple P₀ (BT.inverter idleChild (cell .inverter) globalUpdatedGoal).executeTick
      (Decides P R) E := by
  exact BT.triple_inverter (hP₀.cell _)
    (fun status => (decides_ignoresStatuses hP hR status).cell _)
    (fun status => (decides_ignoresStatuses hP hR status).cell .globalUpdatedGoal) hupdated
    (BT.haltChild_leaf (hR.cell _)) (BT.haltChild_leaf (hP.cell _)) (fun _ hs => hs)
    (fun _ hs => hs) fun s _ => hraised _ _ (by decide)

/-- What holds before child `i` of the sequence is ticked, or at its end. -/
def SequenceAt (P₀ P : TreeState Pose Path → Prop) (input : TreeInput Path) :
    Bool → Nat → TreeState Pose Path → Prop
  | _, 0 => P₀
  | b, 1 => fun s => b = false ∧ P s
  | b, 2 | b, 3 => fun s => b = false ∧ P s ∧ Cut input s
  | b, _ => fun s => b = false ∧ P s ∧ FoundValid input (readPath s)

omit [DecidableEq Pose] in
theorem sequenceAt_ignoresStatuses (h : AboutPlans P) (b : Bool) (i : Nat) :
    IgnoresStatuses (SequenceAt P₀ P input b (i + 1)) := by
  match i with
  | 0 => exact fun s statuses hs => ⟨hs.1, h.ignoresStatuses s statuses hs.2⟩
  | 1 => exact fun s statuses hs => ⟨hs.1, h.cut s statuses hs.2⟩
  | 2 => exact fun s statuses hs => ⟨hs.1, h.cut s statuses hs.2⟩
  | i + 3 => exact fun s statuses hs => ⟨hs.1, h.ignoresStatuses s statuses hs.2.1, hs.2.2⟩

omit [Inhabited Path] [DecidableEq Pose] in
theorem Decides.mono {Q R' : TreeState Pose Path → Prop} (h : Decides Q R status s)
    (hfails : R s → R' s) : Decides Q R' status s := by
  cases status with
  | failure => exact hfails h
  | _ => exact h

omit [Inhabited Path] [DecidableEq Pose] in
/-- A condition as a child of the sequence. -/
theorem Decides.childTicked {A : Bool → Nat → TreeState Pose Path → Prop}
    {Q : TreeState Pose Path → Prop} {b : Bool} {i : Nat} (h : Decides Q R status s)
    (hgo : Q s → A false (i + 1) s) :
    BT.ChildTicked .success .failure A R (fun _ _ => False) b i status s := by
  cases status with
  | success => exact ⟨nofun, fun _ => hgo h⟩
  | failure => exact ⟨fun _ => h, nofun⟩
  | running => exact h
  | idle => exact h.elim
  | skipped => exact h.elim

variable [DecidableEq Path]

/-- **The sequence of the conditions**: it succeeds only when
`GlobalUpdatedGoal` reports no update and the path has been found valid. -/
theorem reactiveSequence_ticks (hP₀ : IgnoresStatuses P₀) (hP : AboutPlans P)
    (hR : IgnoresStatuses R) (hPR : ∀ s, P s → R s)
    (hraised : ∀ e s, e ≠ .invalidStatus → E e s)
    (hupdated : Triple P₀ globalUpdatedGoal.executeTick (Decides R P) E) :
    Triple P₀ (reactiveSequence input).executeTick
      (Decides (fun s => P s ∧ FoundValid input (readPath s)) R) E := by
  have hvalid : IgnoresStatuses fun s : TreeState Pose Path =>
      P s ∧ FoundValid input (readPath s) :=
    fun s statuses hs => ⟨hP.ignoresStatuses s statuses hs.1, hs.2⟩
  refine BT.triple_reactive (A := SequenceAt P₀ P input) (R := R) (S := fun _ _ => False)
    (fun s => hraised _ s (by decide)) (.inl ⟨rfl, rfl⟩) (hP₀.cell _)
    (fun status => (decides_ignoresStatuses hvalid hR status).cell _) (fun b i c hc => ?_)
    (fun b i c hc => ?_) (fun b => triple_start fun s hs => ?_) ?_
    (fun i _ => triple_start fun _ hf => hf.elim)
  · match i, hc with
    | 0, rfl =>
      refine triple_conseq (inverter_ticks hP₀ hP.ignoresStatuses hR hraised hupdated)
        (fun _ hs => hs) (fun _ _ hs => hs.childTicked fun hs => ⟨rfl, hs⟩) fun _ _ he => he
    | 1, rfl =>
      refine triple_conseq (truncatePathLocal_ticks hP hraised) (fun _ hs => hs.2)
        (fun _ s hs => ?_) fun _ _ he => he
      exact (hs.mono (hPR s)).childTicked fun hs => ⟨rfl, hs⟩
    | 2, rfl =>
      refine triple_conseq (publishPath_ticks hP.cut) (fun _ hs => hs.2) (fun _ s hs => ?_)
        fun _ _ he => he
      exact (hs.mono fun hcut => hPR s hcut.1).childTicked fun hs => ⟨rfl, hs⟩
    | 3, rfl =>
      refine triple_conseq (isPathValid_ticks hP) (fun _ hs => hs.2) (fun _ s hs => ?_)
        fun _ _ he => he
      exact (hs.mono (hPR s)).childTicked fun hs => ⟨rfl, hs⟩
  · exact sequenceChildren_halt (sequenceAt_ignoresStatuses hP b i) c (List.mem_of_getElem? hc)
  · obtain ⟨rfl, hs⟩ : b = false ∧ P s ∧ FoundValid input (readPath s) := hs
    rw [if_neg Bool.false_ne_true]
    refine triple_pre (BT.triple_haltChildren (sequenceChildren_halt hvalid)) ?_
    rintro _ rfl
    exact hs
  · exact BT.triple_haltChildren (sequenceChildren_halt hR)

end Conditions

/-! ## The fallback -/

section Fallback

variable [Inhabited Pose] [Inhabited Path] [DecidableEq Pose] [DecidableEq Path]
  {params : TreeParams} {input : TreeInput Path} {P P₀ R M K F : TreeState Pose Path → Prop}
  {Q : NodeStatus → TreeState Pose Path → Prop} {E : ActionFailure → TreeState Pose Path → Prop}

/-- What the tick of `ComputePathToPose` comes to. -/
def Computed (M K F : TreeState Pose Path → Prop) (status : NodeStatus)
    (s : TreeState Pose Path) : Prop :=
  match status with
  | .success => M s
  | .running => K s
  | .failure => F s
  | _ => False

/-- What holds before child `i` of the fallback is ticked, or at its end. -/
def FallbackAt (P₀ R F : TreeState Pose Path → Prop) : Bool → Nat → TreeState Pose Path → Prop
  | _, 0 => P₀
  | b, 1 => fun s => b = false ∧ R s
  | b, _ => fun s => b = false ∧ F s

/-- `haltChild()` on both children. -/
theorem fallback_halts (h : IgnoresStatuses P)
    (hcompute : Triple P (computePathToPose params input).haltChild (fun _ => R) E) :
    Triple P (BT.haltChildren ([reactiveSequence input] ++ [computePathToPose params input]))
      (fun _ => R) E := by
  refine BT.triple_haltChildren_concat (fun c hc => ?_) hcompute
  rw [List.mem_singleton.mp hc]
  exact reactiveSequence_halts h

/-- **The fallback**: `ComputePathToPose` is ticked when the conditions
fail. -/
theorem reactiveFallback_ticks (hP₀ : IgnoresStatuses P₀) (hP : IgnoresStatuses P)
    (hR : IgnoresStatuses R) (hM : IgnoresStatuses M) (hF : IgnoresStatuses F)
    (hQ : ∀ status, IgnoresStatuses (Q status)) (hraised : ∀ e s, e ≠ .invalidStatus → E e s)
    (hsequence : Triple P₀ (reactiveSequence input).executeTick (Decides P R) E)
    (hcompute : Triple R (computePathToPose params input).executeTick
      (Computed M (Q .running) F) E)
    (hvalid : Triple P (computePathToPose params input).haltChild (fun _ => Q .success) E)
    (hmade : Triple M (computePathToPose params input).haltChild (fun _ => Q .success) E)
    (hfailed : Triple F (computePathToPose params input).haltChild (fun _ => Q .failure) E)
    (hQF : ∀ s, Q .failure s → F s) :
    Triple P₀ (reactiveFallback params input).executeTick Q E := by
  refine BT.triple_reactive (A := FallbackAt P₀ R F) (R := fun s => P s ∨ M s)
    (S := fun i s => i = 1 ∧ Q .running s) (fun s => hraised _ s (by decide)) (.inr ⟨rfl, rfl⟩)
    (hP₀.cell _) (fun status => (hQ status).cell _) (fun b i c hc => ?_) (fun b i c hc => ?_)
    (fun b => triple_start fun s hs => ?_) (triple_start fun s hs => ?_)
    (fun i _ => triple_start fun s hs => ?_)
  · match i, hc with
    | 0, rfl =>
      refine triple_post hsequence fun status s hs => ?_
      cases status with
      | success => exact ⟨fun _ => .inl hs, nofun⟩
      | failure => exact ⟨nofun, fun _ => ⟨rfl, hs⟩⟩
      | running => exact hs.elim
      | idle => exact hs.elim
      | skipped => exact hs.elim
    | 1, rfl =>
      refine triple_conseq hcompute (fun _ hs => hs.2) (fun status s hs => ?_) fun _ _ he => he
      cases status with
      | success => exact ⟨fun _ => .inr hs, nofun⟩
      | failure => exact ⟨nofun, fun _ => ⟨rfl, hs⟩⟩
      | running => exact ⟨rfl, hs⟩
      | idle => exact hs.elim
      | skipped => exact hs.elim
  · match i, hc with
    | 0, rfl =>
      have hA : IgnoresStatuses fun s : TreeState Pose Path => b = false ∧ R s :=
        fun s statuses hs => ⟨hs.1, hR s statuses hs.2⟩
      exact reactiveSequence_halts hA
    | 1, rfl =>
      refine triple_start fun s hs => triple_conseq hfailed ?_
        (fun _ s' hs' => ⟨hs.1, hQF s' hs'⟩) fun _ _ he => he
      rintro _ rfl
      exact hs.2
  · obtain ⟨rfl, hs⟩ : b = false ∧ F s := hs
    rw [if_neg Bool.false_ne_true]
    exact triple_pre (fallback_halts hF hfailed) (by rintro _ rfl; exact hs)
  · rcases hs with hs | hs
    · exact triple_pre (fallback_halts hP hvalid) (by rintro _ rfl; exact hs)
    · exact triple_pre (fallback_halts hM hmade) (by rintro _ rfl; exact hs)
  · obtain ⟨rfl, hs⟩ := hs
    have hother : Triple (Q .running) (BT.haltChildren [reactiveSequence input])
        (fun _ => Q .running) E := by
      refine BT.triple_haltChildren fun c hc => ?_
      rw [List.mem_singleton.mp hc]
      exact reactiveSequence_halts (hQ _)
    exact triple_pre hother (by rintro _ rfl; exact hs)

/-- The rate controller over it. -/
theorem rateController_ticks (hP₀ : IgnoresStatuses P₀) (hQ : ∀ status, IgnoresStatuses (Q status))
    (hmembers : ∀ members s, P₀ s → P₀ (rateCell.setMembers members s))
    (hmembersQ : ∀ members s, Q .success s → Q .success (rateCell.setMembers members s))
    (hidle : ∀ s, ¬ Q .idle s) (hnotDue : ∀ s, P₀ s → Q .running s)
    (hfallback : Triple P₀ (reactiveFallback params input).executeTick Q E) :
    Triple P₀ (rateController rateCell (some replanningPeriod) input.clock
      (reactiveFallback params input)).executeTick Q E :=
  triple_rateController (hP₀.cell .rateController) hmembers
    (fun status => (hQ status).cell .rateController) hmembersQ
    (fun status => (hQ status).cell .reactiveFallback) (fun s hs => absurd hs (hidle s))
    (fun s hs => hnotDue _ (hP₀.cell .rateController .running s hs)) hfallback

end Fallback

/-! ## The pipeline -/

section Pipeline

variable {params : TreeParams} {input : TreeInput Path} {P : TreeState Pose Path → Prop}
  {E : ActionFailure → TreeState Pose Path → Prop}

theorem selectors_keep [Inhabited Path] (h : AboutPlans P) :
    ∀ c ∈ [controllerSelector input, plannerSelector input],
      Triple P c.executeTick (fun _ => P) E := by
  have hcell : ∀ id, (cell id).Ignored P := fun id => h.ignoresStatuses.cell id
  intro c hc
  simp only [List.mem_cons, List.not_mem_nil, or_false] at hc
  rcases hc with rfl | rfl
  · exact triple_selector (hcell _) (fun _ s hs => h s _ hs ⟨rfl, rfl, rfl, rfl, rfl, rfl⟩)
      fun _ s hs => h s _ hs ⟨rfl, rfl, rfl, rfl, rfl, rfl⟩
  · exact triple_selector (hcell _) (fun _ s hs => h s _ hs ⟨rfl, rfl, rfl, rfl, rfl, rfl⟩)
      fun _ s hs => h s _ hs ⟨rfl, rfl, rfl, rfl, rfl, rfl⟩

variable [Inhabited Pose] [Inhabited Path] [DecidableEq Pose] [DecidableEq Path]

/-- **The children before `FollowPath`**, from what the rate controller does
after the selectors. -/
theorem planning_ticks {R : NodeStatus ⊕ Nat → TreeState Pose Path → Prop} (h : AboutPlans P)
    (hraised : ∀ e s, e ≠ .invalidStatus → E e s)
    (hfailed : Triple P (BT.haltChildren (pipeline params input))
      (fun _ s => R (.inl .failure) (pipelineCell.setLastChildTicked 0 s)) E)
    (hstops : ∀ i ≤ 1, ∀ s, P s → R (.inl .running) (pipelineCell.setLastChildTicked i s))
    (hrate : ∀ skippedCount, Triple P
      (tickChildren idleChild pipelineCell (pipeline params input) 2 skippedCount
        [rateController rateCell (some replanningPeriod) input.clock
          (reactiveFallback params input)]) R E) :
    Triple P (tickChildren idleChild pipelineCell (pipeline params input) 0 0
      (planning params input)) R E := by
  have hselector : ∀ c ∈ [controllerSelector input, plannerSelector input], ∀ i ≤ 1, ∀ cs k,
      (∀ k, Triple P (tickChildren idleChild pipelineCell (pipeline params input) (i + 1) k cs)
        R E) →
      Triple P (tickChildren idleChild pipelineCell (pipeline params input) i k (c :: cs)) R E := by
    intro c hc i hi cs k hrest
    refine triple_tickChild (T := fun _ => P) (selectors_keep h c hc) hfailed
      (fun s hs _ => hstops i hi s hs) ?_ (hrest _) (hrest _) fun s _ => hraised _ s (by decide)
    exact triple_pre (hrest _) (fun _ hs => hs.1)
  refine hselector _ List.mem_cons_self 0 (by decide) _ _ fun k => ?_
  exact hselector _ (List.mem_cons_of_mem _ List.mem_cons_self) 1 (by decide) _ _ hrate

end Pipeline

end Nav3D.BtNavigator

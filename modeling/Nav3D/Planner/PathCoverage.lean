/-
Nav3D.Planner.PathCoverage — what the answer of
`MoveItGlobalPlanner::isPathValid` says about the whole path
(`moveit_global_planner.cpp`).

The loop over the poses is a strided search: the first check connects the
interface and later ones leave it as it is, so that the answer about each
pose is settled before the loop starts (`checkPoses_eq_search`). With the
facts about such a search, a negative answer names the first sampled pose
that is invalid, and a positive one covers the poses that
`validity.max_checks` checks reach and no others (`isPathValid_covers`).
-/
import Nav3D.Lib.StridedSearch
import Nav3D.Planner.PathValidity

namespace Nav3D.Planner

open StridedSearch
open Nav3D.Px4 (Pose)

section Coverage

variable {D : Type}

/-! ## The answer about one pose -/

/-- The interface at the check of pose `i`: the first check connects it. -/
def MoveGroupInterface.atPose (m : MoveGroupInterface) (service : Nat → ServiceBehavior D)
    (i : Nat) : MoveGroupInterface :=
  if i = 0 then m else (m.connect (service 0).created).1

/-- What `isPoseValid` answers about pose `i`, if the loop comes to it. -/
def MoveItGlobalPlanner.answer (p : MoveItGlobalPlanner) (m : MoveGroupInterface)
    (service : Nat → ServiceBehavior D) (poses : List (Pose D)) (i : Nat) : Except String Bool :=
  match poses[i]? with
  | none => .ok true
  | some pose => ((m.atPose service i).isPoseValid (service i) pose p.timeout).2

/-- The loop checks its sample `k`, which is pose `k * step`: the checks and
the poses reach that far, and every sample before it has been reported
valid. -/
def MoveItGlobalPlanner.Checks (p : MoveItGlobalPlanner) (m : MoveGroupInterface)
    (service : Nat → ServiceBehavior D) (poses : List (Pose D)) (k : Nat) : Prop :=
  StridedSearch.Sampled (p.answer m service poses) poses.length p.step p.maxChecks 0 k

/-! ## The loop as a search -/

/-- What `connect` leaves is connected. -/
theorem MoveGroupInterface.connected_of_connect {m m' : MoveGroupInterface}
    {created : Except String Unit} (h : m.connect created = (m', .ok ())) : m'.Connected := by
  by_cases hclient : m.stateValidityClient = none
  · by_cases hname : m.stateValidityServiceName = ""
    · rw [connect_of_no_service hclient hname] at h
      cases h
      exact fun _ => hname
    · rw [connect_of_service hclient hname] at h
      cases created with
      | error what => cases h
      | ok _ =>
        cases h
        exact fun hnone => nomatch hnone
  · rw [connect_of_client hclient] at h
    cases h
    exact fun hnone => absurd hnone hclient

/-- At every pose the interface connects to the same. -/
theorem MoveGroupInterface.connect_atPose {m m' : MoveGroupInterface}
    {service : Nat → ServiceBehavior D} (h : m.connect (service 0).created = (m', .ok ()))
    (i : Nat) : (m.atPose service i).connect (service i).created = (m', .ok ()) := by
  by_cases hi : i = 0
  · rw [hi, atPose, if_pos rfl, h]
  · rw [atPose, if_neg hi, h]
    exact connect_of_connected (connected_of_connect h) _

variable {p : MoveItGlobalPlanner} {m : MoveGroupInterface} {service : Nat → ServiceBehavior D}
  {poses : List (Pose D)}

/-- The stride is positive. -/
theorem MoveItGlobalPlanner.step_pos (p : MoveItGlobalPlanner) : 0 < p.step := by
  unfold step
  omega

/-- With a connection the loop goes on as the search does. By induction on
the checks that are left. -/
theorem checkPoses_eq_search_of_connect {m' : MoveGroupInterface}
    (h : m.connect (service 0).created = (m', .ok ())) (checks i : Nat) :
    (checkPoses service poses p.timeout p.step checks i (m.atPose service i)).2 =
      search (p.answer m service poses) poses.length p.step checks i := by
  induction checks generalizing i with
  | zero => rfl
  | succ checks ih =>
    rw [checkPoses, search]
    cases hpose : poses[i]? with
    | none => rw [if_neg (Nat.not_lt.mpr (List.getElem?_eq_none_iff.mp hpose))]
    | some pose =>
      obtain ⟨checked, hcheck⟩ : ∃ checked,
          (m.atPose service i).isPoseValid (service i) pose p.timeout = (m', checked) :=
        ⟨_, MoveGroupInterface.isPoseValid_of_connect (MoveGroupInterface.connect_atPose h i) pose
          p.timeout⟩
      have hanswer : p.answer m service poses i = checked := by
        simp only [MoveItGlobalPlanner.answer, hpose, hcheck]
      have hnext : m.atPose service (i + p.step) = m' := by
        have hpos := p.step_pos
        rw [MoveGroupInterface.atPose, if_neg (by omega), h]
      have hrest := ih (i + p.step)
      rw [hnext] at hrest
      rw [if_pos (List.getElem?_eq_some_iff.mp hpose).1, hanswer]
      simp only [hcheck]
      rcases checked with what | _ | _
      · rfl
      · rfl
      · -- the check leaves the connected interface to the next one
        exact hrest

/-- The loop is a search for the first pose that is not valid. -/
theorem checkPoses_eq_search (p : MoveItGlobalPlanner) (m : MoveGroupInterface)
    (service : Nat → ServiceBehavior D) (poses : List (Pose D)) :
    (checkPoses service poses p.timeout p.step p.maxChecks 0 m).2 =
      search (p.answer m service poses) poses.length p.step p.maxChecks 0 := by
  obtain ⟨m', connected, hconnect⟩ : ∃ m' connected,
    m.connect (service 0).created = (m', connected) := ⟨_, _, rfl⟩
  cases connected with
  | ok _ =>
    have hstart : m.atPose service 0 = m := rfl
    rw [← checkPoses_eq_search_of_connect hconnect, hstart]
  | error what =>
    -- the first check raises
    obtain ⟨checks, hchecks⟩ : ∃ checks, p.maxChecks = checks + 1 :=
      ⟨p.maxChecks - 1, by unfold MoveItGlobalPlanner.maxChecks; omega⟩
    rw [hchecks, checkPoses, search]
    cases hpose : poses[0]? with
    | none => rw [if_neg (Nat.not_lt.mpr (List.getElem?_eq_none_iff.mp hpose))]
    | some pose =>
      have hraised : m.isPoseValid (service 0) pose p.timeout = (m', .error what) := by
        rw [MoveGroupInterface.isPoseValid, hconnect]
      have hanswer : p.answer m service poses 0 = .error what := by
        simp [MoveItGlobalPlanner.answer, hpose, MoveGroupInterface.atPose, hraised]
      rw [if_pos (List.getElem?_eq_some_iff.mp hpose).1, hanswer]
      simp only [hraised]

/-! ## What the answer says -/

/-- The planner is active. -/
structure MoveItGlobalPlanner.ChecksThrough (p : MoveItGlobalPlanner) (m : MoveGroupInterface) :
    Prop where
  active : p.active = true
  node : p.node = true
  interface : p.moveGroupInterface = some m

/-- The answer is what the search finds. -/
theorem MoveItGlobalPlanner.isPathValid_eq (h : p.ChecksThrough m)
    (service : Nat → ServiceBehavior D) (poses : List (Pose D)) :
    (p.isPathValid service poses).2 =
      match search (p.answer m service poses) poses.length p.step p.maxChecks 0 with
      | .error what => .error what
      | .ok (some i) => .ok (false, [Int32.ofNat i])
      | .ok none => .ok (true, []) := by
  rw [← checkPoses_eq_search]
  by_cases hposes : poses = []
  · obtain ⟨checks, hchecks⟩ : ∃ checks, p.maxChecks = checks + 1 :=
      ⟨p.maxChecks - 1, by unfold maxChecks; omega⟩
    subst hposes
    simp [isPathValid, h.interface, h.active, h.node, hchecks, checkPoses]
  · obtain ⟨m', checked, hcheck⟩ : ∃ m' checked,
      checkPoses service poses p.timeout p.step p.maxChecks 0 m = (m', checked) := ⟨_, _, rfl⟩
    simp only [isPathValid, hposes, if_false, h.interface, h.active, h.node, hcheck]
    rcases checked with what | _ | i <;> simp

/-- Pose `j` is covered: it is, or it lies less than `step` after, a pose
that has been checked and reported valid. -/
def MoveItGlobalPlanner.Covers (p : MoveItGlobalPlanner) (m : MoveGroupInterface)
    (service : Nat → ServiceBehavior D) (poses : List (Pose D)) (j : Nat) : Prop :=
  ∃ k, p.Checks m service poses k ∧ p.answer m service poses (k * p.step) = .ok true ∧
    k * p.step ≤ j ∧ j ≤ k * p.step + (p.step - 1)

/-- **Coverage.** With an active planner the answer is negative exactly if a
sampled pose has been reported invalid, and then names that pose, the first
one; it raises exactly if a check does; and a positive answer covers the
poses that `max_checks` checks reach, so the whole path if they reach its
end. -/
theorem MoveItGlobalPlanner.isPathValid_covers (h : p.ChecksThrough m)
    (service : Nat → ServiceBehavior D) (poses : List (Pose D)) :
    (∀ indices, (p.isPathValid service poses).2 = .ok (false, indices) ↔
      ∃ k, p.Checks m service poses k ∧ p.answer m service poses (k * p.step) = .ok false ∧
        indices = [Int32.ofNat (k * p.step)]) ∧
    (∀ what, (p.isPathValid service poses).2 = .error what ↔
      ∃ k, p.Checks m service poses k ∧
        p.answer m service poses (k * p.step) = .error what) ∧
    ∀ indices, (p.isPathValid service poses).2 = .ok (true, indices) →
      indices = [] ∧
      (∀ j < poses.length, p.Covers m service poses j ↔ j < p.step * p.maxChecks) ∧
      (poses.length ≤ p.step * p.maxChecks → ∀ j < poses.length, p.Covers m service poses j) := by
  have hfound : ∀ i, search (p.answer m service poses) poses.length p.step p.maxChecks 0 =
      .ok (some i) ↔ ∃ k, p.Checks m service poses k ∧
        p.answer m service poses (k * p.step) = .ok false ∧ i = k * p.step := fun i => by
    simp only [search_eq_some_iff, Nat.zero_add]
    rfl
  have hraised : ∀ what, search (p.answer m service poses) poses.length p.step p.maxChecks 0 =
      .error what ↔ ∃ k, p.Checks m service poses k ∧
        p.answer m service poses (k * p.step) = .error what := fun what => by
    simp only [search_eq_error_iff, Nat.zero_add]
    rfl
  rw [isPathValid_eq h]
  refine ⟨fun indices => ?_, fun what => ?_, fun indices htrue => ?_⟩
  · constructor
    · intro hfalse
      split at hfalse
      · cases hfalse
      · next i hsearch =>
        cases hfalse
        obtain ⟨k, hchecks, hanswer, rfl⟩ := (hfound i).mp hsearch
        exact ⟨k, hchecks, hanswer, rfl⟩
      · cases hfalse
    · rintro ⟨k, hchecks, hanswer, rfl⟩
      rw [(hfound _).mpr ⟨k, hchecks, hanswer, rfl⟩]
  · rw [← hraised what]
    split
    · next hsearch => simp [hsearch]
    · next hsearch => simp [hsearch]
    · next hsearch => simp [hsearch]
  · split at htrue
    · cases htrue
    · cases htrue
    · next hsearch =>
      cases htrue
      have hcovers : ∀ j < poses.length, p.Covers m service poses j ↔ j < p.step * p.maxChecks :=
        fun j hj => search_covers_iff p.step_pos hsearch hj
      exact ⟨rfl, hcovers, fun hlength j hj => (hcovers j hj).mpr (by omega)⟩

/-! ### A budget of two checks -/

/-- A planner that checks every second pose, twice. -/
def twoChecks : MoveItGlobalPlanner :=
  { examplePlanner with validityStep := 2, validityMaxChecks := 2 }

theorem twoChecks_checksThrough : twoChecks.ChecksThrough exampleInterface := ⟨rfl, rfl, rfl⟩

/-- The last pose of the climb is in collision. -/
def lastInvalid (i : Nat) : ServiceBehavior Int := answersAt 10 (decide (i < 4))

/-- The fourth pose is covered by the check of the third one. -/
theorem isPathValid_covers_fourth :
    (twoChecks.isPathValid lastInvalid climbPath).2 = .ok (true, []) ∧
      twoChecks.Covers exampleInterface lastInvalid climbPath 3 := by
  have hcovers := MoveItGlobalPlanner.isPathValid_covers twoChecks_checksThrough lastInvalid
    climbPath
  have hvalid : (twoChecks.isPathValid lastInvalid climbPath).2 = .ok (true, []) := by
    decide +kernel
  exact ⟨hvalid, ((hcovers.2.2 [] hvalid).2.1 3 (by decide)).mpr (by decide)⟩

/-- The last one is not, and the answer is positive all the same. -/
theorem positive_beyond_budget :
    ¬ ∀ (p : MoveItGlobalPlanner) (m : MoveGroupInterface), p.ChecksThrough m →
      ∀ (service : Nat → ServiceBehavior Int) (poses : List (Pose Int)) (indices : List Int32),
        (p.isPathValid service poses).2 = .ok (true, indices) →
          ∀ j < poses.length, p.Covers m service poses j := by
  intro hclaim
  have hvalid : (twoChecks.isPathValid lastInvalid climbPath).2 = .ok (true, []) := by
    decide +kernel
  obtain ⟨k, hchecks, -, -, hle⟩ := hclaim twoChecks exampleInterface twoChecks_checksThrough
    lastInvalid climbPath [] hvalid 4 (by decide)
  have hwithin : k < 2 := hchecks.within
  have hstep : twoChecks.step = 2 := by decide
  rw [hstep] at hle
  omega

end Coverage

end Nav3D.Planner

/-
Nav3D.BtNavigator.GoalPlanning — for which goal the planning part plans.

Between ticks the path on the blackboard was planned for the goal that
`GlobalUpdatedGoal` has seen last, unless `ComputePathToPose` is RUNNING
(`Kept`): a goal that is reported is planned for in the same tick, and a
planning that is halted clears {path}. So where the goal has been seen,
nothing is being planned and there is a path, the plan for the goal stands
(`PlanStands`), and the planning part leaves it on the blackboard until a
planning result comes (`planning_keepsPlan`).
-/
import Nav3D.BtNavigator.PlanningNodes

namespace Nav3D.BtNavigator

open Nav3D.Ros Nav3D.BehaviorTree StateInvariant
open BT (NodeStatus StatusCell TreeNode leaf)

variable {Pose Path : Type}

/-! ## What holds between ticks -/

/-- `GlobalUpdatedGoal` has seen {goal}. -/
def Seen (s : TreeState Pose Path) : Prop := s.updatedGoal.goal = s.blackboard.goal

/-- IDLE or RUNNING. -/
def Resting (status : NodeStatus) : Prop := status = .idle ∨ status = .running

/-- `ComputePathToPose` plans for {goal}. -/
def Computing (s : TreeState Pose Path) : Prop :=
  Quiet s.computePath ∧ ∃ base, Aligned base s.computePath ∧
    PlansFor s.blackboard.goal base (viewCompute s)

/-- `FollowPath` follows what it has sent. -/
def Following (s : TreeState Pose Path) : Prop :=
  Quiet s.followPath ∧ UpToDate s.followPath ∧ ∃ base, Aligned base s.followPath

/-- The goal that `FollowPath` holds, and of whose end it has heard, is for a
path planned for {goal}. -/
def EndedPlanned (s : TreeState Pose Path) : Prop :=
  ∀ (i : GoalId) (r : Request (FollowPathGoal Path) ErrorResult), HeldEnded s.followPath i →
    s.followPath.requests[i]? = some r →
      Seen s ∧ PlannedFor s.computePath.requests r.goal.path s.blackboard.goal

section Kept

variable [Inhabited Path]

/-- {path} was planned for `goal`, if there is one. -/
def PathFor (goal : Pose) (s : TreeState Pose Path) : Prop :=
  readPath s = default ∨ PlannedFor s.computePath.requests (readPath s) goal

/-- What holds between the ticks of a navigation. -/
structure Kept (s : TreeState Pose Path) : Prop extends ClientsValid s where
  computeRests : Resting s.computePath.status
  computing : s.computePath.status = .running → Computing s
  planned : s.computePath.status = .running ∨ PathFor s.updatedGoal.goal s
  followRests : Resting s.followPath.status
  following : s.followPath.status = .running → Following s
  ended : s.followPath.status = .running → EndedPlanned s
  last : s.lastChildTicked ≤ 3

/-- The goal has been seen, nothing is being planned, and there is a path. -/
def PlanStands (s : TreeState Pose Path) : Prop :=
  Seen s ∧ s.computePath.status ≠ .running ∧ readPath s ≠ default

instance PlanStands.decidable [DecidableEq Pose] [DecidableEq Path] (s : TreeState Pose Path) :
    Decidable (PlanStands s) :=
  inferInstanceAs (Decidable (s.updatedGoal.goal = s.blackboard.goal ∧ _ ∧ _))

variable {s s' : TreeState Pose Path} {goal : Pose}

theorem PathFor.grow (h : PathFor goal s)
    (hgrow : RequestsGrow s.computePath.requests s'.computePath.requests)
    (hpath : readPath s' = readPath s) : PathFor goal s' := by
  rw [PathFor, hpath]
  exact h.imp id fun hplanned => hplanned.grow hgrow

/-- **Where a plan stands, it is for {goal}.** -/
theorem Kept.plannedFor (h : Kept s) (hstands : PlanStands s) :
    PlannedFor s.computePath.requests (readPath s) s.blackboard.goal := by
  obtain ⟨hseen, hrests, hpath⟩ := hstands
  rcases h.planned with hrunning | hempty | hplanned
  · exact absurd hrunning hrests
  · exact absurd hempty hpath
  · rw [← show s.updatedGoal.goal = s.blackboard.goal from hseen]
    exact hplanned

omit [Inhabited Path] in
theorem EndedPlanned.grow (h : EndedPlanned s)
    (hgrow : RequestsGrow s.computePath.requests s'.computePath.requests)
    (hfollow : s'.followPath = s.followPath) (hgoal : s'.blackboard.goal = s.blackboard.goal)
    (hseen : Seen s → Seen s') : EndedPlanned s' := by
  intro i r hi hr
  rw [hfollow] at hi hr
  obtain ⟨hseen₀, hplanned⟩ := h i r hi hr
  rw [hgoal]
  exact ⟨hseen hseen₀, hplanned.grow hgrow⟩

theorem Kept.setLastChildTicked (h : Kept s) {i : Nat} (hi : i ≤ 3) :
    Kept (pipelineCell.setLastChildTicked i s) where
  toClientsValid := ⟨h.compute, h.follow⟩
  computeRests := h.computeRests
  computing := h.computing
  planned := h.planned
  followRests := h.followRests
  following := h.following
  ended := h.ended
  last := hi

/-! ## From the start of a tick on -/

theorem samePlans_aboutPlans (s₀ : TreeState Pose Path) :
    AboutPlans fun s : TreeState Pose Path => SamePlans s₀ s :=
  fun _ _ h hs' => ⟨hs'.computePath.trans h.computePath, hs'.followPath.trans h.followPath,
    hs'.goal.trans h.goal, hs'.path.trans h.path, hs'.updatedGoal.trans h.updatedGoal,
    hs'.last.trans h.last⟩

theorem SamePlans.refl (s : TreeState Pose Path) : SamePlans s s := ⟨rfl, rfl, rfl, rfl, rfl, rfl⟩

/-- The conditions have failed in the tick from `s₀`: what is planned has not
changed, and {goal} has been seen. -/
structure Failed (s₀ s : TreeState Pose Path) : Prop where
  computePath : s.computePath = s₀.computePath
  followPath : s.followPath = s₀.followPath
  goal : s.blackboard.goal = s₀.blackboard.goal
  path : readPath s = readPath s₀
  last : s.lastChildTicked = s₀.lastChildTicked
  seen : Seen s

omit [Inhabited Path] in
/-- What the planning part of a tick from `s₀` leaves alone. -/
structure PlanningFrom (s₀ s : TreeState Pose Path) : Prop extends ClientsValid s where
  grow : RequestsGrow s₀.computePath.requests s.computePath.requests
  followPath : s.followPath = s₀.followPath
  goal : s.blackboard.goal = s₀.blackboard.goal
  last : s.lastChildTicked = s₀.lastChildTicked
  seen : Seen s₀ → Seen s

/-- What has come of the planning part in a tick from `s₀`. A plan that
stands is given up only for a planning result. -/
structure PlanKept (input : TreeInput Path) (s₀ s : TreeState Pose Path) : Prop extends
    PlanningFrom s₀ s where
  computeRests : Resting s.computePath.status
  computing : s.computePath.status = .running → Computing s
  planned : s.computePath.status = .running ∨ PathFor s.updatedGoal.goal s
  stands : PlanStands s₀ → deliveries input.compute.spin = [] → readPath s = readPath s₀

/-- `ComputePathToPose` has succeeded in a tick from `s₀`. -/
structure PlanMade (input : TreeInput Path) (s₀ s : TreeState Pose Path) : Prop extends
    PlanningFrom s₀ s where
  seenNow : Seen s
  rests : s.computePath.status ≠ .running
  planned : PathFor s.blackboard.goal s
  told : deliveries input.compute.spin ≠ []

/-- What the rate controller leaves of the plan. -/
def PlanTold (input : TreeInput Path) (s₀ : TreeState Pose Path) (status : NodeStatus)
    (s : TreeState Pose Path) : Prop :=
  match status with
  | .success | .running => PlanKept input s₀ s
  | .failure => ClientsValid s
  | _ => False

/-- A `std::logic_error` leaves valid requests. -/
def RaisedValid (e : ActionFailure) (s : TreeState Pose Path) : Prop :=
  e = .invalidStatus → ClientsValid s

omit [Inhabited Path] in
theorem raisedValid_of_ne {e : ActionFailure} (h : e ≠ .invalidStatus) : RaisedValid e s :=
  fun he => absurd he h

variable {input : TreeInput Path} {s₀ : TreeState Pose Path}

omit [Inhabited Path] in
theorem Computing.same (h : Computing s) (hcompute : s'.computePath = s.computePath)
    (hgoal : s'.blackboard.goal = s.blackboard.goal) : Computing s' := by
  obtain ⟨hquiet, base, haligned, hplans⟩ := h
  rw [Computing, hcompute, hgoal]
  refine ⟨hquiet, base, haligned, hgoal, fun i r hi hr => ?_, ?_⟩
  · have hr : s'.computePath.requests[i]? = some r := hr
    rw [hcompute] at hr
    exact hplans.sent i r hi hr
  · show s'.computePath.hook.goal.goal = s.blackboard.goal
    rw [hcompute]
    exact hplans.next

/-- Between ticks, the planning part has nothing to do. -/
theorem Kept.planKept (h : Kept s₀) (hs : SamePlans s₀ s) : PlanKept input s₀ s where
  compute := by rw [hs.computePath]; exact h.compute
  follow := by rw [hs.followPath]; exact h.follow
  grow := by rw [hs.computePath]; exact .refl _
  followPath := hs.followPath
  goal := hs.goal
  last := hs.last
  seen hseen := by rw [Seen, hs.updatedGoal, hs.goal]; exact hseen
  computeRests := by rw [hs.computePath]; exact h.computeRests
  computing hrunning := by
    rw [hs.computePath] at hrunning
    exact (h.computing hrunning).same hs.computePath hs.goal
  planned := by
    rw [hs.computePath, hs.updatedGoal]
    exact h.planned.imp id fun hfor => hfor.grow (by rw [hs.computePath]; exact .refl _) hs.path
  stands _ _ := hs.path

/-- A tick that ends before `FollowPath`. -/
theorem PlanKept.kept (h : PlanKept input s₀ s) (h₀ : Kept s₀) : Kept s where
  toClientsValid := h.toClientsValid
  computeRests := h.computeRests
  computing := h.computing
  planned := h.planned
  followRests := by rw [h.followPath]; exact h₀.followRests
  following hrunning := by
    rw [h.followPath] at hrunning
    rw [Following, h.followPath]
    exact h₀.following hrunning
  ended hrunning := by
    rw [h.followPath] at hrunning
    exact (h₀.ended hrunning).grow h.grow h.followPath h.goal h.seen
  last := by rw [h.last]; exact h₀.last

theorem planKept_aboutPlans :
    AboutPlans fun s : TreeState Pose Path => PlanKept input s₀ s := fun _ _ h hs => by
  have hvalid := h.toClientsValid.same hs
  refine ⟨⟨hvalid, ?_, hs.followPath.trans h.followPath, hs.goal.trans h.goal,
    hs.last.trans h.last, fun hseen => ?_⟩, ?_, fun hrunning => ?_, ?_, fun hstands hquiet =>
    hs.path.trans (h.stands hstands hquiet)⟩
  · rw [hs.computePath]
    exact h.grow
  · rw [Seen, hs.updatedGoal, hs.goal]
    exact h.seen hseen
  · rw [hs.computePath]
    exact h.computeRests
  · rw [hs.computePath] at hrunning
    exact (h.computing hrunning).same hs.computePath hs.goal
  · rw [hs.computePath, hs.updatedGoal]
    exact h.planned.imp id fun hfor => hfor.grow (by rw [hs.computePath]; exact .refl _) hs.path

theorem planTold_ignoresStatuses (status : NodeStatus) :
    IgnoresStatuses (PlanTold input s₀ status) := by
  intro s statuses hs
  cases status with
  | success => exact planKept_aboutPlans.ignoresStatuses s statuses hs
  | running => exact planKept_aboutPlans.ignoresStatuses s statuses hs
  | failure =>
    have hvalid : ClientsValid s := hs
    exact ⟨hvalid.compute, hvalid.follow⟩
  | _ => exact hs.elim

theorem Failed.ignoresStatuses : IgnoresStatuses fun s : TreeState Pose Path => Failed s₀ s :=
  fun _ _ h => ⟨h.computePath, h.followPath, h.goal, h.path, h.last, h.seen⟩

theorem PlanMade.ignoresStatuses :
    IgnoresStatuses fun s : TreeState Pose Path => PlanMade input s₀ s := fun _ _ h =>
  ⟨⟨⟨h.compute, h.follow⟩, h.grow, h.followPath, h.goal, h.last, h.seen⟩, h.seenNow, h.rests,
    h.planned, h.told⟩

omit [Inhabited Path] in
theorem ClientsValid.ignoresStatuses :
    IgnoresStatuses fun s : TreeState Pose Path => ClientsValid s :=
  fun _ _ h => ⟨h.compute, h.follow⟩

/-! ## The conditions -/

/-- What holds when `GlobalUpdatedGoal` reports no update. -/
def NotUpdated (s₀ s : TreeState Pose Path) : Prop := SamePlans s₀ s ∧ Seen s₀

theorem NotUpdated.aboutPlans :
    AboutPlans fun s : TreeState Pose Path => NotUpdated s₀ s :=
  fun s s' h hs' => ⟨samePlans_aboutPlans s₀ s s' h.1 hs', h.2⟩

theorem NotUpdated.failed (h : NotUpdated s₀ s) : Failed s₀ s where
  computePath := h.1.computePath
  followPath := h.1.followPath
  goal := h.1.goal
  path := h.1.path
  last := h.1.last
  seen := by rw [Seen, h.1.updatedGoal, h.1.goal]; exact h.2

variable [DecidableEq Pose]

/-- `GlobalUpdatedGoal` has seen the goal after its tick; when it reports no
update it had seen it before. -/
theorem globalUpdatedGoal_sees {E : ActionFailure → TreeState Pose Path → Prop} :
    Triple (fun s : TreeState Pose Path => SamePlans s₀ s) globalUpdatedGoal.executeTick
      (Decides (fun s => Failed s₀ s) fun s => NotUpdated s₀ s) E := by
  refine BT.triple_leaf (fun status => (decides_ignoresStatuses Failed.ignoresStatuses
    NotUpdated.aboutPlans.ignoresStatuses status).cell _) (triple_get_bind fun s hs => ?_)
  obtain ⟨hseen, hreport⟩ := s.updatedGoal.tick_spec s.blackboard.goal s.blackboard.goals
  rcases hticked : s.updatedGoal.tick s.blackboard.goal s.blackboard.goals with ⟨status, members⟩
  rw [hticked] at hseen hreport
  refine triple_bind (Q := fun _ s' => s' = { s with updatedGoal := members })
    (triple_set fun _ _ => rfl) fun _ => triple_pure ?_
  rintro _ rfl
  rcases hreport with hsuccess | hsame
  · rw [show status = .success from hsuccess]
    exact ⟨hs.computePath, hs.followPath, hs.goal, hs.path, hs.last, hseen⟩
  · cases hsame
    refine ⟨⟨hs.computePath, hs.followPath, hs.goal, hs.path, hs.updatedGoal, hs.last⟩, ?_⟩
    have hseen₀ : s.updatedGoal.goal = s.blackboard.goal := hseen
    rw [Seen, ← hs.updatedGoal, ← hs.goal]
    exact hseen₀

variable [DecidableEq Path]

/-- The conditions. -/
theorem reactiveSequence_sees :
    Triple (fun s : TreeState Pose Path => SamePlans s₀ s) (reactiveSequence input).executeTick
      (Decides (fun s => NotUpdated s₀ s) fun s => Failed s₀ s) RaisedValid := by
  refine triple_post (reactiveSequence_ticks (samePlans_aboutPlans s₀).ignoresStatuses
    NotUpdated.aboutPlans Failed.ignoresStatuses (fun _ hs => hs.failed)
    (fun _ _ => raisedValid_of_ne) globalUpdatedGoal_sees) fun status s hs => ?_
  cases status with
  | success => exact hs.1
  | _ => exact hs

end Kept

/-! ## `ComputePathToPose` -/

section Planning

variable [Inhabited Path] {params : TreeParams} {input : TreeInput Path}
  {s₀ s : TreeState Pose Path}

/-- What the node relies on when it is ticked. -/
structure MayCompute (s : TreeState Pose Path) : Prop where
  valid : RequestsValid s.computePath.requests
  rests : Resting s.computePath.status
  computing : s.computePath.status = .running → Computing s

theorem Failed.mayCompute (h : Failed s₀ s) (h₀ : Kept s₀) : MayCompute s where
  valid := by rw [h.computePath]; exact h₀.compute
  rests := by rw [h.computePath]; exact h₀.computeRests
  computing hrunning := by
    rw [h.computePath] at hrunning
    exact (h₀.computing hrunning).same h.computePath h.goal

omit [Inhabited Path] in
/-- The node as it is when it is ticked. -/
theorem MayCompute.starts (h : MayCompute s) :
    ∃ base, Along base .start (viewCompute s) ∧
      PlansAt s.blackboard.goal base .start (viewCompute s) ∧
      ((viewCompute s).status.isActive = true → Quiet (viewCompute s)) := by
  rcases h.rests with hidle | hrunning
  · have hidle : (viewCompute s).status = .idle := hidle
    have hinactive : (viewCompute s).status.isActive ≠ true := by
      rw [hidle]
      exact Bool.false_ne_true
    exact ⟨s.computePath.requests.length,
      ⟨h.valid, fun hactive => absurd hactive hinactive, fun _ => rfl⟩,
      ⟨fun hactive => absurd hactive hinactive, fun _ => ⟨rfl, Nat.le_refl _⟩⟩,
      fun hactive => absurd hactive hinactive⟩
  · obtain ⟨hquiet, base, haligned, hplans⟩ := h.computing hrunning
    have hrunning : (viewCompute s).status = .running := hrunning
    have hactive : (viewCompute s).status.isActive ≠ false := by
      rw [hrunning]
      exact Bool.noConfusion
    exact ⟨base, ⟨h.valid, fun _ => ⟨hrunning, haligned.valid, haligned.follows⟩,
      fun hinactive => absurd hinactive hactive⟩,
      ⟨fun _ => hplans, fun hinactive => absurd hinactive hactive⟩, fun _ => hquiet⟩

variable [Inhabited Pose]

/-- What the tick of the node comes to, before its status is set. -/
theorem computePathToPose_comes (params : TreeParams) {n : ComputeNode Pose Path}
    {status : NodeStatus} (h₀ : Kept s₀) (hs : Failed s₀ s)
    (hrun : TickRun (computePathToPoseHooks {}) input.compute.spin (.start, viewCompute s)
      (.returned status, n)) :
    Computed (fun s => PlanMade input s₀ s) (PlanTold input s₀ .running)
      (fun s : TreeState Pose Path => ClientsValid s) status
      ((computePathToPose params input).setStatus status (putCompute n s)) := by
  obtain ⟨base, hstart, hplans, hquiet⟩ := (hs.mayCompute h₀).starts
  have hgrown : Grown s₀.computePath n := by
    rw [← hs.computePath]
    exact hrun.grown hstart.1
  have hvalid : ClientsValid (putCompute n s) :=
    ⟨hgrown.1, by rw [show (putCompute n s).followPath = s₀.followPath from hs.followPath]; exact
      h₀.follow⟩
  obtain ⟨halong, hpath⟩ := computePathToPose_path hrun hstart
  have hgoal : PlansFor s.blackboard.goal base n := computePathToPose_goal hrun hplans
  have hdelivered := hrun.delivered computePathToPose_concludes hquiet
  have hseen : s.updatedGoal.goal = n.hook.blackboard.goal := hs.seen.trans hgoal.board.symm
  cases status with
  | running =>
    refine ⟨⟨⟨hvalid.compute, hvalid.follow⟩, hgrown.2, hs.followPath, hgoal.board.trans hs.goal,
      hs.last, fun _ => hseen⟩, .inr rfl, fun _ => ⟨hdelivered, base, ?_, ?_⟩, .inl rfl,
      fun _ _ => hpath.trans hs.path⟩
    · have haligned := halong.2.resolve_left NodeStatus.noConfusion
      exact ⟨haligned.valid, haligned.follows⟩
    · exact ⟨rfl, fun i r hi hr => (hgoal.sent i r hi hr).trans hgoal.board.symm,
        hgoal.next.trans hgoal.board.symm⟩
  | success =>
    obtain ⟨i, hi, _⟩ := hdelivered
    refine ⟨⟨⟨hvalid.compute, hvalid.follow⟩, hgrown.2, hs.followPath, hgoal.board.trans hs.goal,
      hs.last, fun _ => hseen⟩, hseen, NodeStatus.noConfusion, ?_, List.ne_nil_of_mem hi⟩
    exact hpath.plannedFor fun j r hj hr => (hgoal.sent j r hj hr).trans hgoal.board.symm
  | failure => exact ⟨hvalid.compute, hvalid.follow⟩
  | idle => exact hpath.elim
  | skipped => exact hpath.elim

/-- **`ComputePathToPose` plans for {goal}**, when the conditions have
failed. -/
theorem computePathToPose_plansFor (h₀ : Kept s₀) :
    Triple (fun s : TreeState Pose Path => Failed s₀ s) (computePathToPose params input).executeTick
      (Computed (fun s => PlanMade input s₀ s) (PlanTold input s₀ .running)
        fun s => ClientsValid s) RaisedValid := by
  refine BT.triple_executeTick (triple_start fun s hs => ?_) fun _ => triple_pure fun _ h => h
  have hvalid : RequestsValid (viewCompute s).requests := (hs.mayCompute h₀).valid
  refine triple_conseq (triple_zoom (tick_trace hvalid)) (fun _ h => h) ?_ ?_
  · rintro status _ ⟨n, hrun, rfl⟩
    have hcomes := computePathToPose_comes params h₀ hs hrun
    cases status with
    | skipped => exact hcomes.elim
    | _ => exact hcomes
  · rintro e _ ⟨n, hrun, rfl⟩ _
    refine ⟨(hrun.grown hvalid).1, ?_⟩
    rw [show (putCompute n s).followPath = s₀.followPath from hs.followPath]
    exact h₀.follow

/-! ### Its halts -/

omit [Inhabited Pose] in
theorem PlanningFrom.computeStopped {s' : TreeState Pose Path} (h : PlanningFrom s₀ s)
    (hs' : ComputeStopped s s') : PlanningFrom s₀ s' where
  toClientsValid := h.toClientsValid.computeStopped hs'
  grow := h.grow.trans hs'.grow
  followPath := hs'.followPath.trans h.followPath
  goal := hs'.goal.trans h.goal
  last := hs'.last.trans h.last
  seen hseen := by rw [Seen, hs'.updatedGoal, hs'.goal]; exact h.seen hseen

omit [Inhabited Pose] in
/-- A plan that is still valid stays, and a planning that is going on is
halted, with {path} cleared. -/
theorem NotUpdated.computeHalted {s' : TreeState Pose Path} (h₀ : Kept s₀) (h : NotUpdated s₀ s)
    (hs' : ComputeHalted s s') : PlanKept input s₀ s' := by
  have hkept : PlanKept input s₀ s := h₀.planKept h.1
  refine ⟨hkept.toPlanningFrom.computeStopped hs'.toComputeStopped, .inl hs'.status,
    fun hrunning => ?_, ?_, fun hstands _ => ?_⟩
  · rw [hs'.status] at hrunning
    cases hrunning
  · by_cases hrunning : s.computePath.status = .running
    · exact .inr (.inl (hs'.cleared hrunning))
    · rw [hs'.updatedGoal]
      exact .inr ((hkept.planned.resolve_left hrunning).grow hs'.grow (hs'.kept hrunning))
  · refine (hs'.kept ?_).trans h.1.path
    rw [h.1.computePath]
    exact hstands.2.1

omit [Inhabited Pose] in
/-- A node that has completed is reset. -/
theorem PlanMade.computeHalted {s' : TreeState Pose Path} (h : PlanMade input s₀ s)
    (hs' : ComputeHalted s s') : PlanKept input s₀ s' := by
  refine ⟨h.toPlanningFrom.computeStopped hs'.toComputeStopped, .inl hs'.status,
    fun hrunning => ?_, .inr ?_, fun _ hquiet => absurd hquiet h.told⟩
  · rw [hs'.status] at hrunning
    cases hrunning
  · rw [hs'.updatedGoal, show s.updatedGoal.goal = s.blackboard.goal from h.seenNow]
    exact h.planned.grow hs'.grow (hs'.kept h.rests)

theorem clientsValid_computeHalts :
    Triple (fun s : TreeState Pose Path => ClientsValid s)
      (computePathToPose params input).haltChild (fun _ s => ClientsValid s) RaisedValid :=
  computePathToPose_halts (fun _ _ => raisedValid_of_ne) (fun _ hs => hs.compute)
    fun _ _ hs hs' => hs.computeStopped hs'.toComputeStopped

variable [DecidableEq Pose] [DecidableEq Path]

omit [Inhabited Pose] [DecidableEq Pose] in
theorem clientsValid_followHalts :
    Triple (fun s : TreeState Pose Path => ClientsValid s) (followPath params input).haltChild
      (fun _ s => ClientsValid s) RaisedValid :=
  followPath_halts (fun _ _ => raisedValid_of_ne) (fun _ hs => hs.follow)
    fun _ _ hs hs' => hs.followStopped hs'.toFollowStopped

theorem pipeline_haltsValid :
    ∀ c ∈ pipeline params input, Triple (fun s : TreeState Pose Path => ClientsValid s) c.haltChild
      (fun _ s => ClientsValid s) RaisedValid :=
  pipeline_halts ClientsValid.ignoresStatuses clientsValid_computeHalts clientsValid_followHalts

/-! ## The fallback and the pipeline -/

/-- **A plan that stands is kept** until a planning result comes, and every
other plan is made for {goal}. -/
theorem reactiveFallback_keepsPlan (h₀ : Kept s₀) :
    Triple (fun s : TreeState Pose Path => SamePlans s₀ s)
      (reactiveFallback params input).executeTick (PlanTold input s₀) RaisedValid := by
  refine reactiveFallback_ticks (samePlans_aboutPlans s₀).ignoresStatuses
    NotUpdated.aboutPlans.ignoresStatuses Failed.ignoresStatuses PlanMade.ignoresStatuses
    ClientsValid.ignoresStatuses planTold_ignoresStatuses (fun _ _ => raisedValid_of_ne)
    reactiveSequence_sees (computePathToPose_plansFor h₀) ?_ ?_ clientsValid_computeHalts
    fun _ hs => hs
  · refine computePathToPose_halts (fun _ _ => raisedValid_of_ne) (fun s hs => ?_)
      fun _ _ hs hs' => hs.computeHalted h₀ hs'
    rw [hs.1.computePath]
    exact h₀.compute
  · exact computePathToPose_halts (fun _ _ => raisedValid_of_ne) (fun _ hs => hs.compute)
      fun _ _ hs hs' => hs.computeHalted hs'

theorem rateController_keepsPlan (h₀ : Kept s₀) :
    Triple (fun s : TreeState Pose Path => SamePlans s₀ s)
      (rateController rateCell (some replanningPeriod) input.clock
        (reactiveFallback params input)).executeTick (PlanTold input s₀) RaisedValid :=
  rateController_ticks (samePlans_aboutPlans s₀).ignoresStatuses planTold_ignoresStatuses
    (fun _ s hs => samePlans_aboutPlans s₀ s _ hs ⟨rfl, rfl, rfl, rfl, rfl, rfl⟩)
    (fun _ s hs => planKept_aboutPlans s _ hs ⟨rfl, rfl, rfl, rfl, rfl, rfl⟩) (fun _ hf => hf)
    (fun _ hs => h₀.planKept hs) (reactiveFallback_keepsPlan h₀)

/-- What the loop over the planning part comes to. -/
def PlanningKept (input : TreeInput Path) (s₀ : TreeState Pose Path) (out : NodeStatus ⊕ Nat)
    (s : TreeState Pose Path) : Prop :=
  match out with
  | .inl .running => Kept s
  | .inl .failure => ClientsValid s
  | .inl _ => False
  | .inr _ => PlanKept input s₀ s

/-- **The planning part of a tick.** -/
theorem planning_keepsPlan (h₀ : Kept s₀) :
    Triple (· = s₀)
      (tickChildren idleChild pipelineCell (pipeline params input) 0 0 (planning params input))
      (PlanningKept input s₀) RaisedValid := by
  have hfailed : ∀ {P : TreeState Pose Path → Prop}, (∀ s, P s → ClientsValid s) →
      Triple P (BT.haltChildren (pipeline params input)) (fun _ s =>
        PlanningKept input s₀ (.inl .failure) (pipelineCell.setLastChildTicked 0 s))
        RaisedValid := fun hP =>
    triple_conseq (BT.triple_haltChildren pipeline_haltsValid) hP
      (fun _ _ hs => ⟨hs.compute, hs.follow⟩) fun _ _ he => he
  have hkept : ∀ s, SamePlans s₀ s → PlanKept input s₀ s := fun _ hs => h₀.planKept hs
  refine triple_conseq (planning_ticks (samePlans_aboutPlans s₀) (fun _ _ => raisedValid_of_ne)
    (hfailed fun s hs => (hkept s hs).toClientsValid) (fun i hi s hs =>
      ((hkept s hs).kept h₀).setLastChildTicked (Nat.le_trans hi (by decide)))
    fun skippedCount => ?_) (by rintro _ rfl; exact .refl _) (fun _ _ hs => hs) fun _ _ he => he
  refine triple_tickChild (rateController_keepsPlan h₀) (hfailed fun _ hs => hs)
    (fun s hs _ => (PlanKept.kept hs h₀).setLastChildTicked (by decide)) ?_
    (triple_pure fun _ hs => hs) (triple_start fun _ hf => hf.elim) fun _ hf => hf.elim
  exact triple_pure fun _ hs => hs.1

end Planning

end Nav3D.BtNavigator

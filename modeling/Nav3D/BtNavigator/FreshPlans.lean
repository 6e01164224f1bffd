/-
Nav3D.BtNavigator.FreshPlans — with which path a navigation starts.

Navigations that follow one another share the tree: `GlobalUpdatedGoal`
does not report a goal that equals the last one, and {path} stays on the
blackboard. But `haltTree()` halts every node, whether it is RUNNING or not,
and the `halt()` of `ComputePathToPose` clears {path}; so a navigation
starts with an empty path (`Halted`), without a plan, and `FollowPath` is
ticked for the first time when there is one
(`Nav3D.BtNavigator.NavigationTick`).
-/
import Nav3D.BtNavigator.NavigationTick
import Nav3D.BtNavigator.ServedNavigations

namespace Nav3D.BtNavigator

open Nav3D.Ros Nav3D.BehaviorTree StateInvariant Transition.System
open BT (NodeStatus StatusCell TreeNode leaf)
open Nav3D.Planner (PlannerServer ServiceBehavior)

variable {Pose Path : Type}

/-! ## Runs -/

section Runs

variable [Inhabited Path] {computeBase followBase : Nat}

/-- What the requests of `ComputePathToPose` have come to when its server has
gone on. -/
theorem Navigated.computeServed {s : TreeState Pose Path}
    (h : Navigated computeBase followBase s) (e : ServerEvent (ComputePathResult Path)) :
    Navigated computeBase followBase { s with computePath :=
      { s.computePath with requests := e.apply s.computePath.requests } } := by
  rcases h with hs | hs
  · obtain ⟨hvalid, hgrow, hlength⟩ := e.apply_spec hs.compute
    refine .inl ⟨⟨⟨hvalid, hs.follow⟩, hs.unsent, hs.followIdle, by rw [hlength]; exact hs.base,
      hs.last⟩, hs.path, hs.computing.imp id fun hrunning => ⟨hrunning.1, ?_⟩⟩
    exact hrunning.2.spun (Spun.of_requests hvalid hgrow hlength)
  · obtain ⟨hvalid, hgrow, _⟩ := e.apply_spec hs.compute
    exact .inr ⟨⟨hvalid, hs.follow⟩, hs.first.grow hgrow (.refl _)⟩

theorem Navigated.followServed {s : TreeState Pose Path}
    (h : Navigated computeBase followBase s) (e : ServerEvent ErrorResult) :
    Navigated computeBase followBase { s with followPath :=
      { s.followPath with requests := e.apply s.followPath.requests } } := by
  rcases h with hs | hs
  · obtain ⟨hvalid, _, hlength⟩ := e.apply_spec hs.follow
    exact .inl ⟨⟨⟨hs.compute, hvalid⟩, hlength.trans hs.unsent, hs.followIdle, hs.base, hs.last⟩,
      hs.path, hs.computing⟩
  · obtain ⟨hvalid, hgrow, _⟩ := e.apply_spec hs.follow
    exact .inr ⟨⟨hs.compute, hvalid⟩, hs.first.grow (.refl _) hgrow⟩

theorem Accounted.computeServed {s : TreeState Pose Path}
    (h : Accounted computeBase followBase s) (e : ServerEvent (ComputePathResult Path)) :
    Accounted computeBase followBase { s with computePath :=
      { s.computePath with requests := e.apply s.computePath.requests } } := by
  obtain ⟨hvalid, hgrow, _⟩ := e.apply_spec h.compute
  exact ⟨⟨hvalid, h.follow⟩, h.first.imp id fun hfirst => hfirst.grow hgrow (.refl _)⟩

theorem Accounted.followServed {s : TreeState Pose Path}
    (h : Accounted computeBase followBase s) (e : ServerEvent ErrorResult) :
    Accounted computeBase followBase { s with followPath :=
      { s.followPath with requests := e.apply s.followPath.requests } } := by
  obtain ⟨hvalid, hgrow, hlength⟩ := e.apply_spec h.follow
  exact ⟨⟨h.compute, hvalid⟩, h.first.imp hlength.trans fun hfirst => hfirst.grow (.refl _) hgrow⟩

variable [DecidableEq Pose] [DecidableEq Path] [Inhabited Pose]

/-- An empty path is not found valid in a tick. -/
def EmptyInvalid (_ : Navigation Pose Path) : NavigationLabel Pose Path → Prop
  | .tick input => ¬ FoundValid input default
  | _ => True

/-- What the events keep. -/
theorem navigated_rules (params : TreeParams) :
    PhaseRules params (fun s : Navigation Pose Path => EmptyInvalid s)
      (fun c f tree => Navigated c f tree) fun c f tree => Accounted c f tree where
  left _ _ _ hs := hs.accounted
  started _ _ _ goal hs hhalted := .inl ((hhalted.beforePlan hs.toClientsValid).setGoal goal)
  preempted _ _ _ goal _ hs := hs.setGoal goal
  ticked _ _ _ input hempty hs := by
    refine triple_conseq (tickOnce_navigates hs hempty) (fun _ h => h) (fun status _ hs' => ?_)
      fun _ _ he => he
    split
    · exact hs'
    · exact hs'.accounted
  halted _ _ _ := haltTree_halts
  computeServed _ _ _ e _ htree := by
    subst htree
    exact ⟨fun hs => hs.computeServed e, fun hs => hs.computeServed e⟩
  followServed _ _ _ e _ htree := by
    subst htree
    exact ⟨fun hs => hs.followServed e, fun hs => hs.followServed e⟩

end Runs

section Served

variable {K : Type} [Field K] [LinearOrder K] [DecidableEq Pose] [Inhabited Pose]
  {fns : TruncatePathLocal.Functions K} {params : TreeParams}
  {C : Navigation Pose (TruncatePathLocal.Path K) → ServedLabel Pose K → Prop}
  {s : Navigation Pose (TruncatePathLocal.Path K)}

/-- In every phase of a served navigation. -/
theorem inPhase_of_reach (h : (servedSystem fns params).Reach C s) :
    InPhase (fun c f tree => Navigated c f tree) (fun c f tree => Accounted c f tree) s := by
  refine h.invariant (InPhase (fun c f tree => Navigated c f tree)
    fun c f tree => Accounted c f tree) ?_ fun _ l _ hs _ hstep => ?_
  · rintro _ ⟨goal, rfl⟩
    exact .initial goal ⟨⟨fun _ _ hr => (by cases hr), fun _ _ hr => (by cases hr)⟩, .inl rfl⟩
  · refine hs.step (navigated_rules params) ?_ hstep
    cases l with
    | tick input => exact served_not_foundValid fns input
    | _ => trivial

/-- **Each navigation starts from a fresh plan.** In every run, with any
navigations before, which may have ended in any way and with the robot
anywhere: the path in the first goal that `FollowPath` has sent since the
navigation was accepted is what has come of a `ComputePathToPose` request
that was sent since then. -/
theorem starts_from_fresh_plan (h : (servedSystem fns params).Reach C s)
    {first : Request (FollowPathGoal (TruncatePathLocal.Path K)) ErrorResult}
    (hfirst : s.tree.followPath.requests[s.followBase]? = some first) :
    ReportedSince s.computeBase s.tree.computePath.requests first.goal.path := by
  rcases ((inPhase_of_reach h).always (navigated_rules params)).first with
    hlength | ⟨r, hr, hreported⟩
  · rw [← hlength, List.getElem?_eq_none (Nat.le_refl _)] at hfirst
    cases hfirst
  · rw [hfirst] at hr
    cases hr
    exact hreported

end Served

/-! ## Two navigations with equal goals -/

/-- A tick or halt at the time `now`, in which nothing arrives and neither
the robot's pose nor the planner server is there. -/
def quietServed (now : Int) : ServedInput ℚ where
  clock := ⟨now, now, now⟩
  controller := none
  planner := none
  getCurrentPose _ _ _ := none
  server := none
  compute := ⟨silence, true, silence, []⟩
  computeHalt := ⟨[], [], []⟩
  follow := ⟨silence, true, silence, []⟩
  followHalt := ⟨[], [], []⟩

/-- A planner that does not check paths. -/
def uncheckedPlanner : PlannerServer where
  plannerIds := ["Moveit"]
  plannerIds_ne := List.cons_ne_nil _ _
  pathValidityPlannerId := ""
  planners _ := some .other

/-- Its service is never asked. -/
def noService (_ : Nat) : ServiceBehavior ℚ := ⟨.ok (), .ok none, .ok (), fun _ => none⟩

/-- The robot is at `x` on the first axis, and every path that is not empty is
valid. -/
def servedAt (x : ℚ) (now : Int) : ServedInput ℚ :=
  { quietServed now with
    getCurrentPose := fun _ _ _ => some (TruncatePathLocal.axisPose x)
    server := some (uncheckedPlanner, noService) }

/-- Navigations on one axis, to goals that are numbers. -/
abbrev axisNavigations :
    Transition.System (Navigation Nat (TruncatePathLocal.Path ℚ)) (ServedLabel Nat ℚ) :=
  servedSystem TruncatePathLocal.axisFunctions defaultParams

/-- A navigation to 10 along a path of two poses, which is checked after more
than a second and followed to its end, and a second one from there. -/
def sameGoalTwice : List (ServedLabel Nat ℚ) :=
  [.goalReceived 10,
    .tick { servedAt 0 0 with
      compute := ⟨accepted 0, true, silence,
        succeeded 0 ⟨TruncatePathLocal.axisPath [0, 1], default⟩⟩
      follow := ⟨accepted 0, true, silence, []⟩ },
    .tick (servedAt 0 1500),
    .tick { servedAt 1 1600 with follow := ⟨silence, true, silence, succeeded 0 default⟩ },
    .haltAllActions (quietServed 1700),
    .goalReceived 10,
    .tick { servedAt 1 1800 with
      compute := ⟨accepted 1, true, silence,
        succeeded 1 ⟨TruncatePathLocal.axisPath [1, 2], default⟩⟩
      follow := ⟨accepted 1, true, silence, []⟩ }]

/-- The first goal of the second navigation has been sent, and nothing was
planned while the first path was valid. -/
def secondStarted (s : Navigation Nat (TruncatePathLocal.Path ℚ)) : Bool :=
  s.computeBase == 1 && s.tree.followPath.requests[s.followBase]?.any fun r =>
    r.goal.path == TruncatePathLocal.axisPath [1, 2]

theorem starts_from_fresh_plan_sameGoal : ∃ s first,
    axisNavigations.Reach anyStep s ∧ s.computeBase = 1 ∧
    s.tree.followPath.requests[s.followBase]? = some first ∧
    first.goal.path = TruncatePathLocal.axisPath [1, 2] ∧
    ReportedSince s.computeBase s.tree.computePath.requests first.goal.path := by
  obtain ⟨s, hr, hs⟩ := exists_reach_of_runWhile (S := axisNavigations) anyStep sameGoalTwice
    secondStarted ⟨10, rfl⟩ (by decide +kernel)
  rw [secondStarted, Bool.and_eq_true, beq_iff_eq, Option.any_eq_true] at hs
  obtain ⟨hbase, first, hfirst, hpath⟩ := hs
  exact ⟨s, first, hr, hbase, hfirst, beq_iff_eq.mp hpath, starts_from_fresh_plan hr hfirst⟩

end Nav3D.BtNavigator

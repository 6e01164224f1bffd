/-
Nav3D.Planner.PlannerActivation — `computePlan()` while its node is
activated and deactivated (`PlannerServer::on_activate`,
`PlannerServer::on_deactivate`, `planner_server.cpp`).

The node has been configured and is not cleaned up. The lifecycle callbacks
are cut between the members that they turn on or off: the action server
spins in a thread of its own, so its parties come in everywhere. The order
in which a callback meets the planners is that of an `unordered_map`, any
order of its keys. The bond and the `is_path_valid` service are left out.

`on_activate` turns the action server on before the planners, `on_deactivate`
turns it off, waits for its worker and then turns the planners off. So a
planner that is not active is asked for a path only during `on_activate`
(`planner_asked_active`); an inactive `MoveItGlobalPlanner` returns a path
without poses, with which the goal is aborted.
-/
import Nav3D.Planner.CreatePlan
import Nav3D.Planner.PlannedPaths

namespace Nav3D.Planner

open Nav3D.Ros Nav3D.Util
open Nav3D.Px4 (Double)
open Nav3D.BehaviorTree.ConvertFromString (PoseStamped Path)
open Nav3D.BtNavigator (ComputePathResult)

/-! ## The node -/

/-- The configuration of a node: `on_configure` has loaded planners under
the listed ids only. -/
structure NodeConfig (D : Type) extends PlanConfig D where
  listed : ∀ id, (planners.planners id).isSome = true → id ∈ planners.plannerIds

/-- Where the lifecycle thread is. -/
inductive NodePc where
  | inactive
  /-- In `on_activate`, the action server is on, these planners are not. -/
  | activating (rest : List String)
  | active
  /-- In `action_server_pose_->deactivate()`. -/
  | deactivating
  /-- In `on_deactivate`, the action server is off, these planners are not. -/
  | stopping (rest : List String)
  deriving DecidableEq

/-- What `computePlan()` has used. -/
inductive NodeEvent where
  /-- `createPlan` of the planner under `id`. -/
  | asked (id : String) (active : Bool) (pc : NodePc)
  /-- `publishPlan`, with `plan_publisher_->is_activated()`. -/
  | published (activated : Bool)
  deriving DecidableEq

/-- The node with its action server. `events` is not a member. -/
structure PlannerNode (D : Type) where
  plan : PlanState D
  pc : NodePc
  active : String → Bool
  publisher : Bool
  events : List NodeEvent

/-- A step of another party or of `computePlan()`, or the next one of the
lifecycle thread. -/
inductive NodeLabel (D : Type) where
  | party (l : CallbackLabel (PlanGoal D) (ComputePathResult (Path D)) (PlanLabel D))
  | onActivate (order : List String)
  | activatePlanner
  | activated
  | onDeactivate
  | deactivateReturn (order : List String)
  | deactivatePlanner
  | deactivated

section Node

variable {D : Type}

/-- The calls of the action server that the lifecycle thread makes. -/
def isLifecycleCall :
    CallbackLabel (PlanGoal D) (ComputePathResult (Path D)) (PlanLabel D) → Bool
  | .server .activate => true
  | .server .deactivate => true
  | .server .deactivateReturn => true
  | _ => false

/-- The id that `getPlannerOrThrow` looks up. -/
def effectiveId (config : PlanConfig D) (plannerId : String) : String :=
  if plannerId = "" then config.planners.plannerIds.head config.planners.plannerIds_ne
  else plannerId

/-- What `createPlan` may do: an inactive `MoveItGlobalPlanner` returns a
path without poses. -/
def canAnswer (active : Bool) :
    GlobalPlanner → Except (PlanException × String) (Path D) → Bool
  | .moveIt _, .ok path => active || path.poses.isEmpty
  | .moveIt _, .error _ => active
  | .other, _ => true

/-- The outcome of a step is one that its planner can have. -/
def answers (config : PlanConfig D) (s : PlannerNode D) :
    CallbackLabel (PlanGoal D) (ComputePathResult (Path D)) (PlanLabel D) → Bool
  | .own (.createPlan outcome) =>
    match s.plan.members.pc with
    | .planning goal _ _ =>
      (config.planners.planners (effectiveId config goal.plannerId)).all fun planner =>
        canAnswer (s.active (effectiveId config goal.plannerId)) planner outcome
    | _ => true
  | _ => true

/-- What a step of `computePlan()` uses. -/
def used (config : PlanConfig D) (s : PlannerNode D) :
    CallbackLabel (PlanGoal D) (ComputePathResult (Path D)) (PlanLabel D) → List NodeEvent
  | .own (.createPlan _) =>
    match s.plan.members.pc with
    | .planning goal _ _ =>
      let id := effectiveId config goal.plannerId
      if (config.planners.planners id).isSome then [.asked id (s.active id) s.pc] else []
    | _ => []
  | .own (.publish _) => [.published s.publisher]
  | _ => []

/-- One step. -/
def nodeStep (config : PlanConfig D) (s : PlannerNode D) : NodeLabel D → Option (PlannerNode D)
  | .party l =>
    if isLifecycleCall l = false ∧ answers config s l = true then
      ((computePlan config).step s.plan l).map fun plan =>
        { s with plan := plan, events := used config s l ++ s.events }
    else none
  -- `plan_publisher_->on_activate()` and `action_server_pose_->activate()`
  | .onActivate order =>
    if s.pc = .inactive ∧ order.Perm config.planners.plannerIds.dedup then
      ((computePlan config).step s.plan (.server .activate)).map fun plan =>
        { s with plan := plan, publisher := true, pc := .activating order }
    else none
  | .activatePlanner =>
    match s.pc with
    | .activating (id :: rest) =>
      some { s with active := Function.update s.active id true, pc := .activating rest }
    | _ => none
  | .activated => if s.pc = .activating [] then some { s with pc := .active } else none
  | .onDeactivate =>
    if s.pc = .active then
      ((computePlan config).step s.plan (.server .deactivate)).map fun plan =>
        { s with plan := plan, pc := .deactivating }
    else none
  -- `deactivate()` returns, and `plan_publisher_->on_deactivate()`
  | .deactivateReturn order =>
    if s.pc = .deactivating ∧ order.Perm config.planners.plannerIds.dedup then
      ((computePlan config).step s.plan (.server .deactivateReturn)).map fun plan =>
        { s with plan := plan, publisher := false, pc := .stopping order }
    else none
  | .deactivatePlanner =>
    match s.pc with
    | .stopping (id :: rest) =>
      some { s with active := Function.update s.active id false, pc := .stopping rest }
    | _ => none
  | .deactivated => if s.pc = .stopping [] then some { s with pc := .inactive } else none

/-- As `on_configure` leaves it. -/
def configuredNode (config : PlanConfig D) : PlannerNode D :=
  ⟨(computePlan config).initialState, .inactive, fun _ => false, false, []⟩

def plannerNode (config : PlanConfig D) : Transition.System (PlannerNode D) (NodeLabel D) where
  init := fun s => s = configuredNode config
  step := nodeStep config

/-! ## What a step uses -/

/-- The planners that the node has not activated yet. -/
def NodePc.waiting : NodePc → List String
  | .activating rest => rest
  | _ => []

/-- The action server is on, or its `deactivate()` has not returned. -/
def NodePc.serving : NodePc → Bool
  | .inactive => false
  | .stopping _ => false
  | _ => true

/-- A planner is active when it is asked, or `on_activate` has not come to
it; the publisher is activated. -/
def NodeEvent.Served : NodeEvent → Prop
  | .asked id active pc => active = true ∨ id ∈ pc.waiting
  | .published activated => activated = true

/-- What an inactive planner returns. -/
theorem canAnswer_createPlan [Double D] (fns : YawFunctions D) (p : MoveItGlobalPlanner)
    (settings : PlanSettings D) (env : PlanEnvironment D) (goal : PoseStamped D)
    (e : PlanException) :
    canAnswer p.active (.moveIt p)
      ((p.createPlan fns settings env goal).mapError fun what => (e, what)) = true := by
  cases hactive : p.active with
  | true => cases p.createPlan fns settings env goal <;> rfl
  | false =>
    have hempty : p.createPlan fns settings env goal =
        .ok ⟨⟨if p.node then env.now else 0, settings.globalFrame⟩, []⟩ := by
      simp [MoveItGlobalPlanner.createPlan, hactive, pure, Except.pure]
    rw [hempty]
    rfl

/-- `getPlannerOrThrow` finds a listed planner. -/
theorem NodeConfig.effectiveId_mem (config : NodeConfig D) {plannerId : String}
    (h : (config.planners.planners (effectiveId config.toPlanConfig plannerId)).isSome = true) :
    effectiveId config.toPlanConfig plannerId ∈ config.planners.plannerIds :=
  config.listed _ h

/-- A party that is not the lifecycle thread leaves the server on or off. -/
theorem lifecycle_effect {config : PlanConfig D} {s s' : PlanState D}
    {l : CallbackLabel (PlanGoal D) (ComputePathResult (Path D)) (PlanLabel D)}
    (h : CallbackProgram.CallbackEffect (computePlan config) s l s')
    (hl : isLifecycleCall l = false) :
    s'.server.lifecycle = s.server.lifecycle ∧
      s'.server.server.serverActive = s.server.server.serverActive := by
  have hserver : ∀ {k : Label (PlanGoal D) (ComputePathResult (Path D))} {server},
      Effect s.server k server → isLifecycleCall (.server k : CallbackLabel (PlanGoal D)
        (ComputePathResult (Path D)) (PlanLabel D)) = false →
      server.lifecycle = s.server.lifecycle ∧
        server.server.serverActive = s.server.server.serverActive := by
    intro k server he hk
    refine ⟨?_, congrArg Prod.fst (activation_effect he ?_ ?_)⟩
    · cases he with
      | activated _ => cases hk
      | deactivated _ => cases hk
      | deactivateReturned _ _ => cases hk
      | _ => rfl
    · rintro rfl
      cases hk
    · rintro rfl
      cases hk
  cases h with
  | bystander _ _ he => exact hserver he hl
  | entered _ he => exact hserver he hl
  | passed _ he => exact hserver he hl
  | returned _ he => exact hserver he hl
  | threw _ he => exact hserver he hl
  | moved _ => exact ⟨rfl, rfl⟩
  | called hnext =>
    next c =>
    exact hserver (.called c) rfl

/-! ## What holds in every state -/

/-- A node that is reached: its action server is off while it does not
serve, the planners it does not wait for are active while it does, and what
has been used was there. -/
structure NodeInv (config : NodeConfig D) (s : PlannerNode D) : Prop where
  callback : CallbackProgram.CallbackInv (computePlan config.toPlanConfig) s.plan
  off : s.pc.serving = false →
    s.plan.server.server.serverActive = false ∧ s.plan.server.lifecycle ≠ .deactivating
  active : s.pc.serving = true → ∀ id ∈ config.planners.plannerIds,
    id ∉ s.pc.waiting → s.active id = true
  publisher : s.pc.serving = true → s.publisher = true
  served : ∀ e ∈ s.events, e.Served

/-- The worker is in `computePlan()` only while the node serves. -/
theorem NodeInv.idle {config : NodeConfig D} {s : PlannerNode D} (h : NodeInv config s)
    (hoff : s.pc.serving = false) : s.plan.members.pc.isIdle = true := by
  by_contra hrunning
  have hrunning' : s.plan.members.pc.isIdle = false := by simpa using hrunning
  obtain ⟨hinactive, hlifecycle⟩ := h.off hoff
  rcases h.callback.active.active (h.callback.inCallback.mp hrunning') with hactive | hdeactivating
  · rw [hinactive] at hactive
    cases hactive
  · exact hlifecycle hdeactivating

theorem nodeInv_configured (config : NodeConfig D) :
    NodeInv config (configuredNode config.toPlanConfig) where
  callback := CallbackProgram.callbackInv_initial _
  off _ := ⟨rfl, nofun⟩
  active := nofun
  publisher := nofun
  served := nofun

/-- What `computePlan()` uses in one step. -/
theorem used_served {config : NodeConfig D} {s : PlannerNode D} {plan : PlanState D}
    {l : CallbackLabel (PlanGoal D) (ComputePathResult (Path D)) (PlanLabel D)}
    (h : NodeInv config s) (hstep : (computePlan config.toPlanConfig).step s.plan l = some plan) :
    ∀ e ∈ used config.toPlanConfig s l, e.Served := by
  -- the callback steps, so the node serves
  have hserving : ∀ k, l = .own k → s.pc.serving = true := by
    rintro k rfl
    obtain ⟨⟨x, c⟩, hnext, -⟩ := Option.map_eq_some_iff.mp hstep
    have hrunning := (planMoves_of_next hnext).notIdle.1
    by_contra hoff
    rw [h.idle (by simpa using hoff)] at hrunning
    cases hrunning
  intro e he
  cases l with
  | server k => cases he
  | own k =>
    have hon := hserving k rfl
    cases k with
    | createPlan outcome =>
      simp only [used] at he
      split at he
      · next goal start goalPose _ =>
        split at he
        · next hregistered =>
          rw [List.mem_singleton] at he
          subst he
          by_cases hwaiting : effectiveId config.toPlanConfig goal.plannerId ∈ s.pc.waiting
          · exact .inr hwaiting
          · exact .inl (h.active hon _ (config.effectiveId_mem hregistered) hwaiting)
        · cases he
      · cases he
    | publish thrown =>
      simp only [used, List.mem_singleton] at he
      subst he
      exact h.publisher hon
    | _ => cases he

/-- A step of the action server that is no step of the callback. -/
theorem callbackInv_server {config : PlanConfig D} {s s' : PlanState D}
    {l : CallbackLabel (PlanGoal D) (ComputePathResult (Path D)) (PlanLabel D)}
    (h : CallbackProgram.CallbackInv (computePlan config) s)
    (hstep : (computePlan config).step s l = some s') :
    CallbackProgram.CallbackInv (computePlan config) s' :=
  CallbackProgram.callbackInv_effect h (CallbackProgram.effect_of_step h.server hstep)

theorem nodeInv_step {config : NodeConfig D} {s s' : PlannerNode D} {l : NodeLabel D}
    (h : NodeInv config s) (hstep : nodeStep config.toPlanConfig s l = some s') :
    NodeInv config s' := by
  cases l with
  | party l =>
    simp only [nodeStep] at hstep
    split at hstep
    · next hguard =>
      obtain ⟨plan, hplan, rfl⟩ := Option.map_eq_some_iff.mp hstep
      obtain ⟨hlifecycle, hserver⟩ := lifecycle_effect
        (CallbackProgram.effect_of_step h.callback.server hplan) hguard.1
      refine ⟨callbackInv_server h.callback hplan, fun hoff => ?_, h.active, h.publisher, ?_⟩
      · show plan.server.server.serverActive = false ∧ plan.server.lifecycle ≠ .deactivating
        rw [hlifecycle, hserver]
        exact h.off hoff
      · intro e he
        rcases List.mem_append.mp he with hnew | hold
        · exact used_served h hplan e hnew
        · exact h.served e hold
    · cases hstep
  | onActivate order =>
    simp only [nodeStep] at hstep
    split at hstep
    · next hguard =>
      obtain ⟨plan, hplan, rfl⟩ := Option.map_eq_some_iff.mp hstep
      refine ⟨callbackInv_server h.callback hplan, nofun, fun _ id hid hnot => ?_, fun _ => rfl,
        h.served⟩
      -- every planner is still to come
      exact absurd (hguard.2.mem_iff.mpr (List.mem_dedup.mpr hid)) hnot
    · cases hstep
  | activatePlanner =>
    simp only [nodeStep] at hstep
    split at hstep
    · next id rest hpc =>
      cases hstep
      have hon : s.pc.serving = true := by rw [hpc]; rfl
      refine ⟨h.callback, nofun, fun _ id' hid' hnot => ?_, fun _ => h.publisher hon, h.served⟩
      show Function.update s.active id true id' = true
      by_cases hid : id' = id
      · rw [hid, Function.update_self]
      · rw [Function.update_of_ne hid]
        refine h.active hon id' hid' ?_
        rw [hpc]
        exact List.not_mem_cons_of_ne_of_not_mem hid hnot
    · cases hstep
  | activated =>
    simp only [nodeStep] at hstep
    split at hstep
    · next hpc =>
      cases hstep
      have hon : s.pc.serving = true := by rw [hpc]; rfl
      refine ⟨h.callback, nofun, fun _ id hid _ => ?_, fun _ => h.publisher hon, h.served⟩
      refine h.active hon id hid ?_
      rw [hpc]
      exact List.not_mem_nil
    · cases hstep
  | onDeactivate =>
    simp only [nodeStep] at hstep
    split at hstep
    · next hpc =>
      obtain ⟨plan, hplan, rfl⟩ := Option.map_eq_some_iff.mp hstep
      have hon : s.pc.serving = true := by rw [hpc]; rfl
      refine ⟨callbackInv_server h.callback hplan, nofun, fun _ id hid _ => ?_,
        fun _ => h.publisher hon, h.served⟩
      refine h.active hon id hid ?_
      rw [hpc]
      exact List.not_mem_nil
    · cases hstep
  | deactivateReturn order =>
    simp only [nodeStep] at hstep
    split at hstep
    · obtain ⟨plan, hplan, rfl⟩ := Option.map_eq_some_iff.mp hstep
      have hinv := callbackInv_server h.callback hplan
      refine ⟨hinv, fun _ => ?_, nofun, nofun, h.served⟩
      have hserver : Effect s.plan.server .deactivateReturn plan.server := by
        cases CallbackProgram.effect_of_step h.callback.server hplan with
        | bystander _ _ he => exact he
      generalize plan.server = server at hserver
      cases hserver with
      | deactivateReturned hdeactivating _ => exact ⟨h.callback.quiet hdeactivating, nofun⟩
    · cases hstep
  | deactivatePlanner =>
    simp only [nodeStep] at hstep
    split at hstep
    · next id rest hpc =>
      cases hstep
      exact ⟨h.callback, fun _ => h.off (by rw [hpc]; rfl), nofun, nofun, h.served⟩
    · cases hstep
  | deactivated =>
    simp only [nodeStep] at hstep
    split at hstep
    · next hpc =>
      cases hstep
      exact ⟨h.callback, fun _ => h.off (by rw [hpc]; rfl), nofun, nofun, h.served⟩
    · cases hstep

theorem nodeInv_of_reach {config : NodeConfig D} {C : PlannerNode D → NodeLabel D → Prop}
    {s : PlannerNode D} (h : (plannerNode config.toPlanConfig).Reach C s) : NodeInv config s := by
  refine h.invariant (NodeInv config) ?_ ?_
  · intro s hs
    rw [show s = configuredNode config.toPlanConfig from hs]
    exact nodeInv_configured config
  · intro s l s' hs _ hstep
    exact nodeInv_step hs hstep

/-- **Planners that are asked.** In every interleaving of goals,
cancellations, `computePlan()` and any number of activations and
deactivations, also with missed deadlines: a planner that is asked for a
path is active, or `on_activate` has turned the action server on and has not
come to the planner. A path is published with the publisher activated. While
the node is inactive or turns its planners off, the worker is not in
`computePlan()`. -/
theorem planner_asked_active {config : NodeConfig D} {C : PlannerNode D → NodeLabel D → Prop}
    {s : PlannerNode D} (h : (plannerNode config.toPlanConfig).Reach C s) :
    (∀ id active pc, .asked id active pc ∈ s.events →
      active = true ∨ ∃ rest, pc = .activating rest ∧ id ∈ rest) ∧
    (∀ activated, .published activated ∈ s.events → activated = true) ∧
    (s.pc = .inactive ∨ (∃ rest, s.pc = .stopping rest) →
      s.plan.members.pc.isIdle = true) := by
  have hinv := nodeInv_of_reach h
  refine ⟨fun id active pc hasked => ?_, fun activated hpublished => ?_, fun hoff => ?_⟩
  · refine (hinv.served _ hasked).imp_right fun hwaiting => ?_
    cases pc with
    | activating rest => exact ⟨rest, rfl, hwaiting⟩
    | _ => exact absurd hwaiting List.not_mem_nil
  · exact hinv.served _ hpublished
  · refine hinv.idle ?_
    rcases hoff with hpc | ⟨rest, hpc⟩
    · rw [hpc]
      rfl
    · rw [hpc]
      rfl

end Node

/-! ## A run -/

theorem gridBased_ne_nil : ["GridBased"] ≠ [] := by decide

/-- One `MoveItGlobalPlanner`. -/
def moveItConfig : NodeConfig Int where
  planners := ⟨["GridBased"], gridBased_ne_nil, "", fun id =>
    if id = "GridBased" then some (.moveIt ⟨false, true, none, 1, 1, 0⟩) else none⟩
  globalFrame := "map"
  tf := ⟨fun _ _ => none, fun _ => some ⟨⟨0, "map"⟩, ⟨0, 0, 0⟩, ⟨0, 0, 0, 1⟩⟩⟩
  listed := by
    intro id h
    by_cases hid : id = "GridBased"
    · rw [hid]
      exact List.mem_singleton_self _
    · simp [hid] at h

/-- `computePlan()` up to the question to the planner, and after it. -/
def planUpTo (outcome : Except (PlanException × String) (Path Int)) : List (NodeLabel Int) :=
  [.party (.own .getCurrentGoal), .party (.own .testActive), .party (.own .testCancel),
    .party (.own .testPreempt), .party (.own .readGoal), .party (.own .cancelCheck),
    .party (.own (.locate 0 0 0)), .party (.own .cancelCheck),
    .party (.own (.createPlan outcome)), .party (.own .cancelCheck)]

/-- Goal 0 comes before the planner is active and is aborted, goal 1 comes
after that and gets its path, and the node is deactivated. -/
def activationRun : List (NodeLabel Int) :=
  List.flatten
    [[.onActivate ["GridBased"], .party (.server (.goalRequest 0 planAbove)),
        .party (.server (.goalAccepted 0)), .party (.server (.testGuard 0))],
      planUpTo (.ok ⟨⟨0, "map"⟩, []⟩),
      [.party (.own .terminateCurrent), .activatePlanner, .activated,
        .party (.server (.goalRequest 1 planAbove)), .party (.server (.goalAccepted 1)),
        .party (.server (.callbackReturn 0)), .party (.server (.endOfIteration 0)),
        .party (.server (.testGuard 0))],
      planUpTo (.ok ⟨⟨0, "map"⟩, [above]⟩),
      [.party (.own (.publish none)), .party (.own .succeededCurrent),
        .party (.server (.callbackReturn 0)), .party (.server (.endOfIteration 0)),
        .onDeactivate, .party (.server (.workerExit 0)), .deactivateReturn ["GridBased"]]]

theorem planner_asked_active_early : ∃ s : PlannerNode Int,
    s.plan.server.server.results.map (fun r => (r.1, r.2.1, r.2.2.error.errorCode)) =
      [(0, .aborted, 208), (1, .succeeded, 0)] ∧
    s.events = [.published true, .asked "GridBased" true .active,
      .asked "GridBased" false (.activating ["GridBased"])] ∧
    s.plan.members.pc.isIdle = true ∧
    ∀ id active pc, .asked id active pc ∈ s.events →
      active = true ∨ ∃ rest, pc = .activating rest ∧ id ∈ rest := by
  obtain ⟨s, hr, hs⟩ := Transition.System.exists_reach_of_runWhile
    (S := plannerNode moveItConfig.toPlanConfig) Transition.System.anyStep activationRun
    (fun s => decide (s.plan.server.server.results.map
        (fun r => (r.1, r.2.1, r.2.2.error.errorCode)) =
          [(0, .aborted, 208), (1, .succeeded, 0)]) &&
      decide (s.events = [.published true, .asked "GridBased" true .active,
        .asked "GridBased" false (.activating ["GridBased"])]) &&
      decide (s.pc = .stopping ["GridBased"]))
    rfl (by decide +kernel)
  simp only [Bool.and_eq_true, decide_eq_true_eq] at hs
  obtain ⟨hasked, -, hidle⟩ := planner_asked_active hr
  exact ⟨s, hs.1.1, hs.1.2, hidle (.inr ⟨_, hs.2⟩), hasked⟩

end Nav3D.Planner

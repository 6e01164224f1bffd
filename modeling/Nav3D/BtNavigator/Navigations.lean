/-
Nav3D.BtNavigator.Navigations — navigations that follow one another on one
tree, and what holds during one of them.

The goals that `FollowPath` sends are counted: the first goal of a
navigation is the first one sent since it was accepted. Until it is sent
there is no plan (`BeforePlan`), planning has failed (`PlanFailed`) or
succeeded (`PlanReady`); then it has been sent (`FirstSent`).
-/
import Nav3D.BtNavigator.TreeHalts

namespace Nav3D.BtNavigator

open Nav3D.Ros Nav3D.BehaviorTree StateInvariant Transition.System
open BT (NodeStatus StatusCell TreeNode leaf)

variable {Pose Path : Type}

/-! ## Navigations one after the other -/

/-- Where `executeCallback` stands. -/
inductive NavigationPhase where
  /-- No goal is executed. -/
  | idle
  /-- In the loop of `BehaviorTreeEngine::run`. -/
  | running
  /-- `run` has returned; `haltAllActions` is next. -/
  | returned
  deriving DecidableEq

/-- The tree and, for the record, how many requests the two action nodes had
sent when the navigation was accepted. -/
structure Navigation (Pose Path : Type) where
  tree : TreeState Pose Path
  phase : NavigationPhase
  computeBase : Nat
  followBase : Nat

/-- What happens to a navigation, with what comes from outside in a tick or
a halt. -/
inductive NavigationEvent (Pose Path Input : Type) where
  /-- A goal is accepted; the tree is not reloaded. -/
  | goalReceived (goal : Pose)
  /-- A preempting goal goes on with the tree as it is. -/
  | preempt (goal : Pose)
  | tick (input : Input)
  /-- `run` is asked to cancel. -/
  | cancel (input : Input)
  /-- `run` ends because `rclcpp::ok()` is false or `onLoop` has thrown. -/
  | leave
  | haltAllActions (input : Input)
  | computeServer (e : ServerEvent (ComputePathResult Path))
  | followServer (e : ServerEvent ErrorResult)

abbrev NavigationLabel (Pose Path : Type) := NavigationEvent Pose Path (TreeInput Path)

def NavigationEvent.map {Input Input' : Type} (f : Input → Input') :
    NavigationEvent Pose Path Input → NavigationEvent Pose Path Input'
  | .goalReceived goal => .goalReceived goal
  | .preempt goal => .preempt goal
  | .tick input => .tick (f input)
  | .cancel input => .cancel (f input)
  | .leave => .leave
  | .haltAllActions input => .haltAllActions (f input)
  | .computeServer e => .computeServer e
  | .followServer e => .followServer e

section System

variable [DecidableEq Pose] [DecidableEq Path] [Inhabited Pose] [Inhabited Path]

/-- One round of the loop in `run`, which goes on while the tree is
RUNNING. -/
def runTick (params : TreeParams) (input : TreeInput Path) (s : Navigation Pose Path) :
    Option (Navigation Pose Path) :=
  match (tickOnce params input).run s.tree with
  | .ok status tree =>
    some { s with tree := tree, phase := if status = .running then .running else .returned }
  | .error .invalidStatus tree => some { s with tree := tree, phase := .returned }
  | .error _ _ => none

def navigationStep (params : TreeParams) (s : Navigation Pose Path) :
    NavigationLabel Pose Path → Option (Navigation Pose Path)
  | .goalReceived goal =>
    if s.phase = .idle then
      (treeStep params s.tree (.goal goal)).map fun tree =>
        { tree := tree
          phase := .running
          computeBase := s.tree.computePath.requests.length
          followBase := s.tree.followPath.requests.length }
    else none
  | .preempt goal =>
    if s.phase = .running then
      (treeStep params s.tree (.goal goal)).map fun tree => { s with tree := tree }
    else none
  | .tick input => if s.phase = .running then runTick params input s else none
  | .cancel input =>
    if s.phase = .running then
      (treeStep params s.tree (.halt input)).map fun tree =>
        { s with tree := tree, phase := .returned }
    else none
  | .leave => if s.phase = .running then some { s with phase := .returned } else none
  | .haltAllActions input =>
    if s.phase = .returned then
      match (haltTree params input).run s.tree with
      | .ok _ tree => some { s with tree := tree, phase := .idle }
      -- the exception leaves `executeCallback`
      | .error _ _ => none
    else none
  | .computeServer e =>
    (treeStep params s.tree (.computeServer e)).map fun tree => { s with tree := tree }
  | .followServer e =>
    (treeStep params s.tree (.followServer e)).map fun tree => { s with tree := tree }

/-- Any sequence of navigations with the default tree. -/
def navigationSystem (params : TreeParams) :
    Transition.System (Navigation Pose Path) (NavigationLabel Pose Path) where
  init := fun s => ∃ goal, s = ⟨.initial goal, .idle, 0, 0⟩
  step := navigationStep params

end System

/-! ## The first goal -/

/-- The first goal that `FollowPath` has sent since `followBase`. -/
def FirstReported [Inhabited Path] (computeBase followBase : Nat) (s : TreeState Pose Path) :
    Prop :=
  ∃ r, s.followPath.requests[followBase]? = some r ∧
    ReportedSince computeBase s.computePath.requests r.goal.path

section Paths

variable [Inhabited Path] {computeBase followBase : Nat} {s s' : TreeState Pose Path}

theorem FirstReported.grow (h : FirstReported computeBase followBase s)
    (hcompute : RequestsGrow s.computePath.requests s'.computePath.requests)
    (hfollow : RequestsGrow s.followPath.requests s'.followPath.requests) :
    FirstReported computeBase followBase s' := by
  obtain ⟨r, hr, hreported⟩ := h
  obtain ⟨r', hr', hg⟩ := hfollow _ r hr
  exact ⟨r', hr', by rw [hg.goal]; exact hreported.grow hcompute⟩

/-! ## What holds during a navigation -/

/-- The requests of both clients are valid. -/
structure ClientsValid (s : TreeState Pose Path) : Prop where
  compute : RequestsValid s.computePath.requests
  follow : RequestsValid s.followPath.requests

/-- The first goal has been sent. -/
structure FirstSent (computeBase followBase : Nat) (s : TreeState Pose Path) : Prop extends
    ClientsValid s where
  first : FirstReported computeBase followBase s

/-- What holds at any time: if a first goal has been sent, it is for a path
planned since. -/
structure Accounted (computeBase followBase : Nat) (s : TreeState Pose Path) : Prop extends
    ClientsValid s where
  first : s.followPath.requests.length = followBase ∨ FirstReported computeBase followBase s

/-- No goal has been sent yet. -/
structure Unsent (computeBase followBase : Nat) (s : TreeState Pose Path) : Prop extends
    ClientsValid s where
  unsent : s.followPath.requests.length = followBase
  followIdle : s.followPath.status = .idle
  base : computeBase ≤ s.computePath.requests.length
  /-- The pipeline has not come to `FollowPath`. -/
  last : s.lastChildTicked ≤ 2

/-- There is no plan yet, and {path} is empty. `ComputePathToPose` follows a
request sent in this navigation. -/
structure BeforePlan (computeBase followBase : Nat) (s : TreeState Pose Path) : Prop extends
    Unsent computeBase followBase s where
  path : readPath s = default
  computing : s.computePath.status = .idle ∨
    s.computePath.status = .running ∧ Aligned computeBase s.computePath

/-- `ComputePathToPose` has failed. -/
structure PlanFailed (computeBase followBase : Nat) (s : TreeState Pose Path) : Prop extends
    Unsent computeBase followBase s where
  path : readPath s = default

/-- `ComputePathToPose` has succeeded. -/
structure PlanReady (computeBase followBase : Nat) (s : TreeState Pose Path) : Prop extends
    Unsent computeBase followBase s where
  path : ReportedSince computeBase s.computePath.requests (readPath s)
  computeRests : s.computePath.status ≠ .running

/-- The tree has been halted. -/
structure Halted (s : TreeState Pose Path) : Prop where
  path : readPath s = default
  computeIdle : s.computePath.status = .idle
  followIdle : s.followPath.status = .idle
  last : s.lastChildTicked = 0

theorem FirstSent.accounted (h : FirstSent computeBase followBase s) :
    Accounted computeBase followBase s := ⟨h.toClientsValid, .inr h.first⟩

theorem Unsent.accounted (h : Unsent computeBase followBase s) :
    Accounted computeBase followBase s := ⟨h.toClientsValid, .inl h.unsent⟩

theorem BeforePlan.failed (h : BeforePlan computeBase followBase s) :
    PlanFailed computeBase followBase s := ⟨h.toUnsent, h.path⟩

/-- A navigation that begins. -/
theorem Halted.beforePlan (h : Halted s) (hvalid : ClientsValid s) :
    BeforePlan s.computePath.requests.length s.followPath.requests.length s :=
  ⟨⟨hvalid, rfl, h.followIdle, Nat.le_refl _, by rw [h.last]; exact Nat.zero_le _⟩, h.path,
    .inl h.computeIdle⟩

/-! ### What most nodes leave alone -/

/-- `s'` has the action nodes, the goals and {path} of `s`. -/
structure SamePlans (s s' : TreeState Pose Path) : Prop where
  computePath : s'.computePath = s.computePath
  followPath : s'.followPath = s.followPath
  goal : s'.blackboard.goal = s.blackboard.goal
  path : readPath s' = readPath s
  updatedGoal : s'.updatedGoal = s.updatedGoal
  last : s'.lastChildTicked = s.lastChildTicked

/-- A property of the action nodes, the goals and {path}. -/
def AboutPlans (P : TreeState Pose Path → Prop) : Prop := ∀ s s', P s → SamePlans s s' → P s'

theorem AboutPlans.ignoresStatuses {P : TreeState Pose Path → Prop} (h : AboutPlans P) :
    IgnoresStatuses P := fun s _ hs => h s _ hs ⟨rfl, rfl, rfl, rfl, rfl, rfl⟩

theorem ClientsValid.same (h : ClientsValid s) (hs' : SamePlans s s') : ClientsValid s' :=
  ⟨by rw [hs'.computePath]; exact h.compute, by rw [hs'.followPath]; exact h.follow⟩

theorem Unsent.same (h : Unsent computeBase followBase s) (hs' : SamePlans s s') :
    Unsent computeBase followBase s' :=
  ⟨h.toClientsValid.same hs', by rw [hs'.followPath]; exact h.unsent,
    by rw [hs'.followPath]; exact h.followIdle, by rw [hs'.computePath]; exact h.base,
    by rw [hs'.last]; exact h.last⟩

theorem BeforePlan.aboutPlans :
    AboutPlans fun s : TreeState Pose Path => BeforePlan computeBase followBase s :=
  fun _ _ h hs' => ⟨h.toUnsent.same hs', hs'.path.trans h.path,
    by rw [hs'.computePath]; exact h.computing⟩

theorem PlanFailed.aboutPlans :
    AboutPlans fun s : TreeState Pose Path => PlanFailed computeBase followBase s :=
  fun _ _ h hs' => ⟨h.toUnsent.same hs', hs'.path.trans h.path⟩

theorem PlanReady.aboutPlans :
    AboutPlans fun s : TreeState Pose Path => PlanReady computeBase followBase s :=
  fun _ _ h hs' => ⟨h.toUnsent.same hs', by rw [hs'.computePath, hs'.path]; exact h.path,
    by rw [hs'.computePath]; exact h.computeRests⟩

theorem FirstSent.aboutPlans :
    AboutPlans fun s : TreeState Pose Path => FirstSent computeBase followBase s :=
  fun _ _ h hs' => ⟨h.toClientsValid.same hs', h.first.grow (by rw [hs'.computePath]; exact .refl _)
    (by rw [hs'.followPath]; exact .refl _)⟩

end Paths

/-! ## Phases -/

section Phases

variable [Inhabited Path] {params : TreeParams} {R V : Nat → Nat → TreeState Pose Path → Prop}
  {C : Navigation Pose Path → NavigationLabel Pose Path → Prop} {s s' : Navigation Pose Path}

/-- `R` holds while a navigation runs and `V` at any time, for the numbers of
requests that were sent before the last navigation. -/
def InPhase (R V : Nat → Nat → TreeState Pose Path → Prop) (s : Navigation Pose Path) : Prop :=
  match s.phase with
  | .idle => V s.computeBase s.followBase s.tree ∧ Halted s.tree
  | .running => R s.computeBase s.followBase s.tree
  | .returned => V s.computeBase s.followBase s.tree

theorem InPhase.running (h : InPhase R V s) (hphase : s.phase = .running) :
    R s.computeBase s.followBase s.tree := by
  rw [InPhase, hphase] at h
  exact h

omit [Inhabited Path] in
/-- What a call that may throw leaves. -/
theorem afterTreeCall_spec {α : Type} {x : TreeM Pose Path α} {tree tree' : TreeState Pose Path}
    {P : TreeState Pose Path → Prop}
    (hx : Triple (· = tree) x (fun _ => P) (fun e tree => e = .invalidStatus → P tree))
    (h : afterTreeCall x tree = some tree') : P tree' := by
  unfold afterTreeCall at h
  split at h
  · next hrun =>
    cases h
    exact hx.ok rfl hrun
  · next hrun =>
    cases h
    exact hx.error rfl hrun rfl
  · cases h

variable [DecidableEq Pose] [DecidableEq Path] [Inhabited Pose]

/-- What the single events keep, in runs that keep to `C`. -/
structure PhaseRules (params : TreeParams)
    (C : Navigation Pose Path → NavigationLabel Pose Path → Prop)
    (R V : Nat → Nat → TreeState Pose Path → Prop) : Prop where
  left : ∀ c f tree, R c f tree → V c f tree
  started : ∀ c f tree goal, V c f tree → Halted tree →
    R tree.computePath.requests.length tree.followPath.requests.length
      { tree with blackboard := { tree.blackboard with goal := goal } }
  preempted : ∀ c f tree goal, C ⟨tree, .running, c, f⟩ (.preempt goal) → R c f tree →
    R c f { tree with blackboard := { tree.blackboard with goal := goal } }
  ticked : ∀ c f tree input, C ⟨tree, .running, c, f⟩ (.tick input) → R c f tree →
    Triple (· = tree) (tickOnce params input)
      (fun status tree => if status = .running then R c f tree else V c f tree)
      (fun e tree => e = .invalidStatus → V c f tree)
  halted : ∀ c f input, Triple (fun tree => V c f tree) (haltTree params input)
    (fun _ tree => V c f tree ∧ Halted tree) (fun e tree => e = .invalidStatus → V c f tree)
  computeServed : ∀ c f tree (e : ServerEvent (ComputePathResult Path)) tree',
    tree' = { tree with computePath :=
      { tree.computePath with requests := e.apply tree.computePath.requests } } →
    (R c f tree → R c f tree') ∧ (V c f tree → V c f tree')
  followServed : ∀ c f tree (e : ServerEvent ErrorResult) tree',
    tree' = { tree with followPath :=
      { tree.followPath with requests := e.apply tree.followPath.requests } } →
    (R c f tree → R c f tree') ∧ (V c f tree → V c f tree')

theorem InPhase.always (rules : PhaseRules params C R V) (h : InPhase R V s) :
    V s.computeBase s.followBase s.tree := by
  unfold InPhase at h
  split at h
  · exact h.1
  · exact rules.left _ _ _ h
  · exact h

/-- A round of the loop in `run`. -/
theorem InPhase.runTick (rules : PhaseRules params C R V) {input : TreeInput Path}
    (h : InPhase R V s) (hphase : s.phase = .running) (hc : C s (.tick input))
    (hstep : BtNavigator.runTick params input s = some s') : InPhase R V s' := by
  obtain ⟨tree, phase, c, f⟩ := s
  cases hphase
  have htick := rules.ticked c f tree input hc h
  unfold BtNavigator.runTick at hstep
  split at hstep
  · next status tree' hrun =>
    cases hstep
    have hends := htick.ok rfl hrun
    by_cases hrunning : status = .running
    · rw [if_pos hrunning] at hends
      rw [InPhase, if_pos hrunning]
      exact hends
    · rw [if_neg hrunning] at hends
      rw [InPhase, if_neg hrunning]
      exact hends
  · next tree' hrun =>
    cases hstep
    exact htick.error rfl hrun rfl
  · cases hstep

omit [DecidableEq Pose] [DecidableEq Path] [Inhabited Pose] in
/-- What a step of a server changes in the tree, in any phase. -/
theorem InPhase.served {tree : TreeState Pose Path} (h : InPhase R V s)
    (hkeeps : (R s.computeBase s.followBase s.tree → R s.computeBase s.followBase tree) ∧
      (V s.computeBase s.followBase s.tree → V s.computeBase s.followBase tree))
    (hhalted : Halted s.tree → Halted tree) : InPhase R V { s with tree := tree } := by
  obtain ⟨hR, hV⟩ := hkeeps
  obtain ⟨_, phase, _, _⟩ := s
  cases phase with
  | idle => exact ⟨hV h.1, hhalted h.2⟩
  | running => exact hR h
  | returned => exact hV h

/-- **What holds in each phase, every event keeps.** -/
theorem InPhase.step (rules : PhaseRules params C R V) {l : NavigationLabel Pose Path}
    (h : InPhase R V s) (hc : C s l) (hstep : navigationStep params s l = some s') :
    InPhase R V s' := by
  cases l with
  | goalReceived goal =>
    simp only [navigationStep] at hstep
    split at hstep
    · next hphase =>
      rw [InPhase, hphase] at h
      cases hstep
      exact rules.started _ _ _ goal h.1 h.2
    · cases hstep
  | preempt goal =>
    simp only [navigationStep] at hstep
    split at hstep
    · next hphase =>
      obtain ⟨tree, phase, c, f⟩ := s
      cases hphase
      cases hstep
      exact rules.preempted c f tree goal hc h
    · cases hstep
  | tick input =>
    simp only [navigationStep] at hstep
    split at hstep
    · next hphase => exact h.runTick rules hphase hc hstep
    · cases hstep
  | cancel input =>
    simp only [navigationStep] at hstep
    split at hstep
    · next hphase =>
      obtain ⟨tree, htree, rfl⟩ := Option.map_eq_some_iff.mp hstep
      refine afterTreeCall_spec (triple_conseq (rules.halted _ _ input) ?_ (fun _ _ hs => hs.1)
        fun _ _ he => he) htree
      rintro _ rfl
      exact h.always rules
    · cases hstep
  | leave =>
    simp only [navigationStep] at hstep
    have hvalid := h.always rules
    split at hstep
    · cases hstep
      exact hvalid
    · cases hstep
  | haltAllActions input =>
    simp only [navigationStep] at hstep
    have hvalid := h.always rules
    split at hstep
    · split at hstep
      · next tree hrun =>
        cases hstep
        exact (rules.halted _ _ input).ok hvalid hrun
      · cases hstep
    · cases hstep
  | computeServer e =>
    cases hstep
    exact h.served (rules.computeServed _ _ _ e _ rfl) fun hhalted =>
      ⟨hhalted.path, hhalted.computeIdle, hhalted.followIdle, hhalted.last⟩
  | followServer e =>
    cases hstep
    exact h.served (rules.followServed _ _ _ e _ rfl) fun hhalted =>
      ⟨hhalted.path, hhalted.computeIdle, hhalted.followIdle, hhalted.last⟩

omit [DecidableEq Pose] in
theorem InPhase.initial (goal : Pose) (hinitial : V 0 0 (TreeState.initial goal)) :
    InPhase R V ⟨TreeState.initial goal, .idle, 0, 0⟩ :=
  ⟨hinitial, rfl, rfl, rfl, rfl⟩

end Phases

/-! ## Inputs -/

/-- Nothing arrives while an acknowledgement is waited for. -/
def silence {Result : Type} : Acknowledgement Result Unit := ⟨0, [], false⟩

/-- Request `i` is accepted and the response arrives at once. -/
def accepted {Result : Type} (i : GoalId) : Acknowledgement Result Unit :=
  ⟨0, [.server (.decide i true), .response i], false⟩

/-- Request `i` succeeds with `result`, which arrives. -/
def succeeded {Result : Type} (i : GoalId) (result : Result) : List (SpinEvent Result Unit) :=
  [.server (.move i .executing result), .server (.move i .succeeded result), .result i false]

/-- A tick or halt at the time `now`, in which nothing arrives and the pose
of the robot is not available. -/
def quietInput (now : Int) : TreeInput Path where
  clock := ⟨now, now, now⟩
  controller := none
  planner := none
  truncate := fun _ => some none
  valid := fun _ => false
  compute := ⟨silence, true, silence, []⟩
  computeHalt := ⟨[], [], []⟩
  follow := ⟨silence, true, silence, []⟩
  followHalt := ⟨[], [], []⟩

def defaultParams : TreeParams := ⟨⟨100, 100⟩, ⟨100, 100⟩⟩

end Nav3D.BtNavigator

/-
Nav3D.BtNavigator.FollowPathUpdates — which goals a `FollowPathAction`
sends to the controller server to replace the one it is following.

The node is translated on its own here: its ports may change in any way
between two calls, and its parent ticks, halts and resets it in any order.
-/
import Nav3D.BehaviorTree.ActionNodeUpdates
import Nav3D.BtNavigator.DefaultTree

namespace Nav3D.BtNavigator

open Nav3D.Ros Nav3D.BehaviorTree StateInvariant Transition.System
open BT (NodeStatus)

variable {Pose Path : Type}

/-! ## The virtual functions -/

/-- One field of the goal, which raises the flag if it changes. -/
theorem updateId_eq {field : FollowPathGoal Path → String}
    {setField : String → FollowPathGoal Path → FollowPathGoal Path}
    (hset : ∀ g, setField (field g) g = g) (id : String)
    (h : HookState (FollowPathGoal Path) (Blackboard Pose Path)) :
    updateId field setField id h = { h with
      goal := setField id h.goal
      goalUpdated := h.goalUpdated || field h.goal != id } := by
  unfold updateId
  split
  · next hne => simp [bne_iff_ne.mpr hne]
  · next heq =>
    rw [not_not] at heq
    simp [← heq, hset]

variable [Inhabited Path] [DecidableEq Path]

/-- The goal that `on_wait_for_result()` leaves, from what the ports supply. -/
def portsGoal (ports : FollowPathPorts)
    (h : HookState (FollowPathGoal Path) (Blackboard Pose Path)) : FollowPathGoal Path where
  path :=
    if h.blackboard.path.getD default ≠ default then h.blackboard.path.getD default
    else h.goal.path
  controllerId := h.blackboard.selectedController
  goalCheckerId := ports.goalCheckerId.getD ""
  progressCheckerId := ports.progressCheckerId.getD ""

/-- The path, which an empty path on the port does not replace. -/
theorem updatePath_eq (h : HookState (FollowPathGoal Path) (Blackboard Pose Path)) :
    updatePath h = { h with
      goal := { h.goal with path :=
        if h.blackboard.path.getD default ≠ default then h.blackboard.path.getD default
        else h.goal.path }
      goalUpdated := h.goalUpdated ||
        (if h.blackboard.path.getD default ≠ default then h.blackboard.path.getD default
          else h.goal.path) != h.goal.path } := by
  unfold updatePath
  by_cases hnew : h.blackboard.path.getD default = default
  · simp [hnew]
  · by_cases hsame : h.goal.path = h.blackboard.path.getD default
    · simp [← hsame]
    · simp [hnew, hsame, Ne.symm hsame]

/-- `on_wait_for_result()` never throws; it raises `goal_updated_` when the
goal changes. -/
theorem onWaitForResult_run (ports : FollowPathPorts) (feedback : Option Unit)
    (h : HookState (FollowPathGoal Path) (Blackboard Pose Path)) :
    ((followPathHooks ports).onWaitForResult feedback).run h = .ok () { h with
      goal := portsGoal ports h
      goalUpdated := h.goalUpdated || portsGoal ports h != h.goal } := by
  have hrun : ((followPathHooks ports).onWaitForResult feedback).run h = .ok ()
      (updateId (·.progressCheckerId) (fun id g => { g with progressCheckerId := id })
        (ports.progressCheckerId.getD "")
        (updateId (·.goalCheckerId) (fun id g => { g with goalCheckerId := id })
          (ports.goalCheckerId.getD "")
          (updateId (·.controllerId) (fun id g => { g with controllerId := id })
            (updatePath h).blackboard.selectedController (updatePath h)))) := rfl
  rw [hrun, updateId_eq fun _ => rfl, updateId_eq fun _ => rfl, updateId_eq fun _ => rfl,
    updatePath_eq]
  congr 2
  rw [Bool.eq_iff_iff]
  rcases hgoal : h.goal with ⟨path, controllerId, goalCheckerId, progressCheckerId⟩
  simp only [portsGoal, hgoal, Bool.or_eq_true, bne_iff_ne, ne_eq, FollowPathGoal.mk.injEq]
  tauto

/-- `FollowPathAction` raises `goal_updated_` exactly when it changes the
goal, in `on_wait_for_result()` only. -/
theorem followPathHooks_track (ports : FollowPathPorts) :
    HooksTrack (followPathHooks ports :
      ActionHooks (FollowPathGoal Path) ErrorResult Unit (Blackboard Pose Path)) where
  onTick h₀ := triple_modify (by rintro _ rfl; exact ⟨rfl, rfl⟩)
  onWaitForResult feedback h₀ := by
    rintro _ rfl
    rw [onWaitForResult_run]
    refine ⟨fun hlowered => ?_, fun hraised => ?_⟩
    · have hboth := Bool.or_eq_false_iff.mp hlowered
      exact ⟨by simpa using hboth.2, hlowered.trans hboth.1.symm⟩
    · exact (Bool.or_eq_true_iff.mp hraised).imp_right fun hne => bne_iff_ne.mp hne
  onSuccess result h₀ := triple_bind (Q := fun _ => SameGoal h₀)
    (triple_modify (by rintro _ rfl; exact ⟨rfl, rfl⟩)) fun _ => triple_pure fun _ hs => hs
  onAborted result h₀ := by
    cases result with
    | none => exact triple_throw (by rintro _ rfl; exact ⟨rfl, rfl⟩)
    | some error =>
      exact triple_bind (Q := fun _ => SameGoal h₀)
        (triple_modify (by rintro _ rfl; exact ⟨rfl, rfl⟩)) fun _ => triple_pure fun _ hs => hs
  onCancelled result h₀ := triple_bind (Q := fun _ => SameGoal h₀)
    (triple_modify (by rintro _ rfl; exact ⟨rfl, rfl⟩)) fun _ => triple_pure fun _ hs => hs
  onTimeout h₀ := triple_modify (by rintro _ rfl; exact ⟨rfl, rfl⟩)

/-! ## Runs -/

/-- The node, with the ports that the default tree leaves out. -/
structure FollowPathState (Pose Path : Type) where
  node : ActionNode (FollowPathGoal Path) ErrorResult Unit (Blackboard Pose Path)
  ports : FollowPathPorts

inductive FollowPathLabel (Pose Path : Type) where
  /-- The entries that the ports read are written. -/
  | write (blackboard : Blackboard Pose Path) (ports : FollowPathPorts)
  | node (l : ActionLabel ErrorResult Unit)

def followPathStep (params : ActionParams) (s : FollowPathState Pose Path) :
    FollowPathLabel Pose Path → Option (FollowPathState Pose Path)
  | .write blackboard ports =>
    some { node := { s.node with hook := { s.node.hook with blackboard := blackboard } }
           ports := ports }
  | .node l =>
    (actionStep (followPathHooks s.ports) params s.node l).map fun node => { s with node := node }

/-- A `FollowPathAction` whose parent may do anything. -/
def followPathSystem (params : ActionParams) :
    Transition.System (FollowPathState Pose Path) (FollowPathLabel Pose Path) where
  init := fun s => ∃ blackboard, s.node = .initial (followPathHooks s.ports) blackboard
  step := followPathStep params

/-- A tick finds `goal_updated_` raised only in an active node, and only if
the ports supply a goal other than the one sent last. -/
def RaisedForChange (s : FollowPathState Pose Path) : FollowPathLabel Pose Path → Prop
  | .node (.tick _) => s.node.hook.goalUpdated = true → s.node.status.isActive = true ∧
      lastGoal s.node.requests ≠ some (portsGoal s.ports s.node.hook)
  | _ => True

instance (s : FollowPathState Pose Path) (l : FollowPathLabel Pose Path) :
    Decidable (RaisedForChange s l) :=
  match l with
  | .node (.tick _) => inferInstanceAs (Decidable (_ → _ ∧ _))
  | .node (.halt _) => isTrue trivial
  | .node .reset => isTrue trivial
  | .node (.server _) => isTrue trivial
  | .write _ _ => isTrue trivial

theorem sentLastNode_afterCall {Goal Result Feedback B α : Type}
    {x : ActionM Goal Result Feedback B α} {s s' : ActionNode Goal Result Feedback B}
    (hx : Triple (· = s) x (fun _ => SentLastNode)
      (fun e s' => e ≠ .nullDeref → SentLastNode s'))
    (hstep : afterCall x s = some s') : SentLastNode s' := by
  have hpost := hx s rfl
  unfold afterCall at hstep
  cases hrun : x.run s with
  | ok a s₁ =>
    rw [hrun] at hpost hstep
    cases hstep
    exact hpost
  | error e s₁ =>
    rw [hrun] at hpost hstep
    cases e <;> cases hstep <;> exact hpost (fun h => by cases h)

/-- One step. -/
theorem sentLastNode_step {params : ActionParams} {s s' : FollowPathState Pose Path}
    {l : FollowPathLabel Pose Path} (h : SentLastNode s.node) (hc : RaisedForChange s l)
    (hstep : followPathStep params s l = some s') : SentLastNode s'.node := by
  cases l with
  | write blackboard ports =>
    cases hstep
    exact ⟨h.valid, h.differ, h.last⟩
  | node l =>
    obtain ⟨node, hnode, rfl⟩ := Option.map_eq_some_iff.mp hstep
    show SentLastNode node
    have htrack : HooksTrack (followPathHooks s.ports :
        ActionHooks (FollowPathGoal Path) ErrorResult Unit (Blackboard Pose Path)) :=
      followPathHooks_track s.ports
    cases l with
    | tick input =>
      refine sentLastNode_afterCall (executeTick_sentLast htrack h fun hflag => ?_) hnode
      refine ⟨(hc hflag).1, fun feedback hook hrun => ?_⟩
      rw [onWaitForResult_run] at hrun
      cases hrun
      exact (hc hflag).2
    | halt input => exact sentLastNode_afterCall (halt_sentLast htrack h) hnode
    | reset =>
      simp only [actionStep] at hnode
      split at hnode
      · cases hnode
      · cases hnode
        exact ⟨h.valid, h.differ, fun hf => by cases hf⟩
    | server e =>
      cases hnode
      obtain ⟨hvalid, hgrow, hlength⟩ := e.apply_spec h.valid
      exact h.framed (Spun.of_requests hvalid hgrow hlength).framed

/-- **Only a changed goal is sent again.** In every run whose ticks find
`goal_updated_` raised only for a change, every goal that is sent to replace
the one before it differs from it. -/
theorem updates_differ {params : ActionParams} {s : FollowPathState Pose Path}
    (h : (followPathSystem params).Reach RaisedForChange s) : UpdatesDiffer s.node.requests := by
  refine (h.invariant (fun s => SentLastNode s.node) (fun s hs => ?_)
    fun s l s' hs hc hstep => sentLastNode_step hs hc hstep).differ
  obtain ⟨blackboard, hinit⟩ := hs
  rw [hinit]
  exact ⟨fun _ _ hr => (by cases hr), fun _ _ _ hr => (by cases hr), fun hf => by cases hf⟩

/-! ## Two runs -/

/-- `path` is on the blackboard. -/
def writePath (path : List Nat) : FollowPathLabel Nat (List Nat) :=
  .write ⟨0, [], some path, none, "FollowPath", "", default, default⟩ {}

/-- A tick in which the response to request `i` comes, if it is waited for,
and then the response to an update, and the last spin brings `events`. -/
def followTick (i : GoalId) (events : List (SpinEvent ErrorResult Unit)) :
    FollowPathLabel Nat (List Nat) :=
  .node (.tick ⟨⟨0, [.server (.decide i true), .response i], false⟩, true,
    ⟨0, [.server (.decide (i + 1) true), .response (i + 1)], false⟩, events⟩)

def followParams : ActionParams := ⟨100, 100⟩

abbrev followsNumbers : Transition.System (FollowPathState Nat (List Nat))
    (FollowPathLabel Nat (List Nat)) := followPathSystem followParams

def emptyBlackboard : Blackboard Nat (List Nat) := ⟨0, [], none, none, "", "", default, default⟩

/-- The goal has succeeded, which the status tells before the result comes,
when a new path is written. The next activation sends that path twice. -/
def sentTwice : List (FollowPathLabel Nat (List Nat)) :=
  [writePath [1], followTick 0 [.server (.move 0 .executing default),
      .server (.move 0 .succeeded default), .status 0 .succeeded],
    writePath [1, 2], followTick 0 [.result 0 false], .node .reset, followTick 1 []]

/-- Request 2 is an update for the goal of request 1. -/
def sentAgain (s : FollowPathState Nat (List Nat)) : Bool :=
  s.node.requests[2]?.any fun r' => r'.update &&
    s.node.requests[1]?.any fun r => r.goal == r'.goal

theorem unchanged_goal_sent : ∃ s, followsNumbers.Reach anyStep s ∧
    ¬ UpdatesDiffer s.node.requests := by
  obtain ⟨s, hr, hs⟩ := exists_reach_of_runWhile (S := followsNumbers) anyStep sentTwice sentAgain
    (s := ⟨.initial (followPathHooks {}) emptyBlackboard, {}⟩) ⟨emptyBlackboard, rfl⟩
    (by decide +kernel)
  refine ⟨s, hr, fun hdiffer => ?_⟩
  rw [sentAgain, Option.any_eq_true] at hs
  obtain ⟨r', hr', hs'⟩ := hs
  rw [Bool.and_eq_true, Option.any_eq_true] at hs'
  obtain ⟨hupdate, r, hr, hsame⟩ := hs'
  exact hdiffer 1 r r' hr hr' hupdate (beq_iff_eq.mp hsame).symm

/-- A longer path is written while the first one is followed, and is sent in
its place. -/
def sentLonger : List (FollowPathLabel Nat (List Nat)) :=
  [writePath [1], followTick 0 [], writePath [1, 2], followTick 0 []]

theorem updates_differ_longer : ∃ s, followsNumbers.Reach RaisedForChange s ∧
    s.node.requests.map (fun r => (r.goal.path, r.update)) = [([1], false), ([1, 2], true)] ∧
    UpdatesDiffer s.node.requests := by
  obtain ⟨s, hr, hs⟩ := exists_reach_of_runWhile (S := followsNumbers) RaisedForChange sentLonger
    (fun s : FollowPathState Nat (List Nat) =>
      s.node.requests.map (fun r => (r.goal.path, r.update)) == [([1], false), ([1, 2], true)])
    (s := ⟨.initial (followPathHooks {}) emptyBlackboard, {}⟩) ⟨emptyBlackboard, rfl⟩
    (by decide +kernel)
  exact ⟨s, hr, beq_iff_eq.mp hs, updates_differ hr⟩

end Nav3D.BtNavigator

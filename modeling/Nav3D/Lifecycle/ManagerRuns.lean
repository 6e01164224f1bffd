/-
Nav3D.Lifecycle.ManagerRuns — the manager serving commands, and one pass
over its nodes.

Two facts about the code are used by what follows. No command but SHUTDOWN
changes the node list or the clients, or finalizes a node (`Serving`). And
on nodes whose services answer, a pass of the manager is a `Sweep.sweep`:
it gives up at the first node that is neither in the state the transition
starts from nor in the one it ends in (`changeStateForNodes_accepts`).
-/
import Nav3D.Lib.Sweep
import Nav3D.Lib.Transition
import Nav3D.Lifecycle.ManagerPasses

namespace Nav3D.Lifecycle

open StateInvariant Sweep

/-! ## Commands in sequence -/

/-- A manager of `names` just after `createLifecycleServiceClients`,
with all nodes UNCONFIGURED. -/
structure Fresh (names : List String) (s : LifecycleManager) : Prop where
  nodeNames : s.nodeNames = names
  clients : ∀ n ∈ names, s.nodeMap n = true
  unconfigured : ∀ n, s.nodeState n = .unconfigured
  inactive : s.systemActive = false
  bondMap : s.bondMap = ∅

/-- The manager serving commands, each with the answers the outside gives
during it. A command that does not return has no successor. -/
def managerSystem (names : List String) :
    Transition.System LifecycleManager (Command × Env) where
  init := Fresh names
  step := fun s (c, env) =>
    match (managerCallback env c).run s with
    | .ok _ s' => some s'
    | .error _ _ => none

/-- The command is not SHUTDOWN. -/
def NoShutdown (_ : LifecycleManager) (l : Command × Env) : Prop := l.1 ≠ .shutdown

/-- Whether a computation returns, and with what. -/
def returns {α : Type} (x : ManagerM α) (p : α → LifecycleManager → Bool) (s : LifecycleManager) :
    Bool :=
  match x.run s with
  | .ok a s' => p a s'
  | .error _ _ => false

theorem exists_of_returns {α : Type} {x : ManagerM α} {p : α → LifecycleManager → Bool}
    {s : LifecycleManager} (h : returns x p s = true) :
    ∃ a s', x.run s = .ok a s' ∧ p a s' = true := by
  unfold returns at h
  split at h
  · next a s' heq => exact ⟨a, s', heq, h⟩
  · cases h

/-! ## What no command but SHUTDOWN changes -/

/-- The nodes and their clients stay, and no node is FINALIZED. -/
structure Serving (names : List String) (s : LifecycleManager) : Prop where
  nodeNames : s.nodeNames = names
  clients : ∀ n ∈ names, s.nodeMap n = true
  notFinalized : ∀ n, s.nodeState n ≠ .finalized

variable {names : List String}

theorem Serving.changed {s s' : LifecycleManager} {n : String} {t : LifecycleTransition}
    (h : Serving names s) (ht : t ≠ .unconfiguredShutdown) (hchange : NodeChange n t s s') :
    Serving names s' := by
  refine ⟨hchange.settings.nodeNames.trans h.nodeNames, fun m hm => ?_, fun m => ?_⟩
  · rw [hchange.settings.nodeMap]
    exact h.clients m hm
  by_cases hm : m = n
  · subst hm
    rcases hchange.nodeState_self with hsame | htook
    · rw [hsame]
      exact h.notFinalized m
    · rw [htook, LifecycleTransition.apply]
      split
      · cases t <;> first | decide | exact absurd rfl ht
      · exact h.notFinalized m
  · rw [hchange.nodeState_of_ne hm]
    exact h.notFinalized m

/-- Before SHUTDOWN the nodes and clients stay, no node is FINALIZED, and
every command returns. -/
theorem serving_managerCallback (env : Env) {c : Command} (hc : c ≠ .shutdown) :
    Triple (Serving names) (managerCallback env c) (fun _ => Serving names) (fun _ _ => False) := by
  refine triple_managerCallback (fun _ _ _ h => ⟨h.nodeNames, h.clients, h.notFinalized⟩)
    (fun t ht => ?_) hc
  refine triple_changeStateForAllNodes (fun _ _ _ _ h hchange => h.changed ht hchange) ?_
  intro s h n hn
  rw [h.nodeNames] at hn
  exact h.clients n hn

theorem serving_of_reach {s : LifecycleManager} (h : (managerSystem names).Reach NoShutdown s) :
    Serving names s := by
  refine h.invariant (Serving names) ?_ ?_
  · intro s hs
    refine ⟨hs.nodeNames, hs.clients, fun n => ?_⟩
    rw [hs.unconfigured n]
    decide
  · rintro s ⟨c, env⟩ s' hs hc hstep
    simp only [managerSystem] at hstep
    split at hstep
    · next b s'' hrun =>
      cases hstep
      exact (serving_managerCallback env hc).ok hs hrun
    · cases hstep

/-! ## A pass with services that answer -/

/-- The services of node `n` answer, and its legal transitions succeed. -/
structure Env.AcceptsFor (env : Env) (n : String) : Prop where
  changeState : ∀ k, env.changeState k n = .answered true
  getState : ∀ k, env.getState k n = true

/-- Every service answers, and every legal transition succeeds. -/
def Env.Accepts (env : Env) : Prop := ∀ n, env.AcceptsFor n

/-- A node in state `st` passes a transition: it is in the state asked for
afterwards. -/
def LifecycleTransition.passes (t : LifecycleTransition) (st : LifecycleState) : Bool :=
  t.apply st = transitionStateMap t

theorem LifecycleTransition.passes_target (t : LifecycleTransition) :
    t.passes (transitionStateMap t) = true := by
  cases t <;> decide

/-- A node that does not pass is left in its state. -/
theorem LifecycleTransition.apply_of_not_passes {t : LifecycleTransition} {st : LifecycleState}
    (h : t.passes st = false) : t.apply st = st := by
  unfold passes apply at *
  split at h
  · simp at h
  · next hlegal => rw [if_neg hlegal]

variable {env : Env}

/-- What a pass leaves of the manager itself. -/
def SameNodes (s s' : LifecycleManager) : Prop :=
  s'.nodeMap = s.nodeMap ∧ s'.nodeNames = s.nodeNames

theorem derefClient_of_client {n : String} {s : LifecycleManager} (h : s.nodeMap n = true) :
    (derefClient n).run s = .ok () s := by
  show derefClient n s = _
  have hderef : derefClient n s =
      (if s.nodeMap n then pure () else throw .nullDeref : ManagerM Unit) s := rfl
  rw [hderef, h]
  rfl

/-- One node, on the transitions of SHUTDOWN. -/
theorem changeStateForNode_accepts {n : String} (henv : env.AcceptsFor n) {t : LifecycleTransition}
    (ht : t ≠ .activate) {s : LifecycleManager} (hclient : s.nodeMap n = true) :
    ∃ s', (changeStateForNode env n t).run s = .ok (t.passes (s.nodeState n)) s' ∧
      s'.nodeState = Function.update s.nodeState n (t.apply (s.nodeState n)) ∧
      SameNodes s s' := by
  have hchange : (changeState env n t).run s = .ok true (s.request n t true) := by
    show changeState env n t s = _
    rw [changeState, henv.changeState]
  have hget : ∀ s₁ : LifecycleManager, (getState env n).run s₁
      = .ok (s₁.nodeState n) { s₁ with calls := s₁.calls + 1 } := by
    intro s₁
    show getState env n s₁ = _
    simp only [getState, ask, bind, EStateM.bind, henv.getState, if_true]
    rfl
  have hstate : (s.request n t true).nodeState n = t.apply (s.nodeState n) :=
    Function.update_self ..
  have hderef := derefClient_of_client hclient
  unfold changeStateForNode
  simp only [EStateM.run_bind, hderef, hchange, if_true, hget, hstate]
  cases hpass : t.passes (s.nodeState n) with
  | false =>
    have hne : t.apply (s.nodeState n) ≠ transitionStateMap t := of_decide_eq_false hpass
    rw [if_neg hne]
    exact ⟨_, rfl, rfl, rfl, rfl⟩
  | true =>
    have heq : t.apply (s.nodeState n) = transitionStateMap t := of_decide_eq_true hpass
    rw [if_pos heq]
    cases t with
    | activate => exact absurd rfl ht
    | deactivate => exact ⟨_, rfl, rfl, rfl, rfl⟩
    | configure => exact ⟨_, rfl, rfl, rfl, rfl⟩
    | cleanup => exact ⟨_, rfl, rfl, rfl, rfl⟩
    | unconfiguredShutdown => exact ⟨_, rfl, rfl, rfl, rfl⟩

/-- **A pass is a sweep**: it moves the leading nodes that pass. -/
theorem changeStateForNodes_accepts (henv : env.Accepts) {t : LifecycleTransition}
    (ht : t ≠ .activate) (ns : List String) {s : LifecycleManager}
    (hclients : ∀ n ∈ ns, s.nodeMap n = true) :
    ∃ b s', (changeStateForNodes env t false ns).run s = .ok b s' ∧
      s'.nodeState = sweep t.passes (transitionStateMap t) ns s.nodeState ∧ SameNodes s s' := by
  induction ns generalizing s with
  | nil => exact ⟨true, s, rfl, rfl, rfl, rfl⟩
  | cons n ns ih =>
    obtain ⟨s₁, hrun, hstate, hsame⟩ :=
      changeStateForNode_accepts (henv n) ht (hclients n List.mem_cons_self)
    have hstep : (changeStateForNodes env t false (n :: ns)).run s
        = if t.passes (s.nodeState n) then (changeStateForNodes env t false ns).run s₁
          else .ok false s₁ := by
      show changeStateForNodes env t false (n :: ns) s = _
      simp only [changeStateForNodes, hrun]
      cases t.passes (s.nodeState n) <;> rfl
    rw [hstep]
    cases hpass : t.passes (s.nodeState n) with
    | false =>
      refine ⟨false, s₁, rfl, ?_, hsame⟩
      rw [hstate, LifecycleTransition.apply_of_not_passes hpass, sweep, hpass,
        Function.update_eq_self]
      rfl
    | true =>
      have hclients₁ : ∀ m ∈ ns, s₁.nodeMap m = true := by
        intro m hm
        rw [hsame.1]
        exact hclients m (List.mem_cons_of_mem n hm)
      obtain ⟨b, s', hrun', hstate', hsame'⟩ := ih hclients₁
      have heq : t.apply (s.nodeState n) = transitionStateMap t := of_decide_eq_true hpass
      refine ⟨b, s', hrun', ?_, hsame'.1.trans hsame.1, hsame'.2.trans hsame.2⟩
      rw [hstate', hstate, heq, sweep, if_pos hpass]

end Nav3D.Lifecycle

/-
Nav3D.Lifecycle.ManagerReset — what a broken bond makes of the other nodes.

`checkBondConnections` answers a broken bond with `reset(true)`. The hard
reset goes on past a node that fails politely, but the services of a
crashed node throw, and an exception ends the DEACTIVATE loop whatever
`hard_change` says; its false then keeps CLEANUP from being run at all.
The nodes listed after the crashed one end INACTIVE, the nodes before it
stay ACTIVE, and none is cleaned up.
-/
import Nav3D.Lifecycle.ManagerRuns

namespace Nav3D.Lifecycle

/-! ## The situation -/

/-- Node `crashed` is down in an active system: its bond is broken and its
services throw. All other nodes are ACTIVE and cooperate. The system is
active, so every node has its client and its bond. -/
structure BrokenBond (env : Env) (crashed : String) (s : LifecycleManager) : Prop where
  systemActive : s.systemActive = true
  listed : crashed ∈ s.nodeNames
  clients : ∀ n ∈ s.nodeNames, s.nodeMap n = true
  bonds : ∀ n ∈ s.nodeNames, (s.bondMap.lookup n).isSome = true
  broken : ∀ k, env.isBroken k crashed = true
  changeStateThrows : ∀ k, env.changeState k crashed = .throws false
  getStateThrows : ∀ k, env.getState k crashed = false
  othersActive : ∀ n ∈ s.nodeNames, n ≠ crashed → s.nodeState n = .active
  othersAccept : ∀ n, n ≠ crashed → env.AcceptsFor n
  ok : ∀ k, env.ok k = true

variable {env : Env} {crashed : String} {names : List String} {s : LifecycleManager}

/-! ## The DEACTIVATE loop -/

/-- A node is ACTIVE or INACTIVE: it has not been cleaned up. -/
def Configured (st : LifecycleState) : Prop := st = .active ∨ st = .inactive

theorem configured_deactivate {st : LifecycleState} (h : Configured st) :
    Configured (LifecycleTransition.deactivate.apply st) := by
  rcases h with rfl | rfl
  · exact Or.inr rfl
  · exact Or.inr rfl

/-- The nodes of `names` other than the crashed one have not been cleaned
up. -/
def NotCleanedUp (names : List String) (crashed : String) (s : LifecycleManager) : Prop :=
  ∀ n ∈ names, n ≠ crashed → Configured (s.nodeState n)

/-- The exception of the crashed node ends the loop with false, and no
node has been cleaned up. -/
theorem changeStateForNodes_crashed (ns : List String) (hmem : crashed ∈ ns)
    (hthrows : ∀ k, env.changeState k crashed = .throws false)
    (haccept : ∀ n, n ≠ crashed → env.AcceptsFor n) {s : LifecycleManager}
    (hclients : ∀ n ∈ ns, s.nodeMap n = true) (hstates : NotCleanedUp names crashed s) :
    ∃ s', (changeStateForNodes env .deactivate true ns).run s = .ok false s' ∧
      NotCleanedUp names crashed s' := by
  induction ns generalizing s with
  | nil => cases hmem
  | cons n ns ih =>
    by_cases hn : n = crashed
    · subst hn
      have hclient : s.nodeMap n = true := hclients n List.mem_cons_self
      have hnode : (changeStateForNode env n .deactivate).run s
          = .error .runtimeError (s.request n .deactivate false) := by
        have hderef : (derefClient n).run s = .ok () s := derefClient_of_client hclient
        have hchange : (changeState env n .deactivate).run s
            = .error .runtimeError (s.request n .deactivate false) := by
          show changeState env n .deactivate s = _
          rw [changeState, hthrows]
        simp only [changeStateForNode, EStateM.run_bind, hderef, hchange]
      refine ⟨s.request n .deactivate false, ?_, hstates⟩
      show changeStateForNodes env .deactivate true (n :: ns) s = _
      simp only [changeStateForNodes, hnode]
    · obtain ⟨s₁, hrun, hstate, hsame⟩ := changeStateForNode_accepts (t := .deactivate)
        (haccept n hn) (by decide) (hclients n List.mem_cons_self)
      have hstep : (changeStateForNodes env .deactivate true (n :: ns)).run s
          = (changeStateForNodes env .deactivate true ns).run s₁ := by
        show changeStateForNodes env .deactivate true (n :: ns) s = _
        simp only [changeStateForNodes, hrun, Bool.not_true, Bool.and_false, Bool.false_eq_true,
          if_false]
      rw [hstep]
      refine ih ((List.mem_cons.mp hmem).resolve_left (Ne.symm hn)) (fun m hm => ?_)
        fun m hlisted hm => ?_
      · rw [hsame.1]
        exact hclients m (List.mem_cons_of_mem n hm)
      · rw [hstate]
        by_cases heq : m = n
        · subst heq
          rw [Function.update_self]
          exact configured_deactivate (hstates m hlisted hm)
        · rw [Function.update_of_ne heq]
          exact hstates m hlisted hm

/-! ## The hard reset -/

/-- The broken DEACTIVATE loop keeps CLEANUP from being run. -/
theorem reset_crashed (h : BrokenBond env crashed s) :
    ∃ s', (reset env true).run s = .ok true s' ∧ NotCleanedUp s.nodeNames crashed s' := by
  let s₀ : LifecycleManager := { s with systemActive := false, bondTimer := false }
  have hstates : NotCleanedUp s.nodeNames crashed s₀ := fun n hn hne =>
    Or.inl (h.othersActive n hn hne)
  have hclients : ∀ n ∈ s₀.nodeNames.reverse, s₀.nodeMap n = true := fun n hn =>
    h.clients n (List.mem_reverse.mp hn)
  obtain ⟨s', hrun, hleft⟩ := changeStateForNodes_crashed s₀.nodeNames.reverse
    (List.mem_reverse.mpr h.listed) h.changeStateThrows h.othersAccept hclients hstates
  refine ⟨s', ?_, hleft⟩
  have hactive : (setSystemActive false).run s = .ok () { s with systemActive := false } := rfl
  have htimer : destroyBondTimer.run { s with systemActive := false } = .ok () s₀ := rfl
  have hpass : (changeStateForAllNodes env .deactivate true).run s₀ = .ok false s' := hrun
  simp only [reset, both, EStateM.run_bind, hactive, htimer, hpass, Bool.false_eq_true, if_false,
    EStateM.run_pure, Bool.or_true]

/-- A question asked changes nothing of the situation. -/
theorem BrokenBond.asked (h : BrokenBond env crashed s) :
    BrokenBond env crashed { s with calls := s.calls + 1 } :=
  ⟨h.systemActive, h.listed, h.clients, h.bonds, h.broken, h.changeStateThrows, h.getStateThrows,
    h.othersActive, h.othersAccept, h.ok⟩

/-- The loop of `checkBondConnections` meets a broken bond at the crashed
node, if not before, and resets. -/
theorem checkBonds_broken (ns : List String) (hmem : crashed ∈ ns) (hns : ∀ n ∈ ns, n ∈ s.nodeNames)
    (h : BrokenBond env crashed s) :
    ∃ s', (checkBonds env ns).run s = .ok () s' ∧ NotCleanedUp s.nodeNames crashed s' := by
  induction ns generalizing s with
  | nil => cases hmem
  | cons n ns ih =>
    let s₁ : LifecycleManager := { s with calls := s.calls + 1 }
    let s₂ : LifecycleManager := { s₁ with calls := s₁.calls + 1 }
    have hok : (ask env.ok).run s = .ok true s₁ := by
      show EStateM.Result.ok (env.ok s.calls) s₁ = _
      rw [h.ok]
    have hbond : (s₁.bondMap.lookup n).isNone = false := by
      have hsome := h.bonds n (hns n List.mem_cons_self)
      show (s.bondMap.lookup n).isNone = false
      rw [Option.isSome_iff_exists] at hsome
      obtain ⟨b, hb⟩ := hsome
      rw [hb]
      rfl
    have hbroken : (ask (env.isBroken · n)).run s₁ = .ok (env.isBroken s₁.calls n) s₂ := rfl
    have hget : (get : ManagerM LifecycleManager).run s₁ = .ok s₁ s₁ := rfl
    simp only [checkBonds, EStateM.run_bind, hok, if_true, hget, hbond, Bool.false_eq_true, if_false,
      hbroken]
    cases hb : env.isBroken s₁.calls n with
    | true =>
      obtain ⟨s', hrun, hleft⟩ := reset_crashed (s := s₂) h.asked.asked
      simp only [if_true, EStateM.run_bind, hrun]
      exact ⟨_, rfl, hleft⟩
    | false =>
      have hne : crashed ≠ n := by
        rintro rfl
        rw [h.broken] at hb
        cases hb
      exact ih ((List.mem_cons.mp hmem).resolve_left hne)
        (fun m hm => hns m (List.mem_cons_of_mem n hm)) h.asked.asked

/-- **The hard reset cleans up the survivors** exactly if there are none:
after it every surviving node is ACTIVE or INACTIVE. -/
theorem checkBondConnections_broken (h : BrokenBond env crashed s) :
    ∃ s', (checkBondConnections env).run s = .ok () s' ∧
      NotCleanedUp s.nodeNames crashed s' ∧
      ((∀ n ∈ s.nodeNames, n ≠ crashed → s'.nodeState n = .unconfigured) ↔
        ∀ n ∈ s.nodeNames, n = crashed) := by
  let s₁ : LifecycleManager := { s with calls := s.calls + 1 }
  obtain ⟨s', hrun, hleft⟩ :=
    checkBonds_broken (s := s₁) s.nodeNames h.listed (fun _ hn => hn) h.asked
  have hok : (ask env.ok).run s = .ok true s₁ := by
    show EStateM.Result.ok (env.ok s.calls) s₁ = _
    rw [h.ok]
  have hget : (get : ManagerM LifecycleManager).run s = .ok s s := rfl
  have hkeys : s.bondMap.keys.isEmpty = false := by
    have hin : crashed ∈ s.bondMap.keys :=
      AList.mem_keys.mp (AList.lookup_isSome.mp (h.bonds crashed h.listed))
    cases hk : s.bondMap.keys with
    | nil => rw [hk] at hin; cases hin
    | cons _ _ => rfl
  refine ⟨s', ?_, hleft, ?_⟩
  · simp only [checkBondConnections, EStateM.run_bind, hget, h.systemActive, if_true, hok, hkeys,
      Bool.false_eq_true, if_false, hrun]
  · constructor
    · intro hclean n hn
      by_contra hne
      have hun := hclean n hn hne
      rcases hleft n hn hne with hst | hst
      · rw [hst] at hun; cases hun
      · rw [hst] at hun; cases hun
    · intro hall n hn hne
      exact absurd (hall n hn) hne

/-! ## A crash of the last node -/

/-- The services of `b` are unreachable and its bond is broken. -/
def crashEnv : Env where
  changeState := fun _ n => if n = "b" then .throws false else .answered true
  getState := fun _ n => n != "b"
  waitUntilFormed := fun _ _ => true
  isBroken := fun _ n => n == "b"
  ok := fun _ => true
  now := fun _ => 0

/-- The active system of the nodes `a` and `b`. -/
def twoActiveNodes : LifecycleManager where
  nodeNames := ["a", "b"]
  nodeMap := fun n => n == "a" || n == "b"
  bondMap := ((∅ : AList fun _ : String => Bond).insert "a" ⟨true⟩).insert "b" ⟨true⟩
  bondTimeout := 4000
  bondRespawnMaxDuration := 10000000000
  attemptRespawnReconnection := true
  systemActive := true
  bondTimer := true
  bondRespawnTimer := false
  bondRespawnStartTime := 0
  nodeState := fun _ => .active
  history := []
  calls := 0

theorem brokenBond_twoActiveNodes : BrokenBond crashEnv "b" twoActiveNodes where
  systemActive := rfl
  listed := by decide
  clients := by decide
  bonds := by decide
  broken := fun _ => rfl
  changeStateThrows := fun _ => rfl
  getStateThrows := fun _ => rfl
  othersActive := fun _ _ _ => rfl
  othersAccept := fun n hn => ⟨fun _ => if_neg hn, fun _ => by simp [crashEnv, hn]⟩
  ok := fun _ => rfl

/-- Node `a`, listed before the crashed node, is still ACTIVE after the
hard reset. -/
theorem hard_reset_leaves_active : BrokenBond crashEnv "b" twoActiveNodes ∧
    ∃ s', (checkBondConnections crashEnv).run twoActiveNodes = .ok () s' ∧
      s'.nodeState "a" = .active := by
  obtain ⟨_, s', hrun, hstate⟩ := exists_of_returns (x := checkBondConnections crashEnv)
    (p := fun _ s' => s'.nodeState "a" = .active) (s := twoActiveNodes) (by decide +kernel)
  exact ⟨brokenBond_twoActiveNodes, s', hrun, of_decide_eq_true hstate⟩

/-- The survivor `a` is not UNCONFIGURED. -/
theorem checkBondConnections_broken_two :
    ∃ s', (checkBondConnections crashEnv).run twoActiveNodes = .ok () s' ∧
      ¬ ∀ n ∈ ["a", "b"], n ≠ "b" → s'.nodeState n = .unconfigured := by
  obtain ⟨s', hrun, -, hiff⟩ := checkBondConnections_broken brokenBond_twoActiveNodes
  refine ⟨s', hrun, fun hclean => ?_⟩
  exact absurd (hiff.mp hclean "a" (by decide)) (by decide)

end Nav3D.Lifecycle

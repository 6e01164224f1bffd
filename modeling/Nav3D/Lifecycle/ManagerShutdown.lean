/-
Nav3D.Lifecycle.ManagerShutdown — what SHUTDOWN makes of the managed nodes.

`shutdown()` runs three passes over the nodes, last one first, and reports
success whatever they did. The first pass leaves ACTIVE every node listed
before an UNCONFIGURED one (`shutdown_leaves_active`), and no later pass
touches an ACTIVE node.
-/
import Nav3D.Lifecycle.ManagerRuns

namespace Nav3D.Lifecycle

open Sweep

variable {names : List String} {env : Env}

/-! ## The three passes -/

/-- The states after the three passes of `shutdownAllNodes`, from the last
node to the first. -/
def shutdownStates (ns : List String) (σ : String → LifecycleState) : String → LifecycleState :=
  let deactivated := sweep LifecycleTransition.deactivate.passes .inactive ns σ
  let cleanedUp := sweep LifecycleTransition.cleanup.passes .unconfigured ns deactivated
  sweep LifecycleTransition.unconfiguredShutdown.passes .finalized ns cleanedUp

/-- One pass of `shutdownAllNodes`. -/
theorem changeStateForAllNodes_accepts (henv : env.Accepts) {t : LifecycleTransition}
    (ht : t = .deactivate ∨ t = .cleanup ∨ t = .unconfiguredShutdown) {s : LifecycleManager}
    (hclients : ∀ n ∈ s.nodeNames, s.nodeMap n = true) :
    ∃ b s', (changeStateForAllNodes env t false).run s = .ok b s' ∧
      s'.nodeState = sweep t.passes (transitionStateMap t) s.nodeNames.reverse s.nodeState ∧
      SameNodes s s' := by
  have hall : (changeStateForAllNodes env t false).run s
      = (changeStateForNodes env t false s.nodeNames.reverse).run s := by
    rcases ht with rfl | rfl | rfl <;> rfl
  rw [hall]
  refine changeStateForNodes_accepts henv ?_ _ fun n hn => hclients n (List.mem_reverse.mp hn)
  rcases ht with rfl | rfl | rfl <;> decide

/-- `shutdown()` returns true, and the nodes have gone through the three
passes. -/
theorem shutdown_accepts (henv : env.Accepts) {s : LifecycleManager}
    (hclients : ∀ n ∈ s.nodeNames, s.nodeMap n = true) :
    ∃ s', (shutdown env).run s = .ok true s' ∧
      s'.nodeState = shutdownStates s.nodeNames.reverse s.nodeState := by
  let s₀ : LifecycleManager := { s with systemActive := false, bondTimer := false }
  have hclients₀ : ∀ n ∈ s₀.nodeNames, s₀.nodeMap n = true := hclients
  obtain ⟨_, s₁, hrun₁, hstate₁, hmap₁, hnames₁⟩ :=
    changeStateForAllNodes_accepts henv (Or.inl rfl) hclients₀
  have hclients₁ : ∀ n ∈ s₁.nodeNames, s₁.nodeMap n = true := by
    rw [hmap₁, hnames₁]
    exact hclients₀
  obtain ⟨_, s₂, hrun₂, hstate₂, hmap₂, hnames₂⟩ :=
    changeStateForAllNodes_accepts henv (Or.inr (Or.inl rfl)) hclients₁
  have hclients₂ : ∀ n ∈ s₂.nodeNames, s₂.nodeMap n = true := by
    rw [hmap₂, hnames₂]
    exact hclients₁
  obtain ⟨_, s₃, hrun₃, hstate₃, -, -⟩ :=
    changeStateForAllNodes_accepts henv (Or.inr (Or.inr rfl)) hclients₂
  refine ⟨{ s₃ with nodeMap := fun _ => false }, ?_, ?_⟩
  · have hactive : (setSystemActive false).run s = .ok () { s with systemActive := false } := rfl
    have htimer : destroyBondTimer.run { s with systemActive := false } = .ok () s₀ := rfl
    have hdestroy : destroyLifecycleServiceClients.run s₃
        = .ok () { s₃ with nodeMap := fun _ => false } := rfl
    simp only [shutdown, shutdownAllNodes, EStateM.run_bind, hactive, htimer, hrun₁, hrun₂, hrun₃,
      hdestroy, EStateM.run_pure]
  · show s₃.nodeState = _
    rw [hstate₃, hstate₂, hstate₁, hnames₂, hnames₁]
    rfl

/-- No pass but the last finalizes a node. -/
theorem sweep_not_finalized {t : LifecycleTransition} (ht : transitionStateMap t ≠ .finalized)
    (ns : List String) {σ : String → LifecycleState} (hσ : ∀ n, σ n ≠ .finalized) (n : String) :
    sweep t.passes (transitionStateMap t) ns σ n ≠ .finalized := by
  rcases sweep_eq_or t.passes_target ns σ n with h | h
  · rw [h]; exact ht
  · rw [h]; exact hσ n

/-- The three passes finalize every node exactly if, in the order of the
passes, no UNCONFIGURED node comes before an ACTIVE one. -/
theorem shutdownStates_finalized {ns : List String} (hnd : ns.Nodup)
    {σ : String → LifecycleState} (hσ : ∀ n, σ n ≠ .finalized) :
    (∀ n ∈ ns, shutdownStates ns σ n = .finalized) ↔
      ns.Pairwise fun a b => σ b = .active → σ a ≠ .unconfigured := by
  let deactivated := sweep LifecycleTransition.deactivate.passes .inactive ns σ
  let cleanedUp := sweep LifecycleTransition.cleanup.passes .unconfigured ns deactivated
  have hdeactivated : ∀ n, deactivated n ≠ .finalized :=
    sweep_not_finalized (t := .deactivate) (by decide) ns hσ
  have hcleanedUp : ∀ n, cleanedUp n ≠ .finalized :=
    sweep_not_finalized (t := .cleanup) (by decide) ns hdeactivated
  have hlast : ∀ st : LifecycleState, st ≠ .finalized →
      (LifecycleTransition.unconfiguredShutdown.passes st = true ↔ st = .unconfigured) := by
    intro st hst
    cases st <;> first | decide | exact absurd rfl hst
  have hmiddle : ∀ st : LifecycleState, st ≠ .finalized →
      (LifecycleTransition.cleanup.passes st = true ↔ st ≠ .active) := by
    intro st hst
    cases st <;> first | decide | exact absurd rfl hst
  have hfirst : ∀ st : LifecycleState, st ≠ .finalized →
      (LifecycleTransition.deactivate.passes st = true ↔ st ≠ .unconfigured) := by
    intro st hst
    cases st <;> first | decide | exact absurd rfl hst
  have hreached : ∀ n, deactivated n ≠ .active ↔
      (σ n = .active → n ∈ ns.takeWhile fun a => LifecycleTransition.deactivate.passes (σ a)) := by
    intro n
    have happly := sweep_apply (LifecycleTransition.passes_target .deactivate) ns σ n
    show sweep _ (transitionStateMap .deactivate) ns σ n ≠ .active ↔ _
    rw [happly]
    split
    · next hmem => exact ⟨fun _ _ => hmem, fun _ => by decide⟩
    · next hmem => simp [hmem]
  calc (∀ n ∈ ns, shutdownStates ns σ n = .finalized)
      ↔ ∀ n ∈ ns, LifecycleTransition.unconfiguredShutdown.passes (cleanedUp n) = true :=
        sweep_all (LifecycleTransition.passes_target .unconfiguredShutdown) ns cleanedUp
    _ ↔ ∀ n ∈ ns, cleanedUp n = .unconfigured :=
        forall₂_congr fun n _ => hlast _ (hcleanedUp n)
    _ ↔ ∀ n ∈ ns, LifecycleTransition.cleanup.passes (deactivated n) = true :=
        sweep_all (LifecycleTransition.passes_target .cleanup) ns deactivated
    _ ↔ ∀ n ∈ ns, (σ n = .active →
          n ∈ ns.takeWhile fun a => LifecycleTransition.deactivate.passes (σ a)) :=
        forall₂_congr fun n _ => (hmiddle _ (hdeactivated n)).trans (hreached n)
    _ ↔ ns.Pairwise fun a b => σ b = .active →
          LifecycleTransition.deactivate.passes (σ a) = true :=
        takeWhile_of_pairwise (fun n hn => by rw [hn]; decide) hnd
    _ ↔ ns.Pairwise fun a b => σ b = .active → σ a ≠ .unconfigured := by
        have heq : (fun a b => σ b = .active → LifecycleTransition.deactivate.passes (σ a) = true)
            = fun a b => σ b = .active → σ a ≠ .unconfigured :=
          funext₂ fun a b => propext (imp_congr_right fun _ => hfirst _ (hσ a))
        rw [heq]

/-- **SHUTDOWN finalizes every node** exactly if no ACTIVE node is listed
before an UNCONFIGURED one; it returns true in any case. -/
theorem shutdown_finalizes (hnd : names.Nodup) {s : LifecycleManager}
    (h : (managerSystem names).Reach NoShutdown s) (henv : env.Accepts) :
    ∃ s', (managerCallback env .shutdown).run s = .ok true s' ∧
      ((∀ n ∈ names, s'.nodeState n = .finalized) ↔
        names.Pairwise fun a b => s.nodeState a = .active → s.nodeState b ≠ .unconfigured) := by
  have hserve := serving_of_reach h
  obtain ⟨s', hrun, hstate⟩ :=
    shutdown_accepts henv (s := s) (by rw [hserve.nodeNames]; exact hserve.clients)
  refine ⟨s', hrun, ?_⟩
  have hall := shutdownStates_finalized (List.nodup_reverse.mpr hnd) hserve.notFinalized
  rw [List.pairwise_reverse] at hall
  rw [hstate, hserve.nodeNames, ← hall]
  simp only [List.mem_reverse]

/-! ## A run that leaves a node ACTIVE -/

/-- All services answer, all bonds form, except that node `b` cannot be
configured when `configures` is false. -/
def twoNodesEnv (configures : Bool) : Env where
  changeState := fun _ n => .answered (configures || n != "b")
  getState := fun _ _ => true
  waitUntilFormed := fun _ _ => true
  isBroken := fun _ _ => false
  ok := fun _ => true
  now := fun _ => 0

theorem accepts_twoNodesEnv : (twoNodesEnv true).Accepts :=
  fun _ => ⟨fun _ => rfl, fun _ => rfl⟩

/-- A fresh manager of the nodes `a` and `b` with the default parameters. -/
def twoNodes : LifecycleManager where
  nodeNames := ["a", "b"]
  nodeMap := fun n => n == "a" || n == "b"
  bondMap := ∅
  bondTimeout := 4000
  bondRespawnMaxDuration := 10000000000
  attemptRespawnReconnection := true
  systemActive := false
  bondTimer := false
  bondRespawnTimer := false
  bondRespawnStartTime := 0
  nodeState := fun _ => .unconfigured
  history := []
  calls := 0

theorem fresh_twoNodes : Fresh ["a", "b"] twoNodes :=
  ⟨rfl, by decide, fun _ => rfl, rfl, rfl⟩

instance (s : LifecycleManager) (l : Command × Env) : Decidable (NoShutdown s l) :=
  inferInstanceAs (Decidable (_ ≠ _))

/-- STARTUP fails on `b`, RESUME activates `a` and fails on `b`, SHUTDOWN
returns true and leaves `a` ACTIVE. -/
theorem shutdown_leaves_active : ∃ s s', (managerSystem ["a", "b"]).Reach NoShutdown s ∧
    (twoNodesEnv true).Accepts ∧
    (managerCallback (twoNodesEnv true) .shutdown).run s = .ok true s' ∧
    s'.nodeState "a" = .active := by
  obtain ⟨s, hr, hs⟩ := Transition.System.exists_reach_of_runWhile
    (S := managerSystem ["a", "b"]) NoShutdown
    [(.startup, twoNodesEnv false), (.resume, twoNodesEnv true)]
    (returns (managerCallback (twoNodesEnv true) .shutdown)
      fun success s' => success && decide (s'.nodeState "a" = .active))
    fresh_twoNodes (by decide +kernel)
  obtain ⟨success, s', hrun, hend⟩ := exists_of_returns hs
  rw [Bool.and_eq_true, decide_eq_true_eq] at hend
  obtain ⟨rfl, hstate⟩ := hend
  exact ⟨s, s', hr, accepts_twoNodesEnv, hrun, hstate⟩

/-- After a full STARTUP and a PAUSE every node is finalized. -/
theorem shutdown_finalizes_paused : ∃ s s', (managerSystem ["a", "b"]).Reach NoShutdown s ∧
    (managerCallback (twoNodesEnv true) .shutdown).run s = .ok true s' ∧
    ∀ n ∈ ["a", "b"], s'.nodeState n = .finalized := by
  obtain ⟨s, hr, hs⟩ := Transition.System.exists_reach_of_runWhile
    (S := managerSystem ["a", "b"]) NoShutdown
    [(.startup, twoNodesEnv true), (.pause, twoNodesEnv true)]
    (fun s => s.nodeState "a" = .inactive && s.nodeState "b" = .inactive) fresh_twoNodes
    (by decide +kernel)
  rw [Bool.and_eq_true, decide_eq_true_eq, decide_eq_true_eq] at hs
  obtain ⟨s', hrun, hall⟩ :=
    shutdown_finalizes (by decide) hr accepts_twoNodesEnv
  refine ⟨s, s', hr, hrun, hall.mpr ?_⟩
  simp [hs.1, hs.2]

end Nav3D.Lifecycle

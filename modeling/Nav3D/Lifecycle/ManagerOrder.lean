/-
Nav3D.Lifecycle.ManagerOrder — the order in which the managed nodes are
ACTIVE.

A pass of ACTIVATE goes forwards and comes to a node only when all nodes
before it have been seen ACTIVE; a pass of DEACTIVATE goes backwards and
comes to a node only when all nodes after it have been seen INACTIVE. So
after every request the ACTIVE nodes are a prefix of the list
(`active_prefix`), whatever fails or throws.
-/
import Nav3D.Lib.InitialSegment
import Nav3D.Lifecycle.ManagerShutdown

namespace Nav3D.Lifecycle

open StateInvariant InitialSegment

/-- The ACTIVE nodes are a prefix of the list. -/
def ActivePrefix (names : List String) (σ : String → LifecycleState) : Prop :=
  names.filter (fun n => σ n = .active) <+: names

/-- The nodes and clients are there, and the ACTIVE nodes have been an
initial segment of the list after every request. -/
structure Ordered (names : List String) (s : LifecycleManager) : Prop where
  nodeNames : s.nodeNames = names
  clients : ∀ n ∈ names, s.nodeMap n = true
  order : ∀ σ ∈ s.nodeState :: s.history, UpTo (fun n => σ n = .active) names

variable {names : List String} {env : Env} {n : String} {t : LifecycleTransition}
  {s s' : LifecycleManager}

theorem Ordered.changed (h : Ordered names s) (hchange : NodeChange n t s s')
    (hup : UpTo (fun m => s'.nodeState m = .active) names) : Ordered names s' := by
  refine ⟨hchange.settings.nodeNames.trans h.nodeNames, fun m hm => ?_, fun σ hσ => ?_⟩
  · rw [hchange.settings.nodeMap]
    exact h.clients m hm
  · rw [hchange.history, List.mem_cons, List.mem_cons] at hσ
    rcases hσ with rfl | rfl | hσ
    · exact hup
    · exact hup
    · exact h.order σ (List.mem_cons_of_mem _ hσ)

/-! ## Passes -/

/-- Only ACTIVATE and DEACTIVATE have to do with ACTIVE nodes. -/
theorem apply_eq_active (hactivate : t ≠ .activate) (hdeactivate : t ≠ .deactivate)
    (st : LifecycleState) : t.apply st = .active ↔ st = .active := by
  cases t with
  | activate => exact absurd rfl hactivate
  | deactivate => exact absurd rfl hdeactivate
  | _ => cases st <;> decide

theorem ordered_pass_others (hactivate : t ≠ .activate) (hdeactivate : t ≠ .deactivate) :
    Triple (Ordered names) (changeStateForAllNodes env t false) (fun _ => Ordered names)
      (fun _ _ => False) := by
  refine triple_changeStateForAllNodes (fun n s s' _ h hchange => ?_) fun s h n hn => ?_
  · refine h.changed hchange ((h.order _ List.mem_cons_self).congr fun m _ => ?_)
    by_cases hm : m = n
    · subst hm
      rcases hchange.nodeState_self with hsame | htook
      · rw [hsame]
      · rw [htook, apply_eq_active hactivate hdeactivate]
    · rw [hchange.nodeState_of_ne hm]
  · rw [h.nodeNames] at hn
    exact h.clients n hn

/-- Forwards: the nodes before the next one are ACTIVE. -/
theorem ordered_activate (hnd : names.Nodup) :
    Triple (Ordered names) (changeStateForAllNodes env .activate false) (fun _ => Ordered names)
      (fun _ _ => False) := by
  have hkeeps : ∀ n rest s s', (Ordered names s ∧ ∃ done, names = done ++ n :: rest ∧
      ∀ m ∈ done, s.nodeState m = .active) → NodeChange n .activate s s' → Ordered names s' := by
    rintro n rest s s' ⟨h, done, rfl, hdone⟩ hchange
    refine h.changed hchange ((h.order _ List.mem_cons_self).switchOn hnd hdone
      (fun m hm => by rw [hchange.nodeState_of_ne hm]) fun hon => ?_)
    rcases hchange.nodeState_self with hsame | htook
    · rw [hsame]; exact hon
    · rw [htook, hon]; rfl
  have hloop := triple_changeStateForNodes env .activate false
    (I := fun rest s => Ordered names s ∧ ∃ done, names = done ++ rest ∧
      ∀ m ∈ done, s.nodeState m = .active) (S := Ordered names) (N := fun _ => False)
    (fun n rest s s' h hchange htrue => by
      have hordered := hkeeps n rest s s' h hchange
      obtain ⟨_, done, hnames, hdone⟩ := h
      have hn : s'.nodeState n = .active := (htrue.resolve_right Bool.noConfusion).nodeState
      refine ⟨hordered, done ++ [n], by rw [hnames, List.append_assoc]; rfl, fun m hm => ?_⟩
      by_cases hmn : m = n
      · rw [hmn]; exact hn
      · rw [hchange.nodeState_of_ne hmn]
        exact hdone m ((List.mem_append.mp hm).resolve_right fun h => hmn (List.mem_singleton.mp h)))
    hkeeps
    (fun n rest s ⟨h, done, hnames, _⟩ hnull => by
      rw [h.clients n (by rw [hnames]; simp)] at hnull
      cases hnull)
  refine triple_start fun s hs => triple_forwards (.inr rfl) ?_
  refine triple_conseq (hloop s.nodeNames) ?_ (fun b s' hs' => ?_) fun _ _ he => he.2
  · rintro _ rfl
    exact ⟨hs, [], hs.nodeNames.symm, fun _ hm => by cases hm⟩
  · cases b with
    | true => exact (hs'.1 rfl).1
    | false => exact hs'.2 rfl

/-- Backwards: the nodes after the next one are not ACTIVE. -/
theorem ordered_deactivate (hnd : names.Nodup) :
    Triple (Ordered names) (changeStateForAllNodes env .deactivate false) (fun _ => Ordered names)
      (fun _ _ => False) := by
  have hkeeps : ∀ n rest s s', (Ordered names s ∧ ∃ done, names = (n :: rest).reverse ++ done ∧
      ∀ m ∈ done, s.nodeState m ≠ .active) → NodeChange n .deactivate s s' → Ordered names s' := by
    rintro n rest s s' ⟨h, done, hnames, hdone⟩ hchange
    rw [List.reverse_cons, List.append_assoc, List.singleton_append] at hnames
    have hup := h.order _ List.mem_cons_self
    rw [hnames] at hup hnd
    refine h.changed hchange ?_
    rw [hnames]
    refine hup.switchOff hnd hdone (fun m hm => by rw [hchange.nodeState_of_ne hm]) fun hon => ?_
    rcases hchange.nodeState_self with hsame | htook
    · rw [← hsame]; exact hon
    · rw [htook] at hon
      revert hon
      cases s.nodeState n <;> decide
  have hloop := triple_changeStateForNodes env .deactivate false
    (I := fun rest s => Ordered names s ∧ ∃ done, names = rest.reverse ++ done ∧
      ∀ m ∈ done, s.nodeState m ≠ .active) (S := Ordered names) (N := fun _ => False)
    (fun n rest s s' h hchange htrue => by
      have hordered := hkeeps n rest s s' h hchange
      obtain ⟨_, done, hnames, hdone⟩ := h
      have hn : s'.nodeState n = .inactive := (htrue.resolve_right Bool.noConfusion).nodeState
      refine ⟨hordered, n :: done, by rw [hnames]; simp, fun m hm => ?_⟩
      by_cases hmn : m = n
      · rw [hmn, hn]; decide
      · rw [hchange.nodeState_of_ne hmn]
        exact hdone m ((List.mem_cons.mp hm).resolve_left hmn))
    hkeeps
    (fun n rest s ⟨h, done, hnames, _⟩ hnull => by
      rw [h.clients n (by rw [hnames]; simp)] at hnull
      cases hnull)
  refine triple_start fun s hs => triple_backwards (by decide) ?_
  refine triple_conseq (hloop s.nodeNames.reverse) ?_ (fun b s' hs' => ?_) fun _ _ he => he.2
  · rintro _ rfl
    exact ⟨hs, [], by rw [List.reverse_reverse, List.append_nil, hs.nodeNames],
      fun _ hm => by cases hm⟩
  · cases b with
    | true => exact (hs'.1 rfl).1
    | false => exact hs'.2 rfl

theorem ordered_pass (hnd : names.Nodup) (t : LifecycleTransition) :
    Triple (Ordered names) (changeStateForAllNodes env t false) (fun _ => Ordered names)
      (fun _ _ => False) := by
  cases t with
  | activate => exact ordered_activate hnd
  | deactivate => exact ordered_deactivate hnd
  | configure => exact ordered_pass_others (by decide) (by decide)
  | cleanup => exact ordered_pass_others (by decide) (by decide)
  | unconfiguredShutdown => exact ordered_pass_others (by decide) (by decide)

/-! ## Commands -/

theorem ordered_managerCallback (hnd : names.Nodup) (env : Env) {c : Command} (hc : c ≠ .shutdown) :
    Triple (Ordered names) (managerCallback env c) (fun _ => Ordered names) (fun _ _ => False) :=
  triple_managerCallback (fun _ _ _ h => ⟨h.nodeNames, h.clients, h.order⟩)
    (fun t _ => ordered_pass hnd t) hc

theorem Ordered.activePrefix (h : Ordered names s) (σ : String → LifecycleState)
    (hσ : σ ∈ s.nodeState :: s.history) : ActivePrefix names σ := by
  refine UpTo.filter_prefix ((h.order σ hσ).congr fun n _ => ?_)
  rw [decide_eq_true_eq]

/-- **The ACTIVE nodes are a prefix of the list** after every request of a
run of commands, and of a SHUTDOWN that ends it. -/
theorem active_prefix (hnd : names.Nodup) {s₀ : LifecycleManager} (h0 : Fresh names s₀)
    (hempty : s₀.history = []) {ls : List (Command × Env)}
    (h : (managerSystem names).Path NoShutdown s₀ ls s) :
    (∀ σ ∈ s.nodeState :: s.history, ActivePrefix names σ) ∧
      ∀ env b s', (managerCallback env .shutdown).run s = .ok b s' →
        ∀ σ ∈ s'.nodeState :: s'.history, ActivePrefix names σ := by
  have hordered : Ordered names s := by
    refine h.invariant (Ordered names) ⟨h0.nodeNames, h0.clients, fun σ hσ => ?_⟩ ?_
    · rw [hempty, List.mem_singleton] at hσ
      subst hσ
      refine upTo_of_none fun n hn => ?_
      rw [h0.unconfigured n] at hn
      cases hn
    · rintro t ⟨c, env⟩ t' _ ht hc hstep
      simp only [managerSystem] at hstep
      split at hstep
      · next b s' hrun =>
        cases hstep
        exact (ordered_managerCallback hnd env hc).ok ht hrun
      · cases hstep
  refine ⟨hordered.activePrefix, fun env b s' hrun => ?_⟩
  have hshutdown : Triple (Ordered names) (shutdown env) _ (fun _ _ => False) :=
    triple_shutdown (fun _ _ _ h => ⟨h.nodeNames, h.clients, h.order⟩) (ordered_pass hnd)
  obtain ⟨-, s₁, hs₁, rfl⟩ := hshutdown.ok hordered hrun
  exact hs₁.activePrefix

/-- After a STARTUP that fails on `b`, a RESUME and a SHUTDOWN, the ACTIVE
nodes have been a prefix all along; `a` was ACTIVE alone. -/
theorem active_prefix_failed_startup : ∃ s,
    (managerSystem ["a", "b"]).Path NoShutdown twoNodes
      [(.startup, twoNodesEnv false), (.resume, twoNodesEnv true)] s ∧
    s.nodeState "a" = .active ∧ s.nodeState "b" = .unconfigured ∧
    (∀ σ ∈ s.nodeState :: s.history, ActivePrefix ["a", "b"] σ) ∧
    ∀ env b s', (managerCallback env .shutdown).run s = .ok b s' →
      ∀ σ ∈ s'.nodeState :: s'.history, ActivePrefix ["a", "b"] σ := by
  have hrun : (Transition.System.runWhile NoShutdown (managerSystem ["a", "b"]) twoNodes
      [(.startup, twoNodesEnv false), (.resume, twoNodesEnv true)]).any
      (fun s => s.nodeState "a" = .active && s.nodeState "b" = .unconfigured) = true := by
    decide +kernel
  rw [Option.any_eq_true] at hrun
  obtain ⟨s, hs, hstates⟩ := hrun
  rw [Bool.and_eq_true, decide_eq_true_eq, decide_eq_true_eq] at hstates
  have hpath := Transition.System.path_of_runWhile hs
  exact ⟨s, hpath, hstates.1, hstates.2, active_prefix (by decide) fresh_twoNodes rfl hpath⟩

end Nav3D.Lifecycle

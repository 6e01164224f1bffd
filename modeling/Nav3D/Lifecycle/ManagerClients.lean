/-
Nav3D.Lifecycle.ManagerClients — commands after a SHUTDOWN.

SHUTDOWN destroys the clients and leaves the command service up: the next
command that the `switch` of `managerCallback` has a case for dereferences
a null client at its first node. `commands_served` says for every sequence
of commands that all of them return exactly if no such command follows a
SHUTDOWN.
-/
import Nav3D.Lifecycle.ManagerShutdown

namespace Nav3D.Lifecycle

open StateInvariant

variable {env : Env} {c : Command}

/-- The `switch` of `managerCallback` has a case for the command. -/
def Command.isHandled : Command → Bool
  | .configure | .cleanup => false
  | _ => true

/-! ## While the clients are there -/

/-- There are managed nodes, and each has its client. -/
structure Serves (s : LifecycleManager) : Prop where
  nodes : s.nodeNames ≠ []
  clients : ∀ n ∈ s.nodeNames, s.nodeMap n = true

/-- There are managed nodes, and all clients are destroyed. -/
structure Destroyed (s : LifecycleManager) : Prop where
  nodes : s.nodeNames ≠ []
  clients : ∀ n, s.nodeMap n = false

theorem serves_changeStateForAllNodes {t : LifecycleTransition} {hard : Bool} :
    Triple Serves (changeStateForAllNodes env t hard) (fun _ => Serves) (fun _ _ => False) := by
  refine triple_changeStateForAllNodes (fun n s s' _ h hchange => ⟨?_, fun m hm => ?_⟩)
    fun s h => h.clients
  · rw [hchange.settings.nodeNames]
    exact h.nodes
  · rw [hchange.settings.nodeNames] at hm
    rw [hchange.settings.nodeMap]
    exact h.clients m hm

theorem serves_managerCallback (env : Env) (hc : c ≠ .shutdown) :
    Triple Serves (managerCallback env c) (fun _ => Serves) (fun _ _ => False) :=
  triple_managerCallback (fun _ _ _ h => ⟨h.nodes, h.clients⟩)
    (fun _ _ => serves_changeStateForAllNodes) hc

theorem serves_shutdown (env : Env) :
    Triple Serves (shutdown env) (fun _ => Destroyed) (fun _ _ => False) := by
  refine triple_conseq (triple_shutdown (fun _ _ _ h => ⟨h.nodes, h.clients⟩)
    fun _ => serves_changeStateForAllNodes) (fun _ h => h) ?_ fun _ _ he => he
  rintro _ _ ⟨-, s', hs', rfl⟩
  exact ⟨hs'.nodes, fun _ => rfl⟩

/-! ## Once they are destroyed -/

/-- Every pass starts with a node, whose client is null. -/
theorem destroyed_changeStateForAllNodes {t : LifecycleTransition} {hard : Bool} :
    Triple Destroyed (changeStateForAllNodes env t hard) (fun _ _ => False)
      (fun e _ => e = .nullDeref) := by
  have hnone : ∀ n rest s s', (Destroyed s ∧ n :: rest ≠ []) → NodeChange n t s s' → False := by
    intro n rest s s' h hchange
    have hclient := hchange.client
    rw [h.1.clients n] at hclient
    cases hclient
  refine triple_start fun s hs => triple_allNodes fun ns hns => ?_
  have hloop := triple_changeStateForNodes env t hard
    (I := fun rest s => Destroyed s ∧ rest ≠ []) (S := fun _ => False) (N := fun _ => True)
    (fun n rest s s' h hchange _ => absurd (hnone n rest s s' h hchange) not_false)
    hnone (fun _ _ _ _ _ => trivial) ns
  refine triple_conseq hloop ?_ (fun b s' hs' => ?_) fun _ _ he => he.1
  · rintro _ rfl
    obtain ⟨n, hn⟩ := List.exists_mem_of_ne_nil _ hs.nodes
    exact ⟨hs, List.ne_nil_of_mem ((hns n).mpr hn)⟩
  · cases b with
    | true => exact (hs'.1 rfl).2 rfl
    | false => exact hs'.2 rfl

theorem destroyed_managerCallback (env : Env) (hc : c.isHandled = true) :
    Triple Destroyed (managerCallback env c) (fun _ _ => False) (fun e _ => e = .nullDeref) := by
  have hnever : ∀ {α β : Type} {x : ManagerM α} {f : α → ManagerM β},
      Triple Destroyed x (fun _ _ => False) (fun e _ => e = .nullDeref) →
        Triple Destroyed (x >>= f) (fun _ _ => False) (fun e _ => e = .nullDeref) := fun hx =>
    triple_bind hx fun _ => triple_start fun _ hf => hf.elim
  have hstop : ∀ x : ManagerM Bool,
      Triple Destroyed x (fun _ _ => False) (fun e _ => e = .nullDeref) →
      Triple Destroyed (do setSystemActive false; destroyBondTimer; x) (fun _ _ => False)
        (fun e _ => e = .nullDeref) := fun x hx => by
    refine triple_bind (Q := fun _ => Destroyed) ?_ fun _ => ?_
    · exact triple_modify fun _ h => ⟨h.nodes, h.clients⟩
    refine triple_bind (Q := fun _ => Destroyed) ?_ fun _ => hx
    exact triple_modify fun _ h => ⟨h.nodes, h.clients⟩
  cases c with
  | startup => exact hnever (hnever destroyed_changeStateForAllNodes)
  | pause => exact hstop _ destroyed_changeStateForAllNodes
  | resume => exact hnever destroyed_changeStateForAllNodes
  | reset => exact hstop _ (hnever (hnever destroyed_changeStateForAllNodes))
  | shutdown => exact hstop _ (hnever (hnever destroyed_changeStateForAllNodes))
  | configure => cases hc
  | cleanup => cases hc

/-! ## Sequences of commands -/

variable {names : List String} {s : LifecycleManager}

theorem destroyed_run (ls : List (Command × Env)) (h : Destroyed s) :
    ((managerSystem names).run s ls).isSome = true ↔ ∀ l ∈ ls, l.1.isHandled = false := by
  induction ls with
  | nil => simp
  | cons l ls ih =>
    obtain ⟨c, env⟩ := l
    rw [Transition.System.run_cons, List.forall_mem_cons]
    cases hc : c.isHandled with
    | true =>
      have hnull := destroyed_managerCallback env hc s h
      have hstep : (managerSystem names).step s (c, env) = none := by
        simp only [managerSystem]
        cases hrun : (managerCallback env c).run s with
        | ok b s' => rw [hrun] at hnull; exact hnull.elim
        | error e s' => rfl
      simp [hstep]
    | false =>
      have hstep : (managerSystem names).step s (c, env) = some s := by
        cases c <;> first | rfl | cases hc
      rw [hstep, Option.bind_some, ih]
      simp

/-- **Every command returns** exactly if no command that `managerCallback`
handles follows a SHUTDOWN. -/
theorem commands_served (ls : List (Command × Env)) (h : Serves s) :
    ((managerSystem names).run s ls).isSome = true ↔
      ls.Pairwise fun a b => a.1 = .shutdown → b.1.isHandled = false := by
  induction ls generalizing s with
  | nil => simp
  | cons l ls ih =>
    obtain ⟨c, env⟩ := l
    rw [Transition.System.run_cons, List.pairwise_cons]
    by_cases hc : c = .shutdown
    · subst hc
      have hshutdown := serves_shutdown env s h
      cases hrun : (shutdown env).run s with
      | error e s' => rw [hrun] at hshutdown; exact hshutdown.elim
      | ok b s' =>
        rw [hrun] at hshutdown
        have hstep : (managerSystem names).step s (.shutdown, env) = some s' := by
          simp only [managerSystem, managerCallback, hrun]
        rw [hstep, Option.bind_some, destroyed_run ls hshutdown]
        constructor
        · refine fun hall => ⟨fun l hl _ => hall l hl, ?_⟩
          refine List.pairwise_of_forall_mem_list fun a ha b hb hshut => hall b hb
        · exact fun hall l hl => hall.1 l hl rfl
    · have hserves := serves_managerCallback env hc s h
      cases hrun : (managerCallback env c).run s with
      | error e s' => rw [hrun] at hserves; exact hserves.elim
      | ok b s' =>
        rw [hrun] at hserves
        have hstep : (managerSystem names).step s (c, env) = some s' := by
          simp only [managerSystem, hrun]
        rw [hstep, Option.bind_some, ih hserves]
        exact ⟨fun hall => ⟨fun _ _ hshut => absurd hshut hc, hall⟩, fun hall => hall.2⟩

/-! ## Two runs -/

theorem serves_twoNodes : Serves twoNodes := ⟨by decide, by decide⟩

/-- A STARTUP after a SHUTDOWN dereferences a null client. -/
theorem startup_after_shutdown : Fresh ["a", "b"] twoNodes ∧
    ∃ s', (managerCallback (twoNodesEnv true) .shutdown).run twoNodes = .ok true s' ∧
      ∃ s'', (managerCallback (twoNodesEnv true) .startup).run s' = .error .nullDeref s'' := by
  refine ⟨fresh_twoNodes, ?_⟩
  obtain ⟨s', hrun, -⟩ := shutdown_accepts accepts_twoNodesEnv serves_twoNodes.clients
  refine ⟨s', hrun, ?_⟩
  have hnull := destroyed_managerCallback (twoNodesEnv true) (c := .startup) rfl s'
    ((serves_shutdown _).ok serves_twoNodes hrun)
  cases hstartup : (managerCallback (twoNodesEnv true) .startup).run s' with
  | ok b s'' => rw [hstartup] at hnull; exact hnull.elim
  | error e s'' => rw [hstartup] at hnull; exact ⟨s'', by rw [show e = .nullDeref from hnull]⟩

/-- STARTUP, PAUSE, RESUME, RESET and a last SHUTDOWN all return. -/
theorem commands_served_until_shutdown :
    ((managerSystem ["a", "b"]).run twoNodes [(.startup, twoNodesEnv true),
      (.pause, twoNodesEnv false), (.resume, twoNodesEnv true), (.reset, twoNodesEnv true),
      (.shutdown, twoNodesEnv true)]).isSome = true :=
  (commands_served _ serves_twoNodes).mpr (by simp [List.pairwise_cons])

end Nav3D.Lifecycle

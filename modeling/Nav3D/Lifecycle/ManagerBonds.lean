/-
Nav3D.Lifecycle.ManagerBonds — whether the bonds of an active system have
formed.

A bond is stored before it is known to have formed, and
`createBondConnection` takes any stored bond for a good one. A STARTUP that
fails because a bond has not formed leaves it in `bond_map_`, and the next
RESUME sets `system_active_` with it (`resume_with_unformed_bond`).
STARTUP and RESUME end with formed bonds exactly if they find no unformed
one (`bonds_formed`).
-/
import Nav3D.Lifecycle.ManagerActive

namespace Nav3D.Lifecycle

open StateInvariant

variable {names : List String} {env : Env} {s s' : LifecycleManager}

/-- `bond_map_` holds no bond of a managed node that has not formed. -/
def Formed (s : LifecycleManager) : Prop :=
  ∀ n ∈ s.nodeNames, (s.bondMap.lookup n).all Bond.formed = true

/-- `bond_map_` holds a bond that has formed for every node of `names`. -/
def AllFormed (names : List String) (s : LifecycleManager) : Prop :=
  ∀ n ∈ names, ∃ b, s.bondMap.lookup n = some b ∧ b.formed = true

/-- STARTUP, PAUSE, RESUME and RESET, where STARTUP and RESUME find no
bond that has not formed. -/
def FormedStep (s : LifecycleManager) : Callback × Env → Prop
  | (.command .startup, _) | (.command .resume, _) => Formed s
  | (.command c, _) => c ≠ .shutdown
  | _ => False

instance (s : LifecycleManager) : Decidable (Formed s) :=
  inferInstanceAs (Decidable (∀ n ∈ s.nodeNames, (s.bondMap.lookup n).all Bond.formed = true))

instance (s : LifecycleManager) (l : Callback × Env) : Decidable (FormedStep s l) :=
  match l with
  | (.command .startup, _) | (.command .resume, _) => inferInstanceAs (Decidable (Formed s))
  | (.command .pause, _) => inferInstanceAs (Decidable (Command.pause ≠ .shutdown))
  | (.command .reset, _) => inferInstanceAs (Decidable (Command.reset ≠ .shutdown))
  | (.command .configure, _) => inferInstanceAs (Decidable (Command.configure ≠ .shutdown))
  | (.command .cleanup, _) => inferInstanceAs (Decidable (Command.cleanup ≠ .shutdown))
  | (.command .shutdown, _) => isFalse fun h => h rfl
  | (.checkBondConnections, _) | (.checkBondRespawnConnection, _) => isFalse not_false

theorem Formed.of_lookup (h : Formed s) {n : String} (hn : n ∈ s.nodeNames) {b : Bond}
    (hb : s.bondMap.lookup n = some b) : b.formed = true := by
  have hall := h n hn
  rw [hb] at hall
  exact hall

theorem formed_of_lookup (h : ∀ n ∈ s.nodeNames, ∀ b, s.bondMap.lookup n = some b →
    b.formed = true) : Formed s := by
  intro n hn
  cases hb : s.bondMap.lookup n with
  | none => rfl
  | some b => exact h n hn b hb

/-! ## One command -/

/-- When the command succeeds, the bonds that were there are still there,
and those it has created have formed. -/
theorem CameUp.allFormed_iff (h : CameUp true s s') (hpos : 0 < s.bondTimeout) :
    AllFormed s.nodeNames s' ↔ Formed s := by
  obtain ⟨hformed, hup⟩ := h.up rfl
  constructor
  · refine fun hall => formed_of_lookup fun n hn b hb => ?_
    obtain ⟨b', hb', htrue⟩ := hall n hn
    rw [h.broughtUp.bonds n b hb] at hb'
    cases hb'
    exact htrue
  · intro hall n hn
    have hsome := hup.bonds (by rw [h.broughtUp.bondTimeout]; exact hpos) n
      (by rw [h.broughtUp.nodeNames]; exact hn)
    obtain ⟨b, hb⟩ := Option.isSome_iff_exists.mp hsome
    refine ⟨b, hb, ?_⟩
    rcases hformed n b hb with hold | htrue
    · exact hall.of_lookup hn hold
    · exact htrue

/-- The bonds of an active system have formed. -/
structure FormedInv (names : List String) (s : LifecycleManager) : Prop
    extends ActiveInv names s where
  formed : s.systemActive = true → Formed s

theorem FormedInv.cameUp {b : Bool} (h : FormedInv names s) (hformed : Formed s)
    (hup : CameUp b s s') : FormedInv names s' := by
  refine ⟨h.toActiveInv.cameUp hup, fun hactive => formed_of_lookup fun n hn bond hbond => ?_⟩
  rw [hup.broughtUp.nodeNames] at hn
  cases b with
  | true =>
    rcases (hup.up rfl).1 n bond hbond with hold | htrue
    · exact hformed.of_lookup hn hold
    · exact htrue
  | false =>
    -- an active system has all its bonds already
    rw [hup.systemActive, Bool.false_or] at hactive
    rcases hup.broughtUp.newBonds n bond hbond with hold | hpos
    · exact hformed.of_lookup hn hold
    · obtain ⟨old, hold⟩ := Option.isSome_iff_exists.mp ((h.up hactive).bonds hpos n hn)
      rw [hup.broughtUp.bonds n old hold] at hbond
      cases hbond
      exact hformed.of_lookup hn hold

theorem FormedInv.cleared {x : ManagerM Bool} (h : FormedInv names s)
    (hx : Triple (Attached names false) x (fun _ => Attached names false) (fun _ _ => False)) :
    Triple (· = s) (do setSystemActive false; destroyBondTimer; x) (fun _ => FormedInv names)
      (fun _ _ => False) := by
  have hcleared : Triple (Attached names s.systemActive) _ _ _ := attached_cleared hx
  refine triple_conseq hcleared (fun s' hs' => hs' ▸ h.attached) (fun _ s' hs' => ?_)
    fun _ _ he => he
  refine ⟨hs'.activeInv, fun hactive => ?_⟩
  rw [hs'.systemActive] at hactive
  cases hactive

theorem formedInv_run {c : Callback} (h : FormedInv names s) (hl : FormedStep s (c, env)) :
    Triple (· = s) (c.run env) (fun _ => FormedInv names) (fun _ _ => False) := by
  match c, hl with
  | .command .startup, hl =>
    refine triple_bind (startup_cameUp h.clients) fun b => triple_pure fun s' hs' => ?_
    exact h.cameUp hl hs'
  | .command .resume, hl =>
    refine triple_bind (resume_cameUp h.clients) fun b => triple_pure fun s' hs' => ?_
    exact h.cameUp hl hs'
  | .command .pause, _ =>
    exact triple_bind (h.cleared attached_changeStateForAllNodes) fun _ => triple_pure fun _ hs => hs
  | .command .reset, _ =>
    exact triple_bind (h.cleared (triple_bind (triple_both attached_changeStateForAllNodes
      attached_changeStateForAllNodes) fun _ => triple_pure fun _ hs => hs)) fun _ =>
      triple_pure fun _ hs => hs
  | .command .configure, _ => exact triple_pure (by rintro _ rfl; exact h)
  | .command .cleanup, _ => exact triple_pure (by rintro _ rfl; exact h)
  | .command .shutdown, hl => exact absurd rfl hl

/-! ## Runs -/

theorem formedInv_of_reach (h : (callbackSystem names).Reach FormedStep s) : FormedInv names s := by
  refine h.invariant (fun s => FormedInv names s) (fun s hs => ?_) ?_
  · refine ⟨Attached.activeInv ⟨hs.nodeNames, hs.clients, hs.inactive, fun n b hb => ?_⟩,
      fun hactive => ?_⟩
    · rw [hs.bondMap] at hb
      cases hb
    · rw [hs.inactive] at hactive
      cases hactive
  · rintro s ⟨c, env⟩ s' hs hl hstep
    simp only [callbackSystem] at hstep
    split at hstep
    · next _ s'' hrun =>
      cases hstep
      exact (formedInv_run hs hl).ok rfl hrun
    · cases hstep

/-- **No active system without formed bonds** in a run whose commands keep
to `FormedStep`; and in each of its states, a STARTUP or RESUME that
succeeds ends with formed bonds exactly if it found no other. -/
theorem bonds_formed (hpos : 0 < s.bondTimeout) (h : (callbackSystem names).Reach FormedStep s) :
    (s.systemActive = true → AllFormed names s) ∧
    ∀ env c s', c = .startup ∨ c = .resume → (managerCallback env c).run s = .ok true s' →
      s'.systemActive = true ∧ (AllFormed names s' ↔ Formed s) := by
  have hinv := formedInv_of_reach h
  have hnames := hinv.attached.nodeNames
  refine ⟨fun hactive n hn => ?_, fun env c s' hc hrun => ?_⟩
  · rw [← hnames] at hn
    obtain ⟨b, hb⟩ := Option.isSome_iff_exists.mp ((hinv.up hactive).bonds hpos n hn)
    exact ⟨b, hb, (hinv.formed hactive).of_lookup hn hb⟩
  · have hup : CameUp true s s' := by
      rcases hc with rfl | rfl
      · exact (startup_cameUp hinv.clients).ok rfl hrun
      · exact (resume_cameUp hinv.clients).ok rfl hrun
    refine ⟨hup.systemActive, ?_⟩
    rw [← hnames]
    exact hup.allFormed_iff hpos

/-! ## Two runs -/

/-- All services answer, and the bond of `b` does not form. -/
def noBondEnv : Env := { twoNodesEnv true with waitUntilFormed := fun _ n => n != "b" }

/-- A RESUME after a STARTUP in which the bond of `b` has not formed returns
true with that bond. -/
theorem resume_with_unformed_bond : ∃ s s',
    (callbackSystem ["a", "b"]).Reach BeforeShutdown s ∧ 0 < s.bondTimeout ∧
    (managerCallback noBondEnv .resume).run s = .ok true s' ∧ s'.systemActive = true ∧
    s'.bondMap.lookup "b" = some ⟨false⟩ := by
  obtain ⟨s, hr, hs⟩ := Transition.System.exists_reach_of_runWhile
    (S := callbackSystem ["a", "b"]) BeforeShutdown [(.command .startup, noBondEnv)]
    (fun s => decide (0 < s.bondTimeout) && returns (managerCallback noBondEnv .resume)
      (fun success s' => success && s'.systemActive && s'.bondMap.lookup "b" == some ⟨false⟩) s)
    started_twoNodes (by decide +kernel)
  rw [Bool.and_eq_true, decide_eq_true_eq] at hs
  obtain ⟨success, s', hrun, hend⟩ := exists_of_returns hs.2
  rw [Bool.and_eq_true, Bool.and_eq_true, beq_iff_eq] at hend
  obtain ⟨⟨rfl, hactive⟩, hbond⟩ := hend
  exact ⟨s, s', hr, hs.1, hrun, hactive, hbond⟩

/-- After a RESET the bond is gone; the next STARTUP forms both bonds. -/
theorem bonds_formed_after_reset : ∃ s s',
    (callbackSystem ["a", "b"]).Reach FormedStep s ∧
    (managerCallback (twoNodesEnv true) .startup).run s = .ok true s' ∧
    AllFormed ["a", "b"] s' := by
  obtain ⟨s, hr, hs⟩ := Transition.System.exists_reach_of_runWhile
    (S := callbackSystem ["a", "b"]) FormedStep
    [(.command .startup, noBondEnv), (.command .reset, twoNodesEnv true)]
    (fun s => decide (0 < s.bondTimeout) && decide (Formed s) &&
      returns (managerCallback (twoNodesEnv true) .startup) (fun success _ => success) s)
    started_twoNodes (by decide +kernel)
  rw [Bool.and_eq_true, Bool.and_eq_true, decide_eq_true_eq, decide_eq_true_eq] at hs
  obtain ⟨success, s', hrun, rfl⟩ := exists_of_returns hs.2
  exact ⟨s, s', hr, hrun, (((bonds_formed hs.1.1 hr).2 _ _ s' (.inl rfl) hrun).2).mpr hs.1.2⟩

end Nav3D.Lifecycle

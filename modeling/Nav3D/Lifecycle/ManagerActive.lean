/-
Nav3D.Lifecycle.ManagerActive — what `system_active_` says about the nodes.

`startup()` and `resume()` set it only after a pass of ACTIVATE that has
seen every node ACTIVE, and every callback that deactivates nodes clears it
first. So between two callbacks an active system has all nodes ACTIVE and,
with a bond timeout, a bond for each (`active_means_active`), and the timer
that checks the bonds finds one for every node.
-/
import Nav3D.Lifecycle.ManagerShutdown

namespace Nav3D.Lifecycle

open StateInvariant

/-! ## Callbacks in sequence -/

/-- The callbacks of the manager. -/
inductive Callback where
  | command (c : Command)
  | checkBondConnections
  | checkBondRespawnConnection
  deriving DecidableEq

def Callback.run (env : Env) : Callback → ManagerM Unit
  | .command c => do
    let _ ← managerCallback env c
    return ()
  | .checkBondConnections => Lifecycle.checkBondConnections env
  | .checkBondRespawnConnection => Lifecycle.checkBondRespawnConnection env

/-- A manager of `names` just after `createLifecycleServiceClients`. -/
structure Started (names : List String) (s : LifecycleManager) : Prop where
  nodeNames : s.nodeNames = names
  clients : ∀ n ∈ names, s.nodeMap n = true
  inactive : s.systemActive = false
  bondMap : s.bondMap = ∅

/-- The manager serving commands and timers. A callback that does not
return has no successor. -/
def callbackSystem (names : List String) : Transition.System LifecycleManager (Callback × Env) where
  init := Started names
  step := fun s (c, env) =>
    match (c.run env).run s with
    | .ok _ s' => some s'
    | .error _ _ => none

/-- The callback is not a SHUTDOWN. -/
def BeforeShutdown (_ : LifecycleManager) (l : Callback × Env) : Prop := l.1 ≠ .command .shutdown

variable {names : List String} {env : Env} {t : LifecycleTransition} {s s' : LifecycleManager}

/-! ## What bringing the nodes up does -/

/-- Every managed node is ACTIVE and has a bond, if there are bonds. -/
structure Up (s : LifecycleManager) : Prop where
  active : ∀ n ∈ s.nodeNames, s.nodeState n = .active
  bonds : 0 < s.bondTimeout → ∀ n ∈ s.nodeNames, (s.bondMap.lookup n).isSome = true

/-- CONFIGURE and ACTIVATE take no node out of ACTIVE and remove no bond. -/
structure BroughtUp (s s' : LifecycleManager) : Prop where
  nodeNames : s'.nodeNames = s.nodeNames
  nodeMap : s'.nodeMap = s.nodeMap
  bondTimeout : s'.bondTimeout = s.bondTimeout
  active : ∀ n, s.nodeState n = .active → s'.nodeState n = .active
  bonds : ∀ n b, s.bondMap.lookup n = some b → s'.bondMap.lookup n = some b
  newBonds : ∀ n b, s'.bondMap.lookup n = some b →
    s.bondMap.lookup n = some b ∨ 0 < s.bondTimeout

theorem BroughtUp.refl (s : LifecycleManager) : BroughtUp s s :=
  ⟨rfl, rfl, rfl, fun _ h => h, fun _ _ h => h, fun _ _ h => .inl h⟩

theorem BroughtUp.trans {s'' : LifecycleManager} (h : BroughtUp s s') (h' : BroughtUp s' s'') :
    BroughtUp s s'' := by
  refine ⟨h'.nodeNames.trans h.nodeNames, h'.nodeMap.trans h.nodeMap,
    h'.bondTimeout.trans h.bondTimeout, fun n hn => h'.active n (h.active n hn),
    fun n b hb => h'.bonds n b (h.bonds n b hb), fun n b hb => ?_⟩
  rcases h'.newBonds n b hb with hold | hpos
  · exact h.newBonds n b hold
  · rw [h.bondTimeout] at hpos
    exact .inr hpos

theorem NodeChange.broughtUp {n : String} (ht : t = .configure ∨ t = .activate)
    (h : NodeChange n t s s') : BroughtUp s s' := by
  refine ⟨h.settings.nodeNames, h.settings.nodeMap, h.settings.bondTimeout, fun m hm => ?_,
    h.bonds (by rcases ht with rfl | rfl <;> decide), h.newBonds⟩
  by_cases hmn : m = n
  · subst hmn
    rcases h.nodeState_self with hsame | htook
    · rw [hsame, hm]
    · rw [htook, hm]
      rcases ht with rfl | rfl <;> rfl
  · rw [h.nodeState_of_ne hmn, hm]

theorem Up.broughtUp (h : Up s) (hup : BroughtUp s s') : Up s' := by
  refine ⟨fun n hn => ?_, fun hpos n hn => ?_⟩
  · rw [hup.nodeNames] at hn
    exact hup.active n (h.active n hn)
  · rw [hup.nodeNames] at hn
    rw [hup.bondTimeout] at hpos
    obtain ⟨b, hb⟩ := Option.isSome_iff_exists.mp (h.bonds hpos n hn)
    rw [hup.bonds n b hb]
    rfl

theorem NewFormed.trans {s'' : LifecycleManager} (h : NewFormed s s') (h' : NewFormed s' s'') :
    NewFormed s s'' := by
  intro n b hb
  rcases h' n b hb with hold | hformed
  · exact h n b hold
  · exact .inr hformed

/-- A pass of CONFIGURE or ACTIVATE. One of ACTIVATE that succeeds has
brought every node up. -/
theorem changeStateForAllNodes_bringsUp (ht : t = .configure ∨ t = .activate)
    (hclients : ∀ n ∈ s.nodeNames, s.nodeMap n = true) :
    Triple (· = s) (changeStateForAllNodes env t false)
      (fun b s' => (BroughtUp s s' ∧ s'.systemActive = s.systemActive) ∧
        (b = true → NewFormed s s' ∧ (t = .activate → Up s')))
      (fun _ _ => False) := by
  have hkept : ∀ n s₁ s₂, BroughtUp s s₁ ∧ s₁.systemActive = s.systemActive →
      NodeChange n t s₁ s₂ → BroughtUp s s₂ ∧ s₂.systemActive = s.systemActive :=
    fun n s₁ s₂ h hchange =>
      ⟨h.1.trans (hchange.broughtUp ht), hchange.settings.systemActive.trans h.2⟩
  -- the nodes passed so far have been seen in the state asked for
  let I : List String → LifecycleManager → Prop := fun rest s' =>
    (BroughtUp s s' ∧ s'.systemActive = s.systemActive) ∧ NewFormed s s' ∧
    ∃ done, s.nodeNames = done ++ rest ∧ (t = .activate → ∀ m ∈ done,
      s'.nodeState m = .active ∧ (0 < s.bondTimeout → (s'.bondMap.lookup m).isSome = true))
  have hloop : ∀ ns, Triple (I ns) (changeStateForNodes env t false ns) _ _ :=
    triple_changeStateForNodes env t false
      (S := fun s' => BroughtUp s s' ∧ s'.systemActive = s.systemActive) (N := fun _ => False)
      (fun n rest s₁ s₂ ⟨hup, hformed, done, hnames, hdone⟩ hchange htrue => by
        have hnode := htrue.resolve_right Bool.noConfusion
        have hstep := hchange.broughtUp ht
        have hup' := hkept n s₁ s₂ hup hchange
        refine ⟨hup', hformed.trans hnode.formed, done ++ [n],
          by rw [hnames, List.append_assoc]; rfl, fun hactivate m hm => ?_⟩
        rcases List.mem_append.mp hm with hold | hnew
        · obtain ⟨hstate, hbond⟩ := hdone hactivate m hold
          refine ⟨hstep.active m hstate, fun hpos => ?_⟩
          obtain ⟨b, hb⟩ := Option.isSome_iff_exists.mp (hbond hpos)
          rw [hstep.bonds m b hb]
          rfl
        · rw [List.mem_singleton.mp hnew]
          refine ⟨hnode.nodeState.trans (by rw [hactivate]; rfl), fun hpos => ?_⟩
          exact hnode.bond hactivate (by rw [hup'.1.bondTimeout]; exact hpos))
      (fun n rest s₁ s₂ h hchange => hkept n s₁ s₂ h.1 hchange)
      (fun n rest s₁ ⟨hup, _, done, hnames, _⟩ hnull => by
        rw [hup.1.nodeMap, hclients n (by rw [hnames]; simp)] at hnull
        cases hnull)
  refine triple_forwards ht (triple_conseq (hloop s.nodeNames) ?_ (fun b s' hs' => ?_)
    fun _ _ he => he.2)
  · rintro _ rfl
    exact ⟨⟨.refl _, rfl⟩, fun _ _ hb => .inl hb, [], rfl, fun _ _ hm => by cases hm⟩
  cases b with
  | false => exact ⟨hs'.2 rfl, fun hf => by cases hf⟩
  | true =>
    obtain ⟨hup, hformed, done, hnames, hdone⟩ := hs'.1 rfl
    rw [List.append_nil] at hnames
    refine ⟨hup, fun _ => ⟨hformed, fun hactivate => ⟨fun n hn => ?_, fun hpos n hn => ?_⟩⟩⟩
    · rw [hup.1.nodeNames, hnames] at hn
      exact (hdone hactivate n hn).1
    · rw [hup.1.nodeNames, hnames] at hn
      rw [hup.1.bondTimeout] at hpos
      exact (hdone hactivate n hn).2 hpos

/-! ## Callbacks -/

/-- The nodes and clients are there, the flag is `active`, and there are no
bonds without a timeout. -/
structure Attached (names : List String) (active : Bool) (s : LifecycleManager) : Prop where
  nodeNames : s.nodeNames = names
  clients : ∀ n ∈ names, s.nodeMap n = true
  systemActive : s.systemActive = active
  bonded : ∀ n b, s.bondMap.lookup n = some b → 0 < s.bondTimeout

theorem attached_changeStateForAllNodes {active hard : Bool} :
    Triple (Attached names active) (changeStateForAllNodes env t hard)
      (fun _ => Attached names active) (fun _ _ => False) := by
  refine triple_changeStateForAllNodes
    (fun n s s' _ h hchange => ⟨?_, fun m hm => ?_, ?_, fun m b hb => ?_⟩) fun s h n hn => ?_
  · exact hchange.settings.nodeNames.trans h.nodeNames
  · rw [hchange.settings.nodeMap]
    exact h.clients m hm
  · exact hchange.settings.systemActive.trans h.systemActive
  · rw [hchange.settings.bondTimeout]
    rcases hchange.newBonds m b hb with hold | hpos
    · exact h.bonded m b hold
    · exact hpos
  · rw [h.nodeNames] at hn
    exact h.clients n hn

/-- What `startup()` and `resume()` do when they return `b`. -/
structure CameUp (b : Bool) (s s' : LifecycleManager) : Prop where
  broughtUp : BroughtUp s s'
  systemActive : s'.systemActive = (b || s.systemActive)
  up : b = true → NewFormed s s' ∧ Up s'

/-- The end of `startup` and `resume`, after the passes. -/
theorem cameUp_goActive {s₁ : LifecycleManager} {E : Failure → LifecycleManager → Prop}
    (hup : BroughtUp s s₁) (hformed : NewFormed s s₁) (hall : Up s₁) :
    Triple (· = s₁) (do setSystemActive true; createBondTimer; return true : ManagerM Bool)
      (fun b s' => CameUp b s s') E := by
  refine triple_bind (Q := fun _ s' => s' = { s₁ with systemActive := true })
    (triple_modify (by rintro _ rfl; rfl)) fun _ => ?_
  refine triple_bind (Q := fun _ s' =>
    ∃ timer, s' = { s₁ with systemActive := true, bondTimer := timer }) (triple_modify ?_)
    fun _ => triple_pure ?_
  · rintro _ rfl
    split
    · exact ⟨_, rfl⟩
    · exact ⟨_, rfl⟩
  · rintro _ ⟨timer, rfl⟩
    exact ⟨⟨hup.nodeNames, hup.nodeMap, hup.bondTimeout, hup.active, hup.bonds, hup.newBonds⟩, rfl,
      fun _ => ⟨hformed, ⟨hall.active, hall.bonds⟩⟩⟩

theorem resume_cameUp (hclients : ∀ n ∈ s.nodeNames, s.nodeMap n = true) :
    Triple (· = s) (resume env) (fun b s' => CameUp b s s') (fun _ _ => False) := by
  refine triple_bind (changeStateForAllNodes_bringsUp (.inr rfl) hclients) fun b => ?_
  refine triple_start fun s₁ ⟨⟨hup, hflag⟩, htrue⟩ => triple_ite (fun hb => ?_) fun _ => ?_
  · obtain ⟨hformed, hall⟩ := htrue hb
    exact cameUp_goActive hup hformed (hall rfl)
  · exact triple_pure (by rintro _ rfl; exact ⟨hup, hflag, fun hf => by cases hf⟩)

theorem startup_cameUp (hclients : ∀ n ∈ s.nodeNames, s.nodeMap n = true) :
    Triple (· = s) (startup env) (fun b s' => CameUp b s s') (fun _ _ => False) := by
  refine triple_bind (Q := fun b s' => (BroughtUp s s' ∧ s'.systemActive = s.systemActive) ∧
    (b = true → NewFormed s s' ∧ Up s')) ?_ fun b => ?_
  · refine triple_bind (changeStateForAllNodes_bringsUp (.inl rfl) hclients) fun b => ?_
    refine triple_start fun s₁ ⟨⟨hup, hflag⟩, htrue⟩ => triple_ite (fun hb => ?_) fun _ => ?_
    · have hclients₁ : ∀ n ∈ s₁.nodeNames, s₁.nodeMap n = true := by
        rw [hup.nodeNames, hup.nodeMap]
        exact hclients
      refine triple_conseq (changeStateForAllNodes_bringsUp (.inr rfl) hclients₁) (fun _ h => h)
        (fun b s₂ h => ?_) fun _ _ he => he
      obtain ⟨⟨hup', hflag'⟩, htrue'⟩ := h
      refine ⟨⟨hup.trans hup', hflag'.trans hflag⟩, fun hb' => ?_⟩
      exact ⟨(htrue hb).1.trans (htrue' hb').1, (htrue' hb').2 rfl⟩
    · exact triple_pure (by rintro _ rfl; exact ⟨⟨hup, hflag⟩, fun hf => by cases hf⟩)
  · refine triple_start fun s₁ ⟨⟨hup, hflag⟩, htrue⟩ => triple_ite (fun hb => ?_) fun _ => ?_
    · obtain ⟨hformed, hall⟩ := htrue hb
      exact cameUp_goActive hup hformed hall
    · exact triple_pure (by rintro _ rfl; exact ⟨hup, hflag, fun hf => by cases hf⟩)

/-- The callbacks that deactivate nodes clear the flag first. -/
theorem attached_cleared {active : Bool} {x : ManagerM Bool}
    (hx : Triple (Attached names false) x (fun _ => Attached names false) (fun _ _ => False)) :
    Triple (Attached names active) (do setSystemActive false; destroyBondTimer; x)
      (fun _ => Attached names false) (fun _ _ => False) := by
  refine triple_bind (Q := fun _ => Attached names false)
    (triple_modify fun s h => ⟨h.nodeNames, h.clients, rfl, h.bonded⟩) fun _ => ?_
  exact triple_bind (Q := fun _ => Attached names false)
    (triple_modify fun s h => ⟨h.nodeNames, h.clients, h.systemActive, h.bonded⟩) fun _ => hx

/-- SHUTDOWN clears it for good. -/
theorem attached_shutdown {active : Bool} :
    Triple (Attached names active) (shutdown env) (fun _ s => s.systemActive = false)
      (fun _ _ => False) := by
  refine triple_bind (Q := fun _ => Attached names false)
    (triple_modify fun s h => ⟨h.nodeNames, h.clients, rfl, h.bonded⟩) fun _ => ?_
  refine triple_bind (Q := fun _ => Attached names false)
    (triple_modify fun s h => ⟨h.nodeNames, h.clients, h.systemActive, h.bonded⟩) fun _ => ?_
  refine triple_bind (Q := fun _ => Attached names false) ?_ fun _ => ?_
  · exact triple_bind attached_changeStateForAllNodes fun _ =>
      triple_bind attached_changeStateForAllNodes fun _ =>
        triple_bind attached_changeStateForAllNodes fun _ => triple_pure fun _ h => h
  · exact triple_bind (Q := fun _ s => s.systemActive = false)
      (triple_modify fun _ h => h.systemActive) fun _ => triple_pure fun _ h => h

theorem reset_attached {active hard : Bool} :
    Triple (Attached names active) (reset env hard) (fun _ => Attached names false)
      (fun _ _ => False) :=
  attached_cleared (triple_bind (triple_both attached_changeStateForAllNodes
    attached_changeStateForAllNodes) fun _ => triple_pure fun _ h => h)

/-! ## The invariant -/

/-- An active system is up. -/
structure ActiveInv (names : List String) (s : LifecycleManager) : Prop where
  attached : Attached names s.systemActive s
  up : s.systemActive = true → Up s

theorem Attached.activeInv (h : Attached names false s) : ActiveInv names s := by
  refine ⟨?_, fun hactive => ?_⟩
  · rw [h.systemActive]
    exact h
  · rw [h.systemActive] at hactive
    cases hactive

theorem ActiveInv.cameUp {b : Bool} (h : ActiveInv names s) (hup : CameUp b s s') :
    ActiveInv names s' := by
  refine ⟨⟨hup.broughtUp.nodeNames.trans h.attached.nodeNames, fun n hn => ?_, rfl,
    fun n bond hbond => ?_⟩, fun hactive => ?_⟩
  · rw [hup.broughtUp.nodeMap]
    exact h.attached.clients n hn
  · rw [hup.broughtUp.bondTimeout]
    rcases hup.broughtUp.newBonds n bond hbond with hold | hpos
    · exact h.attached.bonded n bond hold
    · exact hpos
  · cases b with
    | true => exact (hup.up rfl).2
    | false =>
      rw [hup.systemActive, Bool.false_or] at hactive
      exact (h.up hactive).broughtUp hup.broughtUp

theorem ActiveInv.clients (h : ActiveInv names s) : ∀ n ∈ s.nodeNames, s.nodeMap n = true := by
  rw [h.attached.nodeNames]
  exact h.attached.clients

theorem ActiveInv.asked (h : ActiveInv names s) : ActiveInv names { s with calls := s.calls + 1 } :=
  ⟨⟨h.attached.nodeNames, h.attached.clients, rfl, h.attached.bonded⟩,
    fun hactive => ⟨(h.up hactive).active, (h.up hactive).bonds⟩⟩

theorem activeInv_ask {α : Type} {question : Nat → α} {E : Failure → LifecycleManager → Prop} :
    Triple (ActiveInv names) (ask question) (fun _ => ActiveInv names) E :=
  triple_start fun s hs => triple_conseq (ask_spec (s := s)) (fun _ h => h)
    (fun _ _ h => by rw [h]; exact hs.asked) fun _ _ he => he

theorem activeInv_managerCallback (env : Env) {c : Command} (hc : c ≠ .shutdown) :
    Triple (ActiveInv names) (managerCallback env c) (fun _ => ActiveInv names)
      (fun _ _ => False) := by
  refine triple_start fun s hs => ?_
  have hcleared : ∀ x : ManagerM Bool, Triple (Attached names false) x
      (fun _ => Attached names false) (fun _ _ => False) →
      Triple (· = s) (do setSystemActive false; destroyBondTimer; x) (fun _ => ActiveInv names)
        (fun _ _ => False) := fun x hx =>
    triple_conseq (attached_cleared hx) (by rintro _ rfl; exact hs.attached)
      (fun _ _ h => h.activeInv) fun _ _ he => he
  cases c with
  | startup =>
    exact triple_conseq (startup_cameUp hs.clients) (fun _ h => h) (fun _ _ h => hs.cameUp h)
      fun _ _ he => he
  | resume =>
    exact triple_conseq (resume_cameUp hs.clients) (fun _ h => h) (fun _ _ h => hs.cameUp h)
      fun _ _ he => he
  | pause => exact hcleared _ attached_changeStateForAllNodes
  | reset =>
    exact hcleared _ (triple_bind (triple_both attached_changeStateForAllNodes
      attached_changeStateForAllNodes) fun _ => triple_pure fun _ h => h)
  | shutdown => exact absurd rfl hc
  | configure => exact triple_pure (by rintro _ rfl; exact hs)
  | cleanup => exact triple_pure (by rintro _ rfl; exact hs)

/-! ## Timers -/

/-- The loop of `checkBondConnections` finds a bond for each node. -/
theorem activeInv_checkBonds (ns : List String) (hns : ∀ n ∈ ns, n ∈ names) :
    Triple (fun s => ActiveInv names s ∧ s.systemActive = true ∧ 0 < s.bondTimeout)
      (checkBonds env ns) (fun _ => ActiveInv names) (fun _ _ => False) := by
  have hask : ∀ {α : Type} (question : Nat → α),
      Triple (fun s => ActiveInv names s ∧ s.systemActive = true ∧ 0 < s.bondTimeout)
        (ask question)
        (fun _ s => ActiveInv names s ∧ s.systemActive = true ∧ 0 < s.bondTimeout)
        (fun _ _ => False) := fun question =>
    triple_start fun s hs => triple_conseq (ask_spec (s := s)) (fun _ h => h)
      (fun _ _ h => by rw [h]; exact ⟨hs.1.asked, hs.2⟩) fun _ _ he => he
  induction ns with
  | nil => exact triple_pure fun _ h => h.1
  | cons n rest ih =>
    refine triple_bind (hask _) fun ok => triple_ite (fun _ => ?_) fun _ =>
      triple_pure fun _ h => h.1
    refine triple_get_bind fun s hs => ?_
    obtain ⟨hinv, hactive, hpos⟩ := hs
    have hbond : (s.bondMap.lookup n).isNone = false := by
      have hsome := (hinv.up hactive).bonds hpos n
        (by rw [hinv.attached.nodeNames]; exact hns n List.mem_cons_self)
      rw [Option.isNone_eq_false_iff]
      exact hsome
    rw [hbond, if_neg Bool.false_ne_true]
    refine triple_bind (triple_conseq (hask _) (by rintro _ rfl; exact ⟨hinv, hactive, hpos⟩)
      (fun _ _ h => h) fun _ _ he => he) fun broken => triple_ite (fun _ => ?_) fun _ => ?_
    · refine triple_bind (Q := fun _ => Attached names false) ?_ fun _ => triple_modify ?_
      · exact triple_start fun s' hs' => triple_conseq reset_attached
          (by rintro _ rfl; exact hs'.1.attached) (fun _ _ h => h) fun _ _ he => he
      · intro s' h
        exact Attached.activeInv ⟨h.nodeNames, h.clients, h.systemActive, fun _ _ hb => by cases hb⟩
    · exact ih fun m hm => hns m (List.mem_cons_of_mem n hm)

theorem activeInv_checkBondConnections (env : Env) :
    Triple (ActiveInv names) (checkBondConnections env) (fun _ => ActiveInv names)
      (fun _ _ => False) := by
  refine triple_get_bind fun s hs => triple_ite (fun hactive => ?_) fun _ => triple_pure ?_
  · refine triple_bind (ask_spec (s := s))
      fun ok => triple_ite (fun _ => ?_) fun _ => triple_pure ?_
    · split
      · exact triple_pure (by rintro _ rfl; exact hs.asked)
      · next hkeys =>
        refine triple_conseq (activeInv_checkBonds s.nodeNames (fun n hn => ?_)) ?_
          (fun _ _ h => h) fun _ _ he => he
        · rw [hs.attached.nodeNames] at hn
          exact hn
        · rintro _ rfl
          refine ⟨hs.asked, hactive, ?_⟩
          obtain ⟨n, hn⟩ := List.exists_mem_of_ne_nil s.bondMap.keys
            (fun hnil => hkeys (by rw [hnil]; rfl))
          obtain ⟨b, hb⟩ := Option.isSome_iff_exists.mp
            (AList.lookup_isSome.mpr (AList.mem_keys.mpr hn))
          exact hs.attached.bonded n b hb
    · rintro _ rfl
      exact hs.asked
  · rintro _ rfl
    exact hs

theorem activeInv_countLiveServers (env : Env) (ns : List String) (hns : ∀ n ∈ ns, n ∈ names) :
    Triple (ActiveInv names) (countLiveServers env ns) (fun _ => ActiveInv names)
      (fun _ _ => False) := by
  induction ns with
  | nil => exact triple_pure fun _ h => h
  | cons n rest ih =>
    intro s hs
    have hrest := ih fun m hm => hns m (List.mem_cons_of_mem n hm)
    -- asking one server, with its client
    have hserver : Triple (ActiveInv names) (do derefClient n; getState env n)
        (fun _ => ActiveInv names) (fun e s => e = .runtimeError ∧ ActiveInv names s) := by
      refine triple_bind (Q := fun _ => ActiveInv names) ?_ fun _ => triple_start fun s₁ hs₁ => ?_
      · refine triple_get_bind fun s₁ hs₁ => triple_ite (fun _ => ?_) (fun hnull => ?_)
        · exact triple_pure (by rintro _ rfl; exact hs₁)
        · exact absurd (hs₁.attached.clients n (hns n List.mem_cons_self)) hnull
      · exact triple_conseq (getState_spec (s := s₁)) (fun _ h => h)
          (fun _ _ h => by rw [h.2]; exact hs₁.asked)
          fun _ _ he => ⟨he.1, by rw [he.2]; exact hs₁.asked⟩
    have hone := hserver { s with calls := s.calls + 1 } hs.asked
    cases hok : env.ok s.calls with
    | false =>
      have hrun : (countLiveServers env (n :: rest)).run s =
          .ok none { s with calls := s.calls + 1 } := by
        show countLiveServers env (n :: rest) s = _
        simp only [countLiveServers, hok, Bool.false_eq_true, if_false]
      rw [hrun]
      exact hs.asked
    | true =>
      cases hcall : (do derefClient n; getState env n).run { s with calls := s.calls + 1 } with
      | error e s' =>
        rw [hcall] at hone
        obtain ⟨rfl, hs'⟩ := hone
        have hrun : (countLiveServers env (n :: rest)).run s = .ok (some 0) s' := by
          show countLiveServers env (n :: rest) s = _
          simp only [countLiveServers, hok, if_true, hcall]
        rw [hrun]
        exact hs'
      | ok st s' =>
        rw [hcall] at hone
        have hmore := hrest s' hone
        cases hcount : (countLiveServers env rest).run s' with
        | error e s'' => rw [hcount] at hmore; exact hmore.elim
        | ok live s'' =>
          rw [hcount] at hmore
          have hrun : (countLiveServers env (n :: rest)).run s = .ok (live.map (· + 1)) s'' := by
            show countLiveServers env (n :: rest) s = _
            simp only [countLiveServers, hok, if_true, hcall, hcount]
          rw [hrun]
          exact hmore

theorem ActiveInv.setRespawn (h : ActiveInv names s) (time : Int) (timer : Bool) :
    ActiveInv names { s with bondRespawnStartTime := time, bondRespawnTimer := timer } :=
  ⟨⟨h.attached.nodeNames, h.attached.clients, rfl, h.attached.bonded⟩,
    fun hactive => ⟨(h.up hactive).active, (h.up hactive).bonds⟩⟩

theorem activeInv_checkBondRespawnConnection (env : Env) :
    Triple (ActiveInv names) (checkBondRespawnConnection env) (fun _ => ActiveInv names)
      (fun _ _ => False) := by
  have hstop : Triple (ActiveInv names) stopRespawnTimer (fun _ => ActiveInv names)
      (fun _ _ => False) := triple_modify fun s hs => hs.setRespawn 0 false
  -- the start time is set first, and then the two branches meet
  have hstart : ∀ rest : PUnit → ManagerM Unit,
      Triple (ActiveInv names) (rest ⟨⟩) (fun _ => ActiveInv names) (fun _ _ => False) →
      Triple (ActiveInv names) (get >>= fun s => if s.bondRespawnStartTime = 0 then
          ask env.now >>= fun time =>
            modify (fun s => { s with bondRespawnStartTime := time }) >>= rest
        else rest ⟨⟩) (fun _ => ActiveInv names) (fun _ _ => False) := by
    intro rest hrest
    refine triple_get_bind fun s hs => triple_ite (fun _ => ?_) fun _ => ?_
    · refine triple_bind (ask_spec (s := s)) fun time => ?_
      refine triple_bind (Q := fun _ => ActiveInv names) (triple_modify ?_) fun _ => hrest
      rintro _ rfl
      exact hs.asked.setRespawn time s.bondRespawnTimer
    · refine triple_pre hrest ?_
      rintro _ rfl
      exact hs
  refine hstart _ ?_
  refine triple_get_bind fun s hs => triple_bind (ask_spec (s := s)) fun ok => ?_
  refine triple_start ?_
  rintro _ rfl
  have hasked := hs.asked
  refine triple_conseq (show Triple (ActiveInv names) _ (fun _ => ActiveInv names) _ from
    triple_ite (fun _ => hstop) fun _ => ?_) (by rintro _ rfl; exact hasked) (fun _ _ h => h)
    fun _ _ he => he
  refine triple_bind (activeInv_countLiveServers env s.nodeNames fun n hn => ?_) fun live => ?_
  · rw [hs.attached.nodeNames] at hn
    exact hn
  cases live with
  | none => exact triple_pure fun _ h => h
  | some live =>
    refine triple_ite (fun _ => ?_) fun _ => ?_
    · refine triple_bind hstop fun _ => ?_
      exact triple_bind (activeInv_managerCallback env (c := .startup) (by decide)) fun _ =>
        triple_pure fun _ h => h
    · refine triple_bind activeInv_ask fun time => triple_ite (fun _ => hstop) fun _ => ?_
      exact triple_pure fun _ h => h

/-! ## Runs -/

theorem activeInv_run (env : Env) {c : Callback} (hc : c ≠ .command .shutdown) :
    Triple (ActiveInv names) (c.run env) (fun _ => ActiveInv names) (fun _ _ => False) := by
  cases c with
  | command c =>
    refine triple_bind (activeInv_managerCallback env ?_) fun _ => triple_pure fun _ h => h
    rintro rfl
    exact hc rfl
  | checkBondConnections => exact activeInv_checkBondConnections env
  | checkBondRespawnConnection => exact activeInv_checkBondRespawnConnection env

theorem activeInv_of_reach (h : (callbackSystem names).Reach BeforeShutdown s) :
    ActiveInv names s := by
  refine h.invariant (ActiveInv names) (fun s hs => ?_) ?_
  · refine Attached.activeInv ⟨hs.nodeNames, hs.clients, hs.inactive, fun n b hb => ?_⟩
    rw [hs.bondMap] at hb
    cases hb
  · rintro s ⟨c, env⟩ s' hs hc hstep
    simp only [callbackSystem] at hstep
    split at hstep
    · next _ s'' hrun =>
      cases hstep
      exact (activeInv_run env hc).ok hs hrun
    · cases hstep

/-- **Active means active.** Between two callbacks, an active system has
every node ACTIVE and a bond for each, if there are bonds; SHUTDOWN clears
the flag; and `checkBondConnections` always returns. -/
theorem active_means_active (h : (callbackSystem names).Reach BeforeShutdown s) :
    (s.systemActive = true → ∀ n ∈ names, s.nodeState n = .active ∧
      (0 < s.bondTimeout → (s.bondMap.lookup n).isSome = true)) ∧
    (∀ env b s', (managerCallback env .shutdown).run s = .ok b s' → s'.systemActive = false) ∧
    ∀ env, ∃ s', (checkBondConnections env).run s = .ok () s' := by
  have hinv := activeInv_of_reach h
  refine ⟨fun hactive n hn => ?_, fun env b s' hrun => ?_, fun env => ?_⟩
  · rw [← hinv.attached.nodeNames] at hn
    exact ⟨(hinv.up hactive).active n hn, fun hpos => (hinv.up hactive).bonds hpos n hn⟩
  · exact attached_shutdown.ok hinv.attached hrun
  · have hcheck := activeInv_checkBondConnections env s hinv
    cases hrun : (checkBondConnections env).run s with
    | ok _ s' => exact ⟨s', rfl⟩
    | error e s' => rw [hrun] at hcheck; exact hcheck.elim

instance (s : LifecycleManager) (l : Callback × Env) : Decidable (BeforeShutdown s l) :=
  inferInstanceAs (Decidable (_ ≠ _))

theorem started_twoNodes : Started ["a", "b"] twoNodes := ⟨rfl, by decide, rfl, rfl⟩

/-- A STARTUP that fails on `b`, a STARTUP that is refused, a RESET and a
STARTUP: the system is active, and so is every node. -/
theorem active_means_active_restarted : ∃ s,
    (callbackSystem ["a", "b"]).Reach BeforeShutdown s ∧ s.systemActive = true ∧
    ∀ n ∈ ["a", "b"], s.nodeState n = .active ∧
      (0 < s.bondTimeout → (s.bondMap.lookup n).isSome = true) := by
  obtain ⟨s, hr, hs⟩ := Transition.System.exists_reach_of_runWhile
    (S := callbackSystem ["a", "b"]) BeforeShutdown
    [(.command .startup, twoNodesEnv false), (.command .startup, twoNodesEnv true),
      (.command .reset, twoNodesEnv true), (.command .startup, twoNodesEnv true),
      (.checkBondConnections, twoNodesEnv true)]
    (fun s => s.systemActive) started_twoNodes (by decide +kernel)
  exact ⟨s, hr, hs, (active_means_active hr).1 hs⟩

end Nav3D.Lifecycle

/-
Nav3D.Lifecycle.ManagerPasses — what one pass of the manager over its nodes
can do.

`changeStateForNode_spec` says once what `changeStateForNode` does in every
case (`NodeChange`), what its true means (`Changed`) and how it can throw.
`triple_changeStateForNodes` is the rule of the loop of
`changeStateForAllNodes` over the nodes that are still to come.
-/
import Nav3D.Lib.StateInvariant
import Nav3D.Lifecycle.LifecycleManager

namespace Nav3D.Lifecycle

open StateInvariant

/-! ## One node -/

/-- What a pass leaves alone. -/
structure SameSettings (s s' : LifecycleManager) : Prop where
  nodeNames : s'.nodeNames = s.nodeNames
  nodeMap : s'.nodeMap = s.nodeMap
  bondTimeout : s'.bondTimeout = s.bondTimeout
  systemActive : s'.systemActive = s.systemActive

/-- What `changeStateForNode` does once it has a client: one request, which
the node may act on. Only DEACTIVATE removes a bond, and none is created
without a timeout. -/
structure NodeChange (n : String) (t : LifecycleTransition) (s s' : LifecycleManager) : Prop where
  client : s.nodeMap n = true
  settings : SameSettings s s'
  nodeState : s'.nodeState = s.nodeState ∨
    s'.nodeState = Function.update s.nodeState n (t.apply (s.nodeState n))
  history : s'.history = s'.nodeState :: s.history
  bonds : t ≠ .deactivate → ∀ m b, s.bondMap.lookup m = some b → s'.bondMap.lookup m = some b
  newBonds : ∀ m b, s'.bondMap.lookup m = some b → s.bondMap.lookup m = some b ∨ 0 < s.bondTimeout

/-- Every bond that has been created has formed. -/
def NewFormed (s s' : LifecycleManager) : Prop :=
  ∀ m b, s'.bondMap.lookup m = some b → s.bondMap.lookup m = some b ∨ b.formed = true

/-- What a true of `changeStateForNode` means. -/
structure Changed (n : String) (t : LifecycleTransition) (s s' : LifecycleManager) : Prop where
  nodeState : s'.nodeState n = transitionStateMap t
  bond : t = .activate → 0 < s'.bondTimeout → (s'.bondMap.lookup n).isSome = true
  formed : NewFormed s s'

variable {env : Env} {n : String} {t : LifecycleTransition} {s s₁ : LifecycleManager}

theorem nodeChange_request (hclient : s.nodeMap n = true) (took : Bool) :
    NodeChange n t s (s.request n t took) where
  client := hclient
  settings := ⟨rfl, rfl, rfl, rfl⟩
  nodeState := by
    cases took with
    | false => exact .inl rfl
    | true => exact .inr rfl
  history := rfl
  bonds _ _ _ h := h
  newBonds _ _ h := .inl h

/-- The other nodes are left alone. -/
theorem NodeChange.nodeState_of_ne (h : NodeChange n t s s₁) {m : String} (hm : m ≠ n) :
    s₁.nodeState m = s.nodeState m := by
  rcases h.nodeState with hsame | htook
  · rw [hsame]
  · rw [htook, Function.update_of_ne hm]

/-- The node has refused the request or carried it out. -/
theorem NodeChange.nodeState_self (h : NodeChange n t s s₁) :
    s₁.nodeState n = s.nodeState n ∨ s₁.nodeState n = t.apply (s.nodeState n) := by
  rcases h.nodeState with hsame | htook
  · rw [hsame]
    exact .inl rfl
  · rw [htook, Function.update_self]
    exact .inr rfl

/-- The bonds may be changed after the request, and questions asked. -/
theorem NodeChange.setBonds (h : NodeChange n t s s₁) {bondMap : AList fun _ : String => Bond}
    (hbonds : t ≠ .deactivate → ∀ m b, s.bondMap.lookup m = some b → bondMap.lookup m = some b)
    (hnew : ∀ m b, bondMap.lookup m = some b → s.bondMap.lookup m = some b ∨ 0 < s.bondTimeout)
    (calls : Nat) : NodeChange n t s { s₁ with bondMap := bondMap, calls := calls } :=
  ⟨h.client,
    ⟨h.settings.nodeNames, h.settings.nodeMap, h.settings.bondTimeout, h.settings.systemActive⟩,
    h.nodeState, h.history, hbonds, hnew⟩

theorem changeState_spec (hclient : s.nodeMap n = true) : Triple (· = s) (changeState env n t)
    (fun _ s' => NodeChange n t s s' ∧ s'.bondMap = s.bondMap)
    (fun e s' => e = .runtimeError ∧ NodeChange n t s s') := by
  rintro s rfl
  have hrun : (changeState env n t).run s = changeState env n t s := rfl
  rw [hrun, changeState]
  cases env.changeState s.calls n with
  | answered succeeds => exact ⟨nodeChange_request hclient _, rfl⟩
  | interrupted took => exact ⟨nodeChange_request hclient _, rfl⟩
  | throws took => exact ⟨rfl, nodeChange_request hclient _⟩

theorem ask_spec {α : Type} {question : Nat → α} {E : Failure → LifecycleManager → Prop} :
    Triple (· = s) (ask question) (fun _ s' => s' = { s with calls := s.calls + 1 }) E := by
  rintro s rfl
  exact rfl

theorem getState_spec : Triple (· = s) (getState env n)
    (fun st s' => st = s.nodeState n ∧ s' = { s with calls := s.calls + 1 })
    (fun e s' => e = .runtimeError ∧ s' = { s with calls := s.calls + 1 }) := by
  refine triple_bind ask_spec fun answered => triple_ite (fun _ => ?_) (fun _ => ?_)
  · refine triple_get_bind fun s' hs' => triple_pure ?_
    rintro s' rfl
    rw [hs']
    exact ⟨rfl, rfl⟩
  · exact triple_throw fun s' hs' => ⟨rfl, hs'⟩

/-- A change that leaves the bonds alone. -/
theorem Changed.of_bondMap (hstate : s₁.nodeState n = transitionStateMap t)
    (hbonds : s₁.bondMap = s.bondMap)
    (hbond : t = .activate → 0 < s₁.bondTimeout → (s₁.bondMap.lookup n).isSome = true) :
    Changed n t s s₁ :=
  ⟨hstate, hbond, fun m b hb => .inl (by rw [← hbonds]; exact hb)⟩

theorem createBondConnection_spec (h : NodeChange n .activate s s₁) (hbonds : s₁.bondMap = s.bondMap)
    (hstate : s₁.nodeState n = .active) : Triple (· = s₁) (createBondConnection env n)
      (fun b s' => NodeChange n .activate s s' ∧ (b = true → Changed n .activate s s'))
      (fun _ _ => False) := by
  refine triple_get_bind fun s' hs' => triple_ite (fun hnew => ?_) (fun hold => triple_pure ?_)
  · -- a new bond
    subst hs'
    rw [Bool.and_eq_true, Option.isNone_iff_eq_none, hbonds, decide_eq_true_eq,
      h.settings.bondTimeout] at hnew
    refine triple_bind ask_spec fun formed => ?_
    refine triple_bind (Q := fun _ s' => NodeChange n .activate s s' ∧
      (formed = true → Changed n .activate s s')) (triple_modify ?_) fun _ => triple_pure fun _ h => h
    rintro _ rfl
    refine ⟨h.setBonds (fun _ m b hb => ?_) (fun _ _ _ => .inr hnew.2) _,
      fun hformed => ⟨hstate, fun _ _ => ?_, fun m b hb => ?_⟩⟩
    · have hm : m ≠ n := by
        rintro rfl
        rw [hnew.1] at hb
        cases hb
      rw [AList.lookup_insert_ne hm, hbonds]
      exact hb
    · rw [AList.lookup_insert]
      rfl
    · by_cases hm : m = n
      · subst hm
        rw [AList.lookup_insert] at hb
        cases hb
        exact .inr hformed
      · rw [AList.lookup_insert_ne hm, hbonds] at hb
        exact .inl hb
  · -- a bond that is kept
    subst hs'
    rintro _ rfl
    refine ⟨h, fun _ => .of_bondMap hstate hbonds fun _ htimeout => ?_⟩
    rw [decide_eq_true htimeout, Bool.and_true, Bool.not_eq_true, Option.isNone_eq_false_iff] at hold
    exact hold

/-- The end of `changeStateForNode`, from a state that differs from `s` by
the request only. -/
theorem updateBond_spec (h : NodeChange n t s s₁) (hbonds : s₁.bondMap = s.bondMap)
    (hstate : s₁.nodeState n = transitionStateMap t) : Triple (· = s₁) (updateBond env n t)
      (fun b s' => NodeChange n t s s' ∧ (b = true → Changed n t s s')) (fun _ _ => False) := by
  have hsame : t ≠ .activate → ∀ s', s' = s₁ →
      NodeChange n t s s' ∧ (true = true → Changed n t s s') := by
    rintro ht _ rfl
    exact ⟨h, fun _ => .of_bondMap hstate hbonds fun hf => absurd hf ht⟩
  cases t with
  | activate => exact createBondConnection_spec h hbonds hstate
  | deactivate =>
    have herase : ∀ m b, (s₁.bondMap.erase n).lookup m = some b → s.bondMap.lookup m = some b := by
      intro m b hb
      by_cases hm : m = n
      · subst hm
        rw [AList.lookup_erase] at hb
        cases hb
      · rw [AList.lookup_erase_ne hm, hbonds] at hb
        exact hb
    refine triple_bind (Q := fun _ s' => NodeChange n .deactivate s s' ∧
      Changed n .deactivate s s') (triple_modify ?_) fun _ =>
      triple_pure fun _ hs' => ⟨hs'.1, fun _ => hs'.2⟩
    rintro _ rfl
    exact ⟨h.setBonds (fun hne => absurd rfl hne) (fun m b hb => .inl (herase m b hb)) _, hstate,
      (fun hf => by cases hf), fun m b hb => .inl (herase m b hb)⟩
  | configure => exact triple_pure (hsame (by decide))
  | cleanup => exact triple_pure (hsame (by decide))
  | unconfiguredShutdown => exact triple_pure (hsame (by decide))

/-- **What `changeStateForNode` can do.** -/
theorem changeStateForNode_spec : Triple (· = s) (changeStateForNode env n t)
    (fun b s' => NodeChange n t s s' ∧ (b = true → Changed n t s s'))
    (fun e s' => (e = .runtimeError ∧ NodeChange n t s s') ∨
      (e = .nullDeref ∧ s.nodeMap n = false ∧ s' = s)) := by
  refine triple_bind (Q := fun _ s' => s' = s ∧ s.nodeMap n = true) ?_ fun _ => ?_
  · refine triple_get_bind fun s' hs' => triple_ite (fun hclient => ?_) (fun hnull => ?_)
    · subst hs'
      exact triple_pure fun _ h => ⟨h, hclient⟩
    · rw [Bool.not_eq_true] at hnull
      subst hs'
      exact triple_throw fun _ h => .inr ⟨rfl, hnull, h⟩
  · refine triple_start ?_
    rintro s ⟨rfl, hclient⟩
    refine triple_bind (triple_conseq (changeState_spec hclient) (fun _ h => h) (fun _ _ h => h)
      fun _ _ => .inl) fun answered => ?_
    refine triple_start fun s₁ ⟨hchange, hbonds⟩ => triple_ite (fun _ => ?_) (fun _ => ?_)
    · have hasked : NodeChange n t s { s₁ with calls := s₁.calls + 1 } :=
        hchange.setBonds hchange.bonds hchange.newBonds _
      refine triple_bind (triple_conseq getState_spec (fun _ h => h) (fun _ _ h => h) ?_)
        fun st => ?_
      · rintro _ _ ⟨rfl, rfl⟩
        exact .inl ⟨rfl, hasked⟩
      · refine triple_start fun s₂ ⟨hst, hs₂⟩ => triple_ite (fun hreached => ?_) (fun _ => ?_)
        · subst hs₂
          rw [hst] at hreached
          exact triple_conseq (updateBond_spec hasked hbonds hreached) (fun _ h => h)
            (fun _ _ h => h) fun _ _ => False.elim
        · subst hs₂
          exact triple_pure (by rintro _ rfl; exact ⟨hasked, fun hf => by cases hf⟩)
    · exact triple_pure (by rintro _ rfl; exact ⟨hchange, fun hf => by cases hf⟩)

/-! ## A pass -/

variable {hard : Bool} {I : List String → LifecycleManager → Prop} {S N : LifecycleManager → Prop}

variable (env t hard) in
/-- **The rule of the loop.** `I rest` holds while the nodes `rest` are
still to come, `S` when the loop gives up, and `N` when it dereferences
null. -/
theorem triple_changeStateForNodes
    (hstep : ∀ n rest s s', I (n :: rest) s → NodeChange n t s s' →
      Changed n t s s' ∨ hard = true → I rest s')
    (hstop : ∀ n rest s s', I (n :: rest) s → NodeChange n t s s' → S s')
    (hnull : ∀ n rest s, I (n :: rest) s → s.nodeMap n = false → N s) (ns : List String) :
    Triple (I ns) (changeStateForNodes env t hard ns)
      (fun b s => (b = true → I [] s) ∧ (b = false → S s)) (fun e s => e = .nullDeref ∧ N s) := by
  induction ns with
  | nil => exact triple_pure fun s hs => ⟨fun _ => hs, fun hf => by cases hf⟩
  | cons n rest ih =>
    intro s hs
    have hspec : Triple (· = s) (changeStateForNode env n t) _ _ := changeStateForNode_spec
    have hnode := hspec s rfl
    cases hcall : (changeStateForNode env n t).run s with
    | ok changed s' =>
      rw [hcall] at hnode
      obtain ⟨hchange, htrue⟩ := hnode
      have hrun : (changeStateForNodes env t hard (n :: rest)).run s
          = if !changed && !hard then .ok false s'
            else (changeStateForNodes env t hard rest).run s' := by
        show changeStateForNodes env t hard (n :: rest) s = _
        simp only [changeStateForNodes, hcall]
      rw [hrun]
      by_cases hgiveUp : (!changed && !hard) = true
      · rw [if_pos hgiveUp]
        exact ⟨(fun hf => by cases hf), fun _ => hstop n rest s s' hs hchange⟩
      · rw [if_neg hgiveUp]
        refine ih s' (hstep n rest s s' hs hchange ?_)
        cases changed with
        | true => exact .inl (htrue rfl)
        | false =>
          cases hard with
          | true => exact .inr rfl
          | false => exact absurd rfl hgiveUp
    | error e s' =>
      rw [hcall] at hnode
      rcases hnode with ⟨rfl, hchange⟩ | ⟨rfl, hclient, rfl⟩
      · have hrun : (changeStateForNodes env t hard (n :: rest)).run s = .ok false s' := by
          show changeStateForNodes env t hard (n :: rest) s = _
          simp only [changeStateForNodes, hcall]
        rw [hrun]
        exact ⟨(fun hf => by cases hf), fun _ => hstop n rest s s' hs hchange⟩
      · have hrun : (changeStateForNodes env t hard (n :: rest)).run s' = .error .nullDeref s' := by
          show changeStateForNodes env t hard (n :: rest) s' = _
          simp only [changeStateForNodes, hcall]
        rw [hrun]
        exact ⟨rfl, hnull n rest _ hs hclient⟩

/-- CONFIGURE and ACTIVATE go forwards. -/
theorem triple_forwards {Q : Bool → LifecycleManager → Prop} {E : Failure → LifecycleManager → Prop}
    (ht : t = .configure ∨ t = .activate)
    (h : Triple (· = s) (changeStateForNodes env t hard s.nodeNames) Q E) :
    Triple (· = s) (changeStateForAllNodes env t hard) Q E := by
  refine triple_get_bind fun s' hs' => ?_
  subst hs'
  rcases ht with rfl | rfl <;> exact h

/-- The other transitions go backwards. -/
theorem triple_backwards {Q : Bool → LifecycleManager → Prop} {E : Failure → LifecycleManager → Prop}
    (ht : ¬ (t = .configure ∨ t = .activate))
    (h : Triple (· = s) (changeStateForNodes env t hard s.nodeNames.reverse) Q E) :
    Triple (· = s) (changeStateForAllNodes env t hard) Q E := by
  refine triple_get_bind fun s' hs' => ?_
  subst hs'
  cases t with
  | configure => exact absurd (.inl rfl) ht
  | activate => exact absurd (.inr rfl) ht
  | _ => exact h

/-- In whatever order. -/
theorem triple_allNodes {Q : Bool → LifecycleManager → Prop} {E : Failure → LifecycleManager → Prop}
    (h : ∀ ns : List String, (∀ n, n ∈ ns ↔ n ∈ s.nodeNames) →
      Triple (· = s) (changeStateForNodes env t hard ns) Q E) :
    Triple (· = s) (changeStateForAllNodes env t hard) Q E := by
  by_cases ht : t = .configure ∨ t = .activate
  · exact triple_forwards ht (h _ fun _ => Iff.rfl)
  · exact triple_backwards ht (h _ fun _ => List.mem_reverse)

/-- What every request keeps, a pass keeps; with its clients it returns. -/
theorem triple_changeStateForAllNodes {I : LifecycleManager → Prop}
    (hstep : ∀ n s s', n ∈ s.nodeNames → I s → NodeChange n t s s' → I s')
    (hclients : ∀ s, I s → ∀ n ∈ s.nodeNames, s.nodeMap n = true) :
    Triple I (changeStateForAllNodes env t hard) (fun _ => I) (fun _ _ => False) := by
  refine triple_start fun s hs => triple_allNodes fun ns hns => ?_
  have hloop := triple_changeStateForNodes env t hard
    (I := fun rest s => I s ∧ ∀ n ∈ rest, n ∈ s.nodeNames) (S := I) (N := fun _ => False)
    (fun n rest s s' h hchange _ => ⟨hstep n s s' (h.2 n List.mem_cons_self) h.1 hchange,
      fun m hm => by
        rw [hchange.settings.nodeNames]
        exact h.2 m (List.mem_cons_of_mem n hm)⟩)
    (fun n rest s s' h hchange => hstep n s s' (h.2 n List.mem_cons_self) h.1 hchange)
    (fun n rest s h hnull => by
      rw [hclients s h.1 n (h.2 n List.mem_cons_self)] at hnull
      cases hnull) ns
  refine triple_conseq hloop ?_ (fun b s' hs' => ?_) fun _ _ he => he.2
  · rintro _ rfl
    exact ⟨hs, fun n hn => (hns n).mp hn⟩
  · cases b with
    | true => exact (hs'.1 rfl).1
    | false => exact hs'.2 rfl

/-! ## Commands -/

section Commands

variable {I : LifecycleManager → Prop} {E : Failure → LifecycleManager → Prop}

theorem triple_both {first second : ManagerM Bool} (h1 : Triple I first (fun _ => I) E)
    (h2 : Triple I second (fun _ => I) E) : Triple I (both first second) (fun _ => I) E :=
  triple_bind h1 fun _ => triple_ite (fun _ => h2) fun _ => triple_pure fun _ h => h

variable (hflags : ∀ s active timer, I s → I { s with systemActive := active, bondTimer := timer })
  (hpass : ∀ t, t ≠ .unconfiguredShutdown →
    Triple I (changeStateForAllNodes env t false) (fun _ => I) E)

include hflags

theorem triple_setSystemActive (active : Bool) :
    Triple I (setSystemActive active) (fun _ => I) E :=
  triple_modify fun s hs => hflags s active s.bondTimer hs

theorem triple_destroyBondTimer : Triple I destroyBondTimer (fun _ => I) E :=
  triple_modify fun s hs => hflags s s.systemActive false hs

/-- The end of `startup` and `resume`. -/
theorem triple_goActive :
    Triple I (do setSystemActive true; createBondTimer; return true : ManagerM Bool)
      (fun _ => I) E := by
  refine triple_bind (triple_setSystemActive hflags true) fun _ => ?_
  refine triple_bind (Q := fun _ => I) (triple_modify fun s hs => ?_) fun _ =>
    triple_pure fun _ h => h
  split
  · exact hs
  · exact hflags s s.systemActive true hs

/-- What every pass and the flags keep holds until SHUTDOWN destroys the
clients. -/
theorem triple_shutdown (hpass : ∀ t, Triple I (changeStateForAllNodes env t false) (fun _ => I) E) :
    Triple I (shutdown env)
      (fun b s => b = true ∧ ∃ s', I s' ∧ s = { s' with nodeMap := fun _ => false }) E := by
  refine triple_bind (triple_setSystemActive hflags false) fun _ => ?_
  refine triple_bind (triple_destroyBondTimer hflags) fun _ => ?_
  refine triple_bind (Q := fun _ => I) ?_ fun _ => ?_
  · exact triple_bind (hpass _) fun _ => triple_bind (hpass _) fun _ =>
      triple_bind (hpass _) fun _ => triple_pure fun _ h => h
  · refine triple_bind (Q := fun _ s => ∃ s', I s' ∧ s = { s' with nodeMap := fun _ => false })
      (triple_modify fun s hs => ⟨s, hs, rfl⟩) fun _ => triple_pure fun _ h => ⟨rfl, h⟩

include hpass

/-- What every pass and the flags keep, a command other than SHUTDOWN
keeps. -/
theorem triple_managerCallback {c : Command} (hc : c ≠ .shutdown) :
    Triple I (managerCallback env c) (fun _ => I) E := by
  have hstop : ∀ x : ManagerM Bool, Triple I x (fun _ => I) E →
      Triple I (do setSystemActive false; destroyBondTimer; x) (fun _ => I) E := fun x hx =>
    triple_bind (triple_setSystemActive hflags false) fun _ =>
      triple_bind (triple_destroyBondTimer hflags) fun _ => hx
  cases c with
  | startup =>
    exact triple_bind (triple_both (hpass _ (by decide)) (hpass _ (by decide))) fun _ =>
      triple_ite (fun _ => triple_goActive hflags) fun _ => triple_pure fun _ h => h
  | pause => exact hstop _ (hpass _ (by decide))
  | resume =>
    exact triple_bind (hpass _ (by decide)) fun _ =>
      triple_ite (fun _ => triple_goActive hflags) fun _ => triple_pure fun _ h => h
  | reset =>
    exact hstop _ (triple_bind (triple_both (hpass _ (by decide)) (hpass _ (by decide))) fun _ =>
      triple_pure fun _ h => h)
  | shutdown => exact absurd rfl hc
  | configure => exact triple_pure fun _ h => h
  | cleanup => exact triple_pure fun _ h => h

end Commands

end Nav3D.Lifecycle

/-
Nav3D.Controller.ControllerInvariant — what the steps of
`Nav3D.Controller.ControllerServer` do, and what holds of the callback
whatever its trajectory is.

A step of another party leaves the callback where it is, or takes the worker
into it or out of it (`PartyEffect`); a step of the callback moves it on
(`Moves`), perhaps with a call of the action server (`OwnEffect`). The
callback is left with an empty current slot, or on a server that is not
active (`ControlInv`).
-/
import Nav3D.Controller.ControllerServer
import Nav3D.Util.ActionServerExecuted

namespace Nav3D.Controller

open Nav3D.Ros Nav3D.Util
open Nav3D.BehaviorTree (ErrorResult)
open Nav3D.BtNavigator (FollowPathGoal)

variable {P : Type}

/-! ## Inversions -/

/-- What a step of the action server does to the callback: it leaves its
place, takes the worker into it or out of it. -/
inductive PartyEffect (s : ControllerServer P) :
    Label (FollowPathGoal (List P)) ErrorResult → ControllerServer P → Prop
  | bystander {l server} : l.ofCallback = false → (∀ i, l ≠ .testGuard i) →
      serverStep s.server l = some server → PartyEffect s l { s with server := server }
  | entered {i server} : loopCondition s.server = true →
      serverStep s.server (.testGuard i) = some server →
      PartyEffect s (.testGuard i) ⟨server, .start⟩
  | passed {i server} : loopCondition s.server = false →
      serverStep s.server (.testGuard i) = some server →
      PartyEffect s (.testGuard i) { s with server := server }
  | returned {i server} : s.pc = .returning →
      serverStep s.server (.callbackReturn i) = some server →
      PartyEffect s (.callbackReturn i) ⟨server, .idle⟩

/-- **Party inversion.** -/
theorem partyEffect_of_step {s s' : ControllerServer P}
    {l : Label (FollowPathGoal (List P)) ErrorResult}
    (h : serverPartyStep s l = some s') : PartyEffect s l s' := by
  cases l with
  | call c => cases h
  | callbackThrow i => cases h
  | callbackReturn i =>
    simp only [serverPartyStep] at h
    split at h
    · next hpc =>
      obtain ⟨server, hserver, rfl⟩ := Option.map_eq_some_iff.mp h
      exact .returned hpc hserver
    · cases h
  | testGuard i =>
    simp only [serverPartyStep] at h
    obtain ⟨server, hserver, rfl⟩ := Option.map_eq_some_iff.mp h
    cases hc : loopCondition s.server with
    | true => exact .entered hc hserver
    | false => exact .passed hc hserver
  | _ =>
    simp only [serverPartyStep] at h
    obtain ⟨server, hserver, rfl⟩ := Option.map_eq_some_iff.mp h
    exact .bystander rfl (by simp) hserver

/-- What a step of the callback does: it moves on, perhaps with a call of
the action server. -/
inductive OwnEffect (s : ControllerServer P) : ControllerLabel P → ControllerServer P → Prop
  | moved {l pc} : nextPc s l = some pc → controllerCall s l = none →
      OwnEffect s l { s with pc := pc }
  | called {l pc c} : nextPc s l = some pc → controllerCall s l = some c →
      OwnEffect s l ⟨{ s.server with server := c.apply s.server.server }, pc⟩

/-- **Own-step inversion.** -/
theorem ownEffect_of_step {s s' : ControllerServer P} {l : ControllerLabel P}
    (hl : ∀ k, l ≠ .server k) (h : controllerStep s l = some s') : OwnEffect s l s' := by
  have hown : (nextPc s l).map (fun pc => { callServer s l with pc := pc }) = some s' := by
    cases l with
    | server k => exact absurd rfl (hl k)
    | _ => exact h
  obtain ⟨pc, hpc, rfl⟩ := Option.map_eq_some_iff.mp hown
  unfold callServer
  cases hcall : controllerCall s l with
  | none => exact .moved hpc hcall
  | some c => exact .called hpc hcall

/-- The places of the loop from which it goes on with its trajectory. -/
def ComputePc.inLoop : ComputePc P → Bool
  | .testOk | .testActive | .testCancel | .testPreempt | .accepting | .commanding => true
  | _ => false

theorem ComputePc.ne_idle_of_inLoop {pc : ComputePc P} (h : pc.inLoop = true) : pc ≠ .idle := by
  rintro rfl
  cases h

/-- The moves of the callback. -/
inductive Moves (s : ControllerServer P) : ControllerLabel P → ComputePc P → Prop
  | noGoal : s.pc = .start ∨ s.pc = .accepted → s.server.server.getCurrentGoal = none →
      Moves s .getCurrentGoal .ending
  | gotGoal {accepted goal} : s.pc = .start ∨ s.pc = .accepted →
      s.server.server.getCurrentGoal = some goal →
      Moves s .getCurrentGoal (.generating accepted goal)
  | generated {accepted goal thrown pc} : s.pc = .generating accepted goal →
      goal.path.isEmpty = false → thrown = none → pc.inLoop = true →
      Moves s (.generate thrown) pc
  | refused {accepted goal thrown result} : s.pc = .generating accepted goal →
      Moves s (.generate thrown) (.failing result)
  | tested {l pc} : s.pc.inLoop = true → pc.inLoop = true → controllerCall s l = none →
      (∀ thrown, l ≠ .generate thrown) → (∀ reached, l ≠ .command reached) → Moves s l pc
  | left {l} : s.pc.inLoop = true → Moves s l .ending
  | inactive : s.pc = .testActive → s.server.server.serverActive = false →
      Moves s .testActive .returning
  | tookPending : s.pc = .accepting → Moves s .acceptPendingGoal .accepted
  | commanded {reached pc} : s.pc = .commanding →
      pc = (if reached then .succeeding else .testOk) → Moves s (.command reached) pc
  | threw {thrown result} : s.pc = .commanding → Moves s (.throwCommand thrown) (.failing result)
  | succeeded : s.pc = .succeeding → Moves s .succeededCurrent .returning
  | failed {result} : s.pc = .failing result → Moves s .terminateCurrent .returning
  | ended : s.pc = .ending → Moves s .terminateAll .returning

/-- **Move inversion.** -/
theorem moves_of_nextPc {s : ControllerServer P} {l : ControllerLabel P} {pc : ComputePc P}
    (h : nextPc s l = some pc) : Moves s l pc := by
  have hloop : ∀ {pc' : ComputePc P}, s.pc = pc' → pc'.inLoop = true → s.pc.inLoop = true :=
    fun heq hin => by rw [heq]; exact hin
  unfold nextPc at h
  split at h
  · next hpc =>
    split at h
    · next hgoal => cases h; exact .noGoal (.inl hpc) hgoal
    · next hgoal => cases h; exact .gotGoal (.inl hpc) hgoal
  · next thrown accepted goal hpc =>
    cases h
    unfold afterGenerate refusePath
    cases hempty : goal.path.isEmpty with
    | true => exact .refused hpc
    | false =>
      cases thrown with
      | some thrown => exact .refused hpc
      | none => exact .generated hpc hempty rfl (by cases accepted <;> rfl)
  · next hpc =>
    cases h
    split
    · exact .tested (hloop hpc rfl) rfl rfl nofun nofun
    · exact .left (hloop hpc rfl)
  · next hpc =>
    cases h
    split
    · exact .tested (hloop hpc rfl) rfl rfl nofun nofun
    · next hoff => rw [Bool.not_eq_true] at hoff; exact .inactive hpc hoff
  · next hpc =>
    cases h
    split
    · exact .left (hloop hpc rfl)
    · exact .tested (hloop hpc rfl) rfl rfl nofun nofun
  · next hpc =>
    cases h
    split
    · exact .tested (hloop hpc rfl) rfl rfl nofun nofun
    · exact .tested (hloop hpc rfl) rfl rfl nofun nofun
  · next hpc => cases h; exact .tookPending hpc
  · next hpc =>
    split at h
    · next hgoal => cases h; exact .noGoal (.inr hpc) hgoal
    · next hgoal => cases h; exact .gotGoal (.inr hpc) hgoal
  · next hpc => cases h; exact .commanded hpc rfl
  · next hpc => cases h; exact .threw hpc
  · next hpc => cases h; exact .succeeded hpc
  · next hpc => cases h; exact .failed hpc
  · next hpc => cases h; exact .ended hpc
  · cases h

/-- The callback moves inside the callback. -/
theorem Moves.ne_idle {s : ControllerServer P} {l : ControllerLabel P} {pc : ComputePc P}
    (h : Moves s l pc) : s.pc ≠ .idle ∧ pc ≠ .idle := by
  cases h with
  | noGoal hpc _ => rcases hpc with hpc | hpc <;> rw [hpc] <;> exact ⟨nofun, nofun⟩
  | gotGoal hpc _ => rcases hpc with hpc | hpc <;> rw [hpc] <;> exact ⟨nofun, nofun⟩
  | generated hpc _ _ hin => rw [hpc]; exact ⟨nofun, ComputePc.ne_idle_of_inLoop hin⟩
  | tested hin hin' => exact ⟨ComputePc.ne_idle_of_inLoop hin, ComputePc.ne_idle_of_inLoop hin'⟩
  | left hin => exact ⟨ComputePc.ne_idle_of_inLoop hin, nofun⟩
  | commanded hpc hpc' => rw [hpc, hpc']; exact ⟨nofun, by split <;> exact nofun⟩
  | inactive hpc _ => rw [hpc]; exact ⟨nofun, nofun⟩
  | refused hpc => rw [hpc]; exact ⟨nofun, nofun⟩
  | tookPending hpc => rw [hpc]; exact ⟨nofun, nofun⟩
  | threw hpc => rw [hpc]; exact ⟨nofun, nofun⟩
  | succeeded hpc => rw [hpc]; exact ⟨nofun, nofun⟩
  | failed hpc => rw [hpc]; exact ⟨nofun, nofun⟩
  | ended hpc => rw [hpc]; exact ⟨nofun, nofun⟩

theorem OwnEffect.moves {s s' : ControllerServer P} {l : ControllerLabel P}
    (h : OwnEffect s l s') : ∃ pc, Moves s l pc := by
  cases h with
  | moved hpc _ => exact ⟨_, moves_of_nextPc hpc⟩
  | called hpc _ => exact ⟨_, moves_of_nextPc hpc⟩

/-- Before it returns, the callback empties the current slot or finds the
server inactive. -/
theorem Moves.returning {s : ControllerServer P} {l : ControllerLabel P}
    (hs : ServerInv s.server) (h : Moves s l .returning) :
    (∃ c, controllerCall s l = some c ∧ (c.apply s.server.server).currentHandle = none) ∨
      (l = .testActive ∧ s.server.server.serverActive = false) := by
  cases h with
  | generated _ _ _ hin => cases hin
  | tested _ hin => cases hin
  | commanded _ hpc' => split at hpc' <;> cases hpc'
  | inactive _ hoff => exact .inr ⟨rfl, hoff⟩
  | succeeded _ => exact .inl ⟨_, rfl, SimpleActionServer.currentHandle_succeededCurrent hs.slots _⟩
  | failed hpc =>
    next result =>
    exact .inl ⟨.terminateCurrent result, by simp only [controllerCall, hpc],
      SimpleActionServer.currentHandle_terminateCurrent hs.slots result⟩
  | ended _ => exact .inl ⟨_, rfl, SimpleActionServer.slot_terminateAll hs.slots _ .current⟩

/-! ## The invariant -/

/-- The worker is in the callback exactly when the callback has a place,
the server is in order, and it is active unless it is being deactivated. -/
structure ControlInv (s : ControllerServer P) : Prop where
  server : ServerInv s.server
  active : ActiveInCallback s.server
  inCallback : s.pc ≠ .idle ↔ s.server.workers.getLast? = some .executing
  /-- The callback returns with an empty current slot, or on a server that
  is not active. -/
  returning : s.pc = .returning →
    s.server.server.currentHandle = none ∨ s.server.server.serverActive = false

theorem controlInv_initial : ControlInv (ControllerServer.initial : ControllerServer P) where
  server := serverInv_initial
  active := activeInCallback_initial
  inCallback := ⟨fun h => absurd rfl h, fun h => by cases h⟩
  returning := fun h => by cases h

/-- A worker in the callback is one of the workers. -/
theorem inCallback_of_getLast {s : ActionServerState (FollowPathGoal (List P)) ErrorResult}
    (h : s.workers.getLast? = some .executing) : s.inCallback :=
  List.mem_of_getLast? h

/-- A step of the callback keeps the invariant. -/
theorem controlInv_own {s s' : ControllerServer P} {l : ControllerLabel P} (hs : ControlInv s)
    (h : OwnEffect s l s') : ControlInv s' := by
  cases h with
  | moved hpc hcall =>
    have hmoves := moves_of_nextPc hpc
    refine ⟨hs.server, hs.active, ?_, fun hret => ?_⟩
    · exact iff_of_true hmoves.ne_idle.2 (hs.inCallback.mp hmoves.ne_idle.1)
    · cases hret
      rcases hmoves.returning hs.server with ⟨c, hc, _⟩ | ⟨_, hoff⟩
      · rw [hcall] at hc; cases hc
      · exact .inr hoff
  | called hpc hcall =>
    next pc c =>
    have hmoves := moves_of_nextPc hpc
    have hw := hs.inCallback.mp hmoves.ne_idle.1
    have heffect : Effect s.server (.call c)
        { s.server with server := c.apply s.server.server } := .called c
    have hfrom : FromCallback s.server (.call c) := inCallback_of_getLast hw
    refine ⟨serverInv_effect hs.server heffect,
      activeInCallback_effect hs.server hs.active hfrom heffect,
      iff_of_true hmoves.ne_idle.2 hw, fun hret => ?_⟩
    cases hret
    rcases hmoves.returning hs.server with ⟨c', hc', hnone⟩ | ⟨rfl, _⟩
    · rw [hcall] at hc'
      cases hc'
      exact .inl hnone
    · cases hcall

/-- A step of the action server keeps the invariant. -/
theorem controlInv_party {s s' : ControllerServer P}
    {l : Label (FollowPathGoal (List P)) ErrorResult} (hs : ControlInv s)
    (h : PartyEffect s l s') : ControlInv s' := by
  cases h with
  | bystander hl hguard hserver =>
    next server =>
    have heffect := effect_of_step hs.server hserver
    have hfrom : FromCallback s.server l := by
      cases l with
      | call c => cases hl
      | _ => trivial
    refine ⟨serverInv_effect hs.server heffect,
      activeInCallback_effect hs.server hs.active hfrom heffect, ?_, fun hret => ?_⟩
    · exact hs.inCallback.trans (executing_effect hs.server heffect hl hguard).symm
    · have hw : s.server.workers.getLast? = some .executing :=
        hs.inCallback.mp (by rw [show s.pc = .returning from hret]; exact nofun)
      rcases hs.returning hret with hnone | hoff
      · rcases (bystander_effect hs.server heffect hl hw).2 with hsame | hnone'
        · exact .inl (hsame.trans hnone)
        · exact .inl hnone'
      · exact .inr (inactive_effect hs.active hw heffect hoff)
  | entered hc hserver =>
    next i server =>
    have heffect := effect_of_step hs.server hserver
    have hfrom : FromCallback s.server (.testGuard i) := trivial
    exact ⟨serverInv_effect hs.server heffect,
      activeInCallback_effect hs.server hs.active hfrom heffect,
      iff_of_true nofun ((enters_of_testGuard heffect).mpr hc), nofun⟩
  | passed hc hserver =>
    next i server =>
    have heffect := effect_of_step hs.server hserver
    have hfrom : FromCallback s.server (.testGuard i) := trivial
    have hout : s.pc = .idle := by
      by_contra hne
      exact outside_of_testGuard heffect (hs.inCallback.mp hne)
    refine ⟨serverInv_effect hs.server heffect,
      activeInCallback_effect hs.server hs.active hfrom heffect, ?_, ?_⟩
    · refine iff_of_false (fun hne => hne hout) fun hw' => ?_
      rw [(enters_of_testGuard heffect).mp hw'] at hc
      cases hc
    · intro hret
      rw [show s.pc = .returning from hret] at hout
      cases hout
  | returned hpc hserver =>
    next i server =>
    have heffect := effect_of_step hs.server hserver
    have hfrom : FromCallback s.server (.callbackReturn i) := trivial
    exact ⟨serverInv_effect hs.server heffect,
      activeInCallback_effect hs.server hs.active hfrom heffect,
      iff_of_false (fun hne => hne rfl) (outside_of_callbackReturn heffect), nofun⟩

/-- Every step of the controller server keeps the invariant. -/
theorem controlInv_step {s s' : ControllerServer P} {l : ControllerLabel P} (hs : ControlInv s)
    (h : controllerStep s l = some s') : ControlInv s' := by
  cases l with
  | server l => exact controlInv_party hs (partyEffect_of_step h)
  | _ => exact controlInv_own hs (ownEffect_of_step (by simp) h)

/-- `succeeded_current` is called from one place. -/
theorem pc_of_succeededCurrent {s s' : ControllerServer P}
    (h : controllerStep s .succeededCurrent = some s') : s.pc = .succeeding := by
  obtain ⟨pc, hpc, _⟩ := Option.map_eq_some_iff.mp h
  cases hs : s.pc with
  | succeeding => rfl
  | _ => simp [nextPc, hs] at hpc

/-- The callback returns from one place, and its return leaves the slots. -/
theorem returning_of_callbackReturn {s s' : ControllerServer P} {i : Nat} (hs : ControlInv s)
    (h : controllerStep s (.server (.callbackReturn i)) = some s') :
    s.pc = .returning ∧ s'.server.server = s.server.server := by
  cases partyEffect_of_step (show serverPartyStep s (.callbackReturn i) = some s' from h) with
  | bystander hl _ _ => cases hl
  | returned hpc hserver =>
    refine ⟨hpc, ?_⟩
    cases effect_of_step hs.server hserver
    rfl

end Nav3D.Controller

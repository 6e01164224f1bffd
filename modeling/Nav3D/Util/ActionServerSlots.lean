/-
Nav3D.Util.ActionServerSlots — what each operation of `SimpleActionServer`
does to the set of open goals.

The purpose of the two slots, in the abstract: the goals that are not yet
terminal are exactly the goals rclcpp_action is about to deliver
(`transit`), the current goal and the pending goal, and no goal is in two
of these places. `Slots s transit` states this for a server state, with
the bookkeeping of the results sent. Each operation has one equation for
the activity of a goal (`active_terminate`, `active_acceptPending`, …),
equations for the two slots, and one lemma that it keeps `Slots`; later
modules use only these.
-/
import Nav3D.Util.SimpleActionServer
import Mathlib.Data.List.Nodup

namespace Nav3D.Util.SimpleActionServer

open Nav3D.Ros

variable {Goal Result : Type} {s : SimpleActionServer Goal Result} {transit : List GoalId}

/-! ## Activity of a goal after each change of a handle -/

theorem status_setStatus (s : SimpleActionServer Goal Result) (g g' : GoalId) (st : GoalStatus) :
    (s.setStatus g st).status g'
      = if g' = g ∧ (s.handles g).isSome = true then st else s.status g' := by
  by_cases hg : g' = g
  · subst hg
    cases hh : s.handles g' <;> simp [setStatus, status, hh]
  · simp [setStatus, status, hg]

/-- Only a goal that has a handle is active. -/
theorem isSome_of_active {g : GoalId} (h : s.active g = true) : (s.handles g).isSome = true := by
  cases hh : s.handles g with
  | none => simp [active, status, hh, GoalStatus.isActive] at h
  | some _ => rfl

/-- A terminal transition makes its goal inactive and no other. -/
theorem active_finish (s : SimpleActionServer Goal Result) (g g' : GoalId) {st : GoalStatus}
    (hst : st.isTerminal = true) (r : Result) :
    (s.finish g st r).active g' = (decide (g' ≠ g) && s.active g') := by
  have hact : st.isActive = false := GoalStatus.isActive_of_isTerminal hst
  show ((s.setStatus g st).status g').isActive = _
  rw [status_setStatus]
  by_cases hg : g' = g
  · subst hg
    cases hh : (s.handles g').isSome with
    | true => simp [hact]
    | false =>
      have : s.active g' = false := by
        by_contra hc
        rw [isSome_of_active (by simpa using hc)] at hh
        cases hh
      simpa [active] using this
  · simp [hg, active]

theorem active_addHandle (s : SimpleActionServer Goal Result) (g g' : GoalId) (goal : Goal) :
    (s.addHandle g goal).active g' = (decide (g' = g) || s.active g') := by
  by_cases hg : g' = g
  · subst hg; simp [addHandle, active, status]
  · simp [addHandle, active, status, hg]

/-- A cancel request leaves the goal active, in state `canceling`. -/
theorem active_cancelGoal (s : SimpleActionServer Goal Result) (g g' : GoalId) :
    (s.cancelGoal g).active g' = s.active g' := by
  unfold cancelGoal
  split
  · next hst =>
    show ((s.setStatus g .canceling).status g').isActive = _
    rw [status_setStatus]
    split
    · next h => rw [h.1, active, hst]; rfl
    · rfl
  · rfl

/-! ## The open goals and their places -/

/-- The open goals are the delivered-to-be, the current and the pending
goal, each in one place; every result sent belongs to a goal that is no
longer open, and there is one result a goal. -/
structure Slots (s : SimpleActionServer Goal Result) (transit : List GoalId) : Prop where
  active_iff : ∀ g, s.active g = true ↔
    g ∈ transit ∨ s.currentHandle = some g ∨ s.pendingHandle = some g
  distinct : ∀ g, s.pendingHandle = some g → s.currentHandle ≠ some g
  transit_current : ∀ g ∈ transit, s.currentHandle ≠ some g
  transit_pending : ∀ g ∈ transit, s.pendingHandle ≠ some g
  transit_nodup : transit.Nodup
  results_nodup : (s.results.map (·.1)).Nodup
  results_closed : ∀ g ∈ s.results.map (·.1), s.active g = false ∧ (s.handles g).isSome = true

theorem slots_initial : Slots (initial : SimpleActionServer Goal Result) [] where
  active_iff := by simp [initial, active, status, GoalStatus.isActive]
  distinct := by simp [initial]
  transit_current := by simp
  transit_pending := by simp
  transit_nodup := List.nodup_nil
  results_nodup := by simp [initial]
  results_closed := by simp [initial]

/-- The current slot never holds a goal that has ended. -/
theorem Slots.isActive_current (h : Slots s transit) :
    s.isActive s.currentHandle = s.currentHandle.isSome := by
  cases hc : s.currentHandle with
  | none => rfl
  | some g => exact (h.active_iff g).mpr (Or.inr (Or.inl hc))

/-- The pending slot never holds a goal that has ended. -/
theorem Slots.isActive_pending (h : Slots s transit) :
    s.isActive s.pendingHandle = s.pendingHandle.isSome := by
  cases hp : s.pendingHandle with
  | none => rfl
  | some g => exact (h.active_iff g).mpr (Or.inr (Or.inr hp))

/-- A terminal transition of an open goal, the goal then being taken out
of its place: the other goals keep theirs. -/
theorem Slots.finish {s' : SimpleActionServer Goal Result} (h : Slots s transit) {g : GoalId}
    {st : GoalStatus} (hst : st.isTerminal = true) (r : Result) (hg : s.active g = true)
    (hgt : g ∉ transit) (hhandles : s'.handles = (s.finish g st r).handles)
    (hresults : s'.results = (s.finish g st r).results)
    (hslots : ∀ g', (s'.currentHandle = some g' ∨ s'.pendingHandle = some g') ↔
      g' ≠ g ∧ (s.currentHandle = some g' ∨ s.pendingHandle = some g'))
    (hdistinct : ∀ g', s'.pendingHandle = some g' → s'.currentHandle ≠ some g') :
    Slots s' transit := by
  have hact : ∀ g', s'.active g' = (decide (g' ≠ g) && s.active g') := by
    intro g'
    rw [← active_finish s g g' hst r]
    simp only [active, status, hhandles]
  have hres : s'.results.map (·.1) = s.results.map (·.1) ++ [g] := by
    simp [hresults, SimpleActionServer.finish]
  have hknown : ∀ g', (s'.handles g').isSome = (s.handles g').isSome := by
    intro g'
    rw [hhandles]
    by_cases hg' : g' = g
    · subst hg'; simp [SimpleActionServer.finish, setStatus]
    · simp [SimpleActionServer.finish, setStatus, hg']
  refine ⟨fun g' => ?_, hdistinct, fun g' ht hc => ?_, fun g' ht hp => ?_, h.transit_nodup, ?_, ?_⟩
  · rw [hact, hslots g']
    simp only [Bool.and_eq_true, decide_eq_true_eq, h.active_iff g']
    constructor
    · rintro ⟨hne, ht | hs⟩
      · exact Or.inl ht
      · exact Or.inr ⟨hne, hs⟩
    · rintro (ht | ⟨hne, hs⟩)
      · exact ⟨fun he => hgt (he ▸ ht), Or.inl ht⟩
      · exact ⟨hne, Or.inr hs⟩
  · rcases ((hslots g').mp (Or.inl hc)).2 with hc' | hp'
    · exact h.transit_current g' ht hc'
    · exact h.transit_pending g' ht hp'
  · rcases ((hslots g').mp (Or.inr hp)).2 with hc' | hp'
    · exact h.transit_current g' ht hc'
    · exact h.transit_pending g' ht hp'
  · rw [hres, List.nodup_append]
    refine ⟨h.results_nodup, List.nodup_singleton g, fun a ha b hb hab => ?_⟩
    rw [List.mem_singleton] at hb
    subst hab; subst hb
    rw [(h.results_closed a ha).1] at hg
    cases hg
  · intro g' hg'
    rw [hres, List.mem_append, List.mem_singleton] at hg'
    rw [hact, hknown]
    rcases hg' with hg' | rfl
    · exact ⟨by rw [(h.results_closed g' hg').1, Bool.and_false], (h.results_closed g' hg').2⟩
    · exact ⟨by simp, isSome_of_active hg⟩

/-! ## `terminate` -/

@[simp] theorem slot_current (s : SimpleActionServer Goal Result) :
    s.slot .current = s.currentHandle := rfl
@[simp] theorem slot_pending (s : SimpleActionServer Goal Result) :
    s.slot .pending = s.pendingHandle := rfl

/-- `terminate` changes no flag of the server. -/
theorem terminate_flags (s : SimpleActionServer Goal Result) (sl : Slot) (r : Result) :
    (s.terminate sl r).stopExecution = s.stopExecution ∧
    (s.terminate sl r).serverActive = s.serverActive ∧
    (s.terminate sl r).preemptRequested = s.preemptRequested := by
  unfold terminate
  split
  · exact ⟨rfl, rfl, rfl⟩
  · split
    · cases sl <;> exact ⟨rfl, rfl, rfl⟩
    · exact ⟨rfl, rfl, rfl⟩

/-- On a slot that is set, `terminate` ends its goal and empties it. -/
theorem Slots.terminate_some (h : Slots s transit) {sl : Slot} {g : GoalId}
    (hg : s.slot sl = some g) (r : Result) :
    s.terminate sl r
      = (s.finish g (if s.isCanceling g then .canceled else .aborted) r).resetSlot sl := by
  have hact : s.active g = true := by
    refine (h.active_iff g).mpr (Or.inr ?_)
    cases sl with
    | current => exact Or.inl hg
    | pending => exact Or.inr hg
  rw [terminate, hg]
  simp [hact]

/-- `terminate` empties its slot and leaves the other one. -/
theorem Slots.slot_terminate (h : Slots s transit) (sl sl' : Slot) (r : Result) :
    (s.terminate sl r).slot sl' = if sl' = sl then none else s.slot sl' := by
  cases hg : s.slot sl with
  | none =>
    have heq : s.terminate sl r = s := by simp [terminate, hg]
    rw [heq]
    split
    · next he => rw [he, hg]
    · rfl
  | some g =>
    rw [h.terminate_some hg r]
    cases sl <;> cases sl' <;> rfl

theorem Slots.terminate (h : Slots s transit) (sl : Slot) (r : Result) :
    Slots (s.terminate sl r) transit := by
  cases hg : s.slot sl with
  | none =>
    have heq : s.terminate sl r = s := by simp [SimpleActionServer.terminate, hg]
    rwa [heq]
  | some g =>
    have hterm : (if s.isCanceling g then GoalStatus.canceled else .aborted).isTerminal = true := by
      split <;> rfl
    rw [h.terminate_some hg r]
    cases sl with
    | current =>
      have hne : s.pendingHandle ≠ some g := fun hp => h.distinct g hp hg
      refine h.finish hterm r ((h.active_iff g).mpr (Or.inr (Or.inl hg)))
        (fun ht => h.transit_current g ht hg) rfl rfl (fun g' => ?_) (fun g' _ hc => by cases hc)
      show (none = some g' ∨ s.pendingHandle = some g') ↔ _
      constructor
      · rintro (hc | hp)
        · cases hc
        · exact ⟨fun he => hne (he ▸ hp), Or.inr hp⟩
      · rintro ⟨hg', hc | hp⟩
        · rw [slot_current, hc, Option.some.injEq] at hg; exact absurd hg hg'
        · exact Or.inr hp
    | pending =>
      have hne : s.currentHandle ≠ some g := h.distinct g hg
      refine h.finish hterm r ((h.active_iff g).mpr (Or.inr (Or.inr hg)))
        (fun ht => h.transit_pending g ht hg) rfl rfl (fun g' => ?_) (fun g' hp _ => by cases hp)
      show (s.currentHandle = some g' ∨ none = some g') ↔ _
      constructor
      · rintro (hc | hp)
        · exact ⟨fun he => hne (he ▸ hc), Or.inl hc⟩
        · cases hp
      · rintro ⟨hg', hc | hp⟩
        · exact Or.inl hc
        · rw [slot_pending, hp, Option.some.injEq] at hg; exact absurd hg hg'

/-- Moving the open goals between the slots, no handle changing. -/
theorem Slots.relocate {s' : SimpleActionServer Goal Result} (h : Slots s transit)
    (hh : s'.handles = s.handles) (hr : s'.results = s.results)
    (hslots : ∀ g, (s'.currentHandle = some g ∨ s'.pendingHandle = some g) ↔
      (s.currentHandle = some g ∨ s.pendingHandle = some g))
    (hdistinct : ∀ g, s'.pendingHandle = some g → s'.currentHandle ≠ some g) :
    Slots s' transit := by
  have hact : ∀ g, s'.active g = s.active g := fun g => by simp only [active, status, hh]
  refine ⟨fun g => ?_, hdistinct, fun g ht hc => ?_, fun g ht hp => ?_, h.transit_nodup, ?_, ?_⟩
  · rw [hact, hslots g, h.active_iff g]
  · rcases (hslots g).mp (Or.inl hc) with hc' | hp'
    · exact h.transit_current g ht hc'
    · exact h.transit_pending g ht hp'
  · rcases (hslots g).mp (Or.inr hp) with hc' | hp'
    · exact h.transit_current g ht hc'
    · exact h.transit_pending g ht hp'
  · rw [hr]; exact h.results_nodup
  · simpa only [hr, hact, hh] using h.results_closed

/-- A change of the flags alone keeps the slots. -/
theorem Slots.congr {s' : SimpleActionServer Goal Result} (h : Slots s transit)
    (hh : s'.handles = s.handles) (hr : s'.results = s.results)
    (hc : s'.currentHandle = s.currentHandle) (hp : s'.pendingHandle = s.pendingHandle) :
    Slots s' transit :=
  h.relocate hh hr (fun g => by rw [hc, hp]) (by rw [hc, hp]; exact h.distinct)

/-- Delivering a goal: it leaves `transit` and takes a place in a slot. -/
theorem Slots.deliver {s' : SimpleActionServer Goal Result} (h : Slots s transit) {g : GoalId}
    (hg : g ∈ transit) (hh : s'.handles = s.handles) (hr : s'.results = s.results)
    (hslots : ∀ g', (s'.currentHandle = some g' ∨ s'.pendingHandle = some g') ↔
      g' = g ∨ (s.currentHandle = some g' ∨ s.pendingHandle = some g'))
    (hdistinct : ∀ g', s'.pendingHandle = some g' → s'.currentHandle ≠ some g') :
    Slots s' (transit.erase g) := by
  have hact : ∀ g, s'.active g = s.active g := fun g => by simp only [active, status, hh]
  have herase : ∀ g', g' ∈ transit.erase g ↔ g' ≠ g ∧ g' ∈ transit :=
    fun g' => h.transit_nodup.mem_erase_iff
  have hplace : ∀ g' ∈ transit.erase g,
      ¬ (s'.currentHandle = some g' ∨ s'.pendingHandle = some g') := by
    intro g' ht hs
    rw [herase] at ht
    rcases (hslots g').mp hs with he | hc | hp
    · exact ht.1 he
    · exact h.transit_current g' ht.2 hc
    · exact h.transit_pending g' ht.2 hp
  refine ⟨fun g' => ?_, hdistinct, fun g' ht hc => hplace g' ht (Or.inl hc),
    fun g' ht hp => hplace g' ht (Or.inr hp), h.transit_nodup.erase g, ?_, ?_⟩
  · rw [hact, h.active_iff, hslots, herase]
    by_cases he : g' = g
    · simp [he, hg]
    · simp [he]
  · rw [hr]; exact h.results_nodup
  · simpa only [hr, hact, hh] using h.results_closed

/-! ## The invariant of the two slots -/

/-- The slots are in order and the preemption flag says whether the
pending slot is set. -/
structure SlotInv (s : SimpleActionServer Goal Result) (transit : List GoalId) : Prop where
  slots : Slots s transit
  preempt : s.preemptRequested = s.pendingHandle.isSome

theorem slotInv_initial : SlotInv (initial : SimpleActionServer Goal Result) [] :=
  ⟨slots_initial, rfl⟩

theorem SlotInv.terminateCurrent (h : SlotInv s transit) (r : Result) :
    SlotInv (s.terminateCurrent r) transit := by
  have hp := h.slots.slot_terminate .current .pending r
  simp only [slot_pending, reduceCtorEq, if_false] at hp
  exact ⟨h.slots.terminate _ r, by
    rw [SimpleActionServer.terminateCurrent, (terminate_flags s _ r).2.2, hp, h.preempt]⟩

theorem currentHandle_terminateCurrent (h : SlotInv s transit) (r : Result) :
    (s.terminateCurrent r).currentHandle = none :=
  h.slots.slot_terminate .current .current r

theorem pendingHandle_terminateCurrent (h : SlotInv s transit) (r : Result) :
    (s.terminateCurrent r).pendingHandle = s.pendingHandle :=
  h.slots.slot_terminate .current .pending r

theorem slot_terminateAll (h : SlotInv s transit) (r : Result) (sl : Slot) :
    (s.terminateAll r).slot sl = none := by
  have h1 := h.slots.terminate .current r
  have h2 := h1.slot_terminate .pending sl r
  rw [h.slots.slot_terminate .current sl r] at h2
  have heq : (s.terminateAll r).slot sl =
      ((s.terminate .current r).terminate .pending r).slot sl := by
    cases sl <;> rfl
  rw [heq, h2]
  cases sl <;> rfl

theorem SlotInv.terminateAll (h : SlotInv s transit) (r : Result) :
    SlotInv (s.terminateAll r) transit := by
  have h2 := (h.slots.terminate .current r).terminate .pending r
  refine ⟨h2.congr rfl rfl rfl rfl, ?_⟩
  have hp := slot_terminateAll h r .pending
  rw [slot_pending] at hp
  rw [hp]
  rfl

theorem SlotInv.succeededCurrent (h : SlotInv s transit) (r : Result) :
    SlotInv (s.succeededCurrent r) transit := by
  unfold SimpleActionServer.succeededCurrent
  cases hc : s.currentHandle with
  | none => exact h
  | some g =>
    have hact : s.active g = true := (h.slots.active_iff g).mpr (Or.inr (Or.inl hc))
    have hne : s.pendingHandle ≠ some g := fun hp => h.slots.distinct g hp hc
    simp only [hact, if_true]
    refine ⟨h.slots.finish rfl r hact (fun ht => h.slots.transit_current g ht hc) rfl rfl
      (fun g' => ?_) (fun g' _ hc' => by cases hc'), h.preempt⟩
    show (none = some g' ∨ s.pendingHandle = some g') ↔ _
    rw [hc]
    constructor
    · rintro (hc' | hp)
      · cases hc'
      · exact ⟨fun he => hne (he ▸ hp), Or.inr hp⟩
    · rintro ⟨hg', hc' | hp⟩
      · cases hc'; exact absurd rfl hg'
      · exact Or.inr hp

theorem pendingHandle_succeededCurrent (s : SimpleActionServer Goal Result) (r : Result) :
    (s.succeededCurrent r).pendingHandle = s.pendingHandle := by
  unfold SimpleActionServer.succeededCurrent
  split
  · rfl
  · split <;> rfl

/-- A waiting goal is not launched on: the test reads the current slot and
the future only. -/
theorem Slots.mustWait_eq (h : Slots s transit) (running : Bool) :
    s.mustWait running = (s.currentHandle.isSome || running) := by
  rw [mustWait, h.isActive_current]

/-- A set pending slot has a goal message. -/
theorem SlotInv.getPendingGoal_isSome (h : SlotInv s transit) {p : GoalId}
    (hp : s.pendingHandle = some p) : s.getPendingGoal.isSome = true := by
  have hact : s.active p = true := (h.slots.active_iff p).mpr (Or.inr (Or.inr hp))
  simp [getPendingGoal, goalOf, hp, hact, isSome_of_active hact]

/-! ## Taking over the pending goal -/

section Accept

variable [Inhabited Result]

theorem SlotInv.acceptPending (h : SlotInv s transit) {p : GoalId}
    (hp : s.pendingHandle = some p) : SlotInv s.acceptPending transit := by
  refine ⟨?_, rfl⟩
  cases hc : s.currentHandle with
  | none =>
    have heq : s.acceptPending
        = { s with currentHandle := some p, pendingHandle := none, preemptRequested := false } := by
      simp [SimpleActionServer.acceptPending, hc, hp]
    rw [heq]
    refine h.slots.relocate rfl rfl (fun g => ?_) (fun g hg => by cases hg)
    simp [hc, hp]
  | some c =>
    have hact : s.active c = true := (h.slots.active_iff c).mpr (Or.inr (Or.inl hc))
    have hne : c ≠ p := fun he => h.slots.distinct p hp (he ▸ hc)
    have heq : s.acceptPending
        = { s.finish c .aborted emptyResult with
            currentHandle := some p, pendingHandle := none, preemptRequested := false } := by
      simp [SimpleActionServer.acceptPending, hc, hp, hact, hne]
    rw [heq]
    refine h.slots.finish rfl emptyResult hact (fun ht => h.slots.transit_current c ht hc) rfl rfl
      (fun g => ?_) (fun g hg => by cases hg)
    simp only [hc, hp, Option.some.injEq, reduceCtorEq, or_false]
    constructor
    · rintro rfl
      exact ⟨fun he => hne he.symm, Or.inr rfl⟩
    · rintro ⟨hg, he | he⟩
      · exact absurd he.symm hg
      · exact he

theorem currentHandle_acceptPending (s : SimpleActionServer Goal Result) :
    s.acceptPending.currentHandle = s.pendingHandle := rfl

theorem acceptPendingGoal_none (h : s.pendingHandle = none) :
    s.acceptPendingGoal = (s, none) := by
  simp [acceptPendingGoal, isActive, h]

theorem SlotInv.acceptPendingGoal_some (h : SlotInv s transit) {p : GoalId}
    (hp : s.pendingHandle = some p) :
    s.acceptPendingGoal = (s.acceptPending, s.getPendingGoal) := by
  rw [SimpleActionServer.acceptPendingGoal, h.slots.isActive_pending, hp]
  rfl

theorem SlotInv.acceptPendingGoal (h : SlotInv s transit) :
    SlotInv s.acceptPendingGoal.1 transit := by
  cases hp : s.pendingHandle with
  | none => rw [acceptPendingGoal_none hp]; exact h
  | some p => rw [h.acceptPendingGoal_some hp]; exact h.acceptPending hp

theorem terminatePendingGoal_none (h : s.pendingHandle = none) :
    s.terminatePendingGoal = s := by
  simp [terminatePendingGoal, isActive, h]

theorem SlotInv.terminatePendingGoal_some (h : SlotInv s transit) {p : GoalId}
    (hp : s.pendingHandle = some p) :
    s.terminatePendingGoal
      = { s.terminate .pending emptyResult with preemptRequested := false } := by
  rw [SimpleActionServer.terminatePendingGoal, h.slots.isActive_pending, hp]
  rfl

theorem SlotInv.terminatePendingGoal (h : SlotInv s transit) :
    SlotInv s.terminatePendingGoal transit := by
  cases hp : s.pendingHandle with
  | none => rw [terminatePendingGoal_none hp]; exact h
  | some p =>
    rw [h.terminatePendingGoal_some hp]
    refine ⟨(h.slots.terminate .pending emptyResult).congr rfl rfl rfl rfl, ?_⟩
    have hpend := h.slots.slot_terminate .pending .pending (emptyResult : Result)
    rw [slot_pending, if_pos rfl] at hpend
    show false = (s.terminate .pending emptyResult).pendingHandle.isSome
    rw [hpend]
    rfl

theorem currentHandle_terminatePendingGoal (h : SlotInv s transit) :
    s.terminatePendingGoal.currentHandle = s.currentHandle := by
  cases hp : s.pendingHandle with
  | none => rw [terminatePendingGoal_none hp]
  | some p =>
    rw [h.terminatePendingGoal_some hp]
    exact h.slots.slot_terminate .pending .current emptyResult

theorem pendingHandle_terminatePendingGoal (h : SlotInv s transit) :
    s.terminatePendingGoal.pendingHandle = none := by
  cases hp : s.pendingHandle with
  | none => rw [terminatePendingGoal_none hp]; exact hp
  | some p =>
    rw [h.terminatePendingGoal_some hp]
    exact h.slots.slot_terminate .pending .pending emptyResult

/-! ## Delivery of a goal -/

/-- The slots after the pending goal, if any, has been terminated: the
first half of both branches of `handle_accepted`. -/
theorem Slots.dropPending (h : Slots s transit) :
    ∃ s', (if s.isActive s.pendingHandle then s.terminate .pending emptyResult else s) = s' ∧
      Slots s' transit ∧ s'.currentHandle = s.currentHandle ∧ s'.pendingHandle = none := by
  rw [h.isActive_pending]
  cases hp : s.pendingHandle with
  | none => exact ⟨s, rfl, h, rfl, hp⟩
  | some p =>
    exact ⟨_, rfl, h.terminate .pending emptyResult, h.slot_terminate .pending .current emptyResult,
      h.slot_terminate .pending .pending emptyResult⟩

theorem SlotInv.park (h : SlotInv s transit) {g : GoalId} (hg : g ∈ transit) :
    SlotInv (s.park g) (transit.erase g) := by
  obtain ⟨s', heq, hs', hc, hp⟩ := h.slots.dropPending
  have hpark : s.park g = { s' with pendingHandle := some g, preemptRequested := true } := by
    simp only [SimpleActionServer.park, heq]
  rw [hpark]
  refine ⟨hs'.deliver hg rfl rfl (fun g' => ?_) (fun g' hg' => ?_), rfl⟩
  · simp only [hp, Option.some.injEq, reduceCtorEq, or_false]
    constructor
    · rintro (h1 | h1)
      · exact Or.inr h1
      · exact Or.inl h1.symm
    · rintro (h1 | h1)
      · exact Or.inr h1.symm
      · exact Or.inl h1
  · cases hg'
    exact hs'.transit_current g hg

theorem currentHandle_park (h : SlotInv s transit) (g : GoalId) :
    (s.park g).currentHandle = s.currentHandle := by
  obtain ⟨s', heq, _, hc, _⟩ := h.slots.dropPending
  simp only [SimpleActionServer.park, heq, hc]

theorem pendingHandle_park (s : SimpleActionServer Goal Result) (g : GoalId) :
    (s.park g).pendingHandle = some g := rfl

/-- `launch` terminates a forgotten preemption before it takes the goal. -/
theorem SlotInv.launch_eq (h : SlotInv s transit) (g : GoalId) :
    s.launch g = { s.terminatePendingGoal with currentHandle := some g } := by
  cases hp : s.pendingHandle with
  | none =>
    rw [terminatePendingGoal_none hp]
    simp [SimpleActionServer.launch, isActive, hp]
  | some p =>
    have hact : s.isActive s.pendingHandle = true := by
      rw [h.slots.isActive_pending, hp]
      rfl
    rw [h.terminatePendingGoal_some hp]
    simp only [SimpleActionServer.launch, hact, if_true]

theorem SlotInv.launch (h : SlotInv s transit) {g : GoalId} (hg : g ∈ transit)
    (hc : s.currentHandle = none) : SlotInv (s.launch g) (transit.erase g) := by
  rw [h.launch_eq g]
  have h1 := h.terminatePendingGoal
  have hc1 : s.terminatePendingGoal.currentHandle = none := by
    rw [currentHandle_terminatePendingGoal h, hc]
  have hp1 := pendingHandle_terminatePendingGoal h
  refine ⟨h1.slots.deliver hg rfl rfl (fun g' => ?_) (fun g' hg' => ?_), h1.preempt⟩
  · simp only [hc1, hp1, Option.some.injEq, reduceCtorEq, or_false]
    exact eq_comm
  · rw [show ({ s.terminatePendingGoal with currentHandle := some g } :
      SimpleActionServer Goal Result).pendingHandle = none from hp1] at hg'
    cases hg'

/-! ## The end of an iteration -/

theorem endOfIteration_stop (h : s.stopExecution = true) :
    s.endOfIteration = (s.terminateAll emptyResult, false) := by
  rw [endOfIteration, if_pos h]

/-- A server that is not stopping ends its current goal and takes over the
pending one, if there is one. -/
theorem SlotInv.endOfIteration_continue (h : SlotInv s transit) (hs : s.stopExecution = false) :
    s.endOfIteration
      = (if s.pendingHandle.isSome then (s.terminateCurrent emptyResult).acceptPending
          else s.terminateCurrent emptyResult, s.pendingHandle.isSome) := by
  have h1 := h.terminateCurrent emptyResult
  have hp := pendingHandle_terminateCurrent h (emptyResult : Result)
  have hact := h1.slots.isActive_pending
  rw [hp] at hact
  rw [endOfIteration, hs, if_neg Bool.false_ne_true]
  show (if (s.terminateCurrent emptyResult).isActive (s.terminateCurrent emptyResult).pendingHandle
    then ((s.terminateCurrent emptyResult).acceptPendingGoal.1, true) else _) = _
  rw [hp, hact]
  cases hpend : s.pendingHandle with
  | none => rfl
  | some p =>
    rw [hpend] at hp
    rw [h1.acceptPendingGoal_some hp]
    rfl

theorem SlotInv.endOfIteration (h : SlotInv s transit) : SlotInv s.endOfIteration.1 transit := by
  cases hs : s.stopExecution with
  | true => rw [endOfIteration_stop hs]; exact h.terminateAll emptyResult
  | false =>
    have h1 := h.terminateCurrent emptyResult
    rw [h.endOfIteration_continue hs]
    cases hpend : s.pendingHandle with
    | none => exact h1
    | some p => exact h1.acceptPending ((pendingHandle_terminateCurrent h _).trans hpend)

/-- The loop goes on exactly with a pending goal on a server that is not
stopping; that goal is then the current one. -/
theorem endOfIteration_slots (h : SlotInv s transit) :
    s.endOfIteration.2 = (!s.stopExecution && s.pendingHandle.isSome) ∧
    s.endOfIteration.1.currentHandle
      = (if s.endOfIteration.2 then s.pendingHandle else none) ∧
    s.endOfIteration.1.pendingHandle = none := by
  cases hs : s.stopExecution with
  | true =>
    have h1 := slot_terminateAll h (emptyResult : Result)
    rw [endOfIteration_stop hs]
    exact ⟨rfl, h1 .current, h1 .pending⟩
  | false =>
    have hc := currentHandle_terminateCurrent h (emptyResult : Result)
    have hp := pendingHandle_terminateCurrent h (emptyResult : Result)
    rw [h.endOfIteration_continue hs]
    cases hpend : s.pendingHandle with
    | none => exact ⟨rfl, hc, hp.trans hpend⟩
    | some p => exact ⟨rfl, hp.trans hpend, rfl⟩

end Accept

/-! ## Handles that rclcpp_action adds or changes -/

/-- A goal that `handle_goal` accepted is open and on its way. -/
theorem SlotInv.addHandle (h : SlotInv s transit) {g : GoalId} (hg : s.handles g = none)
    (goal : Goal) : SlotInv (s.addHandle g goal) (transit ++ [g]) := by
  have hinact : s.active g = false := by simp [active, status, hg, GoalStatus.isActive]
  have hfresh : g ∉ transit ∧ s.currentHandle ≠ some g ∧ s.pendingHandle ≠ some g := by
    refine ⟨fun ht => ?_, fun hc => ?_, fun hp => ?_⟩
    · rw [(h.slots.active_iff g).mpr (Or.inl ht)] at hinact; cases hinact
    · rw [(h.slots.active_iff g).mpr (Or.inr (Or.inl hc))] at hinact; cases hinact
    · rw [(h.slots.active_iff g).mpr (Or.inr (Or.inr hp))] at hinact; cases hinact
  refine ⟨⟨fun g' => ?_, h.slots.distinct, ?_, ?_, ?_, h.slots.results_nodup, ?_⟩, h.preempt⟩
  · rw [active_addHandle]
    simp only [Bool.or_eq_true, decide_eq_true_eq, h.slots.active_iff g', List.mem_append,
      List.mem_singleton]
    show _ ↔ _ ∨ s.currentHandle = some g' ∨ s.pendingHandle = some g'
    tauto
  · intro g' hg'
    rw [List.mem_append, List.mem_singleton] at hg'
    rcases hg' with hg' | rfl
    · exact h.slots.transit_current g' hg'
    · exact hfresh.2.1
  · intro g' hg'
    rw [List.mem_append, List.mem_singleton] at hg'
    rcases hg' with hg' | rfl
    · exact h.slots.transit_pending g' hg'
    · exact hfresh.2.2
  · rw [List.nodup_append]
    refine ⟨h.slots.transit_nodup, List.nodup_singleton g, fun a ha b hb hab => ?_⟩
    rw [List.mem_singleton] at hb
    exact hfresh.1 (hb ▸ hab ▸ ha)
  · intro g' hg'
    obtain ⟨hclosed, hknown⟩ := h.slots.results_closed g' hg'
    have hne : g' ≠ g := fun he => by rw [he, hg] at hknown; cases hknown
    rw [active_addHandle]
    refine ⟨by simp [hne, hclosed], ?_⟩
    simpa [SimpleActionServer.addHandle, hne] using hknown

theorem SlotInv.cancelGoal (h : SlotInv s transit) (g : GoalId) :
    SlotInv (s.cancelGoal g) transit := by
  have hfields : (s.cancelGoal g).results = s.results ∧
      (s.cancelGoal g).currentHandle = s.currentHandle ∧
      (s.cancelGoal g).pendingHandle = s.pendingHandle ∧
      (s.cancelGoal g).preemptRequested = s.preemptRequested ∧
      ∀ g', ((s.cancelGoal g).handles g').isSome = (s.handles g').isSome := by
    unfold SimpleActionServer.cancelGoal
    split
    · refine ⟨rfl, rfl, rfl, rfl, fun g' => ?_⟩
      by_cases he : g' = g
      · subst he; simp [setStatus]
      · simp [setStatus, he]
    · exact ⟨rfl, rfl, rfl, rfl, fun _ => rfl⟩
  obtain ⟨hr, hc, hp, hpre, hk⟩ := hfields
  have hact := active_cancelGoal s g
  refine ⟨⟨?_, ?_, ?_, ?_, h.slots.transit_nodup, ?_, ?_⟩, by rw [hpre, hp]; exact h.preempt⟩
  · simpa only [hact, hc, hp] using h.slots.active_iff
  · simpa only [hc, hp] using h.slots.distinct
  · simpa only [hc] using h.slots.transit_current
  · simpa only [hp] using h.slots.transit_pending
  · rw [hr]; exact h.slots.results_nodup
  · simpa only [hr, hact, hk] using h.slots.results_closed

end Nav3D.Util.SimpleActionServer

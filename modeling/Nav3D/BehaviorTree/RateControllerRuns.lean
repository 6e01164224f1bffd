/-
Nav3D.BehaviorTree.RateControllerRuns — how often a `RateController` ticks
its child (`plugins/decorator/rate_controller.cpp`).

`start_` is the time of the last success of the child in the activation, or
of its start (`Tracks`). So the controller ticks its child if it has not
done so in the activation, if the child is RUNNING, or if the period has
passed since then, and never else (`child_ticked_iff`). A failure of the
child does not start the timer again: the child is ticked in the next tick.
When the clock does not go back, the successes of the child in one
activation are a period apart (`successes_paced`).
-/
import Nav3D.BehaviorTree.Plugins
import Nav3D.Lib.DecoratorBench
import Nav3D.Lib.Pacing

namespace Nav3D.BehaviorTree.RateControllerRuns

open BT Transition Pacing
open DecoratorBench DecoratorEvent

/-- What one tick reads: `1.0 / hz`, if the port is set, and the clock. -/
structure RateInputs extends RateClock where
  period : Option Int

/-- A `RateController` on the bench. -/
abbrev RateBench : Type := DecoratorBench RateController RateInputs

def rateCell : RateControllerCell RateBench where
  toStatusCell := cell
  members := DecoratorBench.members
  setMembers m s := { s with members := m }

/-- `RateController::tick()`. -/
def tick : Tick RateController RateInputs :=
  fun inputs child => (rateController rateCell inputs.period inputs.toRateClock child).tick

/-- A `RateController` that has been created. -/
def rateSystem : System RateBench (Label RateInputs) := system tick ⟨false, 0, 0⟩

/-! ## One tick -/

/-- The members when `tick()` decides. -/
def started (inputs : RateInputs) (s : RateBench) : RateController :=
  if s.status.isActive then s.members
  else RateController.initialized inputs.period inputs.toRateClock

/-- The tick is to tick the child. -/
def Due (inputs : RateInputs) (s : RateBench) : Prop :=
  (started inputs s).firstTime = true ∨ s.childStatus = .running ∨
    (started inputs s).period ≤ inputs.now - (started inputs s).start

instance Due.decidable (inputs : RateInputs) (s : RateBench) :
    Decidable (Due inputs s) :=
  inferInstanceAs (Decidable (_ ∨ _ ∨ _))

/-- What `tick()` makes of the child's answer. -/
def afterRated (inputs : RateInputs) :
    EStateM.Result Unit RateBench NodeStatus → EStateM.Result Unit RateBench NodeStatus
  | .ok .success s => .ok .success { s with members := { s.members with start := inputs.succeeded } }
  | .ok .idle s => .ok .failure s
  | x => x

theorem tick_run (inputs : RateInputs) (a : ChildAnswer) (s : RateBench) :
    (tick inputs (child inputs a)).run s =
      if Due inputs s then
        afterRated inputs (afterChild inputs a
          { s with status := .running, members := { started inputs s with firstTime := false } })
      else .ok .running { s with status := .running, members := started inputs s } := by
  have hstart : rateCell.setStatus .running
      (if (rateCell.status s).isActive then s
        else rateCell.setMembers (RateController.initialized inputs.period inputs.toRateClock) s) =
        { s with status := .running, members := started inputs s } := by
    by_cases hactive : s.status.isActive = true
    · simp [started, rateCell, cell, hactive]
    · simp [started, rateCell, cell, hactive]
  have hdue : (((started inputs s).firstTime || s.childStatus == .running) ||
      decide ((started inputs s).period ≤ inputs.now - (started inputs s).start)) = true ↔
        Due inputs s := by
    simp [Due, or_assoc]
  simp only [tick, rateController, decorator, EStateM.run_bind, EStateM.run_modify, hstart,
    EStateM.run_get]
  have hcondition : ((rateCell.members { s with
        status := .running, members := started inputs s }).firstTime ||
      (child inputs a).status { s with status := .running, members := started inputs s } ==
        .running ||
      decide ((rateCell.members { s with
        status := .running, members := started inputs s }).period ≤
          inputs.now - (rateCell.members { s with
            status := .running, members := started inputs s }).start)) = decide (Due inputs s) := by
    rw [Bool.eq_iff_iff, decide_eq_true_iff]
    exact hdue
  rw [hcondition]
  by_cases h : Due inputs s
  · simp only [h, decide_true, if_true, tickRated, EStateM.run_bind, EStateM.run_modify,
      child_executeTick]
    obtain ⟨leaves, result⟩ := a
    rcases result with _ | _ | _ | _ | _ | _ <;> rfl
  · simp [h, rateCell, cell]

/-- What a tick that ticks the child leaves in the members and the trace. -/
structure TickedChild (inputs : RateInputs) (a : ChildAnswer) (s s' : RateBench) : Prop where
  members : s'.members = ⟨false, (started inputs s).period,
    if a.result = some .success then inputs.succeeded else (started inputs s).start⟩
  trace : s'.trace = returnEvent a.result ++
    .child inputs (s.childStatus == .running) a.result ::
      .ticked inputs (!s.status.isActive) :: s.trace
  /-- A child that has succeeded has been reset. -/
  succeeded : a.result = some .success → s'.childStatus = .idle

/-- A tick that does not. -/
structure NotTickedChild (inputs : RateInputs) (s s' : RateBench) : Prop where
  members : s'.members = started inputs s
  trace : s'.trace = .returned .running :: .ticked inputs (!s.status.isActive) :: s.trace
  childStatus : s'.childStatus ≠ .running

theorem tick_due {inputs : RateInputs} {a : ChildAnswer} {s : RateBench}
    (h : Due inputs s) :
    TickedChild inputs a s
      (afterTick ((tick inputs (child inputs a)).run (s.beforeTick inputs))) := by
  have h' : Due inputs (s.beforeTick inputs) := h
  rw [tick_run, if_pos h']
  obtain ⟨leaves, result⟩ := a
  rcases result with _ | _ | _ | _ | _ | _ <;>
    exact ⟨rfl, rfl, by first | exact fun _ => rfl | nofun⟩

theorem tick_notDue {inputs : RateInputs} {a : ChildAnswer} {s : RateBench}
    (h : ¬ Due inputs s) :
    NotTickedChild inputs s
      (afterTick ((tick inputs (child inputs a)).run (s.beforeTick inputs))) := by
  have h' : ¬ Due inputs (s.beforeTick inputs) := h
  rw [tick_run, if_neg h']
  refine ⟨rfl, rfl, ?_⟩
  have hchild : s.childStatus ≠ .running := fun hrunning => h (.inr (.inl hrunning))
  show (if s.childStatus.isCompleted = true then NodeStatus.idle else s.childStatus) ≠ .running
  by_cases hcompleted : s.childStatus.isCompleted = true
  · rw [if_pos hcompleted]
    decide
  · rw [if_neg hcompleted]
    exact hchild

/-! ## What `start_` is -/

/-- The time that the timer starts from at an event. -/
def referenceTime : DecoratorEvent RateInputs → Option Int
  | .child inputs _ (some .success) => some inputs.succeeded
  | .ticked inputs true => some inputs.started
  | _ => none

/-- The time of the last success of the child in the activation, or of its
start. -/
def lastReference (trace : List (DecoratorEvent RateInputs)) : Option Int :=
  (activation trace).findSome? referenceTime

/-- The period that is read when the controller is started. -/
def readPeriod : DecoratorEvent RateInputs → Option Int
  | .ticked inputs true => some (inputs.period.getD 1000)
  | _ => none

/-- The period of the activation. -/
def currentPeriod (trace : List (DecoratorEvent RateInputs)) : Option Int :=
  (activation trace).findSome? readPeriod

/-- The child has been ticked in the activation. -/
def ChildTicked (trace : List (DecoratorEvent RateInputs)) : Prop :=
  ∃ e ∈ activation trace, e.isChild = true

/-- The members of an active controller. -/
structure Tracks (s : RateBench) : Prop where
  firstTime : s.status.isActive = true → (s.members.firstTime = true ↔ ¬ ChildTicked s.trace)
  period : s.status.isActive = true → currentPeriod s.trace = some s.members.period
  start : s.status.isActive = true → lastReference s.trace = some s.members.start

theorem tracks_created : Tracks (created ⟨false, 0, 0⟩) := ⟨nofun, nofun, nofun⟩

theorem Tracks.reset {s s' : RateBench} (h : Tracks s) (hreset : Reset s s') : Tracks s' := by
  have hactive : s'.status.isActive = true → s.status.isActive = true := by
    rcases hreset.status with hsame | hidle
    · rw [hsame]
      exact id
    · rw [hidle]
      nofun
  refine ⟨fun hs' => ?_, fun hs' => ?_, fun hs' => ?_⟩
  · rw [hreset.members, hreset.trace]
    exact h.firstTime (hactive hs')
  · rw [hreset.members, hreset.trace]
    exact h.period (hactive hs')
  · rw [hreset.members, hreset.trace]
    exact h.start (hactive hs')

/-- What the tick finds when it decides. -/
theorem Tracks.started {s : RateBench} (h : Tracks s) (inputs : RateInputs) :
    let trace := .ticked inputs (!s.status.isActive) :: s.trace
    ((RateControllerRuns.started inputs s).firstTime = true ↔ ¬ ChildTicked trace) ∧
      currentPeriod trace = some (RateControllerRuns.started inputs s).period ∧
      lastReference trace = some (RateControllerRuns.started inputs s).start := by
  unfold RateControllerRuns.started ChildTicked currentPeriod lastReference
  cases hactive : s.status.isActive with
  | true =>
    have hfirst := h.firstTime hactive
    have hperiod := h.period hactive
    have hstart := h.start hactive
    simp only [Bool.not_true, if_true, activation_continued, List.findSome?_cons, readPeriod,
      referenceTime, List.mem_cons, exists_eq_or_imp, isChild, Bool.false_eq_true, false_or]
    exact ⟨hfirst, hperiod, hstart⟩
  | false => simp [RateController.initialized, readPeriod, referenceTime, isChild]

/-- The times at which the child has succeeded in the activation, newest
first. -/
def successTime : DecoratorEvent RateInputs → Option Int
  | .child inputs _ (some .success) => some inputs.succeeded
  | _ => none

def successes (trace : List (DecoratorEvent RateInputs)) : List Int :=
  (activation trace).filterMap successTime

/-- A return is no tick of the child and changes no time. -/
theorem activation_returnEvent (result : Option NodeStatus)
    (trace : List (DecoratorEvent RateInputs)) :
    (ChildTicked (returnEvent result ++ trace) ↔ ChildTicked trace) ∧
      currentPeriod (returnEvent result ++ trace) = currentPeriod trace ∧
      lastReference (returnEvent result ++ trace) = lastReference trace ∧
      successes (returnEvent result ++ trace) = successes trace := by
  rcases result with _ | _ | _ | _ | _ | _ <;>
    simp [returnEvent, ChildTicked, currentPeriod, lastReference, successes, isChild,
      List.findSome?_cons, List.filterMap_cons, readPeriod, referenceTime, successTime]

/-- The period stays what it was when the controller was started. -/
theorem currentPeriod_tick (inputs : RateInputs) (a : ChildAnswer) {s : RateBench} (h : Tracks s) :
    currentPeriod (afterTick ((tick inputs (child inputs a)).run (s.beforeTick inputs))).trace =
      some (started inputs s).period := by
  obtain ⟨-, hperiod, -⟩ := h.started inputs
  by_cases hdue : Due inputs s
  · obtain ⟨-, hsame, -⟩ := activation_returnEvent a.result
      (.child inputs (s.childStatus == .running) a.result ::
        .ticked inputs (!s.status.isActive) :: s.trace)
    rw [(tick_due hdue).trace, hsame]
    exact hperiod
  · rw [(tick_notDue hdue).trace]
    exact hperiod

theorem tracks_tick {inputs : RateInputs} {a : ChildAnswer} {s : RateBench} (h : Tracks s) :
    Tracks (afterTick ((tick inputs (child inputs a)).run (s.beforeTick inputs))) := by
  obtain ⟨hfirst, -, hstart⟩ := h.started inputs
  have hperiod := currentPeriod_tick inputs a h
  by_cases hdue : Due inputs s
  · obtain ⟨hmembers, htrace, -⟩ := tick_due (a := a) hdue
    obtain ⟨hticked, -, hreference, -⟩ := activation_returnEvent a.result
      (.child inputs (s.childStatus == .running) a.result ::
        .ticked inputs (!s.status.isActive) :: s.trace)
    refine ⟨fun _ => ?_, fun _ => ?_, fun _ => ?_⟩
    · rw [hmembers, htrace, hticked]
      simp [ChildTicked, isChild]
    · rw [hmembers]
      exact hperiod
    · rw [hmembers, htrace, hreference, lastReference, activation_childTicked, List.findSome?_cons]
      -- a success starts the timer again
      by_cases hsuccess : a.result = some .success
      · rw [hsuccess]
        rfl
      · have hnone : referenceTime (.child inputs (s.childStatus == .running) a.result) = none := by
          cases hresult : a.result with
          | none => rfl
          | some status =>
            cases status with
            | success => exact absurd hresult hsuccess
            | _ => rfl
        rw [hnone, if_neg hsuccess]
        exact hstart
  · obtain ⟨hmembers, htrace, -⟩ := tick_notDue (a := a) hdue
    refine ⟨fun _ => ?_, fun _ => ?_, fun _ => ?_⟩
    · rw [hmembers, htrace, hfirst]
      simp [ChildTicked, isChild]
    · rw [hmembers]
      exact hperiod
    · rw [hmembers, htrace]
      exact hstart

theorem tracks_of_reach {C : RateBench → Label RateInputs → Prop} {s : RateBench}
    (h : rateSystem.Reach C s) : Tracks s :=
  invariant_of_reach h Tracks tracks_created (fun _ _ _ hs _ => tracks_tick hs)
    (fun _ _ hs hreset => hs.reset hreset)

/-! ## When the child is ticked -/

/-- How often the child has been ticked. -/
def childTicks (trace : List (DecoratorEvent RateInputs)) : Nat := trace.countP isChild

/-- The controller is started, it has not ticked its child since, the child
is RUNNING, or the period read at the start has passed since the child last
succeeded or the controller was started. -/
def TimeToTick (inputs : RateInputs) (s : RateBench) : Prop :=
  s.status.isActive = false ∨ ¬ ChildTicked s.trace ∨ s.childStatus = .running ∨
    ∃ t ∈ lastReference s.trace, ∃ period ∈ currentPeriod s.trace, period ≤ inputs.now - t

theorem due_iff {inputs : RateInputs} {s : RateBench} (h : Tracks s) :
    Due inputs s ↔ TimeToTick inputs s := by
  unfold Due TimeToTick started
  cases hactive : s.status.isActive with
  | false => simp [RateController.initialized]
  | true =>
    rw [if_pos rfl, h.firstTime hactive, h.start hactive, h.period hactive]
    simp

/-- **When the child is ticked.** In every state that a `RateController`
reaches, with any clock, a tick ticks the child once if it is time to, and
otherwise not at all. -/
theorem child_ticked_iff {C : RateBench → Label RateInputs → Prop} {s : RateBench}
    (h : rateSystem.Reach C s) (inputs : RateInputs) (a : ChildAnswer) :
    let s' := stepLabel tick s (.executeTick inputs a)
    (TimeToTick inputs s → childTicks s'.trace = childTicks s.trace + 1) ∧
      (¬ TimeToTick inputs s → childTicks s'.trace = childTicks s.trace) := by
  intro s'
  have hs' : s' = afterTick ((tick inputs (child inputs a)).run (s.beforeTick inputs)) :=
    stepLabel_executeTick tick s inputs a
  have hdue : Due inputs s ↔ TimeToTick inputs s := due_iff (tracks_of_reach h)
  rw [← hdue, hs']
  refine ⟨fun h => ?_, fun h => ?_⟩
  · rw [(tick_due h).trace]
    rcases a.result with _ | _ | _ | _ | _ | _ <;>
      simp [childTicks, returnEvent, isChild, List.countP_cons]
  · rw [(tick_notDue h).trace]
    simp [childTicks, isChild]

/-! ## How often the child succeeds -/

/-- The readings of `clock` are in order, and none of `e` comes after
them. -/
def InOrder (inputs : RateInputs) : DecoratorEvent RateInputs → Prop
  | .ticked inputs' _ => inputs'.now ≤ inputs.started ∧ inputs'.succeeded ≤ inputs.started
  | _ => True

instance InOrder.decidable (inputs : RateInputs) :
    (e : DecoratorEvent RateInputs) → Decidable (InOrder inputs e)
  | .ticked _ _ => inferInstanceAs (Decidable (_ ∧ _))
  | .child _ _ _ | .returned _ => isTrue trivial

/-- The clock does not go back. -/
def Clocked (s : RateBench) : Label RateInputs → Prop
  | .executeTick inputs _ => (inputs.started ≤ inputs.now ∧ inputs.now ≤ inputs.succeeded) ∧
      ∀ e ∈ s.trace, InOrder inputs e
  | _ => True

instance Clocked.decidable (s : RateBench) : (l : Label RateInputs) → Decidable (Clocked s l)
  | .executeTick _ _ => inferInstanceAs (Decidable (_ ∧ _))
  | .halt _ | .haltChild _ | .resetStatus => isTrue trivial

/-- What keeps the successes `period` apart. -/
structure PacedFor (period : Int) (s : RateBench) : Prop where
  paced : Paced period (successes s.trace)
  /-- A child that is RUNNING was started when it was time to. -/
  ready : s.childStatus = .running → ∀ t ∈ (successes s.trace).head?,
    ∃ inputs b, .ticked inputs b ∈ s.trace ∧ t + period ≤ inputs.now

/-- The successes are apart by the period of the activation. -/
def PacedInv (s : RateBench) : Prop :=
  ∀ period ∈ currentPeriod s.trace, 0 ≤ period → PacedFor period s

theorem pacedInv_created : PacedInv (created ⟨false, 0, 0⟩) := nofun

theorem PacedInv.reset {s s' : RateBench} (h : PacedInv s) (hreset : Reset s s') :
    PacedInv s' := by
  intro period hperiod hnonneg
  rw [hreset.trace] at hperiod
  obtain ⟨hpaced, hready⟩ := h period hperiod hnonneg
  refine ⟨?_, fun hrunning => ?_⟩
  · rw [hreset.trace]
    exact hpaced
  · rw [hreset.trace]
    refine hready ?_
    rcases hreset.childStatus with hsame | hidle
    · rw [← hsame]
      exact hrunning
    · rw [hidle] at hrunning
      cases hrunning

/-- The last success is the reference. -/
theorem lastReference_of_successes {trace : List (DecoratorEvent RateInputs)} {t : Int}
    (h : t ∈ (successes trace).head?) : lastReference trace = some t := by
  unfold successes lastReference at *
  induction trace with
  | nil => cases h
  | cons e trace ih =>
    cases e with
    | ticked inputs starts =>
      cases starts with
      | true => cases h
      | false => exact ih h
    | child inputs running result =>
      rcases result with _ | _ | _ | _ | _ | _
      · exact ih h
      · exact ih h
      · exact ih h
      · cases h
        rfl
      · exact ih h
      · exact ih h
    | returned status => exact ih h

/-- No success without a tick of the child. -/
theorem successes_eq_nil {trace : List (DecoratorEvent RateInputs)} (h : ¬ ChildTicked trace) :
    successes trace = [] := by
  refine List.filterMap_eq_nil_iff.mpr fun e he => ?_
  cases e with
  | child inputs running result => exact absurd ⟨_, he, rfl⟩ h
  | _ => rfl

/-- When a tick is due, the last success is a period ago. -/
theorem ready_of_due {inputs : RateInputs} {s : RateBench} (htracks : Tracks s)
    (h : s.status.isActive = true → PacedFor (started inputs s).period s) (a : ChildAnswer)
    (hclock : Clocked s (.executeTick inputs a)) (hdue : Due inputs s) :
    ∀ t ∈ (successes (.ticked inputs (!s.status.isActive) :: s.trace)).head?,
      t + (started inputs s).period ≤ inputs.now := by
  intro t ht
  obtain ⟨hfirst, -, hstart⟩ := htracks.started inputs
  have hreference := lastReference_of_successes ht
  rcases hdue with hnew | hrunning | hpassed
  · -- the child has not been ticked
    rw [successes_eq_nil (hfirst.mp hnew)] at ht
    cases ht
  · cases hactive : s.status.isActive with
    | false => rw [hactive] at ht; cases ht
    | true =>
      rw [hactive] at ht
      obtain ⟨inputs', b, hmem, hready⟩ := (h hactive).ready hrunning t ht
      have hbefore : inputs'.now ≤ inputs.started := (hclock.2 _ hmem).1
      have hnow := hclock.1.1
      omega
  · rw [hstart] at hreference
    cases hreference
    omega

theorem pacedInv_tick {inputs : RateInputs} {a : ChildAnswer} {s : RateBench}
    (htracks : Tracks s) (h : PacedInv s) (hclock : Clocked s (.executeTick inputs a)) :
    PacedInv (afterTick ((tick inputs (child inputs a)).run (s.beforeTick inputs))) := by
  intro period hperiod hnonneg
  rw [currentPeriod_tick _ _ htracks] at hperiod
  cases hperiod
  -- an activation that goes on keeps its period
  have hbefore : s.status.isActive = true → PacedFor (started inputs s).period s := by
    intro hactive
    refine h _ ?_ hnonneg
    rw [htracks.period hactive, started, if_pos hactive]
    rfl
  have hpaced : Paced (started inputs s).period
      (successes (.ticked inputs (!s.status.isActive) :: s.trace)) := by
    cases hactive : s.status.isActive with
    | true => exact (hbefore hactive).paced
    | false => exact paced_nil
  by_cases hdue : Due inputs s
  · have hready := ready_of_due htracks hbefore a hclock hdue
    obtain ⟨-, htrace, hsucceeded⟩ := tick_due (a := a) hdue
    obtain ⟨-, -, -, hsuccesses⟩ := activation_returnEvent a.result
      (.child inputs (s.childStatus == .running) a.result ::
        .ticked inputs (!s.status.isActive) :: s.trace)
    rw [← htrace] at hsuccesses
    by_cases hsuccess : a.result = some .success
    · refine ⟨?_, fun hrunning => ?_⟩
      · rw [hsuccesses, hsuccess]
        refine Paced.cons hpaced hnonneg fun t ht => ?_
        exact (hready t ht).trans hclock.1.2
      · rw [hsucceeded hsuccess] at hrunning
        cases hrunning
    · have hsame : successes (.child inputs (s.childStatus == .running) a.result ::
          .ticked inputs (!s.status.isActive) :: s.trace) =
          successes (.ticked inputs (!s.status.isActive) :: s.trace) := by
        cases hresult : a.result with
        | none => rfl
        | some status =>
          cases status with
          | success => exact absurd hresult hsuccess
          | _ => rfl
      rw [hsame] at hsuccesses
      refine ⟨by rw [hsuccesses]; exact hpaced, fun _ t ht => ?_⟩
      rw [hsuccesses] at ht
      refine ⟨inputs, !s.status.isActive, ?_, hready t ht⟩
      rw [htrace]
      exact List.mem_append_right _ (List.mem_cons_of_mem _ List.mem_cons_self)
  · obtain ⟨-, htrace, hchild⟩ := tick_notDue (a := a) hdue
    refine ⟨?_, fun hrunning => absurd hrunning hchild⟩
    rw [htrace]
    exact hpaced

theorem pacedInv_of_reach {s : RateBench} (h : rateSystem.Reach Clocked s) : PacedInv s :=
  (invariant_of_reach h (fun s => Tracks s ∧ PacedInv s) ⟨tracks_created, pacedInv_created⟩
    (fun _ _ _ hs hclock => ⟨tracks_tick hs.1, pacedInv_tick hs.1 hs.2 hclock⟩)
    (fun _ _ hs hreset => ⟨hs.1.reset hreset, hs.2.reset hreset⟩)).2

/-- **Rate.** When the clock does not go back, the successes of the child in
an activation are at least a period apart, the period that was read when the
controller was started: of those between two times `a` and `b`, all but one
fit into `b - a`, period by period. -/
theorem successes_paced {s : RateBench} (h : rateSystem.Reach Clocked s) {period : Int}
    (hperiod : currentPeriod s.trace = some period) (a b : Int) (hab : a ≤ b) :
    (((successes s.trace).filter fun t => a ≤ t ∧ t ≤ b).length - 1 : Nat) * period ≤ b - a :=
  window_mul_le (fun hnonneg => (pacedInv_of_reach h period hperiod hnonneg).paced) hab

/-! ### A run -/

/-- With a period of 1000 ms: the child succeeds, is not ticked, fails, is
ticked again at once and succeeds. What the port holds later does not
matter. -/
def pacedRun : List (Label RateInputs) :=
  [.executeTick ⟨⟨0, 0, 10⟩, some 1000⟩ ⟨.success, some .success⟩,
    .executeTick ⟨⟨500, 500, 500⟩, some 100⟩ ⟨.success, some .success⟩,
    .executeTick ⟨⟨1010, 1010, 1020⟩, none⟩ ⟨.failure, some .failure⟩,
    .executeTick ⟨⟨1100, 1100, 1110⟩, some 1000⟩ ⟨.success, some .success⟩]

theorem exists_paced : ∃ s : RateBench, rateSystem.Reach Clocked s ∧
    currentPeriod s.trace = some 1000 ∧ successes s.trace = [1110, 10] := by
  obtain ⟨s, hr, hs⟩ := System.exists_reach_of_runWhile (S := rateSystem) Clocked pacedRun
    (fun s => decide (currentPeriod s.trace = some 1000 ∧ successes s.trace = [1110, 10])) rfl
    (by decide +kernel)
  exact ⟨s, hr, of_decide_eq_true hs⟩

/-- The last tick did not tick the child, 500 ms after its success. -/
theorem child_ticked_iff_early : ∃ s : RateBench, ∀ a,
    ¬ TimeToTick ⟨⟨500, 500, 500⟩, none⟩ s ∧
      childTicks (stepLabel tick s (.executeTick ⟨⟨500, 500, 500⟩, none⟩ a)).trace = 1 := by
  obtain ⟨s, hr, hs⟩ := System.exists_reach_of_runWhile (S := rateSystem) Clocked
    (pacedRun.take 1)
    (fun s => decide (¬ Due ⟨⟨500, 500, 500⟩, none⟩ s ∧ childTicks s.trace = 1)) rfl
    (by decide +kernel)
  obtain ⟨hdue, hticks⟩ := of_decide_eq_true hs
  have hnot : ¬ TimeToTick ⟨⟨500, 500, 500⟩, none⟩ s := mt (due_iff (tracks_of_reach hr)).mpr hdue
  exact ⟨s, fun a => ⟨hnot, ((child_ticked_iff hr _ a).2 hnot).trans hticks⟩⟩

theorem successes_paced_twice : ∃ s : RateBench,
    successes s.trace = [1110, 10] ∧ (1 : Nat) * (1000 : Int) ≤ 1110 - 10 := by
  obtain ⟨s, hr, hperiod, hs⟩ := exists_paced
  have hpaced := successes_paced hr hperiod 10 1110 (by decide)
  rw [hs] at hpaced
  exact ⟨s, hs, hpaced⟩

end Nav3D.BehaviorTree.RateControllerRuns

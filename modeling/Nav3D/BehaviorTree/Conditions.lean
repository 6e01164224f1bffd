/-
Nav3D.BehaviorTree.Conditions — the conditions that remember something from
tick to tick (`plugins/condition/`): two timers, `TimeExpired` and
`PathExpiringTimer`, and two observers of the goal, `GoalUpdated` and
`GlobalUpdatedGoal`.

`TimeExpired` returns SUCCESS a period after it was started or last returned
SUCCESS, and so at most once in a period (`expirations_paced`).
`PathExpiringTimer` returns SUCCESS exactly if the period has passed since it
was restarted, and so only if no tick of the last period has read another
path or has returned SUCCESS (`success_unchanged`). The
observers report a change of the goal exactly once: `GlobalUpdatedGoal` all
of them and its first tick (`updates_reported`), `GoalUpdated` those within
one activation (`updates_reported_active`).

Times and periods are nanoseconds. What `now()` returns where is part of
what a tick reads, and an entry that does not exist is none.
-/
import Nav3D.BehaviorTree.Plugins
import Nav3D.Lib.ConditionBench
import Nav3D.Lib.Pacing

namespace Nav3D.BehaviorTree.Conditions

open BT Transition Pacing
open ConditionBench ConditionEvent

/-! ## `TimeExpired` -/

/-- The members of a `TimeExpiredCondition`. -/
structure TimeExpired where
  period : Int
  start : Int
  deriving DecidableEq

/-- What its tick reads: the port `seconds`, and the time when it is started,
when it takes the elapsed time and when it has expired. -/
structure TimeExpiredInputs where
  seconds : Option Int
  started : Int
  now : Int
  expired : Int
  deriving DecidableEq

/-- `TimeExpiredCondition::tick()`. -/
def TimeExpired.tick : Tick TimeExpired TimeExpiredInputs := fun wasActive inputs m =>
  if wasActive then
    if inputs.now - m.start < m.period then (.failure, m)
    else (.success, { m with start := inputs.expired })
  else (.failure, ⟨inputs.seconds.getD m.period, inputs.started⟩)

/-- A `TimeExpiredCondition` that has been created, with a period of 1 s. -/
def timeExpiredSystem : System (ConditionBench TimeExpired TimeExpiredInputs)
    (Label TimeExpiredInputs) :=
  system TimeExpired.tick ⟨1000000000, 0⟩

/-- The time that the timer starts from after a tick, if it has started
again. -/
def restartTime (e : ConditionEvent TimeExpiredInputs) : Option Int :=
  if e.starts then some e.inputs.started
  else if e.result = .success then some e.inputs.expired
  else none

/-- The times at which the timer has started in the activation, newest
first. -/
def restarts (trace : List (ConditionEvent TimeExpiredInputs)) : List Int :=
  (activation trace).filterMap restartTime

/-- The clock does not go back in a tick. -/
def ClockedTick (_ : ConditionBench TimeExpired TimeExpiredInputs) :
    Label TimeExpiredInputs → Prop
  | .executeTick inputs => inputs.now ≤ inputs.expired
  | _ => True

instance ClockedTick.decidable (s : ConditionBench TimeExpired TimeExpiredInputs) :
    (l : Label TimeExpiredInputs) → Decidable (ClockedTick s l)
  | .executeTick inputs => inferInstanceAs (Decidable (inputs.now ≤ inputs.expired))
  | .halt | .haltChild | .resetStatus => isTrue trivial

/-- What the members and the trace say of each other. -/
def TimerInv (active : Bool) (m : TimeExpired) (trace : List (ConditionEvent TimeExpiredInputs)) :
    Prop :=
  (active = true → (restarts trace).head? = some m.start) ∧
    (0 ≤ m.period → Paced m.period (restarts trace))

theorem timerInv_tick {s : ConditionBench TimeExpired TimeExpiredInputs}
    {inputs : TimeExpiredInputs} (h : TimerInv s.status.isActive s.members s.trace)
    (hclock : inputs.now ≤ inputs.expired) :
    TimerInv true (TimeExpired.tick s.status.isActive inputs s.members).2
      (⟨inputs, !s.status.isActive, (TimeExpired.tick s.status.isActive inputs s.members).1⟩ ::
        s.trace) := by
  obtain ⟨hstart, hpaced⟩ := h
  cases hactive : s.status.isActive with
  | false =>
    refine ⟨fun _ => rfl, fun hperiod => ?_⟩
    exact paced_nil.cons hperiod (by simp)
  | true =>
    have hstart' := hstart hactive
    simp only [TimeExpired.tick, if_true]
    by_cases hearly : inputs.now - s.members.start < s.members.period
    · simp only [hearly, if_true]
      exact ⟨fun _ => hstart', hpaced⟩
    · simp only [hearly, if_false]
      refine ⟨fun _ => rfl, fun hperiod => (hpaced hperiod).cons hperiod fun t ht => ?_⟩
      -- the newest start is that of the member
      have hlast : t = s.members.start := Option.some.inj (ht.symm.trans hstart')
      show t + s.members.period ≤ inputs.expired
      omega

theorem timerInv_of_reach {s : ConditionBench TimeExpired TimeExpiredInputs}
    (h : timeExpiredSystem.Reach ClockedTick s) :
    TimerInv s.status.isActive s.members s.trace :=
  invariant_of_reach h TimerInv ⟨nofun, fun _ => paced_nil⟩ (fun _ _ hinv => ⟨nofun, hinv.2⟩)
    (fun _ _ hinv hclock => timerInv_tick hinv hclock)

/-- **Expirations.** In an activation, the start and the SUCCESS returns of a
`TimeExpired` are at least a period apart: of those between `a` and `b`, all
but one fit into `b - a`. It returns SUCCESS exactly if the period has
passed since the last of them. -/
theorem expirations_paced {s : ConditionBench TimeExpired TimeExpiredInputs}
    (h : timeExpiredSystem.Reach ClockedTick s) :
    (∀ a b, a ≤ b →
      ((((restarts s.trace).filter fun t => a ≤ t ∧ t ≤ b).length - 1 : Nat) : Int) *
        s.members.period ≤ b - a) ∧
    ∀ inputs, s.status.isActive = true →
      ((TimeExpired.tick s.status.isActive inputs s.members).1 = .success ↔
        ∃ t ∈ (restarts s.trace).head?, s.members.period ≤ inputs.now - t) := by
  obtain ⟨hstart, hpaced⟩ := timerInv_of_reach h
  refine ⟨fun a b hab => ?_, fun inputs hactive => ?_⟩
  · exact window_mul_le hpaced hab
  · rw [hactive]
    have hstart' := hstart hactive
    simp only [TimeExpired.tick, if_true, hstart', Option.mem_def, Option.some.injEq,
      exists_eq_left']
    split
    · next hearly => exact ⟨nofun, fun hpassed => absurd hearly (by omega)⟩
    · next hpassed => exact ⟨fun _ => by omega, fun _ => rfl⟩

/-! ### A run -/

/-- Started at 0 with a period of 3, halted, started again at 20, and ticked
at 22, 24 and 28. -/
def timerRun : List (Label TimeExpiredInputs) :=
  [.executeTick ⟨some 3, 0, 0, 0⟩, .haltChild, .executeTick ⟨none, 20, 20, 20⟩,
    .executeTick ⟨none, 0, 22, 22⟩, .executeTick ⟨none, 0, 24, 25⟩,
    .executeTick ⟨none, 0, 28, 28⟩]

/-- The timer has been started at 20 and has expired at 25 and at 28. -/
theorem expirations_paced_twice : ∃ s : ConditionBench TimeExpired TimeExpiredInputs,
    restarts s.trace = [28, 25, 20] ∧ s.members.period = 3 ∧ (2 : Nat) * (3 : Int) ≤ 28 - 20 := by
  obtain ⟨s, hr, hs⟩ := System.exists_reach_of_runWhile (S := timeExpiredSystem) ClockedTick
    timerRun (fun s => decide (restarts s.trace = [28, 25, 20] ∧ s.members.period = 3)) rfl
    (by decide +kernel)
  obtain ⟨hrestarts, hperiod⟩ := of_decide_eq_true hs
  have hpaced := (expirations_paced hr).1 20 28 (by decide)
  rw [hrestarts, hperiod] at hpaced
  exact ⟨s, hrestarts, hperiod, hpaced⟩

/-! ## `PathExpiringTimer` -/

section Paths

variable {P : Type} [DecidableEq P] [Inhabited P]

/-- The members of a `PathExpiringTimerCondition`. -/
structure PathExpiringTimer (P : Type) where
  period : Int
  prevPath : P
  start : Int
  firstTime : Bool
  deriving DecidableEq

/-- What its tick reads: the ports, and the time in the first tick, when the
path has changed, when it takes the elapsed time and when it has expired. -/
structure PathExpiringInputs (P : Type) where
  seconds : Option Int
  path : Option P
  first : Int
  changed : Int
  now : Int
  expired : Int
  deriving DecidableEq

/-- The path that is compared. Without an entry it is an empty one. -/
def PathExpiringInputs.read (inputs : PathExpiringInputs P) : P := inputs.path.getD default

/-- The restart of the timer when the path has changed. -/
def PathExpiringTimer.compare (m : PathExpiringTimer P) (inputs : PathExpiringInputs P) :
    PathExpiringTimer P :=
  if m.prevPath ≠ inputs.read then { m with prevPath := inputs.read, start := inputs.changed }
  else m

/-- `PathExpiringTimerCondition::tick()`. -/
def PathExpiringTimer.tick : Tick (PathExpiringTimer P) (PathExpiringInputs P) :=
  fun _ inputs m =>
    if m.firstTime then
      (.failure, ⟨inputs.seconds.getD m.period, inputs.path.getD m.prevPath, inputs.first, false⟩)
    else
      let m := m.compare inputs
      if inputs.now - m.start < m.period then (.failure, m)
      else (.success, { m with start := inputs.expired })

/-- A `PathExpiringTimerCondition` that has been created. -/
def pathExpiringSystem : System (ConditionBench (PathExpiringTimer P) (PathExpiringInputs P))
    (Label (PathExpiringInputs P)) :=
  system PathExpiringTimer.tick ⟨1000000000, default, 0, true⟩

/-- The clock does not go back, neither in a tick nor since an earlier
one. -/
def ClockedPaths (s : ConditionBench (PathExpiringTimer P) (PathExpiringInputs P)) :
    Label (PathExpiringInputs P) → Prop
  | .executeTick inputs =>
    inputs.first ≤ inputs.changed ∧ inputs.changed ≤ inputs.now ∧ inputs.now ≤ inputs.expired ∧
      ∀ e ∈ s.trace, e.inputs.expired ≤ inputs.first
  | _ => True

instance ClockedPaths.decidable (s : ConditionBench (PathExpiringTimer P) (PathExpiringInputs P)) :
    (l : Label (PathExpiringInputs P)) → Decidable (ClockedPaths s l)
  | .executeTick inputs => inferInstanceAs (Decidable
      (inputs.first ≤ inputs.changed ∧ inputs.changed ≤ inputs.now ∧
        inputs.now ≤ inputs.expired ∧ ∀ e ∈ s.trace, e.inputs.expired ≤ inputs.first))
  | .halt | .haltChild | .resetStatus => isTrue trivial

/-- A tick that has read the path and has not expired. -/
def Keeps (path : P) (e : ConditionEvent (PathExpiringInputs P)) : Prop :=
  e.inputs.read = path ∧ e.result = .failure

instance Keeps.decidable (path : P) (e : ConditionEvent (PathExpiringInputs P)) :
    Decidable (Keeps path e) :=
  inferInstanceAs (Decidable (e.inputs.read = path ∧ e.result = .failure))

/-- What the members and the trace say of each other: since the timer has
started, nothing has happened that would start it again, and it has not
started since anything has. -/
structure PathInv (m : PathExpiringTimer P)
    (trace : List (ConditionEvent (PathExpiringInputs P))) : Prop where
  first : m.firstTime = true ↔ trace = []
  empty : m.firstTime = true → m.prevPath = default
  clocked : ∀ e ∈ trace, e.inputs.now ≤ e.inputs.expired
  after : ∀ e ∈ trace, m.start < e.inputs.now → Keeps m.prevPath e
  since : ∀ later e earlier, trace = later ++ e :: earlier →
    (∀ e' ∈ later, Keeps e.inputs.read e') → m.start ≤ e.inputs.expired ∧
      m.prevPath = e.inputs.read

/-- The same of the timer that has been compared with what the tick reads. -/
structure Compared (m : PathExpiringTimer P) (inputs : PathExpiringInputs P)
    (trace : List (ConditionEvent (PathExpiringInputs P))) : Prop where
  path : m.prevPath = inputs.read
  notFirst : m.firstTime = false
  start : m.start ≤ inputs.now
  after : ∀ e ∈ trace, m.start < e.inputs.now → Keeps inputs.read e
  since : ∀ later e earlier, trace = later ++ e :: earlier → e.inputs.read = inputs.read →
    (∀ e' ∈ later, Keeps e.inputs.read e') → m.start ≤ e.inputs.expired

/-- What the clock says of the tick and of those before. -/
structure ClockedInputs (inputs : PathExpiringInputs P)
    (trace : List (ConditionEvent (PathExpiringInputs P))) : Prop where
  changed : inputs.changed ≤ inputs.now
  expired : inputs.now ≤ inputs.expired
  first : inputs.first ≤ inputs.expired
  before : ∀ e ∈ trace, e.inputs.expired ≤ inputs.changed

omit [DecidableEq P] [Inhabited P] in
theorem clockedInputs {s : ConditionBench (PathExpiringTimer P) (PathExpiringInputs P)}
    {inputs : PathExpiringInputs P} (h : ClockedPaths s (.executeTick inputs)) :
    ClockedInputs inputs s.trace := by
  obtain ⟨hfirst, hchanged, hexpired, hbefore⟩ := h
  exact ⟨hchanged, hexpired, by omega, fun e he => (hbefore e he).trans hfirst⟩

theorem PathInv.compare {m : PathExpiringTimer P}
    {trace : List (ConditionEvent (PathExpiringInputs P))} {inputs : PathExpiringInputs P}
    (h : PathInv m trace) (hfirst : m.firstTime = false) (hclock : ClockedInputs inputs trace) :
    Compared (m.compare inputs) inputs trace := by
  have htrace : trace ≠ [] := fun hnil => by
    rw [h.first.mpr hnil] at hfirst
    cases hfirst
  by_cases hpath : m.prevPath = inputs.read
  · -- the path has not changed
    have hm : m.compare inputs = m := if_neg (by simpa using hpath)
    rw [hm]
    refine ⟨hpath, hfirst, ?_, ?_, fun later e earlier hsplit _ hlater => ?_⟩
    · obtain ⟨e, earlier, rfl⟩ := List.exists_cons_of_ne_nil htrace
      have hstart := (h.since [] e earlier rfl (by simp)).1
      have hbefore := hclock.before e List.mem_cons_self
      exact hstart.trans (hbefore.trans hclock.changed)
    · rw [← hpath]
      exact h.after
    · exact (h.since later e earlier hsplit hlater).1
  · -- the timer starts again, after all that has happened
    have hm : m.compare inputs =
        { m with prevPath := inputs.read, start := inputs.changed } := if_pos hpath
    rw [hm]
    refine ⟨rfl, hfirst, hclock.changed, fun e he hlate => ?_,
      fun later e earlier hsplit hsame hlater => ?_⟩
    · have hnow := h.clocked e he
      have hbefore := hclock.before e he
      simp only at hlate
      omega
    · exact absurd ((h.since later e earlier hsplit hlater).2.trans hsame) hpath

omit [DecidableEq P] [Inhabited P] in
theorem clocked_cons {inputs : PathExpiringInputs P} (starts : Bool) (result : NodeStatus)
    {trace : List (ConditionEvent (PathExpiringInputs P))} (hclock : ClockedInputs inputs trace)
    (h : ∀ e ∈ trace, e.inputs.now ≤ e.inputs.expired) :
    ∀ e ∈ (⟨inputs, starts, result⟩ : ConditionEvent _) :: trace,
      e.inputs.now ≤ e.inputs.expired := by
  intro e he
  rcases List.mem_cons.mp he with rfl | he
  · exact hclock.expired
  · exact h e he

omit [DecidableEq P] in
/-- The timer has been started by its first tick. -/
theorem pathInv_started {m : PathExpiringTimer P} {inputs : PathExpiringInputs P} {starts : Bool}
    (hclock : ClockedInputs inputs []) (hfirst : m.firstTime = false)
    (hpath : m.prevPath = inputs.read) (hstart : m.start = inputs.first) :
    PathInv m [⟨inputs, starts, .failure⟩] where
  first := by simp [hfirst]
  empty hm := by
    rw [hfirst] at hm
    cases hm
  clocked := by simpa using hclock.expired
  after e he _ := by
    rw [List.mem_singleton.mp he, hpath]
    exact ⟨rfl, rfl⟩
  since later e earlier hsplit _ := by
    cases later with
    | nil =>
      obtain ⟨rfl, -⟩ := List.cons.inj hsplit
      exact ⟨hstart ▸ hclock.first, hpath⟩
    | cons e' later => simp at hsplit

omit [DecidableEq P] in
/-- FAILURE: the timer goes on. -/
theorem Compared.goesOn {m : PathExpiringTimer P} {inputs : PathExpiringInputs P} {starts : Bool}
    {trace : List (ConditionEvent (PathExpiringInputs P))} (h : Compared m inputs trace)
    (hclock : ClockedInputs inputs trace)
    (hclocked : ∀ e ∈ trace, e.inputs.now ≤ e.inputs.expired) :
    PathInv m (⟨inputs, starts, .failure⟩ :: trace) where
  first := by simp [h.notFirst]
  empty hm := by
    rw [h.notFirst] at hm
    cases hm
  clocked := clocked_cons starts .failure hclock hclocked
  after e he hlate := by
    rw [h.path]
    rcases List.mem_cons.mp he with rfl | he
    · exact ⟨rfl, rfl⟩
    · exact h.after e he hlate
  since later e earlier hsplit hlater := by
    cases later with
    | nil =>
      obtain ⟨rfl, -⟩ := List.cons.inj hsplit
      exact ⟨h.start.trans hclock.expired, h.path⟩
    | cons e' later =>
      obtain ⟨rfl, hrest⟩ := List.cons.inj hsplit
      have hsame : inputs.read = e.inputs.read := (hlater _ List.mem_cons_self).1
      refine ⟨h.since later e earlier hrest hsame.symm ?_, h.path.trans hsame⟩
      exact fun e' he' => hlater e' (List.mem_cons_of_mem _ he')

/-- SUCCESS: the timer starts again, after all that has happened. -/
theorem Compared.expires {m : PathExpiringTimer P} {inputs : PathExpiringInputs P} {starts : Bool}
    {trace : List (ConditionEvent (PathExpiringInputs P))} (h : Compared m inputs trace)
    (hclock : ClockedInputs inputs trace)
    (hclocked : ∀ e ∈ trace, e.inputs.now ≤ e.inputs.expired) :
    PathInv { m with start := inputs.expired } (⟨inputs, starts, .success⟩ :: trace) where
  first := by simp [h.notFirst]
  empty hm := by
    rw [h.notFirst] at hm
    cases hm
  clocked := clocked_cons starts .success hclock hclocked
  after e he hlate := by
    simp only at hlate
    rcases List.mem_cons.mp he with rfl | he
    · exact absurd hlate (Int.not_lt.mpr hclock.expired)
    · have hnow := hclocked e he
      have hbefore := hclock.before e he
      have hchanged := hclock.changed
      have hexpired := hclock.expired
      omega
  since later e earlier hsplit hlater := by
    cases later with
    | nil =>
      obtain ⟨rfl, -⟩ := List.cons.inj hsplit
      exact ⟨Int.le_refl _, h.path⟩
    | cons e' later =>
      obtain ⟨rfl, -⟩ := List.cons.inj hsplit
      exact absurd (hlater _ List.mem_cons_self).2 (by simp)

theorem pathInv_tick {active : Bool} {m : PathExpiringTimer P}
    {trace : List (ConditionEvent (PathExpiringInputs P))} {inputs : PathExpiringInputs P}
    (h : PathInv m trace) (hclock : ClockedInputs inputs trace) :
    PathInv (PathExpiringTimer.tick active inputs m).2
      (⟨inputs, !active, (PathExpiringTimer.tick active inputs m).1⟩ :: trace) := by
  cases hfirst : m.firstTime with
  | true =>
    have hnil := h.first.mp hfirst
    have hread : inputs.path.getD m.prevPath = inputs.read := by
      rw [h.empty hfirst]
      rfl
    simp only [PathExpiringTimer.tick, hfirst, if_true, hread, hnil]
    exact pathInv_started (hnil ▸ hclock) rfl rfl rfl
  | false =>
    have hcompared := h.compare hfirst hclock
    simp only [PathExpiringTimer.tick, hfirst, Bool.false_eq_true, if_false]
    generalize m.compare inputs = m' at hcompared
    split
    · exact hcompared.goesOn hclock h.clocked
    · exact hcompared.expires hclock h.clocked

theorem pathInv_of_reach {s : ConditionBench (PathExpiringTimer P) (PathExpiringInputs P)}
    (h : pathExpiringSystem.Reach ClockedPaths s) : PathInv s.members s.trace :=
  invariant_of_reach h (fun _ m trace => PathInv m trace)
    ⟨by simp, fun _ => rfl, by simp, by simp, by simp⟩ (fun _ _ hinv => hinv)
    (fun _ _ hinv hclock => pathInv_tick hinv (clockedInputs hclock))

/-! ### The last restart -/

/-- The time at which a tick has restarted the timer: the first one, one that
has returned SUCCESS, or one that has read another path than the tick before
it. -/
def restartAt (e : ConditionEvent (PathExpiringInputs P)) :
    List (ConditionEvent (PathExpiringInputs P)) → Option Int
  | [] => some e.inputs.first
  | before :: _ =>
    if e.result = .success then some e.inputs.expired
    else if before.inputs.read ≠ e.inputs.read then some e.inputs.changed
    else none

def lastRestart : List (ConditionEvent (PathExpiringInputs P)) → Option Int
  | [] => none
  | e :: earlier => (restartAt e earlier).or (lastRestart earlier)

/-- The time from which a tick counts: that of the last restart, or its own
if it reads another path. -/
def countsFrom (inputs : PathExpiringInputs P)
    (trace : List (ConditionEvent (PathExpiringInputs P))) : Option Int :=
  if trace.head?.any fun before => before.inputs.read ≠ inputs.read then some inputs.changed
  else lastRestart trace

/-- The members of a timer are the last path and the last restart. -/
def Restarted (m : PathExpiringTimer P) (trace : List (ConditionEvent (PathExpiringInputs P))) :
    Prop :=
  (m.firstTime = true ∧ m.prevPath = default ∧ trace = []) ∨
    (m.firstTime = false ∧ (∃ e ∈ trace.head?, e.inputs.read = m.prevPath) ∧
      lastRestart trace = some m.start)

theorem Restarted.compare {m : PathExpiringTimer P}
    {trace : List (ConditionEvent (PathExpiringInputs P))} (h : Restarted m trace)
    (hfirst : m.firstTime = false) (inputs : PathExpiringInputs P) :
    countsFrom inputs trace = some (m.compare inputs).start ∧
      (m.compare inputs).prevPath = inputs.read ∧ (m.compare inputs).firstTime = false := by
  rcases h with ⟨hnot, -⟩ | ⟨-, ⟨e, he, hread⟩, hstart⟩
  · rw [hnot] at hfirst
    cases hfirst
  · unfold countsFrom PathExpiringTimer.compare
    rw [Option.mem_def.mp he, Option.any_some, hread]
    by_cases hpath : m.prevPath = inputs.read
    · simpa [hpath] using ⟨hstart, hfirst⟩
    · simpa [hpath] using hfirst

theorem restarted_tick {active : Bool} {m : PathExpiringTimer P}
    {trace : List (ConditionEvent (PathExpiringInputs P))} {inputs : PathExpiringInputs P}
    (h : Restarted m trace) :
    Restarted (PathExpiringTimer.tick active inputs m).2
      (⟨inputs, !active, (PathExpiringTimer.tick active inputs m).1⟩ :: trace) := by
  cases hfirst : m.firstTime with
  | true =>
    rcases h with ⟨-, hempty, rfl⟩ | ⟨hnot, -⟩
    · simp only [PathExpiringTimer.tick, hfirst, if_true, hempty]
      exact .inr ⟨rfl, ⟨_, rfl, rfl⟩, rfl⟩
    · rw [hfirst] at hnot
      cases hnot
  | false =>
    obtain ⟨hcounts, hpath, hnotFirst⟩ := h.compare hfirst inputs
    obtain ⟨before, earlier, rfl⟩ : ∃ before earlier, trace = before :: earlier := by
      rcases h with ⟨hnot, -⟩ | ⟨-, ⟨e, he, -⟩, -⟩
      · rw [hfirst] at hnot
        cases hnot
      · cases trace with
        | nil => cases he
        | cons before earlier => exact ⟨before, earlier, rfl⟩
    simp only [PathExpiringTimer.tick, hfirst, Bool.false_eq_true, if_false]
    generalize m.compare inputs = m' at hcounts hpath hnotFirst
    split
    · -- FAILURE: the timer goes on from where it has counted
      refine .inr ⟨hnotFirst, ⟨_, rfl, hpath.symm⟩, ?_⟩
      rw [← hcounts]
      by_cases hsame : before.inputs.read = inputs.read
      · simp [lastRestart, restartAt, countsFrom, hsame]
      · simp [lastRestart, restartAt, countsFrom, hsame]
    · exact .inr ⟨hnotFirst, ⟨_, rfl, hpath.symm⟩, by simp [lastRestart, restartAt]⟩

theorem restarted_of_reach
    {C : ConditionBench (PathExpiringTimer P) (PathExpiringInputs P) → _ → Prop}
    {s : ConditionBench (PathExpiringTimer P) (PathExpiringInputs P)}
    (h : pathExpiringSystem.Reach C s) : Restarted s.members s.trace :=
  invariant_of_reach h (fun _ m trace => Restarted m trace) (.inl ⟨rfl, rfl, rfl⟩)
    (fun _ _ hinv => hinv) (fun _ _ hinv _ => restarted_tick hinv)

/-- A tick returns SUCCESS exactly if the period has passed since the last
restart. -/
theorem success_iff_countsFrom {s : ConditionBench (PathExpiringTimer P) (PathExpiringInputs P)}
    (h : Restarted s.members s.trace) (inputs : PathExpiringInputs P) :
    (PathExpiringTimer.tick s.status.isActive inputs s.members).1 = .success ↔
      ∃ t ∈ countsFrom inputs s.trace, t + s.members.period ≤ inputs.now := by
  have hperiod : (s.members.compare inputs).period = s.members.period := by
    unfold PathExpiringTimer.compare
    split <;> rfl
  cases hfirst : s.members.firstTime with
  | true =>
    rcases h with ⟨-, -, htrace⟩ | ⟨hnot, -⟩
    · simp [PathExpiringTimer.tick, hfirst, htrace, countsFrom, lastRestart]
    · rw [hfirst] at hnot
      cases hnot
  | false =>
    obtain ⟨hcounts, -⟩ := h.compare hfirst inputs
    simp only [PathExpiringTimer.tick, hfirst, Bool.false_eq_true, if_false, hperiod, hcounts,
      Option.mem_some_iff, exists_eq_left']
    split
    · next hearly => exact iff_of_false (by simp) (by omega)
    · next hpassed => exact iff_of_true rfl (by omega)

/-- **Expiry.** When the clock does not go back, a tick of a
`PathExpiringTimer` returns SUCCESS exactly if the period has passed since
the timer was last restarted, by the first tick, by one that returned SUCCESS
or by one that read another path. It then follows a period in which every
tick has read the same path and has returned FAILURE. It does return SUCCESS
when an earlier tick and all since have read the path, the ones since have
returned FAILURE and the period has passed since the earlier one ended. -/
theorem success_unchanged {s : ConditionBench (PathExpiringTimer P) (PathExpiringInputs P)}
    (h : pathExpiringSystem.Reach ClockedPaths s) (inputs : PathExpiringInputs P)
    (hclock : ClockedPaths s (.executeTick inputs)) :
    ((PathExpiringTimer.tick s.status.isActive inputs s.members).1 = .success ↔
      ∃ t ∈ countsFrom inputs s.trace, t + s.members.period ≤ inputs.now) ∧
    ((PathExpiringTimer.tick s.status.isActive inputs s.members).1 = .success →
      s.trace ≠ [] ∧ ∀ e ∈ s.trace, inputs.now - s.members.period < e.inputs.now →
        e.inputs.read = inputs.read ∧ e.result = .failure) ∧
    ∀ later e earlier, s.trace = later ++ e :: earlier → e.inputs.read = inputs.read →
      (∀ e' ∈ later, e'.inputs.read = inputs.read ∧ e'.result = .failure) →
      e.inputs.expired + s.members.period ≤ inputs.now →
      (PathExpiringTimer.tick s.status.isActive inputs s.members).1 = .success := by
  refine ⟨success_iff_countsFrom (restarted_of_reach h) inputs, ?_⟩
  have hinv := pathInv_of_reach h
  have hperiod : ((s.members.compare inputs).period : Int) = s.members.period := by
    unfold PathExpiringTimer.compare
    split <;> rfl
  cases hfirst : s.members.firstTime with
  | true =>
    simp only [PathExpiringTimer.tick, hfirst, if_true]
    refine ⟨nofun, fun later e earlier hsplit => ?_⟩
    rw [hinv.first.mp hfirst] at hsplit
    simp at hsplit
  | false =>
    have hcompared := hinv.compare hfirst (clockedInputs hclock)
    simp only [PathExpiringTimer.tick, hfirst, Bool.false_eq_true, if_false, hperiod]
    constructor
    · intro hsuccess
      split at hsuccess
      · cases hsuccess
      · next hpassed =>
        refine ⟨fun hnil => ?_, fun e he hlate => hcompared.after e he (by omega)⟩
        rw [hinv.first.mpr hnil] at hfirst
        cases hfirst
    · intro later e earlier hsplit hsame hlater hpassed
      have hstart := hcompared.since later e earlier hsplit hsame (by rw [hsame]; exact hlater)
      rw [if_neg (by omega)]

end Paths

/-! ### A run -/

/-- A period of 3 and the path 7 at 0 and at 2. At 4 the path changes to 8,
which is still the path at 6 and at 8. -/
def pathRun : List (Label (PathExpiringInputs Nat)) :=
  [.executeTick ⟨some 3, some 7, 0, 0, 0, 0⟩, .executeTick ⟨none, some 7, 2, 2, 2, 2⟩,
    .executeTick ⟨none, some 8, 4, 4, 4, 4⟩, .halt, .executeTick ⟨none, some 8, 6, 6, 6, 6⟩]

/-- At 8 the path has been the same for the period. -/
theorem success_unchanged_path :
    ∃ s : ConditionBench (PathExpiringTimer Nat) (PathExpiringInputs Nat),
      (PathExpiringTimer.tick s.status.isActive ⟨none, some 8, 8, 8, 8, 8⟩ s.members).1 =
        .success ∧ (∃ t ∈ countsFrom ⟨none, some 8, 8, 8, 8, 8⟩ s.trace, t + 3 ≤ (8 : Int)) ∧
          ∀ e ∈ s.trace, 5 < e.inputs.now → e.inputs.read = 8 ∧ e.result = .failure := by
  obtain ⟨s, hr, hs⟩ := System.exists_reach_of_runWhile (S := pathExpiringSystem) ClockedPaths
    pathRun (fun s => decide (s.members.period = 3 ∧
      ClockedPaths s (.executeTick ⟨none, some 8, 8, 8, 8, 8⟩) ∧
      (PathExpiringTimer.tick s.status.isActive ⟨none, some 8, 8, 8, 8, 8⟩ s.members).1 =
        .success)) rfl (by decide +kernel)
  obtain ⟨hperiod, hclock, hsuccess⟩ := of_decide_eq_true hs
  obtain ⟨hiff, hunchanged, -⟩ := success_unchanged hr _ hclock
  rw [hperiod] at hiff hunchanged
  exact ⟨s, hsuccess, hiff.mp hsuccess, (hunchanged hsuccess).2⟩

/-! ## The observers of the goal -/

/-- How often a value differs from the one before. -/
def changes {α : Type} [DecidableEq α] : List α → Nat
  | a :: b :: rest => (if a = b then 0 else 1) + changes (b :: rest)
  | _ => 0

theorem changes_cons {α : Type} [DecidableEq α] {a b : α} {values : List α}
    (h : values.head? = some b) :
    changes (a :: values) = (if a = b then 0 else 1) + changes values := by
  cases values with
  | nil => simp at h
  | cons b' rest =>
    obtain rfl : b' = b := Option.some.inj h
    rfl

/-- A comparison of both members is one of the pairs. -/
theorem or_ne_iff_pair_ne {α β : Type} {a a' : α} {b b' : β} :
    a ≠ a' ∨ b ≠ b' ↔ (a', b') ≠ (a, b) := by
  rw [ne_eq, ne_eq, ne_eq, Prod.mk.injEq, ← not_and_or, eq_comm, @eq_comm _ b b']

section Goals

variable {Pose : Type} [DecidableEq Pose] [Inhabited Pose]

/-- The entries `goal` and `goals`, from the ports or from the
blackboard. -/
structure GoalEntries (Pose : Type) where
  goal : Option Pose
  goals : Option (List Pose)
  deriving DecidableEq

/-- The goal and the goals that are read into new variables. -/
def GoalEntries.read (entries : GoalEntries Pose) : Pose × List Pose :=
  (entries.goal.getD default, entries.goals.getD [])

/-- How often the condition has returned SUCCESS. -/
def successes (trace : List (ConditionEvent (GoalEntries Pose))) : Nat :=
  trace.countP fun e => e.result == .success

/-- The goal and the goals that the ticks have read, newest first. -/
def reads (trace : List (ConditionEvent (GoalEntries Pose))) : List (Pose × List Pose) :=
  trace.map fun e => e.inputs.read

omit [DecidableEq Pose] in
@[simp] theorem reads_cons (e : ConditionEvent (GoalEntries Pose))
    (trace : List (ConditionEvent (GoalEntries Pose))) :
    reads (e :: trace) = e.inputs.read :: reads trace := rfl

/-- A tick that returns SUCCESS exactly if it has read something new leaves
the difference of both numbers as it is. -/
theorem successes_cons {e : ConditionEvent (GoalEntries Pose)}
    {trace : List (ConditionEvent (GoalEntries Pose))} {last : Pose × List Pose}
    (hlast : (reads trace).head? = some last)
    (hresult : e.result = .success ↔ e.inputs.read ≠ last) :
    successes (e :: trace) + changes (reads trace) =
      successes trace + changes (reads (e :: trace)) := by
  rw [reads_cons, changes_cons hlast, successes, successes, List.countP_cons]
  by_cases hsame : e.inputs.read = last
  · have hfailed : e.result ≠ .success := fun hsuccess => hresult.mp hsuccess hsame
    simp [hsame, hfailed]
  · have hsuccess := hresult.mpr hsame
    simp [hsame, hsuccess]
    omega

/-! ### `GlobalUpdatedGoal` -/

/-- `GloballyUpdatedGoalCondition::tick()` on a bench. Its members are
default values until the first tick reads into them. -/
def globallyUpdatedTick : Tick (GloballyUpdatedGoal Pose) (GoalEntries Pose) :=
  fun _ entries m => m.tick entries.read.1 entries.read.2

/-- A `GloballyUpdatedGoalCondition` that has been created. -/
def globallyUpdatedSystem :
    System (ConditionBench (GloballyUpdatedGoal Pose) (GoalEntries Pose))
      (Label (GoalEntries Pose)) :=
  system globallyUpdatedTick ⟨true, default, []⟩

/-- The members are what the last tick has read, and each change has been
reported. -/
structure Observes (m : GloballyUpdatedGoal Pose)
    (trace : List (ConditionEvent (GoalEntries Pose))) : Prop where
  first : m.firstTime = true ↔ trace = []
  last : m.firstTime = false → (reads trace).head? = some (m.goal, m.goals)
  reported : trace ≠ [] → successes trace = 1 + changes (reads trace)

theorem globallyUpdatedTick_first {active : Bool} {entries : GoalEntries Pose}
    {m : GloballyUpdatedGoal Pose} (h : m.firstTime = true) :
    globallyUpdatedTick active entries m =
      (.success, ⟨false, entries.read.1, entries.read.2⟩) := by
  rw [globallyUpdatedTick, GloballyUpdatedGoal.tick, if_pos h]

theorem globallyUpdatedTick_later (active : Bool) (entries : GoalEntries Pose)
    {m : GloballyUpdatedGoal Pose} (h : m.firstTime = false) :
    (globallyUpdatedTick active entries m).2 = ⟨false, entries.read.1, entries.read.2⟩ ∧
      ((globallyUpdatedTick active entries m).1 = .success ↔
        entries.read ≠ (m.goal, m.goals)) := by
  obtain ⟨firstTime, goal, goals⟩ := m
  obtain rfl : firstTime = false := h
  simp only [globallyUpdatedTick, GloballyUpdatedGoal.tick, Bool.false_eq_true, if_false,
    or_ne_iff_pair_ne, Prod.mk.eta]
  split
  · next hnew => exact ⟨rfl, fun _ => hnew, fun _ => rfl⟩
  · next hsame =>
    rw [not_not] at hsame
    rw [hsame]
    exact ⟨rfl, nofun, fun hnew => absurd rfl hnew⟩

theorem observes_tick {active : Bool} {m : GloballyUpdatedGoal Pose}
    {trace : List (ConditionEvent (GoalEntries Pose))} (h : Observes m trace)
    (entries : GoalEntries Pose) :
    Observes (globallyUpdatedTick active entries m).2
      (⟨entries, !active, (globallyUpdatedTick active entries m).1⟩ :: trace) := by
  cases hfirst : m.firstTime with
  | true =>
    rw [globallyUpdatedTick_first hfirst, h.first.mp hfirst]
    exact ⟨by simp, fun _ => rfl, fun _ => rfl⟩
  | false =>
    obtain ⟨hmembers, hresult⟩ :=
      globallyUpdatedTick_later active entries hfirst
    rw [hmembers]
    refine ⟨by simp, fun _ => rfl, fun _ => ?_⟩
    have hreported := h.reported fun hnil => by simp [h.first.mpr hnil] at hfirst
    have hcons := successes_cons (h.last hfirst)
      (e := ⟨entries, !active, (globallyUpdatedTick active entries m).1⟩) hresult
    omega

/-- **Updates.** Over the whole life of a `GlobalUpdatedGoal`, also when it
is halted in between, it returns SUCCESS in its first tick and then once for
each change of the goal or the goals between two of its ticks: in the tick
that is the first to read the change. -/
theorem updates_reported {C : ConditionBench (GloballyUpdatedGoal Pose) (GoalEntries Pose) →
      Label (GoalEntries Pose) → Prop}
    {s : ConditionBench (GloballyUpdatedGoal Pose) (GoalEntries Pose)}
    (h : globallyUpdatedSystem.Reach C s) :
    (s.trace ≠ [] → successes s.trace = 1 + changes (reads s.trace)) ∧
      ∀ entries, (globallyUpdatedTick s.status.isActive entries s.members).1 = .success ↔
        (reads s.trace).head? ≠ some entries.read := by
  have hobserves : Observes s.members s.trace :=
    invariant_of_reach h (fun _ m trace => Observes m trace) ⟨by simp, nofun, by simp⟩
      (fun _ _ hinv => hinv) (fun _ entries hinv _ => observes_tick hinv entries)
  refine ⟨hobserves.reported, fun entries => ?_⟩
  cases hfirst : s.members.firstTime with
  | true =>
    rw [globallyUpdatedTick_first hfirst, hobserves.first.mp hfirst]
    exact ⟨fun _ => nofun, fun _ => rfl⟩
  | false =>
    rw [(globallyUpdatedTick_later _ _ hfirst).2, hobserves.last hfirst, ne_eq, ne_eq,
      Option.some.injEq, eq_comm]

/-! ### `GoalUpdated` -/

/-- The members of a `GoalUpdatedCondition`. -/
structure GoalUpdated (Pose : Type) where
  goal : Pose
  goals : List Pose
  deriving DecidableEq

/-- `GoalUpdatedCondition::tick()`. The tick that starts it reads into the
members, the others into new variables. -/
def GoalUpdated.tick : Tick (GoalUpdated Pose) (GoalEntries Pose) := fun wasActive entries m =>
  if wasActive then
    if m.goal ≠ entries.read.1 ∨ m.goals ≠ entries.read.2 then
      (.success, ⟨entries.read.1, entries.read.2⟩)
    else (.failure, m)
  else (.failure, ⟨entries.goal.getD m.goal, entries.goals.getD m.goals⟩)

/-- A `GoalUpdatedCondition` that has been created. -/
def goalUpdatedSystem :
    System (ConditionBench (GoalUpdated Pose) (GoalEntries Pose)) (Label (GoalEntries Pose)) :=
  system GoalUpdated.tick ⟨default, []⟩

/-- When the node is started without an entry, there has been none before. -/
def NoEntryLost (s : ConditionBench (GoalUpdated Pose) (GoalEntries Pose)) :
    Label (GoalEntries Pose) → Prop
  | .executeTick entries => s.status.isActive = false →
    (entries.goal = none → s.members.goal = default) ∧
      (entries.goals = none → s.members.goals = [])
  | _ => True

instance NoEntryLost.decidable (s : ConditionBench (GoalUpdated Pose) (GoalEntries Pose)) :
    (l : Label (GoalEntries Pose)) → Decidable (NoEntryLost s l)
  | .executeTick entries => inferInstanceAs (Decidable (s.status.isActive = false →
      (entries.goal = none → s.members.goal = default) ∧
        (entries.goals = none → s.members.goals = [])))
  | .halt | .haltChild | .resetStatus => isTrue trivial

/-- In an activation, the members are what the last tick has read, and each
change has been reported. -/
structure ObservesActive (active : Bool) (m : GoalUpdated Pose)
    (trace : List (ConditionEvent (GoalEntries Pose))) : Prop where
  last : active = true → (reads (activation trace)).head? = some (m.goal, m.goals)
  reported : successes (activation trace) = changes (reads (activation trace))

omit [DecidableEq Pose] in
/-- The entries of a start are what it would read into new variables. -/
theorem getD_members {entries : GoalEntries Pose} {m : GoalUpdated Pose}
    (h : (entries.goal = none → m.goal = default) ∧ (entries.goals = none → m.goals = [])) :
    entries.read = (entries.goal.getD m.goal, entries.goals.getD m.goals) := by
  obtain ⟨goal, goals⟩ := entries
  obtain ⟨hgoal, hgoals⟩ := h
  cases goal <;> cases goals <;> simp_all [GoalEntries.read]

theorem goalUpdated_tick_active (entries : GoalEntries Pose) (m : GoalUpdated Pose) :
    (GoalUpdated.tick true entries m).2 = ⟨entries.read.1, entries.read.2⟩ ∧
      ((GoalUpdated.tick true entries m).1 = .success ↔ entries.read ≠ (m.goal, m.goals)) := by
  simp only [GoalUpdated.tick, if_true, or_ne_iff_pair_ne, Prod.mk.eta]
  split
  · next hnew => exact ⟨rfl, fun _ => hnew, fun _ => rfl⟩
  · next hsame =>
    rw [not_not] at hsame
    rw [hsame]
    exact ⟨rfl, nofun, fun hnew => absurd rfl hnew⟩

theorem observesActive_tick {s : ConditionBench (GoalUpdated Pose) (GoalEntries Pose)}
    {entries : GoalEntries Pose} (h : ObservesActive s.status.isActive s.members s.trace)
    (hentries : NoEntryLost s (.executeTick entries)) :
    ObservesActive true (GoalUpdated.tick s.status.isActive entries s.members).2
      (⟨entries, !s.status.isActive, (GoalUpdated.tick s.status.isActive entries s.members).1⟩ ::
        s.trace) := by
  cases hactive : s.status.isActive with
  | false => exact ⟨fun _ => congrArg some (getD_members (hentries hactive)), rfl⟩
  | true =>
    obtain ⟨hmembers, hresult⟩ := goalUpdated_tick_active entries s.members
    rw [hmembers]
    refine ⟨fun _ => rfl, ?_⟩
    have hcons := successes_cons (h.last hactive)
      (e := ⟨entries, !true, (GoalUpdated.tick true entries s.members).1⟩) hresult
    have hreported := h.reported
    show successes (_ :: activation s.trace) = changes (reads (_ :: activation s.trace))
    omega

/-- **Updates in an activation.** A `GoalUpdated` returns SUCCESS once for
each change of the goal or the goals since it was started, in the tick that
is the first to read the change, and never for anything else. -/
theorem updates_reported_active {s : ConditionBench (GoalUpdated Pose) (GoalEntries Pose)}
    (h : goalUpdatedSystem.Reach NoEntryLost s) :
    successes (activation s.trace) = changes (reads (activation s.trace)) ∧
      ∀ entries, (GoalUpdated.tick s.status.isActive entries s.members).1 = .success ↔
        s.status.isActive = true ∧
          (reads (activation s.trace)).head? ≠ some entries.read := by
  have hobserves : ObservesActive s.status.isActive s.members s.trace :=
    invariant_of_reach h ObservesActive ⟨nofun, rfl⟩ (fun _ _ hinv => ⟨nofun, hinv.reported⟩)
      (fun _ _ hinv hentries => observesActive_tick hinv hentries)
  refine ⟨hobserves.reported, fun entries => ?_⟩
  cases hactive : s.status.isActive with
  | false => exact ⟨nofun, fun hboth => absurd hboth.1 Bool.false_ne_true⟩
  | true =>
    rw [(goalUpdated_tick_active entries s.members).2, hobserves.last hactive, ne_eq, ne_eq,
      Option.some.injEq, eq_comm]
    exact ⟨fun hnew => ⟨rfl, hnew⟩, fun hboth => hboth.2⟩

end Goals

/-! ### Runs -/

/-- The goal 1, a halt, the goal 2 twice and the goal 1 again. -/
def goalRun : List (Label (GoalEntries Nat)) :=
  [.executeTick ⟨some 1, none⟩, .haltChild, .executeTick ⟨some 2, none⟩,
    .executeTick ⟨some 2, none⟩, .executeTick ⟨some 1, none⟩]

/-- Both changes and the first tick have been reported. -/
theorem updates_reported_three :
    ∃ s : ConditionBench (GloballyUpdatedGoal Nat) (GoalEntries Nat),
      changes (reads s.trace) = 2 ∧ successes s.trace = 1 + 2 := by
  obtain ⟨s, hr, hs⟩ := System.exists_reach_of_runWhile (S := globallyUpdatedSystem)
    (fun _ _ => True) goalRun (fun s => decide (s.trace ≠ [] ∧ changes (reads s.trace) = 2)) rfl
    (by decide +kernel)
  obtain ⟨htrace, hchanges⟩ := of_decide_eq_true hs
  have hreported := (updates_reported hr).1 htrace
  rw [hchanges] at hreported
  exact ⟨s, hchanges, hreported⟩

/-- Only the change after the halt has been reported. -/
theorem updates_reported_active_one :
    ∃ s : ConditionBench (GoalUpdated Nat) (GoalEntries Nat),
      reads (activation s.trace) = [(1, []), (2, []), (2, [])] ∧
        successes (activation s.trace) = 1 := by
  obtain ⟨s, hr, hs⟩ := System.exists_reach_of_runWhile (S := goalUpdatedSystem) NoEntryLost
    goalRun (fun s => decide (reads (activation s.trace) = [(1, []), (2, []), (2, [])])) rfl
    (by decide +kernel)
  have hreads := of_decide_eq_true hs
  have hreported := (updates_reported_active hr).1
  rw [hreads] at hreported
  exact ⟨s, hreads, hreported⟩

end Nav3D.BehaviorTree.Conditions

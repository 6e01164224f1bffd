/-
Nav3D.Util.CallbackProgram — an execute callback as a program between
whose steps the other parties of `Nav3D.Util.ActionServerSystem` come in.

A program says what one of its steps does: it reads the action server, may
call it once, and changes the members and local variables of the callback.
The worker runs it from the place where `work()` enters the callback to the
place where the callback returns. A step of the whole is a step of another
party, the worker's entering or leaving, or a step of the program
(`CallbackEffect`); a property that each of them keeps holds of every state
reached (`CallbackProgram.invariant`), and it may rest on what holds for
every program (`CallbackInv`).
-/
import Nav3D.Util.ActionServerCancel
import Nav3D.Util.ActionServerExecuted

namespace Nav3D.Util

open Nav3D.Ros SimpleActionServer

/-! ## Programs -/

/-- The program of a callback. `X` is what the callback reads and changes
besides its action server, with the place where the worker is in it. -/
structure CallbackProgram (Goal Result X L : Type) where
  initial : X
  /-- The worker is not in the callback. -/
  idle : X → Bool
  /-- What entering the callback makes of it, and leaving it. -/
  enter : X → X
  leave : X → X
  /-- The callback is about to return. -/
  returns : X → Bool
  /-- An exception can leave the callback. -/
  throws : X → Bool
  /-- One step, and the call of the action server that it makes. -/
  next : ActionServerState Goal Result → X → L → Option (X × Option (Call Result))
  idle_initial : idle initial = true
  idle_enter : ∀ x, idle (enter x) = false
  idle_leave : ∀ x, idle (leave x) = true
  idle_returns : ∀ x, returns x = true → idle x = false
  idle_throws : ∀ x, throws x = true → idle x = false
  idle_next : ∀ s x l x' c, next s x l = some (x', c) → idle x = false ∧ idle x' = false

/-- An action server with its callback. -/
structure CallbackState (Goal Result X : Type) where
  server : ActionServerState Goal Result
  members : X

/-- A step of another party, or of the program. -/
inductive CallbackLabel (Goal Result L : Type) where
  | server (l : Label Goal Result)
  | own (l : L)

/-! ## Under a worker -/

section Worker

variable {Goal Result : Type}

/-- A server that is being deactivated is not active. -/
def QuietWhenDeactivating (s : ActionServerState Goal Result) : Prop :=
  s.lifecycle = .deactivating → s.server.serverActive = false

variable [Inhabited Result]

theorem quiet_effect {s s' : ActionServerState Goal Result} {l : Label Goal Result}
    (hs : QuietWhenDeactivating s) (he : Effect s l s') : QuietWhenDeactivating s' := by
  intro hdeactivating
  by_cases hact : l = .activate
  · subst hact
    cases he
    cases hdeactivating
  · by_cases hdeact : l = .deactivate
    · subst hdeact
      cases he
      rfl
    · have hsame := congrArg Prod.fst (activation_effect he hact hdeact)
      refine hsame.trans (hs ?_)
      cases he with
      | activated _ => exact absurd rfl hact
      | deactivated _ => exact absurd rfl hdeact
      | deactivateReturned _ _ => cases hdeactivating
      | _ => exact hdeactivating

/-- Under a worker only a missed deadline of `deactivate()` empties the
current slot. -/
theorem current_bystander {s s' : ActionServerState Goal Result} {l : Label Goal Result}
    (hs : ServerInv s) (he : Effect s l s') (hl : l.ofCallback = false)
    (hw : s.workers.getLast? = some .executing) :
    s'.server.currentHandle = s.server.currentHandle ∨
      l = .deactivateDeadline ∧ s'.server.currentHandle = none := by
  rcases (bystander_effect hs he hl hw).2 with hsame | hnone
  · exact .inl hsame
  · by_cases hdeadline : l = .deactivateDeadline
    · exact .inr ⟨hdeadline, hnone⟩
    · have hw' := (bystander_effect hs he hl hw).1
      cases he with
      | parked g _ _ => exact .inl (currentHandle_park hs.slots g)
      | launched g _ _ _ => rw [List.getLast?_concat] at hw'; cases hw'
      | cancelRequested g _ =>
        left
        show (s.server.cancelGoal g).currentHandle = _
        unfold cancelGoal
        split <;> rfl
      | deadlineMissed _ _ => exact absurd rfl hdeadline
      | called c => cases hl
      | iterationEnded us hus _ => rw [hus, List.getLast?_concat] at hw; cases hw
      | exceptionHandled us hus _ => rw [hus, List.getLast?_concat] at hw; cases hw
      | _ => exact .inl rfl

/-- The same of a goal that is pending. -/
theorem pending_bystander {s s' : ActionServerState Goal Result} {l : Label Goal Result}
    (hs : ServerInv s) (he : Effect s l s') (hl : l.ofCallback = false)
    (hw : s.workers.getLast? = some .executing) (hpending : s.server.pendingHandle.isSome = true) :
    s'.server.pendingHandle.isSome = true ∨ l = .deactivateDeadline := by
  by_cases hdeadline : l = .deactivateDeadline
  · exact .inr hdeadline
  · left
    obtain ⟨i, hi⟩ := List.mem_iff_getElem?.mp (List.mem_of_getLast? hw)
    have hkeeps : KeepsPending i s l := by
      cases l with
      | call c => cases hl
      | callbackReturn j => cases hl
      | callbackThrow j => cases hl
      | deactivateDeadline => exact absurd rfl hdeadline
      | _ => trivial
    have hpre : s.server.preemptRequested = true := hs.slots.preempt.trans hpending
    rw [← (serverInv_effect hs he).slots.preempt]
    exact (preempt_effect hs hi hpre hkeeps he).2

end Worker

section Program

variable {Goal Result X L : Type} [Inhabited Result]

/-- The server after the call that a step makes. -/
def afterCall (s : ActionServerState Goal Result) :
    Option (Call Result) → ActionServerState Goal Result
  | none => s
  | some c => { s with server := c.apply s.server }

namespace CallbackProgram

variable (program : CallbackProgram Goal Result X L)

/-- A step of the action server. -/
def partyStep (s : CallbackState Goal Result X) (l : Label Goal Result) :
    Option (CallbackState Goal Result X) :=
  match l with
  | .call _ => none
  | .callbackThrow i =>
    if program.throws s.members then
      (serverStep s.server (.callbackThrow i)).map fun server => ⟨server, program.leave s.members⟩
    else none
  | .callbackReturn i =>
    if program.returns s.members then
      (serverStep s.server (.callbackReturn i)).map fun server => ⟨server, program.leave s.members⟩
    else none
  | .testGuard i =>
    (serverStep s.server (.testGuard i)).map fun server =>
      ⟨server, if loopCondition s.server then program.enter s.members else s.members⟩
  | l => (serverStep s.server l).map fun server => ⟨server, s.members⟩

/-- One step of one party. -/
def step (s : CallbackState Goal Result X) :
    CallbackLabel Goal Result L → Option (CallbackState Goal Result X)
  | .server l => program.partyStep s l
  | .own l => (program.next s.server s.members l).map fun r => ⟨afterCall s.server r.2, r.1⟩

def initialState : CallbackState Goal Result X := ⟨Util.initialState, program.initial⟩

/-- The action server and its callback with all parties. -/
def system : Transition.System (CallbackState Goal Result X) (CallbackLabel Goal Result L) where
  init := fun s => s = program.initialState
  step := program.step

/-! ## What a step can do -/

variable {program}

/-- What a step does to the callback. -/
inductive CallbackEffect (program : CallbackProgram Goal Result X L)
    (s : CallbackState Goal Result X) :
    CallbackLabel Goal Result L → CallbackState Goal Result X → Prop
  | bystander {l server} : l.ofCallback = false → (∀ i, l ≠ .testGuard i) →
      Effect s.server l server → CallbackEffect program s (.server l) ⟨server, s.members⟩
  | entered {i server} : loopCondition s.server = true → Effect s.server (.testGuard i) server →
      CallbackEffect program s (.server (.testGuard i)) ⟨server, program.enter s.members⟩
  | passed {i server} : loopCondition s.server = false → Effect s.server (.testGuard i) server →
      CallbackEffect program s (.server (.testGuard i)) ⟨server, s.members⟩
  | returned {i server} : program.returns s.members = true →
      Effect s.server (.callbackReturn i) server →
      CallbackEffect program s (.server (.callbackReturn i)) ⟨server, program.leave s.members⟩
  | threw {i server} : program.throws s.members = true →
      Effect s.server (.callbackThrow i) server →
      CallbackEffect program s (.server (.callbackThrow i)) ⟨server, program.leave s.members⟩
  | moved {l x} : program.next s.server s.members l = some (x, none) →
      CallbackEffect program s (.own l) ⟨s.server, x⟩
  | called {l x c} : program.next s.server s.members l = some (x, some c) →
      CallbackEffect program s (.own l) ⟨{ s.server with server := c.apply s.server.server }, x⟩

/-- **Step inversion.** -/
theorem effect_of_step {s s' : CallbackState Goal Result X} {l : CallbackLabel Goal Result L}
    (hinv : ServerInv s.server) (h : program.step s l = some s') :
    CallbackEffect program s l s' := by
  cases l with
  | own l =>
    obtain ⟨⟨x, c⟩, hnext, rfl⟩ := Option.map_eq_some_iff.mp h
    cases c with
    | none => exact .moved hnext
    | some c => exact .called hnext
  | server l =>
    have hparty : program.partyStep s l = some s' := h
    cases l with
    | call c => cases hparty
    | callbackThrow i =>
      simp only [partyStep] at hparty
      split at hparty
      · next hthrows =>
        obtain ⟨server, hserver, rfl⟩ := Option.map_eq_some_iff.mp hparty
        exact .threw hthrows (Util.effect_of_step hinv hserver)
      · cases hparty
    | callbackReturn i =>
      simp only [partyStep] at hparty
      split at hparty
      · next hreturns =>
        obtain ⟨server, hserver, rfl⟩ := Option.map_eq_some_iff.mp hparty
        exact .returned hreturns (Util.effect_of_step hinv hserver)
      · cases hparty
    | testGuard i =>
      simp only [partyStep] at hparty
      obtain ⟨server, hserver, rfl⟩ := Option.map_eq_some_iff.mp hparty
      have heffect := Util.effect_of_step hinv hserver
      cases hc : loopCondition s.server with
      | true => exact .entered hc heffect
      | false => exact .passed hc heffect
    | _ =>
      simp only [partyStep] at hparty
      obtain ⟨server, hserver, rfl⟩ := Option.map_eq_some_iff.mp hparty
      exact .bystander rfl (by simp) (Util.effect_of_step hinv hserver)

/-! ## What holds for every program -/

/-- The server is in order, it is active unless it is being deactivated,
and the worker is in the callback exactly when the program is not idle. -/
structure CallbackInv (program : CallbackProgram Goal Result X L)
    (s : CallbackState Goal Result X) : Prop where
  server : ServerInv s.server
  active : ActiveInCallback s.server
  quiet : QuietWhenDeactivating s.server
  inCallback : program.idle s.members = false ↔ s.server.workers.getLast? = some .executing

omit [Inhabited Result] in
theorem callbackInv_initial (program : CallbackProgram Goal Result X L) :
    CallbackInv program program.initialState where
  server := serverInv_initial
  active := activeInCallback_initial
  quiet := nofun
  inCallback := by
    simp [CallbackProgram.initialState, program.idle_initial, Util.initialState]

/-- The step of the server that a step of the program is keeps what holds
for every program. -/
theorem callbackInv_call {s : CallbackState Goal Result X} (hs : CallbackInv program s) {l : L}
    {x : X} {c : Call Result} (h : program.next s.server s.members l = some (x, some c)) :
    CallbackInv program ⟨{ s.server with server := c.apply s.server.server }, x⟩ := by
  obtain ⟨hin, hin'⟩ := program.idle_next _ _ _ _ _ h
  have hw := hs.inCallback.mp hin
  have heffect : Effect s.server (.call c)
      { s.server with server := c.apply s.server.server } := .called c
  have hfrom : FromCallback s.server (.call c) := List.mem_of_getLast? hw
  exact ⟨serverInv_effect hs.server heffect,
    activeInCallback_effect hs.server hs.active hfrom heffect,
    quiet_effect hs.quiet heffect, iff_of_true hin' hw⟩

theorem callbackInv_effect {s s' : CallbackState Goal Result X} {l : CallbackLabel Goal Result L}
    (hs : CallbackInv program s) (h : CallbackEffect program s l s') : CallbackInv program s' := by
  cases h with
  | bystander hl hguard he =>
    next l server =>
    have hfrom : FromCallback s.server l := by
      cases l with
      | call c => cases hl
      | _ => trivial
    exact ⟨serverInv_effect hs.server he, activeInCallback_effect hs.server hs.active hfrom he,
      quiet_effect hs.quiet he,
      hs.inCallback.trans (executing_effect hs.server he hl hguard).symm⟩
  | entered hc he =>
    next i server =>
    have hfrom : FromCallback s.server (.testGuard i) := trivial
    exact ⟨serverInv_effect hs.server he, activeInCallback_effect hs.server hs.active hfrom he,
      quiet_effect hs.quiet he,
      iff_of_true (program.idle_enter _) ((enters_of_testGuard he).mpr hc)⟩
  | passed hc he =>
    next i server =>
    have hfrom : FromCallback s.server (.testGuard i) := trivial
    have hout : ¬ program.idle s.members = false := fun hin =>
      outside_of_testGuard he (hs.inCallback.mp hin)
    refine ⟨serverInv_effect hs.server he, activeInCallback_effect hs.server hs.active hfrom he,
      quiet_effect hs.quiet he,
      iff_of_false hout fun hw => ?_⟩
    rw [(enters_of_testGuard he).mp hw] at hc
    cases hc
  | @returned i server _ he =>
    have hfrom : FromCallback s.server (.callbackReturn i) := trivial
    refine ⟨serverInv_effect hs.server he, activeInCallback_effect hs.server hs.active hfrom he,
      quiet_effect hs.quiet he,
      iff_of_false ?_ (outside_of_callbackReturn he)⟩
    simp [program.idle_leave]
  | @threw i server _ he =>
    have hfrom : FromCallback s.server (.callbackThrow i) := trivial
    refine ⟨serverInv_effect hs.server he, activeInCallback_effect hs.server hs.active hfrom he,
      quiet_effect hs.quiet he,
      iff_of_false ?_ (outside_of_callbackThrow he)⟩
    simp [program.idle_leave]
  | moved hnext =>
    obtain ⟨hin, hin'⟩ := program.idle_next _ _ _ _ _ hnext
    exact ⟨hs.server, hs.active, hs.quiet, iff_of_true hin' (hs.inCallback.mp hin)⟩
  | called hnext => exact callbackInv_call hs hnext

/-- What every effect keeps, given what holds for every program, holds of
every state reached. -/
theorem invariant {C : CallbackState Goal Result X → CallbackLabel Goal Result L → Prop}
    {s : CallbackState Goal Result X} (h : program.system.Reach C s)
    (I : CallbackState Goal Result X → Prop) (h0 : I program.initialState)
    (hstep : ∀ s l s', CallbackInv program s → CallbackInv program s' → I s → C s l →
      CallbackEffect program s l s' → I s') :
    CallbackInv program s ∧ I s := by
  refine h.invariant (fun s => CallbackInv program s ∧ I s) ?_ ?_
  · intro s hs
    rw [show s = program.initialState from hs]
    exact ⟨callbackInv_initial program, h0⟩
  · intro s l s' hinv hc hs
    have he := effect_of_step hinv.1.server hs
    have hinv' := callbackInv_effect hinv.1 he
    exact ⟨hinv', hstep s l s' hinv.1 hinv' hinv.2 hc he⟩

/-! ## The callback as an execute loop -/

/-- The step of the action server that a step is. -/
def serverLabel (program : CallbackProgram Goal Result X L) (s : CallbackState Goal Result X) :
    CallbackLabel Goal Result L → Option (Label Goal Result)
  | .server l => some l
  | .own l => ((program.next s.server s.members l).bind (·.2)).map .call

/-- Every step of the whole is a step of the action server, or leaves it. -/
theorem step_server (s s' : CallbackState Goal Result X) (l : CallbackLabel Goal Result L)
    (h : program.step s l = some s') :
    StepsServer s.server (program.serverLabel s l) s'.server := by
  cases l with
  | own l =>
    obtain ⟨⟨x, c⟩, hnext, rfl⟩ := Option.map_eq_some_iff.mp h
    simp only [serverLabel, hnext]
    cases c with
    | none => rfl
    | some c => rfl
  | server l =>
    show serverStep s.server l = some s'.server
    have hparty : program.partyStep s l = some s' := h
    cases l with
    | call c => cases hparty
    | callbackThrow i =>
      simp only [partyStep] at hparty
      split at hparty
      · obtain ⟨server, hserver, rfl⟩ := Option.map_eq_some_iff.mp hparty
        exact hserver
      · cases hparty
    | callbackReturn i =>
      simp only [partyStep] at hparty
      split at hparty
      · obtain ⟨server, hserver, rfl⟩ := Option.map_eq_some_iff.mp hparty
        exact hserver
      · cases hparty
    | _ =>
      simp only [partyStep] at hparty
      obtain ⟨server, hserver, rfl⟩ := Option.map_eq_some_iff.mp hparty
      exact hserver

/-- The loop that a program makes of its action server. -/
def loop (program : CallbackProgram Goal Result X L) :
    ExecuteLoop Goal Result (CallbackState Goal Result X) (CallbackLabel Goal Result L) where
  system := program.system
  server := CallbackState.server
  serverLabel := program.serverLabel
  init_server := by
    intro s hs
    rw [show s = program.initialState from hs]
    rfl
  step_server s l s' h := step_server s s' l h

/-- **Projection.** The action server under a callback runs as
`actionServerSystem` does. -/
theorem server_reach {C : CallbackState Goal Result X → CallbackLabel Goal Result L → Prop}
    {s : CallbackState Goal Result X} (h : program.system.Reach C s) :
    (actionServerSystem Goal Result).Reach Transition.System.anyStep s.server := by
  refine h.project CallbackState.server (fun s hs => ?_) (fun s l s' _ _ hstep => ?_)
  · rw [show s = program.initialState from hs]
    rfl
  · rcases program.loop.server_cases hstep with hsame | ⟨k, _, hserver⟩
    · exact .inl hsame
    · exact .inr ⟨k, trivial, hserver⟩

end CallbackProgram

end Program

end Nav3D.Util

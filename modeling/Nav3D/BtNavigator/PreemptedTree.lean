/-
Nav3D.BtNavigator.PreemptedTree — under which tree a preempting goal runs.

`on_loop` reads the pending goal with `get_pending_goal`, `onPreempt`
compares the tree that this goal asks for with the tree that is loaded, and
then accepts or terminates the pending goal, whichever that is by now. Each
of these calls locks the action server for itself. When a third goal takes
the pending slot in between, the answer of the comparison is about a goal
that is gone.
-/
import Nav3D.BtNavigator.GoalFlown

namespace Nav3D.BtNavigator

open Nav3D.Ros Nav3D.Util Nav3D.BehaviorTree Transition.System
open BT (NodeStatus)

variable {P : Type}

/-! ## The record of `onPreempt` -/

/-- The goal asks for the tree in `filename`, by its name or, if that is the
default tree, by none. -/
def AsksFor (params : NavigatorParams) (goal : NavigateToPoseGoal P) (filename : String) : Prop :=
  goal.behaviorTree = filename ∨
    goal.behaviorTree = "" ∧ filename = params.defaultBtXmlFilename

instance (params : NavigatorParams) (goal : NavigateToPoseGoal P) (filename : String) :
    Decidable (AsksFor params goal filename) :=
  inferInstanceAs (Decidable (_ ∨ _ ∧ _))

/-- What `onPreempt` has done with a goal while the tree in `filename` was
loaded. -/
inductive PreemptRecord (P : Type) where
  /-- The goal has been made the current one. -/
  | accepted (goal : NavigateToPoseGoal P) (filename : String)
  /-- The goal has been terminated because of its tree. -/
  | otherTree (goal : NavigateToPoseGoal P) (filename : String)
  deriving DecidableEq

/-- The record is as it should be. -/
def PreemptRecord.Right (params : NavigatorParams) : PreemptRecord P → Prop
  | .accepted goal filename => AsksFor params goal filename
  | .otherTree goal filename => ¬ AsksFor params goal filename

/-- The navigator with the record, newest first. -/
structure PreemptLog (P : Type) where
  navigator : NavigateToPose P
  /-- The pending goal that was read has been found to ask for another tree. -/
  refusesTree : Bool
  log : List (PreemptRecord P)

def ExecutePc.isAccepting : ExecutePc P → Bool
  | .accepting _ => true
  | _ => false

def ExecutePc.isRejecting : ExecutePc P → Bool
  | .rejecting _ => true
  | _ => false

/-- What a step adds to the record. -/
def newRecords (s : PreemptLog P) : NavigatorLabel P → List (PreemptRecord P)
  | .acceptPendingGoal =>
    (pendingGoal s.navigator).toList.map fun entry =>
      .accepted entry.2 s.navigator.bt.currentBtXmlFilename
  | .terminatePendingGoal =>
    if s.refusesTree then
      s.navigator.server.server.getPendingGoal.toList.map fun goal =>
        .otherTree goal s.navigator.bt.currentBtXmlFilename
    else []
  | _ => []

/-- Whether the pending goal is refused for its tree, after a step. -/
def refusesAfter (s : PreemptLog P) (l : NavigatorLabel P) (s' : NavigateToPose P) : Bool :=
  match l with
  | .getPendingGoal => s'.pc.isRejecting
  | .initializeGoalPose _ => false
  | _ => s.refusesTree

section Step

variable [DecidableEq P]

def preemptStep (params : NavigatorParams) (tf : Nat → Tf P) (s : PreemptLog P)
    (l : NavigatorLabel P) : Option (PreemptLog P) :=
  (navigatorStep params tf s.navigator l).map fun navigator =>
    { navigator := navigator
      refusesTree := refusesAfter s l navigator
      log := newRecords s l ++ s.log }

/-- The navigator with all parties, and the record of `onPreempt`. -/
def preemptSystem (params : NavigatorParams) (tf : Nat → Tf P) :
    Transition.System (PreemptLog P) (NavigatorLabel P) where
  init := fun s => s = ⟨.initial, false, []⟩
  step := preemptStep params tf

/-- The record does not change what the navigator does. -/
theorem navigator_reach {params : NavigatorParams} {tf : Nat → Tf P}
    {C : PreemptLog P → NavigatorLabel P → Prop} {s : PreemptLog P}
    (h : (preemptSystem params tf).Reach C s) :
    (navigatorSystem params tf).Reach anyStep s.navigator := by
  refine h.project PreemptLog.navigator (fun s hs => by cases hs; rfl) fun s l s' _ _ hstep => ?_
  obtain ⟨navigator, hnav, rfl⟩ := Option.map_eq_some_iff.mp hstep
  exact .inr ⟨l, trivial, hnav⟩

end Step

theorem samePreemptTree_iff {params : NavigatorParams} {s : NavigateToPose P}
    {goal : NavigateToPoseGoal P} :
    samePreemptTree params s goal = true ↔ AsksFor params goal s.bt.currentBtXmlFilename := by
  simp [samePreemptTree, AsksFor, String.isEmpty_iff]

/-! ## The invariant -/

/-- The pending goal, if there is one, has a message with `Q`. -/
def PendingIs (Q : NavigateToPoseGoal P → Prop)
    (s : ActionServerState (NavigateToPoseGoal P) ErrorResult) : Prop :=
  ∀ p goal, s.server.pendingHandle = some p → s.server.message p = some goal → Q goal

/-- Between the comparison and the action on its answer, the answer is right
for the goal that is pending. -/
structure Compared (params : NavigatorParams) (s : PreemptLog P) : Prop where
  accepting : s.navigator.pc.isAccepting = true →
    PendingIs (AsksFor params · s.navigator.bt.currentBtXmlFilename) s.navigator.server
  rejecting : s.navigator.pc.isRejecting = true → s.refusesTree = true →
    PendingIs (¬ AsksFor params · s.navigator.bt.currentBtXmlFilename) s.navigator.server

/-- The goal that a step hands to the action server. -/
def delivered : NavigatorLabel P → Option GoalId
  | .server (.goalAccepted g) => some g
  | _ => none

/-- A goal that is delivered between the comparison and the action on its
answer has the same answer as the goal it replaces. -/
def ReplacedAlike (params : NavigatorParams) (s : PreemptLog P) (l : NavigatorLabel P) : Prop :=
  ∀ g ∈ delivered l, ∀ goal ∈ s.navigator.server.server.message g,
    (s.navigator.pc.isAccepting = true →
      AsksFor params goal s.navigator.bt.currentBtXmlFilename) ∧
    (s.navigator.pc.isRejecting = true → s.refusesTree = true →
      ¬ AsksFor params goal s.navigator.bt.currentBtXmlFilename)

instance (params : NavigatorParams) (s : PreemptLog P) (l : NavigatorLabel P) :
    Decidable (ReplacedAlike params s l) :=
  inferInstanceAs (Decidable (∀ g ∈ _, ∀ goal ∈ _, (_ → _) ∧ (_ → _ → ¬ _)))

/-! ## What other parties do to the pending slot -/

/-- While a worker is in the callback, the pending goal changes only when it
is terminated or another goal is delivered. -/
theorem pending_effect {Goal Result : Type} [Inhabited Result]
    {s s' : ActionServerState Goal Result} {l : Label Goal Result} (hs : ServerInv s)
    (he : Effect s l s') (hl : l.ofCallback = false)
    (hw : s.workers.getLast? = some .executing) :
    s'.server.pendingHandle = s.server.pendingHandle ∨ s'.server.pendingHandle = none ∨
      ∃ g, l = .goalAccepted g ∧ g ∈ s.transit ∧ s'.server.pendingHandle = some g := by
  have elsewhere : ∀ {us : List WorkerPc} {pc : WorkerPc}, s.workers = us ++ [pc] →
      pc = .executing := by
    intro us pc hus
    rw [hus, List.getLast?_concat] at hw
    exact Option.some.inj hw
  cases he with
  | parked g hg _ => exact .inr (.inr ⟨g, rfl, hg, SimpleActionServer.pendingHandle_park _ g⟩)
  | launched g _ _ hrun =>
    rw [ActionServerState.isRunning, hw] at hrun
    cases hrun
  | cancelRequested g _ =>
    refine .inl ?_
    show (s.server.cancelGoal g).pendingHandle = _
    unfold SimpleActionServer.cancelGoal
    split <;> rfl
  | deadlineMissed _ _ =>
    exact .inr (.inl (SimpleActionServer.slot_terminateAll hs.slots _ .pending))
  | called c => cases hl
  | tested us hus _ => cases elsewhere hus
  | callbackReturned us _ _ => cases hl
  | callbackThrew us _ _ => cases hl
  | iterationEnded us hus _ => cases elsewhere hus
  | exceptionHandled us hus _ => cases elsewhere hus
  | exited us hus _ => cases elsewhere hus
  | _ => exact .inl rfl

/-- What is asked of the pending goal stays true of it, if it is true of
every goal that is delivered. -/
theorem PendingIs.bystander {Q : NavigateToPoseGoal P → Prop}
    {s s' : ActionServerState (NavigateToPoseGoal P) ErrorResult}
    {l : Label (NavigateToPoseGoal P) ErrorResult} (h : PendingIs Q s) (hs : ServerInv s)
    (he : Effect s l s') (hl : l.ofCallback = false)
    (hw : s.workers.getLast? = some .executing)
    (hdelivered : ∀ g, l = .goalAccepted g → ∀ goal ∈ s.server.message g, Q goal) :
    PendingIs Q s' := by
  have hkeep := keepsGoals_effect he hl
  intro p goal hp hmsg
  -- the message of a goal that the server knew before is the same
  have hold : ∀ {g}, s.server.active g = true → s'.server.message g = some goal →
      s.server.message g = some goal := by
    intro g hact hg
    obtain ⟨handle, hhandle⟩ :=
      Option.isSome_iff_exists.mp (SimpleActionServer.isSome_of_active hact)
    have hbefore : s.server.message g = some handle.goal := by
      rw [SimpleActionServer.message, hhandle, Option.map_some]
    rw [hkeep.message g _ hbefore] at hg
    rw [hbefore, hg]
  rcases pending_effect hs he hl hw with hsame | hnone | ⟨g, rfl, hg, hnew⟩
  · rw [hsame] at hp
    exact h p goal hp (hold ((hs.slots.slots.active_iff p).mpr (.inr (.inr hp))) hmsg)
  · rw [hnone] at hp
    cases hp
  · rw [hnew] at hp
    cases hp
    exact hdelivered p rfl goal (hold ((hs.slots.slots.active_iff p).mpr (.inl hg)) hmsg)

/-! ## Each step keeps the invariant -/

variable [DecidableEq P] {params : NavigatorParams} {tf : Nat → Tf P}

/-- What a step is for `onPreempt`. -/
inductive PreemptEffect (params : NavigatorParams) (s : NavigateToPose P) :
    NavigatorLabel P → NavigateToPose P → Prop
  | party {l s'} : serverPartyStep s l = some s' → PreemptEffect params s (.server l) s'
  /-- The comparison. -/
  | compared {r goal} : s.server.server.getPendingGoal = some goal →
      PreemptEffect params s .getPendingGoal
        { s with pc := if samePreemptTree params s goal then .accepting r else .rejecting r }
  | pendingAccepted {pc} : s.pc.isAccepting = true → pc.isAccepting = false →
      pc.isRejecting = false →
      PreemptEffect params s .acceptPendingGoal { callServer s .acceptPendingGoal with pc := pc }
  | initialized {k s'} : s'.pc.isAccepting = false →
      PreemptEffect params s (.initializeGoalPose k) s'
  | pendingTerminated {pc} : s.pc.isRejecting = true → pc.isAccepting = false →
      pc.isRejecting = false →
      PreemptEffect params s .terminatePendingGoal
        { callServer s .terminatePendingGoal with pc := pc }
  | elsewhere {l s'} : l ≠ .acceptPendingGoal → l ≠ .terminatePendingGoal →
      s'.pc.isAccepting = false → s'.pc.isRejecting = false → PreemptEffect params s l s'

theorem preemptEffect_of_step {s s' : NavigateToPose P} {l : NavigatorLabel P}
    (h : navigatorStep params tf s l = some s') : PreemptEffect params s l s' := by
  unfold navigatorStep at h
  split at h
  · exact .party h
  · next navigating load k hpc =>
    unfold receiveGoal at h
    split at h
    · cases h; exact .elsewhere nofun nofun rfl rfl
    split at h
    · split at h <;> first | (cases h; exact .elsewhere nofun nofun rfl rfl) | cases h
    · cases h
  · cases h; exact .elsewhere nofun nofun rfl rfl
  · split at h
    · cases h; exact .elsewhere nofun nofun rfl rfl
    split at h <;> (cases h; exact .elsewhere nofun nofun rfl rfl)
  · cases h; exact .elsewhere nofun nofun rfl rfl
  · cases h; exact .elsewhere nofun nofun rfl rfl
  · cases h
    refine .elsewhere nofun nofun ?_ ?_
    · show ExecutePc.isAccepting (if _ then _ else _) = false
      split <;> rfl
    · show ExecutePc.isRejecting (if _ then _ else _) = false
      split <;> rfl
  · split at h
    · cases h
    · next goal hgoal => cases h; exact .compared hgoal
  · next hpc => cases h; exact .pendingAccepted (by rw [hpc]; rfl) rfl rfl
  · next k r goal hpc =>
    unfold initializePreempting at h
    split at h
    · cases h; exact .initialized rfl
    · cases h; exact .initialized rfl
    · cases h
  · next hpc => cases h; exact .pendingTerminated (by rw [hpc]; rfl) rfl rfl
  · cases h
    refine .elsewhere nofun nofun ?_ ?_
    · show ExecutePc.isAccepting (if _ then _ else _) = false
      split
      · rfl
      · rfl
    · show ExecutePc.isRejecting (if _ then _ else _) = false
      split
      · rfl
      · rfl
  · cases h; exact .elsewhere nofun nofun rfl rfl
  · cases h; exact .elsewhere nofun nofun rfl rfl
  · cases h

omit [DecidableEq P] in
theorem message_of_getPendingGoal {s : SimpleActionServer (NavigateToPoseGoal P) ErrorResult}
    {goal : NavigateToPoseGoal P} (h : s.getPendingGoal = some goal) :
    ∃ p, s.pendingHandle = some p ∧ s.message p = some goal := by
  cases hp : s.pendingHandle with
  | none =>
    rw [SimpleActionServer.getPendingGoal, hp] at h
    cases h
  | some p =>
    simp only [SimpleActionServer.getPendingGoal, SimpleActionServer.goalOf, hp] at h
    split at h
    · exact ⟨p, rfl, h⟩
    · cases h

/-- The records of a step are right. -/
theorem right_newRecords {s : PreemptLog P} {l : NavigatorLabel P} {s' : NavigateToPose P}
    (h : Compared params s) (he : PreemptEffect params s.navigator l s') :
    ∀ entry ∈ newRecords s l, entry.Right params := by
  intro entry hentry
  cases he with
  | pendingAccepted hpc =>
    obtain ⟨⟨p, goal⟩, hmem, rfl⟩ := List.mem_map.mp hentry
    rw [Option.mem_toList, pendingGoal] at hmem
    split at hmem
    · next p' goal' hp hgoal =>
      cases hmem
      obtain ⟨p'', hp'', _, hmsg⟩ := SimpleActionServer.acceptPendingGoal_returns hgoal
      exact h.accepting hpc p'' goal hp'' hmsg
    · cases hmem
  | pendingTerminated hpc =>
    simp only [newRecords] at hentry
    split at hentry
    · next hrefuses =>
      obtain ⟨goal, hmem, rfl⟩ := List.mem_map.mp hentry
      rw [Option.mem_toList] at hmem
      obtain ⟨p, hp, hmsg⟩ := message_of_getPendingGoal hmem
      exact h.rejecting hpc hrefuses p goal hp hmsg
    · cases hentry
  | elsewhere haccept hterminate =>
    cases l with
    | acceptPendingGoal => exact absurd rfl haccept
    | terminatePendingGoal => exact absurd rfl hterminate
    | _ => cases hentry
  | _ => cases hentry

/-- After a step of another party the worker is between the comparison and
the action only if it was there before. -/
theorem onPreempt_party {s s' : NavigateToPose P} {l : Label (NavigateToPoseGoal P) ErrorResult}
    (h : Busy s) (hs : ServerInv s.server) (hstep : serverPartyStep s l = some s')
    (hpc : s'.pc.isAccepting = true ∨ s'.pc.isRejecting = true) :
    s'.pc = s.pc ∧ s'.bt = s.bt ∧ l.ofCallback = false := by
  have he := effect_of_step hs (server_serverPartyStep hstep)
  unfold serverPartyStep at hstep
  split at hstep
  · cases hstep
  · split at hstep
    · obtain ⟨server, _, rfl⟩ := Option.map_eq_some_iff.mp hstep
      rcases hpc with hf | hf <;> cases hf
    · cases hstep
  · obtain ⟨server, _, rfl⟩ := Option.map_eq_some_iff.mp hstep
    rcases hpc with hf | hf <;> cases hf
  · obtain ⟨server, _, rfl⟩ := Option.map_eq_some_iff.mp hstep
    rw [idle_of_testGuard h he] at hpc
    rcases hpc with hf | hf <;> (dsimp only at hf; split at hf <;> cases hf)
  · next hcall hreturn hthrow _ =>
    obtain ⟨server, _, rfl⟩ := Option.map_eq_some_iff.mp hstep
    exact ⟨rfl, rfl, ofCallback_eq_false hcall hreturn hthrow⟩

/-- **Each step keeps the invariant.** -/
theorem compared_step {s s' : PreemptLog P} {l : NavigatorLabel P} (h : Compared params s)
    (hs : ServerInv s.navigator.server) (hbusy : Busy s.navigator)
    (hc : ReplacedAlike params s l) (hstep : preemptStep params tf s l = some s') :
    Compared params s' := by
  obtain ⟨navigator, hnav, rfl⟩ := Option.map_eq_some_iff.mp hstep
  cases preemptEffect_of_step hnav with
  | @party l _ hparty =>
    have he := effect_of_step hs (server_serverPartyStep hparty)
    -- what has been asked of the pending goal is asked of the delivered one
    have hkeep : ∀ Q, (navigator.pc.isAccepting = true ∨ navigator.pc.isRejecting = true) →
        PendingIs Q s.navigator.server →
        (∀ g, l = .goalAccepted g → ∀ goal ∈ s.navigator.server.server.message g, Q goal) →
        PendingIs Q navigator.server := by
      intro Q hpc hQ hdelivered
      obtain ⟨hsame, _, hl⟩ := onPreempt_party hbusy hs hparty hpc
      have hw := hbusy.mp fun hidle => by
        rw [hsame, hidle] at hpc
        rcases hpc with hf | hf <;> cases hf
      exact hQ.bystander hs he hl hw hdelivered
    refine ⟨fun hpc => ?_, fun hpc hrefuses => ?_⟩
    · obtain ⟨hsame, hbt, _⟩ := onPreempt_party hbusy hs hparty (.inl hpc)
      rw [hsame] at hpc
      show PendingIs (AsksFor params · navigator.bt.currentBtXmlFilename) navigator.server
      rw [hbt]
      refine hkeep _ (.inl (hsame ▸ hpc)) (h.accepting hpc) fun g hg goal hgoal => ?_
      subst hg
      exact (hc g rfl goal hgoal).1 hpc
    · obtain ⟨hsame, hbt, _⟩ := onPreempt_party hbusy hs hparty (.inr hpc)
      rw [hsame] at hpc
      show PendingIs (¬ AsksFor params · navigator.bt.currentBtXmlFilename) navigator.server
      rw [hbt]
      refine hkeep _ (.inr (hsame ▸ hpc)) (h.rejecting hpc hrefuses) fun g hg goal hgoal => ?_
      subst hg
      exact (hc g rfl goal hgoal).2 hpc hrefuses
  | @compared r goal hgoal =>
    have hpending : ∀ p goal', s.navigator.server.server.pendingHandle = some p →
        s.navigator.server.server.message p = some goal' → goal' = goal := by
      intro p goal' hp hmsg
      obtain ⟨p', hp', hmsg'⟩ := message_of_getPendingGoal hgoal
      rw [hp] at hp'
      cases hp'
      rw [hmsg] at hmsg'
      exact Option.some.inj hmsg'
    have hiff : samePreemptTree params s.navigator goal = true ↔
        AsksFor params goal s.navigator.bt.currentBtXmlFilename := samePreemptTree_iff
    refine ⟨fun hpc p goal' hp hmsg => ?_, fun hpc _ p goal' hp hmsg => ?_⟩
    · rw [hpending p goal' hp hmsg]
      dsimp only at hpc
      split at hpc
      · next hsame => exact hiff.mp hsame
      · cases hpc
    · rw [hpending p goal' hp hmsg]
      dsimp only at hpc
      split at hpc
      · cases hpc
      · next hother => exact fun hasks => hother (hiff.mpr hasks)
  | pendingAccepted _ haccepting hrejecting =>
    exact ⟨fun hpc => absurd (haccepting.symm.trans hpc) Bool.false_ne_true,
      fun hpc => absurd (hrejecting.symm.trans hpc) Bool.false_ne_true⟩
  | initialized haccepting =>
    exact ⟨fun hpc => absurd (haccepting.symm.trans hpc) Bool.false_ne_true,
      fun _ hrefuses => by cases hrefuses⟩
  | pendingTerminated _ haccepting hrejecting =>
    exact ⟨fun hpc => absurd (haccepting.symm.trans hpc) Bool.false_ne_true,
      fun hpc => absurd (hrejecting.symm.trans hpc) Bool.false_ne_true⟩
  | elsewhere _ _ haccepting hrejecting =>
    exact ⟨fun hpc => absurd (haccepting.symm.trans hpc) Bool.false_ne_true,
      fun hpc => absurd (hrejecting.symm.trans hpc) Bool.false_ne_true⟩

/-- **A preempting goal runs under the tree it asked for.** In every run in
which a goal that is delivered between the comparison and the action on its
answer asks for the loaded tree exactly if the goal it replaces does: every
goal that `onPreempt` has made current asked for the tree that was loaded,
and every pending goal that it has terminated because of its tree asked for
another one. -/
theorem runs_under_its_tree {s : PreemptLog P}
    (h : (preemptSystem params tf).Reach (ReplacedAlike params) s) :
    ∀ entry ∈ s.log, entry.Right params := by
  suffices hinv : Compared params s ∧ ∀ entry ∈ s.log, entry.Right params from hinv.2
  induction h with
  | init hs =>
    cases hs
    exact ⟨⟨fun hpc => (by cases hpc), fun hpc => by cases hpc⟩, fun _ hentry => by cases hentry⟩
  | @step s s' l hr hc hstep ih =>
    have hnav := navigator_reach hr
    have hs := serverInv_of_reach (server_reach hnav)
    refine ⟨compared_step ih.1 hs (busy_of_reach hnav) hc hstep, ?_⟩
    obtain ⟨navigator, hnav', rfl⟩ := Option.map_eq_some_iff.mp hstep
    intro entry hentry
    rcases List.mem_append.mp hentry with hnew | hold
    · exact right_newRecords ih.1 (preemptEffect_of_step hnav') entry hnew
    · exact ih.2 entry hold

/-! ## Runs -/

abbrev numbersPreempt : Transition.System (PreemptLog Nat) (NavigatorLabel Nat) :=
  preemptSystem runParams flakyTf

/-- A goal for another tree. -/
def otherTreeAt (x : Nat) : NavigateToPoseGoal Nat := ⟨⟨⟨⟨⟩, "map"⟩, x⟩, "other.xml"⟩

/-- Goal 0 is executed under the default tree; goal 1 is pending and has been
compared. -/
def comparedRun (goal : NavigateToPoseGoal Nat) : List (NavigatorLabel Nat) :=
  [.server .activate, .server (.goalRequest 0 (goalAt 10)), .server (.goalAccepted 0),
    .server (.testGuard 0), .goalReceived false .created 0,
    .server (.goalRequest 1 goal), .server (.goalAccepted 1),
    .testLoop, .tick (some .running) 0, .testPreempt, .getPendingGoal]

/-- Goal 2 takes the pending slot. -/
def replacedBy (goal : NavigateToPoseGoal Nat) : List (NavigatorLabel Nat) :=
  [.server (.goalRequest 2 goal), .server (.goalAccepted 2)]

/-- A goal for another tree is made current under the default tree, and a
goal for the default tree is terminated because of its tree. -/
theorem wrong_tree :
    (∃ s, numbersPreempt.Reach anyStep s ∧
      .accepted (otherTreeAt 20) "default.xml" ∈ s.log ∧
      ¬ (PreemptRecord.accepted (otherTreeAt 20) "default.xml").Right runParams) ∧
    ∃ s, numbersPreempt.Reach anyStep s ∧
      .otherTree (goalAt 20) "default.xml" ∈ s.log ∧
      ¬ (PreemptRecord.otherTree (goalAt 20) "default.xml").Right runParams := by
  constructor
  · obtain ⟨s, hr, hs⟩ := exists_reach_of_runWhile (S := numbersPreempt) anyStep
      (comparedRun (goalAt 15) ++ replacedBy (otherTreeAt 20) ++ [.acceptPendingGoal])
      (fun s : PreemptLog Nat => s.log.contains (.accepted (otherTreeAt 20) "default.xml"))
      rfl (by decide +kernel)
    exact ⟨s, hr, List.contains_iff_mem.mp hs, by rw [PreemptRecord.Right]; decide⟩
  · obtain ⟨s, hr, hs⟩ := exists_reach_of_runWhile (S := numbersPreempt) anyStep
      (comparedRun (otherTreeAt 15) ++ replacedBy (goalAt 20) ++ [.terminatePendingGoal])
      (fun s : PreemptLog Nat => s.log.contains (.otherTree (goalAt 20) "default.xml"))
      rfl (by decide +kernel)
    exact ⟨s, hr, List.contains_iff_mem.mp hs, by rw [PreemptRecord.Right, not_not]; decide⟩

/-- Goal 1 is replaced by goal 2, which asks for the default tree as well. -/
theorem runs_under_its_tree_replaced : ∃ s, numbersPreempt.Reach (ReplacedAlike runParams) s ∧
    s.log = [.accepted (goalAt 20) "default.xml"] ∧ ∀ entry ∈ s.log, entry.Right runParams := by
  obtain ⟨s, hr, hs⟩ := exists_reach_of_runWhile (S := numbersPreempt) (ReplacedAlike runParams)
    (comparedRun (goalAt 15) ++ replacedBy (goalAt 20) ++ [.acceptPendingGoal])
    (fun s : PreemptLog Nat => s.log == [.accepted (goalAt 20) "default.xml"])
    rfl (by decide +kernel)
  exact ⟨s, hr, beq_iff_eq.mp hs, runs_under_its_tree hr⟩

end Nav3D.BtNavigator

/-
Nav3D.Util.LifecycleUtils — starting and resetting lifecycle nodes
(`lifecycle_utils.cpp`, `lifecycle_service_client.cpp`,
`service_client.hpp`).

A transition is requested again when the call throws, up to the retries. The
value that `change_state` returns is not looked at, and with a timeout it
says only that there is a response, not what `success` in it is. So a node
that refuses a transition counts as one that has made it
(`returns_only_if_up`).

What becomes of each call is an argument, by the number of the call. Every
exception of a call is a `std::runtime_error`. The wait of the client's
constructor for the service is left out, and so is the overflow of the
attempts.
-/
import Nav3D.Lib.Attempts
import Nav3D.Lib.StateInvariant
import Nav3D.Lifecycle.LifecycleManager

namespace Nav3D.Util.LifecycleUtils

open Attempts StateInvariant
open Nav3D.Lifecycle (LifecycleTransition)

/-! ## The code -/

/-- What becomes of a `change_state` call. -/
inductive Reply where
  /-- It throws, before the request is sent or after. -/
  | throws (sent : Bool)
  /-- There is a response, with its field `success`. -/
  | answered (success : Bool)
  /-- The spin ends without the response. -/
  | interrupted
  deriving DecidableEq, Repr

/-- A `change_state` call that has been made. -/
structure Call where
  nodeName : String
  transition : LifecycleTransition
  reply : Reply
  deriving DecidableEq, Repr

/-- What calls that throw end with. -/
inductive RuntimeError where
  | runtimeError

/-- The state is the calls so far, in order. -/
abbrev UtilsM := EStateM RuntimeError (List Call)

/-- The implicit conversion of a duration to milliseconds, in 64 bits. -/
def toMilliseconds (seconds : Int) : Int := Int.bmod (seconds * 1000) (2 ^ 64)

section Code

variable (replies : Nat → Reply) (serviceCallTimeout : Int)

/-- `LifecycleServiceClient::change_state`. With a timeout it is the pointer
to the response that is converted to `bool`. -/
def changeState (nodeName : String) (transition : LifecycleTransition) : UtilsM Bool := do
  let calls ← get
  let reply := replies calls.length
  set (calls ++ [⟨nodeName, transition, reply⟩])
  match reply with
  | .throws _ => throw .runtimeError
  | .answered _ => return true
  | .interrupted =>
    if toMilliseconds serviceCallTimeout > 0 then throw .runtimeError else return false

/-- `retry_runtime_error` with the number of retries that are left. -/
def retryRuntimeError (fn : UtilsM PUnit) : Nat → UtilsM PUnit
  | 0 => fn
  | retries + 1 => tryCatch fn fun _ => retryRuntimeError fn retries

/-- The call of a lambda expression, which returns nothing. -/
def requestTransition (nodeName : String) (transition : LifecycleTransition) : UtilsM PUnit := do
  let _ ← changeState replies serviceCallTimeout nodeName transition
  return ⟨⟩

/-- Two transitions of one node. -/
def transitionNode (first second : LifecycleTransition) (retries : Int) (nodeName : String) :
    UtilsM PUnit := do
  retryRuntimeError (requestTransition replies serviceCallTimeout nodeName first) retries.toNat
  retryRuntimeError (requestTransition replies serviceCallTimeout nodeName second) retries.toNat

/-- The `for` loop over the nodes. -/
def transitionNodes (first second : LifecycleTransition) (retries : Int) :
    List String → UtilsM PUnit
  | [] => return ⟨⟩
  | nodeName :: nodeNames => do
    transitionNode replies serviceCallTimeout first second retries nodeName
    transitionNodes first second retries nodeNames

/-- `startup_lifecycle_nodes`. -/
def startupLifecycleNodes (nodeNames : List String) (retries : Int) : UtilsM PUnit :=
  transitionNodes replies serviceCallTimeout .configure .activate retries nodeNames

/-- `reset_lifecycle_nodes`. -/
def resetLifecycleNodes (nodeNames : List String) (retries : Int) : UtilsM PUnit :=
  transitionNodes replies serviceCallTimeout .deactivate .cleanup retries nodeNames

end Code

/-! ## What is wanted -/

/-- The request of the call has been sent. -/
def Call.sent (c : Call) : Bool :=
  match c.reply with
  | .throws sent => sent
  | _ => true

/-- The node has made the transition. -/
def Call.succeeded (c : Call) : Bool := c.reply = .answered true

/-- The transitions to be requested, in order. -/
def transitionsOf (first second : LifecycleTransition) (nodeNames : List String) :
    List (String × LifecycleTransition) :=
  nodeNames.flatMap fun nodeName => [(nodeName, first), (nodeName, second)]

/-- The requests for one transition: the last one is answered with success,
and there are no more than the retries allow. -/
structure Accepted (retries : Int) (task : String × LifecycleTransition)
    (requests : List Call) : Prop where
  of_task : ∀ c ∈ requests, (c.nodeName, c.transition) = task
  accepted : ∃ c, requests.getLast? = some c ∧ c.succeeded = true
  length_le : (requests.length : Int) ≤ max 0 retries + 1

/-- The requests for all the transitions, one after the other. -/
def AllAccepted (retries : Int) (tasks : List (String × LifecycleTransition))
    (requests : List Call) : Prop :=
  ∃ blocks, requests = blocks.flatten ∧ List.Forall₂ (Accepted retries) tasks blocks

/-- A run that returns has had all its transitions accepted. -/
def ReturnsOnlyIfUp (first second : LifecycleTransition) (retries : Int)
    (nodeNames : List String) (run : UtilsM PUnit) : Prop :=
  match run.run [] with
  | .ok _ calls =>
    AllAccepted retries (transitionsOf first second nodeNames) (calls.filter (·.sent))
  | .error _ _ => True

/-! ## One transition -/

section Runs

variable (replies : Nat → Reply) (serviceCallTimeout : Int)

/-- The call throws. -/
def Reply.fails (timeout : Int) : Reply → Bool
  | .throws _ => true
  | .answered _ => false
  | .interrupted => toMilliseconds timeout > 0

/-- Call `i` throws. -/
def CallFails (i : Nat) : Prop := (replies i).fails serviceCallTimeout = true

instance : DecidablePred (CallFails replies serviceCallTimeout) :=
  fun i => inferInstanceAs (Decidable ((replies i).fails serviceCallTimeout = true))

variable {replies serviceCallTimeout}

/-- A call that succeeds is sent and does not throw. -/
theorem requestTransition_spec (nodeName : String) (transition : LifecycleTransition)
    (calls : List Call) :
    Triple (· = calls) (requestTransition replies serviceCallTimeout nodeName transition)
      (fun _ s => ¬ CallFails replies serviceCallTimeout calls.length ∧
        s = calls ++ [⟨nodeName, transition, replies calls.length⟩])
      (fun _ s => CallFails replies serviceCallTimeout calls.length ∧
        s = calls ++ [⟨nodeName, transition, replies calls.length⟩]) := by
  unfold requestTransition changeState
  refine triple_bind (Q := fun _ s => ¬ CallFails replies serviceCallTimeout calls.length ∧
    s = calls ++ [⟨nodeName, transition, replies calls.length⟩]) ?_ fun _ => triple_pure
      fun s hs => hs
  refine triple_get_bind ?_
  intro s hs
  subst hs
  refine triple_bind (triple_set
    (Q := fun _ s' => s' = s ++ [⟨nodeName, transition, replies s.length⟩])
    fun _ _ => rfl) fun _ => ?_
  unfold CallFails
  cases replies s.length with
  | throws sent => exact triple_throw fun _ hs => ⟨rfl, hs⟩
  | answered success => exact triple_pure fun _ hs => ⟨by simp [Reply.fails], hs⟩
  | interrupted =>
    apply triple_ite
    · intro h
      exact triple_throw fun _ hs => ⟨by simpa [Reply.fails] using h, hs⟩
    · intro h
      exact triple_pure fun _ hs => ⟨by simpa [Reply.fails] using h, hs⟩

variable (replies) in
/-- The calls for one transition: the first one has number `a`, and `r` calls
come before the last. -/
def callsOf (task : String × LifecycleTransition) (a r : Nat) : List Call :=
  (List.range (r + 1)).map fun j => ⟨task.1, task.2, replies (a + j)⟩

theorem callsOf_succ (task : String × LifecycleTransition) (a r : Nat) :
    callsOf replies task a (r + 1) =
      ⟨task.1, task.2, replies a⟩ :: callsOf replies task (a + 1) r := by
  simp only [callsOf, List.range_succ_eq_map (n := r + 1), List.map_cons, List.map_map,
    Nat.add_zero]
  congr 1
  apply List.map_congr_left
  intro j _
  simp [Nat.add_assoc, Nat.add_comm 1 j]

@[simp] theorem length_callsOf (task : String × LifecycleTransition) (a r : Nat) :
    (callsOf replies task a r).length = r + 1 := by
  simp [callsOf]

/-- With `retries` left the calls go on up to the first one that does not
throw, or all of them throw. -/
theorem retryRuntimeError_spec (task : String × LifecycleTransition) (retries : Nat)
    (calls : List Call) :
    Triple (· = calls)
      (retryRuntimeError (requestTransition replies serviceCallTimeout task.1 task.2) retries)
      (fun _ s => ∃ r, Series (CallFails replies serviceCallTimeout) retries calls.length r ∧
        s = calls ++ callsOf replies task calls.length r)
      (fun _ _ => ∀ j ≤ retries, CallFails replies serviceCallTimeout (calls.length + j)) := by
  induction retries generalizing calls with
  | zero =>
    refine triple_conseq (requestTransition_spec task.1 task.2 calls) (fun _ hs => hs) ?_ ?_
    · intro _ s hs
      exact ⟨0, series_zero hs.1, hs.2⟩
    · intro _ s hs j hj
      obtain rfl : j = 0 := by omega
      exact hs.1
  | succ retries ih =>
    unfold retryRuntimeError
    have hcall := @requestTransition_spec replies serviceCallTimeout task.1 task.2 calls
    apply triple_tryCatch
    · apply triple_post hcall
      intro _ s hs
      exact ⟨0, series_zero hs.1, hs.2⟩
    · intro _
      apply triple_start
      intro s hs
      obtain ⟨hfails, hs⟩ := hs
      have hlength : s.length = calls.length + 1 := by simp [hs]
      refine triple_conseq (ih s) (fun _ h => h) ?_ ?_
      · intro _ s' hs'
        obtain ⟨r, hseries, rfl⟩ := hs'
        rw [hlength] at hseries
        refine ⟨r + 1, hseries.succ hfails, ?_⟩
        rw [hlength, callsOf_succ, hs]
        simp
      · intro _ _ hall j hj
        rw [hlength] at hall
        cases j with
        | zero => exact hfails
        | succ j =>
          have hj' := hall j (by omega)
          rwa [show calls.length + 1 + j = calls.length + (j + 1) by omega] at hj'

/-! ## All transitions -/

variable (replies serviceCallTimeout) in
/-- The calls that have been made when the transitions of `tasks` are over:
for each of them a series of calls of which only the last one does not
throw. -/
inductive Served (retries : Nat) : List (String × LifecycleTransition) → List Call → Prop
  | nil : Served retries [] []
  | concat {tasks : List (String × LifecycleTransition)} {calls : List Call}
      {task : String × LifecycleTransition} {r : Nat} : Served retries tasks calls →
      Series (CallFails replies serviceCallTimeout) retries calls.length r →
      Served retries (tasks ++ [task]) (calls ++ callsOf replies task calls.length r)

variable {retries : Nat} {tasks : List (String × LifecycleTransition)} {calls : List Call}

theorem Served.done (h : Served replies serviceCallTimeout retries tasks calls) :
    Done (CallFails replies serviceCallTimeout) retries tasks.length calls.length := by
  induction h with
  | nil => exact .zero
  | @concat tasks calls task r _ hseries ih =>
    have hdone := ih.succ hseries
    simpa [Nat.add_assoc] using hdone

/-- The calls have the replies of their numbers. -/
theorem Served.replies_eq (h : Served replies serviceCallTimeout retries tasks calls) :
    calls.map (·.reply) = (List.range calls.length).map replies := by
  induction h with
  | nil => rfl
  | @concat tasks calls task r _ _ ih =>
    rw [List.map_append, ih, List.length_append, List.range_add, List.map_append,
      length_callsOf]
    simp [callsOf, Function.comp_def]

/-- The next transition succeeds or gives up. -/
theorem Served.transition (task : String × LifecycleTransition) {n : Nat}
    (hn : tasks.length < n) :
    Triple (Served replies serviceCallTimeout retries tasks)
      (retryRuntimeError (requestTransition replies serviceCallTimeout task.1 task.2) retries)
      (fun _ => Served replies serviceCallTimeout retries (tasks ++ [task]))
      (fun _ _ => GivesUp (CallFails replies serviceCallTimeout) retries n) := by
  apply triple_start
  intro calls hserved
  refine triple_conseq (retryRuntimeError_spec task retries calls) (fun _ hs => hs) ?_ ?_
  · intro _ s hs
    obtain ⟨r, hseries, rfl⟩ := hs
    exact hserved.concat hseries
  · intro _ _ hall
    refine ⟨calls.length, ?_, hall⟩
    rw [hserved.done.count]
    exact hn

theorem transitionNodes_spec (first second : LifecycleTransition) (retries : Int)
    (nodeNames : List String) (tasks : List (String × LifecycleTransition)) :
    Triple (Served replies serviceCallTimeout retries.toNat tasks)
      (transitionNodes replies serviceCallTimeout first second retries nodeNames)
      (fun _ => Served replies serviceCallTimeout retries.toNat
        (tasks ++ transitionsOf first second nodeNames))
      (fun _ _ => GivesUp (CallFails replies serviceCallTimeout) retries.toNat
        (tasks.length + 2 * nodeNames.length)) := by
  induction nodeNames generalizing tasks with
  | nil =>
    apply triple_pure
    intro s hs
    simpa [transitionsOf] using hs
  | cons nodeName nodeNames ih =>
    unfold transitionNodes transitionNode
    have hlength : (tasks ++ [(nodeName, first)] ++ [(nodeName, second)]).length +
        2 * nodeNames.length = tasks.length + 2 * (nodeName :: nodeNames).length := by
      simp
      omega
    have hrest := ih (tasks ++ [(nodeName, first)] ++ [(nodeName, second)])
    rw [hlength] at hrest
    refine triple_bind (triple_bind (Served.transition (nodeName, first) ?_) fun _ =>
      Served.transition (nodeName, second) ?_) fun _ => ?_
    · simp
    · simp
      omega
    · refine triple_post hrest ?_
      intro _ s hs
      simpa [transitionsOf] using hs

/-! ## Success -/

variable (replies serviceCallTimeout) in
/-- The first `n` calls that do not throw are answered with success. -/
def AllSucceed (n : Nat) : Prop :=
  ∀ i, ¬ CallFails replies serviceCallTimeout i →
    Nat.count (fun i => ¬ CallFails replies serviceCallTimeout i) i < n →
      replies i = .answered true

/-- When `n` transitions are over, these are the calls that have been made. -/
theorem Served.allSucceed_iff (h : Served replies serviceCallTimeout retries tasks calls) :
    AllSucceed replies serviceCallTimeout tasks.length ↔
      ∀ i < calls.length, ¬ CallFails replies serviceCallTimeout i →
        replies i = .answered true := by
  have hcount := h.done.count
  constructor
  · intro hall i hi hfails
    apply hall i hfails
    have hmono := Nat.count_monotone (fun i => ¬ CallFails replies serviceCallTimeout i)
      (Nat.succ_le_of_lt hi)
    rw [Nat.count_succ, if_pos hfails, hcount] at hmono
    omega
  · intro hall i hfails hlt
    apply hall i _ hfails
    by_contra hle
    have hmono := Nat.count_monotone (fun i => ¬ CallFails replies serviceCallTimeout i)
      (not_lt.mp hle)
    omega

/-- A series that ends with success. -/
theorem accepted_callsOf {retries : Int} (task : String × LifecycleTransition) {a r : Nat}
    (hr : r ≤ retries.toNat) (hlast : replies (a + r) = .answered true) :
    Accepted retries task ((callsOf replies task a r).filter (·.sent)) where
  of_task := by
    intro c hc
    have hmem := List.mem_of_mem_filter hc
    simp only [callsOf, List.mem_map] at hmem
    obtain ⟨j, -, rfl⟩ := hmem
    rfl
  accepted := by
    refine ⟨⟨task.1, task.2, replies (a + r)⟩, ?_, by simp [Call.succeeded, hlast]⟩
    rw [callsOf, List.range_succ, List.map_append, List.filter_append]
    simp [Call.sent, hlast]
  length_le := by
    have hle := List.length_filter_le (·.sent) (callsOf replies task a r)
    rw [length_callsOf] at hle
    omega

theorem Served.allAccepted {retries : Int}
    (h : Served replies serviceCallTimeout retries.toNat tasks calls)
    (hall : ∀ i < calls.length, ¬ CallFails replies serviceCallTimeout i →
      replies i = .answered true) :
    AllAccepted retries tasks (calls.filter (·.sent)) := by
  induction h with
  | nil => exact ⟨[], rfl, .nil⟩
  | @concat tasks calls task r hserved hseries ih =>
    rw [List.length_append, length_callsOf] at hall
    obtain ⟨blocks, hblocks, haccepted⟩ := ih fun i hi => hall i (by omega)
    have hlast := accepted_callsOf task hseries.le (hall _ (by omega) hseries.ends)
    refine ⟨blocks ++ [(callsOf replies task calls.length r).filter (·.sent)], ?_,
      List.rel_append haccepted (.cons hlast .nil)⟩
    rw [List.filter_append, hblocks]
    simp

/-- Each accepted transition has a call that succeeds. -/
theorem AllAccepted.le_countP {retries : Int} {requests : List Call}
    (h : AllAccepted retries tasks requests) : tasks.length ≤ requests.countP (·.succeeded) := by
  obtain ⟨blocks, rfl, haccepted⟩ := h
  induction haccepted with
  | nil => simp
  | @cons task block tasks blocks hblock _ ih =>
    obtain ⟨c, hc, hsucceeded⟩ := hblock.accepted
    have hpos : 0 < block.countP (·.succeeded) :=
      List.countP_pos_iff.mpr ⟨c, List.mem_of_getLast? hc, hsucceeded⟩
    rw [List.flatten_cons, List.countP_append, List.length_cons]
    omega

theorem countP_range (p : Nat → Prop) [DecidablePred p] (n : Nat) :
    (List.range n).countP p = Nat.count p n := by
  induction n with
  | zero => simp
  | succ n ih =>
    rw [List.range_succ, List.countP_append, ih, Nat.count_succ]
    simp [List.countP_singleton]

/-- Where the transitions are accepted, every call that does not throw
succeeds: there are no more of them than transitions. -/
theorem Served.succeed_of_allAccepted {retries : Int}
    (h : Served replies serviceCallTimeout retries.toNat tasks calls)
    (haccepted : AllAccepted retries tasks (calls.filter (·.sent))) :
    ∀ i < calls.length, ¬ CallFails replies serviceCallTimeout i →
      replies i = .answered true := by
  have hle : tasks.length ≤ (List.range calls.length).countP (replies · = .answered true) := by
    calc tasks.length
        ≤ (calls.filter (·.sent)).countP (·.succeeded) := haccepted.le_countP
      _ ≤ calls.countP (·.succeeded) := List.filter_sublist.countP_le
      _ = (calls.map (·.reply)).countP (· = .answered true) := by
        rw [List.countP_map]
        rfl
      _ = (List.range calls.length).countP (replies · = .answered true) := by
        rw [h.replies_eq, List.countP_map]
        rfl
  have hcount := h.done.count
  rw [← countP_range] at hcount
  have hsublist : ((List.range calls.length).filter (replies · = .answered true)).Sublist
      ((List.range calls.length).filter (¬ CallFails replies serviceCallTimeout ·)) := by
    apply List.monotone_filter_right
    intro i hi
    simp at hi
    simp [CallFails, hi, Reply.fails]
  have heq := hsublist.eq_of_length_le (by
    rw [← List.countP_eq_length_filter, ← List.countP_eq_length_filter, hcount]
    exact hle)
  intro i hi hfails
  have hmem : i ∈ (List.range calls.length).filter
      (¬ CallFails replies serviceCallTimeout ·) := by
    simp [hi, hfails]
  rw [← heq] at hmem
  simpa using (List.mem_filter.mp hmem).2

theorem length_transitionsOf (first second : LifecycleTransition) (nodeNames : List String) :
    (transitionsOf first second nodeNames).length = 2 * nodeNames.length := by
  induction nodeNames with
  | nil => rfl
  | cons nodeName nodeNames ih =>
    simp only [transitionsOf, List.flatMap_cons, List.length_append, List.length_cons,
      List.length_nil] at ih ⊢
    omega

/-- A run that returns has had all transitions accepted if and only if a
transition gives up first, which throws, or every call that does not throw
is answered with success. -/
theorem returnsOnlyIfUp_iff (first second : LifecycleTransition) (retries : Int)
    (nodeNames : List String) :
    ReturnsOnlyIfUp first second retries nodeNames
        (transitionNodes replies serviceCallTimeout first second retries nodeNames) ↔
      GivesUp (CallFails replies serviceCallTimeout) retries.toNat (2 * nodeNames.length) ∨
        AllSucceed replies serviceCallTimeout (2 * nodeNames.length) := by
  have hrun := @transitionNodes_spec replies serviceCallTimeout first second retries nodeNames
    [] [] .nil
  unfold ReturnsOnlyIfUp
  cases h : (transitionNodes replies serviceCallTimeout first second retries nodeNames).run [] with
  | error e calls =>
    rw [h] at hrun
    simp only [List.length_nil, Nat.zero_add] at hrun
    simp [hrun]
  | ok u calls =>
    rw [h] at hrun
    have hserved : Served replies serviceCallTimeout retries.toNat
      (transitionsOf first second nodeNames) calls := hrun
    have hgivesUp := hserved.done.not_givesUp
    have hsucceed := hserved.allSucceed_iff
    rw [length_transitionsOf] at hgivesUp hsucceed
    simp only [hgivesUp, false_or, hsucceed]
    exact ⟨hserved.succeed_of_allAccepted, hserved.allAccepted⟩

end Runs

/-- **A run that returns has brought all nodes up, or down, exactly when a
transition gives up first or no call that counts is refused.** -/
theorem returns_only_if_up (replies : Nat → Reply) (serviceCallTimeout : Int)
    (nodeNames : List String) (retries : Int) :
    (ReturnsOnlyIfUp .configure .activate retries nodeNames
        (startupLifecycleNodes replies serviceCallTimeout nodeNames retries) ↔
      GivesUp (CallFails replies serviceCallTimeout) retries.toNat (2 * nodeNames.length) ∨
        AllSucceed replies serviceCallTimeout (2 * nodeNames.length)) ∧
    (ReturnsOnlyIfUp .deactivate .cleanup retries nodeNames
        (resetLifecycleNodes replies serviceCallTimeout nodeNames retries) ↔
      GivesUp (CallFails replies serviceCallTimeout) retries.toNat (2 * nodeNames.length) ∨
        AllSucceed replies serviceCallTimeout (2 * nodeNames.length)) :=
  ⟨returnsOnlyIfUp_iff .configure .activate retries nodeNames,
    returnsOnlyIfUp_iff .deactivate .cleanup retries nodeNames⟩

/-- A node that refuses both transitions counts as started. -/
theorem refusing_node_counts_as_started :
    ¬ ReturnsOnlyIfUp .configure .activate 3 ["planner_server"]
      (startupLifecycleNodes (fun _ => .answered false) 10 ["planner_server"] 3) := by
  intro h
  have haccepted : AllAccepted 3 _ _ := h
  have hle := haccepted.le_countP
  revert hle
  decide

end Nav3D.Util.LifecycleUtils

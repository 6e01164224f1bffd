/-
Nav3D.BehaviorTree.LoadTree — `BtActionServer::loadBehaviorTree` with the
tree that it loads, the topic logger and the Groot monitor
(`bt_action_server_impl.hpp`, `behavior_tree_engine.cpp`).

A call changes three members at different points. The Groot monitor is
dropped before the file is opened, the tree is replaced before the
blackboards of its subtrees are filled, and the name of the file is
remembered at the end. A call that fails in between leaves a tree under the
name of another, and a later call for that name takes it for loaded
(`half_loaded_tree_runs`). `loads_all_or_nothing` says which calls do all or
nothing.

What the file and the steps of the call do is an argument (`FileLoad`). The
calls come between `on_configure()` and `on_cleanup()`, which forgets the
name and the monitor and keeps the tree.
Each tree that is created has its own number, so that a tree is told from
another one of the same file.
-/
import Nav3D.BehaviorTree.BtActionServer
import Nav3D.Lib.Transition

namespace Nav3D.BehaviorTree

open Transition

/-! ## Trees -/

/-- What is set on the blackboard of a subtree: the node, or a time in
milliseconds. -/
inductive SubtreeValue where
  | clientNode
  | milliseconds (ms : Int)
  deriving DecidableEq

/-- `tree_`, with the entries that have been set in each subtree. -/
structure LoadedTree where
  id : Nat
  file : String
  subtrees : List (List (String × SubtreeValue))
  deriving DecidableEq

/-- The members that the call reads. -/
structure LoadParams extends BtActionServerParams where
  enableGrootMonitoring : Bool
  defaultServerTimeout : Int
  btLoopDuration : Int
  waitForServiceTimeout : Int

/-- The entries of a subtree. -/
def LoadParams.entries (params : LoadParams) : List (String × SubtreeValue) :=
  [("node", .clientNode), ("server_timeout", .milliseconds params.defaultServerTimeout),
    ("bt_loop_duration", .milliseconds params.btLoopDuration),
    ("wait_for_service_timeout", .milliseconds params.waitForServiceTimeout)]

/-- What the steps of one call do with its file. -/
structure FileLoad where
  /-- The file can be opened. -/
  readable : Bool
  /-- `createTreeFromFile`: the number of subtrees, or an exception. -/
  createTree : Except String Nat
  /-- Whether setting an entry of a subtree throws. -/
  setThrows : Nat → String → Option String
  /-- Whether the constructor of the topic logger throws. -/
  topicLoggerThrows : Option String
  /-- Whether `addGrootMonitoring` throws. -/
  monitorThrows : Option String

/-- `BtActionServer`, the members that the call changes. Logger and monitor
are given by the number of their tree; `created` counts the trees. -/
structure TreeServer extends BtActionServer where
  tree : Option LoadedTree
  topicLogger : Option Nat
  grootMonitor : Option Nat
  created : Nat
  deriving DecidableEq

/-- The server before the first call. -/
def TreeServer.initial : TreeServer where
  toBtActionServer := .initial
  tree := none
  topicLogger := none
  grootMonitor := none
  created := 0

def TreeServer.setInternalError (s : TreeServer) (code : UInt16) (msg : String) : TreeServer :=
  { s with toBtActionServer := s.toBtActionServer.setInternalError code msg }

/-! ## The call -/

/-- Set the entries of one subtree, up to the one that throws. -/
def setEntries (throws : String → Option String) :
    List (String × SubtreeValue) → List (String × SubtreeValue) × Option String
  | [] => ([], none)
  | entry :: entries =>
    match throws entry.1 with
    | some what => ([], some what)
    | none =>
      let (done, thrown) := setEntries throws entries
      (entry :: done, thrown)

/-- The loop over the subtrees from subtree `i`, `n` of which are left. -/
def setSubtrees (throws : Nat → String → Option String) (entries : List (String × SubtreeValue)) :
    Nat → Nat → List (List (String × SubtreeValue)) × Option String
  | _, 0 => ([], none)
  | i, n + 1 =>
    match setEntries (throws i) entries with
    | (done, some what) => (done :: List.replicate n [], some what)
    | (done, none) =>
      let (rest, thrown) := setSubtrees throws entries (i + 1) n
      (done :: rest, thrown)

/-- `filename`. -/
def LoadParams.filename (params : LoadParams) (btXmlFilename : String) : String :=
  if btXmlFilename = "" then params.defaultBtXmlFilename else btXmlFilename

/-- The file is taken for loaded. -/
def LoadParams.TakenForLoaded (params : LoadParams) (s : TreeServer) (filename : String) : Prop :=
  params.alwaysReloadBtXml = false ∧ s.currentBtXmlFilename = filename

instance (params : LoadParams) (s : TreeServer) (filename : String) :
    Decidable (params.TakenForLoaded s filename) := inferInstanceAs (Decidable (_ ∧ _))

/-- `std::ifstream` opens the file. No file has the empty name. -/
def FileLoad.opens (x : FileLoad) (filename : String) : Bool := x.readable && filename != ""

/-- `loadBehaviorTree(bt_xml_filename)`: what it returns, or the exception
that leaves it. -/
def loadTree (params : LoadParams) (x : FileLoad) (s : TreeServer) (btXmlFilename : String) :
    Except String Bool × TreeServer :=
  let filename := params.filename btXmlFilename
  if params.TakenForLoaded s filename then (.ok true, s)
  else
    let s := { s with grootMonitor := none }
    if x.opens filename = false then
      (.ok false,
        s.setInternalError failedToLoadBehaviorTree ("Couldn't open input XML file: " ++ filename))
    else
      match x.createTree with
      | .error what =>
        (.ok false,
          s.setInternalError failedToLoadBehaviorTree ("Exception when loading BT: " ++ what))
      | .ok n =>
        let (subtrees, thrown) := setSubtrees x.setThrows params.entries 0 n
        let s := { s with tree := some ⟨s.created, filename, subtrees⟩, created := s.created + 1 }
        match thrown with
        | some what =>
          (.ok false,
            s.setInternalError failedToLoadBehaviorTree ("Exception when loading BT: " ++ what))
        | none =>
          match x.topicLoggerThrows with
          | some what => (.error what, s)
          | none =>
            let s := { s with
              topicLogger := s.tree.map LoadedTree.id
              currentBtXmlFilename := filename }
            if params.enableGrootMonitoring then
              match x.monitorThrows with
              | some what => (.error what, s)
              | none => (.ok true, { s with grootMonitor := s.tree.map LoadedTree.id })
            else (.ok true, s)

/-! ## Runs -/

/-- One call. -/
structure LoadCall where
  btXmlFilename : String
  load : FileLoad

def LoadCall.result (params : LoadParams) (s : TreeServer) (call : LoadCall) :
    Except String Bool × TreeServer :=
  loadTree params call.load s call.btXmlFilename

/-- The server with what `on_configure()` and `setGrootMonitoring()` have
set, as long as it has an engine. -/
structure ManagedServer where
  server : TreeServer
  configured : Option LoadParams

inductive LoadLabel where
  /-- `on_configure()` of a server without an engine, and
  `setGrootMonitoring()`. -/
  | configure (params : LoadParams)
  | load (call : LoadCall)
  /-- `on_cleanup()`. -/
  | cleanup

/-- What `on_cleanup()` leaves. -/
def TreeServer.cleanup (s : TreeServer) : TreeServer :=
  { s with currentBtXmlFilename := "", topicLogger := none, grootMonitor := none }

/-- A call without an engine and one of `on_cleanup()` use a null pointer. -/
def managedStep (s : ManagedServer) : LoadLabel → Option ManagedServer
  | .configure params =>
    match s.configured with
    | none => some { s with configured := some params }
    | some _ => none
  | .load call =>
    match s.configured with
    | none => none
    | some params => some { s with server := (call.result params s.server).2 }
  | .cleanup =>
    match s.configured with
    | none => none
    | some _ => some ⟨s.server.cleanup, none⟩

/-- Any sequence of calls. -/
def loadSystem : System ManagedServer LoadLabel where
  init := fun s => s = ⟨.initial, none⟩
  step := managedStep

/-! ## All or nothing -/

/-- The tree was created from the file, and all entries are set in each of
its subtrees. -/
def LoadedTree.Whole (params : LoadParams) (file : String) (tree : LoadedTree) : Prop :=
  tree.file = file ∧ ∀ subtree ∈ tree.subtrees, subtree = params.entries

/-- A call that returns true leaves the whole tree of its file, and any
other call leaves the tree, the name and the monitor. -/
def AllOrNothing (params : LoadParams) (s : TreeServer) (call : LoadCall) : Prop :=
  let s' := (call.result params s).2
  ((call.result params s).1 = .ok true →
    ∃ tree, s'.tree = some tree ∧ tree.Whole params (params.filename call.btXmlFilename)) ∧
  ((call.result params s).1 ≠ .ok true →
    s'.tree = s.tree ∧ s'.currentBtXmlFilename = s.currentBtXmlFilename ∧
      s'.grootMonitor = s.grootMonitor)

/-- The tree that is remembered is the one that is loaded. -/
def NameOfTree (params : LoadParams) (s : TreeServer) : Prop :=
  s.currentBtXmlFilename ≠ "" →
    ∃ tree, s.tree = some tree ∧ tree.Whole params s.currentBtXmlFilename

/-- Every step of the call succeeds. -/
structure FileLoad.Succeeds (params : LoadParams) (x : FileLoad) (filename : String) : Prop where
  opens : x.opens filename = true
  createTree : ∃ n, x.createTree = .ok n ∧
    ∀ i < n, ∀ entry ∈ params.entries, x.setThrows i entry.1 = none
  topicLogger : x.topicLoggerThrows = none
  monitor : params.enableGrootMonitoring = true → x.monitorThrows = none

/-- The call fails before it has a new tree. -/
def FileLoad.FailsEarly (x : FileLoad) (filename : String) : Prop :=
  x.opens filename = false ∨ ∃ what, x.createTree = .error what

/-- A call for the file that is remembered has a file. Any other call
succeeds, or it fails early and there is no monitor to be dropped. -/
def LoadsWhole (params : LoadParams) (s : TreeServer) (call : LoadCall) : Prop :=
  let filename := params.filename call.btXmlFilename
  if params.TakenForLoaded s filename then filename ≠ ""
  else
    call.load.Succeeds params filename ∨
      (call.load.FailsEarly filename ∧ s.grootMonitor = none)

/-! ## The subtrees -/

theorem setEntries_fst_of_none {throws : String → Option String}
    {entries : List (String × SubtreeValue)} (h : (setEntries throws entries).2 = none) :
    (setEntries throws entries).1 = entries := by
  induction entries with
  | nil => rfl
  | cons entry entries ih =>
    rw [setEntries] at h ⊢
    cases hthrows : throws entry.1 with
    | some what => simp [hthrows] at h
    | none =>
      simp only [hthrows] at h ⊢
      rw [ih h]

theorem setEntries_snd_eq_none_iff (throws : String → Option String)
    (entries : List (String × SubtreeValue)) :
    (setEntries throws entries).2 = none ↔ ∀ entry ∈ entries, throws entry.1 = none := by
  induction entries with
  | nil => simp [setEntries]
  | cons entry entries ih =>
    rw [setEntries, List.forall_mem_cons]
    cases hthrows : throws entry.1 with
    | some what => simp
    | none => simp [ih]

/-- If no entry throws, all entries are set in each subtree. -/
theorem setSubtrees_of_none {throws : Nat → String → Option String}
    {entries : List (String × SubtreeValue)} {i n : Nat}
    (h : (setSubtrees throws entries i n).2 = none) :
    ∀ subtree ∈ (setSubtrees throws entries i n).1, subtree = entries := by
  induction n generalizing i with
  | zero => simp [setSubtrees]
  | succ n ih =>
    rw [setSubtrees] at h ⊢
    cases hset : setEntries (throws i) entries with
    | mk done thrown =>
      cases thrown with
      | some what => simp [hset] at h
      | none =>
        have hdone : done = entries := by
          have hnone : (setEntries (throws i) entries).2 = none := by rw [hset]
          have hfst := setEntries_fst_of_none hnone
          rwa [hset] at hfst
        simp only [hset] at h ⊢
        intro subtree hsubtree
        rcases List.mem_cons.mp hsubtree with rfl | hrest
        · exact hdone
        · exact ih h subtree hrest

theorem setSubtrees_snd_eq_none_iff (throws : Nat → String → Option String)
    (entries : List (String × SubtreeValue)) (i n : Nat) :
    (setSubtrees throws entries i n).2 = none ↔
      ∀ k < n, ∀ entry ∈ entries, throws (i + k) entry.1 = none := by
  induction n generalizing i with
  | zero => simp [setSubtrees]
  | succ n ih =>
    have hfirst := setEntries_snd_eq_none_iff (throws i) entries
    have hsplit : (∀ k < n + 1, ∀ entry ∈ entries, throws (i + k) entry.1 = none) ↔
        (∀ entry ∈ entries, throws i entry.1 = none) ∧
          ∀ k < n, ∀ entry ∈ entries, throws (i + 1 + k) entry.1 = none := by
      constructor
      · intro h
        refine ⟨h 0 (by omega), fun k hk => ?_⟩
        have hindex : i + 1 + k = i + (k + 1) := by omega
        rw [hindex]
        exact h (k + 1) (by omega)
      · rintro ⟨hzero, hsucc⟩ k hk
        cases k with
        | zero => exact hzero
        | succ k =>
          have hindex : i + (k + 1) = i + 1 + k := by omega
          rw [hindex]
          exact hsucc k (by omega)
    rw [hsplit, ← hfirst, ← ih, setSubtrees]
    cases hset : setEntries (throws i) entries with
    | mk done thrown => cases thrown <;> simp

/-! ## One call -/

/-- The three ends of a call for a file that is not taken for loaded. -/
inductive LoadEnd (params : LoadParams) (x : FileLoad) (s : TreeServer) (filename : String) :
    Except String Bool × TreeServer → Prop
  | succeeds {s' : TreeServer} (hload : x.Succeeds params filename) (tree : LoadedTree)
      (htree : s'.tree = some tree) (hid : tree.id = s.created) (hwhole : tree.Whole params filename)
      (hname : s'.currentBtXmlFilename = filename) (hcreated : s'.created = s.created + 1) :
      LoadEnd params x s filename (.ok true, s')
  | failsEarly {s' : TreeServer} (hload : x.FailsEarly filename) (htree : s'.tree = s.tree)
      (hname : s'.currentBtXmlFilename = s.currentBtXmlFilename) (hmonitor : s'.grootMonitor = none)
      (hcreated : s'.created = s.created) : LoadEnd params x s filename (.ok false, s')
  | failsLate {s' : TreeServer} {r : Except String Bool} (hlate : ¬ x.FailsEarly filename)
      (hload : ¬ x.Succeeds params filename) (hr : r ≠ .ok true) (tree : LoadedTree)
      (htree : s'.tree = some tree) (hid : tree.id = s.created) :
      LoadEnd params x s filename (r, s')

theorem loadEnd (params : LoadParams) (x : FileLoad) (s : TreeServer) {btXmlFilename : String}
    (h : ¬ params.TakenForLoaded s (params.filename btXmlFilename)) :
    LoadEnd params x s (params.filename btXmlFilename) (loadTree params x s btXmlFilename) := by
  rw [loadTree]
  generalize params.filename btXmlFilename = filename at h ⊢
  simp only [if_neg h]
  cases hopens : x.opens filename with
  | false => exact .failsEarly (.inl hopens) rfl rfl rfl rfl
  | true =>
    cases hcreate : x.createTree with
    | error what => exact .failsEarly (.inr ⟨what, hcreate⟩) rfl rfl rfl rfl
    | ok n =>
      have hlate : ¬ x.FailsEarly filename := by
        rintro (hnot | ⟨what, hthrown⟩)
        · rw [hopens] at hnot
          cases hnot
        · rw [hcreate] at hthrown
          cases hthrown
      have hsets : x.Succeeds params filename →
          (setSubtrees x.setThrows params.entries 0 n).2 = none := by
        rintro ⟨-, ⟨m, hm, hall⟩, -, -⟩
        rw [hcreate] at hm
        cases hm
        refine (setSubtrees_snd_eq_none_iff x.setThrows params.entries 0 n).mpr fun k hk => ?_
        rw [Nat.zero_add]
        exact hall k hk
      cases hthrown : (setSubtrees x.setThrows params.entries 0 n).2 with
      | some what =>
        -- the new tree is there, with some of its entries
        simp only [hthrown]
        refine .failsLate hlate (fun hload => ?_) (by simp) _ rfl rfl
        rw [hsets hload] at hthrown
        cases hthrown
      | none =>
        have hwhole : LoadedTree.Whole params filename
            ⟨s.created, filename, (setSubtrees x.setThrows params.entries 0 n).1⟩ :=
          ⟨rfl, setSubtrees_of_none hthrown⟩
        simp only [hthrown]
        cases hlogger : x.topicLoggerThrows with
        | some what =>
          refine .failsLate hlate (fun hload => ?_) (by simp) _ rfl rfl
          rw [hload.topicLogger] at hlogger
          cases hlogger
        | none =>
          have hcreated : ∃ n, x.createTree = .ok n ∧
              ∀ i < n, ∀ entry ∈ params.entries, x.setThrows i entry.1 = none := by
            refine ⟨n, hcreate, fun i hi => ?_⟩
            have hall :=
              (setSubtrees_snd_eq_none_iff x.setThrows params.entries 0 n).mp hthrown i hi
            rwa [Nat.zero_add] at hall
          cases henable : params.enableGrootMonitoring with
          | false =>
            have hload : x.Succeeds params filename :=
              ⟨hopens, hcreated, hlogger, fun h => by rw [henable] at h; cases h⟩
            exact .succeeds hload _ rfl rfl hwhole rfl rfl
          | true =>
            cases hmonitor : x.monitorThrows with
            | some what =>
              refine .failsLate hlate (fun hload => ?_) (by simp) _ rfl rfl
              rw [hload.monitor henable] at hmonitor
              cases hmonitor
            | none =>
              exact .succeeds ⟨hopens, hcreated, hlogger, fun _ => hmonitor⟩ _ rfl rfl hwhole rfl
                rfl

/-! ## Every call -/

/-- What every state that is reached is like. -/
structure LoadInv (params : LoadParams) (s : TreeServer) : Prop where
  named : NameOfTree params s
  /-- The trees are numbered in the order of their creation. -/
  older : ∀ tree, s.tree = some tree → tree.id < s.created
  /-- No tree comes from the empty name. -/
  file : ∀ tree, s.tree = some tree → tree.file ≠ ""

theorem result_of_taken {params : LoadParams} {s : TreeServer} {call : LoadCall}
    (h : params.TakenForLoaded s (params.filename call.btXmlFilename)) :
    call.result params s = (.ok true, s) := by
  rw [LoadCall.result, loadTree]
  exact if_pos h

theorem loadInv_step {params : LoadParams} {s : TreeServer} (h : LoadInv params s) {call : LoadCall}
    (hcall : LoadsWhole params s call) : LoadInv params (call.result params s).2 := by
  by_cases htaken : params.TakenForLoaded s (params.filename call.btXmlFilename)
  · rw [result_of_taken htaken]
    exact h
  rw [LoadsWhole, if_neg htaken] at hcall
  have hend := loadEnd params call.load s htaken
  rw [LoadCall.result]
  generalize loadTree params call.load s call.btXmlFilename = result at hend ⊢
  cases hend with
  | succeeds hload tree htree hid hwhole hname hcreated =>
    have hopens : params.filename call.btXmlFilename ≠ "" := by
      have := hload.opens
      simp only [FileLoad.opens, Bool.and_eq_true, bne_iff_ne] at this
      exact this.2
    refine ⟨fun _ => ⟨tree, htree, by rw [hname]; exact hwhole⟩, ?_, ?_⟩
    · intro tree' htree'
      rw [htree] at htree'
      cases htree'
      rw [hid]
      exact hcreated ▸ Nat.lt_succ_self s.created
    · intro tree' htree'
      rw [htree] at htree'
      cases htree'
      rw [hwhole.1]
      exact hopens
  | failsEarly hload htree hname hmonitor hcreated =>
    refine ⟨?_, ?_, ?_⟩
    · rw [NameOfTree, htree, hname]
      exact h.named
    · rw [htree, hcreated]
      exact h.older
    · rw [htree]
      exact h.file
  | failsLate hlate hload hr tree htree hid =>
    rcases hcall with hsucceeds | ⟨hearly, -⟩
    · exact absurd hsucceeds hload
    · exact absurd hearly hlate

theorem FileLoad.Succeeds.not_failsEarly {params : LoadParams} {x : FileLoad} {filename : String}
    (h : x.Succeeds params filename) : ¬ x.FailsEarly filename := by
  rintro (hnot | ⟨what, hthrown⟩)
  · rw [h.opens] at hnot
    cases hnot
  · obtain ⟨n, hcreate, -⟩ := h.createTree
    rw [hcreate] at hthrown
    cases hthrown

/-- A call does all or nothing exactly if it meets the condition. -/
theorem allOrNothing_iff {params : LoadParams} {s : TreeServer} (h : LoadInv params s)
    (call : LoadCall) : AllOrNothing params s call ↔ LoadsWhole params s call := by
  by_cases htaken : params.TakenForLoaded s (params.filename call.btXmlFilename)
  · rw [AllOrNothing, result_of_taken htaken, LoadsWhole, if_pos htaken]
    constructor
    · rintro ⟨htrue, -⟩
      obtain ⟨tree, htree, hwhole⟩ := htrue rfl
      rw [← hwhole.1]
      exact h.file tree htree
    · intro hne
      have hnamed := h.named
      rw [NameOfTree, htaken.2] at hnamed
      exact ⟨fun _ => hnamed hne, fun hnot => absurd rfl hnot⟩
  rw [LoadsWhole, if_neg htaken, AllOrNothing, LoadCall.result]
  have hend := loadEnd params call.load s htaken
  generalize loadTree params call.load s call.btXmlFilename = result at hend ⊢
  cases hend with
  | succeeds hload tree htree hid hwhole hname hcreated =>
    exact ⟨fun _ => .inl hload,
      fun _ => ⟨fun _ => ⟨tree, htree, hwhole⟩, fun hnot => absurd rfl hnot⟩⟩
  | failsEarly hload htree hname hmonitor hcreated =>
    constructor
    · rintro ⟨-, hkept⟩
      obtain ⟨-, -, hnone⟩ := hkept (by simp)
      exact .inr ⟨hload, hnone.symm.trans hmonitor⟩
    · rintro (hsucceeds | ⟨-, hnone⟩)
      · exact absurd hload hsucceeds.not_failsEarly
      · exact ⟨fun htrue => by simp at htrue, fun _ => ⟨htree, hname, hmonitor.trans hnone.symm⟩⟩
  | failsLate hlate hload hr tree htree hid =>
    constructor
    · rintro ⟨-, hkept⟩
      -- the tree is a new one
      have hold := h.older tree ((hkept hr).1.symm.trans htree)
      rw [hid] at hold
      exact absurd hold (Nat.lt_irrefl _)
    · rintro (hsucceeds | ⟨hearly, -⟩)
      · exact absurd hsucceeds hload
      · exact absurd hearly hlate

/-- A server that has forgotten the name is as good for any parameters. -/
theorem LoadInv.cleanup {params : LoadParams} {s : TreeServer} (h : LoadInv params s)
    (params' : LoadParams) : LoadInv params' s.cleanup where
  named hname := absurd rfl hname
  older := h.older
  file := h.file

/-- The condition of a run: that of each of its calls. -/
def LoadsStep (s : ManagedServer) : LoadLabel → Prop
  | .load call => ∀ params, s.configured = some params → LoadsWhole params s.server call
  | _ => True

/-- Without an engine there is no name that the next parameters could be
wrong for. -/
def ManagedInv (s : ManagedServer) : Prop :=
  match s.configured with
  | some params => LoadInv params s.server
  | none => ∀ params, LoadInv params s.server

theorem managedInv_of_reach {s : ManagedServer} (h : loadSystem.Reach LoadsStep s) :
    ManagedInv s := by
  refine h.invariant ManagedInv ?_ ?_
  · rintro s rfl params
    exact ⟨fun hne => absurd rfl hne, by simp [TreeServer.initial], by simp [TreeServer.initial]⟩
  · rintro ⟨server, configured⟩ l s' hs hcall hstep
    cases l with
    | configure params =>
      cases configured with
      | none =>
        cases hstep
        exact hs params
      | some _ => cases hstep
    | load call =>
      cases configured with
      | none => cases hstep
      | some params =>
        cases hstep
        exact loadInv_step hs (hcall params rfl)
    | cleanup =>
      cases configured with
      | none => cases hstep
      | some params =>
        cases hstep
        exact LoadInv.cleanup hs

/-- **All or nothing.** In every run of calls, configurations and clean-ups
whose calls all meet the condition, the file that is remembered is the file
of the loaded tree, and a call does all or nothing exactly if it meets the
condition. -/
theorem loads_all_or_nothing {s : ManagedServer} (h : loadSystem.Reach LoadsStep s)
    {params : LoadParams} (hparams : s.configured = some params) :
    NameOfTree params s.server ∧
      ∀ call, AllOrNothing params s.server call ↔ LoadsWhole params s.server call := by
  have hinv := managedInv_of_reach h
  rw [ManagedInv, hparams] at hinv
  exact ⟨hinv.named, allOrNothing_iff hinv⟩

/-- Every step of a call succeeds, for a tree of one subtree. -/
def wholeFile : FileLoad where
  readable := true
  createTree := .ok 1
  setThrows := fun _ _ => none
  topicLoggerThrows := none
  monitorThrows := none

/-- The second entry cannot be set. -/
def halfFile : FileLoad :=
  { wholeFile with
    setThrows := fun _ key => if key = "server_timeout" then some "type mismatch" else none }

def exampleParams : LoadParams where
  defaultBtXmlFilename := "default.xml"
  alwaysReloadBtXml := false
  enableGrootMonitoring := false
  defaultServerTimeout := 20
  btLoopDuration := 10
  waitForServiceTimeout := 1000

theorem wholeFile_succeeds (params : LoadParams) {filename : String} (h : filename ≠ "") :
    wholeFile.Succeeds params filename where
  opens := by simp [FileLoad.opens, wholeFile, h]
  createTree := ⟨1, rfl, fun _ _ _ _ => rfl⟩
  topicLogger := rfl
  monitor _ := rfl

/-- The server after it has loaded the default file. -/
def afterDefault : TreeServer := (LoadCall.result exampleParams .initial ⟨"", wholeFile⟩).2

theorem reach_afterDefault :
    loadSystem.Reach LoadsStep ⟨afterDefault, some exampleParams⟩ := by
  have hcall : LoadsStep ⟨.initial, some exampleParams⟩ (.load ⟨"", wholeFile⟩) := by
    rintro params ⟨rfl⟩
    exact .inl (wholeFile_succeeds exampleParams (by decide))
  have hconfigured : loadSystem.Reach LoadsStep ⟨.initial, some exampleParams⟩ :=
    .step (l := .configure exampleParams) (.init rfl) trivial rfl
  exact .step (l := .load ⟨"", wholeFile⟩) hconfigured hcall rfl

/-- A file that cannot be opened. -/
def missingFile : FileLoad := { wholeFile with readable := false }

/-- After the default file and a failed load of another one, the default file
is still the one that is loaded, and a half-loadable file would break it. -/
theorem loads_all_or_nothing_missing : ∃ s : TreeServer,
    s.internalErrorCode = failedToLoadBehaviorTree ∧ s.currentBtXmlFilename = "default.xml" ∧
      NameOfTree exampleParams s ∧ AllOrNothing exampleParams s ⟨"default.xml", halfFile⟩ ∧
        ¬ AllOrNothing exampleParams s ⟨"b.xml", halfFile⟩ := by
  have hcall : LoadsStep ⟨afterDefault, some exampleParams⟩ (.load ⟨"a.xml", missingFile⟩) := by
    rintro params ⟨rfl⟩
    exact .inr ⟨.inl rfl, rfl⟩
  obtain ⟨hnamed, hiff⟩ := loads_all_or_nothing
    (.step (l := .load ⟨"a.xml", missingFile⟩) reach_afterDefault hcall rfl) rfl
  refine ⟨_, rfl, rfl, hnamed, (hiff _).mpr ?_, fun hall => ?_⟩
  · exact (by decide : "default.xml" ≠ "")
  · rcases (hiff _).mp hall with hload | ⟨hearly | ⟨what, hearly⟩, -⟩
    · obtain ⟨n, hn, hset⟩ := hload.createTree
      obtain rfl : 1 = n := Except.ok.inj hn
      have hthrows := hset 0 (by decide) ("server_timeout", .milliseconds 20) (by decide)
      cases hthrows
    · cases hearly
    · cases hearly

/-- The default file, then a file whose entries cannot all be set. -/
def halfLoaded : TreeServer := (LoadCall.result exampleParams afterDefault ⟨"b.xml", halfFile⟩).2

/-- The default file is taken for loaded, and the half-loaded tree of the
other file runs. -/
theorem half_loaded_tree_runs :
    ¬ ∀ (params : LoadParams) (s : ManagedServer), loadSystem.Reach System.anyStep s →
      s.configured = some params → ∀ call, AllOrNothing params s.server call := by
  intro hclaim
  have hconfigured : loadSystem.Reach System.anyStep ⟨.initial, some exampleParams⟩ :=
    .step (l := .configure exampleParams) (.init rfl) trivial rfl
  have hreach : loadSystem.Reach System.anyStep ⟨halfLoaded, some exampleParams⟩ :=
    .step (l := .load ⟨"b.xml", halfFile⟩)
      (.step (l := .load ⟨"", wholeFile⟩) hconfigured trivial rfl) trivial rfl
  obtain ⟨tree, htree, hfile, -⟩ :=
    (hclaim exampleParams _ hreach rfl ⟨"default.xml", wholeFile⟩).1 rfl
  have hother : (LoadCall.result exampleParams halfLoaded ⟨"default.xml", wholeFile⟩).2.tree.map
      LoadedTree.file = some "b.xml" := by decide
  rw [htree] at hother
  simp only [Option.map_some, Option.some.injEq] at hother
  rw [hother] at hfile
  exact absurd hfile (by decide)

/-! ## The call as the navigators see it -/

/-- What comes of the file, as far as `BtActionServer.loadBehaviorTree` is
concerned. -/
def FileLoad.xmlLoad (params : LoadParams) (x : FileLoad) (filename : String) : XmlLoad :=
  if x.opens filename = false then .unreadable
  else
    match x.createTree with
    | .error what => .throws what
    | .ok n =>
      match (setSubtrees x.setThrows params.entries 0 n).2 with
      | some what => .throws what
      | none => .created

/-- If the topic logger and the monitor do not throw, the call does to the
name and to the internal error what `loadBehaviorTree` says. -/
theorem loadTree_refines (params : LoadParams) {x : FileLoad} (hlogger : x.topicLoggerThrows = none)
    (hmonitor : x.monitorThrows = none) (s : TreeServer) (btXmlFilename : String) :
    ∃ loaded, (loadTree params x s btXmlFilename).1 = .ok loaded ∧
      s.toBtActionServer.loadBehaviorTree params.toBtActionServerParams
          (x.xmlLoad params (params.filename btXmlFilename)) btXmlFilename =
        (loaded, (loadTree params x s btXmlFilename).2.toBtActionServer) := by
  have hfilename : (if btXmlFilename.isEmpty then params.defaultBtXmlFilename else btXmlFilename) =
      params.filename btXmlFilename := by
    simp [LoadParams.filename, String.isEmpty_iff]
  simp only [loadTree, BtActionServer.loadBehaviorTree, hfilename]
  generalize params.filename btXmlFilename = filename
  by_cases htaken : params.TakenForLoaded s filename
  · simp [htaken, htaken.1, htaken.2]
  have htaken' : (!params.alwaysReloadBtXml && s.currentBtXmlFilename == filename) = false := by
    simpa [LoadParams.TakenForLoaded] using htaken
  simp only [if_neg htaken, htaken', FileLoad.xmlLoad, hlogger, hmonitor]
  cases x.opens filename with
  | false => exact ⟨false, rfl, rfl⟩
  | true =>
    cases x.createTree with
    | error what => exact ⟨false, rfl, rfl⟩
    | ok n =>
      cases hthrown : (setSubtrees x.setThrows params.entries 0 n).2 with
      | some what =>
        simp only [hthrown]
        exact ⟨false, rfl, rfl⟩
      | none =>
        simp only [hthrown]
        refine ⟨true, ?_⟩
        cases params.enableGrootMonitoring with
        | false => exact ⟨rfl, rfl⟩
        | true => exact ⟨rfl, rfl⟩

end Nav3D.BehaviorTree

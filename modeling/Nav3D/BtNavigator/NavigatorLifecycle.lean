/-
Nav3D.BtNavigator.NavigatorLifecycle — the lifecycle callbacks of the
navigator node (`bt_navigator.cpp`), of the navigators in it
(`behavior_tree_navigator.hpp`) and of their action servers
(`bt_action_server_impl.hpp`).

A navigator has an action server after its own `on_configure` has come so
far, and that has an engine `bt_` after its `on_configure` has. Both are
pointers that the later callbacks do not test; a null one that is used ends
in `crashed`. What is thrown and what the virtual `configure()`,
`activate()`, `deactivate()` and `cleanup()` return are arguments.
`LifecycleNode::on_error` returns SUCCESS, so an exception leads to
UNCONFIGURED. The transform buffer, the parameters and the shutdown of
rclcpp are left out.

A failed `on_configure` is cleaned up after, and that is where the null
pointers come from (`configure_crashes_iff`). Otherwise the servers are on
exactly while the node is ACTIVE (`servers_on_iff_active`).
-/
import Nav3D.Lib.ManagedNode

namespace Nav3D.BtNavigator.Lifecycle

open ManagedNode

/-! ## One navigator -/

/-- `BtActionServer`: whether there is a `bt_`, and whether `action_server_`
is active, if there is one. -/
structure BtServer where
  bt : Bool
  actionServer : Option Bool
  deriving DecidableEq

/-- A navigator by its `bt_action_server_`. -/
abbrev Navigator : Type := Option BtServer

/-- What becomes of one navigator in `on_configure`. -/
inductive ConfigureOutcome where
  /-- `get_plugin_type_param` or `createUniqueInstance` throws. -/
  | notCreated
  /-- `getDefaultBTFilepath` or the constructor of the server throws. -/
  | noServer
  /-- `BtActionServer::on_configure` throws, before or after it has made
  `action_server_`. -/
  | noEngine (actionServer : Bool)
  /-- `configure()` throws, or the blackboard. -/
  | throws
  | returns (ok : Bool)
  deriving DecidableEq

/-- What becomes of one in `on_activate`. -/
inductive ActivateOutcome where
  /-- `loadBehaviorTree` returns false. -/
  | notLoaded
  /-- An exception leaves `loadBehaviorTree`. -/
  | throws
  /-- The tree is loaded, and what `activate()` returns. -/
  | loaded (ok : Bool)
  deriving DecidableEq

/-- What the callbacks meet. The navigators are numbered as in
`navigators_`, in `configure` as in the parameter `navigators`. -/
structure Answers where
  configure : List ConfigureOutcome
  activate : Nat → ActivateOutcome
  deactivate : Nat → Bool
  cleanup : Nat → Bool

/-- What a call of a navigator comes to. -/
inductive CallResult where
  | returned (ok : Bool)
  | threw
  | crashed
  deriving DecidableEq

/-- A server that has been configured. -/
def configuredServer : BtServer := ⟨true, some false⟩

/-- `BehaviorTreeNavigator::on_activate`. -/
def onActivate (outcome : ActivateOutcome) : Navigator → CallResult × Navigator
  | some ⟨true, some active⟩ =>
    match outcome with
    | .notLoaded => (.returned false, some ⟨true, some active⟩)
    | .throws => (.threw, some ⟨true, some active⟩)
    | .loaded ok => (.returned ok, some ⟨true, some true⟩)
  | nav => (.crashed, nav)

/-- `BehaviorTreeNavigator::on_deactivate`. -/
def onDeactivate (ok : Bool) : Navigator → CallResult × Navigator
  | some ⟨bt, some _⟩ => (.returned ok, some ⟨bt, some false⟩)
  | nav => (.crashed, nav)

/-- `BehaviorTreeNavigator::on_cleanup`: it halts the tree through `bt_`. -/
def onCleanup (ok : Bool) : Navigator → CallResult × Navigator
  | some ⟨true, _⟩ => (.returned ok, none)
  | nav => (.crashed, nav)

/-! ## The node -/

/-- The members of `BtNavigator`. -/
structure Members where
  navigators : List Navigator
  bond : Bool
  crashed : Bool

/-- The loop over `navigators_`, up to the first that does not return true. -/
def forNavigators (call : Nat → Navigator → CallResult × Navigator) :
    Nat → List Navigator → CallResult × List Navigator
  | _, [] => (.returned true, [])
  | i, nav :: rest =>
    match call i nav with
    | (.returned true, nav') =>
      ((forNavigators call (i + 1) rest).1, nav' :: (forNavigators call (i + 1) rest).2)
    | (result, nav') => (result, nav' :: rest)

/-- What `on_configure` has made of the navigators, and whether it has got
to the end, has been refused or has caught an exception. -/
inductive Configured where
  | all (navigators : List Navigator)
  | refused (navigators : List Navigator)
  | caught (navigators : List Navigator)

/-- The loop of `on_configure`. -/
def configureNavigators : List ConfigureOutcome → List Navigator → Configured
  | [], navs => .all navs
  | .notCreated :: _, navs => .caught navs
  | .noServer :: _, navs => .caught (navs ++ [none])
  | .noEngine actionServer :: _, navs =>
    .caught (navs ++ [some ⟨false, if actionServer then some false else none⟩])
  | .throws :: _, navs => .caught (navs ++ [some configuredServer])
  | .returns false :: _, navs => .refused (navs ++ [some configuredServer])
  | .returns true :: rest, navs => configureNavigators rest (navs ++ [some configuredServer])

/-- `BtNavigator::on_cleanup`. -/
def nodeCleanup (answers : Answers) (m : Members) : CallbackReturn × Members :=
  match forNavigators (fun i => onCleanup (answers.cleanup i)) 0 m.navigators with
  | (.returned true, _) => (.success, { m with navigators := [] })
  | (.returned false, navs) => (.failure, { m with navigators := navs })
  | (.threw, navs) => (.error, { m with navigators := navs })
  | (.crashed, navs) => (.error, { m with navigators := navs, crashed := true })

/-- `BtNavigator::on_configure`. -/
def nodeConfigure (answers : Answers) (m : Members) : CallbackReturn × Members :=
  match configureNavigators answers.configure m.navigators with
  | .all navs => (.success, { m with navigators := navs })
  | .refused navs => (.failure, { m with navigators := navs })
  | .caught navs => (.failure, (nodeCleanup answers { m with navigators := navs }).2)

/-- `BtNavigator::on_deactivate`. -/
def nodeDeactivate (answers : Answers) (m : Members) : CallbackReturn × Members :=
  match forNavigators (fun i => onDeactivate (answers.deactivate i)) 0 m.navigators with
  | (.returned true, navs) => (.success, { m with navigators := navs, bond := false })
  | (.returned false, navs) => (.failure, { m with navigators := navs })
  | (.threw, navs) => (.error, { m with navigators := navs })
  | (.crashed, navs) => (.error, { m with navigators := navs, crashed := true })

/-- `BtNavigator::on_activate`. `heartbeat` says that the period of the bond
is positive. -/
def nodeActivate (heartbeat : Bool) (answers : Answers) (m : Members) : CallbackReturn × Members :=
  match forNavigators (fun i => onActivate (answers.activate i)) 0 m.navigators with
  | (.returned true, navs) => (.success, { m with navigators := navs, bond := heartbeat })
  | (.returned false, navs) => (.failure, (nodeDeactivate answers { m with navigators := navs }).2)
  | (.threw, navs) => (.error, { m with navigators := navs })
  | (.crashed, navs) => (.error, { m with navigators := navs, crashed := true })

/-- The node. Nothing but transitions happens to these members. -/
def btNavigator (heartbeat : Bool) : Node Members Answers Empty where
  start := ⟨[], false, false⟩
  callback
    | .configure => nodeConfigure
    | .activate => nodeActivate heartbeat
    | .deactivate => nodeDeactivate
    | .cleanup => nodeCleanup
    | .shutdown => fun _ m => (.success, m)
  onError := fun m => (.success, m)
  other := nofun
  crashed := Members.crashed

/-! ## Loops over the navigators -/

/-- A navigator that its callbacks can be called on. -/
def Navigator.Complete (nav : Navigator) : Prop := ∃ active, nav = some ⟨true, some active⟩

def Navigator.On (nav : Navigator) : Prop := nav = some ⟨true, some true⟩

def Navigator.Off (nav : Navigator) : Prop := nav = some ⟨true, some false⟩

theorem Navigator.On.complete {nav : Navigator} (h : nav.On) : nav.Complete := ⟨true, h⟩

theorem Navigator.Off.complete {nav : Navigator} (h : nav.Off) : nav.Complete := ⟨false, h⟩

/-- Calls that return leave a loop that returns. When all return true, the
loop has made of each navigator what a call makes of it. -/
theorem forNavigators_returned {call : Nat → Navigator → CallResult × Navigator}
    {P Q R : Navigator → Prop} (hweaken : ∀ nav, P nav → Q nav) :
    ∀ {navs : List Navigator} (i : Nat), (∀ nav ∈ navs, P nav) →
    (∀ i nav, P nav → ∃ ok, (call i nav).1 = .returned ok ∧ Q (call i nav).2 ∧
      (ok = true → R (call i nav).2)) →
    ∃ ok, (forNavigators call i navs).1 = .returned ok ∧
      (∀ nav ∈ (forNavigators call i navs).2, Q nav) ∧
      (ok = true → ∀ nav ∈ (forNavigators call i navs).2, R nav)
  | [], _, _, _ => ⟨true, rfl, nofun, nofun⟩
  | nav :: rest, i, hnavs, hcall => by
    obtain ⟨hnav, hrest⟩ := List.forall_mem_cons.mp hnavs
    obtain ⟨ok, hok, hQ, hR⟩ := hcall i nav hnav
    obtain ⟨ok', hok', hQ', hR'⟩ := forNavigators_returned hweaken (i + 1) hrest hcall
    rcases hpair : call i nav with ⟨result, nav'⟩
    rw [hpair] at hok hQ hR
    obtain rfl : result = .returned ok := hok
    cases ok with
    | true =>
      simp only [forNavigators, hpair]
      exact ⟨ok', hok', List.forall_mem_cons.mpr ⟨hQ, hQ'⟩,
        fun h => List.forall_mem_cons.mpr ⟨hR rfl, hR' h⟩⟩
    | false =>
      simp only [forNavigators, hpair]
      exact ⟨false, rfl, List.forall_mem_cons.mpr ⟨hQ, fun nav h => hweaken nav (hrest nav h)⟩,
        nofun⟩

/-- Calls that all return true leave a loop that does. -/
theorem forNavigators_all {call : Nat → Navigator → CallResult × Navigator}
    {P R : Navigator → Prop}
    (hcall : ∀ i nav, P nav → (call i nav).1 = .returned true ∧ R (call i nav).2) :
    ∀ {navs : List Navigator} (i : Nat), (∀ nav ∈ navs, P nav) →
    (forNavigators call i navs).1 = .returned true ∧
      ∀ nav ∈ (forNavigators call i navs).2, R nav
  | [], _, _ => ⟨rfl, nofun⟩
  | nav :: rest, i, hnavs => by
    obtain ⟨hnav, hrest⟩ := List.forall_mem_cons.mp hnavs
    obtain ⟨hok, hR⟩ := hcall i nav hnav
    obtain ⟨hok', hR'⟩ := forNavigators_all hcall (i + 1) hrest
    rcases hpair : call i nav with ⟨result, nav'⟩
    rw [hpair] at hok hR
    obtain rfl : result = .returned true := hok
    simp only [forNavigators, hpair]
    exact ⟨hok', List.forall_mem_cons.mpr ⟨hR, hR'⟩⟩

/-- The loop reaches a navigator that the calls before it do not stop at,
and crashes there. -/
theorem forNavigators_crashed {call : Nat → Navigator → CallResult × Navigator}
    {last : Navigator} (hlast : ∀ i, (call i last).1 = .crashed) :
    ∀ {navs : List Navigator} (i : Nat),
    (∀ i, ∀ nav ∈ navs, (call i nav).1 = .returned true) →
    (forNavigators call i (navs ++ [last])).1 = .crashed
  | [], i, _ => by
    rcases hpair : call i last with ⟨result, nav'⟩
    obtain rfl : result = .crashed := by simpa [hpair] using hlast i
    simp [forNavigators, hpair]
  | nav :: rest, i, hnavs => by
    have hnav := hnavs i nav List.mem_cons_self
    have hrest := forNavigators_crashed hlast (i + 1)
      fun i nav h => hnavs i nav (List.mem_cons_of_mem _ h)
    rcases hpair : call i nav with ⟨result, nav'⟩
    obtain rfl : result = .returned true := by simpa [hpair] using hnav
    simp only [List.cons_append, forNavigators, hpair]
    exact hrest

/-! ## The callbacks on navigators that are complete -/

/-- The navigator is left without an engine. -/
def ConfigureOutcome.isEarly : ConfigureOutcome → Bool
  | .noServer => true
  | .noEngine _ => true
  | _ => false

/-- The first navigator that does not return true has no engine. -/
def FailsEarly (outcomes : List ConfigureOutcome) : Prop :=
  ∃ earlier o later, outcomes = earlier ++ o :: later ∧ (∀ x ∈ earlier, x = .returns true) ∧
    o.isEarly = true

theorem not_failsEarly_nil : ¬ FailsEarly [] := by
  rintro ⟨earlier, o, later, h, -⟩
  cases earlier <;> cases h

theorem failsEarly_cons (o : ConfigureOutcome) (rest : List ConfigureOutcome) :
    FailsEarly (o :: rest) ↔ o.isEarly = true ∨ (o = .returns true ∧ FailsEarly rest) := by
  constructor
  · rintro ⟨earlier, o', later, h, hearlier, hearly⟩
    cases earlier with
    | nil =>
      cases h
      exact .inl hearly
    | cons x earlier =>
      cases h
      obtain ⟨hx, hearlier⟩ := List.forall_mem_cons.mp hearlier
      exact .inr ⟨hx, earlier, o', later, rfl, hearlier, hearly⟩
  · rintro (hearly | ⟨rfl, earlier, o', later, rfl, hearlier, hearly⟩)
    · exact ⟨[], o, rest, rfl, nofun, hearly⟩
    · exact ⟨.returns true :: earlier, o', later, rfl,
        List.forall_mem_cons.mpr ⟨rfl, hearlier⟩, hearly⟩

theorem off_configuredServer : Navigator.Off (some configuredServer) := rfl

theorem off_append {navs : List Navigator} (h : ∀ nav ∈ navs, nav.Off) {nav : Navigator}
    (hnav : nav.Off) : ∀ nav' ∈ navs ++ [nav], nav'.Off := by
  intro nav' hmem
  rcases List.mem_append.mp hmem with hold | hnew
  · exact h nav' hold
  · rw [List.mem_singleton.mp hnew]
    exact hnav

/-- What the loop of `on_configure` leaves. -/
def Configured.navigators : Configured → List Navigator
  | .all navs => navs
  | .refused navs => navs
  | .caught navs => navs

/-- The loop of `on_configure`: all navigators are configured, or it has
caught an exception and the last one has no engine. -/
theorem configureNavigators_cases : ∀ (outcomes : List ConfigureOutcome) {navs : List Navigator},
    (∀ nav ∈ navs, nav.Off) →
    (¬ FailsEarly outcomes ∧ ∀ nav ∈ (configureNavigators outcomes navs).navigators, nav.Off) ∨
    (FailsEarly outcomes ∧ ∃ good last, configureNavigators outcomes navs = .caught (good ++ [last]) ∧
      (∀ nav ∈ good, nav.Off) ∧ ∀ ok, (onCleanup ok last).1 = .crashed)
  | [], navs, h => .inl ⟨not_failsEarly_nil, h⟩
  | o :: rest, navs, h => by
    rw [failsEarly_cons]
    cases o with
    | notCreated => exact .inl ⟨by simp [ConfigureOutcome.isEarly], h⟩
    | noServer => exact .inr ⟨.inl rfl, navs, none, rfl, h, fun _ => rfl⟩
    | noEngine actionServer => exact .inr ⟨.inl rfl, navs, _, rfl, h, fun _ => rfl⟩
    | throws =>
      exact .inl ⟨by simp [ConfigureOutcome.isEarly], off_append h off_configuredServer⟩
    | returns ok =>
      cases ok with
      | false => exact .inl ⟨by simp [ConfigureOutcome.isEarly], off_append h off_configuredServer⟩
      | true =>
        rcases configureNavigators_cases rest (off_append h off_configuredServer) with
          ⟨hnot, hoff⟩ | ⟨hearly, hcaught⟩
        · exact .inl ⟨by simpa [ConfigureOutcome.isEarly] using hnot, hoff⟩
        · exact .inr ⟨.inr ⟨rfl, hearly⟩, hcaught⟩

variable {answers : Answers} {m : Members}

theorem onCleanup_complete {nav : Navigator} (h : nav.Complete) (ok : Bool) :
    onCleanup ok nav = (.returned ok, none) := by
  obtain ⟨active, rfl⟩ := h
  rfl

/-- `on_cleanup` of complete navigators. -/
theorem nodeCleanup_complete (h : ∀ nav ∈ m.navigators, nav.Complete)
    (hok : ∀ i, answers.cleanup i = true) :
    nodeCleanup answers m = (.success, { m with navigators := [] }) := by
  have hall : ∀ i nav, Navigator.Complete nav →
      (onCleanup (answers.cleanup i) nav).1 = .returned true ∧
        (onCleanup (answers.cleanup i) nav).2 = none := by
    intro i nav hnav
    rw [onCleanup_complete hnav, hok i]
    exact ⟨rfl, rfl⟩
  have hloop :=
    (@forNavigators_all (fun i => onCleanup (answers.cleanup i)) _ (· = none) hall _ 0 h).1
  unfold nodeCleanup
  split
  · rfl
  · next heq => rw [heq] at hloop; cases hloop
  · next heq => rw [heq] at hloop; cases hloop
  · next heq => rw [heq] at hloop; cases hloop

/-- `on_deactivate` of complete navigators turns them all off. -/
theorem nodeDeactivate_complete (h : ∀ nav ∈ m.navigators, nav.Complete)
    (hok : ∀ i, answers.deactivate i = true) :
    ∃ navs, nodeDeactivate answers m = (.success, { m with navigators := navs, bond := false }) ∧
      ∀ nav ∈ navs, nav.Off := by
  have hall : ∀ i nav, Navigator.Complete nav →
      (onDeactivate (answers.deactivate i) nav).1 = .returned true ∧
        (onDeactivate (answers.deactivate i) nav).2.Off := by
    rintro i nav ⟨active, rfl⟩
    rw [hok i]
    exact ⟨rfl, rfl⟩
  obtain ⟨hloop, hoff⟩ := forNavigators_all hall 0 h
  refine ⟨_, ?_, hoff⟩
  unfold nodeDeactivate
  split
  · next heq => rw [heq]
  · next heq => rw [heq] at hloop; cases hloop
  · next heq => rw [heq] at hloop; cases hloop
  · next heq => rw [heq] at hloop; cases hloop

/-- `on_activate` turns all navigators on, or it fails and leaves them off. -/
theorem nodeActivate_off (heartbeat : Bool) (h : ∀ nav ∈ m.navigators, nav.Off)
    (hthrows : ∀ i, answers.activate i ≠ .throws) (hok : ∀ i, answers.deactivate i = true) :
    ∃ navs, (nodeActivate heartbeat answers m =
        (.success, { m with navigators := navs, bond := heartbeat }) ∧ ∀ nav ∈ navs, nav.On) ∨
      (nodeActivate heartbeat answers m =
        (.failure, { m with navigators := navs, bond := false }) ∧ ∀ nav ∈ navs, nav.Off) := by
  have hcall : ∀ i nav, Navigator.Off nav → ∃ ok,
      (onActivate (answers.activate i) nav).1 = .returned ok ∧
        (onActivate (answers.activate i) nav).2.Complete ∧
          (ok = true → (onActivate (answers.activate i) nav).2.On) := by
    rintro i nav rfl
    cases hout : answers.activate i with
    | notLoaded => exact ⟨false, rfl, ⟨false, rfl⟩, nofun⟩
    | throws => exact absurd hout (hthrows i)
    | loaded ok => exact ⟨ok, rfl, ⟨true, rfl⟩, fun _ => rfl⟩
  obtain ⟨ok, hloop, hcomplete, hon⟩ :=
    forNavigators_returned (fun _ => Navigator.Off.complete) 0 h hcall
  unfold nodeActivate
  split
  · next heq =>
    rw [heq] at hloop hon
    cases hloop
    exact ⟨_, .inl ⟨rfl, hon rfl⟩⟩
  · next navs heq =>
    rw [heq] at hcomplete
    obtain ⟨navs', heq', hoff⟩ :=
      nodeDeactivate_complete (m := { m with navigators := navs }) hcomplete hok
    rw [heq']
    exact ⟨navs', .inr ⟨rfl, hoff⟩⟩
  · next heq => rw [heq] at hloop; cases hloop
  · next heq => rw [heq] at hloop; cases hloop

/-- `on_configure` crashes exactly if it is left with a navigator without an
engine; if it does not, all navigators are off. -/
theorem nodeConfigure_off (h : ∀ nav ∈ m.navigators, nav.Off)
    (hok : ∀ i, answers.cleanup i = true) :
    (FailsEarly answers.configure ∧ (nodeConfigure answers m).2.crashed = true) ∨
    (¬ FailsEarly answers.configure ∧ ∃ ret navs, ret ≠ .error ∧
      nodeConfigure answers m = (ret, { m with navigators := navs }) ∧ ∀ nav ∈ navs, nav.Off) := by
  rcases configureNavigators_cases answers.configure h with ⟨hnot, hoff⟩ | ⟨hearly, hcaught⟩
  · refine .inr ⟨hnot, ?_⟩
    unfold nodeConfigure
    split
    · next navs heq =>
      rw [heq] at hoff
      exact ⟨.success, navs, by simp, rfl, hoff⟩
    · next navs heq =>
      rw [heq] at hoff
      exact ⟨.failure, navs, by simp, rfl, hoff⟩
    · next navs heq =>
      rw [heq] at hoff
      rw [nodeCleanup_complete (m := { m with navigators := navs })
        (fun nav hnav => (hoff nav hnav).complete) hok]
      exact ⟨.failure, [], by simp, rfl, nofun⟩
  · obtain ⟨good, last, heq, hgood, hlast⟩ := hcaught
    refine .inl ⟨hearly, ?_⟩
    have hloop := forNavigators_crashed (fun i => hlast (answers.cleanup i)) 0
      fun i nav hnav => by
        rw [onCleanup_complete (hgood nav hnav).complete, hok i]
    simp only [nodeConfigure, heq, nodeCleanup]
    split
    · next heq' => rw [heq'] at hloop; cases hloop
    · next heq' => rw [heq'] at hloop; cases hloop
    · next heq' => rw [heq'] at hloop; cases hloop
    · rfl

/-! ## Runs of the node -/

/-- Nothing is thrown at a navigator without an engine or in its
`on_activate`, and `deactivate()` and `cleanup()` return true, as those of
the two navigators do. -/
structure Answers.Ordinary (answers : Answers) : Prop where
  configure : ¬ FailsEarly answers.configure
  activate : ∀ i, answers.activate i ≠ .throws
  deactivate : ∀ i, answers.deactivate i = true
  cleanup : ∀ i, answers.cleanup i = true

/-- The steps of an ordinary run. -/
def OrdinaryStep (_ : Managed Members) : Label Answers Empty → Prop
  | .change _ answers => answers.Ordinary
  | .other _ => True

/-- The members in the states of an ordinary run. A node that is shut down
stays as it was. -/
def Sound (heartbeat : Bool) : State → Members → Prop
  | .active, m => m.crashed = false ∧ (∀ nav ∈ m.navigators, nav.On) ∧ m.bond = heartbeat
  | .finalized, m => m.crashed = false
  | _, m => m.crashed = false ∧ (∀ nav ∈ m.navigators, nav.Off) ∧ m.bond = false

theorem sound_of_reach {heartbeat : Bool} {s : Managed Members}
    (h : (btNavigator heartbeat).system.Reach OrdinaryStep s) :
    Sound heartbeat s.state s.members := by
  refine Node.invariant_of_reach h (Sound heartbeat) ⟨rfl, nofun, rfl⟩ ?_ (fun _ _ o => o.elim)
  intro st m t answers _ hlegal hordinary hsound
  have hok : answers.Ordinary := hordinary
  cases t with
  | configure =>
    cases st with
    | unconfigured =>
      obtain ⟨hcrashed, hoff, hbond⟩ := hsound
      rcases nodeConfigure_off hoff hok.cleanup with ⟨hearly, -⟩ | ⟨-, ret, navs, hret, heq, hnavs⟩
      · exact absurd hearly hok.configure
      · show Sound heartbeat (Node.settle _ _ _ (nodeConfigure answers m)).state _
        simp only [btNavigator, heq]
        cases ret with
        | success => exact ⟨hcrashed, hnavs, hbond⟩
        | failure => exact ⟨hcrashed, hnavs, hbond⟩
        | error => exact absurd rfl hret
    | _ => cases hlegal
  | activate =>
    cases st with
    | inactive =>
      obtain ⟨hcrashed, hoff, hbond⟩ := hsound
      simp only [btNavigator]
      obtain ⟨navs, ⟨heq, hnavs⟩ | ⟨heq, hnavs⟩⟩ :=
        nodeActivate_off heartbeat hoff hok.activate hok.deactivate
      · rw [heq]
        exact ⟨hcrashed, hnavs, rfl⟩
      · rw [heq]
        exact ⟨hcrashed, hnavs, rfl⟩
    | _ => cases hlegal
  | deactivate =>
    cases st with
    | active =>
      obtain ⟨hcrashed, hon, hbond⟩ := hsound
      obtain ⟨navs, heq, hnavs⟩ :=
        nodeDeactivate_complete (fun nav hnav => (hon nav hnav).complete) hok.deactivate
      simp only [btNavigator, heq]
      exact ⟨hcrashed, hnavs, rfl⟩
    | _ => cases hlegal
  | cleanup =>
    cases st with
    | inactive =>
      obtain ⟨hcrashed, hoff, hbond⟩ := hsound
      have heq := nodeCleanup_complete (fun nav hnav => (hoff nav hnav).complete) hok.cleanup
      simp only [btNavigator, heq]
      exact ⟨hcrashed, nofun, hbond⟩
    | _ => cases hlegal
  | shutdown =>
    cases st with
    | finalized => cases hlegal
    | _ => exact hsound.1

end Nav3D.BtNavigator.Lifecycle

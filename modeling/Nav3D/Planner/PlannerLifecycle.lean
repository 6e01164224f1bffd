/-
Nav3D.Planner.PlannerLifecycle — the lifecycle callbacks of the planner
server (`PlannerServer::on_configure` and the like, `planner_server.cpp`)
and the `is_path_valid` service, which is there from `on_configure` to
`on_cleanup`.

Here a callback is one step; `Nav3D.Planner.PlannerActivation` cuts
`on_activate` and `on_deactivate` for the action server. Which planners can
be loaded and whether one of them throws when it is turned on or off are
arguments. `LifecycleNode::on_error` returns SUCCESS, so an exception leads to
UNCONFIGURED. A pointer that is null, and the front of an empty vector, end in
`crashed` when they are used. The transform buffer and parameters of the
wrong type are left out.

`on_shutdown` does nothing, and an exception in `on_activate` is not cleaned
up after: those are the two ways to an action server that is on outside of
ACTIVE (`planner_on_iff_active`, `left_on`).
-/
import Nav3D.Lib.ManagedNode

namespace Nav3D.Planner.Lifecycle

open ManagedNode

/-! ## The node -/

/-- The members of `PlannerServer` that its callbacks change. A publisher and
an action server are there or not, and on or off; `planners` tells by id
whether a planner is active. -/
structure Members where
  planPublisher : Option Bool
  isPathValidSrv : Bool
  pathValidityPlannerId : String
  plannerIds : List String
  planners : List (String × Bool)
  actionServer : Option Bool
  bond : Bool
  crashed : Bool
  deriving DecidableEq

/-- What the callbacks meet. -/
structure Answers where
  plannerPlugins : List String
  pathValidityPlannerId : String
  /-- The planner is created and configured. -/
  loads : String → Bool
  /-- A planner throws when it is turned on or off, after these. -/
  throws : Option (String → Bool)

/-- `planners_.emplace(id, planner)`: an id that is there stays. -/
def emplace (id : String) (planners : List (String × Bool)) : List (String × Bool) :=
  if id ∈ planners.map Prod.fst then planners else planners ++ [(id, false)]

/-- The loop of `on_configure`, and whether it has got to the end. -/
def loadPlanners (loads : String → Bool) :
    List String → List (String × Bool) → Bool × List (String × Bool)
  | [], planners => (true, planners)
  | id :: rest, planners =>
    if loads id then loadPlanners loads rest (emplace id planners) else (false, planners)

/-- `PlannerServer::on_configure`. -/
def onConfigure (answers : Answers) (m : Members) : CallbackReturn × Members :=
  let m := { m with
    planPublisher := some false
    pathValidityPlannerId := answers.pathValidityPlannerId
    isPathValidSrv := true
    plannerIds := answers.plannerPlugins }
  if answers.plannerPlugins = [] then (.failure, m)
  else
    match loadPlanners answers.loads answers.plannerPlugins [] with
    | (false, planners) => (.failure, { m with planners := planners })
    | (true, planners) => (.success, { m with planners := planners, actionServer := some false })

/-- `PlannerServer::on_activate`. `heartbeat` says that the period of the
bond is positive. -/
def onActivate (heartbeat : Bool) (answers : Answers) (m : Members) : CallbackReturn × Members :=
  if m.planPublisher = none ∨ m.actionServer = none then (.error, { m with crashed := true })
  else
    let m := { m with planPublisher := some true, actionServer := some true }
    match answers.throws with
    | none => (.success, { m with
        planners := m.planners.map fun p => (p.1, true)
        bond := heartbeat })
    | some met => (.error, { m with planners := m.planners.map fun p => (p.1, p.2 || met p.1) })

/-- `PlannerServer::on_deactivate`. -/
def onDeactivate (answers : Answers) (m : Members) : CallbackReturn × Members :=
  if m.planPublisher = none ∨ m.actionServer = none then (.error, { m with crashed := true })
  else
    let m := { m with planPublisher := some false, actionServer := some false }
    match answers.throws with
    | none => (.success, { m with
        planners := m.planners.map fun p => (p.1, false)
        bond := false })
    | some met => (.error, { m with planners := m.planners.map fun p => (p.1, p.2 && !met p.1) })

/-- `PlannerServer::on_cleanup`. -/
def onCleanup (m : Members) : CallbackReturn × Members :=
  (.success, { m with
    actionServer := none
    planPublisher := none
    isPathValidSrv := false
    planners := []
    plannerIds := [] })

/-- A request to `is_path_valid`, up to the planner that is asked:
`planner_ids_.front()` is read if no other id is configured. -/
def isPathValid (emptyPath : Bool) (m : Members) : Members :=
  if m.isPathValidSrv = true ∧ emptyPath = false ∧ m.pathValidityPlannerId = "" ∧
    m.plannerIds = [] then { m with crashed := true }
  else m

/-- The node: transitions, and requests to the service by whether their path
is empty. -/
def plannerServer (heartbeat : Bool) : Node Members Answers Bool where
  start := ⟨none, false, "", [], [], none, false, false⟩
  callback
    | .configure => onConfigure
    | .activate => onActivate heartbeat
    | .deactivate => onDeactivate
    | .cleanup => fun _ => onCleanup
    | .shutdown => fun _ m => (.success, m)
  onError := fun m => (.success, m)
  other := isPathValid
  crashed := Members.crashed

/-! ## What the callbacks leave -/

/-- Publisher, action server and planners are there, and on or off. -/
structure Turned (on : Bool) (m : Members) : Prop where
  planPublisher : m.planPublisher = some on
  actionServer : m.actionServer = some on
  planners : ∀ p ∈ m.planners, p.2 = on

/-- The service finds a planner: the listed ids are registered, and there is
one. -/
structure Registered (m : Members) : Prop where
  isPathValidSrv : m.isPathValidSrv = true
  plannerIds : m.plannerIds ≠ []
  planners : ∀ id ∈ m.plannerIds, id ∈ m.planners.map Prod.fst

/-- Nothing is on. -/
structure AllOff (m : Members) : Prop where
  planPublisher : m.planPublisher ≠ some true
  actionServer : m.actionServer ≠ some true
  planners : ∀ p ∈ m.planners, p.2 = false

theorem mem_emplace_self (id : String) (planners : List (String × Bool)) :
    id ∈ (emplace id planners).map Prod.fst := by
  unfold emplace
  split
  · next h => exact h
  · simp

theorem emplace_subset {id : String} {planners : List (String × Bool)} {p : String × Bool}
    (h : p ∈ planners) : p ∈ emplace id planners := by
  unfold emplace
  split
  · exact h
  · exact List.mem_append_left _ h

theorem emplace_off {id : String} {planners : List (String × Bool)}
    (h : ∀ p ∈ planners, p.2 = false) : ∀ p ∈ emplace id planners, p.2 = false := by
  intro p hp
  unfold emplace at hp
  split at hp
  · exact h p hp
  · rcases List.mem_append.mp hp with hold | hnew
    · exact h p hold
    · rw [List.mem_singleton.mp hnew]

/-- The planners that are loaded are off, and all are there at the end. -/
theorem loadPlanners_spec (loads : String → Bool) :
    ∀ (ids : List String) {planners : List (String × Bool)}, (∀ p ∈ planners, p.2 = false) →
    (∀ p ∈ (loadPlanners loads ids planners).2, p.2 = false) ∧
      (∀ p ∈ planners, p ∈ (loadPlanners loads ids planners).2) ∧
      ((loadPlanners loads ids planners).1 = true →
        ∀ id ∈ ids, id ∈ (loadPlanners loads ids planners).2.map Prod.fst)
  | [], planners, h => ⟨h, fun _ hp => hp, fun _ => nofun⟩
  | id :: rest, planners, h => by
    simp only [loadPlanners]
    split
    · obtain ⟨hoff, hkept, hall⟩ := loadPlanners_spec loads rest (emplace_off h)
      refine ⟨hoff, fun p hp => hkept p (emplace_subset hp), fun hend => ?_⟩
      refine List.forall_mem_cons.mpr ⟨?_, hall hend⟩
      obtain ⟨p, hp, rfl⟩ := List.mem_map.mp (mem_emplace_self id planners)
      exact List.mem_map_of_mem (hkept p hp)
    · exact ⟨h, fun _ hp => hp, nofun⟩

variable {m : Members} {answers : Answers}

/-- `on_configure` succeeds with everything there and off, or fails with
nothing on. -/
theorem onConfigure_cases (answers : Answers) (hm : AllOff m) :
    ∃ ret m', onConfigure answers m = (ret, m') ∧ m'.bond = m.bond ∧ m'.crashed = m.crashed ∧
      (ret = .success ∧ Turned false m' ∧ Registered m' ∨ ret = .failure ∧ AllOff m') := by
  unfold onConfigure
  dsimp only
  split
  · exact ⟨_, _, rfl, rfl, rfl, .inr ⟨rfl, nofun, hm.actionServer, hm.planners⟩⟩
  · next hne =>
    have hnil : ∀ p ∈ ([] : List (String × Bool)), p.2 = false := nofun
    obtain ⟨hoff, -, hall⟩ := loadPlanners_spec answers.loads answers.plannerPlugins hnil
    split
    · next planners heq =>
      rw [heq] at hoff
      exact ⟨_, _, rfl, rfl, rfl, .inr ⟨rfl, nofun, hm.actionServer, hoff⟩⟩
    · next planners heq =>
      rw [heq] at hoff hall
      exact ⟨_, _, rfl, rfl, rfl, .inl ⟨rfl, ⟨rfl, rfl, hoff⟩, rfl, hne, hall rfl⟩⟩

theorem Turned.there {on : Bool} (h : Turned on m) :
    ¬ (m.planPublisher = none ∨ m.actionServer = none) := by
  rw [h.planPublisher, h.actionServer]
  simp

/-- `on_activate` and `on_deactivate` turn everything on and off. -/
theorem onActivate_turned (heartbeat : Bool) (h : Turned false m) (hthrows : answers.throws = none) :
    ∃ m', onActivate heartbeat answers m = (.success, m') ∧ Turned true m' ∧
      (Registered m → Registered m') ∧ m'.bond = heartbeat ∧ m'.crashed = m.crashed := by
  unfold onActivate
  rw [if_neg h.there, hthrows]
  refine ⟨_, rfl, ⟨rfl, rfl, ?_⟩, fun hreg => ⟨hreg.isPathValidSrv, hreg.plannerIds, ?_⟩, rfl, rfl⟩
  · intro p hp
    obtain ⟨_, -, rfl⟩ := List.mem_map.mp hp
    rfl
  · intro id hid
    simpa [Function.comp_def] using hreg.planners id hid

theorem onDeactivate_turned (h : Turned true m) (hthrows : answers.throws = none) :
    ∃ m', onDeactivate answers m = (.success, m') ∧ Turned false m' ∧
      (Registered m → Registered m') ∧ m'.bond = false ∧ m'.crashed = m.crashed := by
  unfold onDeactivate
  rw [if_neg h.there, hthrows]
  refine ⟨_, rfl, ⟨rfl, rfl, ?_⟩, fun hreg => ⟨hreg.isPathValidSrv, hreg.plannerIds, ?_⟩, rfl, rfl⟩
  · intro p hp
    obtain ⟨_, -, rfl⟩ := List.mem_map.mp hp
    rfl
  · intro id hid
    simpa [Function.comp_def] using hreg.planners id hid

/-- `on_configure` takes the parameters over and makes the service, whatever
it returns. -/
theorem onConfigure_params (answers : Answers) (m : Members) :
    (onConfigure answers m).2.plannerIds = answers.plannerPlugins ∧
      (onConfigure answers m).2.pathValidityPlannerId = answers.pathValidityPlannerId ∧
      (onConfigure answers m).2.isPathValidSrv = true ∧
      (onConfigure answers m).2.crashed = m.crashed := by
  unfold onConfigure
  dsimp only
  split
  · exact ⟨rfl, rfl, rfl, rfl⟩
  · split
    · exact ⟨rfl, rfl, rfl, rfl⟩
    · exact ⟨rfl, rfl, rfl, rfl⟩

theorem isPathValid_of_registered (h : Registered m) (emptyPath : Bool) :
    isPathValid emptyPath m = m :=
  if_neg fun hfatal => h.plannerIds hfatal.2.2.2

/-! ## Runs of the node -/

/-- No planner throws when it is turned on or off. -/
def NoneThrows (_ : Managed Members) : Label Answers Bool → Prop
  | .change _ answers => answers.throws = none
  | .other _ => True

/-- The members in the states of such a run. -/
def Sound (heartbeat : Bool) : State → Members → Prop
  | .active, m => m.crashed = false ∧ Turned true m ∧ Registered m ∧ m.bond = heartbeat
  | .inactive, m => m.crashed = false ∧ Turned false m ∧ Registered m ∧ m.bond = false
  | .unconfigured, m => AllOff m ∧ m.bond = false
  | .finalized, _ => True

theorem sound_of_reach {heartbeat : Bool} {s : Managed Members}
    (h : (plannerServer heartbeat).system.Reach NoneThrows s) :
    Sound heartbeat s.state s.members := by
  refine Node.invariant_of_reach h (Sound heartbeat) ⟨⟨nofun, nofun, nofun⟩, rfl⟩ ?_ ?_
  · intro st m t answers hrunning hlegal hnone hsound
    have hthrows : answers.throws = none := hnone
    have hcrashed : m.crashed = false := hrunning
    cases t with
    | configure =>
      cases st with
      | unconfigured =>
        obtain ⟨hoff, hbond⟩ := hsound
        obtain ⟨ret, m', heq, hbond', hcrashed', ⟨rfl, hturned, hreg⟩ | ⟨rfl, hoff'⟩⟩ :=
          onConfigure_cases answers hoff
        · simp only [plannerServer, heq]
          exact ⟨hcrashed'.trans hcrashed, hturned, hreg, hbond'.trans hbond⟩
        · simp only [plannerServer, heq]
          exact ⟨hoff', hbond'.trans hbond⟩
      | _ => cases hlegal
    | activate =>
      cases st with
      | inactive =>
        obtain ⟨-, hturned, hreg, -⟩ := hsound
        obtain ⟨m', heq, hturned', hreg', hbond', hcrashed'⟩ :=
          onActivate_turned heartbeat hturned hthrows
        simp only [plannerServer, heq]
        exact ⟨hcrashed'.trans hcrashed, hturned', hreg' hreg, hbond'⟩
      | _ => cases hlegal
    | deactivate =>
      cases st with
      | active =>
        obtain ⟨-, hturned, hreg, -⟩ := hsound
        obtain ⟨m', heq, hturned', hreg', hbond', hcrashed'⟩ := onDeactivate_turned hturned hthrows
        simp only [plannerServer, heq]
        exact ⟨hcrashed'.trans hcrashed, hturned', hreg' hreg, hbond'⟩
      | _ => cases hlegal
    | cleanup =>
      cases st with
      | inactive => exact ⟨⟨nofun, nofun, nofun⟩, hsound.2.2.2⟩
      | _ => cases hlegal
    | shutdown => exact trivial
  · intro st m emptyPath _ _ hsound
    cases st with
    | active =>
      obtain ⟨hcrashed, hturned, hreg, hbond⟩ := hsound
      simp only [plannerServer, isPathValid_of_registered hreg]
      exact ⟨hcrashed, hturned, hreg, hbond⟩
    | inactive =>
      obtain ⟨hcrashed, hturned, hreg, hbond⟩ := hsound
      simp only [plannerServer, isPathValid_of_registered hreg]
      exact ⟨hcrashed, hturned, hreg, hbond⟩
    | unconfigured =>
      obtain ⟨hoff, hbond⟩ := hsound
      simp only [plannerServer, isPathValid]
      split
      · exact ⟨⟨hoff.planPublisher, hoff.actionServer, hoff.planners⟩, hbond⟩
      · exact ⟨hoff, hbond⟩
    | finalized => exact trivial

/-- **On in ACTIVE.** In every run of transitions and requests, whichever
planners are listed and whichever of them can be loaded, as long as none
throws when it is turned on or off: in ACTIVE the publisher, the action
server and every planner are on and the bond is there. In INACTIVE they are
there, and everything is off, as it is in UNCONFIGURED. In ACTIVE and
INACTIVE every listed id has its planner. -/
theorem planner_on_iff_active {heartbeat : Bool} {s : Managed Members}
    (h : (plannerServer heartbeat).system.Reach NoneThrows s) :
    (s.state = .active →
      Turned true s.members ∧ Registered s.members ∧ s.members.bond = heartbeat) ∧
    (s.state = .inactive →
      Turned false s.members ∧ Registered s.members ∧ s.members.bond = false) ∧
    (s.state = .unconfigured → AllOff s.members ∧ s.members.bond = false) := by
  have hsound := sound_of_reach h
  obtain ⟨st, m⟩ := s
  cases st with
  | active => exact ⟨fun _ => hsound.2, nofun, nofun⟩
  | inactive => exact ⟨nofun, fun _ => hsound.2, nofun⟩
  | unconfigured => exact ⟨nofun, nofun, fun _ => hsound⟩
  | finalized => exact ⟨nofun, nofun, nofun⟩

/-- **What is left on.** A node that is shut down in ACTIVE is FINALIZED with
everything on. A planner that throws in `on_activate` leaves the node
UNCONFIGURED with the action server on, and without a bond. -/
theorem left_on {heartbeat : Bool} {s : Managed Members}
    (h : (plannerServer heartbeat).system.Reach NoneThrows s) (answers : Answers) :
    (s.state = .active → ∃ s', (plannerServer heartbeat).step s (.change .shutdown answers) =
      some s' ∧ s'.state = .finalized ∧ Turned true s'.members ∧ s'.members.bond = heartbeat) ∧
    (s.state = .inactive → answers.throws ≠ none →
      ∃ s', (plannerServer heartbeat).step s (.change .activate answers) = some s' ∧
        s'.state = .unconfigured ∧ s'.members.actionServer = some true ∧
          s'.members.bond = false) := by
  have hsound := sound_of_reach h
  obtain ⟨st, m⟩ := s
  constructor
  · rintro rfl
    obtain ⟨hcrashed, hturned, -, hbond⟩ := hsound
    exact ⟨_, if_pos ⟨hcrashed, rfl⟩, rfl, hturned, hbond⟩
  · rintro rfl hthrows
    obtain ⟨hcrashed, hturned, -, hbond⟩ := hsound
    obtain ⟨met, hmet⟩ := Option.ne_none_iff_exists'.mp hthrows
    refine ⟨_, if_pos ⟨hcrashed, rfl⟩, ?_⟩
    simp only [plannerServer, onActivate, if_neg hturned.there, hmet]
    exact ⟨rfl, rfl, hbond⟩

/-- **Requests to `is_path_valid`.** Wherever such a run has come to: in
ACTIVE and INACTIVE no request reads the first of no ids. After any
`on_configure` a request with poses does so exactly if no planner is listed
and no id is set for the checks: the service is made before the list is
tested, and a refused list leaves it there. -/
theorem request_crashes_iff {heartbeat : Bool} {s : Managed Members}
    (h : (plannerServer heartbeat).system.Reach NoneThrows s) (hrunning : s.members.crashed = false) :
    (s.state = .active ∨ s.state = .inactive →
      ∀ emptyPath, isPathValid emptyPath s.members = s.members) ∧
    (s.state = .unconfigured → ∀ answers,
      ∃ s', (plannerServer heartbeat).step s (.change .configure answers) = some s' ∧
        ((isPathValid false s'.members).crashed = true ↔
          answers.plannerPlugins = [] ∧ answers.pathValidityPlannerId = "")) := by
  have hsound := sound_of_reach h
  obtain ⟨st, m⟩ := s
  constructor
  · rintro (rfl | rfl) emptyPath
    · exact isPathValid_of_registered hsound.2.2.1 emptyPath
    · exact isPathValid_of_registered hsound.2.2.1 emptyPath
  · rintro rfl answers
    refine ⟨_, if_pos ⟨hrunning, rfl⟩, ?_⟩
    rw [Node.members_settle fun _ => rfl]
    obtain ⟨hids, hid, hsrv, hcrashed⟩ := onConfigure_params answers m
    have hnot : (onConfigure answers m).2.crashed = false := hcrashed.trans hrunning
    simp only [plannerServer, isPathValid, hids, hid, hsrv]
    constructor
    · intro hcrash
      by_contra hne
      rw [if_neg fun hfatal => hne ⟨hfatal.2.2.2, hfatal.2.2.1⟩, hnot] at hcrash
      cases hcrash
    · intro hempty
      rw [if_pos ⟨trivial, trivial, hempty.2, hempty.1⟩]

/-! ## A run -/

/-- One planner is listed and loaded. -/
def oneListed (throws : Option (String → Bool)) : Answers :=
  ⟨["GridBased"], "", fun _ => true, throws⟩

/-- The node is configured and activated. -/
theorem exists_activated :
    (plannerServer true).system.Reach NoneThrows
      ⟨.inactive, ⟨some false, true, "", ["GridBased"], [("GridBased", false)], some false, false,
        false⟩⟩ ∧
    (plannerServer true).system.Reach NoneThrows
      ⟨.active, ⟨some true, true, "", ["GridBased"], [("GridBased", true)], some true, true,
        false⟩⟩ := by
  have hnone : (oneListed none).throws = none := rfl
  have hinactive : (plannerServer true).system.Reach NoneThrows
      ⟨.inactive, ⟨some false, true, "", ["GridBased"], [("GridBased", false)], some false, false,
        false⟩⟩ :=
    .step (l := .change .configure (oneListed none)) (.init rfl) hnone rfl
  exact ⟨hinactive, .step (l := .change .activate (oneListed none)) hinactive hnone rfl⟩

theorem planner_on_iff_active_one :
    Turned true ⟨some true, true, "", ["GridBased"], [("GridBased", true)], some true, true, false⟩ ∧
    Turned false
      ⟨some false, true, "", ["GridBased"], [("GridBased", false)], some false, false, false⟩ :=
  ⟨((planner_on_iff_active exists_activated.2).1 rfl).1,
    ((planner_on_iff_active exists_activated.1).2.1 rfl).1⟩

/-- No planner is listed. -/
def noneListed : Answers := ⟨[], "", fun _ => true, none⟩

theorem request_crashes_iff_none : ∃ s', (plannerServer true).step
    ⟨.unconfigured, (plannerServer true).start⟩ (.change .configure noneListed) = some s' ∧
    (isPathValid false s'.members).crashed = true := by
  have hcreated : (plannerServer true).system.Reach NoneThrows
      ⟨.unconfigured, (plannerServer true).start⟩ := .init rfl
  obtain ⟨s', hstep, hiff⟩ := (request_crashes_iff hcreated rfl).2 rfl noneListed
  exact ⟨s', hstep, hiff.mpr ⟨rfl, rfl⟩⟩

end Nav3D.Planner.Lifecycle

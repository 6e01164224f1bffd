/-
Nav3D.BtNavigator.PlannedGoals — what the two action nodes of the default
tree do in a tick.

`ComputePathToPose` leaves {path} alone until a request has come to
something (`pathAt_move`), and as long as {goal} stays what it was when the
node was started, its requests are for {goal} (`plansAt_move`). `FollowPath`
hands the path on the blackboard over to its server in the tick that finds
it (`followPath_handsOver`), and the first goal that it sends is for the
path that it finds (`firstAt_move`).
-/
import Nav3D.BehaviorTree.ActionNodeHandOver
import Nav3D.BtNavigator.FollowPathUpdates

namespace Nav3D.BtNavigator

open Nav3D.Ros Nav3D.BehaviorTree StateInvariant Transition.System
open BT (NodeStatus StatusCell TreeNode leaf)

variable {Pose Path : Type}

abbrev ComputeNode (Pose Path : Type) :=
  ActionNode (ComputePathGoal Pose) (ComputePathResult Path) Unit (Blackboard Pose Path)

abbrev FollowNode (Pose Path : Type) :=
  ActionNode (FollowPathGoal Path) ErrorResult Unit (Blackboard Pose Path)

/-! ## Paths and the goals they were planned for -/

/-- `path` is the result of a planning request for `goal`. -/
def PlannedFor (rs : List (Request (ComputePathGoal Pose) (ComputePathResult Path))) (path : Path)
    (goal : Pose) : Prop :=
  ∃ (i : GoalId) (r : Request (ComputePathGoal Pose) (ComputePathResult Path)),
    rs[i]? = some r ∧ r.goal.goal = goal ∧ r.resultCode = .succeeded ∧
      ∃ result, r.result = some result ∧ result.path = path

/-- `path` is what `ComputePathToPose` makes of a request sent since `base`:
the path in the result, or the empty path if the request was canceled. -/
def ReportedSince [Inhabited Path] (base : Nat)
    (rs : List (Request (ComputePathGoal Pose) (ComputePathResult Path))) (path : Path) : Prop :=
  ∃ (i : Nat) (r : Request (ComputePathGoal Pose) (ComputePathResult Path)),
    base ≤ i ∧ rs[i]? = some r ∧
      ((r.resultCode = .succeeded ∧ ∃ result, r.result = some result ∧ result.path = path) ∨
        (r.resultCode = .canceled ∧ path = default))

section Paths

variable {rs rs' : List (Request (ComputePathGoal Pose) (ComputePathResult Path))} {path : Path}
  {goal : Pose}

theorem PlannedFor.grow (h : PlannedFor rs path goal) (hgrow : RequestsGrow rs rs') :
    PlannedFor rs' path goal := by
  obtain ⟨i, r, hr, hgoal, hcode, result, hresult, hpath⟩ := h
  obtain ⟨r', hr', hg⟩ := hgrow i r hr
  obtain ⟨hcode', hresult'⟩ := hg.resultCode (by rw [hcode]; exact ResultCode.noConfusion)
  exact ⟨i, r', hr', by rw [hg.goal]; exact hgoal, hcode'.trans hcode, result,
    hresult'.trans hresult, hpath⟩

variable [Inhabited Path] {base : Nat}

theorem ReportedSince.grow (h : ReportedSince base rs path) (hgrow : RequestsGrow rs rs') :
    ReportedSince base rs' path := by
  obtain ⟨i, r, hi, hr, hreported⟩ := h
  obtain ⟨r', hr', hg⟩ := hgrow i r hr
  refine ⟨i, r', hi, hr', ?_⟩
  rcases hreported with ⟨hcode, hresult⟩ | ⟨hcode, hpath⟩
  · obtain ⟨hcode', hresult'⟩ := hg.resultCode (by rw [hcode]; exact ResultCode.noConfusion)
    exact .inl ⟨hcode'.trans hcode, hresult' ▸ hresult⟩
  · obtain ⟨hcode', _⟩ := hg.resultCode (by rw [hcode]; exact ResultCode.noConfusion)
    exact .inr ⟨hcode'.trans hcode, hpath⟩

theorem ReportedSince.mono (h : ReportedSince base rs path) {base' : Nat} (hle : base' ≤ base) :
    ReportedSince base' rs path := by
  obtain ⟨i, r, hi, hr, hreported⟩ := h
  exact ⟨i, r, Nat.le_trans hle hi, hr, hreported⟩

/-- What has come of requests for `goal` is the empty path, or planned for
`goal`. -/
theorem ReportedSince.plannedFor (h : ReportedSince base rs path)
    (hgoal : ∀ (i : Nat) (r : Request (ComputePathGoal Pose) (ComputePathResult Path)),
      base ≤ i → rs[i]? = some r → r.goal.goal = goal) :
    path = default ∨ PlannedFor rs path goal := by
  obtain ⟨i, r, hi, hr, ⟨hcode, hresult⟩ | ⟨_, hpath⟩⟩ := h
  · exact .inr ⟨i, r, hr, hgoal i r hi hr, hcode, hresult⟩
  · exact .inl hpath

end Paths

/-- {path} on the blackboard that a node works with. -/
def nodePath {Goal Result Feedback : Type} [Inhabited Path]
    (n : ActionNode Goal Result Feedback (Blackboard Pose Path)) : Path :=
  n.hook.blackboard.path.getD default

/-- A result that is taken over with a code has the code of the request. -/
theorem resultCode_of_wrapResult {Goal Result : Type} {r : Request Goal Result} {expired : Bool}
    {code : ResultCode} (h : (wrapResult expired r).code = code) (hcode : code ≠ .unknown) :
    r.resultCode = code := by
  unfold wrapResult at h
  cases expired with
  | true => exact absurd h.symm hcode
  | false => exact h

/-! ## The goal of the requests -/

section Goals

variable {ports : ComputePathPorts Pose} {base : Nat} {goal : Pose} {n n' : ComputeNode Pose Path}

/-- {goal} is `goal`; the requests since `base` are for it, and so will be
the next one of the activation. -/
structure PlansFor (goal : Pose) (base : Nat) (n : ComputeNode Pose Path) : Prop where
  board : n.hook.blackboard.goal = goal
  sent : ∀ (i : Nat) (r : Request (ComputePathGoal Pose) (ComputePathResult Path)),
    base ≤ i → n.requests[i]? = some r → r.goal.goal = goal
  next : n.hook.goal.goal = goal

/-- What holds where a tick stands. -/
def PlansAt (goal : Pose) (base : Nat) (pc : TickPc) (n : ComputeNode Pose Path) : Prop :=
  match pc with
  | .start => (n.status.isActive = true → PlansFor goal base n) ∧
    (n.status.isActive = false → n.hook.blackboard.goal = goal ∧ n.requests.length ≤ base)
  | _ => PlansFor goal base n

theorem ComputePathPorts.readStart_goal (g : ComputePathGoal Pose) :
    (ports.readStart g).goal = g.goal := by
  unfold ComputePathPorts.readStart
  split <;> rfl

theorem PlansFor.spun (h : PlansFor goal base n) (hspun : Spun n n') : PlansFor goal base n' where
  board := by rw [hspun.hook]; exact h.board
  sent i r' hi hr' := by
    obtain ⟨r, hr, hgrow⟩ := grows_of_length hspun.grow hspun.length hr'
    rw [hgrow.goal]
    exact h.sent i r hi hr
  next := by rw [hspun.hook]; exact h.next

theorem PlansFor.abandon (h : PlansFor goal base n) : PlansFor goal base n.abandon where
  board := by rw [abandon_hook]; exact h.board
  sent i r' hi hr' := by
    have hlength : n.abandon.requests.length = n.requests.length := by
      unfold ActionNode.abandon
      split
      · rfl
      · exact List.length_modify _ _ _
    obtain ⟨r, hr, hgrow⟩ := grows_of_length (abandon_grows n) hlength hr'
    rw [hgrow.goal]
    exact h.sent i r hi hr
  next := by rw [abandon_hook]; exact h.next

theorem PlansFor.send (h : PlansFor goal base n) (update : Bool) :
    PlansFor goal base (n.send update) where
  board := h.board
  sent i r hi hr := by
    have hr : (n.requests ++ [Request.new n.hook.goal update])[i]? = some r := hr
    rcases Nat.lt_trichotomy i n.requests.length with hlt | rfl | hgt
    · rw [List.getElem?_append_left hlt] at hr
      exact h.sent i r hi hr
    · rw [List.getElem?_concat_length] at hr
      cases hr
      exact h.next
    · have hlength : (n.requests ++ [Request.new n.hook.goal update]).length ≤ i := by
        rw [List.length_append, List.length_singleton]
        exact hgt
      rw [List.getElem?_eq_none hlength] at hr
      cases hr
  next := h.next

/-- What a virtual function that only writes {path} and the errors leaves. -/
theorem PlansFor.hook (h : PlansFor goal base n)
    {hook : HookState (ComputePathGoal Pose) (Blackboard Pose Path)}
    (hboard : hook.blackboard.goal = n.hook.blackboard.goal) (hgoal : hook.goal = n.hook.goal) :
    PlansFor goal base { n with hook := hook } where
  board := hboard.trans h.board
  sent := h.sent
  next := (congrArg ComputePathGoal.goal hgoal).trans h.next

end Goals

/-! ## `ComputePathToPose` -/

section Compute

variable [Inhabited Pose] [Inhabited Path] {ports : ComputePathPorts Pose} {base : Nat}
  {goal : Pose} {path : Path} {es : List (SpinEvent (ComputePathResult Path) Unit)}
  {n n' : ComputeNode Pose Path} {pc pc' : TickPc}

/-- What the virtual function for a result makes of it. -/
theorem computePathToPose_calls {result : WrappedResult (ComputePathResult Path)}
    {f : ComputePathM Pose Path NodeStatus} {status : NodeStatus}
    {h h' : HookState (ComputePathGoal Pose) (Blackboard Pose Path)}
    (hf : callsFor (computePathToPoseHooks ports) result = some f)
    (hrun : f.run h = .ok status h') :
    (status = .success ∧ result.code = .succeeded ∧ ∃ r, result.result = some r ∧
      h'.blackboard.path = some r.path) ∨
    (status = .failure ∧ h'.blackboard.path = some default) ∨
    (status = .success ∧ result.code = .canceled ∧ h'.blackboard.path = some default) := by
  unfold callsFor at hf
  split at hf
  · next hcode =>
    cases hf
    cases hresult : result.result with
    | none => rw [hresult] at hrun; cases hrun
    | some r =>
      rw [hresult] at hrun
      cases hrun
      exact .inl ⟨rfl, hcode, r, rfl, rfl⟩
  · cases hf
    cases hresult : result.result with
    | none => rw [hresult] at hrun; cases hrun
    | some r =>
      rw [hresult] at hrun
      cases hrun
      exact .inr (.inl ⟨rfl, rfl⟩)
  · next hcode =>
    cases hf
    cases hrun
    exact .inr (.inr ⟨rfl, hcode, rfl⟩)
  · cases hf

theorem computePathToPose_concludes :
    Concludes (B := Blackboard Pose Path) (computePathToPoseHooks ports) := by
  intro result f h status h' hf hrun
  rcases computePathToPose_calls hf hrun with ⟨rfl, _⟩ | ⟨rfl, _⟩ | ⟨rfl, _⟩ <;>
    exact NodeStatus.noConfusion

/-! ### {path} -/

/-- What holds of {path}, which was `path` before the tick, in an activation
that began with `base` requests: it stays until a request has come to
something. -/
def PathAt (base : Nat) (path : Path) (pc : TickPc) (n : ComputeNode Pose Path) : Prop :=
  match pc with
  | .returned .success => ReportedSince base n.requests (nodePath n)
  | .returned .failure => nodePath n = path ∨ nodePath n = default
  | .returned .running => nodePath n = path
  | .returned _ => False
  | .raised _ => True
  | _ => nodePath n = path

/-- The result that is reported is that of a request sent since the node was
activated. -/
theorem pathAt_reported {f : ComputePathM Pose Path NodeStatus} {status : NodeStatus}
    {h : HookState (ComputePathGoal Pose) (Blackboard Pose Path)} (haligned : Aligned base n)
    (hf : callsFor (computePathToPoseHooks ports) n.result = some f)
    (hrun : f.run n.hook = .ok status h) : PathAt base path (.returned status)
      { n with hook := h, goalHandle := none, reported := n.goalHandle } := by
  rcases computePathToPose_calls hf hrun with ⟨rfl, hcode, result, hresult, hset⟩ | ⟨rfl, hset⟩ |
    ⟨rfl, hcode, hset⟩
  · obtain ⟨i, r, expired, hr, hi, _, _, _, _, hwrap⟩ :=
      haligned.lastResult (by rw [hcode]; exact ResultCode.noConfusion)
    rw [hwrap] at hcode hresult
    refine ⟨i, r, hi, hr, .inl ⟨resultCode_of_wrapResult hcode ResultCode.noConfusion, result,
      hresult, ?_⟩⟩
    rw [nodePath, hset]
    rfl
  · refine .inr ?_
    rw [nodePath, hset]
    rfl
  · obtain ⟨i, r, expired, hr, hi, _, _, _, _, hwrap⟩ :=
      haligned.lastResult (by rw [hcode]; exact ResultCode.noConfusion)
    rw [hwrap] at hcode
    refine ⟨i, r, hi, hr, .inr ⟨resultCode_of_wrapResult hcode ResultCode.noConfusion, ?_⟩⟩
    rw [nodePath, hset]
    rfl

/-- One move of a tick. -/
theorem pathAt_move (halong : Along base pc n) (hpath : PathAt base path pc n)
    (hmove : TickMove (computePathToPoseHooks ports) es pc n pc' n') :
    PathAt base path pc' n' := by
  have hspin : ∀ {n₁}, Spun n n₁ → nodePath n₁ = nodePath n := fun hspun => by
    rw [nodePath, hspun.hook, nodePath]
  have habandon : ∀ n₁ : ComputeNode Pose Path, nodePath n₁.abandon = nodePath n₁ := fun n₁ => by
    rw [nodePath, abandon_hook, nodePath]
  cases hmove with
  | started _ hrun => cases hrun; exact hpath
  | notStarted _ hrun => cases hrun; exact .inl hpath
  | startFailed => trivial
  | givenUp => exact (habandon _).trans hpath
  | taken _ hspun =>
    split
    · exact (hspin hspun).trans hpath
    · exact (hspin hspun).trans hpath
  | rejected _ hspun => exact .inl ((hspin hspun).trans hpath)
  | interrupted hspun => exact .inl ((habandon _).trans ((hspin hspun).trans hpath))
  | stillAwaits _ hspun => exact (hspin hspun).trans hpath
  | timedOut hspun => exact (habandon _).trans ((hspin hspun).trans hpath)
  | toldTimeout hrun => cases hrun; exact .inl hpath
  | timeoutFailed => trivial
  | waits _ hrun => cases hrun; exact hpath
  | waitFailed => trivial
  | noHandle => trivial
  | spunToResult hspun => exact (hspin hspun).trans hpath
  | spun hspun => exact (hspin hspun).trans hpath
  | reported hf hrun => exact pathAt_reported halong hf hrun
  | reportFailed => trivial
  | noCode => trivial
  | _ => exact hpath

/-- **{path} in a tick.** -/
theorem computePathToPose_path (h : TickRun (computePathToPoseHooks ports) es (.start, n) (pc, n'))
    (hstart : Along base .start n) : Along base pc n' ∧ PathAt base (nodePath n) pc n' :=
  h.invariant (I := fun pc n' => Along base pc n' ∧ PathAt base (nodePath n) pc n') ⟨hstart, rfl⟩
    fun _ _ _ _ hs hmove => ⟨along_move hs.1 hmove, pathAt_move hs.1 hs.2 hmove⟩

/-! ### {goal} in a tick -/

theorem computePathToPose_calls_goal {result : WrappedResult (ComputePathResult Path)}
    {f : ComputePathM Pose Path NodeStatus}
    (hf : callsFor (computePathToPoseHooks ports) result = some f)
    (h : HookState (ComputePathGoal Pose) (Blackboard Pose Path)) :
    (finalState (f.run h)).blackboard.goal = h.blackboard.goal ∧
      (finalState (f.run h)).goal = h.goal := by
  unfold callsFor at hf
  split at hf
  · cases hf
    cases result.result <;> exact ⟨rfl, rfl⟩
  · cases hf
    cases result.result <;> exact ⟨rfl, rfl⟩
  · cases hf
    exact ⟨rfl, rfl⟩
  · cases hf

theorem plansAt_started (h : PlansAt goal base .start n) (hidle : n.status.isActive = false)
    {hook : HookState (ComputePathGoal Pose) (Blackboard Pose Path)}
    (hrun : ((computePathToPoseHooks ports).onTick.run { n.hook with
      shouldSendGoal := true, goal := default }) = .ok () hook)
    {result : WrappedResult (ComputePathResult Path)} {status : NodeStatus} :
    PlansFor goal base { n with hook := hook, result := result, status := status } := by
  obtain ⟨hboard, hlength⟩ := h.2 hidle
  cases hrun
  refine ⟨hboard, fun i r hi hr => ?_, (ComputePathPorts.readStart_goal _).trans hboard⟩
  have hnone : n.requests[i]? = none := List.getElem?_eq_none (Nat.le_trans hlength hi)
  rw [hnone] at hr
  cases hr

/-- One move of a tick. -/
theorem plansAt_move (h : PlansAt goal base pc n)
    (hmove : TickMove (computePathToPoseHooks ports) es pc n pc' n') :
    PlansAt goal base pc' n' := by
  cases hmove with
  | resumed hactive => exact h.1 hactive
  | started hidle hrun => exact plansAt_started h hidle hrun
  | notStarted hidle hrun => exact plansAt_started h hidle hrun
  | startFailed _ hrun => cases hrun
  | sentFirst => exact PlansFor.send h false
  | sentUpdate => exact PlansFor.send h true
  | givenUp => exact PlansFor.abandon h
  | taken _ hspun =>
    have h' := PlansFor.spun h hspun
    split <;> exact ⟨h'.board, h'.sent, h'.next⟩
  | rejected _ hspun =>
    have h' := PlansFor.spun h hspun
    exact ⟨h'.board, h'.sent, h'.next⟩
  | interrupted hspun => exact (PlansFor.spun h hspun).abandon
  | stillAwaits _ hspun => exact PlansFor.spun h hspun
  | timedOut hspun => exact (PlansFor.spun h hspun).abandon
  | toldTimeout hrun => cases hrun; exact PlansFor.hook h rfl rfl
  | timeoutFailed hrun => cases hrun
  | waits _ hrun => cases hrun; exact ⟨h.board, h.sent, h.next⟩
  | waitFailed _ hrun => cases hrun
  | updates => exact ⟨h.board, h.sent, h.next⟩
  | spunToResult hspun => exact PlansFor.spun h hspun
  | spun hspun => exact PlansFor.spun h hspun
  | reported hf hrun =>
    obtain ⟨hboard, hgoal⟩ := computePathToPose_calls_goal hf n.hook
    rw [hrun] at hboard hgoal
    have h' := PlansFor.hook h hboard hgoal
    exact ⟨h'.board, h'.sent, h'.next⟩
  | reportFailed hf hrun =>
    obtain ⟨hboard, hgoal⟩ := computePathToPose_calls_goal hf n.hook
    rw [hrun] at hboard hgoal
    exact PlansFor.hook h hboard hgoal
  | _ => exact h

/-- **{goal} in a tick.** -/
theorem computePathToPose_goal (h : TickRun (computePathToPoseHooks ports) es (.start, n) (pc, n'))
    (hstart : PlansAt goal base .start n) : PlansAt goal base pc n' :=
  h.invariant (I := PlansAt goal base) hstart fun _ _ _ _ hs hmove => plansAt_move hs hmove

end Compute

/-! ## `FollowPath` -/

section Follow

variable [Inhabited Path] [DecidableEq Path] {ports : FollowPathPorts} {followBase : Nat}
  {goal : Pose} {path : Path} {es : List (SpinEvent ErrorResult Unit)}
  {n n' : FollowNode Pose Path} {pc pc' : TickPc}

/-- What the virtual function for a result makes of it. -/
theorem followPath_calls {result : WrappedResult ErrorResult}
    {f : FollowPathM Pose Path NodeStatus} {status : NodeStatus}
    {h h' : HookState (FollowPathGoal Path) (Blackboard Pose Path)}
    (hf : callsFor (followPathHooks ports) result = some f) (hrun : f.run h = .ok status h') :
    status = .success ∨ status = .failure := by
  unfold callsFor at hf
  split at hf
  · cases hf
    cases hrun
    exact .inl rfl
  · cases hf
    cases hresult : result.result with
    | none => rw [hresult] at hrun; cases hrun
    | some r =>
      rw [hresult] at hrun
      cases hrun
      exact .inr rfl
  · cases hf
    cases hrun
    exact .inl rfl
  · cases hf

/-- The statuses that a tick returns. -/
theorem followPath_returns {status : NodeStatus}
    (h : TickRun (followPathHooks ports) es (.start, n) (.returned status, n')) :
    status = .running ∨ status = .success ∨ status = .failure := by
  refine h.invariant (I := fun pc _ => ∀ status, pc = .returned status →
    status = .running ∨ status = .success ∨ status = .failure) nofun
      (fun _ _ _ _ _ hmove => ?_) _ rfl
  intro status hpc
  cases hmove with
  | reported hf hrun =>
    cases hpc
    exact .inr (followPath_calls hf hrun)
  | taken =>
    split at hpc
    · cases hpc
    · cases hpc
  | notStarted => cases hpc; exact .inr (.inr rfl)
  | rejected => cases hpc; exact .inr (.inr rfl)
  | interrupted => cases hpc; exact .inr (.inr rfl)
  | toldTimeout => cases hpc; exact .inr (.inr rfl)
  | stillAwaits => cases hpc; exact .inl rfl
  | spun => cases hpc; exact .inl rfl
  | _ => cases hpc

/-- {goal} is `goal`, and {path} is `path`. -/
def BoardHas (goal : Pose) (path : Path) (b : Blackboard Pose Path) : Prop :=
  b.goal = goal ∧ b.path.getD default = path

/-- The goal is for `path`, unless that is empty. -/
def IsFor (path : Path) (g : FollowPathGoal Path) : Prop := path ≠ default → g.path = path

omit [Inhabited Path] [DecidableEq Path] in
theorem outputFollowError_keeps {I : Blackboard Pose Path → Prop}
    (hI : ∀ b error, I b → I { b with followPathError := error }) (error : ErrorResult) :
    Preserves (fun h : HookState (FollowPathGoal Path) (Blackboard Pose Path) => I h.blackboard)
      (outputFollowError error) :=
  preserves_modify fun _ hb => hI _ _ hb

theorem followPath_keepsBoard {I : Blackboard Pose Path → Prop}
    (hI : ∀ b error, I b → I { b with followPathError := error }) :
    KeepsBoard (followPathHooks ports) I where
  onTick := preserves_modify fun _ hb => hb
  onWaitForResult feedback := by
    intro h hb
    rw [onWaitForResult_run]
    exact hb
  onTimeout := outputFollowError_keeps hI _
  result result f hf := by
    unfold callsFor at hf
    split at hf
    · cases hf
      exact preserves_bind (outputFollowError_keeps hI _) fun _ => preserves_pure _
    · cases hf
      cases result.result with
      | none => exact fun _ hb => hb
      | some error => exact preserves_bind (outputFollowError_keeps hI _) fun _ => preserves_pure _
    · cases hf
      exact preserves_bind (outputFollowError_keeps hI _) fun _ => preserves_pure _
    · cases hf

/-- **`FollowPath` hands {path} over.** -/
theorem followPath_handsOver :
    HandsOver (followPathHooks ports) (BoardHas goal path) (IsFor path) where
  keeps := followPath_keepsBoard fun _ _ hb => hb
  concludes := by
    intro result f h status h' hf hrun
    rcases followPath_calls hf hrun with rfl | rfl <;> exact NodeStatus.noConfusion
  onWaitForResult feedback h h' hrun hboard := by
    rw [onWaitForResult_run] at hrun
    cases hrun
    refine ⟨fun hne => ?_, fun hlowered => ?_⟩
    · show (portsGoal ports h).path = path
      rw [portsGoal, hboard.2, if_pos hne]
    · have hboth := Bool.or_eq_false_iff.mp hlowered
      exact ⟨hboth.1, by simpa using hboth.2⟩

/-! ### The first goal -/

/-- The goal that is sent first is for `path`. -/
def FirstAt (followBase : Nat) (path : Path) (pc : TickPc) (n : FollowNode Pose Path) : Prop :=
  match pc with
  | .start => n.status = .idle ∧ n.requests.length = followBase ∧ nodePath n = path
  | .sending false => n.requests.length = followBase ∧ n.hook.goal.path = path
  | _ => ∃ r, n.requests[followBase]? = some r ∧ r.goal.path = path

theorem firstAt_move (hvalid : RequestsValid n.requests) (hfirst : FirstAt followBase path pc n)
    (hmove : TickMove (followPathHooks ports) es pc n pc' n') : FirstAt followBase path pc' n' := by
  have hgrown := hmove.grown hvalid
  -- the goal sent first is kept
  have hkept : (∃ r, n.requests[followBase]? = some r ∧ r.goal.path = path) →
      ∃ r, n'.requests[followBase]? = some r ∧ r.goal.path = path := by
    rintro ⟨r, hr, hpath⟩
    obtain ⟨r', hr', hg⟩ := hgrown.2 _ r hr
    exact ⟨r', hr', by rw [hg.goal]; exact hpath⟩
  cases hmove with
  | resumed hactive =>
    rw [hfirst.1] at hactive
    cases hactive
  | started _ hrun => cases hrun; exact ⟨hfirst.2.1, hfirst.2.2⟩
  | notStarted _ hrun hnot => cases hrun; cases hnot
  | startFailed _ hrun => cases hrun
  | sentFirst =>
    refine ⟨Request.new n.hook.goal false, ?_, hfirst.2⟩
    rw [← hfirst.1]
    exact List.getElem?_concat_length
  | taken =>
    split
    · exact hkept hfirst
    · exact hkept hfirst
  | _ => exact hkept hfirst

/-- A tick in which a first goal is sent. -/
theorem followPath_tick {params : ActionParams} {input : TickInput ErrorResult Unit}
    (hvalid : RequestsValid n.requests) (hidle : n.status = .idle)
    (hlength : n.requests.length = followBase) (hpath : nodePath n = path) :
    Triple (· = n) (BehaviorTree.tick (followPathHooks ports) params input)
      (fun _ n' => RequestsValid n'.requests ∧
        ∃ r, n'.requests[followBase]? = some r ∧ r.goal.path = path)
      (fun _ n' => RequestsValid n'.requests ∧
        ∃ r, n'.requests[followBase]? = some r ∧ r.goal.path = path) := by
  have hinvariant : ∀ pc n', TickRun (followPathHooks ports) input.spin (.start, n) (pc, n') →
      RequestsValid n'.requests ∧ FirstAt followBase path pc n' := by
    intro pc n' hrun
    refine hrun.invariant (I := fun pc n => RequestsValid n.requests ∧ FirstAt followBase path pc n)
      ⟨hvalid, hidle, hlength, hpath⟩ fun _ _ _ _ h hmove => ?_
    exact ⟨(hmove.grown h.1).1, firstAt_move h.1 h.2 hmove⟩
  exact triple_conseq (tick_trace hvalid) (fun _ hs => hs) (fun _ n' hrun => hinvariant _ n' hrun)
    fun _ n' hrun => hinvariant _ n' hrun

end Follow

end Nav3D.BtNavigator

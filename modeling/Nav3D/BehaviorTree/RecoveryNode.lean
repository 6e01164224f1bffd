/-
Nav3D.BehaviorTree.RecoveryNode — the control node that ticks its first
child again after its second child has recovered
(`plugins/control/recovery_node.cpp`).

`current_child_idx_` and `retry_count_` outlive a tick. Every exit of
`tick()` but one restores both: when the recovery is skipped, `halt()` is
not called and `retry_count_` keeps its value. A count that is left over
lacks in the next activation (`leftover_retry_count`). `recovery_budget`
says that nothing else takes a retry away.

The port `number_of_retries` is constant. The loop of `tick()` has fuel;
`recovery_budget` says how much is enough.
-/
import Nav3D.Lib.NodeBench

namespace Nav3D.BehaviorTree.RecoveryNode

open BT StateInvariant Transition

/-! ## The node -/

/-- The members of a `RecoveryNode`. -/
structure Members where
  currentChildIdx : Nat := 0
  numberOfRetries : Nat := 1
  retryCount : Nat := 0
  deriving DecidableEq

inductive Exception where
  | behaviorTreeException
  | logicError
  | outOfFuel
  deriving DecidableEq

variable {σ : Type}

/-- `RecoveryNode::halt()`. -/
def halt (cell : MemberCell Members σ) (children : List (TreeNode Exception σ)) :
    EStateM Exception σ PUnit := do
  haltChildren children
  modify (cell.setStatus .idle)
  cell.update fun m => { m with retryCount := 0, currentChildIdx := 0 }

/-- One round of the loop at child 0; `next` is the rest of the loop. -/
def attempt (cell : MemberCell Members σ) (first second : TreeNode Exception σ)
    (next : EStateM Exception σ NodeStatus) : EStateM Exception σ NodeStatus := do
  match ← first.executeTick with
  | .skipped => do
    halt cell [first, second]
    return .skipped
  | .success => do
    second.haltChild
    halt cell [first, second]
    return .success
  | .running => return .running
  | .failure => do
    let m := cell.members (← get)
    if m.retryCount < m.numberOfRetries then do
      first.haltChild
      cell.update fun m => { m with currentChildIdx := m.currentChildIdx + 1 }
      next
    else do
      halt cell [first, second]
      return .failure
  | .idle => throw .logicError

/-- One round of the loop at child 1. -/
def recover (cell : MemberCell Members σ) (first second : TreeNode Exception σ)
    (next : EStateM Exception σ NodeStatus) : EStateM Exception σ NodeStatus := do
  match ← second.executeTick with
  | .skipped => do
    cell.update fun m => { m with currentChildIdx := 0 }
    second.haltChild
    return .failure
  | .running => return .running
  | .success => do
    second.haltChild
    cell.update fun m => { m with retryCount := m.retryCount + 1, currentChildIdx := 0 }
    next
  | .failure => do
    halt cell [first, second]
    return .failure
  | .idle => throw .logicError

/-- The loop of `RecoveryNode::tick()`. -/
def tickChildren (cell : MemberCell Members σ) (first second : TreeNode Exception σ) :
    Nat → EStateM Exception σ NodeStatus
  | 0 => throw .outOfFuel
  | fuel + 1 => do
    let m := cell.members (← get)
    if m.currentChildIdx < 2 ∧ m.retryCount ≤ m.numberOfRetries then
      if m.currentChildIdx = 0 then attempt cell first second (tickChildren cell first second fuel)
      else recover cell first second (tickChildren cell first second fuel)
    else do
      halt cell [first, second]
      return .failure

/-- `RecoveryNode`, with the value of its port. -/
def recoveryNode (fuel numberOfRetries : Nat) (cell : MemberCell Members σ)
    (children : List (TreeNode Exception σ)) : TreeNode Exception σ where
  toStatusCell := cell.toStatusCell
  tick := do
    cell.update fun m => { m with numberOfRetries := numberOfRetries }
    match children with
    | [first, second] => do
      modify (cell.setStatus .running)
      tickChildren cell first second fuel
    | _ => throw .behaviorTreeException
  halt := halt cell children

/-! ## Activations -/

/-- The successful recoveries in a trace. -/
def recoveries (t : List Event) : Nat := t.count (.child 1 .success)

/-- The completed attempts of child 0 in a trace. -/
def attempts (t : List Event) : Nat :=
  t.count (.child 0 .success) + t.count (.child 0 .failure)

/-- A return other than RUNNING and a halt leave both counters at 0. -/
def Rested (m : Members) (trace : List Event) : Prop :=
  ∀ e t, trace = e :: t → e.ends = true → m.retryCount = 0 ∧ m.currentChildIdx = 0

/-- The retries of an activation. -/
structure WithinBudget (n : Nat) (t : List Event) : Prop where
  recoveries_le : recoveries (activation t) ≤ n
  attempts_le : attempts (activation t) ≤ n + 1
  failed : ∀ t', t = .returned .failure :: .child 0 .failure :: t' →
    recoveries (activation t') = n

/-- In the tick to come, child 1 is skipped after a recovery of the same
activation. The tick is at child 0 and at child 1 in turn, as long as the
one fails and the other succeeds; child 1 is its `k`-th child. -/
def SkippedLate (n : Nat) (m : Members) (answers : Nat → Answer) : Prop :=
  ∃ k < 2 * n,
    (∀ j < k, (answers j).1 = if (m.currentChildIdx + j) % 2 = 0 then .failure else .success) ∧
    (m.currentChildIdx + k) % 2 = 1 ∧ (answers k).1 = .skipped ∧
    0 < m.retryCount + k / 2 ∧ m.retryCount + k / 2 < n

instance (n : Nat) (m : Members) (answers : Nat → Answer) :
    Decidable (SkippedLate n m answers) :=
  inferInstanceAs (Decidable (∃ k < 2 * n, _ ∧ _ ∧ _ ∧ _ ∧ _))

/-- The call does not skip child 1 after a recovery. -/
def SkipsInTime (n : Nat) (s : Bench Members) : Call → Prop
  | .tick answers => ¬ SkippedLate n s.members answers
  | _ => True

instance (n : Nat) (s : Bench Members) : (l : Call) → Decidable (SkipsInTime n s l)
  | .tick answers => inferInstanceAs (Decidable (¬ SkippedLate n s.members answers))
  | .halt | .haltChild | .resetStatus => isTrue trivial

/-- The node on the bench. -/
def benchNode (fuel n : Nat) : TreeNode Exception (Bench Members) :=
  recoveryNode fuel n Bench.memberCell [Bench.child Exception 0, Bench.child Exception 1]

def system (fuel n : Nat) : System (Bench Members) Call := benchSystem (benchNode fuel n) {}

/-! ## The counters -/

section Counting

variable {n : Nat} {m : Members} {t : List Event}

/-- What the counters are, in an activation. -/
structure Counted (n : Nat) (m : Members) (t : List Event) : Prop where
  recoveries_eq : recoveries (activation t) = m.retryCount
  attempts_eq : attempts (activation t) = m.retryCount + m.currentChildIdx
  idx_le : m.currentChildIdx ≤ 1
  le : m.retryCount + m.currentChildIdx ≤ n

/-- The counters and the history. -/
def Kept (n : Nat) (m : Members) (t : List Event) : Prop :=
  Counted n m t ∧ Always (WithinBudget n) t

/-- At the end of an activation both counters are 0. -/
theorem counted_end (ht : activation t = []) (hretry : m.retryCount = 0)
    (hidx : m.currentChildIdx = 0) : Counted n m t where
  recoveries_eq := by simp [ht, recoveries, hretry]
  attempts_eq := by simp [ht, attempts, hretry, hidx]
  idx_le := by omega
  le := by omega

theorem Counted.rested (h : Counted n m t) : Rested m t := by
  rintro e t' rfl he
  have hrecoveries := h.recoveries_eq
  have hattempts := h.attempts_eq
  rw [activation_cons_ends he] at hrecoveries hattempts
  simp only [recoveries, attempts, List.count_nil] at hrecoveries hattempts
  omega

theorem Counted.first (h : Counted n m t) (status : NodeStatus) :
    WithinBudget n (.child 0 status :: t) where
  recoveries_le := by
    have hrecoveries := h.recoveries_eq
    have hle := h.le
    simp only [recoveries] at hrecoveries
    simp [recoveries, hrecoveries]
    omega
  attempts_le := by
    have hattempts := h.attempts_eq
    have hle := h.le
    simp only [attempts] at hattempts
    cases status <;> simp [attempts] <;> omega
  failed := by rintro t' ⟨⟩

theorem Counted.second (h : Counted n m t) (hidx : m.currentChildIdx = 1) (status : NodeStatus) :
    WithinBudget n (.child 1 status :: t) where
  recoveries_le := by
    have hrecoveries := h.recoveries_eq
    have hle := h.le
    simp only [recoveries] at hrecoveries
    cases status <;> simp [recoveries, hrecoveries] <;> omega
  attempts_le := by
    have hattempts := h.attempts_eq
    have hle := h.le
    simp only [attempts] at hattempts
    simp [attempts]
    omega
  failed := by rintro t' ⟨⟩

/-- The node returns and the activation ends. -/
theorem kept_returned {status : NodeStatus} (hstatus : status ≠ .running)
    (ht : Always (WithinBudget n) t) (hretry : m.retryCount = 0) (hidx : m.currentChildIdx = 0)
    (hfailed : status = .failure → ∀ t', t = .child 0 .failure :: t' →
      recoveries (activation t') = n) : Kept n m (.returned status :: t) := by
  have hend := activation_returned hstatus t
  refine ⟨counted_end hend hretry hidx, always_cons.mpr ⟨?_, ht⟩⟩
  constructor
  · simp [hend, recoveries]
  · simp [hend, attempts]
  · intro t' heq
    cases heq
    exact hfailed rfl t' rfl

theorem kept_halted (ht : Always (WithinBudget n) t) (hretry : m.retryCount = 0)
    (hidx : m.currentChildIdx = 0) : Kept n m (.halted :: t) := by
  refine ⟨counted_end rfl hretry hidx, always_cons.mpr ⟨?_, ht⟩⟩
  constructor
  · simp [recoveries]
  · simp [attempts]
  · rintro t' ⟨⟩

/-- The node returns RUNNING: the activation goes on. -/
theorem kept_running (hcounted : Counted n m t) (ht : Always (WithinBudget n) t) :
    Kept n m (.returned .running :: t) := by
  have hbudget := ht.now
  have hrecoveries : recoveries (activation (.returned .running :: t)) =
      recoveries (activation t) := by simp [recoveries]
  have hattempts : attempts (activation (.returned .running :: t)) = attempts (activation t) := by
    simp [attempts]
  refine ⟨?_, always_cons.mpr ⟨?_, ht⟩⟩
  · exact ⟨hrecoveries.trans hcounted.recoveries_eq, hattempts.trans hcounted.attempts_eq,
      hcounted.idx_le, hcounted.le⟩
  · constructor
    · rw [hrecoveries]
      exact hbudget.recoveries_le
    · rw [hattempts]
      exact hbudget.attempts_le
    · rintro t' ⟨⟩

/-! ### What the children answer -/

/-- Child 0 has failed and is retried. -/
theorem Counted.failed (h : Counted n m t) (hidx : m.currentChildIdx = 0)
    (hretry : m.retryCount < n) :
    Counted n { m with currentChildIdx := m.currentChildIdx + 1 } (.child 0 .failure :: t) where
  recoveries_eq := by
    have hrecoveries := h.recoveries_eq
    simp only [recoveries] at hrecoveries
    simpa [recoveries] using hrecoveries
  attempts_eq := by
    have hattempts := h.attempts_eq
    simp only [attempts] at hattempts
    simp [attempts]
    omega
  idx_le := by simp [hidx]
  le := by
    show m.retryCount + (m.currentChildIdx + 1) ≤ n
    omega

/-- Child 1 has recovered. -/
theorem Counted.recovered (h : Counted n m t) (hidx : m.currentChildIdx = 1) :
    Counted n { m with retryCount := m.retryCount + 1, currentChildIdx := 0 }
      (.child 1 .success :: t) where
  recoveries_eq := by
    have hrecoveries := h.recoveries_eq
    simp only [recoveries] at hrecoveries
    simp [recoveries, hrecoveries]
  attempts_eq := by
    have hattempts := h.attempts_eq
    simp only [attempts] at hattempts
    simp [attempts]
    omega
  idx_le := Nat.zero_le 1
  le := by
    have hle := h.le
    show m.retryCount + 1 + 0 ≤ n
    omega

/-- Child 0 or child 1 returns RUNNING. -/
theorem Counted.running (h : Counted n m t) (i : Nat) :
    Counted n m (.child i .running :: t) where
  recoveries_eq := by
    have hrecoveries := h.recoveries_eq
    simp only [recoveries] at hrecoveries
    simpa [recoveries] using hrecoveries
  attempts_eq := by
    have hattempts := h.attempts_eq
    simp only [attempts] at hattempts
    simpa [attempts] using hattempts
  idx_le := h.idx_le
  le := h.le

variable {answers : Nat → Answer}

/-- The condition on the tick is one on the rest of the loop: at child 0. -/
theorem skippedLate_failed (hidx : m.currentChildIdx = 0) (hanswer : (answers 0).1 = .failure) :
    SkippedLate n m answers ↔
      SkippedLate n { m with currentChildIdx := m.currentChildIdx + 1 }
        (fun k => answers (k + 1)) := by
  constructor
  · rintro ⟨k, hk, hbefore, hodd, hskip, hpos, hlt⟩
    rw [hidx] at hbefore hodd
    obtain ⟨k, rfl⟩ : ∃ k', k = k' + 1 := ⟨k - 1, by omega⟩
    refine ⟨k, by omega, fun j hj => ?_, ?_, hskip, ?_, ?_⟩
    · have h := hbefore (j + 1) (by omega)
      simp only [hidx]
      rwa [show 0 + (j + 1) = 0 + 1 + j by omega] at h
    · simp only [hidx]
      omega
    · simp only
      omega
    · simp only
      omega
  · rintro ⟨k, hk, hbefore, hodd, hskip, hpos, hlt⟩
    simp only [hidx] at hbefore hodd hpos hlt
    refine ⟨k + 1, by omega, fun j hj => ?_, by omega, hskip, by omega, by omega⟩
    cases j with
    | zero => simp [hidx, hanswer]
    | succ j =>
      have h := hbefore j (by omega)
      rwa [hidx, show 0 + (j + 1) = 0 + 1 + j by omega]

/-- At child 1. -/
theorem skippedLate_recovered (hidx : m.currentChildIdx = 1)
    (hanswer : (answers 0).1 = .success) :
    SkippedLate n m answers ↔
      SkippedLate n { m with retryCount := m.retryCount + 1, currentChildIdx := 0 }
        (fun k => answers (k + 1)) := by
  constructor
  · rintro ⟨k, hk, hbefore, hodd, hskip, hpos, hlt⟩
    rw [hidx] at hbefore hodd
    obtain ⟨k, rfl⟩ : ∃ k', k = k' + 1 := by
      refine ⟨k - 1, ?_⟩
      rcases Nat.eq_zero_or_pos k with rfl | hpos'
      · rw [hanswer] at hskip
        cases hskip
      · omega
    refine ⟨k, by omega, fun j hj => ?_, ?_, hskip, ?_, ?_⟩
    · have h := hbefore (j + 1) (by omega)
      rw [h]
      congr 1
      simp only [eq_iff_iff]
      omega
    · simp only
      omega
    · simp only
      omega
    · simp only
      omega
  · rintro ⟨k, hk, hbefore, hodd, hskip, hpos, hlt⟩
    simp only at hbefore hodd hpos hlt
    refine ⟨k + 1, by omega, fun j hj => ?_, by omega, hskip, by omega, by omega⟩
    cases j with
    | zero => simp [hidx, hanswer]
    | succ j =>
      rw [hidx, hbefore j (by omega)]
      congr 1
      simp only [eq_iff_iff]
      omega

/-- Child 1 is skipped at once. -/
theorem skippedLate_now (hidx : m.currentChildIdx = 1) (hlt : m.retryCount < n)
    (hanswer : (answers 0).1 = .skipped) : SkippedLate n m answers ↔ 0 < m.retryCount := by
  constructor
  · rintro ⟨k, -, hbefore, -, -, hpos, -⟩
    rcases Nat.eq_zero_or_pos k with rfl | hk
    · simpa using hpos
    · have h := hbefore 0 hk
      rw [hanswer, hidx] at h
      cases h
  · intro hpos
    refine ⟨0, by omega, fun j hj => absurd hj (Nat.not_lt_zero j), ?_, hanswer, ?_, ?_⟩
    · simp [hidx]
    · simpa using hpos
    · simpa using hlt

theorem SkippedLate.retry_lt (h : SkippedLate n m answers) : m.retryCount < n := by
  obtain ⟨k, -, -, -, -, -, hlt⟩ := h
  omega

theorem SkippedLate.first (h : SkippedLate n m answers) (hidx : m.currentChildIdx = 0) :
    (answers 0).1 = .failure := by
  obtain ⟨k, -, hbefore, hodd, -⟩ := h
  have h0 := hbefore 0 (by omega)
  rwa [hidx] at h0

theorem SkippedLate.second (h : SkippedLate n m answers) (hidx : m.currentChildIdx = 1) :
    (answers 0).1 = .success ∨ (answers 0).1 = .skipped := by
  obtain ⟨k, -, hbefore, -, hskip, -⟩ := h
  rcases Nat.eq_zero_or_pos k with rfl | hk
  · exact .inr hskip
  · have h0 := hbefore 0 hk
    rw [hidx] at h0
    exact .inl h0

end Counting

/-! ## One tick -/

section Ticks

variable {n fuel : Nat} {late : Prop} {E : Exception → Bench Members → Prop}
  {P Q : Members → (Nat → Answer) → List Event → Prop}

theorem triple_halt
    (h : ∀ m a t, P m a t → Q { m with retryCount := 0, currentChildIdx := 0 } a t) :
    Triple (Bench.Shows P)
      (halt Bench.memberCell [Bench.child Exception 0, Bench.child Exception 1])
      (fun _ => Bench.Shows Q) E := by
  refine triple_bind (Bench.triple_haltChildren 2) fun _ => ?_
  refine triple_bind (Q := fun _ => Bench.Shows P) (triple_modify fun _ hs => hs) fun _ => ?_
  exact Bench.triple_update h

/-- A round of the loop begins; `late` says whether the rest of the tick
skips child 1 late. -/
structure InLoop (late : Prop) (n fuel : Nat) (m : Members) (answers : Nat → Answer)
    (t : List Event) : Prop where
  port : m.numberOfRetries = n
  kept : Kept n m t
  late_iff : SkippedLate n m answers ↔ late
  fuel_le : 2 * (n - m.retryCount) + 1 ≤ fuel + m.currentChildIdx

/-- Child `i` has answered in this round. -/
def Answered (late : Prop) (n fuel i : Nat) (status : NodeStatus) (m : Members)
    (rest : Nat → Answer) (t : List Event) : Prop :=
  ∃ answers t', InLoop late n fuel m answers t' ∧ m.currentChildIdx = i ∧
    (answers 0).1 = status ∧ rest = (fun k => answers (k + 1)) ∧ t = .child i status :: t'

/-- The tick returns. -/
def TickEnds (late : Prop) (n : Nat) (status : NodeStatus) (m : Members) (_ : Nat → Answer)
    (t : List Event) : Prop :=
  (late → status ≠ .running ∧ 0 < m.retryCount) ∧
    (¬ late → Kept n m (.returned status :: t))

theorem triple_answered (i : Nat) :
    Triple (Bench.Shows fun m a t => InLoop late n fuel m a t ∧ m.currentChildIdx = i)
      (Bench.child Exception i).executeTick
      (fun status => Bench.Shows (Answered late n fuel i status)) E :=
  Bench.triple_child i fun _ a t h => ⟨a, t, h.1, h.2, rfl, rfl, rfl⟩

theorem Answered.always_first {status : NodeStatus} {m : Members} {a : Nat → Answer}
    {t : List Event} (h : Answered late n fuel 0 status m a t) : Always (WithinBudget n) t := by
  obtain ⟨_, t', hloop, -, -, -, rfl⟩ := h
  exact always_cons.mpr ⟨hloop.kept.1.first status, hloop.kept.2⟩

theorem Answered.always_second {status : NodeStatus} {m : Members} {a : Nat → Answer}
    {t : List Event} (h : Answered late n fuel 1 status m a t) : Always (WithinBudget n) t := by
  obtain ⟨_, t', hloop, hidx, -, -, rfl⟩ := h
  exact always_cons.mpr ⟨hloop.kept.1.second hidx status, hloop.kept.2⟩

theorem Answered.not_late_first {status : NodeStatus} {m : Members} {a : Nat → Answer}
    {t : List Event} (h : Answered late n fuel 0 status m a t) (hstatus : status ≠ .failure) :
    ¬ late := by
  obtain ⟨_, _, hloop, hidx, rfl, -, -⟩ := h
  intro hlate
  exact hstatus ((hloop.late_iff.mpr hlate).first hidx)

theorem Answered.not_late_second {status : NodeStatus} {m : Members} {a : Nat → Answer}
    {t : List Event} (h : Answered late n fuel 1 status m a t) (hsuccess : status ≠ .success)
    (hskipped : status ≠ .skipped) : ¬ late := by
  obtain ⟨_, _, hloop, hidx, rfl, -, -⟩ := h
  intro hlate
  rcases (hloop.late_iff.mpr hlate).second hidx with h | h
  · exact hsuccess h
  · exact hskipped h

/-- A round at child 0. -/
theorem triple_attempt {next : EStateM Exception (Bench Members) NodeStatus}
    (hnext : Triple (Bench.Shows (InLoop late n fuel)) next
      (fun status => Bench.Shows (TickEnds late n status)) E) :
    Triple (Bench.Shows fun m a t => InLoop late n (fuel + 1) m a t ∧ m.currentChildIdx = 0)
      (attempt Bench.memberCell (Bench.child Exception 0) (Bench.child Exception 1) next)
      (fun status => Bench.Shows (TickEnds late n status)) E := by
  refine triple_bind (triple_answered 0) fun status => ?_
  cases status with
  | skipped =>
    refine triple_bind (triple_halt (Q := TickEnds late n .skipped) fun m a t h => ?_) fun _ =>
      triple_pure fun _ hs => hs
    refine ⟨fun hlate => absurd hlate (h.not_late_first (by simp)), fun _ => ?_⟩
    exact kept_returned (by simp) h.always_first rfl rfl (by simp)
  | success =>
    refine triple_bind (Bench.triple_haltChild 1) fun _ => ?_
    refine triple_bind (triple_halt (Q := TickEnds late n .success) fun m a t h => ?_) fun _ =>
      triple_pure fun _ hs => hs
    refine ⟨fun hlate => absurd hlate (h.not_late_first (by simp)), fun _ => ?_⟩
    exact kept_returned (by simp) h.always_first rfl rfl (by simp)
  | running =>
    refine triple_pure fun s h => ?_
    refine ⟨fun hlate => absurd hlate (h.not_late_first (by simp)), fun _ => ?_⟩
    have halways := h.always_first
    obtain ⟨_, t', hloop, -, -, -, ht⟩ := h
    rw [ht] at halways ⊢
    exact kept_running (hloop.kept.1.running 0) halways
  | failure =>
    refine triple_get_bind fun s h => triple_ite (fun hlt => ?_) (fun hge => ?_)
    · -- a retry is left
      refine triple_pre (I := Bench.Shows fun m a t =>
        Answered late n (fuel + 1) 0 .failure m a t ∧ m.retryCount < m.numberOfRetries)
        ?_ ?_
      · refine triple_bind (Bench.triple_haltChild 0) fun _ => ?_
        refine triple_bind (Bench.triple_update ?_) fun _ => hnext
        rintro m _ _ ⟨⟨answers, t, hloop, hidx, hanswer, rfl, rfl⟩, hlt⟩
        rw [hloop.port] at hlt
        have hfuel := hloop.fuel_le
        have hlate := (skippedLate_failed hidx hanswer).symm.trans hloop.late_iff
        have hcounted := hloop.kept.1.failed hidx hlt
        have halways := always_cons.mpr ⟨hloop.kept.1.first .failure, hloop.kept.2⟩
        refine ⟨hloop.port, ⟨hcounted, halways⟩, hlate, ?_⟩
        simp only
        omega
      · rintro _ rfl
        exact ⟨h, hlt⟩
    · -- after the last retry
      refine triple_pre (I := Bench.Shows fun m a t =>
        Answered late n (fuel + 1) 0 .failure m a t ∧ ¬ m.retryCount < m.numberOfRetries)
        ?_ ?_
      · refine triple_bind (triple_halt (Q := TickEnds late n .failure) ?_) fun _ =>
          triple_pure fun _ hs => hs
        rintro m a t ⟨h, hge⟩
        have halways := h.always_first
        obtain ⟨answers, t', hloop, -, -, -, rfl⟩ := h
        rw [hloop.port] at hge
        refine ⟨fun hlate => absurd (hloop.late_iff.mpr hlate).retry_lt hge, fun _ => ?_⟩
        refine kept_returned (by simp) halways rfl rfl ?_
        rintro - t'' heq
        cases heq
        have hle := hloop.kept.1.le
        rw [hloop.kept.1.recoveries_eq]
        omega
      · rintro _ rfl
        exact ⟨h, hge⟩
  | idle =>
    refine triple_throw fun s h => ?_
    obtain ⟨answers, -, -, -, hanswer, -⟩ := h
    exact absurd hanswer (answers 0).2

/-- A round at child 1. -/
theorem triple_recover {next : EStateM Exception (Bench Members) NodeStatus}
    (hnext : Triple (Bench.Shows (InLoop late n fuel)) next
      (fun status => Bench.Shows (TickEnds late n status)) E) :
    Triple (Bench.Shows fun m a t => InLoop late n (fuel + 1) m a t ∧ m.currentChildIdx = 1)
      (recover Bench.memberCell (Bench.child Exception 0) (Bench.child Exception 1) next)
      (fun status => Bench.Shows (TickEnds late n status)) E := by
  refine triple_bind (triple_answered 1) fun status => ?_
  cases status with
  | skipped =>
    -- the one exit that does not restore the count
    refine triple_bind (Bench.triple_update (Q := TickEnds late n .failure) fun m a t h => ?_)
      fun _ => triple_bind (Bench.triple_haltChild 1) fun _ => triple_pure fun _ hs => hs
    have halways := h.always_second
    obtain ⟨answers, t', hloop, hidx, hanswer, -, rfl⟩ := h
    have hle := hloop.kept.1.le
    have hlate := (skippedLate_now hidx (by omega) hanswer).symm.trans hloop.late_iff
    constructor
    · intro h
      exact ⟨by simp, hlate.mpr h⟩
    · intro h
      have hretry : m.retryCount = 0 := Nat.eq_zero_of_not_pos fun hpos => h (hlate.mp hpos)
      refine kept_returned (by simp) halways hretry rfl ?_
      rintro - t'' ⟨⟩
  | running =>
    refine triple_pure fun s h => ?_
    refine ⟨fun hlate => absurd hlate (h.not_late_second (by simp) (by simp)), fun _ => ?_⟩
    have halways := h.always_second
    obtain ⟨_, t', hloop, -, -, -, ht⟩ := h
    rw [ht] at halways ⊢
    exact kept_running (hloop.kept.1.running 1) halways
  | success =>
    refine triple_bind (Bench.triple_haltChild 1) fun _ => ?_
    refine triple_bind (Bench.triple_update ?_) fun _ => hnext
    rintro m _ _ ⟨answers, t, hloop, hidx, hanswer, rfl, rfl⟩
    have hle := hloop.kept.1.le
    have hfuel := hloop.fuel_le
    have hlate := (skippedLate_recovered hidx hanswer).symm.trans hloop.late_iff
    have hcounted := hloop.kept.1.recovered hidx
    have halways := always_cons.mpr ⟨hloop.kept.1.second hidx .success, hloop.kept.2⟩
    refine ⟨hloop.port, ⟨hcounted, halways⟩, hlate, ?_⟩
    simp only
    omega
  | failure =>
    refine triple_bind (triple_halt (Q := TickEnds late n .failure) fun m a t h => ?_) fun _ =>
      triple_pure fun _ hs => hs
    refine ⟨fun hlate => absurd hlate (h.not_late_second (by simp) (by simp)), fun _ => ?_⟩
    refine kept_returned (by simp) h.always_second rfl rfl ?_
    obtain ⟨_, t', -, -, -, -, rfl⟩ := h
    rintro - t'' ⟨⟩
  | idle =>
    refine triple_throw fun s h => ?_
    obtain ⟨answers, -, -, -, hanswer, -⟩ := h
    exact absurd hanswer (answers 0).2

/-- The loop ends before the fuel does. By induction on the fuel. -/
theorem triple_tickChildren :
    ∀ fuel, Triple (Bench.Shows (InLoop late n fuel))
      (tickChildren Bench.memberCell (Bench.child Exception 0) (Bench.child Exception 1) fuel)
      (fun status => Bench.Shows (TickEnds late n status)) E := by
  intro fuel
  induction fuel with
  | zero =>
    refine triple_throw fun s h => ?_
    have hfuel := h.fuel_le
    have hle := h.kept.1.le
    omega
  | succ fuel ih =>
    refine triple_get_bind fun s h => ?_
    have hidx := h.kept.1.idx_le
    have hle := h.kept.1.le
    have hport := h.port
    refine triple_ite (fun _ => triple_ite (fun hfirst => ?_) (fun hsecond => ?_)) (fun hnot => ?_)
    · refine triple_pre (triple_attempt ih) ?_
      rintro _ rfl
      exact ⟨h, hfirst⟩
    · refine triple_pre (triple_recover ih) ?_
      rintro s' rfl
      have hnot : s'.members.currentChildIdx ≠ 0 := hsecond
      exact ⟨h, by omega⟩
    · refine absurd ⟨?_, ?_⟩ hnot
      · show s.members.currentChildIdx < 2
        omega
      · show s.members.retryCount ≤ s.members.numberOfRetries
        omega

/-- One tick of the node, with enough fuel. -/
theorem triple_tick {s : Bench Members} (hfuel : 2 * n + 1 ≤ fuel)
    (h : Kept n s.members s.trace) (answers : Nat → Answer) :
    Triple (· = { s with answers := answers }) (benchNode fuel n).executeTick
      (fun status => Bench.Shows (TickEnds (SkippedLate n s.members answers) n status)) E := by
  refine triple_executeTick_ignored (fun _ => Bench.ignored_shows) ?_ fun _ =>
    triple_pure fun _ hs => hs
  have hloop : InLoop (SkippedLate n s.members answers) n fuel
      { s.members with numberOfRetries := n } answers s.trace := by
    obtain ⟨⟨hrecoveries, hattempts, hidx, hle⟩, halways⟩ := h
    refine ⟨rfl, ⟨⟨hrecoveries, hattempts, hidx, hle⟩, halways⟩, Iff.rfl, ?_⟩
    simp only
    omega
  refine triple_bind (Q := fun _ => Bench.Shows (InLoop (SkippedLate n s.members answers) n fuel))
    (triple_modify ?_) fun _ => ?_
  · rintro _ rfl
    exact hloop
  · exact triple_bind (triple_modify fun _ hs => hs) fun _ => triple_tickChildren fuel

theorem halt_kept :
    Triple (fun s : Bench Members => Kept n s.members s.trace) (benchNode fuel n).halt
      (fun _ s => Kept n s.members (.halted :: s.trace)) E :=
  triple_halt (P := fun m _ t => Kept n m t) (Q := fun m _ t => Kept n m (.halted :: t))
    fun _ _ _ h => kept_halted h.2 rfl rfl

end Ticks

/-! ## Runs -/

theorem kept_of_reach {n fuel : Nat} (hfuel : 2 * n + 1 ≤ fuel) {s : Bench Members}
    (h : (system fuel n).Reach (SkipsInTime n) s) : Kept n s.members s.trace := by
  refine invariant_of_reach (P := Kept n) (E := fun _ _ => False) rfl ?_ (fun s a hs hl => ?_)
    halt_kept h
  · refine ⟨counted_end rfl rfl rfl, always_nil.mpr ⟨?_, ?_, by rintro t ⟨⟩⟩⟩
    · exact Nat.zero_le n
    · exact Nat.zero_le (n + 1)
  · exact triple_post (triple_tick hfuel hs a) (fun _ _ hs' => hs'.2 hl)

/-- **Retries.** In every run in which child 1 is never skipped after a
recovery of the same activation, each return other than RUNNING and each
halt leaves both counters at 0, every activation stays within the budget,
and every tick ends. In every state of such a run, a call keeps the counters
exactly if it meets the condition. -/
theorem recovery_budget {n fuel : Nat} (hfuel : 2 * n + 1 ≤ fuel) {s : Bench Members}
    (h : (system fuel n).Reach (SkipsInTime n) s) :
    Rested s.members s.trace ∧ Always (WithinBudget n) s.trace ∧
      ∀ l, ∃ s', (system fuel n).step s l = some s' ∧
        (Rested s'.members s'.trace ↔ SkipsInTime n s l) := by
  have hkept := kept_of_reach hfuel h
  refine ⟨hkept.1.rested, hkept.2, fun l => ?_⟩
  have hcall : Triple (· = s) (call (benchNode fuel n) l)
      (fun _ s' => Rested s'.members s'.trace ↔ SkipsInTime n s l) (fun _ _ => False) := by
    by_cases hl : ∃ a, l = .tick a
    · obtain ⟨a, rfl⟩ := hl
      refine triple_call_tick (triple_post (triple_tick hfuel hkept a) ?_)
      rintro status s' ⟨hlate, hkeeps⟩
      constructor
      · intro hrested hl
        obtain ⟨hstatus, hretry⟩ := hlate hl
        have hzero := hrested _ _ rfl (by simp [Event.ends, hstatus])
        exact absurd hzero.1 (Nat.ne_of_gt hretry)
      · intro hl
        exact (hkeeps hl).1.rested
    · refine triple_post (triple_call_halts (P := Kept n) rfl halt_kept hkept
        fun a ha => hl ⟨a, ha⟩) (fun _ s' hs' => ?_)
      refine ⟨fun _ => ?_, fun _ => hs'.1.rested⟩
      cases l with
      | tick a => exact absurd ⟨a, rfl⟩ hl
      | _ => trivial
  exact exists_step _ hcall

/-! ### A recovery that is skipped -/

/-- With two retries, child 0 fails three times. -/
def failsThreeTimes : List Call :=
  [.tick (answerWith [.failure, .success, .failure, .success, .failure])]

/-- The run keeps to the condition. -/
theorem recovery_budget_two :
    ∃ s : Bench Members,
      s.trace.head? = some (.returned .failure) ∧ Rested s.members s.trace := by
  obtain ⟨s, hreach, hs⟩ := System.exists_reach_of_runWhile (S := system 5 2) (SkipsInTime 2)
    failsThreeTimes (fun s => s.trace.head? = some (.returned .failure)) (s := .created {})
    ⟨rfl, rfl, rfl⟩ (by decide +kernel)
  exact ⟨s, of_decide_eq_true hs, (recovery_budget (by decide) hreach).1⟩

/-- With two retries, child 1 recovers once and is then skipped; in the next
activation child 0 fails again and again. -/
def skippedAfterRecovery : List Call :=
  [.tick (answerWith [.failure, .success, .failure, .skipped]),
    .tick (answerWith [.failure, .success, .failure])]

/-- The next activation fails after one recovery. -/
theorem leftover_retry_count :
    ¬ ∀ (n fuel : Nat) (s : Bench Members), 2 * n + 1 ≤ fuel →
      (system fuel n).Reach System.anyStep s →
        Rested s.members s.trace ∧ Always (WithinBudget n) s.trace ∧
          ∀ l, ∃ s', (system fuel n).step s l = some s' := by
  intro hclaim
  obtain ⟨s, hreach, hs⟩ := System.exists_reach_of_runWhile (S := system 5 2) System.anyStep
    skippedAfterRecovery
    (fun s => s.trace.take 2 = [.returned .failure, .child 0 .failure] ∧
      recoveries (activation (s.trace.drop 2)) = 1) (s := .created {}) ⟨rfl, rfl, rfl⟩
    (by decide +kernel)
  obtain ⟨htake, hone⟩ := of_decide_eq_true hs
  have htrace : s.trace = .returned .failure :: .child 0 .failure :: s.trace.drop 2 := by
    have happend := List.take_append_drop 2 s.trace
    rw [htake] at happend
    exact happend.symm
  have htwo := (hclaim 2 5 s (by decide) hreach).2.1.now.failed _ htrace
  rw [hone] at htwo
  cases htwo

end Nav3D.BehaviorTree.RecoveryNode

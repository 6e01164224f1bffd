/-
Nav3D.BtNavigator.CallbackCleanup — what `executeCallback()` leaves behind.

The callback takes the muxer in `onGoalReceived` and releases it in
`onCompletion`, and resets the error codes at its end. `run()` catches the
exceptions of the ticks, but nothing catches those of the calls after it:
one out of `haltAllActions()` keeps the muxer, and every one of them leaves
the error codes as they are. `CleansUp` says which executions are left
without a trace all the same (`executeCallback_tidy`).
-/
import Nav3D.BtNavigator.ExecuteCallback

namespace Nav3D.BtNavigator

open Nav3D.Core Nav3D.Util Nav3D.BehaviorTree StateInvariant Transition.System
open BT (NodeStatus)

/-! ## Resetting the error codes -/

/-- The entries that `cleanErrorCodes()` writes. -/
def resets (prefixes : List String) : List (String × EntryValue) :=
  prefixes.flatMap fun codePrefix =>
    [(codePrefix ++ "_error_code", .number 0), (codePrefix ++ "_error_msg", .text "")]

/-- Every entry that there is has the value that it is reset to. -/
def AreReset (entries : Entries) (writes : List (String × EntryValue)) : Prop :=
  ∀ w ∈ writes, entries w.1 = none ∨ entries w.1 = some w.2

/-- Every entry takes the value that it is reset to. -/
def TakesAll (entries : Entries) (writes : List (String × EntryValue)) : Prop :=
  ∀ w ∈ writes, entries.takes w.1 w.2 = true

/-- A key is always reset to the same value. -/
def Functional (writes : List (String × EntryValue)) : Prop :=
  ∀ w ∈ writes, ∀ w' ∈ writes, w.1 = w'.1 → w.2 = w'.2

/-- The key of a code is not the key of a message. -/
theorem codeKey_ne_msgKey (p q : String) : p ++ "_error_code" ≠ q ++ "_error_msg" := by
  intro h
  have hcode : "_error_code".toList.getLast? = some 'e' := by decide
  have hmsg : "_error_msg".toList.getLast? = some 'g' := by decide
  have hlast := congrArg (fun s : String => s.toList.getLast?) h
  simp only [String.toList_append, List.getLast?_append, hcode, hmsg, Option.some_or] at hlast
  revert hlast
  decide

theorem functional_resets (prefixes : List String) : Functional (resets prefixes) := by
  intro w hw w' hw' hkey
  simp only [resets, List.mem_flatMap, List.mem_cons, List.not_mem_nil, or_false] at hw hw'
  obtain ⟨p, _, rfl | rfl⟩ := hw
  · obtain ⟨q, _, rfl | rfl⟩ := hw'
    · rfl
    · exact absurd hkey (codeKey_ne_msgKey p q)
  · obtain ⟨q, _, rfl | rfl⟩ := hw'
    · exact absurd hkey.symm (codeKey_ne_msgKey q p)
    · rfl

/-- Write the entries one after the other. -/
def setEntries : List (String × EntryValue) → CallbackM Unit
  | [] => pure ()
  | w :: writes => do
    setEntry w.1 w.2
    setEntries writes

theorem cleanErrorCodes_eq (prefixes : List String) :
    cleanErrorCodes prefixes = (do
      setEntries (resets prefixes)
      modify fun s => { s with bt := s.bt.resetInternalError }) := by
  induction prefixes with
  | nil => rfl
  | cons codePrefix prefixes ih =>
    show (do
      setEntry (codePrefix ++ "_error_code") (.number 0)
      setEntry (codePrefix ++ "_error_msg") (.text "")
      cleanErrorCodes prefixes) = _
    have hresets : resets (codePrefix :: prefixes) = (codePrefix ++ "_error_code", .number 0) ::
        (codePrefix ++ "_error_msg", .text "") :: resets prefixes := rfl
    rw [ih, hresets]
    simp only [setEntries, bind_assoc]

/-- `s'` is `s` with other entries. -/
def OnlyEntries (s s' : NavigatorState) : Prop :=
  s'.muxer = s.muxer ∧ s'.bt = s.bt ∧ s'.calls = s.calls

/-- One `set`. -/
theorem setEntry_spec (s : NavigatorState) (key : String) (value : EntryValue) :
    Triple (· = s) (setEntry key value)
      (fun _ s' => s.entries.takes key value = true ∧
        s' = { s with entries := Function.update s.entries key (some value) })
      (fun _ s' => s.entries.takes key value = false ∧ s' = s) := by
  refine triple_get_bind ?_
  rintro s' rfl
  unfold Entries.set
  cases htakes : s'.entries.takes key value with
  | true =>
    rw [if_pos rfl]
    exact triple_modify (by rintro _ rfl; exact ⟨rfl, rfl⟩)
  | false =>
    rw [if_neg Bool.false_ne_true]
    exact triple_throw (by rintro _ rfl; exact ⟨rfl, rfl⟩)

/-- The entries after the writes: those that are written and no others. -/
def Written (writes : List (String × EntryValue)) (entries entries' : Entries) : Prop :=
  ∀ key, entries' key = entries key ∨ ∃ value, (key, value) ∈ writes ∧ entries' key = some value

theorem sameType_self (v : EntryValue) : v.sameType v = true := by
  cases v <;> rfl

/-- After a write, a later write that is taken would have been taken before. -/
theorem takes_of_update {writes : List (String × EntryValue)} {w : String × EntryValue}
    {entries : Entries} (hfun : Functional (w :: writes)) (hw : entries.takes w.1 w.2 = true)
    {w' : String × EntryValue} (hw' : w' ∈ writes) :
    (Entries.takes (Function.update entries w.1 (some w.2)) w'.1 w'.2) =
      entries.takes w'.1 w'.2 := by
  by_cases hkey : w'.1 = w.1
  · have hvalue := hfun w' (List.mem_cons_of_mem _ hw') w List.mem_cons_self hkey
    rw [hkey, hvalue, hw, Entries.takes, Function.update_self, Option.all_some, sameType_self]
  · rw [Entries.takes, Function.update_of_ne hkey]
    rfl

/-- **The writes.** They all succeed, or one of them is not taken and its
entry is left. By induction on the writes. -/
theorem setEntries_spec (writes : List (String × EntryValue)) :
    ∀ {s : NavigatorState}, Functional writes → Triple (· = s) (setEntries writes)
      (fun _ s' => OnlyEntries s s' ∧ TakesAll s.entries writes ∧
        Written writes s.entries s'.entries ∧ ∀ w ∈ writes, s'.entries w.1 = some w.2)
      (fun _ s' => OnlyEntries s s' ∧ ∃ w ∈ writes, s.entries.takes w.1 w.2 = false ∧
        s'.entries w.1 = s.entries w.1) := by
  induction writes with
  | nil =>
    intro s _
    refine triple_pure ?_
    rintro _ rfl
    exact ⟨⟨rfl, rfl, rfl⟩, fun _ hw => (by cases hw), fun _ => .inl rfl, fun _ hw => by cases hw⟩
  | cons w writes ih =>
    intro s hfun
    have hhead : w ∈ w :: writes := List.mem_cons_self
    refine triple_bind (triple_conseq (setEntry_spec s w.1 w.2) (fun _ hs => hs)
      (fun _ _ hs => hs) ?_) fun _ => triple_start ?_
    · rintro _ _ ⟨hnot, rfl⟩
      exact ⟨⟨rfl, rfl, rfl⟩, w, hhead, hnot, rfl⟩
    rintro _ ⟨htakes, rfl⟩
    have hrest : Functional writes := fun v hv v' hv' =>
      hfun v (List.mem_cons_of_mem _ hv) v' (List.mem_cons_of_mem _ hv')
    refine triple_conseq (ih hrest) (fun _ hs => hs) ?_ ?_
    · rintro _ s' ⟨honly, htakes', hwritten, hset⟩
      refine ⟨honly, fun v hv => ?_, fun key => ?_, fun v hv => ?_⟩
      · rcases List.mem_cons.mp hv with rfl | hv
        · exact htakes
        · exact (takes_of_update hfun htakes hv).symm.trans (htakes' v hv)
      · rcases hwritten key with hsame | ⟨value, hmem, hvalue⟩
        · by_cases hkey : key = w.1
          · subst hkey
            exact .inr ⟨w.2, hhead, hsame.trans (Function.update_self ..)⟩
          · exact .inl (hsame.trans (Function.update_of_ne hkey ..))
        · exact .inr ⟨value, List.mem_cons_of_mem _ hmem, hvalue⟩
      · rcases List.mem_cons.mp hv with rfl | hv
        · -- a later write of the same entry writes the same value
          rcases hwritten v.1 with hsame | ⟨value, hmem, hvalue⟩
          · exact hsame.trans (Function.update_self ..)
          · rw [hvalue, hfun v hhead (v.1, value) (List.mem_cons_of_mem _ hmem) rfl]
        · exact hset v hv
    · rintro _ s' ⟨honly, v, hv, hnot, hleft⟩
      have hnot' := (takes_of_update hfun htakes hv).symm.trans hnot
      refine ⟨honly, v, List.mem_cons_of_mem _ hv, hnot', hleft.trans (Function.update_of_ne ?_ ..)⟩
      intro hkey
      rw [hkey, hfun v (List.mem_cons_of_mem _ hv) w hhead hkey, htakes] at hnot'
      cases hnot'

/-- An entry of another type has not been reset. -/
theorem not_reset_of_not_takes {entries : Entries} {key : String} {value : EntryValue}
    (h : entries.takes key value = false) : ¬ (entries key = none ∨ entries key = some value) := by
  rw [Entries.takes] at h
  rintro (hnone | hsome)
  · rw [hnone] at h
    cases h
  · rw [hsome, Option.all_some, sameType_self] at h
    cases h

/-! ## What is left of an execution -/

/-- No error is recorded. -/
structure NoErrors (prefixes : List String) (entries : Entries) (bt : BtActionServer) : Prop where
  entries : AreReset entries (resets prefixes)
  internalErrorCode : bt.internalErrorCode = errorNone
  internalErrorMsg : bt.internalErrorMsg = ""

/-- The muxer does not name the navigator, and no error is recorded. -/
structure Tidy (nav : NavigatorConfig) (s : NavigatorState) : Prop where
  muxer : s.muxer.currentNavigator ≠ nav.getName
  noErrors : NoErrors nav.errorCodeNamePrefixes s.entries s.bt

/-- `cleanErrorCodes()` resets everything, or throws and does not. -/
theorem cleanErrorCodes_spec (prefixes : List String) (s : NavigatorState) :
    Triple (· = s) (cleanErrorCodes prefixes)
      (fun _ s' => s'.muxer = s.muxer ∧ TakesAll s.entries (resets prefixes) ∧
        NoErrors prefixes s'.entries s'.bt)
      (fun _ s' => s'.muxer = s.muxer ∧ ¬ TakesAll s.entries (resets prefixes) ∧
        ¬ NoErrors prefixes s'.entries s'.bt) := by
  rw [cleanErrorCodes_eq]
  refine triple_bind (triple_conseq (setEntries_spec _ (functional_resets prefixes))
    (fun _ hs => hs) (fun _ _ hs => hs) ?_) fun _ => triple_modify ?_
  · rintro _ s' ⟨honly, w, hw, hnot, hleft⟩
    refine ⟨honly.1, fun htakes => ?_, fun herrors => ?_⟩
    · rw [htakes w hw] at hnot
      cases hnot
    · have hreset := herrors.entries w hw
      rw [hleft] at hreset
      exact not_reset_of_not_takes hnot hreset
  · rintro s' ⟨honly, htakes, _, hset⟩
    exact ⟨honly.1, htakes, fun w hw => .inr (hset w hw), rfl, rfl⟩

/-! ## The muxer -/

/-- Another navigator starts. -/
def starts {nav : NavigatorConfig} (calls : OtherCalls nav) : Bool :=
  calls.any fun c => MuxerCall.starts c.val

/-- The other navigators do not install this one's name. -/
theorem muxerAfter_other {nav : NavigatorConfig} (calls : OtherCalls nav) :
    ∀ {m : NavigatorMuxer}, m.currentNavigator ≠ nav.getName →
      (muxerAfter m calls).currentNavigator ≠ nav.getName := by
  induction calls with
  | nil => exact fun h => h
  | cons c calls ih =>
    intro m h
    refine ih ?_
    obtain ⟨c, hc⟩ := c
    cases c with
    | startNavigating name => exact hc
    | stopNavigating name =>
      show (m.stopNavigating name).currentNavigator ≠ nav.getName
      unfold NavigatorMuxer.stopNavigating
      split
      · exact h
      · exact nav.named.symm

/-- They take it away only by starting. -/
theorem muxerAfter_named {nav : NavigatorConfig} (calls : OtherCalls nav) :
    ∀ {m : NavigatorMuxer}, m.currentNavigator = nav.getName →
      ((muxerAfter m calls).currentNavigator ≠ nav.getName ↔ starts calls = true) := by
  induction calls with
  | nil => exact fun h => ⟨fun hne => absurd h hne, fun hf => by cases hf⟩
  | cons c calls ih =>
    intro m h
    obtain ⟨c, hc⟩ := c
    cases c with
    | startNavigating name => exact ⟨fun _ => rfl, fun _ => muxerAfter_other calls hc⟩
    | stopNavigating name =>
      refine ih (m := m.stopNavigating name) ?_
      rw [NavigatorMuxer.stopNavigating, if_pos]
      · exact h
      · rw [h]
        exact fun heq => hc heq.symm

theorem stopNavigating_ne (nav : NavigatorConfig) (m : NavigatorMuxer) :
    (m.stopNavigating nav.getName).currentNavigator ≠ nav.getName := by
  unfold NavigatorMuxer.stopNavigating
  split
  · next h => exact h
  · exact nav.named.symm

/-! ## Which executions clean up -/

/-- The goal is ended and the error codes are reset: the call that ends the
goal throws only where no error is recorded, and every entry takes its
value. -/
def EndsClean (nav : NavigatorConfig) (throws : Bool) (entries : Entries) (bt : BtActionServer) :
    Prop :=
  if throws then NoErrors nav.errorCodeNamePrefixes entries bt
  else TakesAll entries (resets nav.errorCodeNamePrefixes)

/-- After `startNavigating`: `haltAllActions()` does not throw (or another
navigator has started and no error is recorded), and `goalCompleted()`
throws only where no error is recorded. -/
def RunsClean (nav : NavigatorConfig) (x : Execution nav) : Prop :=
  match x.haltAllActions.value with
  | none => starts x.duringRun = true ∧
    NoErrors nav.errorCodeNamePrefixes x.haltAllActions.entries x.haltAllActions.bt
  | some _ =>
    match x.goalCompleted.value with
    | none => NoErrors nav.errorCodeNamePrefixes x.goalCompleted.entries x.goalCompleted.bt
    | some _ => EndsClean nav x.endThrows x.goalCompleted.entries x.goalCompleted.bt

/-- The calls outside of the `try` block of `run()` throw only where that
leaves nothing to clean up. -/
def CleansUp (nav : NavigatorConfig) (x : Execution nav) (s : NavigatorState) : Prop :=
  if s.muxer.isNavigating then EndsClean nav x.endThrows s.entries s.bt
  else
    match x.goalReceived.value with
    | none => NoErrors nav.errorCodeNamePrefixes x.goalReceived.entries x.goalReceived.bt
    | some false => EndsClean nav x.endThrows x.goalReceived.entries x.goalReceived.bt
    | some true => RunsClean nav x

/-! ## The parts of the callback -/

theorem callOut_spec {α : Type} (outcome : Outcome α) (s : NavigatorState) :
    Triple (· = s) (callOut outcome)
      (fun a s' => outcome.value = some a ∧
        s' = { s with entries := outcome.entries, bt := outcome.bt })
      (fun _ s' => outcome.value = none ∧
        s' = { s with entries := outcome.entries, bt := outcome.bt }) := by
  refine triple_bind (Q := fun _ s' => s' = { s with entries := outcome.entries, bt := outcome.bt })
    (triple_modify (by rintro _ rfl; rfl)) fun _ => ?_
  cases outcome.value with
  | some a => exact triple_pure fun _ hs => ⟨rfl, hs⟩
  | none => exact triple_throw fun _ hs => ⟨rfl, hs⟩

/-- Code of the tree leaves the muxer. -/
theorem callOut_muxer {α : Type} (outcome : Outcome α) (m : NavigatorMuxer) :
    Triple (fun s => s.muxer = m) (callOut outcome) (fun _ s' => s'.muxer = m)
      (fun _ s' => s'.muxer = m) := by
  refine triple_start fun s hs => triple_conseq (callOut_spec outcome s) (fun _ h => h) ?_ ?_
  · rintro _ _ ⟨_, rfl⟩
    exact hs
  · rintro _ _ ⟨_, rfl⟩
    exact hs

/-- The loop, by induction on its passes. -/
theorem runLoop_muxer (loop : List LoopInput) (m : NavigatorMuxer) :
    Triple (fun s => s.muxer = m) (runLoop loop) (fun _ s' => s'.muxer = m)
      (fun _ s' => s'.muxer = m) := by
  induction loop with
  | nil => exact triple_pure fun _ hs => hs
  | cons input rest ih =>
    refine triple_ite (fun _ => ?_) (fun _ => ?_)
    · exact triple_bind (callOut_muxer _ m) fun _ => triple_pure fun _ hs => hs
    · refine triple_bind (callOut_muxer _ m) fun result => triple_bind (callOut_muxer _ m) fun _ => ?_
      exact triple_ite (fun _ => ih) (fun _ => triple_pure fun _ hs => hs)

/-- `run()` throws nothing and leaves the muxer. -/
theorem run_muxer (loop : List LoopInput) (m : NavigatorMuxer) :
    Triple (fun s => s.muxer = m) (BehaviorTreeEngine.run loop)
      (fun _ s' => s'.muxer = m) (fun _ _ => False) :=
  triple_tryCatch (runLoop_muxer loop m) fun _ => triple_pure fun _ hs => hs

/-- The end of the callback, past the muxer. -/
theorem end_tidy {nav : NavigatorConfig} (throws : Bool) (call : Call ErrorResult)
    {s : NavigatorState} (hmuxer : s.muxer.currentNavigator ≠ nav.getName) :
    Triple (· = s) (do
      endGoal throws call
      cleanErrorCodes nav.errorCodeNamePrefixes)
      (fun _ s' => Tidy nav s' ↔ EndsClean nav throws s.entries s.bt)
      (fun _ s' => Tidy nav s' ↔ EndsClean nav throws s.entries s.bt) := by
  cases throws with
  | true =>
    refine triple_bind (Q := fun _ _ => False) (triple_throw ?_) fun _ _ hf => hf.elim
    rintro _ rfl
    exact ⟨fun h => h.noErrors, fun h => ⟨hmuxer, h⟩⟩
  | false =>
    refine triple_bind (Q := fun _ s' => s' = { s with calls := call :: s.calls })
      (triple_modify (by rintro _ rfl; rfl)) fun _ => triple_start ?_
    rintro _ rfl
    refine triple_conseq (cleanErrorCodes_spec _ _) (fun _ hs => hs) ?_ ?_
    · rintro _ s' ⟨hsame, htakes, herrors⟩
      exact ⟨fun _ => htakes, fun _ => ⟨by rw [hsame]; exact hmuxer, herrors⟩⟩
    · rintro _ s' ⟨_, hnot, herrors⟩
      exact ⟨fun h => absurd h.noErrors herrors, fun h => absurd h hnot⟩

/-- `onGoalReceived`: the muxer is taken with the goal. -/
theorem onGoalReceived_spec {nav : NavigatorConfig} (x : Execution nav) {s : NavigatorState}
    (hmuxer : s.muxer.currentNavigator ≠ nav.getName) :
    Triple (· = s) (onGoalReceived nav x)
      (fun accepted s' => if accepted then
          s'.muxer.currentNavigator = nav.getName ∧ (CleansUp nav x s ↔ RunsClean nav x)
        else s'.muxer.currentNavigator ≠ nav.getName ∧
          (CleansUp nav x s ↔ EndsClean nav x.endThrows s'.entries s'.bt))
      (fun _ s' => Tidy nav s' ↔ CleansUp nav x s) := by
  refine triple_get_bind ?_
  rintro s' rfl
  refine triple_ite (fun hbusy => triple_pure ?_) (fun hfree => ?_)
  · rintro _ rfl
    refine ⟨hmuxer, ?_⟩
    rw [CleansUp, if_pos hbusy]
  rw [CleansUp, if_neg hfree]
  have hother := muxerAfter_other x.duringGoalReceived hmuxer
  refine triple_bind (Q := fun _ s₁ =>
    s₁ = { s' with muxer := muxerAfter s'.muxer x.duringGoalReceived })
    (triple_modify (by rintro _ rfl; rfl)) fun _ => triple_start ?_
  rintro s₁ rfl
  refine triple_bind (triple_conseq (callOut_spec x.goalReceived _) (fun _ hs => hs)
    (fun _ _ hs => hs) ?_) fun goalAccepted => triple_start ?_
  · rintro _ _ ⟨hthrows, rfl⟩
    rw [hthrows]
    exact ⟨fun h => h.noErrors, fun h => ⟨hother, h⟩⟩
  rintro _ ⟨hvalue, rfl⟩
  rw [hvalue]
  cases goalAccepted with
  | false =>
    refine triple_ite (fun hf => absurd hf Bool.false_ne_true) (fun _ => triple_pure ?_)
    rintro _ rfl
    exact ⟨hother, Iff.rfl⟩
  | true =>
    refine triple_ite (fun _ => ?_) (fun hf => absurd rfl hf)
    refine triple_bind (Q := fun _ s₂ => s₂.muxer.currentNavigator = nav.getName)
      (triple_modify (by rintro _ rfl; rfl)) fun _ => triple_pure fun _ hs => ?_
    exact ⟨hs, Iff.rfl⟩

/-- `onCompletion`: the muxer is released before `goalCompleted()`. -/
theorem onCompletion_spec {nav : NavigatorConfig} (x : Execution nav) (result : ErrorResult)
    (s : NavigatorState) :
    Triple (· = s) (onCompletion nav x result)
      (fun _ s' => x.goalCompleted.value.isSome = true ∧
        s'.muxer.currentNavigator ≠ nav.getName ∧ s'.entries = x.goalCompleted.entries ∧
        s'.bt = x.goalCompleted.bt)
      (fun _ s' => x.goalCompleted.value = none ∧ s'.muxer.currentNavigator ≠ nav.getName ∧
        s'.entries = x.goalCompleted.entries ∧ s'.bt = x.goalCompleted.bt) := by
  refine triple_bind (Q := fun _ s₁ => s₁.muxer.currentNavigator ≠ nav.getName)
    (triple_modify (by rintro _ rfl; exact stopNavigating_ne nav _)) fun _ => ?_
  refine triple_bind (Q := fun _ s₁ => s₁.muxer.currentNavigator ≠ nav.getName)
    (triple_modify fun _ hs => muxerAfter_other _ hs) fun _ => triple_start fun s₁ hs₁ => ?_
  refine triple_bind (triple_conseq (callOut_spec x.goalCompleted s₁) (fun _ hs => hs)
    (fun _ _ hs => hs) ?_) fun complete => triple_pure ?_
  · rintro _ _ ⟨hvalue, rfl⟩
    exact ⟨hvalue, hs₁, rfl, rfl⟩
  · rintro _ ⟨hvalue, rfl⟩
    exact ⟨by rw [hvalue]; rfl, hs₁, rfl, rfl⟩

/-- **One execution**: it is left tidy if and only if it cleans up. -/
theorem executeCallback_tidy {nav : NavigatorConfig} (x : Execution nav) {s : NavigatorState}
    (hmuxer : s.muxer.currentNavigator ≠ nav.getName) :
    Triple (· = s) (executeCallback nav x) (fun _ s' => Tidy nav s' ↔ CleansUp nav x s)
      (fun _ s' => Tidy nav s' ↔ CleansUp nav x s) := by
  refine triple_bind (onGoalReceived_spec x hmuxer) fun accepted => triple_start fun s₁ hs₁ => ?_
  cases accepted with
  | false =>
    obtain ⟨hfree, hcleans⟩ := hs₁
    rw [hcleans]
    refine triple_get_bind ?_
    rintro s₂ rfl
    exact end_tidy _ _ hfree
  | true =>
    obtain ⟨htaken, hcleans⟩ := hs₁
    rw [hcleans, RunsClean]
    have hnamed := muxerAfter_named x.duringRun htaken
    refine triple_bind (Q := fun _ s₂ => s₂.muxer = muxerAfter s₁.muxer x.duringRun)
      (triple_modify (by rintro _ rfl; rfl)) fun _ => ?_
    refine triple_bind (triple_total (run_muxer x.loop _)) fun rc => triple_start fun s₂ hs₂ => ?_
    refine triple_bind (triple_conseq (callOut_spec x.haltAllActions s₂) (fun _ hs => hs)
      (fun _ _ hs => hs) ?_) fun halted => triple_start ?_
    · rintro _ _ ⟨hthrows, rfl⟩
      rw [hthrows]
      refine ⟨fun h => ⟨hnamed.mp ?_, h.noErrors⟩, fun h => ⟨?_, h.2⟩⟩
      · rw [← hs₂]
        exact h.muxer
      · show s₂.muxer.currentNavigator ≠ nav.getName
        rw [hs₂]
        exact hnamed.mpr h.1
    rintro _ ⟨hhalted, rfl⟩
    rw [hhalted]
    refine triple_get_bind ?_
    rintro s₃ rfl
    refine triple_bind (triple_conseq (onCompletion_spec x _ _) (fun _ hs => hs)
      (fun _ _ hs => hs) ?_) fun result => triple_start ?_
    · rintro _ s₄ ⟨hthrows, hfree, hentries, hbt⟩
      rw [hthrows]
      refine ⟨fun h => ?_, fun h => ⟨hfree, ?_⟩⟩
      · rw [← hentries, ← hbt]
        exact h.noErrors
      · rw [hentries, hbt]
        exact h
    · rintro s₄ ⟨hcompletes, hfree, hentries, hbt⟩
      obtain ⟨complete, hcomplete⟩ := Option.isSome_iff_exists.mp hcompletes
      rw [hcomplete]
      dsimp only
      rw [← hentries, ← hbt]
      exact end_tidy _ _ hfree

/-! ## Runs -/

/-- The state that an execution leaves; `work()` catches the exception. -/
def executed (nav : NavigatorConfig) (x : Execution nav) (s : NavigatorState) : NavigatorState :=
  finalState ((executeCallback nav x).run s)

/-- An execution of this navigator, or calls of others in between. -/
inductive CleanupLabel (nav : NavigatorConfig) where
  | execute (x : Execution nav)
  | others (calls : OtherCalls nav)

/-- A navigator that executes one goal after the other. -/
def cleanupSystem (nav : NavigatorConfig) :
    Transition.System NavigatorState (CleanupLabel nav) where
  init := fun s => ∃ entries, AreReset entries (resets nav.errorCodeNamePrefixes) ∧
    s = ⟨.initial, entries, .initial, []⟩
  step := fun s l => match l with
    | .execute x => some (executed nav x s)
    | .others calls => some { s with muxer := muxerAfter s.muxer calls }

/-- The condition on the steps. -/
def ExecutionCleansUp (nav : NavigatorConfig) (s : NavigatorState) : CleanupLabel nav → Prop
  | .execute x => CleansUp nav x s
  | .others _ => True

theorem executed_tidy {nav : NavigatorConfig} (x : Execution nav) {s : NavigatorState}
    (hmuxer : s.muxer.currentNavigator ≠ nav.getName) :
    Tidy nav (executed nav x s) ↔ CleansUp nav x s := by
  have hpost := executeCallback_tidy x hmuxer s rfl
  unfold executed
  cases hrun : (executeCallback nav x).run s with
  | ok _ s' =>
    rw [hrun] at hpost
    exact hpost
  | error _ s' =>
    rw [hrun] at hpost
    exact hpost

/-- Where no error is recorded, none is reported. -/
theorem populateErrorCode_of_noErrors {prefixes : List String} {s : NavigatorState}
    (h : NoErrors prefixes s.entries s.bt) : populateErrorCode prefixes s = default := by
  have hskip : ∀ highest, (prefixes.filterMap (errorEntry s.entries)).foldl
      BtActionServer.higherPriority highest = highest := by
    have hreset := h.entries
    clear h
    induction prefixes with
    | nil => exact fun _ => rfl
    | cons codePrefix prefixes ih =>
      intro highest
      have hrest := ih (fun w hw =>
        hreset w (List.mem_cons_of_mem _ (List.mem_cons_of_mem _ hw))) highest
      rw [List.filterMap_cons, errorEntry, Entries.getInt]
      rcases hreset (codePrefix ++ "_error_code", .number 0) List.mem_cons_self with hnone | hzero
      · rw [hnone]
        exact hrest
      · -- a code of zero is no error
        rw [hzero]
        simpa [BtActionServer.higherPriority] using hrest
  have hinternal : s.bt.internalError = (BtActionServer.intMax, "") :=
    if_neg (not_not_intro h.internalErrorCode)
  simp only [populateErrorCode, populateErrorCodeInto, BtActionServer.populateErrorCode, hskip,
    hinternal]
  exact if_neg (not_not_intro rfl)

/-- **Every exit cleans up** in a run whose executions throw, outside of the
`try` block of `run()`, only where that leaves nothing to clean up: the
muxer does not name the navigator, no error is recorded, and the next goal
would report none. And an execution that does not meet the condition is not
left so. -/
theorem cleans_up {nav : NavigatorConfig} {s : NavigatorState}
    (h : (cleanupSystem nav).Reach (ExecutionCleansUp nav) s) :
    Tidy nav s ∧ populateErrorCode nav.errorCodeNamePrefixes s = default ∧
    ∀ x, Tidy nav (executed nav x s) ↔ CleansUp nav x s := by
  have htidy : Tidy nav s := by
    refine h.invariant (Tidy nav) ?_ fun s l s' hs hc hstep => ?_
    · rintro _ ⟨entries, hreset, rfl⟩
      exact ⟨nav.named.symm, hreset, rfl, rfl⟩
    · cases l with
      | execute x =>
        cases hstep
        exact (executed_tidy x hs.muxer).mpr hc
      | others calls =>
        cases hstep
        exact ⟨muxerAfter_other calls hs.muxer, hs.noErrors⟩
  exact ⟨htidy, populateErrorCode_of_noErrors htidy.noErrors, fun x => executed_tidy x htidy.muxer⟩

/-! ## Three executions -/

/-- `NavigateToPoseNavigator` with one prefix. -/
def navigateToPose : NavigatorConfig := ⟨"navigate_to_pose", by decide, ["follow_path"]⟩

/-- No entries, and the error of a controller that does not exist. -/
def noEntries : Entries := fun _ => none

def invalidController : Entries :=
  Function.update (Function.update noEntries "follow_path_error_code" (some (.number 101)))
    "follow_path_error_msg" (some (.text "invalid controller"))

/-- The tree ends with one tick. -/
def onePass (outcome : Outcome NodeStatus) : List LoopInput :=
  [⟨false, ⟨some (), noEntries, .initial⟩, outcome, ⟨some (), noEntries, .initial⟩⟩]

/-- The tree has succeeded, and a node throws when it is halted. -/
def haltThrows : Execution navigateToPose where
  duringGoalReceived := []
  goalReceived := ⟨some true, noEntries, .initial⟩
  duringRun := []
  loop := onePass ⟨some .success, noEntries, .initial⟩
  haltAllActions := ⟨none, noEntries, .initial⟩
  duringCompletion := []
  goalCompleted := ⟨some id, noEntries, .initial⟩
  endThrows := false

/-- The tree has failed with an error code, and `goalCompleted()` returns
or throws. -/
def treeFails (completes : Option (ErrorResult → ErrorResult)) : Execution navigateToPose where
  duringGoalReceived := []
  goalReceived := ⟨some true, noEntries, .initial⟩
  duringRun := []
  loop := onePass ⟨none, invalidController, .initial⟩
  haltAllActions := ⟨some (), invalidController, .initial⟩
  duringCompletion := []
  goalCompleted := ⟨completes, invalidController, .initial⟩
  endThrows := false

def navigateToPoseState : NavigatorState := ⟨.initial, noEntries, .initial, []⟩

theorem navigateToPose_init : (cleanupSystem navigateToPose).init navigateToPoseState :=
  ⟨noEntries, fun _ _ => .inl rfl, rfl⟩

/-- The muxer still names the navigator; and the error of a goal is still
there for the next one. -/
theorem left_behind : ∃ s s', (cleanupSystem navigateToPose).Reach anyStep s ∧
    (cleanupSystem navigateToPose).Reach anyStep s' ∧
    s.muxer.currentNavigator = navigateToPose.getName ∧ ¬ Tidy navigateToPose s ∧
    populateErrorCode navigateToPose.errorCodeNamePrefixes s' = ⟨101, "invalid controller"⟩ ∧
    ¬ Tidy navigateToPose s' := by
  have hnamed : (executed navigateToPose haltThrows navigateToPoseState).muxer.currentNavigator =
      navigateToPose.getName := by decide +kernel
  have herror : populateErrorCode navigateToPose.errorCodeNamePrefixes
      (executed navigateToPose (treeFails none) navigateToPoseState) =
      ⟨101, "invalid controller"⟩ := by decide +kernel
  refine ⟨_, _, .step (l := .execute haltThrows) (.init navigateToPose_init) trivial rfl,
    .step (l := .execute (treeFails none)) (.init navigateToPose_init) trivial rfl,
    hnamed, fun htidy => htidy.muxer hnamed, herror, fun htidy => ?_⟩
  rw [populateErrorCode_of_noErrors htidy.noErrors] at herror
  revert herror
  decide

/-- A tick that throws does no harm: the goal ends with its error, which is
reset. -/
theorem cleans_up_tick_throws : ∃ s,
    (cleanupSystem navigateToPose).Reach (ExecutionCleansUp navigateToPose) s ∧
    s.calls = [.terminateCurrent ⟨101, "invalid controller"⟩] ∧ Tidy navigateToPose s := by
  have hclean : CleansUp navigateToPose (treeFails (some id)) navigateToPoseState := by
    show TakesAll invalidController (resets ["follow_path"])
    unfold TakesAll
    decide +kernel
  have hreach : (cleanupSystem navigateToPose).Reach (ExecutionCleansUp navigateToPose)
      (executed navigateToPose (treeFails (some id)) navigateToPoseState) :=
    .step (l := .execute (treeFails (some id))) (.init navigateToPose_init) hclean rfl
  exact ⟨_, hreach, rfl, (cleans_up hreach).1⟩

end Nav3D.BtNavigator

/-
Nav3D.BtNavigator.ErrorCodes — which error `populateErrorCode(result)`
reports (`bt_action_server_impl.hpp`).

The function keeps the smallest code and its message in two variables. The
code is assigned before the message is read, so a message that cannot be
read leaves the message of an earlier error under the new code
(`populateErrorCode_mixes`). `populateErrorCode_fromOneSource_iff` says for
which internal errors and blackboards the two agree.
-/
import Nav3D.BtNavigator.ExecuteCallback
import Nav3D.Lib.RunningMin

namespace Nav3D.BtNavigator

open Nav3D.BehaviorTree RunningMin

/-! ## The sources of errors -/

/-- An error code that is not zero, with its message if there is one. -/
structure ErrorSource where
  code : Int
  msg : Option String
  deriving DecidableEq

/-- The internal error. -/
def internalSource (bt : BtActionServer) : List ErrorSource :=
  if bt.internalErrorCode ≠ 0 then [⟨bt.internalErrorCode.toNat, some bt.internalErrorMsg⟩] else []

/-- The entries of a prefix. -/
def prefixSource (entries : Entries) (codePrefix : String) : Option ErrorSource :=
  match entries.getInt (codePrefix ++ "_error_code") with
  | none => none
  | some code =>
    if code ≠ 0 then some ⟨code, entries.getString (codePrefix ++ "_error_msg")⟩ else none

/-- All errors, in the order in which they are looked at. -/
def errorSources (prefixes : List String) (s : NavigatorState) : List ErrorSource :=
  internalSource s.bt ++ prefixes.filterMap (prefixSource s.entries)

/-- The result after populating reports one of the smallest errors, with its
message or without one, or it is the result before if there is no error. -/
def FromOneSource (sources : List ErrorSource) (before after : ErrorResult) : Prop :=
  (sources = [] → after = before) ∧
  (sources ≠ [] → ∃ source ∈ sources, (∀ other ∈ sources, source.code ≤ other.code) ∧
    (after.errorCode.toNat : Int) = source.code ∧ after.errorMsg = source.msg.getD "")

/-! ## The loop -/

/-- Take the code of an error, and its message if there is one. -/
def takeSource (highest : Int × String) (source : ErrorSource) : Int × String :=
  (source.code, source.msg.getD highest.2)

/-- The variables without an error. -/
def noError : Int × String := (BtActionServer.intMax, "")

/-- The message that the errors before the smallest one leave: that of the
last one with a message among those that were the smallest so far. -/
def leftMessage (before : List ErrorSource) : String :=
  ((recordsBelow ErrorSource.code BtActionServer.intMax before).filterMap
    ErrorSource.msg).getLastD ""

theorem foldl_takeSource_msg (sources : List ErrorSource) (highest : Int × String) :
    (sources.foldl takeSource highest).2 =
      (sources.filterMap ErrorSource.msg).getLastD highest.2 := by
  induction sources generalizing highest with
  | nil => rfl
  | cons source sources ih =>
    rw [List.foldl_cons, ih, takeSource]
    cases hmsg : source.msg with
    | none => rw [List.filterMap_cons_none hmsg, Option.getD_none]
    | some msg => rw [List.filterMap_cons_some hmsg, List.getLastD_cons, Option.getD_some]

/-- One pass of the loop, for an error. -/
def higherSource (highest : Int × String) (source : ErrorSource) : Int × String :=
  if source.code < highest.1 then takeSource highest source else highest

theorem foldl_higherSource (sources : List ErrorSource) :
    sources.foldl higherSource noError =
      (recordsBelow ErrorSource.code BtActionServer.intMax sources).foldl takeSource noError := by
  refine foldl_eq_foldl_records ErrorSource.code Prod.fst (fun _ _ => rfl) ?_ ?_ sources noError
  · intro highest source hlt
    rw [higherSource, if_pos hlt]
  · intro highest source hle
    rw [higherSource, if_neg (not_lt.mpr hle)]

/-- The two variables after the loop. -/
theorem highest_eq (prefixes : List String) (s : NavigatorState) :
    (prefixes.filterMap (errorEntry s.entries)).foldl BtActionServer.higherPriority
        s.bt.internalError =
      (errorSources prefixes s).foldl higherSource noError := by
  have hinternal : (internalSource s.bt).foldl higherSource noError = s.bt.internalError := by
    unfold internalSource BtActionServer.internalError
    split
    · have hlt : (s.bt.internalErrorCode.toNat : Int) < BtActionServer.intMax := by
        have := s.bt.internalErrorCode.toNat_lt
        unfold BtActionServer.intMax
        omega
      simp [noError, higherSource, takeSource, hlt]
    · rfl
  rw [errorSources, List.foldl_append, hinternal]
  generalize s.bt.internalError = highest
  induction prefixes generalizing highest with
  | nil => rfl
  | cons codePrefix prefixes ih =>
    rw [List.filterMap_cons, List.filterMap_cons, errorEntry, prefixSource]
    cases s.entries.getInt (codePrefix ++ "_error_code") with
    | none => exact ih highest
    | some code =>
      by_cases hzero : code = 0
      · simpa [hzero, BtActionServer.higherPriority] using ih highest
      · simpa [hzero, BtActionServer.higherPriority, higherSource, takeSource] using ih _

/-- What the function does if there is an error. -/
theorem populateErrorCodeInto_of_firstMin {prefixes : List String} {s : NavigatorState}
    {before after : List ErrorSource} {first : ErrorSource}
    (h : FirstMin ErrorSource.code (errorSources prefixes s) before first after)
    (hlt : first.code < BtActionServer.intMax) (result : ErrorResult) :
    populateErrorCodeInto prefixes s result =
      ⟨UInt16.ofInt first.code, first.msg.getD (leftMessage before)⟩ := by
  have hhighest : (prefixes.filterMap (errorEntry s.entries)).foldl
      BtActionServer.higherPriority s.bt.internalError =
        (first.code, first.msg.getD (leftMessage before)) := by
    rw [highest_eq, foldl_higherSource, h.recordsBelow_eq, if_pos hlt, List.foldl_append]
    simp only [List.foldl_cons, List.foldl_nil, takeSource, foldl_takeSource_msg]
    rfl
  rw [populateErrorCodeInto, BtActionServer.populateErrorCode, hhighest]
  exact if_pos (ne_of_lt hlt)

theorem populateErrorCodeInto_of_no_source {prefixes : List String} {s : NavigatorState}
    (h : errorSources prefixes s = []) (result : ErrorResult) :
    populateErrorCodeInto prefixes s result = result := by
  simp [populateErrorCodeInto, BtActionServer.populateErrorCode, highest_eq, h, noError]

/-! ## Code and message -/

/-- Where there is an error, the smallest code fits into the result, and the
first error with this code has a message, or the message that the errors
before it leave is empty or that of another error with this code. -/
def MessageKept (sources : List ErrorSource) : Prop :=
  ∀ before first after, FirstMin ErrorSource.code sources before first after →
    (0 ≤ first.code ∧ first.code ≤ 65535) ∧
    (first.msg.isSome = true ∨ leftMessage before = "" ∨
      ∃ other ∈ after, other.code = first.code ∧ other.msg = some (leftMessage before))

theorem toNat_ofInt_eq {code : Int} (h : 0 ≤ code ∧ code ≤ 65535) :
    ((UInt16.ofInt code).toNat : Int) = code := by
  rw [UInt16.ofInt, UInt16.toNat_ofNat']
  omega

/-- **Error code and message.** For every internal error, all prefixes and
every blackboard, the result reports one of the smallest errors exactly
where the message of the smallest error is kept. -/
theorem populateErrorCode_fromOneSource_iff (prefixes : List String) (s : NavigatorState)
    (result : ErrorResult) :
    FromOneSource (errorSources prefixes s) result (populateErrorCodeInto prefixes s result) ↔
      MessageKept (errorSources prefixes s) := by
  constructor
  · intro hone before first after hfirst
    have hne : errorSources prefixes s ≠ [] := List.ne_nil_of_mem hfirst.mem
    obtain ⟨source, hsource, hsmallest, hcode, hmsg⟩ := hone.2 hne
    have hsame : source.code = first.code :=
      le_antisymm (hsmallest first hfirst.mem) (hfirst.le hsource)
    have hrange : 0 ≤ first.code ∧ first.code ≤ 65535 := by
      have := (populateErrorCodeInto prefixes s result).errorCode.toNat_lt
      omega
    refine ⟨hrange, ?_⟩
    have hlt : first.code < BtActionServer.intMax := by
      unfold BtActionServer.intMax
      omega
    rw [populateErrorCodeInto_of_firstMin hfirst hlt] at hmsg
    cases hfirstMsg : first.msg with
    | some msg => exact .inl rfl
    | none =>
      rw [hfirstMsg, Option.getD_none] at hmsg
      cases hsourceMsg : source.msg with
      | none =>
        rw [hsourceMsg, Option.getD_none] at hmsg
        exact .inr (.inl hmsg)
      | some msg =>
        rw [hsourceMsg, Option.getD_some] at hmsg
        -- an error with this code that is not the first is one of the later ones
        rw [hfirst.eq, List.mem_append, List.mem_cons] at hsource
        rcases hsource with hbefore | rfl | hafter
        · exact absurd hsame (ne_of_gt (hfirst.before_lt source hbefore))
        · simp [hfirstMsg] at hsourceMsg
        · exact .inr (.inr ⟨source, hafter, hsame, hsourceMsg.trans (congrArg some hmsg.symm)⟩)
  · intro hkept
    refine ⟨fun hnil => populateErrorCodeInto_of_no_source hnil result, fun hne => ?_⟩
    obtain ⟨before, first, after, hfirst⟩ := exists_firstMin ErrorSource.code hne
    obtain ⟨hrange, hmsg⟩ := hkept before first after hfirst
    have hlt : first.code < BtActionServer.intMax := by
      unfold BtActionServer.intMax
      omega
    rw [populateErrorCodeInto_of_firstMin hfirst hlt]
    have hcode := toNat_ofInt_eq hrange
    rcases hmsg with hmsg | hmsg | ⟨other, hother, hsame, hmsg⟩
    · obtain ⟨msg, hmsg⟩ := Option.isSome_iff_exists.mp hmsg
      exact ⟨first, hfirst.mem, fun _ => hfirst.le, hcode, by simp [hmsg]⟩
    · exact ⟨first, hfirst.mem, fun _ => hfirst.le, hcode, by simp [hmsg]⟩
    · cases hfirstMsg : first.msg with
      | some msg => exact ⟨first, hfirst.mem, fun _ => hfirst.le, hcode, by simp [hfirstMsg]⟩
      | none =>
        refine ⟨other, ?_, fun x hx => hsame ▸ hfirst.le hx, by rw [hsame]; exact hcode, ?_⟩
        · rw [hfirst.eq]
          exact List.mem_append_right before (List.mem_cons_of_mem first hother)
        · simp [hmsg]

/-- An internal error, and a prefix whose code has no message. -/
def mixedErrors : NavigatorState where
  muxer := ⟨""⟩
  entries := fun key => if key = "compute_path_error_code" then some (.number 101) else none
  bt := ⟨"", 9001, "Couldn't open input XML file: tree.xml"⟩
  calls := []

/-- The result has the code of the prefix and the message of the internal
error. -/
theorem populateErrorCode_mixes :
    ¬ ∀ prefixes s result, FromOneSource (errorSources prefixes s) result
      (populateErrorCodeInto prefixes s result) := by
  intro hclaim
  obtain ⟨source, hsource, -, hcode, hmsg⟩ :=
    (hclaim ["compute_path"] mixedErrors default).2 (by decide)
  have hresult : populateErrorCodeInto ["compute_path"] mixedErrors default =
      ⟨101, "Couldn't open input XML file: tree.xml"⟩ := by decide
  have hsources : errorSources ["compute_path"] mixedErrors =
      [⟨9001, some "Couldn't open input XML file: tree.xml"⟩, ⟨101, none⟩] := by decide
  rw [hsources] at hsource
  rw [hresult] at hcode hmsg
  rcases List.mem_cons.mp hsource with rfl | hsource
  · simp at hcode
  · obtain rfl := List.mem_singleton.mp hsource
    simp at hmsg

end Nav3D.BtNavigator

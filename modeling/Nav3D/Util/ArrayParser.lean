/-
Nav3D.Util.ArrayParser — the parser for arrays of arrays of floats
(`array_parser.cpp`).

The stream is what is left of the string, with its `eof` and its `fail`
bit. The extraction of a float is a parameter: it gives the float, or none
if it fails, and what it leaves; as documented for `std::num_get`, the
`eof` bit is set when nothing is left. The loop has fuel, of which the
length of the string is enough. What is accepted is a row of two-level
arrays (`Nav3D.Lib.TwoLevel`), and the rendering of an array is read back
(`parseVVF_arrays`).
-/
import Nav3D.Lib.Decimal
import Nav3D.Lib.TwoLevel
import Mathlib.Data.List.TakeDrop

namespace Nav3D.Util.ArrayParser

open TwoLevel

/-! ## The stream -/

/-- `std::stringstream`, without its `bad` bit. -/
structure Stream where
  rest : List Char
  eof : Bool
  fail : Bool
  deriving DecidableEq, Repr

/-- The condition of the loop. -/
def Stream.good (s : Stream) : Bool := !s.fail && !s.eof

/-- `peek`, with none for `EOF`. -/
def Stream.peek (s : Stream) : Option Char × Stream :=
  if s.good then
    match s.rest with
    | [] => (none, { s with eof := true })
    | c :: _ => (some c, s)
  else (none, { s with fail := true })

/-- `get`, with the character dropped. -/
def Stream.get (s : Stream) : Stream :=
  if s.good then
    match s.rest with
    | [] => { s with eof := true, fail := true }
    | _ :: rest => { s with rest := rest }
  else { s with fail := true }

/-- `input_ss >> value`. -/
def Stream.extract {F : Type} (extractFloat : List Char → Option F × List Char) (s : Stream) :
    Option F × Stream :=
  if s.good then
    let (value, rest) := extractFloat s.rest
    (value, { rest := rest, eof := rest.isEmpty, fail := value.isNone })
  else (none, { s with fail := true })

/-! ## `parseVVF` -/

/-- The local variables. -/
structure Parsing (F : Type) where
  result : List (List F)
  inputSs : Stream
  depth : Int
  currentVector : List F

/-- What is returned, with `error_return`. -/
structure Parsed (F : Type) where
  result : List (List F)
  error : String
  deriving DecidableEq

section Parser

variable {F : Type} (extractFloat : List Char → Option F × List Char)

/-- The `switch`: it returns (`error`) or goes on. -/
def pass (s : Parsing F) : Except (Parsed F) (Parsing F) :=
  let (c, inputSs) := s.inputSs.peek
  match c with
  | none => .ok { s with inputSs := inputSs }
  | some '[' =>
    let depth := s.depth + 1
    if depth > 2 then .error ⟨s.result, "Array depth greater than 2"⟩
    else .ok { s with depth := depth, inputSs := inputSs.get, currentVector := [] }
  | some ']' =>
    let depth := s.depth - 1
    if depth < 0 then .error ⟨s.result, "More close ] than open ["⟩
    else .ok { s with
      depth := depth
      inputSs := inputSs.get
      result := if depth = 1 then s.result ++ [s.currentVector] else s.result }
  | some ',' | some ' ' | some '\t' => .ok { s with inputSs := inputSs.get }
  | some c =>
    if s.depth ≠ 2 then
      .error ⟨s.result, "Numbers at depth other than 2. Char was '" ++ c.toString ++ "'."⟩
    else
      match inputSs.extract extractFloat with
      | (none, _) => .error ⟨s.result, "Failed to parse float value."⟩
      | (some value, inputSs) =>
        .ok { s with inputSs := inputSs, currentVector := s.currentVector ++ [value] }

/-- What follows the loop. -/
def finish (s : Parsing F) : Parsed F :=
  if s.depth ≠ 0 then ⟨s.result, "Unterminated vector string."⟩ else ⟨s.result, ""⟩

/-- The loop. -/
def parseLoop : Nat → Parsing F → Option (Parsed F)
  | 0, _ => none
  | fuel + 1, s =>
    if s.inputSs.good then
      match pass extractFloat s with
      | .error parsed => some parsed
      | .ok s => parseLoop fuel s
    else some (finish s)

/-- The variables before the loop. -/
def Parsing.start (input : List Char) : Parsing F := ⟨[], ⟨input, false, false⟩, 0, []⟩

/-- `parseVVF`. -/
def parseVVF (input : List Char) : Option (Parsed F) :=
  parseLoop extractFloat (input.length + 2) (Parsing.start input)

/-! ## The tokens of a string -/

/-- The characters that are passed over. -/
def isSeparator (c : Char) : Bool := c = ',' || c = ' ' || c = '\t'

def isBracket (c : Char) : Bool := c = '[' || c = ']'

/-- The tokens that are read from a string. -/
inductive Tokens : List Char → List (Token F) → Prop
  | nil : Tokens [] []
  | opening {cs : List Char} {tokens : List (Token F)} : Tokens cs tokens →
    Tokens ('[' :: cs) (.opening :: tokens)
  | closing {cs : List Char} {tokens : List (Token F)} : Tokens cs tokens →
    Tokens (']' :: cs) (.closing :: tokens)
  | separator {c : Char} {cs : List Char} {tokens : List (Token F)} : isSeparator c = true →
    Tokens cs tokens → Tokens (c :: cs) tokens
  | number {c : Char} {cs rest : List Char} {value : F} {tokens : List (Token F)} :
    isSeparator c = false → isBracket c = false → extractFloat (c :: cs) = (some value, rest) →
    Tokens rest tokens → Tokens (c :: cs) (.item value :: tokens)

/-- An extraction that succeeds consumes at least one character. -/
def Consumes : Prop :=
  ∀ input value rest, extractFloat input = (some value, rest) →
    ∃ consumed, consumed ≠ [] ∧ input = consumed ++ rest

/-- No bracket is part of a number. -/
def LeavesBrackets : Prop :=
  ∀ consumed value rest, extractFloat (consumed ++ rest) = (some value, rest) →
    ∀ c ∈ consumed, isBracket c = false

/-! ## Renderings -/

/-- A mixture of separators. -/
def Separators (cs : List Char) : Prop := ∀ c ∈ cs, isSeparator c = true

variable (render : F → List Char)

/-- The inside of a group: between two numbers there is a separator at
least. -/
inductive RendersNumbers : List F → List Char → Prop
  | nil {seps : List Char} : Separators seps → RendersNumbers [] seps
  | last {before after : List Char} {value : F} : Separators before → Separators after →
    RendersNumbers [value] (before ++ render value ++ after)
  | cons {before cs : List Char} {c : Char} {value next : F} {values : List F} :
    Separators before → isSeparator c = true → RendersNumbers (next :: values) (c :: cs) →
    RendersNumbers (value :: next :: values) (before ++ render value ++ c :: cs)

/-- The inside of an array. -/
inductive RendersGroups : List (List F) → List Char → Prop
  | nil {seps : List Char} : Separators seps → RendersGroups [] seps
  | cons {before inside cs : List Char} {group : List F} {groups : List (List F)} :
    Separators before → RendersNumbers render group inside → RendersGroups groups cs →
    RendersGroups (group :: groups) (before ++ '[' :: (inside ++ ']' :: cs))

/-- A bracketed array. -/
inductive Renders : List (List F) → List Char → Prop
  | array {before inside after : List Char} {groups : List (List F)} : Separators before →
    RendersGroups render groups inside → Separators after →
    Renders groups (before ++ '[' :: (inside ++ ']' :: after))

/-- Before a separator or a closing bracket a rendered number is extracted,
and no more. It does not begin with a separator or a bracket. -/
structure ReadsBack : Prop where
  extract : ∀ value c cs, (isSeparator c = true ∨ c = ']') →
    extractFloat (render value ++ c :: cs) = (some value, c :: cs)
  first : ∀ value, ∃ c cs, render value = c :: cs ∧ isSeparator c = false ∧ isBracket c = false

/-! ## One pass -/

/-- The variables with the tokens read as far as `n` and `cs` left. -/
def Parsing.at (n : Nest F) (cs : List Char) (eof : Bool) : Parsing F :=
  ⟨n.groups, ⟨cs, eof, false⟩, n.depth, n.current⟩

variable {extractFloat} {n m : Nest F} {c : Char} {cs rest : List Char} {value : F}

theorem pass_end : pass extractFloat (Parsing.at n [] false) = .ok (Parsing.at n [] true) := rfl

theorem pass_separator (hc : isSeparator c = true) :
    pass extractFloat (Parsing.at n (c :: cs) false) = .ok (Parsing.at n cs false) := by
  simp only [isSeparator, Bool.or_eq_true, decide_eq_true_eq] at hc
  rcases hc with (rfl | rfl) | rfl <;> rfl

theorem pass_opening (h : n.read .opening = some m) :
    pass extractFloat (Parsing.at n ('[' :: cs) false) = .ok (Parsing.at m cs false) := by
  simp only [Nest.read] at h
  split at h
  · cases h
  · next hdepth =>
    cases h
    exact if_neg hdepth

theorem pass_closing (h : n.read .closing = some m) :
    pass extractFloat (Parsing.at n (']' :: cs) false) = .ok (Parsing.at m cs false) := by
  simp only [Nest.read] at h
  split at h
  · cases h
  · next hdepth =>
    cases h
    exact if_neg hdepth

/-- At any other character a number is read. -/
theorem pass_other (hseparator : isSeparator c = false) (hbracket : isBracket c = false) :
    pass extractFloat (Parsing.at n (c :: cs) false) =
      if n.depth ≠ 2 then
        .error ⟨n.groups, "Numbers at depth other than 2. Char was '" ++ c.toString ++ "'."⟩
      else
        match extractFloat (c :: cs) with
        | (none, _) => .error ⟨n.groups, "Failed to parse float value."⟩
        | (some value, rest) =>
          .ok (Parsing.at { n with current := n.current ++ [value] } rest rest.isEmpty) := by
  simp only [isSeparator, isBracket, Bool.or_eq_false_iff, decide_eq_false_iff_not] at *
  obtain ⟨⟨hcomma, hblank⟩, htab⟩ := hseparator
  obtain ⟨hopening, hclosing⟩ := hbracket
  have hpeek : (Parsing.at n (c :: cs) false).inputSs.peek =
    (some c, ⟨c :: cs, false, false⟩) := rfl
  have hextract : Stream.extract extractFloat ⟨c :: cs, false, false⟩ =
      ((extractFloat (c :: cs)).1, ⟨(extractFloat (c :: cs)).2, (extractFloat (c :: cs)).2.isEmpty,
        (extractFloat (c :: cs)).1.isNone⟩) := rfl
  unfold pass
  simp only [hpeek, hextract]
  cases hvalue : extractFloat (c :: cs) with
  | mk value rest =>
    cases value with
    | none => simp [Parsing.at]
    | some value => simp [Parsing.at]

/-- Before the end of the stream is seen one pass is to come for it. -/
def remaining (cs : List Char) (eof : Bool) : Nat := cs.length + if eof then 0 else 1

variable (extractFloat) in
/-- A pass that reads the tokens `read` and goes on with `rest`. -/
structure Advances (n : Nest F) (cs : List Char) (m : Nest F) (rest : List Char) (eof : Bool)
    (read : List (Token F)) : Prop where
  pass_eq : pass extractFloat (Parsing.at n cs false) = .ok (Parsing.at m rest eof)
  eof_rest : eof = true → rest = []
  remaining_lt : remaining rest eof < remaining cs false
  reads : n.reads read = some m
  tokens : ∀ tokens, Tokens extractFloat rest tokens → Tokens extractFloat cs (read ++ tokens)

variable (extractFloat) in
/-- A pass that returns, with a message. -/
def Returns (n : Nest F) (cs : List Char) : Prop :=
  ∃ parsed, pass extractFloat (Parsing.at n cs false) = .error parsed ∧ parsed.error ≠ ""

/-- What is left after a number. -/
theorem remaining_lt_of_consumes (hconsumes : Consumes extractFloat)
    (hvalue : extractFloat (c :: cs) = (some value, rest)) :
    remaining rest rest.isEmpty < remaining (c :: cs) false := by
  obtain ⟨consumed, hne, heq⟩ := hconsumes _ _ _ hvalue
  have hpos := List.length_pos_iff.mpr hne
  rw [heq]
  simp only [remaining, List.length_append, Bool.false_eq_true, if_false]
  split
  · omega
  · omega

theorem numbersMessage_ne (c : Char) :
    "Numbers at depth other than 2. Char was '" ++ c.toString ++ "'." ≠ "" := by
  intro h
  have hlength := congrArg String.length h
  simp at hlength

theorem pass_spec (hconsumes : Consumes extractFloat) (n : Nest F) (cs : List Char) :
    (∃ m rest eof read, Advances extractFloat n cs m rest eof read) ∨
      Returns extractFloat n cs := by
  cases cs with
  | nil => exact .inl ⟨n, [], true, [], pass_end, fun _ => rfl, by simp [remaining], rfl,
      fun _ h => h⟩
  | cons c cs =>
    have hless : remaining cs false < remaining (c :: cs) false := by simp [remaining]
    by_cases hseparator : isSeparator c = true
    · exact .inl ⟨n, cs, false, [], pass_separator hseparator, by simp, hless, rfl,
        fun _ h => .separator hseparator h⟩
    by_cases hopening : c = '['
    · subst hopening
      cases hread : n.read .opening with
      | some m => exact .inl ⟨m, cs, false, [.opening], pass_opening hread, by simp, hless,
          by simp [hread], fun _ h => .opening h⟩
      | none =>
        have hdepth : n.depth + 1 > 2 := by
          by_contra hnot
          rw [Nest.read, if_neg hnot] at hread
          cases hread
        exact .inr ⟨⟨n.groups, "Array depth greater than 2"⟩, if_pos hdepth, by simp⟩
    by_cases hclosing : c = ']'
    · subst hclosing
      cases hread : n.read .closing with
      | some m => exact .inl ⟨m, cs, false, [.closing], pass_closing hread, by simp, hless,
          by simp [hread], fun _ h => .closing h⟩
      | none =>
        have hdepth : n.depth - 1 < 0 := by
          by_contra hnot
          rw [Nest.read, if_neg hnot] at hread
          cases hread
        exact .inr ⟨⟨n.groups, "More close ] than open ["⟩, if_pos hdepth, by simp⟩
    have hbracket : isBracket c = false := by simp [isBracket, hopening, hclosing]
    rw [Bool.not_eq_true] at hseparator
    have hpass := @pass_other _ extractFloat n _ cs hseparator hbracket
    by_cases hdepth : n.depth = 2
    · rw [if_neg (not_not.mpr hdepth)] at hpass
      cases hvalue : extractFloat (c :: cs) with
      | mk value rest =>
        rw [hvalue] at hpass
        cases value with
        | none => exact .inr ⟨_, hpass, by simp⟩
        | some value =>
          exact .inl ⟨_, rest, rest.isEmpty, [.item value], hpass, by simp,
            remaining_lt_of_consumes hconsumes hvalue, by simp [Nest.read, hdepth],
            fun _ h => .number hseparator hbracket hvalue h⟩
    · rw [if_pos hdepth] at hpass
      exact .inr ⟨_, hpass, numbersMessage_ne c⟩

/-! ## The loop -/

/-- **The loop ends.** If the error is empty, the tokens of what was left
have been read to the end. -/
theorem parseLoop_spec (hconsumes : Consumes extractFloat) (fuel : Nat) (n : Nest F)
    (cs : List Char) (eof : Bool) (heof : eof = true → cs = [])
    (hfuel : remaining cs eof < fuel) :
    ∃ parsed, parseLoop extractFloat fuel (Parsing.at n cs eof) = some parsed ∧
      (parsed.error = "" → ∃ tokens m, Tokens extractFloat cs tokens ∧
        n.reads tokens = some m ∧ m.depth = 0 ∧ m.groups = parsed.result) := by
  induction fuel generalizing n cs eof with
  | zero => exact absurd hfuel (Nat.not_lt_zero _)
  | succ fuel ih =>
    rw [parseLoop]
    cases eof with
    | true =>
      obtain rfl := heof rfl
      refine ⟨finish (Parsing.at n [] true), rfl, ?_⟩
      intro herror
      refine ⟨[], n, .nil, rfl, ?_⟩
      unfold finish at *
      split at herror
      · simp at herror
      · next hdepth => exact ⟨not_not.mp hdepth, by rw [if_neg hdepth]; rfl⟩
    | false =>
      have hgood : (Parsing.at n cs false).inputSs.good = true := rfl
      rw [if_pos hgood]
      rcases pass_spec hconsumes n cs with
        ⟨m, rest, eof, read, hadvances⟩ | ⟨parsed, hpass, herror⟩
      · have hless := hadvances.remaining_lt
        obtain ⟨parsed, hparsed, hresult⟩ := ih m rest eof hadvances.eof_rest (by omega)
        rw [hadvances.pass_eq]
        refine ⟨parsed, hparsed, ?_⟩
        intro herror
        obtain ⟨tokens, last, htokens, hreads, hlast⟩ := hresult herror
        refine ⟨read ++ tokens, last, hadvances.tokens tokens htokens, ?_, hlast⟩
        rw [Nest.reads_append, hadvances.reads, Option.bind_some, hreads]
      · rw [hpass]
        exact ⟨parsed, rfl, fun hempty => absurd hempty herror⟩

/-- A pass before the end of the string. -/
theorem parseLoop_pass {fuel : Nat} {eof eof' : Bool} (heof : eof = true → c :: cs = [])
    (hpass : pass extractFloat (Parsing.at n (c :: cs) false) = .ok (Parsing.at m rest eof'))
    (hless : remaining rest eof' < remaining (c :: cs) false)
    (hfuel : remaining (c :: cs) eof < fuel) :
    ∃ k, remaining rest eof' < k ∧ parseLoop extractFloat fuel (Parsing.at n (c :: cs) eof) =
      parseLoop extractFloat k (Parsing.at m rest eof') := by
  obtain rfl : eof = false := by
    rw [← Bool.not_eq_true]
    intro h
    cases heof h
  cases fuel with
  | zero => exact absurd hfuel (Nat.not_lt_zero _)
  | succ k =>
    have hgood : (Parsing.at n (c :: cs) false).inputSs.good = true := rfl
    refine ⟨k, by omega, ?_⟩
    rw [parseLoop, if_pos hgood, hpass]

/-- At the end of the string. -/
theorem parseLoop_end (hdepth : n.depth = 0) {fuel : Nat} {eof : Bool}
    (hfuel : remaining [] eof < fuel) :
    parseLoop extractFloat fuel (Parsing.at n [] eof) = some ⟨n.groups, ""⟩ := by
  have hfinish : finish (Parsing.at n [] true) = ⟨n.groups, ""⟩ := if_neg (not_not.mpr hdepth)
  have hbad : (Parsing.at n [] true).inputSs.good ≠ true := by simp [Parsing.at, Stream.good]
  have hgood : (Parsing.at n [] false).inputSs.good = true := rfl
  cases eof with
  | true =>
    obtain ⟨k, rfl⟩ : ∃ k, fuel = k + 1 := ⟨fuel - 1, by simp [remaining] at hfuel; omega⟩
    rw [parseLoop, if_neg hbad, hfinish]
  | false =>
    obtain ⟨k, rfl⟩ : ∃ k, fuel = k + 2 := ⟨fuel - 2, by simp [remaining] at hfuel; omega⟩
    rw [parseLoop, if_pos hgood, pass_end]
    simp only
    rw [parseLoop, if_neg hbad, hfinish]

/-- Tokens that can be read to the end are accepted. -/
theorem parseLoop_of_tokens {tokens : List (Token F)} (htokens : Tokens extractFloat cs tokens)
    (hconsumes : Consumes extractFloat) (hreads : n.reads tokens = some m) (hdepth : m.depth = 0)
    {fuel : Nat} {eof : Bool} (heof : eof = true → cs = []) (hfuel : remaining cs eof < fuel) :
    parseLoop extractFloat fuel (Parsing.at n cs eof) = some ⟨m.groups, ""⟩ := by
  induction htokens generalizing n fuel eof with
  | nil =>
    cases hreads
    exact parseLoop_end hdepth hfuel
  | @opening cs tokens _ ih =>
    rw [Nest.reads_cons, Option.bind_eq_some_iff] at hreads
    obtain ⟨next, hread, hrest⟩ := hreads
    obtain ⟨k, hk, heq⟩ := parseLoop_pass heof (pass_opening hread) (by simp [remaining]) hfuel
    rw [heq]
    exact ih hrest (by simp) hk
  | @closing cs tokens _ ih =>
    rw [Nest.reads_cons, Option.bind_eq_some_iff] at hreads
    obtain ⟨next, hread, hrest⟩ := hreads
    obtain ⟨k, hk, heq⟩ := parseLoop_pass heof (pass_closing hread) (by simp [remaining]) hfuel
    rw [heq]
    exact ih hrest (by simp) hk
  | @separator c cs tokens hc _ ih =>
    obtain ⟨k, hk, heq⟩ := parseLoop_pass heof (pass_separator hc) (by simp [remaining]) hfuel
    rw [heq]
    exact ih hreads (by simp) hk
  | @number c cs rest value tokens hseparator hbracket hvalue _ ih =>
    rw [Nest.reads_cons, Option.bind_eq_some_iff] at hreads
    obtain ⟨next, hread, hrest⟩ := hreads
    obtain ⟨hat, rfl⟩ : n.depth = 2 ∧ next = { n with current := n.current ++ [value] } := by
      simp only [Nest.read] at hread
      split at hread
      · cases hread
      · next hat =>
        cases hread
        exact ⟨not_not.mp hat, rfl⟩
    have hpass := @pass_other _ extractFloat n _ cs hseparator hbracket
    rw [if_neg (not_not.mpr hat), hvalue] at hpass
    have hless := remaining_lt_of_consumes hconsumes hvalue
    obtain ⟨k, hk, heq⟩ := parseLoop_pass heof hpass hless hfuel
    rw [heq]
    exact ih hrest (by simp) hk

/-! ## What is accepted -/

/-- The bracket of a token. -/
def bracket : Token F → Option Char
  | .opening => some '['
  | .closing => some ']'
  | .item _ => none

/-- The brackets of the tokens are those of the string, if no number holds
any. -/
theorem Tokens.brackets_eq (hconsumes : Consumes extractFloat)
    (hleaves : LeavesBrackets extractFloat) {tokens : List (Token F)}
    (h : Tokens extractFloat cs tokens) : cs.filter isBracket = tokens.filterMap bracket := by
  induction h with
  | nil => rfl
  | opening _ ih => simpa [isBracket, bracket] using ih
  | closing _ ih => simpa [isBracket, bracket] using ih
  | @separator c cs tokens hc _ ih =>
    have hbracket : isBracket c = false := by
      simp only [isSeparator, Bool.or_eq_true, decide_eq_true_eq] at hc
      rcases hc with (rfl | rfl) | rfl <;> rfl
    rw [List.filter_cons_of_neg (by simp [hbracket]), ih]
  | @number c cs rest value tokens _ _ hvalue _ ih =>
    obtain ⟨consumed, -, heq⟩ := hconsumes _ _ _ hvalue
    rw [heq] at hvalue ⊢
    have hnone : consumed.filter isBracket = [] := by
      rw [List.filter_eq_nil_iff]
      intro c hc
      simp [hleaves consumed value rest hvalue c hc]
    rw [List.filter_append, hnone, List.nil_append, ih, List.filterMap_cons_none rfl]

/-- An array of groups, one after the other, whose tokens are those of the
string: the groups are the result. -/
structure Accepted (extractFloat : List Char → Option F × List Char) (input : List Char)
    (result : List (List F)) (tokens : List (Token F)) : Prop where
  tokens_eq : Tokens extractFloat input tokens
  wellNested : WellNested tokens
  groups : ∃ arrays, tokens = spell arrays ∧ result = arrays.flatten
  brackets : LeavesBrackets extractFloat → input.filter isBracket = tokens.filterMap bracket

/-- More fuel changes nothing. -/
theorem parseLoop_mono {fuel k : Nat} {s : Parsing F} {parsed : Parsed F}
    (h : parseLoop extractFloat fuel s = some parsed) (hk : fuel ≤ k) :
    parseLoop extractFloat k s = some parsed := by
  induction fuel generalizing k s with
  | zero => cases h
  | succ fuel ih =>
    obtain ⟨k, rfl⟩ : ∃ m, k = m + 1 := ⟨k - 1, by omega⟩
    rw [parseLoop] at h ⊢
    split at h
    · next hgood =>
      rw [if_pos hgood]
      cases hpass : pass extractFloat s with
      | error result =>
        rw [hpass] at h
        exact h
      | ok next =>
        rw [hpass] at h
        exact ih h (by omega)
    · next hbad =>
      rw [if_neg hbad]
      exact h

/-- The loop ends with any fuel from the length of the string on. -/
theorem parseVVF_ends (hconsumes : Consumes extractFloat) (input : List Char) :
    ∃ parsed, parseVVF extractFloat input = some parsed ∧
      (∀ fuel, input.length + 2 ≤ fuel →
        parseLoop extractFloat fuel (Parsing.start input) = some parsed) ∧
      (parsed.error = "" → ∃ tokens, Accepted extractFloat input parsed.result tokens) := by
  obtain ⟨parsed, hparsed, hresult⟩ := parseLoop_spec hconsumes (input.length + 2) .start input
    false (by simp) (by simp [remaining])
  refine ⟨parsed, hparsed, fun fuel hfuel => parseLoop_mono hparsed hfuel, ?_⟩
  intro herror
  obtain ⟨tokens, m, htokens, hreads, hdepth, hgroups⟩ := hresult herror
  have hall : Reads tokens parsed.result := by
    refine ⟨m.current, ?_⟩
    rw [hreads, ← hdepth, ← hgroups]
  exact ⟨tokens, htokens, hall.wellNested, hall.exists_spell,
    fun hleaves => htokens.brackets_eq hconsumes hleaves⟩

/-! ## Reading back -/

variable {render : F → List Char}

theorem Tokens.separators {seps : List Char} {tokens : List (Token F)} (hseps : Separators seps)
    (h : Tokens extractFloat cs tokens) : Tokens extractFloat (seps ++ cs) tokens := by
  induction seps with
  | nil => exact h
  | cons c seps ih =>
    exact .separator (hseps c (by simp)) (ih fun c' hc' => hseps c' (by simp [hc']))

/-- A rendered number. -/
theorem Tokens.rendered (hback : ReadsBack extractFloat render) (value : F)
    (hc : isSeparator c = true ∨ c = ']') {tokens : List (Token F)}
    (h : Tokens extractFloat (c :: cs) tokens) :
    Tokens extractFloat (render value ++ c :: cs) (.item value :: tokens) := by
  obtain ⟨first, more, hrender, hseparator, hbracket⟩ := hback.first value
  have hextract := hback.extract value c cs hc
  rw [hrender, List.cons_append] at hextract ⊢
  exact .number hseparator hbracket hextract h

theorem tokens_of_rendersNumbers (hback : ReadsBack extractFloat render) {values : List F}
    {inside : List Char} (h : RendersNumbers render values inside) {tokens : List (Token F)}
    (htokens : Tokens extractFloat (']' :: cs) tokens) :
    Tokens extractFloat (inside ++ ']' :: cs) (values.map .item ++ tokens) := by
  induction h with
  | nil hseps => exact htokens.separators hseps
  | @last before after value hbefore hafter =>
    rw [List.append_assoc, List.append_assoc]
    apply Tokens.separators hbefore
    cases after with
    | nil => exact htokens.rendered hback value (.inr rfl)
    | cons c after =>
      exact (htokens.separators hafter).rendered hback value (.inl (hafter c (by simp)))
  | @cons before inside c value next values hbefore hc _ ih =>
    rw [List.append_assoc, List.append_assoc]
    exact (ih.rendered hback value (.inl hc)).separators hbefore

theorem tokens_of_rendersGroups (hback : ReadsBack extractFloat render) {groups : List (List F)}
    {inside : List Char} (h : RendersGroups render groups inside) {tokens : List (Token F)}
    (htokens : Tokens extractFloat cs tokens) :
    Tokens extractFloat (inside ++ cs) (groups.flatMap spellGroup ++ tokens) := by
  induction h with
  | nil hseps => exact htokens.separators hseps
  | @cons before numbers more group groups hbefore hnumbers _ ih =>
    have hgroup := tokens_of_rendersNumbers hback hnumbers (.closing ih)
    have hopened := (Tokens.opening hgroup).separators hbefore
    simpa [spellGroup] using hopened

theorem tokens_of_renders (hback : ReadsBack extractFloat render) {groups : List (List F)}
    {input : List Char} (h : Renders render groups input) :
    Tokens extractFloat input (spellArray groups) := by
  cases h with
  | @array before inside after _ hbefore hinside hafter =>
    have hend : Tokens extractFloat (after ++ []) [] := Tokens.nil.separators hafter
    rw [List.append_nil] at hend
    have hgroups := tokens_of_rendersGroups hback hinside (.closing hend)
    exact (Tokens.opening hgroups).separators hbefore

theorem parseVVF_of_renders (hconsumes : Consumes extractFloat)
    (hback : ReadsBack extractFloat render) {groups : List (List F)} {input : List Char}
    (h : Renders render groups input) :
    parseVVF extractFloat input = some ⟨groups, ""⟩ := by
  obtain ⟨current, hreads⟩ := reads_array groups
  exact parseLoop_of_tokens (n := .start) (tokens_of_renders hback h) hconsumes hreads rfl
    (by simp) (by simp [remaining])

/-- **Two-level arrays.** The parser ends, what it accepts is a row of
two-level arrays with the groups of the result, and a rendered array is read
back, whatever separators it is rendered with. -/
theorem parseVVF_arrays (hconsumes : Consumes extractFloat)
    (hback : ReadsBack extractFloat render) :
    (∀ input, ∃ parsed, parseVVF extractFloat input = some parsed ∧
      (∀ fuel, input.length + 2 ≤ fuel →
        parseLoop extractFloat fuel (Parsing.start input) = some parsed) ∧
      (parsed.error = "" → ∃ tokens, Accepted extractFloat input parsed.result tokens)) ∧
    ∀ groups input, Renders render groups input →
      parseVVF extractFloat input = some ⟨groups, ""⟩ :=
  ⟨parseVVF_ends hconsumes, fun _ _ h => parseVVF_of_renders hconsumes hback h⟩

end Parser

/-! ## Digits -/

open Decimal

/-- The extraction of a number that is written in digits only. -/
def extractDigits (input : List Char) : Option Nat × List Char :=
  let digits := input.takeWhile Char.isDigit
  if digits = [] then (none, input)
  else (some (ofDigits digits), input.dropWhile Char.isDigit)

theorem consumes_extractDigits : Consumes extractDigits := by
  intro input value rest h
  unfold extractDigits at h
  simp only at h
  split at h
  · cases h
  · next hne =>
    cases h
    exact ⟨_, hne, (List.takeWhile_append_dropWhile).symm⟩

theorem readsBack_extractDigits : ReadsBack extractDigits (Nat.toDigits 10) where
  extract := by
    intro value c cs hc
    have hdigits : ∀ d ∈ Nat.toDigits 10 value, d.isDigit = true := fun _ => isDigit_of_mem
    have hstop : c.isDigit = false := by
      simp only [isSeparator, Bool.or_eq_true, decide_eq_true_eq] at hc
      rcases hc with ((rfl | rfl) | rfl) | rfl <;> rfl
    have htake : (Nat.toDigits 10 value ++ c :: cs).takeWhile Char.isDigit =
        Nat.toDigits 10 value := by
      rw [List.takeWhile_append_of_pos hdigits]
      simp [hstop]
    have hdrop : (Nat.toDigits 10 value ++ c :: cs).dropWhile Char.isDigit = c :: cs := by
      rw [List.dropWhile_append_of_pos hdigits]
      simp [hstop]
    unfold extractDigits
    simp only [htake, hdrop]
    rw [if_neg Nat.toDigits_ne_nil, ofDigits_toDigits]
  first := by
    intro value
    obtain ⟨c, cs, hdigits, hc⟩ := exists_digit value
    refine ⟨c, cs, hdigits, ?_, ?_⟩
    · by_contra hnot
      simp only [isSeparator, Bool.not_eq_false, Bool.or_eq_true, decide_eq_true_eq] at hnot
      rcases hnot with (rfl | rfl) | rfl <;> cases hc
    · by_contra hnot
      simp only [isBracket, Bool.not_eq_false, Bool.or_eq_true, decide_eq_true_eq] at hnot
      rcases hnot with rfl | rfl <;> cases hc

/-- `[[12, 3] []]`. -/
def twoGroups : List Char := ['[', '[', '1', '2', ',', ' ', '3', ']', ' ', '[', ']', ']']

theorem renders_twoGroups : Renders (Nat.toDigits 10) [[12, 3], []] twoGroups := by
  have hnone : Separators [] := by simp [Separators]
  have hblank : Separators [' '] := by simp [Separators, isSeparator]
  have hcomma : Separators [',', ' '] := by simp [Separators, isSeparator]
  have hthree : RendersNumbers (Nat.toDigits 10) [3] [',', ' ', '3'] := .last hcomma hnone
  have hnumbers : RendersNumbers (Nat.toDigits 10) [12, 3] ['1', '2', ',', ' ', '3'] :=
    .cons hnone rfl hthree
  have hempty : RendersGroups (Nat.toDigits 10) [[]] [' ', '[', ']'] :=
    .cons hblank (.nil hnone) (.nil hnone)
  exact .array hnone (.cons hnone hnumbers hempty) hnone

theorem parseVVF_arrays_digits :
    parseVVF extractDigits twoGroups = some ⟨[[12, 3], []], ""⟩ ∧
      ∃ tokens, Accepted extractDigits twoGroups [[12, 3], []] tokens := by
  obtain ⟨hends, hback⟩ := parseVVF_arrays consumes_extractDigits readsBack_extractDigits
  have hparsed := hback _ _ renders_twoGroups
  obtain ⟨parsed, heq, -, haccepted⟩ := hends twoGroups
  rw [hparsed] at heq
  cases heq
  exact ⟨hparsed, haccepted rfl⟩

end Nav3D.Util.ArrayParser

/-
Nav3D.Lib.TwoLevel — bracketed arrays of arrays.

A row of tokens is read from left to right with a depth, the items since
the last opening bracket and the groups so far (`Nest.read`). What is read
to the end is a row of arrays of groups, and the groups are those between
the brackets (`Reads.exists_spell`). Then the brackets are balanced, the
depth does not exceed two, and items occur at depth two only
(`Reads.wellNested`).
-/
import Mathlib.Data.List.Basic
import Mathlib.Tactic.Common

namespace TwoLevel

variable {α : Type*}

inductive Token (α : Type*) where
  | opening
  | closing
  | item (value : α)
  deriving DecidableEq, Repr

/-! ## Depth -/

/-- The opening brackets less the closing ones. -/
def depth : List (Token α) → Int
  | [] => 0
  | .opening :: tokens => depth tokens + 1
  | .closing :: tokens => depth tokens - 1
  | .item _ :: tokens => depth tokens

theorem depth_append (tokens more : List (Token α)) :
    depth (tokens ++ more) = depth tokens + depth more := by
  induction tokens with
  | nil => simp [depth]
  | cons t tokens ih =>
    cases t with
    | opening => simp only [List.cons_append, depth, ih]; omega
    | closing => simp only [List.cons_append, depth, ih]; omega
    | item value => simp only [List.cons_append, depth, ih]

/-- Balanced brackets that are at most two deep, with all items at depth
two. -/
structure WellNested (tokens : List (Token α)) : Prop where
  balanced : depth tokens = 0
  nonneg : ∀ before after, tokens = before ++ after → 0 ≤ depth before
  le_two : ∀ before after, tokens = before ++ after → depth before ≤ 2
  items : ∀ before value after, tokens = before ++ .item value :: after → depth before = 2

/-! ## Spelling -/

/-- A group in brackets. -/
def spellGroup (group : List α) : List (Token α) :=
  .opening :: (group.map .item ++ [.closing])

/-- An array of groups in brackets. -/
def spellArray (groups : List (List α)) : List (Token α) :=
  .opening :: (groups.flatMap spellGroup ++ [.closing])

/-- Arrays one after the other. -/
def spell (arrays : List (List (List α))) : List (Token α) := arrays.flatMap spellArray

/-! ## Reading -/

/-- How far the tokens have been read. -/
structure Nest (α : Type*) where
  depth : Int
  current : List α
  groups : List (List α)

/-- Before the first token. -/
def Nest.start : Nest α := ⟨0, [], []⟩

/-- Read one token: no bracket leads out of the depths 0 to 2. -/
def Nest.read (n : Nest α) : Token α → Option (Nest α)
  | .opening =>
    if n.depth + 1 > 2 then none else some { n with depth := n.depth + 1, current := [] }
  | .closing =>
    if n.depth - 1 < 0 then none
    else some { n with
      depth := n.depth - 1
      groups := if n.depth - 1 = 1 then n.groups ++ [n.current] else n.groups }
  | .item value =>
    if n.depth ≠ 2 then none else some { n with current := n.current ++ [value] }

/-- Read all tokens. -/
def Nest.reads (n : Nest α) (tokens : List (Token α)) : Option (Nest α) := tokens.foldlM read n

@[simp] theorem Nest.reads_nil (n : Nest α) : n.reads [] = some n := rfl

@[simp] theorem Nest.reads_cons (n : Nest α) (t : Token α) (tokens : List (Token α)) :
    n.reads (t :: tokens) = (n.read t).bind (·.reads tokens) := rfl

theorem Nest.reads_append (n : Nest α) (tokens more : List (Token α)) :
    n.reads (tokens ++ more) = (n.reads tokens).bind (·.reads more) := by
  simp [reads, List.foldlM_append]

/-! ## What has been read -/

/-- The tokens so far, by the depth. -/
inductive Read : List (Token α) → Nest α → Prop
  | outside (arrays : List (List (List α))) (current : List α) :
    Read (spell arrays) ⟨0, current, arrays.flatten⟩
  | array (arrays : List (List (List α))) (groups : List (List α)) (current : List α) :
    Read (spell arrays ++ .opening :: groups.flatMap spellGroup)
      ⟨1, current, arrays.flatten ++ groups⟩
  | group (arrays : List (List (List α))) (groups : List (List α)) (current : List α) :
    Read (spell arrays ++ .opening :: (groups.flatMap spellGroup ++ .opening :: current.map .item))
      ⟨2, current, arrays.flatten ++ groups⟩

/-- One more token. -/
theorem Read.read {tokens : List (Token α)} {n m : Nest α} {t : Token α} (h : Read tokens n)
    (hm : n.read t = some m) : Read (tokens ++ [t]) m := by
  cases h with
  | outside arrays current =>
    cases t with
    | opening =>
      cases hm
      simpa using Read.array arrays [] []
    | closing => simp [Nest.read] at hm
    | item value => simp [Nest.read] at hm
  | array arrays groups current =>
    cases t with
    | opening =>
      cases hm
      simpa using Read.group arrays groups []
    | closing =>
      cases hm
      have houtside := Read.outside (arrays ++ [groups]) current
      simpa [spell, spellArray] using houtside
    | item value => simp [Nest.read] at hm
  | group arrays groups current =>
    cases t with
    | opening => simp [Nest.read] at hm
    | closing =>
      cases hm
      have harray := Read.array arrays (groups ++ [current]) current
      simpa [spellGroup] using harray
    | item value =>
      cases hm
      simpa using Read.group arrays groups (current ++ [value])

theorem Read.reads {tokens more : List (Token α)} {n m : Nest α} (h : Read tokens n)
    (hm : n.reads more = some m) : Read (tokens ++ more) m := by
  induction more generalizing tokens n with
  | nil =>
    cases hm
    simpa using h
  | cons t more ih =>
    rw [Nest.reads_cons, Option.bind_eq_some_iff] at hm
    obtain ⟨next, hnext, hrest⟩ := hm
    have hread := ih (h.read hnext) hrest
    simpa using hread

theorem read_start : Read [] (Nest.start : Nest α) := Read.outside [] []

/-! ## Reading a spelling -/

theorem reads_items (groups : List (List α)) (current values : List α) :
    Nest.reads ⟨2, current, groups⟩ (values.map .item) = some ⟨2, current ++ values, groups⟩ := by
  induction values generalizing current with
  | nil => simp
  | cons value values ih =>
    have hread : Nest.read ⟨2, current, groups⟩ (.item value) =
        some ⟨2, current ++ [value], groups⟩ := rfl
    rw [List.map_cons, Nest.reads_cons, hread, Option.bind_some, ih, List.append_assoc]
    rfl

theorem reads_groups (done groups : List (List α)) (current : List α) :
    ∃ last, Nest.reads ⟨1, current, done⟩ (groups.flatMap spellGroup) =
      some ⟨1, last, done ++ groups⟩ := by
  induction groups generalizing done current with
  | nil => exact ⟨current, by simp⟩
  | cons group groups ih =>
    obtain ⟨last, hlast⟩ := ih (done ++ [group]) group
    refine ⟨last, ?_⟩
    have hopening : Nest.read ⟨1, current, done⟩ .opening = some ⟨2, [], done⟩ := rfl
    have hclosing : Nest.read ⟨2, group, done⟩ .closing = some ⟨1, group, done ++ [group]⟩ := rfl
    rw [List.flatMap_cons, spellGroup, List.cons_append, Nest.reads_cons, hopening,
      Option.bind_some, List.append_assoc, Nest.reads_append, reads_items, Option.bind_some,
      List.nil_append, List.cons_append, Nest.reads_cons, hclosing, Option.bind_some,
      List.nil_append, hlast, List.append_assoc]
    rfl

theorem reads_spellArray (done groups : List (List α)) (current : List α) :
    ∃ last, Nest.reads ⟨0, current, done⟩ (spellArray groups) = some ⟨0, last, done ++ groups⟩ := by
  obtain ⟨last, hlast⟩ := reads_groups done groups []
  refine ⟨last, ?_⟩
  have hopening : Nest.read ⟨0, current, done⟩ .opening = some ⟨1, [], done⟩ := rfl
  have hclosing : Nest.read ⟨1, last, done ++ groups⟩ .closing =
    some ⟨0, last, done ++ groups⟩ := rfl
  rw [spellArray, Nest.reads_cons, hopening, Option.bind_some, Nest.reads_append, hlast,
    Option.bind_some, Nest.reads_cons, hclosing]
  rfl

/-! ## Whole rows -/

/-- The tokens are read to the end with these groups. -/
def Reads (tokens : List (Token α)) (groups : List (List α)) : Prop :=
  ∃ current, Nest.start.reads tokens = some ⟨0, current, groups⟩

theorem reads_array (groups : List (List α)) : Reads (spellArray groups) groups := by
  exact reads_spellArray [] groups []

/-- Such a row is the spelling of arrays with these groups. -/
theorem Reads.exists_spell {tokens : List (Token α)} {groups : List (List α)}
    (h : Reads tokens groups) : ∃ arrays, tokens = spell arrays ∧ groups = arrays.flatten := by
  obtain ⟨current, hreads⟩ := h
  have hread := read_start.reads hreads
  rw [List.nil_append] at hread
  cases hread with
  | outside arrays => exact ⟨arrays, rfl, rfl⟩

/-- The depth that is kept is the depth of the tokens, and it is 0, 1 or
2. -/
theorem Nest.read_depth {n m : Nest α} {t : Token α} (hm : n.read t = some m) :
    m.depth = n.depth + TwoLevel.depth [t] := by
  cases t with
  | opening =>
    simp only [read] at hm
    split at hm
    · cases hm
    · cases hm
      simp [TwoLevel.depth]
  | closing =>
    simp only [read] at hm
    split at hm
    · cases hm
    · cases hm
      simp [TwoLevel.depth]
      omega
  | item value =>
    simp only [read] at hm
    split at hm
    · cases hm
    · cases hm
      simp [TwoLevel.depth]

theorem Nest.reads_depth {tokens : List (Token α)} {n m : Nest α} (hm : n.reads tokens = some m) :
    m.depth = n.depth + TwoLevel.depth tokens := by
  induction tokens generalizing n with
  | nil =>
    cases hm
    simp [TwoLevel.depth]
  | cons t tokens ih =>
    rw [reads_cons, Option.bind_eq_some_iff] at hm
    obtain ⟨next, hnext, hrest⟩ := hm
    rw [ih hrest, read_depth hnext, ← List.singleton_append (l := tokens), depth_append]
    omega

theorem Read.depth_mem {tokens : List (Token α)} {n : Nest α} (h : Read tokens n) :
    0 ≤ n.depth ∧ n.depth ≤ 2 := by
  cases h <;> simp

/-- What is read to the end is nested well. -/
theorem Reads.wellNested {tokens : List (Token α)} {groups : List (List α)}
    (h : Reads tokens groups) : WellNested tokens := by
  obtain ⟨current, hreads⟩ := h
  have hbefore : ∀ before after, tokens = before ++ after →
      ∃ n : Nest α, Nest.start.reads before = some n ∧ depth before = n.depth ∧
        (n.reads after).isSome = true := by
    rintro before after rfl
    rw [Nest.reads_append, Option.bind_eq_some_iff] at hreads
    obtain ⟨n, hn, hrest⟩ := hreads
    refine ⟨n, hn, ?_, by rw [hrest]; rfl⟩
    rw [Nest.reads_depth hn]
    simp [Nest.start]
  have hwithin : ∀ before after, tokens = before ++ after →
      0 ≤ depth before ∧ depth before ≤ 2 := by
    intro before after heq
    obtain ⟨n, hn, hdepth, -⟩ := hbefore before after heq
    rw [hdepth]
    exact (read_start.reads hn).depth_mem
  refine ⟨?_, fun before after heq => (hwithin before after heq).1,
    fun before after heq => (hwithin before after heq).2, ?_⟩
  · have hdepth := Nest.reads_depth hreads
    simpa [Nest.start] using hdepth.symm
  · intro before value after heq
    obtain ⟨n, -, hdepth, hafter⟩ := hbefore before _ heq
    rw [hdepth]
    by_contra hne
    simp [Nest.read, hne] at hafter

end TwoLevel

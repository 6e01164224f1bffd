/-
Nav3D.Lib.Separator — rows of names between separators, and how two of them
are joined.

A row is absolute if it starts with a separator. The `stem` of a row is the
absolute row without the separators at its end, its `branch` is what stands
below another row: one separator and the row from its first name on. `join`
puts the branch of one row onto the stem of another one. It is associative
(`join_assoc`), it appends the names (`names_join`), and it has no empty name
up to the first name of the branch unless the stem has one.
-/
import Mathlib.Data.List.DropRight
import Mathlib.Data.List.Infix
import Mathlib.Data.List.TakeWhile

namespace Separator

variable {α : Type*} (sep : α)

/-! ## Separators -/

/-- Only separators. -/
def Blank (l : List α) : Prop := ∀ c ∈ l, c = sep

/-- Two separators next to each other: an empty name. -/
def Doubled (l : List α) : Prop := [sep, sep] <:+: l

section Separators

variable {sep} {l u v : List α} {c : α}

@[simp] theorem blank_nil : Blank sep [] := by simp [Blank]

@[simp] theorem blank_cons : Blank sep (c :: l) ↔ c = sep ∧ Blank sep l := by simp [Blank]

@[simp] theorem blank_append : Blank sep (u ++ v) ↔ Blank sep u ∧ Blank sep v := by
  simp [Blank, or_imp, forall_and]

theorem doubled_cons : Doubled sep (c :: l) ↔ (c = sep ∧ l.head? = some sep) ∨ Doubled sep l := by
  rw [Doubled, List.infix_cons_iff, Doubled, List.cons_prefix_cons, eq_comm]
  cases l with
  | nil => simp
  | cons d l => simp [List.cons_prefix_cons, eq_comm]

theorem doubled_concat :
    Doubled sep (l ++ [c]) ↔ (l.getLast? = some sep ∧ c = sep) ∨ Doubled sep l := by
  have hsuffix : [sep, sep] <:+ l ++ [c] ↔ l.getLast? = some sep ∧ c = sep := by
    rw [List.suffix_concat_iff]
    constructor
    · intro h
      obtain ⟨t, ht, hsuffix⟩ := h.resolve_left (by simp)
      obtain ⟨rfl, heq⟩ := List.append_inj' (show [sep] ++ [sep] = t ++ [c] from ht) rfl
      obtain ⟨before, rfl⟩ := hsuffix
      simp only [List.cons.injEq, and_true] at heq
      simp [heq]
    · intro h
      obtain ⟨before, rfl⟩ := List.getLast?_eq_some_iff.mp h.1
      exact .inr ⟨[sep], by simp [h.2], List.suffix_append _ _⟩
  rw [Doubled, List.infix_concat_iff, hsuffix, Doubled]

end Separators

/-! ## Operations -/

variable [DecidableEq α]

instance (l : List α) : Decidable (Blank sep l) := inferInstanceAs (Decidable (∀ c ∈ l, c = sep))

/-- Without the separators at the start. -/
def trimLeft (l : List α) : List α := l.dropWhile (· = sep)

/-- Without the separators at the end. -/
def trimRight (l : List α) : List α := l.rdropWhile (· = sep)

/-- With a separator at the start. -/
def absolute (l : List α) : List α := if l.head? = some sep then l else sep :: l

/-- What names below a row are put onto. -/
def stem (l : List α) : List α := trimRight sep (absolute sep l)

/-- What is put onto a stem. -/
def branch (l : List α) : List α := if Blank sep l then [] else sep :: trimLeft sep l

/-- The root has a row of its own. -/
def orRoot (l : List α) : List α := if l = [] then [sep] else l

/-- One row below another one. -/
def join (top sub : List α) : List α := orRoot sep (stem sep top ++ branch sep sub)

/-- The names of a row, without the empty ones. -/
def names (l : List α) : List (List α) := (l.splitOn sep).filter (· ≠ [])

/-! ## Trimming -/

variable {sep} {l u v : List α} {c : α}

@[simp] theorem trimLeft_nil : trimLeft sep [] = [] := rfl

theorem trimLeft_eq_nil : trimLeft sep l = [] ↔ Blank sep l := by
  simp [trimLeft, Blank, List.dropWhile_eq_nil_iff]

theorem trimLeft_cons_self : trimLeft sep (sep :: l) = trimLeft sep l := by simp [trimLeft]

theorem trimLeft_cons_of_ne (h : c ≠ sep) : trimLeft sep (c :: l) = c :: l := by
  simp [trimLeft, h]

@[simp] theorem blank_trimLeft : Blank sep (trimLeft sep l) ↔ Blank sep l := by
  induction l with
  | nil => simp
  | cons c l ih =>
    by_cases hc : c = sep
    · subst hc
      rw [trimLeft_cons_self, ih]
      simp
    · rw [trimLeft_cons_of_ne hc]

/-- What is left starts with a name. -/
theorem exists_trimLeft (h : ¬ Blank sep l) : ∃ c rest, c ≠ sep ∧ trimLeft sep l = c :: rest := by
  induction l with
  | nil => simp at h
  | cons c l ih =>
    by_cases hc : c = sep
    · subst hc
      rw [trimLeft_cons_self]
      exact ih (by simpa using h)
    · exact ⟨c, l, hc, trimLeft_cons_of_ne hc⟩

theorem trimLeft_append (h : ¬ Blank sep u) : trimLeft sep (u ++ v) = trimLeft sep u ++ v := by
  induction u with
  | nil => simp at h
  | cons c u ih =>
    by_cases hc : c = sep
    · subst hc
      rw [List.cons_append, trimLeft_cons_self, trimLeft_cons_self]
      exact ih (by simpa using h)
    · rw [List.cons_append, trimLeft_cons_of_ne hc, trimLeft_cons_of_ne hc, List.cons_append]

@[simp] theorem trimRight_nil : trimRight sep [] = [] := rfl

theorem trimRight_concat_self : trimRight sep (l ++ [sep]) = trimRight sep l :=
  List.rdropWhile_concat_pos _ _ _ (by simp)

theorem trimRight_concat_of_ne (h : c ≠ sep) : trimRight sep (l ++ [c]) = l ++ [c] :=
  List.rdropWhile_concat_neg _ _ _ (by simpa using h)

theorem trimRight_eq_nil : trimRight sep l = [] ↔ Blank sep l := by
  simp [trimRight, Blank, List.rdropWhile_eq_nil_iff]

@[simp] theorem trimRight_trimRight : trimRight sep (trimRight sep l) = trimRight sep l :=
  List.rdropWhile_idempotent _ _

/-- By induction from the right end. -/
theorem trimRight_append (h : ¬ Blank sep v) : trimRight sep (u ++ v) = u ++ trimRight sep v := by
  induction v using List.reverseRecOn with
  | nil => simp at h
  | append_singleton v c ih =>
    rw [← List.append_assoc]
    by_cases hc : c = sep
    · subst hc
      rw [trimRight_concat_self, trimRight_concat_self]
      exact ih (by simpa using h)
    · rw [trimRight_concat_of_ne hc, trimRight_concat_of_ne hc, List.append_assoc]

theorem trimRight_append_of_blank (h : Blank sep v) :
    trimRight sep (u ++ v) = trimRight sep u := by
  induction v using List.reverseRecOn with
  | nil => simp
  | append_singleton v c ih =>
    simp only [blank_append, blank_cons, blank_nil, and_true] at h
    rw [← List.append_assoc, h.2, trimRight_concat_self, ih h.1]

@[simp] theorem blank_trimRight : Blank sep (trimRight sep l) ↔ Blank sep l := by
  rw [← trimRight_eq_nil, trimRight_trimRight, trimRight_eq_nil]

theorem trimRight_cons (h : ¬ Blank sep l) : trimRight sep (c :: l) = c :: trimRight sep l :=
  trimRight_append (u := [c]) h

/-- Both ends are trimmed in any order. -/
theorem trimLeft_trimRight (l : List α) :
    trimLeft sep (trimRight sep l) = trimRight sep (trimLeft sep l) := by
  by_cases hl : Blank sep l
  · rw [trimRight_eq_nil.mpr hl, trimLeft_eq_nil.mpr hl]
    rfl
  · induction l with
    | nil => rfl
    | cons c l ih =>
      by_cases hc : c = sep
      · subst hc
        have hrest : ¬ Blank c l := by simpa using hl
        rw [trimRight_cons hrest, trimLeft_cons_self, trimLeft_cons_self, ih hrest]
      · rw [trimLeft_cons_of_ne hc]
        obtain ⟨rest, hrest⟩ : ∃ rest, trimRight sep (c :: l) = c :: rest := by
          by_cases hb : Blank sep l
          · refine ⟨[], ?_⟩
            rw [← List.singleton_append, trimRight_append_of_blank hb]
            exact trimRight_concat_of_ne (l := []) hc
          · exact ⟨_, trimRight_cons hb⟩
        rw [hrest, trimLeft_cons_of_ne hc]

/-! ## Stems and branches -/

theorem exists_absolute (l : List α) : ∃ rest, absolute sep l = sep :: rest := by
  unfold absolute
  split
  · next h =>
    obtain ⟨rest, hrest⟩ := List.head?_eq_some_iff.mp h
    exact ⟨rest, hrest⟩
  · exact ⟨l, rfl⟩

theorem absolute_cons_self (l : List α) : absolute sep (sep :: l) = sep :: l := by simp [absolute]

@[simp] theorem blank_absolute : Blank sep (absolute sep l) ↔ Blank sep l := by
  unfold absolute
  split
  · rfl
  · simp

@[simp] theorem trimLeft_absolute : trimLeft sep (absolute sep l) = trimLeft sep l := by
  unfold absolute
  split
  · rfl
  · exact trimLeft_cons_self

theorem stem_eq_nil : stem sep l = [] ↔ Blank sep l := by
  rw [stem, trimRight_eq_nil, blank_absolute]

theorem stem_cons_self (l : List α) : stem sep (sep :: l) = trimRight sep (sep :: l) := by
  rw [stem, absolute_cons_self]

@[simp] theorem trimRight_stem : trimRight sep (stem sep l) = stem sep l := trimRight_trimRight

@[simp] theorem blank_stem : Blank sep (stem sep l) ↔ Blank sep l := by
  rw [stem, blank_trimRight, blank_absolute]

theorem branch_of_blank (h : Blank sep l) : branch sep l = [] := if_pos h

theorem branch_of_not_blank (h : ¬ Blank sep l) : branch sep l = sep :: trimLeft sep l := if_neg h

theorem join_of_blank {top sub : List α} (h : Blank sep sub) :
    join sep top sub = orRoot sep (stem sep top) := by
  rw [join, branch_of_blank h, List.append_nil]

theorem join_of_not_blank {top sub : List α} (h : ¬ Blank sep sub) :
    join sep top sub = stem sep top ++ sep :: trimLeft sep sub := by
  rw [join, branch_of_not_blank h, orRoot, if_neg (by simp)]

@[simp] theorem blank_branch : Blank sep (branch sep l) ↔ Blank sep l := by
  unfold branch
  split
  · next h => simp [h]
  · simp

/-- A row that is put together is empty or absolute. -/
theorem eq_nil_or_cons (a b : List α) :
    stem sep a ++ branch sep b = [] ∨ ∃ rest, stem sep a ++ branch sep b = sep :: rest := by
  by_cases ha : Blank sep a
  · rw [stem_eq_nil.mpr ha, List.nil_append]
    by_cases hb : Blank sep b
    · exact .inl (branch_of_blank hb)
    · exact .inr ⟨_, branch_of_not_blank hb⟩
  · obtain ⟨rest, hrest⟩ : ∃ rest, absolute sep a = sep :: rest := exists_absolute a
    have hnot : ¬ Blank sep rest := by
      rw [← blank_absolute, hrest] at ha
      simpa using ha
    rw [stem, hrest, trimRight_cons hnot]
    exact .inr ⟨_, rfl⟩

theorem stem_join (a b : List α) :
    stem sep (join sep a b) = stem sep a ++ trimRight sep (branch sep b) := by
  have htrim : trimRight sep (stem sep a ++ branch sep b) =
      stem sep a ++ trimRight sep (branch sep b) := by
    by_cases hb : Blank sep b
    · simp [branch_of_blank hb]
    · exact trimRight_append (by simpa using hb)
  rw [← htrim, join, orRoot]
  split
  · next hnil =>
    rw [hnil, stem_cons_self]
    exact trimRight_eq_nil.mpr (by simp)
  · next hne =>
    obtain ⟨rest, hrest⟩ := (eq_nil_or_cons a b).resolve_left hne
    rw [hrest, stem_cons_self]

theorem branch_join (a b : List α) :
    branch sep (join sep a b) = trimRight sep (branch sep a) ++ branch sep b := by
  have hroot : branch sep (join sep a b) = branch sep (stem sep a ++ branch sep b) := by
    rw [join, orRoot]
    split
    · next hnil => rw [hnil, branch_of_blank blank_nil, branch_of_blank (by simp)]
    · rfl
  rw [hroot]
  by_cases ha : Blank sep a
  · rw [stem_eq_nil.mpr ha, branch_of_blank ha]
    by_cases hb : Blank sep b
    · rw [branch_of_blank hb, List.append_nil, branch_of_blank blank_nil]
      rfl
    · have htrim : trimLeft sep (sep :: trimLeft sep b) = trimLeft sep b := by
        rw [trimLeft_cons_self]
        exact List.dropWhile_idempotent _ _
      rw [List.nil_append, branch_of_not_blank (by simpa using hb), branch_of_not_blank hb, htrim]
      rfl
  · rw [branch_of_not_blank (by simp [ha]), branch_of_not_blank ha,
      trimLeft_append (by simpa using ha), trimRight_cons (by simpa using ha), stem,
      trimLeft_trimRight, trimLeft_absolute]
    rfl

/-- **Joining is associative.** -/
theorem join_assoc (a b c : List α) :
    join sep (join sep a b) c = join sep a (join sep b c) := by
  rw [join, stem_join, join, branch_join, List.append_assoc]

/-- The first element of a row stays first. -/
theorem head?_trimRight (h : ¬ Blank sep l) : (trimRight sep l).head? = l.head? := by
  obtain ⟨rest, hrest⟩ : trimRight sep l <+: l := List.rdropWhile_prefix _ _
  cases htrim : trimRight sep l with
  | nil => exact absurd (trimRight_eq_nil.mp htrim) h
  | cons c front =>
    rw [← hrest, htrim]
    rfl

theorem getLast?_trimRight_ne : (trimRight sep l).getLast? ≠ some sep := by
  induction l using List.reverseRecOn with
  | nil => simp
  | append_singleton l c ih =>
    by_cases hc : c = sep
    · subst hc
      rwa [trimRight_concat_self]
    · rw [trimRight_concat_of_ne hc]
      simpa using hc

theorem stem_of_not_blank (h : ¬ Blank sep l) :
    stem sep l = absolute sep (trimRight sep l) := by
  simp only [stem, absolute, head?_trimRight h]
  split
  · rfl
  · exact trimRight_cons h

theorem not_doubled_absolute (h : ¬ Doubled sep l) : ¬ Doubled sep (absolute sep l) := by
  unfold absolute
  split
  · exact h
  · next hhead => simp [doubled_cons, hhead, h]

/-- Up to the separator before its branch, a joined row has no empty name
unless the row above has one. -/
theorem not_doubled_stem (h : ¬ Doubled sep (trimRight sep l)) :
    ¬ Doubled sep (stem sep l ++ [sep]) := by
  by_cases hl : Blank sep l
  · rw [stem_eq_nil.mpr hl]
    intro hdoubled
    have hlength := hdoubled.length_le
    simp at hlength
  · have hstem : ¬ Doubled sep (stem sep l) := by
      rw [stem_of_not_blank hl]
      exact not_doubled_absolute h
    have hlast : (stem sep l).getLast? ≠ some sep := getLast?_trimRight_ne
    simp [doubled_concat, hlast, hstem]

/-! ## Joined rows -/

theorem exists_join (top sub : List α) : ∃ rest, join sep top sub = sep :: rest := by
  rw [join, orRoot]
  split
  · exact ⟨[], rfl⟩
  · next hne => exact (eq_nil_or_cons top sub).resolve_left hne

@[simp] theorem blank_join {top sub : List α} :
    Blank sep (join sep top sub) ↔ Blank sep top ∧ Blank sep sub := by
  rw [join, orRoot]
  split
  · next hnil =>
    have hblank : Blank sep (stem sep top ++ branch sep sub) := by
      rw [hnil]
      exact blank_nil
    simpa using hblank
  · simp

/-- A separator more at the start of the row above. -/
theorem join_cons_left {sub : List α} (h : ¬ Blank sep l) (hl : l.head? = some sep) :
    join sep (sep :: l) sub = sep :: join sep l sub := by
  have hstem : stem sep (sep :: l) = sep :: stem sep l := by
    rw [stem_cons_self, trimRight_cons h, stem, absolute, if_pos hl]
  have hne : stem sep l ≠ [] := by rwa [Ne, stem_eq_nil]
  simp [join, orRoot, hstem, hne]

/-- A separator more at the start of the row below. -/
theorem join_cons_right (top : List α) : join sep top (sep :: l) = join sep top l := by
  have hbranch : branch sep (sep :: l) = branch sep l := by
    simp [branch, trimLeft_cons_self]
  rw [join, join, hbranch]

/-! ## Names -/

theorem names_append (u v : List α) :
    names sep (u ++ sep :: v) = names sep u ++ names sep v := by
  simp only [names, List.splitOn_append_cons_self, List.filter_append]

@[simp] theorem names_nil : names sep [] = [] := by simp [names, List.splitOn_nil]

theorem names_cons_self (l : List α) : names sep (sep :: l) = names sep l := by
  have h : names sep (sep :: l) = names sep [] ++ names sep l := names_append [] l
  rwa [names_nil] at h

theorem names_concat_self (l : List α) : names sep (l ++ [sep]) = names sep l := by
  rw [names_append, names_nil, List.append_nil]

theorem names_trimLeft (l : List α) : names sep (trimLeft sep l) = names sep l := by
  induction l with
  | nil => rfl
  | cons c l ih =>
    by_cases hc : c = sep
    · subst hc
      rw [trimLeft_cons_self, ih, names_cons_self]
    · rw [trimLeft_cons_of_ne hc]

theorem names_trimRight (l : List α) : names sep (trimRight sep l) = names sep l := by
  induction l using List.reverseRecOn with
  | nil => rfl
  | append_singleton l c ih =>
    by_cases hc : c = sep
    · subst hc
      rw [trimRight_concat_self, ih, names_concat_self]
    · rw [trimRight_concat_of_ne hc]

theorem names_stem (l : List α) : names sep (stem sep l) = names sep l := by
  rw [stem, names_trimRight, absolute]
  split
  · rfl
  · exact names_cons_self l

theorem names_of_blank (h : Blank sep l) : names sep l = [] := by
  rw [← names_trimLeft, trimLeft_eq_nil.mpr h, names_nil]

/-- **Joining appends the names.** -/
theorem names_join (top sub : List α) :
    names sep (join sep top sub) = names sep top ++ names sep sub := by
  have hroot : names sep (join sep top sub) = names sep (stem sep top ++ branch sep sub) := by
    rw [join, orRoot]
    split
    · next hnil => rw [hnil, names_cons_self]
    · rfl
  rw [hroot]
  by_cases hsub : Blank sep sub
  · rw [branch_of_blank hsub, List.append_nil, names_stem, names_of_blank hsub, List.append_nil]
  · rw [branch_of_not_blank hsub, names_append, names_stem, names_trimLeft]

end Separator

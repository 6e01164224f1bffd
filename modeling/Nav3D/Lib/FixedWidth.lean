/-
Nav3D.Lib.FixedWidth — records that are read from a row of parts, each from
the same number of parts.

`readRecords` reads at `i`, `i + width` and so on below the size. If what
is left is a whole number of records, each of them is read within the size
(`readRecords_error`), and records that are written one after the other are
read back (`readRecords_flatMap`).
-/
import Mathlib.Data.List.Basic
import Mathlib.Tactic.Common

namespace FixedWidth

variable {ε R α : Type*} {width size i k : Nat} {read : Nat → Except ε R}

/-- Read the records from `i` on. -/
def readRecords (read : Nat → Except ε R) (width : Nat) (hwidth : 0 < width) (size i : Nat) :
    Except ε (List R) :=
  if i < size then do
    let record ← read i
    let records ← readRecords read width hwidth size (i + width)
    return record :: records
  else return []
termination_by size - i

variable {hwidth : 0 < width}

/-- Where the records fill the size, an error is one of reading a record
within the size. -/
theorem readRecords_error {e : ε} (hsize : size = i + width * k)
    (h : readRecords read width hwidth size i = .error e) :
    ∃ j, j + width ≤ size ∧ read j = .error e := by
  induction k generalizing i with
  | zero =>
    rw [readRecords, if_neg (by omega)] at h
    cases h
  | succ k ih =>
    have hnext : size = i + width + width * k := by
      rw [hsize, Nat.mul_succ]
      omega
    rw [readRecords, if_pos (by omega)] at h
    cases hread : read i with
    | error e' =>
      rw [hread] at h
      cases h
      exact ⟨i, by omega, hread⟩
    | ok record =>
      rw [hread] at h
      cases hrest : readRecords read width hwidth size (i + width) with
      | error e' =>
        simp only [hrest] at h
        cases h
        exact ih hnext hrest
      | ok records =>
        simp only [hrest] at h
        cases h

/-- What is written record by record is read back. -/
theorem readRecords_flatMap {fields : R → List α} {parts : List α}
    (hfields : ∀ r, (fields r).length = width) {records : List R}
    (hread : ∀ before, ∀ r ∈ records, ∀ after, parts = before ++ (fields r ++ after) →
      read before.length = .ok r)
    {before : List α} (hparts : parts = before ++ records.flatMap fields) :
    readRecords read width hwidth parts.length before.length = .ok records := by
  induction records generalizing before with
  | nil =>
    rw [readRecords, if_neg (by simp [hparts])]
    rfl
  | cons r records ih =>
    rw [List.flatMap_cons] at hparts
    have hlength : before.length + width ≤ parts.length := by
      rw [hparts, List.length_append, List.length_append, hfields]
      omega
    have hnext : parts = (before ++ fields r) ++ records.flatMap fields := by
      rw [hparts, List.append_assoc]
    have hrest := ih (fun before r hr => hread before r (List.mem_cons_of_mem _ hr)) hnext
    rw [List.length_append, hfields] at hrest
    rw [readRecords, if_pos (by omega), hread before r List.mem_cons_self _ hparts]
    simp only [hrest]
    rfl

end FixedWidth

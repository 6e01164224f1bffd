/-
Nav3D.Lib.RunningMin — a loop that acts on the elements that lower a running
minimum.

The elements that lower it are the records of the list. A loop that skips
all others is a loop over the records below its first bound
(`foldl_eq_foldl_records`), and the last of these is the first smallest
element (`FirstMin.recordsBelow_eq`).
-/
import Mathlib.Data.List.Basic
import Mathlib.Order.Lattice
import Mathlib.Tactic.Common

namespace RunningMin

variable {α κ : Type*} [LinearOrder κ]

/-- The elements that are smaller than all before them. -/
def records (key : α → κ) : List α → List α
  | [] => []
  | x :: xs => x :: (records key xs).filter fun y => key y < key x

/-- The records that are smaller than a bound. -/
def recordsBelow (key : α → κ) (bound : κ) (xs : List α) : List α :=
  (records key xs).filter fun x => key x < bound

/-- A list split at its first smallest element. -/
structure FirstMin (key : α → κ) (xs before : List α) (first : α) (after : List α) : Prop where
  eq : xs = before ++ first :: after
  before_lt : ∀ x ∈ before, key first < key x
  after_le : ∀ x ∈ after, key first ≤ key x

variable {key : α → κ} {xs before after : List α} {first : α}

theorem mem_of_mem_records {x : α} (h : x ∈ records key xs) : x ∈ xs := by
  induction xs with
  | nil => simp [records] at h
  | cons y ys ih =>
    rcases List.mem_cons.mp h with rfl | hrest
    · exact List.mem_cons_self
    · exact List.mem_cons_of_mem y (ih (List.mem_filter.mp hrest).1)

theorem exists_firstMin (key : α → κ) (h : xs ≠ []) :
    ∃ before first after, FirstMin key xs before first after := by
  induction xs with
  | nil => exact absurd rfl h
  | cons x xs ih =>
    cases xs with
    | nil => exact ⟨[], x, [], rfl, by simp, by simp⟩
    | cons y ys =>
      obtain ⟨before, first, after, heq, hbefore, hafter⟩ := ih (by simp)
      rcases le_or_gt (key x) (key first) with hle | hlt
      · refine ⟨[], x, y :: ys, rfl, by simp, fun z hz => ?_⟩
        rw [heq, List.mem_append, List.mem_cons] at hz
        rcases hz with hz | rfl | hz
        · exact hle.trans (hbefore z hz).le
        · exact hle
        · exact hle.trans (hafter z hz)
      · refine ⟨x :: before, first, after, by rw [heq]; rfl, fun z hz => ?_, hafter⟩
        rcases List.mem_cons.mp hz with rfl | hz
        · exact hlt
        · exact hbefore z hz

theorem FirstMin.le (h : FirstMin key xs before first after) {x : α} (hx : x ∈ xs) :
    key first ≤ key x := by
  rw [h.eq, List.mem_append, List.mem_cons] at hx
  rcases hx with hx | rfl | hx
  · exact (h.before_lt x hx).le
  · exact le_refl _
  · exact h.after_le x hx

theorem FirstMin.mem (h : FirstMin key xs before first after) : first ∈ xs := by
  simp [h.eq]

/-- The last record is the first smallest element. -/
theorem FirstMin.records_eq (h : FirstMin key xs before first after) :
    records key xs = records key before ++ [first] := by
  obtain ⟨rfl, hbefore, hafter⟩ := h
  induction before with
  | nil =>
    have hnone : (records key after).filter (fun y => key y < key first) = [] := by
      refine List.filter_eq_nil_iff.mpr fun y hy => ?_
      simpa using hafter y (mem_of_mem_records hy)
    simp [records, hnone]
  | cons x before ih =>
    have hlt : key first < key x := hbefore x List.mem_cons_self
    rw [List.cons_append, records, ih fun y hy => hbefore y (List.mem_cons_of_mem x hy),
      List.filter_append, records, List.cons_append]
    simp [hlt]

theorem FirstMin.recordsBelow_eq (h : FirstMin key xs before first after) (bound : κ) :
    recordsBelow key bound xs =
      if key first < bound then recordsBelow key bound before ++ [first] else [] := by
  unfold recordsBelow
  split
  · next hlt => simp [h.records_eq, hlt]
  · next hle =>
    refine List.filter_eq_nil_iff.mpr fun x hx => ?_
    have hx : key first ≤ key x := h.le (mem_of_mem_records hx)
    simpa using (not_lt.mp hle).trans hx

/-- A loop that takes what lowers the minimum and skips the rest is a loop
over the records below its first bound. -/
theorem foldl_eq_foldl_records {β : Type*} (key : α → κ) (bound : β → κ) {step take : β → α → β}
    (htake : ∀ acc x, bound (take acc x) = key x)
    (hlower : ∀ acc x, key x < bound acc → step acc x = take acc x)
    (hskip : ∀ acc x, bound acc ≤ key x → step acc x = acc) (xs : List α) (acc : β) :
    xs.foldl step acc = (recordsBelow key (bound acc) xs).foldl take acc := by
  induction xs generalizing acc with
  | nil => rfl
  | cons x xs ih =>
    rw [List.foldl_cons, recordsBelow, records]
    rcases lt_or_ge (key x) (bound acc) with hlt | hle
    · -- later records are below `x`, and so below the bound
      have hfilter : ((records key xs).filter fun y => key y < key x).filter
          (fun y => key y < bound acc) = recordsBelow key (key x) xs := by
        rw [recordsBelow, List.filter_filter]
        refine List.filter_congr fun y _ => ?_
        by_cases hy : key y < key x
        · simp [hy, hy.trans hlt]
        · simp [hy]
      rw [hlower acc x hlt, ih, htake, List.filter_cons_of_pos (by simpa using hlt),
        List.foldl_cons, hfilter]
    · -- a record below the bound is below `x`
      have hfilter : ((records key xs).filter fun y => key y < key x).filter
          (fun y => key y < bound acc) = recordsBelow key (bound acc) xs := by
        rw [recordsBelow, List.filter_filter]
        refine List.filter_congr fun y _ => ?_
        by_cases hy : key y < bound acc
        · simp [hy, hy.trans_le hle]
        · simp [hy]
      rw [hskip acc x hle, ih, List.filter_cons_of_neg (by simpa using hle), hfilter]

end RunningMin

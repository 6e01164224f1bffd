/-
Nav3D.Lib.SlidingWindow — the recent part of a row of elements with times.

`recent` is what has to be kept of the elements so far: those that are at
most some duration older than the last one. When the times do not decrease
it can be kept step by step, by dropping old elements from the front of what
has been kept and appending the new one (`recent_concat`,
`window_cons_of_recent`).
-/
import Mathlib.Algebra.Order.Group.Defs
import Mathlib.Data.List.Basic
import Mathlib.Tactic.Common

namespace SlidingWindow

variable {α T : Type*} [AddCommGroup T] [LinearOrder T] (time : α → T) (duration : T)

/-- The elements that are at most `duration` older than `now`. -/
def window (now : T) (xs : List α) : List α := xs.filter fun x => now - time x ≤ duration

/-- The times do not decrease. -/
def Ordered (xs : List α) : Prop := xs.Pairwise fun a b => time a ≤ time b

/-- The elements that are at most `duration` older than the last one. -/
def recent (xs : List α) : List α :=
  match xs.getLast? with
  | none => []
  | some newest => window time duration (time newest) xs

variable {time duration} {now now' : T} {x : α} {xs : List α}

theorem window_cons_of_old (h : duration < now - time x) :
    window time duration now (x :: xs) = window time duration now xs :=
  List.filter_cons_of_neg (by simpa using h)

theorem mem_of_mem_recent (h : x ∈ recent time duration xs) : x ∈ xs := by
  unfold recent at h
  split at h
  · exact absurd h List.not_mem_nil
  · exact (List.mem_filter.mp h).1

omit [AddCommGroup T] in
theorem ordered_nil : Ordered time ([] : List α) := List.Pairwise.nil

/-- A part of an ordered row is ordered. -/
theorem Ordered.window (h : Ordered time xs) : Ordered time (window time duration now xs) :=
  h.sublist List.filter_sublist

theorem Ordered.recent (h : Ordered time xs) : Ordered time (recent time duration xs) := by
  unfold SlidingWindow.recent
  split
  · exact ordered_nil
  · exact h.window

omit [AddCommGroup T] in
/-- What is not older than the last element can be appended. -/
theorem Ordered.concat (h : Ordered time xs)
    (hlast : ∀ last ∈ xs.getLast?, time last ≤ time x) : Ordered time (xs ++ [x]) := by
  refine List.pairwise_append.mpr ⟨h, List.pairwise_singleton _ _, fun a ha b hb => ?_⟩
  obtain rfl := List.mem_singleton.mp hb
  obtain ⟨front, last, rfl⟩ : ∃ front last, xs = front ++ [last] :=
    ⟨_, _, (List.dropLast_append_getLast (List.ne_nil_of_mem ha)).symm⟩
  have hle := hlast last (by simp)
  rcases List.mem_append.mp ha with hfront | hlast
  · exact ((List.pairwise_append.mp h).2.2 a hfront last (by simp)).trans hle
  · rw [List.mem_singleton.mp hlast]
    exact hle

section OrderedGroup

variable [IsOrderedAddMonoid T]

/-- From the first recent element on, all are. -/
theorem window_cons_of_recent (h : Ordered time (x :: xs)) (hx : now - time x ≤ duration) :
    window time duration now (x :: xs) = x :: xs := by
  refine List.filter_eq_self.mpr fun a ha => ?_
  rw [decide_eq_true_eq]
  rcases List.mem_cons.mp ha with rfl | htail
  · exact hx
  · exact (sub_le_sub_left ((List.pairwise_cons.mp h).1 a htail) now).trans hx

/-- A later window is part of an earlier one. -/
theorem window_window (h : now ≤ now') :
    window time duration now' (window time duration now xs) = window time duration now' xs := by
  rw [window, window, List.filter_filter]
  refine List.filter_congr fun a _ => ?_
  have himp : now' - time a ≤ duration → now - time a ≤ duration :=
    fun hle => (sub_le_sub_right h _).trans hle
  by_cases hle : now' - time a ≤ duration
  · simp [hle, himp hle]
  · simp [hle]

/-- The recent elements after one more: drop what has become old, and append
the new one. -/
theorem recent_concat (hduration : 0 ≤ duration)
    (hlast : ∀ last ∈ xs.getLast?, time last ≤ time x) :
    recent time duration (xs ++ [x]) =
      window time duration (time x) (recent time duration xs) ++ [x] := by
  have hnew : window time duration (time x) [x] = [x] :=
    List.filter_cons_of_pos (by simpa using hduration)
  have hsame : window time duration (time x) (recent time duration xs) =
      window time duration (time x) xs := by
    unfold recent
    split
    · next hnone => rw [List.getLast?_eq_none_iff.mp hnone]
    · next last hsome => exact window_window (hlast last hsome)
  calc recent time duration (xs ++ [x])
      = window time duration (time x) (xs ++ [x]) := by simp only [recent, List.getLast?_concat]
    _ = window time duration (time x) xs ++ window time duration (time x) [x] :=
      List.filter_append _ _
    _ = window time duration (time x) (recent time duration xs) ++ [x] := by rw [hsame, hnew]

end OrderedGroup

end SlidingWindow

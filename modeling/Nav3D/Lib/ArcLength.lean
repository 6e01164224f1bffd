/-
Nav3D.Lib.ArcLength — lengths along a row of points, and windows of it.

`arcLength` measures from one point of the row to another. A window that is
cut off at the first point beyond a threshold holds the points within the
threshold and no more (`FirstBeyond`), and seen from the other end of the
row such a window reaches as far back (`FirstBeyond.back`). `LastMin` is the
last point of a window with the smallest key.
-/
import Mathlib.Algebra.BigOperators.Intervals
import Mathlib.Algebra.Order.Group.Defs

namespace ArcLength

/-! ## Lengths -/

section Lengths

variable {α K : Type*} [AddCommGroup K] (distance : α → α → K) (points : List α)

/-- The length of segment `k`, zero beyond the last one. -/
def segment (k : Nat) : K :=
  match points[k]?, points[k + 1]? with
  | some a, some b => distance a b
  | _, _ => 0

/-- The length from point `i` to point `j`, along the row. -/
def arcLength (i j : Nat) : K := ∑ k ∈ Finset.Ico i j, segment distance points k

variable {distance points} {i j : Nat}

@[simp] theorem arcLength_self : arcLength distance points i i = 0 := by
  simp [arcLength]

theorem arcLength_succ (h : i ≤ j) :
    arcLength distance points i (j + 1) =
      arcLength distance points i j + segment distance points j :=
  Finset.sum_Ico_succ_top h _

theorem segment_eq {a b : α} (ha : points[i]? = some a) (hb : points[i + 1]? = some b) :
    segment distance points i = distance a b := by
  rw [segment, ha, hb]

/-- A segment from the other end. -/
theorem segment_reverse (hsymm : ∀ a b, distance a b = distance b a)
    (h : i + 1 < points.length) :
    segment distance points.reverse i = segment distance points (points.length - 2 - i) := by
  have hfirst : points.reverse[i]? = points[points.length - 2 - i + 1]? := by
    rw [List.getElem?_reverse (by omega)]
    congr 1
    omega
  have hsecond : points.reverse[i + 1]? = points[points.length - 2 - i]? := by
    rw [List.getElem?_reverse h]
    congr 1
    omega
  obtain ⟨a, ha⟩ : ∃ a, points[points.length - 2 - i]? = some a :=
    ⟨_, List.getElem?_eq_getElem (by omega)⟩
  obtain ⟨b, hb⟩ : ∃ b, points[points.length - 2 - i + 1]? = some b :=
    ⟨_, List.getElem?_eq_getElem (by omega)⟩
  rw [segment_eq (hfirst.trans hb) (hsecond.trans ha), segment_eq ha hb, hsymm]

/-- A length from the other end. By induction on its last segment. -/
theorem arcLength_reverse (hsymm : ∀ a b, distance a b = distance b a) (hij : i ≤ j)
    (hj : j < points.length) :
    arcLength distance points.reverse i j =
      arcLength distance points (points.length - 1 - j) (points.length - 1 - i) := by
  induction j, hij using Nat.le_induction with
  | base => simp
  | succ j hij ih =>
    have hfrom : points.length - 1 - j = points.length - 1 - (j + 1) + 1 := by omega
    have hsegment : points.length - 2 - j = points.length - 1 - (j + 1) := by omega
    rw [arcLength_succ hij, ih (by omega), segment_reverse hsymm hj, hsegment, hfrom, add_comm]
    exact (Finset.sum_eq_sum_Ico_succ_bot (by omega) _).symm

end Lengths

/-! ## Windows -/

section Windows

variable {α K : Type*} [AddCommGroup K] [LinearOrder K] (distance : α → α → K) (points : List α)

/-- `r` is the first point between `i` and `j` that is farther than the
threshold from point `i`, or `j` if there is none. -/
structure FirstBeyond (i j : Nat) (threshold : K) (r : Nat) : Prop where
  after : i < r
  le : r ≤ j
  within : ∀ k, i < k → k < r → arcLength distance points i k ≤ threshold
  beyond : r < j → threshold < arcLength distance points i r

variable {distance points} {i j r : Nat} {threshold : K}

/-- All points of the window are within the threshold. -/
theorem FirstBeyond.arcLength_le (h : FirstBeyond distance points i j threshold r)
    (hthreshold : 0 ≤ threshold) {k : Nat} (hi : i ≤ k) (hk : k < r) :
    arcLength distance points i k ≤ threshold := by
  rcases Nat.eq_or_lt_of_le hi with rfl | hlt
  · rwa [arcLength_self]
  · exact h.within k hlt hk

/-- A window of the reversed row that starts at point `c` of the row: it
reaches back to point `points.length - r`, which is within the threshold of
`c`, and the point before it is not. -/
theorem FirstBeyond.back (hsymm : ∀ a b, distance a b = distance b a) {c : Nat}
    (hc : c < points.length) (hthreshold : 0 ≤ threshold)
    (h : FirstBeyond distance points.reverse (points.length - (c + 1)) points.length threshold r) :
    points.length - r ≤ c ∧ arcLength distance points (points.length - r) c ≤ threshold ∧
      (0 < points.length - r →
        threshold < arcLength distance points (points.length - r - 1) c) := by
  have hafter := h.after
  have hle := h.le
  have hstart : points.length - 1 - (points.length - (c + 1)) = c := by omega
  refine ⟨by omega, ?_, fun hpos => ?_⟩
  · have hreach := h.arcLength_le hthreshold (k := r - 1) (by omega) (by omega)
    rw [arcLength_reverse hsymm (by omega) (by omega), hstart] at hreach
    have hend : points.length - 1 - (r - 1) = points.length - r := by omega
    rwa [hend] at hreach
  · have hbeyond := h.beyond (by omega)
    rw [arcLength_reverse hsymm (by omega) (by omega), hstart] at hbeyond
    have hend : points.length - 1 - r = points.length - r - 1 := by omega
    rwa [hend] at hbeyond

end Windows

section Keys

variable {α κ : Type*} [LinearOrder κ]

/-- Point `r` is the last one with the smallest key among those from `i` to
before `j`. -/
structure LastMin (key : α → κ) (points : List α) (i j r : Nat) : Prop where
  ge : i ≤ r
  lt : r < j
  min : ∀ a b k, points[r]? = some a → i ≤ k → k < j → points[k]? = some b → key a ≤ key b
  last : ∀ a b k, points[r]? = some a → r < k → k < j → points[k]? = some b → key a < key b

variable {key : α → κ} {points : List α} {i j r : Nat} {p q : α}

theorem lastMin_self : LastMin key points i (i + 1) i where
  ge := le_refl i
  lt := Nat.lt_succ_self i
  min a b k ha hik hk hb := by
    have hki : k = i := by omega
    rw [hki, ha] at hb
    cases hb
    exact le_refl _
  last a b k _ hik hk _ := absurd hk (by omega)

/-- A further point that is no better than the smallest so far becomes the
smallest. -/
theorem LastMin.replace (h : LastMin key points i j r) (hp : points[r]? = some p)
    (hq : points[j]? = some q) (hle : key q ≤ key p) : LastMin key points i (j + 1) j where
  ge := h.ge.trans h.lt.le
  lt := Nat.lt_succ_self j
  min a b k ha hik hk hb := by
    rw [hq] at ha
    cases ha
    rcases Nat.lt_or_eq_of_le (Nat.le_of_lt_succ hk) with hlt | rfl
    · exact hle.trans (h.min p b k hp hik hlt hb)
    · rw [hq] at hb
      cases hb
      exact le_refl _
  last a b k _ hjk hk _ := absurd hk (by omega)

/-- One that is worse does not. -/
theorem LastMin.keep (h : LastMin key points i j r) (hp : points[r]? = some p)
    (hq : points[j]? = some q) (hlt : key p < key q) : LastMin key points i (j + 1) r where
  ge := h.ge
  lt := Nat.lt_succ_of_lt h.lt
  min a b k ha hik hk hb := by
    rw [hp] at ha
    cases ha
    rcases Nat.lt_or_eq_of_le (Nat.le_of_lt_succ hk) with hltj | rfl
    · exact h.min p b k hp hik hltj hb
    · rw [hq] at hb
      cases hb
      exact hlt.le
  last a b k ha hrk hk hb := by
    rw [hp] at ha
    cases ha
    rcases Nat.lt_or_eq_of_le (Nat.le_of_lt_succ hk) with hltj | rfl
    · exact h.last p b k hp hrk hltj hb
    · rw [hq] at hb
      cases hb
      exact hlt

end Keys

end ArcLength

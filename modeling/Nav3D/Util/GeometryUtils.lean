/-
Nav3D.Util.GeometryUtils — the two function templates `min_by` and
`first_after_integrated_distance` (`geometry_utils.hpp`).

An iterator into a vector is its offset from the beginning, up to the size
for the end of the vector. A reverse iterator is an iterator into the
reversed list. To form an iterator outside of the vector, or to read at its
end, is undefined: `none`. `euclidean_distance` is a parameter, as are the
type of the elements and the numbers.

What the functions return on a range of a vector is said by
`ArcLength.LastMin` (`minBy_spec`) and `ArcLength.FirstBeyond`
(`firstAfterIntegratedDistance_spec`).
-/
import Nav3D.Lib.ArcLength

namespace Nav3D.Util

open ArcLength

/-! ## Iterators -/

section Iterators

variable {α : Type} (poses : List α)

/-- `it + 1`. -/
def next (it : Nat) : Option Nat := if it < poses.length then some (it + 1) else none

/-- `end - 1`. -/
def prev (it : Nat) : Option Nat :=
  match it with
  | 0 => none
  | it + 1 => some it

/-- `std::reverse_iterator(it)`, an iterator into the reversed list. -/
def reverseIterator (it : Nat) : Nat := poses.length - it

/-- `it.base()`. -/
def base (it : Nat) : Nat := poses.length - it

/-- `std::vector(first, last)`. -/
def range (first last : Nat) : Option (List α) :=
  if first ≤ last ∧ last ≤ poses.length then some ((poses.take last).drop first) else none

end Iterators

/-! ## `min_by` -/

section MinBy

variable {α κ : Type} [LinearOrder κ] (getCompareVal : α → κ) (poses : List α) (last : Nat)

/-- The `for` loop, with `lowest` and `lowest_it`. -/
def minByLoop (it : Nat) (lowest : κ) (lowestIt : Nat) : Option Nat :=
  if it = last then some lowestIt
  else
    match _hpose : poses[it]? with
    | none => none
    | some pose =>
      let comp := getCompareVal pose
      if comp ≤ lowest then minByLoop (it + 1) comp it else minByLoop (it + 1) lowest lowestIt
  termination_by poses.length - it
  decreasing_by
    all_goals
      have hit := (List.getElem?_eq_some_iff.mp _hpose).1
      omega

/-- `min_by(begin, end, getCompareVal)`. -/
def minBy (first : Nat) : Option Nat :=
  if first = last then some last
  else
    match poses[first]? with
    | none => none
    | some pose => minByLoop getCompareVal poses last (first + 1) (getCompareVal pose) first

variable {getCompareVal poses last}

/-- The loop keeps the last smallest element so far. By the recursion of the
loop. -/
theorem minByLoop_spec {first it lowestIt : Nat} {lowest : κ}
    (hlowest : poses[lowestIt]?.map getCompareVal = some lowest) (hlast : last ≤ poses.length)
    (hit : it ≤ last) (h : LastMin getCompareVal poses first it lowestIt) :
    ∃ r, minByLoop getCompareVal poses last it lowest lowestIt = some r ∧
      LastMin getCompareVal poses first last r := by
  fun_induction minByLoop getCompareVal poses last it lowest lowestIt with
  | case1 lowest lowestIt => exact ⟨lowestIt, rfl, h⟩
  | case2 it lowest lowestIt hne hnone =>
    have hout := List.getElem?_eq_none_iff.mp hnone
    omega
  | case3 it lowest lowestIt hne pose hpose comp hle ih =>
    obtain ⟨p, hp, rfl⟩ := Option.map_eq_some_iff.mp hlowest
    refine ih ?_ (by omega) (h.replace hp hpose hle)
    rw [hpose]
    rfl
  | case4 it lowest lowestIt hne pose hpose comp hgt ih =>
    obtain ⟨p, hp, rfl⟩ := Option.map_eq_some_iff.mp hlowest
    exact ih hlowest (by omega) (h.keep hp hpose (not_le.mp hgt))

variable (getCompareVal) in
/-- On a range that is not empty the result is in the range, and the last
one of the smallest elements. -/
theorem minBy_spec {first : Nat} (hfirst : first < last) (hlast : last ≤ poses.length) :
    ∃ r, minBy getCompareVal poses last first = some r ∧
      LastMin getCompareVal poses first last r := by
  have hpose : poses[first]? = some poses[first] := List.getElem?_eq_getElem (by omega)
  rw [minBy, if_neg (Nat.ne_of_lt hfirst), hpose]
  refine minByLoop_spec ?_ hlast hfirst lastMin_self
  rw [hpose]
  rfl

end MinBy

/-! ## `first_after_integrated_distance` -/

section FirstAfter

variable {α K : Type} [AddCommGroup K] [LinearOrder K] (euclideanDistance : α → α → K)
  (poses : List α)

/-- The `for` loop, up to the element `last` before the end, with `dist`. -/
def firstAfterLoop (last : Nat) (distanceThreshold : K) (it : Nat) (dist : K) :
    Option Nat :=
  if it = last then some (last + 1)
  else
    match _hpose : poses[it]?, poses[it + 1]? with
    | some pose, some following =>
      let dist := dist + euclideanDistance pose following
      if distanceThreshold < dist then some (it + 1)
      else firstAfterLoop last distanceThreshold (it + 1) dist
    | _, _ => none
  termination_by poses.length - it
  decreasing_by
    have hit := (List.getElem?_eq_some_iff.mp _hpose).1
    omega

/-- `first_after_integrated_distance(begin, end, distance_threshold)`. -/
def firstAfterIntegratedDistance (first last : Nat) (distanceThreshold : K) : Option Nat := do
  if first = last then return last
  else
    let beforeEnd ← prev last
    firstAfterLoop euclideanDistance poses beforeEnd distanceThreshold first 0

variable {euclideanDistance poses}

/-- The loop has passed the points within the threshold only. By its
recursion. -/
theorem firstAfterLoop_spec {first last it : Nat} {distanceThreshold dist : K}
    (hdist : arcLength euclideanDistance poses first it = dist)
    (hlast : last < poses.length) (hfirst : first ≤ it) (hit : it ≤ last)
    (hwithin : ∀ k, first < k → k ≤ it →
      arcLength euclideanDistance poses first k ≤ distanceThreshold) :
    ∃ r, firstAfterLoop euclideanDistance poses last distanceThreshold it dist = some r ∧
      FirstBeyond euclideanDistance poses first (last + 1) distanceThreshold r := by
  fun_induction firstAfterLoop euclideanDistance poses last distanceThreshold it dist with
  | case1 dist =>
    refine ⟨last + 1, rfl, by omega, le_refl _, fun k hk hlt => hwithin k hk (by omega), ?_⟩
    exact fun hlt => absurd hlt (Nat.lt_irrefl _)
  | case2 it dist hne pose following hpose hfollowing total hbeyond =>
    have htotal : arcLength euclideanDistance poses first (it + 1) = total := by
      rw [arcLength_succ hfirst, segment_eq hpose hfollowing, hdist]
    refine ⟨it + 1, rfl, by omega, by omega, fun k hk hlt => hwithin k hk (by omega), fun _ => ?_⟩
    rwa [htotal]
  | case3 it dist hne pose following hpose hfollowing total hnot ih =>
    have htotal : arcLength euclideanDistance poses first (it + 1) = total := by
      rw [arcLength_succ hfirst, segment_eq hpose hfollowing, hdist]
    refine ih htotal (by omega) (by omega) fun k hk hle => ?_
    rcases Nat.lt_or_eq_of_le hle with hlt | rfl
    · exact hwithin k hk (by omega)
    · rw [htotal]
      exact not_lt.mp hnot
  | case4 it dist hne hnone =>
    exact absurd (List.getElem?_eq_getElem (by omega)) (hnone _ _ · (List.getElem?_eq_getElem
      (by omega)))

variable (euclideanDistance) in
/-- On a range that is not empty the result is the first element beyond the
threshold, or the end of the range. -/
theorem firstAfterIntegratedDistance_spec {first last : Nat} (distanceThreshold : K)
    (hfirst : first < last) (hlast : last ≤ poses.length) :
    ∃ r, firstAfterIntegratedDistance euclideanDistance poses first last distanceThreshold =
        some r ∧ FirstBeyond euclideanDistance poses first last distanceThreshold r := by
  obtain ⟨beforeEnd, rfl⟩ : ∃ beforeEnd, last = beforeEnd + 1 := ⟨last - 1, by omega⟩
  rw [firstAfterIntegratedDistance, if_neg (Nat.ne_of_lt hfirst)]
  exact firstAfterLoop_spec arcLength_self hlast (le_refl first) (by omega)
    fun k hk hle => absurd hk (by omega)

end FirstAfter

end Nav3D.Util

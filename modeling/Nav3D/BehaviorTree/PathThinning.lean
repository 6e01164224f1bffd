/-
Nav3D.BehaviorTree.PathThinning — what `resamplePath` and `capPath` keep of a
path (`plugins/action/truncate_path_local_action.cpp`).

`resamplePath` keeps both ends and, between them, the poses at which the
length since the last kept one has reached the spacing
(`resamplePath_spaced`). `capPath` spreads the indices evenly; its two
clamps never act, since the step is more than one (`capPath_kept`).

The numbers are any ordered field, so the step is exact.
-/
import Mathlib.Data.Rat.Floor
import Nav3D.BehaviorTree.TruncatePathLocal
import Nav3D.Lib.Thinning

namespace Nav3D.BehaviorTree.TruncatePathLocal

open ArcLength Thinning
open Nav3D.Controller (PoseStamped)

/-! ## Resampling -/

section Resampling

variable {K : Type} [Field K] [LinearOrder K] {fns : Functions K} {spacingM : K}
  {poses : List (PoseStamped K)}

/-- The `for` loop with `previous` at index `i`, the last kept pose at index
`a` and the length between them in the accumulator. By induction on the
poses that are left. -/
theorem resampleLoop_spaced (hspacing : 0 < spacingM) {rest : List (PoseStamped K)} {i a : Nat}
    {acc : K} {previous : PoseStamped K} (hrest : poses.drop (i + 1) = rest)
    (hprevious : poses[i]? = some previous) (ha : a ≤ i)
    (hacc : arcLength (euclideanDistance fns) poses a i = acc) (hbefore : acc < spacingM)
    (hlast : rest = [] → a = i) :
    ∃ kept, Selects poses kept (resampleLoop fns spacingM acc previous rest) ∧
      (a :: kept).IsChain (NextKept (euclideanDistance fns) poses spacingM) ∧
      (a :: kept).getLast? = some (poses.length - 1) := by
  induction rest generalizing i a acc previous with
  | nil =>
    refine ⟨[], selects_nil, by simp, ?_⟩
    have hlength := List.drop_eq_nil_iff.mp hrest
    have hi : i < poses.length := (List.getElem?_eq_some_iff.mp hprevious).1
    simp [hlast rfl]
    omega
  | cons p rest ih =>
    have hp : poses[i + 1]? = some p := by
      rw [← List.head?_drop, hrest, List.head?_cons]
    have hdrop : poses.drop (i + 1 + 1) = rest := by
      rw [← List.tail_drop, hrest, List.tail_cons]
    have htotal : arcLength (euclideanDistance fns) poses a (i + 1) =
        acc + euclideanDistance fns previous p := by
      rw [arcLength_succ ha, segment_eq hprevious hp, hacc]
    have hend : rest = [] ↔ i + 1 + 1 = poses.length := by
      have hin : i + 1 < poses.length := (List.getElem?_eq_some_iff.mp hp).1
      rw [← hdrop, List.drop_eq_nil_iff]
      omega
    simp only [resampleLoop]
    split
    · next hkeep =>
      -- pose `i + 1` is kept and the accumulator starts anew
      obtain ⟨kept, hselects, hnext, hend'⟩ :=
        ih hdrop hp (le_refl _) arcLength_self hspacing fun _ => rfl
      refine ⟨(i + 1) :: kept, hselects.cons hp, ?_, ?_⟩
      · rw [List.isChain_cons_cons]
        refine ⟨?_, hnext⟩
        exact {
          lt := by omega
          reached := by rwa [htotal, ← hend]
          not_before := by simpa [hacc] using hbefore }
      · simpa using hend'
    · next hskip =>
      rw [not_or, not_le] at hskip
      exact ih hdrop hp (by omega) htotal hskip.1 fun h => absurd h hskip.2

/-- **Resampling.** The output selects poses of the path by their indices:
the first one, the last one, and between them each pose at which the length
since the one kept before has reached the spacing. Up to the pose before, it
has not. -/
theorem resamplePath_spaced (fns : Functions K) (spacingM : K) (poses : List (PoseStamped K)) :
    (spacingM ≤ 0 ∨ poses.length < 3 → resamplePath fns spacingM poses = poses) ∧
      (0 < spacingM → 3 ≤ poses.length →
        ∃ kept, Selects poses kept (resamplePath fns spacingM poses) ∧
          kept.Pairwise (· < ·) ∧ Spaced (euclideanDistance fns) poses spacingM kept) := by
  constructor
  · intro h
    exact if_pos h
  · intro hspacing hlength
    have hnot : ¬ (spacingM ≤ 0 ∨ poses.length < 3) := by
      rw [not_or, not_le, not_lt]
      exact ⟨hspacing, hlength⟩
    match poses with
    | [] => simp at hlength
    | front :: rest =>
      have hfront : (front :: rest)[0]? = some front := rfl
      obtain ⟨kept, hselects, hnext, hend⟩ := @resampleLoop_spaced _ _ _ fns _
        (front :: rest) hspacing _ _ _ _ _ rfl hfront (le_refl 0) arcLength_self hspacing
        (by rintro rfl; simp at hlength)
      have hspaced : Spaced (euclideanDistance fns) (front :: rest) spacingM (0 :: kept) :=
        ⟨rfl, hend, hnext⟩
      refine ⟨0 :: kept, ?_, hspaced.increasing, hspaced⟩
      rw [resamplePath, if_neg hnot]
      exact hselects.cons hfront

end Resampling

-- a repeated pose adds no length
example : resamplePath axisFunctions 1 ((axisPath [0, 1, 1, 2, 2]).poses) =
    (axisPath [0, 1, 2, 2]).poses := by
  decide +kernel

/-! ## Capping -/

section Capping

variable {K : Type} [Field K] [LinearOrder K] [IsStrictOrderedRing K] [FloorSemiring K]
  {fns : Functions K} {last keep : Nat}

/-- `std::round` of a number that is not negative, to the nearest integer
and a half up. -/
def RoundsHalfUp (fns : Functions K) : Prop := ∀ x, 0 ≤ x → fns.round x = ⌊x + 1 / 2⌋₊

theorem RoundsHalfUp.round_eq (hround : RoundsHalfUp fns) (i : Nat) :
    fns.round ((i : K) * ((last : K) / ((keep - 1 : Nat) : K))) = evenIndex K last keep i :=
  hround _ (by positivity)

/-- The loop puts out the even indices: no clamp acts. By induction on the
number of indices that are left. -/
theorem capLoop_eq (hround : RoundsHalfUp fns) (hkeep : 2 ≤ keep) (hlast : keep ≤ last)
    (count i : Nat) (hcount : i + 1 + count ≤ keep - 1) :
    capLoop fns last ((last : K) / ((keep - 1 : Nat) : K)) count (i + 1)
        (evenIndex K last keep i) =
      (List.range' (i + 1) count).map (evenIndex K last keep) := by
  induction count generalizing i with
  | zero => rfl
  | succ count ih =>
    have hmono := evenIndex_strictMono (K := K) hkeep hlast
    have hlower : evenIndex K last keep i < evenIndex K last keep (i + 1) := hmono (by omega)
    have hupper : evenIndex K last keep (i + 1) < evenIndex K last keep (keep - 1) :=
      hmono (by omega)
    rw [evenIndex_last hkeep] at hupper
    simp only [capLoop, hround.round_eq, if_neg (not_le.mpr hlower), if_neg (not_le.mpr hupper),
      List.range'_succ, List.map_cons]
    rw [ih (i + 1) (by omega)]

/-- More than one index is spread evenly. -/
theorem capIndices_eq (hround : RoundsHalfUp fns) (hkeep : 2 ≤ keep) (hlast : keep ≤ last) :
    capIndices fns last keep = (List.range keep).map (evenIndex K last keep) := by
  have hloop := capLoop_eq hround hkeep hlast (keep - 2) 0 (by omega)
  rw [evenIndex_zero] at hloop
  have hrange : List.range keep = 0 :: List.range' 1 (keep - 2) ++ [keep - 1] := by
    obtain ⟨k, rfl⟩ : ∃ k, keep = k + 2 := ⟨keep - 2, by omega⟩
    rw [List.range_eq_range', List.range'_concat, List.range'_succ]
    simp
  have hindices : capIndices fns last keep =
      0 :: capLoop fns last ((last : K) / ((keep - 1 : Nat) : K)) (keep - 2) 1 0 ++ [last] :=
    if_neg (by omega)
  rw [hindices, hloop, hrange]
  simp [evenIndex_zero, evenIndex_last hkeep]

/-- What the indices that are kept of `n` poses are to be. -/
structure Capped (n count : Nat) (kept : List Nat) : Prop where
  increasing : kept.Pairwise (· < ·)
  first : kept.head? = some 0
  last : kept.getLast? = some (n - 1)
  length : kept.length = count
  in_range : ∀ i ∈ kept, i < n

/-- Evenly spread indices are. -/
theorem capped_evenIndex (hkeep : 2 ≤ keep) (hlast : keep ≤ last) :
    Capped (last + 1) keep ((List.range keep).map (evenIndex K last keep)) := by
  have hmono := evenIndex_strictMono (K := K) hkeep hlast
  obtain ⟨k, rfl⟩ : ∃ k, keep = k + 1 := ⟨keep - 1, by omega⟩
  have hend : evenIndex K last (k + 1) k = last := evenIndex_last hkeep
  exact {
    increasing := by
      rw [List.pairwise_map]
      exact List.pairwise_lt_range.imp fun hij => hmono hij
    first := by simp [List.range_succ_eq_map, evenIndex_zero]
    last := by simp [List.range_succ, hend]
    length := by simp
    in_range := by
      intro i hi
      obtain ⟨j, hj, rfl⟩ := List.mem_map.mp hi
      rw [List.mem_range] at hj
      have hle := hmono.monotone (show j ≤ k by omega)
      omega }

/-- **Capping.** Of `n` poses exactly `max_poses` are kept, at strictly
increasing indices from the first to the last one; a single one is the last.
Without a bound, or within it, the path is unchanged. -/
theorem capPath_kept (hround : RoundsHalfUp fns) (maxPoses : Int) (poses : List (PoseStamped K)) :
    (maxPoses ≤ 0 ∨ (poses.length : Int) ≤ maxPoses → capPath fns maxPoses poses = poses) ∧
      (maxPoses = 1 → 1 < poses.length →
        Selects poses [poses.length - 1] (capPath fns maxPoses poses)) ∧
      (2 ≤ maxPoses → maxPoses < poses.length →
        ∃ kept, Selects poses kept (capPath fns maxPoses poses) ∧
          Capped poses.length maxPoses.toNat kept) := by
  refine ⟨fun h => if_pos h, ?_, ?_⟩
  · intro hone hlength
    have hindices : capIndices fns (poses.length - 1) (Int.toNat 1) = [poses.length - 1] := rfl
    rw [capPath, if_neg (by omega), hone, hindices]
    apply selects_filterMap
    simp
    omega
  · intro htwo hlength
    have hkeep : 2 ≤ maxPoses.toNat := by omega
    have hlast : maxPoses.toNat ≤ poses.length - 1 := by omega
    have hcapped := capped_evenIndex (K := K) hkeep hlast
    rw [show poses.length - 1 + 1 = poses.length by omega, ← capIndices_eq hround hkeep hlast]
      at hcapped
    refine ⟨_, ?_, hcapped⟩
    rw [capPath, if_neg (by omega)]
    exact selects_filterMap hcapped.in_range

end Capping

theorem roundsHalfUp_axisFunctions : RoundsHalfUp axisFunctions := by
  intro x _
  simp only [axisFunctions]
  rw [← Int.floor_toNat, Rat.floor_def, Rat.floor_def']

/-- Three of seven poses. -/
theorem capPath_kept_three :
    ∃ kept, Selects (axisPath [0, 1, 2, 3, 4, 5, 6]).poses kept
        (capPath axisFunctions 3 (axisPath [0, 1, 2, 3, 4, 5, 6]).poses) ∧
      Capped 7 3 kept :=
  (capPath_kept roundsHalfUp_axisFunctions 3 (axisPath [0, 1, 2, 3, 4, 5, 6]).poses).2.2
    (by decide) (by decide)

end Nav3D.BehaviorTree.TruncatePathLocal

/-
Nav3D.Lib.InitialSegment — properties that hold of an initial segment of a
list.

`UpTo on as` says that no element of `as` has `on` unless all elements
before it have it; the elements with `on` are then a prefix of `as`
(`filter_prefix`). Switching the next element on, when all before it are
on, or the last one off, when all after it are off, keeps the property.
-/
import Mathlib.Data.List.Basic
import Mathlib.Data.List.Nodup
import Mathlib.Tactic.Common

namespace InitialSegment

variable {α : Type*} {on on' : α → Prop}

/-- What has `on` is an initial segment of the list. -/
def UpTo (on : α → Prop) (as : List α) : Prop := as.Pairwise fun a b => on b → on a

theorem UpTo.congr {as : List α} (h : UpTo on as) (hsame : ∀ a ∈ as, on' a ↔ on a) :
    UpTo on' as :=
  List.Pairwise.imp_of_mem
    (fun {a b} ha hb hab hon => (hsame a ha).mpr (hab ((hsame b hb).mp hon))) h

theorem upTo_of_none {as : List α} (h : ∀ a, ¬ on a) : UpTo on as :=
  List.pairwise_of_forall fun _ b hb => absurd hb (h b)

/-- The elements with `on` are a prefix. -/
theorem UpTo.filter_prefix {p : α → Bool} {as : List α} (h : UpTo (fun a => p a = true) as) :
    as.filter p <+: as := by
  induction as with
  | nil => exact List.prefix_rfl
  | cons a as ih =>
    obtain ⟨hhead, htail⟩ := List.pairwise_cons.mp h
    cases ha : p a with
    | true =>
      rw [List.filter_cons_of_pos ha]
      exact (List.prefix_cons_inj a).mpr (ih htail)
    | false =>
      -- nothing after `a` has `p`
      have hnone : ∀ b ∈ as, ¬ p b = true := fun b hb hpb => by
        rw [hhead b hb hpb] at ha
        cases ha
      rw [List.filter_cons_of_neg (by simp [ha]), List.filter_eq_nil_iff.mpr hnone]
      exact List.nil_prefix

section Switch

variable {done rest : List α} {a : α}

/-- What changes at `a` only does not change before and after `a`. -/
theorem UpTo.split (h : UpTo on (done ++ a :: rest)) (hnd : (done ++ a :: rest).Nodup)
    (hothers : ∀ b, b ≠ a → (on' b ↔ on b)) (hbefore : on' a → ∀ b ∈ done, on' b)
    (hafter : ∀ b ∈ rest, on' b → on' a) : UpTo on' (done ++ a :: rest) := by
  obtain ⟨hdone, hrest, hacross⟩ := List.pairwise_append.mp h
  obtain ⟨_, hrest⟩ := List.pairwise_cons.mp hrest
  obtain ⟨_, hndrest, hdisjoint⟩ := List.nodup_append.mp hnd
  have hsamedone : ∀ b ∈ done, on' b ↔ on b := fun b hb =>
    hothers b (hdisjoint b hb a List.mem_cons_self)
  have hsamerest : ∀ b ∈ rest, on' b ↔ on b := fun b hb =>
    hothers b fun hba => (List.nodup_cons.mp hndrest).1 (hba ▸ hb)
  refine List.pairwise_append.mpr ⟨UpTo.congr hdone hsamedone,
    List.pairwise_cons.mpr ⟨hafter, UpTo.congr hrest hsamerest⟩, fun b hb c hc hon => ?_⟩
  rcases List.mem_cons.mp hc with rfl | hc
  · exact hbefore hon b hb
  · have honc := (hsamerest c hc).mp hon
    exact (hsamedone b hb).mpr (hacross b hb c (List.mem_cons_of_mem a hc) honc)

/-- Switching on the element after those that are on. -/
theorem UpTo.switchOn (h : UpTo on (done ++ a :: rest)) (hnd : (done ++ a :: rest).Nodup)
    (hdone : ∀ b ∈ done, on b) (hothers : ∀ b, b ≠ a → (on' b ↔ on b)) (ha : on a → on' a) :
    UpTo on' (done ++ a :: rest) := by
  obtain ⟨_, hndrest, hdisjoint⟩ := List.nodup_append.mp hnd
  refine h.split hnd hothers (fun _ b hb => ?_) fun b hb hon => ?_
  · exact (hothers b (hdisjoint b hb a List.mem_cons_self)).mpr (hdone b hb)
  · have hne : b ≠ a := fun hba => (List.nodup_cons.mp hndrest).1 (hba ▸ hb)
    have hrest := (List.pairwise_append.mp h).2.1
    exact ha ((List.pairwise_cons.mp hrest).1 b hb ((hothers b hne).mp hon))

/-- Switching off the element before those that are off. -/
theorem UpTo.switchOff (h : UpTo on (done ++ a :: rest)) (hnd : (done ++ a :: rest).Nodup)
    (hrest : ∀ b ∈ rest, ¬ on b) (hothers : ∀ b, b ≠ a → (on' b ↔ on b)) (ha : on' a → on a) :
    UpTo on' (done ++ a :: rest) := by
  obtain ⟨_, hndrest, hdisjoint⟩ := List.nodup_append.mp hnd
  refine h.split hnd hothers (fun hon b hb => ?_) fun b hb hon => ?_
  · have hacross := (List.pairwise_append.mp h).2.2 b hb a List.mem_cons_self
    exact (hothers b (hdisjoint b hb a List.mem_cons_self)).mpr (hacross (ha hon))
  · have hne : b ≠ a := fun hba => (List.nodup_cons.mp hndrest).1 (hba ▸ hb)
    exact absurd ((hothers b hne).mp hon) (hrest b hb)

end Switch

end InitialSegment

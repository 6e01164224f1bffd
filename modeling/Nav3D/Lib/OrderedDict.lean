/-
Nav3D.Lib.OrderedDict — dictionaries that keep their order, as Python's do.

A dictionary is the list of its entries. Setting a key that is there replaces
its value in place, setting another one appends an entry. The lemmas say what
each operation does at an entry in the middle of the list.
-/
import Mathlib.Data.List.Basic
import Mathlib.Data.List.Nodup

namespace OrderedDict

variable {α β : Type*}

/-! ## Operations -/

/-- The keys, in order. -/
def keys (d : List (α × β)) : List α := d.map Prod.fst

@[simp] theorem keys_nil : keys ([] : List (α × β)) = [] := rfl

@[simp] theorem keys_cons (e : α × β) (d : List (α × β)) : keys (e :: d) = e.1 :: keys d := rfl

@[simp] theorem keys_append (d₁ d₂ : List (α × β)) : keys (d₁ ++ d₂) = keys d₁ ++ keys d₂ :=
  List.map_append

@[simp] theorem length_keys (d : List (α × β)) : (keys d).length = d.length := List.length_map _

/-- New values under the same keys. -/
@[simp] theorem keys_map {γ : Type*} (f : α → β → γ) (d : List (α × β)) :
    keys (d.map fun e => (e.1, f e.1 e.2)) = keys d := by
  simp [keys, Function.comp_def]

variable [DecidableEq α]

/-- The value of a key, if there is one. -/
def get (k : α) : List (α × β) → Option β
  | [] => none
  | (k', v) :: d => if k' = k then some v else get k d

/-- Set the value of a key. -/
def set (k : α) (v : β) : List (α × β) → List (α × β)
  | [] => [(k, v)]
  | (k', v') :: d => if k' = k then (k, v) :: d else (k', v') :: set k v d

/-- Delete a key. -/
def erase (k : α) (d : List (α × β)) : List (α × β) := d.filter fun e => e.1 ≠ k

/-! ## Lemmas -/

variable {d d₁ d₂ : List (α × β)} {k k' : α} {v w : β}

theorem get_of_not_mem (h : k ∉ keys d) : get k d = none := by
  induction d with
  | nil => rfl
  | cons e d ih =>
    simp only [keys_cons, List.mem_cons, not_or] at h
    rw [get, if_neg fun heq => h.1 heq.symm, ih h.2]

theorem get_append_of_not_mem (h : k ∉ keys d₁) : get k (d₁ ++ d₂) = get k d₂ := by
  induction d₁ with
  | nil => rfl
  | cons e d₁ ih =>
    simp only [keys_cons, List.mem_cons, not_or] at h
    rw [List.cons_append, get, if_neg fun heq => h.1 heq.symm, ih h.2]

theorem get_middle (h : k ∉ keys d₁) : get k (d₁ ++ (k, v) :: d₂) = some v := by
  rw [get_append_of_not_mem h, get, if_pos rfl]

theorem mem_keys_of_get (h : get k d = some v) : k ∈ keys d := by
  by_contra hk
  rw [get_of_not_mem hk] at h
  cases h

theorem mem_of_get (h : get k d = some v) : (k, v) ∈ d := by
  induction d with
  | nil => cases h
  | cons e d ih =>
    simp only [get] at h
    split at h
    · next heq =>
      cases h
      simp [← heq]
    · simp [ih h]

theorem exists_get (h : k ∈ keys d) : ∃ v, get k d = some v := by
  induction d with
  | nil => simp at h
  | cons e d ih =>
    simp only [get]
    split
    · exact ⟨_, rfl⟩
    · next hne =>
      simp only [keys_cons, List.mem_cons] at h
      exact ih (h.resolve_left fun heq => hne heq.symm)

theorem get_map {γ : Type*} (f : α → β → γ) (h : get k d = some v) :
    get k (d.map fun e => (e.1, f e.1 e.2)) = some (f k v) := by
  induction d with
  | nil => cases h
  | cons e d ih =>
    simp only [get, List.map_cons] at h ⊢
    split at h
    · next heq =>
      cases h
      simp [heq]
    · next hne => simp [hne, ih h]

/-- With keys that are all different, an entry is found by its key. -/
theorem get_of_mem (hd : (keys d).Nodup) (h : (k, v) ∈ d) : get k d = some v := by
  obtain ⟨d₁, d₂, rfl⟩ := List.append_of_mem h
  apply get_middle
  simp only [keys_append, keys_cons] at hd
  intro hk
  exact (List.nodup_append.mp hd).2.2 _ hk _ (by simp) rfl

theorem set_of_not_mem (h : k ∉ keys d) : set k v d = d ++ [(k, v)] := by
  induction d with
  | nil => rfl
  | cons e d ih =>
    simp only [keys_cons, List.mem_cons, not_or] at h
    rw [set, if_neg fun heq => h.1 heq.symm, ih h.2, List.cons_append]

theorem set_middle (h : k ∉ keys d₁) :
    set k w (d₁ ++ (k, v) :: d₂) = d₁ ++ (k, w) :: d₂ := by
  induction d₁ with
  | nil => simp [set]
  | cons e d₁ ih =>
    simp only [keys_cons, List.mem_cons, not_or] at h
    rw [List.cons_append, set, if_neg fun heq => h.1 heq.symm, ih h.2, List.cons_append]

@[simp] theorem get_set_self : get k (set k v d) = some v := by
  induction d with
  | nil => simp [set, get]
  | cons e d ih =>
    simp only [set]
    split
    · simp [get]
    · next hne => simp [get, hne, ih]

theorem get_set_of_ne (hne : k' ≠ k) : get k' (set k v d) = get k' d := by
  induction d with
  | nil => simp [set, get, hne.symm]
  | cons e d ih =>
    simp only [set]
    split
    · next heq => simp [get, heq, hne.symm]
    · simp [get, ih]

/-- A key that is there keeps its place. -/
theorem keys_set_of_mem (h : k ∈ keys d) : keys (set k v d) = keys d := by
  induction d with
  | nil => simp at h
  | cons e d ih =>
    simp only [set]
    split
    · next heq => simp [heq]
    · next hne =>
      simp only [keys_cons, List.mem_cons] at h
      rw [keys_cons, keys_cons, ih (h.resolve_left fun heq => hne heq.symm)]

theorem mem_keys_set (h : k' ∈ keys d) : k' ∈ keys (set k v d) := by
  by_cases hk : k ∈ keys d
  · rwa [keys_set_of_mem hk]
  · rw [set_of_not_mem hk, keys_append]
    exact List.mem_append_left _ h

theorem length_set_of_mem (h : k ∈ keys d) : (set k v d).length = d.length := by
  rw [← length_keys, keys_set_of_mem h, length_keys]

theorem length_set_le : (set k v d).length ≤ d.length + 1 := by
  by_cases h : k ∈ keys d
  · rw [length_set_of_mem h]
    omega
  · simp [set_of_not_mem h]

theorem erase_of_not_mem (h : k ∉ keys d) : erase k d = d := by
  simp only [erase, List.filter_eq_self, decide_eq_true_eq]
  intro e he heq
  exact h (heq ▸ List.mem_map_of_mem he)

theorem erase_middle (h₁ : k ∉ keys d₁) (h₂ : k ∉ keys d₂) :
    erase k (d₁ ++ (k, v) :: d₂) = d₁ ++ d₂ := by
  have hsplit : erase k (d₁ ++ (k, v) :: d₂) = erase k d₁ ++ erase k d₂ := by simp [erase]
  rw [hsplit, erase_of_not_mem h₁, erase_of_not_mem h₂]

theorem mem_keys_erase (hne : k' ≠ k) (h : k' ∈ keys d) : k' ∈ keys (erase k d) := by
  obtain ⟨e, he, rfl⟩ := List.mem_map.mp h
  exact List.mem_map_of_mem (List.mem_filter.mpr ⟨he, by simpa using hne⟩)

theorem not_mem_keys_erase : k ∉ keys (erase k d) := by
  intro h
  obtain ⟨e, he, heq⟩ := List.mem_map.mp h
  simp [erase, heq] at he

theorem length_erase_lt (h : k ∈ keys d) : (erase k d).length < d.length := by
  obtain ⟨e, he, rfl⟩ := List.mem_map.mp h
  exact List.length_filter_lt_length_iff_exists.mpr ⟨e, he, by simp⟩

end OrderedDict

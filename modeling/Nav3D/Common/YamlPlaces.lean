/-
Nav3D.Common.YamlPlaces — places in a tree of YAML values.

A place is the list of the keys that lead to it from the root, with the index
of an element of a list as its key. Scalars are replaced as a function of
their place (`mapAt`), and an assignment at one place is the simplest such
function.
-/
import Nav3D.Common.YamlTree
import Nav3D.Lib.Decimal

namespace Nav3D.Common.YamlValue

open OrderedDict

variable {S : Type}

/-! ## Places -/

/-- No dictionary has a key twice. -/
inductive DistinctKeys : YamlValue S → Prop
  | scalar (s : S) : DistinctKeys (.scalar s)
  | list {values : List (YamlValue S)} : (∀ v ∈ values, DistinctKeys v) →
      DistinctKeys (.list values)
  | dict {entries : YamlDict S} : (keys entries).Nodup → (∀ e ∈ entries, DistinctKeys e.2) →
      DistinctKeys (.dict entries)

/-- The keys lead to a scalar. -/
inductive LeadsTo : YamlValue S → List String → Prop
  | scalar (s : S) : LeadsTo (.scalar s) []
  | element {values : List (YamlValue S)} {i : Nat} {v : YamlValue S} {ks : List String} :
      values[i]? = some v → LeadsTo v ks → LeadsTo (.list values) (toString i :: ks)
  | entry {entries : YamlDict S} {k : String} {v : YamlValue S} {ks : List String} :
      get k entries = some v → LeadsTo v ks → LeadsTo (.dict entries) (k :: ks)

mutual
/-- Every scalar is replaced by what `f` gives for it and its place. -/
def mapAt (f : List String → S → S) : YamlValue S → YamlValue S
  | .scalar s => .scalar (f [] s)
  | .list values => .list (mapElements f 0 values)
  | .dict entries => .dict (mapEntries f entries)

def mapElements (f : List String → S → S) (i : Nat) : List (YamlValue S) → List (YamlValue S)
  | [] => []
  | v :: values => v.mapAt (fun ks => f (toString i :: ks)) :: mapElements f (i + 1) values

def mapEntries (f : List String → S → S) : YamlDict S → YamlDict S
  | [] => []
  | (k, v) :: entries => (k, v.mapAt fun ks => f (k :: ks)) :: mapEntries f entries
end

/-- The scalar at one place is replaced. -/
def assign (place : List String) (new : S) (ks : List String) (s : S) : S :=
  if ks = place then new else s

/-! ## Lemmas -/

variable {f g : List String → S → S} {v w : YamlValue S} {values : List (YamlValue S)}
  {entries : YamlDict S} {k : String} {ks : List String}

theorem getElem?_mapElements (n i : Nat) : (mapElements f n values)[i]? =
    values[i]?.map fun v => v.mapAt fun ks => f (toString (n + i) :: ks) := by
  induction values generalizing n i with
  | nil => simp [mapElements]
  | cons v values ih =>
    cases i with
    | zero => simp [mapElements]
    | succ i =>
      simp only [mapElements, List.getElem?_cons_succ, ih]
      rw [Nat.add_right_comm, Nat.add_assoc]

theorem mapEntries_eq (entries : YamlDict S) : mapEntries f entries =
    entries.map fun e => (e.1, e.2.mapAt fun ks => f (e.1 :: ks)) := by
  induction entries with
  | nil => rfl
  | cons e entries ih => simp [mapEntries, ih]

@[simp] theorem keys_mapEntries : keys (mapEntries f entries) = keys entries := by
  rw [mapEntries_eq]
  exact keys_map (fun k v => v.mapAt fun ks => f (k :: ks)) entries

theorem get_mapEntries (h : get k entries = some v) :
    get k (mapEntries f entries) = some (v.mapAt fun ks => f (k :: ks)) := by
  rw [mapEntries_eq]
  exact get_map (fun k v => v.mapAt fun ks => f (k :: ks)) h

/-- Two functions that agree at the scalars of the tree. By induction on the
tree. -/
theorem mapAt_congr (hv : v.DistinctKeys) :
    ∀ {f g : List String → S → S}, (∀ ks, LeadsTo v ks → f ks = g ks) → v.mapAt f = v.mapAt g := by
  induction hv with
  | scalar s =>
    intro f g h
    simp only [mapAt, h [] (.scalar s)]
  | list _ ih =>
    intro f g h
    simp only [mapAt, YamlValue.list.injEq]
    apply List.ext_getElem?
    intro i
    simp only [getElem?_mapElements, Nat.zero_add]
    apply Option.map_congr
    intro v hv
    exact ih v (List.mem_of_getElem? hv) fun ks hks => h _ (.element hv hks)
  | dict hkeys _ ih =>
    intro f g h
    simp only [mapAt, mapEntries_eq, YamlValue.dict.injEq]
    apply List.map_congr_left
    intro e he
    rw [ih e he fun ks hks => h _ (.entry (get_of_mem hkeys he) hks)]

theorem mapAt_id (v : YamlValue S) : v.mapAt (fun _ s => s) = v := by
  induction v using induct with
  | scalar s => rfl
  | list values ih =>
    simp only [mapAt, YamlValue.list.injEq]
    apply List.ext_getElem?
    intro i
    rw [getElem?_mapElements]
    cases hi : values[i]? with
    | none => rfl
    | some v => simp [ih v (List.mem_of_getElem? hi)]
  | dict entries ih =>
    simp only [mapAt, mapEntries_eq, YamlValue.dict.injEq]
    conv_rhs => rw [← List.map_id entries]
    apply List.map_congr_left
    intro e he
    simp [ih e he]

theorem mapAt_mapAt (v : YamlValue S) : ∀ f g : List String → S → S,
    (v.mapAt f).mapAt g = v.mapAt fun ks s => g ks (f ks s) := by
  induction v using induct with
  | scalar s =>
    intro f g
    rfl
  | list values ih =>
    intro f g
    simp only [mapAt, YamlValue.list.injEq]
    apply List.ext_getElem?
    intro i
    simp only [getElem?_mapElements, Option.map_map]
    apply Option.map_congr
    intro v hv
    exact ih v (List.mem_of_getElem? hv) _ _
  | dict entries ih =>
    intro f g
    simp only [mapAt, mapEntries_eq, List.map_map, YamlValue.dict.injEq]
    apply List.map_congr_left
    intro e he
    simp [ih e he]

theorem DistinctKeys.mapAt (hv : v.DistinctKeys) : ∀ f : List String → S → S,
    (v.mapAt f).DistinctKeys := by
  induction hv with
  | scalar s =>
    intro f
    exact .scalar _
  | list _ ih =>
    intro f
    apply DistinctKeys.list
    intro w hw
    obtain ⟨i, hi⟩ := List.mem_iff_getElem?.mp hw
    rw [getElem?_mapElements, Option.map_eq_some_iff] at hi
    obtain ⟨v, hv, rfl⟩ := hi
    exact ih v (List.mem_of_getElem? hv) _
  | dict hkeys _ ih =>
    intro f
    apply DistinctKeys.dict
    · rwa [keys_mapEntries]
    · intro e he
      rw [mapEntries_eq, List.mem_map] at he
      obtain ⟨e, he, rfl⟩ := he
      exact ih e he _

/-- The places of the scalars stay. -/
theorem LeadsTo.mapAt (h : LeadsTo v ks) : ∀ f : List String → S → S, LeadsTo (v.mapAt f) ks := by
  induction h with
  | scalar s =>
    intro f
    exact .scalar _
  | @element values i v ks hi _ ih =>
    intro f
    apply LeadsTo.element (v := v.mapAt fun ks => f (toString i :: ks)) _ (ih _)
    simp [getElem?_mapElements, hi]
  | entry hk _ ih =>
    intro f
    exact .entry (get_mapEntries hk) (ih _)

/-! ## One assignment -/

variable {new : S}

theorem assign_cons_same : (fun ks' => assign (k :: ks) new (k :: ks')) = assign ks new := by
  funext ks' s
  simp [assign]

theorem assign_cons_ne {k' : String} (h : k' ≠ k) :
    (fun ks' => assign (k :: ks) new (k' :: ks')) = fun _ s => s := by
  funext ks' s
  simp [assign, h]

theorem mapEntries_assign_of_not_mem (h : k ∉ keys entries) :
    mapEntries (assign (k :: ks) new) entries = entries := by
  rw [mapEntries_eq]
  conv_rhs => rw [← List.map_id entries]
  apply List.map_congr_left
  intro e he
  have hne : e.1 ≠ k := by
    intro heq
    exact h (heq ▸ List.mem_map_of_mem he)
  simp [assign_cons_ne hne, mapAt_id]

/-- An assignment in a dictionary goes to one entry. -/
theorem mapEntries_assign (hkeys : (keys entries).Nodup) (h : get k entries = some v) :
    mapEntries (assign (k :: ks) new) entries = set k (v.mapAt (assign ks new)) entries := by
  induction entries with
  | nil => cases h
  | cons e entries ih =>
    simp only [keys_cons, List.nodup_cons] at hkeys
    simp only [OrderedDict.get, mapEntries, OrderedDict.set] at h ⊢
    split at h
    · next heq =>
      cases h
      rw [if_pos heq, heq, assign_cons_same, mapEntries_assign_of_not_mem (heq ▸ hkeys.1)]
    · next hne => rw [if_neg hne, assign_cons_ne hne, mapAt_id, ih hkeys.2 h]

theorem toString_injective {i j : Nat} (h : toString i = toString j) : i = j := by
  apply Decimal.toDigits_injective
  rw [← Nat.toList_repr, ← Nat.toList_repr]
  exact congrArg String.toList h

/-- An assignment in a list goes to one element. -/
theorem mapElements_assign {i : Nat} (h : values[i]? = some v) :
    mapElements (assign (toString i :: ks) new) 0 values =
      values.set i (v.mapAt (assign ks new)) := by
  apply List.ext_getElem?
  intro j
  rw [getElem?_mapElements, Nat.zero_add, List.getElem?_set]
  by_cases hij : i = j
  · subst hij
    obtain ⟨hlt, rfl⟩ := List.getElem?_eq_some_iff.mp h
    simp [assign_cons_same, hlt]
  · have hne : toString j ≠ toString i := by
      intro heq
      exact hij (toString_injective heq).symm
    rw [assign_cons_ne hne, if_neg hij]
    simp [mapAt_id]

end Nav3D.Common.YamlValue

/-
Nav3D.Common.SubstituteKeys — `RewrittenYaml._substitute_keys`
(`nav3d_common/launch/rewritten_yaml.py`).

The keys of a dictionary are renamed one after the other in the dictionary
itself. A new name that is also the name of a key further on overwrites the
entry of that key, and a new name that is the old one deletes its own entry.
Without such a name the renaming is simultaneous, and with one it is not
(`renames_iff`).

A dictionary that is renamed may be visited with what an earlier rename has
left in it, so the recursion goes down a number of levels, as Python's does.
-/
import Nav3D.Common.YamlTree

namespace Nav3D.Common

open OrderedDict YamlValue

variable {S : Type} (keyRewrites : List (String × String))

/-! ## The code -/

/-- `node[nk] = node[k]; del node[k]`, if `k` is renamed. The second value is
the key under which the value is then found. -/
def renameKey (node : YamlDict S) (k : String) : Except PyError (YamlDict S × String) :=
  match get k keyRewrites with
  | none => .ok (node, k)
  | some nk => do
    let v ← item k node
    return (erase k (set nk v node), nk)

/-- `if isinstance(v, dict): …` for the value under `k`. The dictionary is
changed where it is. -/
def substituteItem (recurse : YamlDict S → Except PyError (YamlDict S)) (node : YamlDict S)
    (k : String) : Except PyError (YamlDict S) := do
  match ← item k node with
  | .dict d => do
    let d ← recurse d
    return set k (.dict d) node
  | _ => return node

/-- One pass of the `for` loop, with what is done to a dictionary. -/
def substituteKey (recurse : YamlDict S → Except PyError (YamlDict S)) (node : YamlDict S)
    (k : String) : Except PyError (YamlDict S) := do
  let (node, k) ← renameKey keyRewrites node k
  substituteItem recurse node k

/-- `_substitute_keys(node, key_rewrites)`. -/
def substituteKeys : Nat → YamlDict S → Except PyError (YamlDict S)
  | 0, _ => throw .recursionError
  | levels + 1, node =>
    if keyRewrites = [] then return node
    else (keys node).foldlM (substituteKey keyRewrites (substituteKeys levels)) node

/-! ## What it is for -/

/-- `key_rewrites.get(k, k)`. -/
def newKey (k : String) : String := (get k keyRewrites).getD k

mutual
/-- Every key at every level is replaced once. -/
def renamed : YamlValue S → YamlValue S
  | .scalar s => .scalar s
  | .list values => .list values
  | .dict entries => .dict (renamedBelow entries)

def renamedBelow : YamlDict S → YamlDict S
  | [] => []
  | (k, v) :: entries => (newKey keyRewrites k, renamed v) :: renamedBelow entries
end

/-- The new names of the keys of one dictionary are all different. -/
def Injective (ks : List String) : Prop := (ks.map (newKey keyRewrites)).Nodup

/-- No new name is the name of the key itself or of one further on. -/
def Forward : List String → Prop
  | [] => True
  | k :: ks => (∀ nk, get k keyRewrites = some nk → nk ∉ k :: ks) ∧ Forward ks

theorem renamedBelow_eq (entries : YamlDict S) : renamedBelow keyRewrites entries =
    entries.map fun e => (newKey keyRewrites e.1, renamed keyRewrites e.2) := by
  induction entries with
  | nil => rfl
  | cons e entries ih => simp [renamedBelow, ih]

theorem newKey_of_none {k : String} (h : get k keyRewrites = none) : newKey keyRewrites k = k := by
  simp [newKey, h]

theorem newKey_of_some {k nk : String} (h : get k keyRewrites = some nk) :
    newKey keyRewrites k = nk := by
  simp [newKey, h]

/-- Without rewrites nothing is renamed. -/
theorem renamed_nil (v : YamlValue S) : renamed [] v = v := by
  induction v using YamlValue.induct with
  | scalar s => rfl
  | list values => rfl
  | dict entries ih =>
    have hentries : renamedBelow [] entries = entries := by
      rw [renamedBelow_eq]
      conv_rhs => rw [← List.map_id entries]
      apply List.map_congr_left
      intro e he
      simp [newKey_of_none [] (k := e.1) rfl, ih e he]
    rw [renamed, hentries]

theorem forward_nil (ks : List String) : Forward [] ks := by
  induction ks with
  | nil => trivial
  | cons k ks ih => exact ⟨by simp [OrderedDict.get], ih⟩

/-! ## The loop without overwriting -/

/-- The entries that keep their names. -/
def kept (entries : YamlDict S) : YamlDict S :=
  entries.filter fun e => (get e.1 keyRewrites).isNone

/-- The other entries, under their new names. -/
def moved (entries : YamlDict S) : YamlDict S :=
  (entries.filter fun e => (get e.1 keyRewrites).isSome).map fun e => (newKey keyRewrites e.1, e.2)

/-- What is done to a value: a dictionary is renamed. -/
def substituteBelow (recurse : YamlDict S → Except PyError (YamlDict S)) :
    YamlValue S → Except PyError (YamlValue S)
  | .dict d => do
    let d ← recurse d
    return .dict d
  | v => .ok v

variable {keyRewrites} {recurse : YamlDict S → Except PyError (YamlDict S)}
  {d₁ d₂ : YamlDict S} {k nk : String} {v : YamlValue S}

theorem substituteItem_middle (h : k ∉ keys d₁) :
    substituteItem recurse (d₁ ++ (k, v) :: d₂) k =
      (do let w ← substituteBelow recurse v
          return d₁ ++ (k, w) :: d₂) := by
  simp only [substituteItem, item, get_middle h]
  cases v with
  | scalar s => rfl
  | list values => rfl
  | dict d =>
    simp only [substituteBelow, set_middle h, bind_assoc, pure_bind]
    rfl

/-- A pass over a key that keeps its name. -/
theorem substituteKey_of_none (hk : get k keyRewrites = none) (h : k ∉ keys d₁) :
    substituteKey keyRewrites recurse (d₁ ++ (k, v) :: d₂) k =
      (do let w ← substituteBelow recurse v
          return d₁ ++ (k, w) :: d₂) := by
  rw [← substituteItem_middle h]
  simp [substituteKey, renameKey, hk]
  rfl

/-- A pass over a key with a new name that no entry has. -/
theorem substituteKey_of_some (hk : get k keyRewrites = some nk) (h₁ : k ∉ keys d₁)
    (h₂ : k ∉ keys d₂) (hne : nk ≠ k) (hn₁ : nk ∉ keys d₁) (hn₂ : nk ∉ keys d₂) :
    substituteKey keyRewrites recurse (d₁ ++ (k, v) :: d₂) k =
      (do let w ← substituteBelow recurse v
          return d₁ ++ d₂ ++ [(nk, w)]) := by
  have hset : set nk v (d₁ ++ (k, v) :: d₂) = d₁ ++ (k, v) :: (d₂ ++ [(nk, v)]) := by
    rw [set_of_not_mem (by simp [hn₁, hn₂, hne])]
    simp
  have herase : erase k (set nk v (d₁ ++ (k, v) :: d₂)) = (d₁ ++ d₂) ++ [(nk, v)] := by
    rw [hset, erase_middle h₁ (by simp [h₂, hne.symm])]
    simp
  have hnot : nk ∉ keys (d₁ ++ d₂) := by simp [hn₁, hn₂]
  rw [← substituteItem_middle hnot, ← herase]
  simp [substituteKey, renameKey, hk, item, get_middle h₁]
  rfl

/-- What is done to the values of the entries. -/
def substituteEach (recurse : YamlDict S → Except PyError (YamlDict S)) (entries : YamlDict S) :
    Except PyError (YamlDict S) :=
  entries.mapM fun e => do
    let w ← substituteBelow recurse e.2
    return (e.1, w)

section Done

variable {done todo : YamlDict S} {k' : String}

theorem mem_keys_kept (h : k' ∈ keys (kept keyRewrites done)) :
    k' ∈ keys done ∧ newKey keyRewrites k' = k' := by
  simp only [keys, kept, List.mem_map, List.mem_filter, Option.isNone_iff_eq_none] at h
  obtain ⟨e, ⟨he, hnone⟩, rfl⟩ := h
  exact ⟨List.mem_map_of_mem he, newKey_of_none keyRewrites hnone⟩

theorem mem_keys_moved (h : k' ∈ keys (moved keyRewrites done)) :
    ∃ k ∈ keys done, get k keyRewrites = some k' := by
  simp only [keys, moved, List.map_map, List.mem_map, List.mem_filter, Option.isSome_iff_exists,
    Function.comp_apply] at h
  obtain ⟨e, ⟨he, nk, hsome⟩, rfl⟩ := h
  refine ⟨e.1, List.mem_map_of_mem he, ?_⟩
  rw [hsome, newKey_of_some keyRewrites hsome]

/-- The entries that are done have other new names than the next one. -/
theorem Injective.ne (h : Injective keyRewrites (keys (done ++ (k, v) :: todo)))
    (hk' : k' ∈ keys done) : newKey keyRewrites k' ≠ newKey keyRewrites k := by
  simp only [Injective, keys_append, keys_cons, List.map_append, List.map_cons] at h
  exact (List.nodup_append.mp h).2.2 _ (List.mem_map_of_mem hk') _ (by simp)

end Done

/-- **The loop.** If the new names are all different and none of them is met
later, the loop renames each entry and does what is done to its value. By
induction on the entries that are left. -/
theorem foldlM_substituteKey (todo done : YamlDict S) (hkeys : (keys (done ++ todo)).Nodup)
    (hinj : Injective keyRewrites (keys (done ++ todo)))
    (hforward : Forward keyRewrites (keys todo))
    (hdone : ∀ k ∈ keys done, ∀ nk, get k keyRewrites = some nk → nk ∉ keys todo) :
    (keys todo).foldlM (substituteKey keyRewrites recurse)
        (kept keyRewrites done ++ (todo ++ moved keyRewrites done)) =
      (do let values ← substituteEach recurse todo
          return kept keyRewrites (done ++ values) ++ moved keyRewrites (done ++ values)) := by
  induction todo generalizing done with
  | nil => simp [substituteEach]
  | cons e todo ih =>
    obtain ⟨k, v⟩ := e
    obtain ⟨hnew, hforward⟩ : (∀ nk, get k keyRewrites = some nk → nk ∉ k :: keys todo) ∧
      Forward keyRewrites (keys todo) := hforward
    have hnot := (List.nodup_append.mp (by simpa using hkeys)).2
    -- the passes that follow, once the value of `k` is `w`
    have hrest : ∀ w, (keys todo).foldlM (substituteKey keyRewrites recurse)
        (kept keyRewrites (done ++ [(k, w)]) ++ (todo ++ moved keyRewrites (done ++ [(k, w)]))) =
        (do let values ← substituteEach recurse todo
            return kept keyRewrites (done ++ (k, w) :: values) ++
              moved keyRewrites (done ++ (k, w) :: values)) := by
      intro w
      rw [ih (done ++ [(k, w)]) (by simpa using hkeys) (by simpa using hinj) hforward]
      · simp
      · intro k' hk' nk hnk
        simp only [keys_append, keys_cons, keys_nil, List.mem_append, List.mem_singleton] at hk'
        rcases hk' with hk' | rfl
        · exact fun hmem => hdone k' hk' nk hnk (List.mem_cons_of_mem _ hmem)
        · exact fun hmem => hnew nk hnk (List.mem_cons_of_mem _ hmem)
    have hbefore : k ∉ keys (kept keyRewrites done) := by
      intro hk
      exact hnot.2 k (mem_keys_kept hk).1 k (by simp) rfl
    have heach : substituteEach recurse ((k, v) :: todo) =
        (do let w ← substituteBelow recurse v
            let values ← substituteEach recurse todo
            return (k, w) :: values) := by
      simp [substituteEach]
    rw [keys_cons, List.foldlM_cons, heach]
    simp only [bind_assoc, pure_bind, ← hrest]
    cases hget : get k keyRewrites with
    | none =>
      rw [List.cons_append, substituteKey_of_none hget hbefore]
      simp [kept, moved, hget]
    | some nk =>
      have hname := newKey_of_some keyRewrites hget
      have hlater := hnew nk hget
      simp only [List.mem_cons, not_or] at hlater
      have hafter : k ∉ keys (todo ++ moved keyRewrites done) := by
        simp only [keys_append, List.mem_append, not_or]
        refine ⟨(List.nodup_cons.mp hnot.1).1, fun hmem => ?_⟩
        obtain ⟨k', hk', hsome⟩ := mem_keys_moved hmem
        exact hdone k' hk' k hsome (by simp)
      have hnew₁ : nk ∉ keys (kept keyRewrites done) := by
        intro hmem
        obtain ⟨hk', hsame⟩ := mem_keys_kept hmem
        exact hinj.ne hk' (by rw [hsame, hname])
      have hnew₂ : nk ∉ keys (todo ++ moved keyRewrites done) := by
        simp only [keys_append, List.mem_append, not_or]
        refine ⟨hlater.2, fun hmem => ?_⟩
        obtain ⟨k', hk', hsome⟩ := mem_keys_moved hmem
        exact hinj.ne hk' (by rw [newKey_of_some keyRewrites hsome, hname])
      rw [List.cons_append, substituteKey_of_some hget hbefore hafter hlater.1 hnew₁ hnew₂]
      simp [kept, moved, hget, hname]

/-! ## The loop with overwriting -/

theorem item_eq_ok {node : YamlDict S} (h : item k node = .ok v) : k ∈ keys node := by
  simp only [item] at h
  split at h
  · next hget => exact mem_keys_of_get hget
  · cases h

theorem bind_eq_ok {α β : Type} {x : Except PyError α} {f : α → Except PyError β} {b : β}
    (h : (x >>= f) = .ok b) : ∃ a, x = .ok a ∧ f a = .ok b := by
  cases x with
  | error e => cases h
  | ok a => exact ⟨a, rfl, h⟩

/-- What a pass over `k` leaves: no more entries than before, and fewer if
the new name was there. -/
structure Passed (keyRewrites : List (String × String)) (k : String) (node node' : YamlDict S) :
    Prop where
  length_le : node'.length ≤ node.length
  others : ∀ k' ∈ keys node, k' ≠ k → k' ∈ keys node'
  new_ne : get k keyRewrites ≠ some k
  overwrites : ∀ nk, get k keyRewrites = some nk → nk ∈ keys node → node'.length < node.length

/-- The value is written back under a key that is there. -/
theorem Passed.substituteItem {node before after : YamlDict S} {k' : String}
    (h : Passed keyRewrites k node before) (hitem : substituteItem recurse before k' = .ok after) :
    Passed keyRewrites k node after := by
  obtain ⟨v, hv, hrest⟩ := bind_eq_ok hitem
  have hmem := item_eq_ok hv
  cases v with
  | scalar s =>
    cases hrest
    exact h
  | list values =>
    cases hrest
    exact h
  | dict d =>
    obtain ⟨d', -, hset⟩ := bind_eq_ok hrest
    cases hset
    obtain ⟨hle, hothers, hne, hover⟩ := h
    exact {
      length_le := by rwa [length_set_of_mem hmem]
      others := by
        intro key hkey hk
        exact mem_keys_set (hothers key hkey hk)
      new_ne := hne
      overwrites := by
        intro nk hnk hin
        rw [length_set_of_mem hmem]
        exact hover nk hnk hin }

theorem substituteKey_passed {node node' : YamlDict S} (hk : k ∈ keys node)
    (h : substituteKey keyRewrites recurse node k = .ok node') :
    Passed keyRewrites k node node' := by
  obtain ⟨⟨node₁, new⟩, hrename, hrest⟩ := bind_eq_ok h
  refine Passed.substituteItem ?_ hrest
  simp only [renameKey] at hrename
  split at hrename
  · next hnone =>
    cases hrename
    exact ⟨Nat.le_refl _, fun k' hk' _ => hk', by simp [hnone], by simp [hnone]⟩
  · next nk hsome =>
    obtain ⟨v, hv, heq⟩ := bind_eq_ok hrename
    cases heq
    have hkset : k ∈ keys (set new v node) := mem_keys_set hk
    have hlt := length_erase_lt hkset
    have hlen : (set new v node).length ≤ node.length + 1 := length_set_le
    exact {
      length_le := by omega
      others := by
        intro k' hk' hne
        exact mem_keys_erase hne (mem_keys_set hk')
      new_ne := by
        intro hself
        rw [hsome] at hself
        cases hself
        obtain ⟨w, hw, -⟩ := bind_eq_ok hrest
        exact not_mem_keys_erase (item_eq_ok hw)
      overwrites := by
        intro nk' hnk' hin
        rw [hsome] at hnk'
        cases hnk'
        rwa [length_set_of_mem hin] at hlt }

/-- A loop that overwrites an entry ends with fewer entries. By induction on
the keys that are left. -/
theorem length_foldlM_substituteKey (ks : List String) {node node' : YamlDict S}
    (hks : ks.Nodup) (hin : ∀ k ∈ ks, k ∈ keys node)
    (h : ks.foldlM (substituteKey keyRewrites recurse) node = .ok node') :
    node'.length ≤ node.length ∧ (¬ Forward keyRewrites ks → node'.length < node.length) := by
  induction ks generalizing node with
  | nil =>
    cases h
    exact ⟨Nat.le_refl _, fun hnot => absurd trivial hnot⟩
  | cons k ks ih =>
    rw [List.foldlM_cons] at h
    obtain ⟨node₁, hpass, hrest⟩ := bind_eq_ok h
    rw [List.nodup_cons] at hks
    have hpassed := substituteKey_passed (hin k (by simp)) hpass
    obtain ⟨hle, hlt⟩ := ih hks.2 (fun k' hk' => hpassed.others k' (hin k' (by simp [hk']))
      fun heq => hks.1 (heq ▸ hk')) hrest
    have hfirst := hpassed.length_le
    refine ⟨by omega, fun hnot => ?_⟩
    by_cases hnext : Forward keyRewrites ks
    · -- the new name of `k` is that of a key that is left
      simp only [Forward, hnext, and_true, not_forall, not_not] at hnot
      obtain ⟨nk, hnk, hmem⟩ := hnot
      have hne : nk ≠ k := by
        rintro rfl
        exact hpassed.new_ne hnk
      have hover := hpassed.overwrites nk hnk (hin nk hmem)
      omega
    · have := hlt hnext
      omega

/-! ## Simultaneous renaming -/

variable {entries values : YamlDict S}

/-- The value of each entry, under the key of the entry. -/
theorem substituteEach_eq_ok (h : substituteEach recurse entries = .ok values) :
    keys values = keys entries ∧
      ∀ e ∈ entries, ∃ w, substituteBelow recurse e.2 = .ok w ∧ (e.1, w) ∈ values := by
  induction entries generalizing values with
  | nil =>
    cases h
    simp
  | cons e entries ih =>
    simp only [substituteEach, List.mapM_cons] at h
    obtain ⟨first, hfirst, h⟩ := bind_eq_ok h
    obtain ⟨w, hw, heq⟩ := bind_eq_ok hfirst
    cases heq
    obtain ⟨rest, hrest, heq⟩ := bind_eq_ok h
    cases heq
    obtain ⟨hkeys, hall⟩ := ih hrest
    refine ⟨by simp [hkeys], ?_⟩
    intro e' he'
    rcases List.mem_cons.mp he' with rfl | he'
    · exact ⟨w, hw, by simp⟩
    · obtain ⟨w', hw', hmem⟩ := hall e' he'
      exact ⟨w', hw', by simp [hmem]⟩

theorem exists_substituteEach
    (h : ∀ e ∈ entries, ∃ w, substituteBelow recurse e.2 = .ok w) :
    ∃ values, substituteEach recurse entries = .ok values := by
  induction entries with
  | nil => exact ⟨[], rfl⟩
  | cons e entries ih =>
    obtain ⟨w, hw⟩ := h e (by simp)
    obtain ⟨rest, hrest⟩ := ih fun e' he' => h e' (by simp [he'])
    refine ⟨(e.1, w) :: rest, ?_⟩
    simp only [substituteEach] at hrest
    simp only [substituteEach, List.mapM_cons, hw, hrest]
    rfl

/-- The result has the renamed entries, in another order. -/
theorem kept_append_moved_perm (values : YamlDict S) :
    (kept keyRewrites values ++ moved keyRewrites values).Perm
      (values.map fun e => (newKey keyRewrites e.1, e.2)) := by
  induction values with
  | nil => simp [kept, moved]
  | cons e values ih =>
    cases hget : get e.1 keyRewrites with
    | none =>
      simpa [kept, moved, hget, newKey_of_none keyRewrites hget] using ih
    | some nk =>
      simp only [kept, moved, hget, List.filter_cons, Option.isNone_some, Option.isSome_some,
        if_true, List.map_cons, Bool.false_eq_true, if_false] at ih ⊢
      exact List.perm_middle.trans (ih.cons _)

variable (keyRewrites recurse) in
/-- What is done to a value gives it with all its keys renamed at once. -/
def RenamesBelow (v : YamlValue S) : Prop :=
  ∃ w, substituteBelow recurse v = .ok w ∧ Same (renamed keyRewrites v) w

/-- What the loop leaves without overwriting: the value of each entry is found
under its new name. -/
theorem get_rearranged (hinj : Injective keyRewrites (keys entries))
    (hvalues : substituteEach recurse entries = .ok values) :
    (kept keyRewrites values ++ moved keyRewrites values).length = entries.length ∧
      ∀ e ∈ entries, ∃ w, substituteBelow recurse e.2 = .ok w ∧
        get (newKey keyRewrites e.1) (kept keyRewrites values ++ moved keyRewrites values) =
          some w := by
  obtain ⟨hkeys, hall⟩ := substituteEach_eq_ok hvalues
  have hperm : (kept keyRewrites values ++ moved keyRewrites values).Perm
      (values.map fun e => (newKey keyRewrites e.1, e.2)) :=
    kept_append_moved_perm values
  have hlength : values.length = entries.length := by
    rw [← length_keys, hkeys, length_keys]
  have hnodup : (keys (kept keyRewrites values ++ moved keyRewrites values)).Nodup := by
    apply (hperm.map Prod.fst).nodup_iff.mpr
    rw [Injective, ← hkeys, keys, List.map_map] at hinj
    rwa [List.map_map]
  refine ⟨by rw [hperm.length_eq, List.length_map, hlength], fun e he => ?_⟩
  obtain ⟨w, hw, hmem⟩ := hall e he
  exact ⟨w, hw, get_of_mem hnodup (hperm.mem_iff.mpr (List.mem_map_of_mem hmem))⟩

theorem renamesBelow_dict : RenamesBelow keyRewrites recurse (.dict entries) ↔
    ∃ result, recurse entries = .ok result ∧
      Same (renamed keyRewrites (.dict entries)) (.dict result) := by
  simp only [RenamesBelow, substituteBelow]
  constructor
  · rintro ⟨w, hw, hsame⟩
    obtain ⟨result, hresult, heq⟩ := bind_eq_ok hw
    cases heq
    exact ⟨result, hresult, hsame⟩
  · rintro ⟨result, hresult, hsame⟩
    exact ⟨.dict result, by rw [hresult]; rfl, hsame⟩

/-- One level without overwriting. -/
theorem renames_level (hkeys : (keys entries).Nodup)
    (hinj : Injective keyRewrites (keys entries)) (hforward : Forward keyRewrites (keys entries)) :
    (∃ result,
        (keys entries).foldlM (substituteKey keyRewrites recurse) entries = .ok result ∧
          Same (renamed keyRewrites (.dict entries)) (.dict result)) ↔
      ∀ e ∈ entries, RenamesBelow keyRewrites recurse e.2 := by
  have hloop := @foldlM_substituteKey _ _ recurse entries [] (by simpa using hkeys)
    (by simpa using hinj) hforward (by simp)
  simp only [kept, moved, List.filter_nil, List.map_nil, List.append_nil, List.nil_append]
    at hloop
  simp only [renamed, renamedBelow_eq, Same, List.length_map, sameBelow_iff, List.forall_mem_map]
  constructor
  · rintro ⟨result, hresult, -, hsame⟩ e he
    rw [hloop] at hresult
    obtain ⟨values, hvalues, heq⟩ := bind_eq_ok hresult
    cases heq
    obtain ⟨w, hw, hget⟩ := (get_rearranged hinj hvalues).2 e he
    obtain ⟨w', hget', hsame⟩ := hsame e he
    rw [kept, moved] at hget
    rw [hget] at hget'
    cases hget'
    exact ⟨w, hw, hsame⟩
  · intro h
    obtain ⟨values, hvalues⟩ := exists_substituteEach fun e he => by
      obtain ⟨w, hw, -⟩ := h e he
      exact ⟨w, hw⟩
    obtain ⟨hlength, hall⟩ := get_rearranged hinj hvalues
    refine ⟨_, by rw [hloop, hvalues]; rfl, hlength.symm, fun e he => ?_⟩
    obtain ⟨w, hw, hget⟩ := hall e he
    obtain ⟨w', hw', hsame⟩ := h e he
    rw [hw] at hw'
    cases hw'
    exact ⟨w, hget, hsame⟩

/-- One level with overwriting: entries are lost. -/
theorem not_forward_of_same {result : YamlDict S} (hkeys : (keys entries).Nodup)
    (hresult : (keys entries).foldlM (substituteKey keyRewrites recurse) entries = .ok result)
    (hsame : Same (renamed keyRewrites (.dict entries)) (.dict result)) :
    Forward keyRewrites (keys entries) := by
  by_contra hnot
  have hlt := (length_foldlM_substituteKey (keys entries) hkeys (fun k hk => hk) hresult).2 hnot
  simp only [renamed, renamedBelow_eq, Same, List.length_map] at hsame
  omega

/-- By induction on the value: a dictionary is renamed at once if and only if
nothing is overwritten in it or below. -/
theorem renamesBelow_iff (hne : keyRewrites ≠ []) (v : YamlValue S) :
    ∀ levels, v.levels ≤ levels → v.EachDict List.Nodup → v.EachDict (Injective keyRewrites) →
      (RenamesBelow keyRewrites (substituteKeys keyRewrites levels) v ↔
        v.EachDict (Forward keyRewrites)) := by
  induction v using YamlValue.induct with
  | scalar s => simp [RenamesBelow, substituteBelow, Same, renamed, EachDict]
  | list values => simp [RenamesBelow, substituteBelow, Same, renamed, EachDict]
  | dict entries ih =>
    intro levels hlevels hkeys hinj
    simp only [YamlValue.levels] at hlevels
    simp only [EachDict, eachBelow_iff] at hkeys hinj ⊢
    obtain ⟨n, rfl⟩ : ∃ n, levels = n + 1 := ⟨levels - 1, by omega⟩
    have hbelow := levelsBelow_le.mp (Nat.le_of_succ_le_succ hlevels)
    have hchildren : (∀ e ∈ entries, RenamesBelow keyRewrites (substituteKeys keyRewrites n) e.2) ↔
        ∀ e ∈ entries, e.2.EachDict (Forward keyRewrites) :=
      forall₂_congr fun e he => ih e he n (hbelow e he) (hkeys.2 e he) (hinj.2 e he)
    have hcode : substituteKeys keyRewrites (n + 1) entries = (keys entries).foldlM
        (substituteKey keyRewrites (substituteKeys keyRewrites n)) entries := by
      rw [substituteKeys, if_neg hne]
    rw [renamesBelow_dict, hcode]
    by_cases hforward : Forward keyRewrites (keys entries)
    · rw [renames_level hkeys.1 hinj.1 hforward, hchildren]
      simp [hforward]
    · simp only [hforward, false_and, iff_false]
      rintro ⟨result, hresult, hsame⟩
      exact hforward (not_forward_of_same hkeys.1 hresult hsame)

/-- **Simultaneous renaming.** For a tree whose dictionaries have keys with
different new names, `_substitute_keys` gives the tree with every key replaced
once if and only if in no dictionary the new name of a key is that key or one
further on. -/
theorem renames_iff (keyRewrites : List (String × String)) (entries : YamlDict S) (levels : Nat)
    (hlevels : (YamlValue.dict entries).levels ≤ levels)
    (hkeys : (YamlValue.dict entries).EachDict List.Nodup)
    (hinj : (YamlValue.dict entries).EachDict (Injective keyRewrites)) :
    (∃ result, substituteKeys keyRewrites levels entries = .ok result ∧
        Same (renamed keyRewrites (.dict entries)) (.dict result)) ↔
      (YamlValue.dict entries).EachDict (Forward keyRewrites) := by
  by_cases hne : keyRewrites = []
  · subst hne
    simp only [YamlValue.levels] at hlevels
    obtain ⟨n, rfl⟩ : ∃ n, levels = n + 1 := ⟨levels - 1, by omega⟩
    constructor
    · intro _
      exact eachDict_of_forall forward_nil _
    · intro _
      rw [renamed_nil]
      exact ⟨entries, rfl, same_self _ hkeys⟩
  · rw [← renamesBelow_iff hne (.dict entries) levels hlevels hkeys hinj, renamesBelow_dict]

/-! ### Two names that are swapped -/

def swapAB : List (String × String) := [("a", "b"), ("b", "a")]

def twoEntries : YamlDict Nat := [("a", .scalar 1), ("b", .scalar 2)]

/-- The entry of `b` is overwritten, and the other one is renamed twice. -/
theorem swap_loses_entry :
    ¬ ∀ (keyRewrites : List (String × String)) (entries : YamlDict Nat) (levels : Nat),
      (YamlValue.dict entries).levels ≤ levels →
      (YamlValue.dict entries).EachDict List.Nodup →
      (YamlValue.dict entries).EachDict (Injective keyRewrites) →
      ∃ result, substituteKeys keyRewrites levels entries = .ok result ∧
        Same (renamed keyRewrites (.dict entries)) (.dict result) := by
  intro h
  have hnot := h swapAB twoEntries 1 (by decide) (by simp [twoEntries, EachDict, EachBelow, keys])
    (by simp [twoEntries, EachDict, EachBelow, keys, Injective, swapAB, newKey, OrderedDict.get])
  have hresult : substituteKeys swapAB 1 twoEntries = .ok [("a", .scalar 1)] := by rfl
  obtain ⟨result, hok, hsame⟩ := hnot
  rw [hresult] at hok
  cases hok
  simp [twoEntries, renamed, renamedBelow, Same] at hsame

def chainABC : List (String × String) := [("a", "b"), ("b", "c")]

/-- A chain whose end comes first in the dictionary. -/
theorem renames_iff_chain :
    ∃ result, substituteKeys chainABC 1 twoEntries.reverse = .ok result ∧
      Same (renamed chainABC (.dict twoEntries.reverse)) (.dict result) :=
  (renames_iff chainABC twoEntries.reverse 1 (by decide)
    (by simp [twoEntries, EachDict, EachBelow, keys])
    (by simp [twoEntries, EachDict, EachBelow, keys, Injective, chainABC, newKey,
      OrderedDict.get])).mpr
    (by simp [twoEntries, EachDict, EachBelow, keys, Forward, chainABC, OrderedDict.get])

end Nav3D.Common

/-
Nav3D.Common.SubstituteLeaves — which leaves `_substitute_params` rewrites.

A rewritten key that names a section replaces the section. A path is split at
the dots of its keys too, a list and a dictionary in a list have no path of
their own, and the dictionaries in a list are out of reach of the keys. Where
none of this happens the leaves that are meant are rewritten and nothing else
is (`substituteParams_rewrites`).
-/
import Nav3D.Common.SubstituteParams
import Nav3D.Lib.Decimal

namespace Nav3D.Common

open OrderedDict YamlValue

variable {F D : Type} {builtins : Builtins F} {convertTypes : Bool}
  {paramRewrites : List (String × String)}

/-! ## Where the passes rewrite the leaves -/

variable (builtins convertTypes paramRewrites) in
/-- `afterPaths` below a place. -/
def pathsBelow (place ks : List String) : PyScalar F D → PyScalar F D :=
  afterPaths builtins convertTypes paramRewrites (place ++ ks)

theorem pathsBelow_cons (place : List String) (k : String) :
    (fun ks => pathsBelow (D := D) builtins convertTypes paramRewrites place (k :: ks)) =
      pathsBelow builtins convertTypes paramRewrites (place ++ [k]) := by
  funext ks
  simp [pathsBelow]

variable {place : List String} {new : PyScalar F D}

theorem mapAt_eq_scalar (v : YamlValue (PyScalar F D)) :
    v.mapAt (pathsBelow builtins convertTypes paramRewrites place) = .scalar new ↔
      ∃ s, v = .scalar s ∧ afterPaths builtins convertTypes paramRewrites place s = new := by
  cases v with
  | scalar s => simp [mapAt, pathsBelow]
  | list values => simp [mapAt]
  | dict entries => simp [mapAt]

/-- A leaf with a rewritten path. -/
theorem mapAt_eq_of_some (v : YamlValue (PyScalar F D))
    (hnew : rewriteOf builtins convertTypes paramRewrites (dottedPath place) = some new) :
    v.mapAt (pathsBelow builtins convertTypes paramRewrites place) = .scalar new ↔
      v = .scalar new ∨ (∃ s, v = .scalar s) ∧ splitPath (dottedPath place) = place := by
  rw [mapAt_eq_scalar]
  simp only [afterPaths, hnew]
  by_cases hplace : splitPath (dottedPath place) = place
  · simp only [hplace, if_true, and_true]
    constructor
    · intro h
      exact Or.inr h
    · rintro (h | h)
      · exact ⟨new, h⟩
      · exact h
  · simp [hplace]

/-- Another leaf. -/
theorem mapAt_eq_of_none (v : YamlValue (PyScalar F D))
    (hnone : rewriteOf (D := D) builtins convertTypes paramRewrites (dottedPath place) = none) :
    v.mapAt (pathsBelow builtins convertTypes paramRewrites place) = .scalar new ↔
      v = .scalar new := by
  rw [mapAt_eq_scalar]
  simp [afterPaths, hnone]

variable (builtins convertTypes paramRewrites) in
/-- A value after the first pass. -/
def firstPass (inList : Bool) (byKey : Option (PyScalar F D)) (v : YamlValue (PyScalar F D)) :
    YamlValue (PyScalar F D) :=
  afterKeys inList byKey (if inList then v else byKeys builtins convertTypes paramRewrites v)

/-- One leaf, with what its value is if it keeps it. -/
theorem leafReached_iff {inList : Bool} {byKey : Option (PyScalar F D)}
    {v kept : YamlValue (PyScalar F D)} {below : Prop}
    (hkept : rewriteOf (D := D) builtins convertTypes paramRewrites (dottedPath place) = none →
      byKey = none →
      (v.mapAt (pathsBelow builtins convertTypes paramRewrites place) = kept ↔ below)) :
    (afterKeys inList byKey v).mapAt (pathsBelow builtins convertTypes paramRewrites place) =
        ((wanted builtins convertTypes paramRewrites place byKey).map .scalar).getD kept ↔
      LeafReached builtins convertTypes paramRewrites inList place byKey v below := by
  simp only [LeafReached, wanted]
  cases hnew : rewriteOf (D := D) builtins convertTypes paramRewrites (dottedPath place) with
  | some new => exact mapAt_eq_of_some _ hnew
  | none =>
    cases byKey with
    | some new => exact mapAt_eq_of_none _ hnew
    | none =>
      have hsame : afterKeys inList none v = v := by simp [afterKeys]
      rw [hsame]
      exact hkept hnew rfl

/-- One element of a list: a dictionary is never replaced. -/
theorem element_iff {v : YamlValue (PyScalar F D)}
    (hbelow : v.mapAt (pathsBelow builtins convertTypes paramRewrites place) =
        rewriteLeaf builtins convertTypes paramRewrites place none v ↔
      EachReached builtins convertTypes paramRewrites true place none v) :
    v.mapAt (pathsBelow builtins convertTypes paramRewrites place) =
        ((rewriteOf builtins convertTypes paramRewrites (dottedPath place)).map .scalar).getD
          (rewriteLeaf builtins convertTypes paramRewrites place none v) ↔
      (v.isDict = true →
        rewriteOf (D := D) builtins convertTypes paramRewrites (dottedPath place) = none) ∧
        EachReached builtins convertTypes paramRewrites true place none v := by
  rw [← hbelow]
  cases hnew : rewriteOf (D := D) builtins convertTypes paramRewrites (dottedPath place) with
  | none => simp
  | some new =>
    cases v with
    | scalar s => simp [rewriteLeaf, wanted, hnew, isDict]
    | list values => simp [rewriteLeaf, wanted, hnew, isDict]
    | dict entries => simp [mapAt, isDict]

/-- The values in a list. By induction on them. -/
theorem mapElements_eq_iff {values : List (YamlValue (PyScalar F D))}
    (hbelow : ∀ v ∈ values, ∀ place,
      v.mapAt (pathsBelow builtins convertTypes paramRewrites place) =
        rewriteLeaf builtins convertTypes paramRewrites place none v ↔
      EachReached builtins convertTypes paramRewrites true place none v) :
    ∀ idx, mapElements (pathsBelow builtins convertTypes paramRewrites place) idx values =
        rewriteElements builtins convertTypes paramRewrites place idx values ↔
      ElementsReached builtins convertTypes paramRewrites place idx values := by
  induction values with
  | nil => simp [mapElements, rewriteElements, ElementsReached]
  | cons v values ih =>
    intro idx
    simp only [mapElements, rewriteElements, ElementsReached, List.cons.injEq, pathsBelow_cons]
    rw [element_iff (hbelow v (by simp) _), ih fun v' hv' => hbelow v' (by simp [hv']), and_assoc]

/-- The values of a dictionary, after the first pass. By induction on the
entries. -/
theorem mapEntries_eq_iff {entries : YamlDict (PyScalar F D)} {inList : Bool}
    (hbelow : ∀ e ∈ entries, ∀ place byKey,
      (firstPass builtins convertTypes paramRewrites inList byKey e.2).mapAt
          (pathsBelow builtins convertTypes paramRewrites place) =
        rewriteLeaf builtins convertTypes paramRewrites place byKey e.2 ↔
      EachReached builtins convertTypes paramRewrites inList place byKey e.2) :
    mapEntries (pathsBelow builtins convertTypes paramRewrites place)
        (entries.map fun e => (e.1, firstPass builtins convertTypes paramRewrites inList
          (rewriteOf builtins convertTypes paramRewrites e.1) e.2)) =
        rewriteEntries builtins convertTypes paramRewrites place entries ↔
      EntriesReached builtins convertTypes paramRewrites inList place entries := by
  induction entries with
  | nil => simp [mapEntries, rewriteEntries, EntriesReached]
  | cons e entries ih =>
    simp only [List.map_cons, mapEntries, rewriteEntries, EntriesReached, List.cons.injEq,
      pathsBelow_cons, Prod.mk.injEq, true_and]
    rw [hbelow e (by simp), ih fun e' he' => hbelow e' (by simp [he'])]

theorem byKeysBelow_eq_firstPass (entries : YamlDict (PyScalar F D)) :
    byKeysBelow builtins convertTypes paramRewrites entries = entries.map fun e =>
      (e.1, firstPass builtins convertTypes paramRewrites false
        (rewriteOf builtins convertTypes paramRewrites e.1) e.2) := by
  rw [byKeysBelow_eq]
  apply List.map_congr_left
  intro e _
  cases hkey : rewriteOf (D := D) builtins convertTypes paramRewrites e.1 with
  | none => simp [firstPass, afterKeys]
  | some new => simp [firstPass, afterKeys]

theorem entries_eq_firstPass (entries : YamlDict (PyScalar F D)) :
    entries = entries.map fun e => (e.1, firstPass builtins convertTypes paramRewrites true
      (rewriteOf builtins convertTypes paramRewrites e.1) e.2) := by
  simp [firstPass, afterKeys]

/-- By induction on the value: after both passes each leaf has the value it is
meant to have if and only if each leaf is reached. -/
theorem firstPass_eq_iff (v : YamlValue (PyScalar F D)) :
    ∀ inList place byKey, (firstPass builtins convertTypes paramRewrites inList byKey v).mapAt
        (pathsBelow builtins convertTypes paramRewrites place) =
        rewriteLeaf builtins convertTypes paramRewrites place byKey v ↔
      EachReached builtins convertTypes paramRewrites inList place byKey v := by
  induction v using YamlValue.induct with
  | scalar s =>
    intro inList place byKey
    have hleaf := @leafReached_iff _ _ builtins convertTypes paramRewrites place inList byKey
      (.scalar s) (.scalar s) True fun hnone _ => by simp [mapAt, pathsBelow, afterPaths, hnone]
    simp only [EachReached, ← hleaf, firstPass, byKeys, ite_self, rewriteLeaf]
    cases wanted builtins convertTypes paramRewrites place byKey with
    | none => rfl
    | some new => rfl
  | list values ih =>
    intro inList place byKey
    have helements := @mapElements_eq_iff _ _ builtins convertTypes paramRewrites place values
      (fun v hv place => by
        have := ih v hv true place none
        simpa [firstPass, afterKeys] using this) 0
    have hleaf := @leafReached_iff _ _ builtins convertTypes paramRewrites place inList byKey
      (.list values) (.list (rewriteElements builtins convertTypes paramRewrites place 0 values)) _
      fun _ _ => by simpa [mapAt] using helements
    simp only [EachReached, ← hleaf, firstPass, byKeys, ite_self, rewriteLeaf]
  | dict entries ih =>
    intro inList place byKey
    have hentries := @mapEntries_eq_iff _ _ builtins convertTypes paramRewrites place entries inList
      fun e he place byKey =>
      ih e he inList place byKey
    cases inList with
    | true =>
      rw [← entries_eq_firstPass] at hentries
      simpa [EachReached, firstPass, afterKeys, mapAt, rewriteLeaf] using hentries
    | false =>
      rw [← byKeysBelow_eq_firstPass] at hentries
      cases byKey with
      | none => simpa [EachReached, firstPass, afterKeys, byKeys, mapAt, rewriteLeaf] using hentries
      | some new => simp [EachReached, firstPass, afterKeys, mapAt, rewriteLeaf]

/-! ## A key that names a section -/

/-- The keys lead through dictionaries to a dictionary. -/
inductive SectionAt {S : Type} : YamlValue S → List String → Prop
  | here (entries : YamlDict S) : SectionAt (.dict entries) []
  | entry {entries : YamlDict S} {k : String} {v : YamlValue S} {ks : List String} :
      get k entries = some v → SectionAt v ks → SectionAt (.dict entries) (k :: ks)

/-- The keys lead through dictionaries to a scalar that is not `None`, or go
on after it. -/
inductive MeetsScalar : YamlValue (PyScalar F D) → List String → Prop
  | scalar {s : PyScalar F D} (ks : List String) : s ≠ .none → MeetsScalar (.scalar s) ks
  | entry {entries : YamlDict (PyScalar F D)} {k : String} {v : YamlValue (PyScalar F D)}
      {ks : List String} :
      get k entries = some v → MeetsScalar v ks → MeetsScalar (.dict entries) (k :: ks)

theorem SectionAt.not_meetsScalar {v : YamlValue (PyScalar F D)} {ks : List String}
    (h : SectionAt v ks) : ¬ MeetsScalar v ks := by
  induction h with
  | here entries =>
    intro hmeets
    cases hmeets
  | entry hk _ ih =>
    intro hmeets
    cases hmeets with
    | entry hk' hmeets =>
      rw [hk] at hk'
      cases hk'
      exact ih hmeets

theorem rewriteEntries_eq (entries : YamlDict (PyScalar F D)) :
    rewriteEntries builtins convertTypes paramRewrites place entries = entries.map fun e =>
      (e.1, rewriteLeaf builtins convertTypes paramRewrites (place ++ [e.1])
        (rewriteOf builtins convertTypes paramRewrites e.1) e.2) := by
  induction entries with
  | nil => rfl
  | cons e entries ih => simp [rewriteEntries, ih]

/-- Sections are not rewritten. -/
theorem SectionAt.rewriteLeaf {v : YamlValue (PyScalar F D)} {ks : List String}
    (h : SectionAt v ks) : ∀ place byKey,
      SectionAt (rewriteLeaf builtins convertTypes paramRewrites place byKey v) ks := by
  induction h with
  | here entries =>
    intro place byKey
    exact .here _
  | entry hk _ ih =>
    intro place byKey
    have hget := get_map (fun k v => Common.rewriteLeaf builtins convertTypes paramRewrites
      (place ++ [k]) (rewriteOf builtins convertTypes paramRewrites k) v) hk
    rw [← rewriteEntries_eq] at hget
    exact .entry hget (ih _ _)

theorem convert_ne_none (text : String) :
    convert (D := D) builtins convertTypes text ≠ .none := by
  intro h
  simp only [convert] at h
  split at h
  · next x hx =>
    subst h
    split at hx
    · split at hx
      · simp at hx
      · simp at hx
    · cases hx
  · split at h
    · cases h
    · split at h
      · cases h
      · cases h

theorem ne_none_of_rewriteOf {key : String}
    (h : rewriteOf builtins convertTypes paramRewrites key = some new) : new ≠ .none := by
  rw [rewriteOf, Option.map_eq_some_iff] at h
  obtain ⟨text, -, rfl⟩ := h
  exact convert_ne_none text

theorem get_byKeysBelow {entries : YamlDict (PyScalar F D)} {k : String}
    {v : YamlValue (PyScalar F D)} (h : get k entries = some v) :
    get k (byKeysBelow builtins convertTypes paramRewrites entries) =
      some (((rewriteOf builtins convertTypes paramRewrites k).map .scalar).getD
        (byKeys builtins convertTypes paramRewrites v)) := by
  rw [byKeysBelow_eq]
  exact get_map (fun k v => ((rewriteOf builtins convertTypes paramRewrites k).map .scalar).getD
    (byKeys builtins convertTypes paramRewrites v)) h

/-- The first pass replaces a section with a rewritten key. -/
theorem meetsScalar_byKeys {k : String}
    (hnew : rewriteOf builtins convertTypes paramRewrites k = some new) (ks : List String) :
    ∀ v : YamlValue (PyScalar F D), SectionAt v (ks ++ [k]) →
      MeetsScalar (byKeys builtins convertTypes paramRewrites v) (ks ++ [k]) := by
  induction ks with
  | nil =>
    intro v h
    cases h with
    | entry hk _ =>
      apply MeetsScalar.entry (get_byKeysBelow hk)
      rw [hnew]
      exact .scalar _ (ne_none_of_rewriteOf hnew)
  | cons k' ks ih =>
    intro v h
    cases h with
    | entry hk hbelow =>
      apply MeetsScalar.entry (get_byKeysBelow hk)
      cases hkey : rewriteOf (D := D) builtins convertTypes paramRewrites k' with
      | some new' => exact .scalar _ (ne_none_of_rewriteOf hkey)
      | none => exact ih _ hbelow

/-- An assignment does not put anything below a scalar: it raises. By
induction on the keys. -/
theorem MeetsScalar.updateYamlPathVals {v : YamlValue (PyScalar F D)} {ks : List String}
    (h : MeetsScalar v ks) (hnew : new ≠ .none) : ∀ (place : List String) (w),
      updateYamlPathVals builtins new place v = .ok w → MeetsScalar w ks := by
  induction h with
  | scalar ks hs =>
    intro place w hw
    cases place with
    | nil =>
      cases hw
      exact .scalar ks hs
    | cons head tail =>
      simp only [Common.updateYamlPathVals] at hw
      split at hw
      · cases hw
      · cases hw
  | @entry entries k v ks hk hv ih =>
    intro place w hw
    cases place with
    | nil =>
      cases hw
      exact .entry hk hv
    | cons head tail =>
      simp only [Common.updateYamlPathVals] at hw
      split at hw
      · cases hw
        by_cases heq : k = head
        · subst heq
          exact .entry get_set_self (.scalar ks hnew)
        · exact .entry ((get_set_of_ne heq).trans hk) hv
      · obtain ⟨updated, hupdated, hw⟩ := bind_eq_ok hw
        cases hw
        by_cases heq : k = head
        · subst heq
          -- the value that is met is not `None`
          have hnext : nextNode k entries = v := by
            rw [nextNode, hk]
            cases hv with
            | @scalar s ks hs =>
              cases s with
              | none => exact absurd rfl hs
              | _ => rfl
            | entry => rfl
          rw [hnext] at hupdated
          exact .entry get_set_self (ih tail updated hupdated)
        · exact .entry ((get_set_of_ne heq).trans hk) hv

theorem MeetsScalar.foldlM_rewritePath {ks : List String} (paths : List String) :
    ∀ v w : YamlValue (PyScalar F D), MeetsScalar v ks →
      paths.foldlM (rewritePath builtins convertTypes paramRewrites) v = .ok w →
        MeetsScalar w ks := by
  induction paths with
  | nil =>
    intro v w h hw
    cases hw
    exact h
  | cons path paths ih =>
    intro v w h hw
    rw [List.foldlM_cons] at hw
    obtain ⟨u, hu, hw⟩ := bind_eq_ok hw
    apply ih u w _ hw
    simp only [rewritePath] at hu
    split at hu
    · next new hnew => exact h.updateYamlPathVals (ne_none_of_rewriteOf hnew) _ _ hu
    · cases hu
      exact h

/-- A rewritten key does not name a section. -/
theorem not_mem_of_rewrites {levels : Nat} {node : YamlDict (PyScalar F D)}
    (hlevels : (YamlValue.dict node).levels ≤ levels) (hkeys : (YamlValue.dict node).DistinctKeys)
    (h : substituteParams builtins convertTypes paramRewrites levels node =
      .ok (Common.rewriteLeaf builtins convertTypes paramRewrites [] none (.dict node)))
    {ks : List String} {k : String} (hsection : SectionAt (.dict node) (ks ++ [k])) :
    k ∉ keys paramRewrites := by
  intro hmem
  obtain ⟨text, htext⟩ := exists_get hmem
  have hnew : rewriteOf (D := D) builtins convertTypes paramRewrites k =
      some (convert builtins convertTypes text) := by simp [rewriteOf, htext]
  have hmeets := meetsScalar_byKeys hnew ks (.dict node) hsection
  rw [substituteParams, iterLeafKeys_node hlevels hkeys] at h
  have hend := hmeets.foldlM_rewritePath _ _ _ h
  exact (hsection.rewriteLeaf [] none).not_meetsScalar hend

/-! ## Which leaves are rewritten -/

variable (builtins convertTypes paramRewrites) in
/-- The leaves with a rewritten path, or else a rewritten key, have their new
values, and everything else is as it was. -/
def RewritesLeaves (levels : Nat) (node : YamlDict (PyScalar F D)) : Prop :=
  substituteParams builtins convertTypes paramRewrites levels node =
    .ok (rewriteLeaf builtins convertTypes paramRewrites [] none (.dict node))

variable (builtins convertTypes paramRewrites) in
/-- Both passes find the leaves they are meant for. -/
def PassesReach (node : YamlDict (PyScalar F D)) : Prop :=
  PathsLead builtins convertTypes paramRewrites node ∧
    EachReached builtins convertTypes paramRewrites false [] none (.dict node)

theorem rewritesLeaves_iff {levels : Nat} {node : YamlDict (PyScalar F D)}
    (hlevels : (YamlValue.dict node).levels ≤ levels) (hkeys : (YamlValue.dict node).DistinctKeys)
    (hlead : PathsLead builtins convertTypes paramRewrites node) :
    RewritesLeaves builtins convertTypes paramRewrites levels node ↔
      EachReached builtins convertTypes paramRewrites false [] none (.dict node) := by
  rw [RewritesLeaves, substituteParams_eq hlevels hkeys hlead, Except.ok.injEq]
  exact firstPass_eq_iff (.dict node) false [] none

/-- **What `_substitute_params` rewrites.** If both passes find their leaves,
it rewrites the leaves that are meant and leaves everything else as it was.
Where the rewritten paths lead to their scalars, it does so in no other case,
and never where a rewritten key names a section. -/
theorem substituteParams_rewrites (builtins : Builtins F) (convertTypes : Bool)
    (paramRewrites : List (String × String)) (levels : Nat) (node : YamlDict (PyScalar F D))
    (hlevels : (YamlValue.dict node).levels ≤ levels)
    (hkeys : (YamlValue.dict node).DistinctKeys) :
    (PassesReach builtins convertTypes paramRewrites node →
      RewritesLeaves builtins convertTypes paramRewrites levels node) ∧
    (RewritesLeaves builtins convertTypes paramRewrites levels node →
      (PathsLead builtins convertTypes paramRewrites node →
        PassesReach builtins convertTypes paramRewrites node) ∧
      ∀ ks k, SectionAt (.dict node) (ks ++ [k]) → k ∉ keys paramRewrites) := by
  constructor
  · intro hreach
    exact (rewritesLeaves_iff hlevels hkeys hreach.1).mpr hreach.2
  · intro h
    constructor
    · intro hlead
      exact ⟨hlead, (rewritesLeaves_iff hlevels hkeys hlead).mp h⟩
    · intro ks k hsection
      exact not_mem_of_rewrites hlevels hkeys h hsection

/-! ### An element of a list, and a section -/

open Decimal

/-- `int` on decimal numerals, and no `float`. -/
def decimals (F : Type) : Builtins F where
  int text :=
    if text.toList ≠ [] ∧ text.toList.all Char.isDigit then
      some (ofDigits text.toList : Nat)
    else none
  float _ := none
  int_toString := by
    intro n
    have htext : (toString n).toList = Nat.toDigits 10 n := Nat.toList_repr
    have hdigits : (Nat.toDigits 10 n).all Char.isDigit = true := by
      rw [List.all_eq_true]
      exact fun _ => isDigit_of_mem
    rw [htext, if_pos ⟨Nat.toDigits_ne_nil, hdigits⟩, ofDigits_toDigits]

def listParams : YamlDict (PyScalar Empty Empty) :=
  [("a", .dict [("l", .list [.scalar (.int 1), .dict [("k", .scalar (.int 2))]])])]

theorem listParams_distinctKeys : (YamlValue.dict listParams).DistinctKeys := by
  apply DistinctKeys.dict (by decide)
  intro e he
  cases List.mem_singleton.mp he
  apply DistinctKeys.dict (by decide)
  intro e he
  cases List.mem_singleton.mp he
  apply DistinctKeys.list
  intro v hv
  simp only [List.mem_cons, List.not_mem_nil, or_false] at hv
  rcases hv with rfl | rfl
  · exact .scalar _
  · apply DistinctKeys.dict (by decide)
    intro e he
    cases List.mem_singleton.mp he
    exact .scalar _

/-- The second element of the list is a dictionary, and its entry is rewritten. -/
theorem substituteParams_rewrites_element :
    RewritesLeaves (decimals Empty) true [("a.l.1.k", "7")] 2 listParams :=
  (substituteParams_rewrites (decimals Empty) true [("a.l.1.k", "7")] 2 listParams (by decide)
    listParams_distinctKeys).1 ⟨by
      intro path _ hpath
      cases List.mem_singleton.mp hpath
      have hsplit : splitPath "a.l.1.k" = ["a", "l", "1", "k"] := by decide +kernel
      rw [hsplit]
      exact ⟨.entry rfl (.entry rfl (.element (i := 1) rfl (.entry rfl (.scalar _)))),
        by decide +kernel⟩, by
      have hsplit : splitPath "a.l.1.k" = ["a", "l", "1", "k"] := by decide +kernel
      have hzero : "a.l." ++ Nat.repr 0 = "a.l.0" := by decide +kernel
      have hrepr : Nat.repr 1 = "1" := by decide +kernel
      simp [listParams, EachReached, EntriesReached, ElementsReached, LeafReached, afterKeys,
        rewriteOf, OrderedDict.get, dottedPath, joinPath, isDict, hsplit, hzero, hrepr]⟩

def sectionParams : YamlDict (PyScalar Empty Empty) := [("a", .dict [("b", .scalar (.int 1))])]

/-- A rewrite of `a` replaces the section `a`: the parameter `b` is dropped. -/
theorem section_is_replaced :
    ¬ ∀ (builtins : Builtins Empty) (convertTypes : Bool) (paramRewrites : List (String × String))
      (levels : Nat) (node : YamlDict (PyScalar Empty Empty)),
      (YamlValue.dict node).levels ≤ levels → (YamlValue.dict node).DistinctKeys →
        RewritesLeaves builtins convertTypes paramRewrites levels node := by
  intro h
  have hdistinct : (YamlValue.dict sectionParams).DistinctKeys := by
    apply DistinctKeys.dict (by decide)
    intro e he
    cases List.mem_singleton.mp he
    apply DistinctKeys.dict (by decide)
    intro e he
    cases List.mem_singleton.mp he
    exact .scalar _
  have hrewrites := h (decimals Empty) false [("a", "x")] 2 sectionParams (by decide) hdistinct
  have hsection : SectionAt (.dict sectionParams) ([] ++ ["a"]) := .entry rfl (.here _)
  exact not_mem_of_rewrites (by decide) hdistinct hrewrites hsection (by decide)

end Nav3D.Common

/-
Nav3D.Common.SubstituteParams — `RewrittenYaml._substitute_params`
(`nav3d_common/launch/rewritten_yaml.py`).

The values are rewritten in two passes. The first one goes through the keys
of the nested dictionaries, sections included, and does not enter lists. The
second one lists the dotted paths of the scalars and finds the scalar of a
path again by splitting the path at its dots.

A leaf is an entry of a dictionary whose value is not a dictionary, or an
element of a list, whatever it is. The leaves that are meant to be rewritten
are the ones with a rewritten path, or else a rewritten key (`rewriteLeaf`). What the
passes do instead is written down in closed form (`substituteParams_eq`), if
the paths lead back to their scalars.
-/
import Nav3D.Common.SubstituteKeys
import Nav3D.Common.YamlPlaces

namespace Nav3D.Common

open OrderedDict YamlValue

/-- `YamlValue: TypeAlias = str | int | float | bool`, with the `None` of an
empty value and what else a document may hold. -/
inductive PyScalar (F D : Type) where
  | none
  | bool (b : Bool)
  | int (i : Int)
  | float (x : F)
  | str (text : String)
  | other (d : D)
  deriving DecidableEq

/-- `int(text)` and `float(text)`, without a value where they raise. Of `int`
only the decimal numerals matter. -/
structure Builtins (F : Type) where
  int : String → Option Int
  float : String → Option F
  int_toString : ∀ n : Nat, int (toString n) = some (n : Int)

variable {F D : Type} (builtins : Builtins F) (convertTypes : Bool)
  (paramRewrites : List (String × String))

/-! ## The code -/

/-- `_convert`. -/
def convert (text : String) : PyScalar F D :=
  let number : Option (PyScalar F D) :=
    if convertTypes then
      if '.' ∈ text.toList then (builtins.float text).map .float
      else (builtins.int text).map .int
    else none
  match number with
  | some x => x
  | none =>
    if text.toLower = "true" then .bool true
    else if text.toLower = "false" then .bool false
    else .str text

/-- The value that replaces the one of a key or of a path. -/
def rewriteOf (key : String) : Option (PyScalar F D) :=
  (get key paramRewrites).map (convert builtins convertTypes)

section Passes

variable {S : Type}

/-- The generator `_iter_leaf_keys`, with what is done at each reference it
yields. The generator goes on in the dictionary that has been changed. -/
def iterLeafKeys (body : YamlDict S → String → YamlDict S) :
    Nat → YamlDict S → Except PyError (YamlDict S)
  | 0, _ => throw .recursionError
  | levels + 1, data => (keys data).foldlM (fun data k => do
      let data ← substituteItem (iterLeafKeys body levels) data k
      return body data k) data

/-- `(p + joinchar) if p else ""`, and the key after it. -/
def joinPath (p k : String) : String := (if p = "" then "" else p ++ ".") ++ k

mutual
/-- `_pathify(d, p, paths)`. -/
def pathify (p : String) (paths : List (String × S)) : YamlValue S → List (String × S)
  | .dict entries => pathifyEntries p paths entries
  | .list values => pathifyElements p paths 0 values
  | .scalar s => set p s paths

def pathifyEntries (p : String) (paths : List (String × S)) : YamlDict S → List (String × S)
  | [] => paths
  | (k, v) :: entries => pathifyEntries p (pathify (joinPath p k) paths v) entries

def pathifyElements (p : String) (paths : List (String × S)) (idx : Nat) :
    List (YamlValue S) → List (String × S)
  | [] => paths
  | v :: values => pathifyElements p (pathify (joinPath p (toString idx)) paths v) (idx + 1) values
end

/-- `values[idx]` and where it is: a negative index counts from the end. -/
def listItem (idx : Int) (values : List (YamlValue S)) : Except PyError (Nat × YamlValue S) :=
  let place := if idx < 0 then idx + values.length else idx
  if place < 0 then .error .indexError
  else match values[place.toNat]? with
    | some v => .ok (place.toNat, v)
    | none => .error .indexError

/-- `path.split(".")`. -/
def splitPath (path : String) : List String := (path.toList.splitOn '.').map String.ofList

end Passes

/-- `int(head)`. -/
def parseIndex (head : String) : Except PyError Int :=
  match builtins.int head with
  | some idx => .ok idx
  | none => .error .valueError

/-- `nxt`: a key that is missing, or whose value is `None`, is given a
dictionary. -/
def nextNode (head : String) (entries : YamlDict (PyScalar F D)) : YamlValue (PyScalar F D) :=
  match get head entries with
  | none | some (.scalar .none) => .dict []
  | some nxt => nxt

/-- `_update_yaml_path_vals(node, keys, rewrite_val)`. -/
def updateYamlPathVals (rewriteVal : PyScalar F D) : List String →
    YamlValue (PyScalar F D) → Except PyError (YamlValue (PyScalar F D))
  | [], node => .ok node
  | head :: tail, .list values => do
    let idx ← parseIndex builtins head
    let (place, nxt) ← listItem idx values
    if tail = [] then return .list (values.set place (.scalar rewriteVal))
    else do
      let updated ← updateYamlPathVals rewriteVal tail nxt
      return .list (values.set place updated)
  | head :: tail, .dict entries =>
    if tail = [] then return .dict (set head (.scalar rewriteVal) entries)
    else do
      let updated ← updateYamlPathVals rewriteVal tail (nextNode head entries)
      return .dict (set head updated entries)
  | _ :: tail, .scalar _ => if tail = [] then throw .typeError else throw .attributeError

/-- One pass of the first loop. -/
def rewriteKey (data : YamlDict (PyScalar F D)) (k : String) : YamlDict (PyScalar F D) :=
  match rewriteOf builtins convertTypes paramRewrites k with
  | some rewriteVal => set k (.scalar rewriteVal) data
  | none => data

/-- One pass of the second loop. -/
def rewritePath (node : YamlValue (PyScalar F D)) (path : String) :
    Except PyError (YamlValue (PyScalar F D)) :=
  match rewriteOf builtins convertTypes paramRewrites path with
  | some rewriteVal => updateYamlPathVals builtins rewriteVal (splitPath path) node
  | none => .ok node

/-- `_substitute_params(node, param_rewrites)`. -/
def substituteParams (levels : Nat) (node : YamlDict (PyScalar F D)) :
    Except PyError (YamlValue (PyScalar F D)) := do
  let node ← iterLeafKeys (rewriteKey builtins convertTypes paramRewrites) levels node
  let yamlPaths := pathify "" [] (.dict node)
  (keys yamlPaths).foldlM (rewritePath builtins convertTypes paramRewrites) (.dict node)

/-! ## What it is for -/

/-- The dotted path of a place. -/
def dottedPath (place : List String) : String := place.foldl joinPath ""

/-- The value of a leaf that is rewritten: by its path, or else by its own key. -/
def wanted (place : List String) (byKey : Option (PyScalar F D)) : Option (PyScalar F D) :=
  (rewriteOf builtins convertTypes paramRewrites (dottedPath place)).or byKey

mutual
/-- The value at a place with every leaf rewritten; `byKey` is what replaces
the value of its own key. An element of a list is a leaf also if it is a
dictionary. -/
def rewriteLeaf (place : List String) (byKey : Option (PyScalar F D)) :
    YamlValue (PyScalar F D) → YamlValue (PyScalar F D)
  | .dict entries => .dict (rewriteEntries place entries)
  | .list values => ((wanted builtins convertTypes paramRewrites place byKey).map .scalar).getD
      (.list (rewriteElements place 0 values))
  | .scalar s => .scalar ((wanted builtins convertTypes paramRewrites place byKey).getD s)

def rewriteEntries (place : List String) : YamlDict (PyScalar F D) → YamlDict (PyScalar F D)
  | [] => []
  | (k, v) :: entries =>
    (k, rewriteLeaf (place ++ [k]) (rewriteOf builtins convertTypes paramRewrites k) v) ::
      rewriteEntries place entries

def rewriteElements (place : List String) (idx : Nat) :
    List (YamlValue (PyScalar F D)) → List (YamlValue (PyScalar F D))
  | [] => []
  | v :: values =>
    ((rewriteOf builtins convertTypes paramRewrites
        (dottedPath (place ++ [toString idx]))).map .scalar).getD
        (rewriteLeaf (place ++ [toString idx]) none v) ::
      rewriteElements place (idx + 1) values
end

/-! ### The two passes -/

mutual
/-- What the first pass leaves of a tree: every entry of the nested
dictionaries with a rewritten key has its new value, a section as well. -/
def byKeys : YamlValue (PyScalar F D) → YamlValue (PyScalar F D)
  | .dict entries => .dict (byKeysBelow entries)
  | .list values => .list values
  | .scalar s => .scalar s

def byKeysBelow : YamlDict (PyScalar F D) → YamlDict (PyScalar F D)
  | [] => []
  | (k, v) :: entries =>
    (k, ((rewriteOf builtins convertTypes paramRewrites k).map .scalar).getD (byKeys v)) ::
      byKeysBelow entries
end

/-- Each rewritten path that the second pass lists leads, when it is split, to
a scalar with that path. -/
def PathsLead (node : YamlDict (PyScalar F D)) : Prop :=
  let node := byKeys builtins convertTypes paramRewrites (.dict node)
  ∀ path ∈ keys (pathify "" [] node), path ∈ keys paramRewrites →
    LeadsTo node (splitPath path) ∧ dottedPath (splitPath path) = path

/-- A leaf after the first pass, which does not enter lists. -/
def afterKeys (inList : Bool) (byKey : Option (PyScalar F D)) (v : YamlValue (PyScalar F D)) :
    YamlValue (PyScalar F D) :=
  if inList then v else (byKey.map .scalar).getD v

/-- A pass reaches the leaf, if it is to be rewritten: a scalar by the path
whose parts are its place, and an entry outside lists by its key. A leaf that
has its new value already need not be reached. -/
def LeafReached (inList : Bool) (place : List String) (byKey : Option (PyScalar F D))
    (v : YamlValue (PyScalar F D)) (below : Prop) : Prop :=
  let v := afterKeys inList byKey v
  match rewriteOf builtins convertTypes paramRewrites (dottedPath place), byKey with
  | some new, _ => v = .scalar new ∨
      (∃ s, v = .scalar s) ∧ splitPath (dottedPath place) = place
  | none, some new => v = .scalar new
  | none, none => below

mutual
/-- Each leaf that is to be rewritten is reached, no key that the first pass
rewrites names a section, and no rewritten path is the one of a dictionary in
a list, which no pass replaces. -/
def EachReached (inList : Bool) (place : List String) (byKey : Option (PyScalar F D)) :
    YamlValue (PyScalar F D) → Prop
  | .dict entries => (inList = true ∨ byKey = none) ∧ EntriesReached inList place entries
  | .list values =>
    LeafReached builtins convertTypes paramRewrites inList place byKey (.list values)
      (ElementsReached place 0 values)
  | .scalar s =>
    LeafReached builtins convertTypes paramRewrites inList place byKey (.scalar s) True

def EntriesReached (inList : Bool) (place : List String) : YamlDict (PyScalar F D) → Prop
  | [] => True
  | (k, v) :: entries =>
    EachReached inList (place ++ [k]) (rewriteOf builtins convertTypes paramRewrites k) v ∧
      EntriesReached inList place entries

def ElementsReached (place : List String) (idx : Nat) : List (YamlValue (PyScalar F D)) → Prop
  | [] => True
  | v :: values =>
    (v.isDict = true → rewriteOf (D := D) builtins convertTypes paramRewrites
        (dottedPath (place ++ [toString idx])) = none) ∧
      EachReached true (place ++ [toString idx]) none v ∧ ElementsReached place (idx + 1) values
end

/-! ## The first pass -/

variable {builtins convertTypes paramRewrites}

theorem rewriteKey_middle {d₁ d₂ : YamlDict (PyScalar F D)} {k : String}
    {v : YamlValue (PyScalar F D)} (h : k ∉ keys d₁) :
    rewriteKey builtins convertTypes paramRewrites (d₁ ++ (k, v) :: d₂) k =
      d₁ ++ (k, ((rewriteOf builtins convertTypes paramRewrites k).map .scalar).getD v) :: d₂ := by
  simp only [rewriteKey]
  split
  · next rewriteVal hnew => rw [set_middle h, hnew, Option.map_some, Option.getD_some]
  · next hnone => rw [hnone, Option.map_none, Option.getD_none]

/-- The loop of the generator over the entries that are left. By induction on
them. -/
theorem foldlM_rewriteKey {recurse : YamlDict (PyScalar F D) →
      Except PyError (YamlDict (PyScalar F D))} (todo : YamlDict (PyScalar F D))
    (hbelow : ∀ e ∈ todo, substituteBelow recurse e.2 =
      .ok (byKeys builtins convertTypes paramRewrites e.2)) :
    ∀ done, (keys (done ++ todo)).Nodup →
      (keys todo).foldlM (fun data k => do
          let data ← substituteItem recurse data k
          return rewriteKey builtins convertTypes paramRewrites data k) (done ++ todo) =
        .ok (done ++ byKeysBelow builtins convertTypes paramRewrites todo) := by
  induction todo with
  | nil =>
    intro done _
    rfl
  | cons e todo ih =>
    intro done hkeys
    have hnot : e.1 ∉ keys done := by
      intro hmem
      rw [keys_append, keys_cons] at hkeys
      exact (List.nodup_append.mp hkeys).2.2 _ hmem _ (by simp) rfl
    rw [keys_cons, List.foldlM_cons, substituteItem_middle hnot, hbelow e (by simp)]
    simp only [pure_bind, bind_assoc]
    have hnext := ih (fun e' he' => hbelow e' (by simp [he'])) (done ++ [(e.1,
      ((rewriteOf builtins convertTypes paramRewrites e.1).map .scalar).getD
        (byKeys builtins convertTypes paramRewrites e.2))]) (by simpa using hkeys)
    simp only [List.append_assoc, List.singleton_append] at hnext
    rw [byKeysBelow, ← hnext, ← rewriteKey_middle hnot]
    rfl

/-- The first pass, by induction on the tree. -/
theorem iterLeafKeys_eq (v : YamlValue (PyScalar F D)) :
    ∀ levels, v.levels ≤ levels → v.DistinctKeys →
      substituteBelow (iterLeafKeys (rewriteKey builtins convertTypes paramRewrites) levels) v =
        .ok (byKeys builtins convertTypes paramRewrites v) := by
  induction v using YamlValue.induct with
  | scalar s => simp [substituteBelow, byKeys]
  | list values => simp [substituteBelow, byKeys]
  | dict entries ih =>
    intro levels hlevels hv
    simp only [YamlValue.levels] at hlevels
    obtain ⟨n, rfl⟩ : ∃ n, levels = n + 1 := ⟨levels - 1, by omega⟩
    have hle := levelsBelow_le.mp (Nat.le_of_succ_le_succ hlevels)
    cases hv with
    | dict hkeys hentries =>
      have hloop := foldlM_rewriteKey entries
        (fun e he => ih e he n (hle e he) (hentries e he)) [] (by simpa using hkeys)
      simp only [List.nil_append] at hloop
      simp only [substituteBelow, iterLeafKeys, hloop, byKeys]
      rfl

theorem iterLeafKeys_node {levels : Nat} {node : YamlDict (PyScalar F D)}
    (hlevels : (YamlValue.dict node).levels ≤ levels)
    (hkeys : (YamlValue.dict node).DistinctKeys) :
    iterLeafKeys (rewriteKey builtins convertTypes paramRewrites) levels node =
      .ok (byKeysBelow builtins convertTypes paramRewrites node) := by
  obtain ⟨node', hnode', heq⟩ := bind_eq_ok (iterLeafKeys_eq (.dict node) levels hlevels hkeys)
  cases heq
  exact hnode'

theorem byKeysBelow_eq (entries : YamlDict (PyScalar F D)) :
    byKeysBelow builtins convertTypes paramRewrites entries = entries.map fun e =>
      (e.1, ((rewriteOf builtins convertTypes paramRewrites e.1).map .scalar).getD
        (byKeys builtins convertTypes paramRewrites e.2)) := by
  induction entries with
  | nil => rfl
  | cons e entries ih => simp [byKeysBelow, ih]

theorem YamlValue.DistinctKeys.byKeys {v : YamlValue (PyScalar F D)} (hv : v.DistinctKeys) :
    (byKeys builtins convertTypes paramRewrites v).DistinctKeys := by
  induction hv with
  | scalar s => exact .scalar s
  | list hvalues _ => exact .list hvalues
  | dict hkeys _ ih =>
    simp only [Common.byKeys, byKeysBelow_eq]
    apply DistinctKeys.dict
    · rwa [keys_map fun k v => ((rewriteOf builtins convertTypes paramRewrites k).map .scalar).getD
        (Common.byKeys builtins convertTypes paramRewrites v)]
    · intro e he
      rw [List.mem_map] at he
      obtain ⟨e, he, rfl⟩ := he
      cases hkey : rewriteOf builtins convertTypes paramRewrites e.1 with
      | none => simpa [hkey] using ih e he
      | some new => simpa [hkey] using DistinctKeys.scalar new

/-! ## The second pass -/

theorem listItem_of_getElem? {S : Type} {values : List (YamlValue S)} {i : Nat}
    {v : YamlValue S} (h : values[i]? = some v) : listItem (i : Int) values = .ok (i, v) := by
  have hnonneg : ¬ (i : Int) < 0 := by omega
  simp only [listItem, if_neg hnonneg, Int.toNat_natCast, h]

/-- An assignment to a place that leads to a scalar. By induction on the
place. -/
theorem updateYamlPathVals_eq {new : PyScalar F D} {v : YamlValue (PyScalar F D)}
    {ks : List String} (h : LeadsTo v ks) : v.DistinctKeys → ks ≠ [] →
      updateYamlPathVals builtins new ks v = .ok (v.mapAt (assign ks new)) := by
  induction h with
  | scalar s =>
    intro _ hne
    exact absurd rfl hne
  | @element values i v ks hi hv ih =>
    intro hdistinct _
    cases hdistinct with
    | list hvalues =>
      have hindex : parseIndex builtins (toString i) = .ok (i : Int) := by
        simp only [parseIndex, builtins.int_toString]
      simp only [updateYamlPathVals, hindex, mapAt, mapElements_assign hi]
      change (listItem (i : Int) values >>= _) = _
      rw [listItem_of_getElem? hi]
      change (if ks = [] then _ else _) = _
      split
      · next hnil =>
        subst hnil
        cases hv
        rfl
      · next hne =>
        rw [ih (hvalues v (List.mem_of_getElem? hi)) hne]
        rfl
  | @entry entries k v ks hk hv ih =>
    intro hdistinct _
    cases hdistinct with
    | dict hkeys hentries =>
      simp only [updateYamlPathVals, mapAt, mapEntries_assign hkeys hk]
      split
      · next hnil =>
        subst hnil
        cases hv
        rfl
      · next hne =>
        -- a place that goes on is not in a `None`
        have hnext : nextNode k entries = v := by
          rw [nextNode, hk]
          cases hv with
          | scalar s => exact absurd rfl hne
          | element => rfl
          | entry => rfl
        rw [hnext, ih (hentries (k, v) (mem_of_get hk)) hne]
        rfl

theorem splitPath_ne_nil (path : String) : splitPath path ≠ [] := by
  simp [splitPath, List.splitOn_ne_nil]

variable (builtins convertTypes paramRewrites) in
/-- What the assignments for the paths leave at a place. -/
def assigned (paths : List String) (place : List String) (s : PyScalar F D) : PyScalar F D :=
  paths.foldl (fun s path =>
    match rewriteOf builtins convertTypes paramRewrites path with
    | some new => assign (splitPath path) new place s
    | none => s) s

theorem assigned_cons_of_none {path : String} (paths : List String)
    (h : rewriteOf (D := D) builtins convertTypes paramRewrites path = none) :
    assigned (D := D) builtins convertTypes paramRewrites (path :: paths) =
      assigned builtins convertTypes paramRewrites paths := by
  funext place s
  simp [assigned, h]

theorem assigned_cons_of_some {path : String} {new : PyScalar F D} (paths : List String)
    (h : rewriteOf builtins convertTypes paramRewrites path = some new) :
    assigned builtins convertTypes paramRewrites (path :: paths) = fun place s =>
      assigned builtins convertTypes paramRewrites paths place
        (assign (splitPath path) new place s) := by
  funext place s
  simp [assigned, h]

theorem mem_keys_of_rewriteOf {path : String} {new : PyScalar F D}
    (h : rewriteOf builtins convertTypes paramRewrites path = some new) :
    path ∈ keys paramRewrites := by
  rw [rewriteOf, Option.map_eq_some_iff] at h
  obtain ⟨text, htext, -⟩ := h
  exact mem_keys_of_get htext

/-- The second loop, by induction on the paths that are left: no assignment
moves a scalar. -/
theorem foldlM_rewritePath (paths : List String) :
    ∀ v : YamlValue (PyScalar F D), v.DistinctKeys →
      (∀ path ∈ paths, path ∈ keys paramRewrites → LeadsTo v (splitPath path)) →
      paths.foldlM (rewritePath builtins convertTypes paramRewrites) v =
        .ok (v.mapAt (assigned builtins convertTypes paramRewrites paths)) := by
  induction paths with
  | nil =>
    intro v _ _
    exact congrArg Except.ok (mapAt_id v).symm
  | cons path paths ih =>
    intro v hv hlead
    rw [List.foldlM_cons]
    cases hnew : rewriteOf (D := D) builtins convertTypes paramRewrites path with
    | none =>
      have hstep : rewritePath builtins convertTypes paramRewrites v path = .ok v := by
        simp only [rewritePath, hnew]
      rw [hstep, assigned_cons_of_none paths hnew]
      exact ih v hv fun path' hmem => hlead path' (by simp [hmem])
    | some new =>
      have hfirst := hlead path (by simp) (mem_keys_of_rewriteOf hnew)
      have hstep : rewritePath builtins convertTypes paramRewrites v path =
          .ok (v.mapAt (assign (splitPath path) new)) := by
        simp only [rewritePath, hnew]
        exact updateYamlPathVals_eq hfirst hv (splitPath_ne_nil path)
      have hrest := ih (v.mapAt (assign (splitPath path) new)) (hv.mapAt _)
        fun path' hmem hin => (hlead path' (by simp [hmem]) hin).mapAt _
      rw [mapAt_mapAt] at hrest
      rw [hstep, assigned_cons_of_some paths hnew]
      exact hrest

section Pathify

variable {S : Type}

theorem mem_pathifyEntries {entries : YamlDict S} {path : String}
    (hbelow : ∀ e ∈ entries, ∀ (p : String) (paths : List (String × S)), path ∈ keys paths →
      path ∈ keys (pathify p paths e.2)) {p : String} :
    ∀ paths, path ∈ keys paths → path ∈ keys (pathifyEntries p paths entries) := by
  induction entries with
  | nil =>
    intro paths h
    exact h
  | cons e entries ih =>
    intro paths h
    exact ih (fun e' he' => hbelow e' (by simp [he'])) _ (hbelow e (by simp) _ _ h)

theorem mem_pathifyElements {values : List (YamlValue S)} {path : String}
    (hbelow : ∀ v ∈ values, ∀ (p : String) (paths : List (String × S)), path ∈ keys paths →
      path ∈ keys (pathify p paths v)) {p : String} :
    ∀ idx paths, path ∈ keys paths → path ∈ keys (pathifyElements p paths idx values) := by
  induction values with
  | nil =>
    intro idx paths h
    exact h
  | cons v values ih =>
    intro idx paths h
    exact ih (fun v' hv' => hbelow v' (by simp [hv'])) _ _ (hbelow v (by simp) _ _ h)

/-- The paths that are listed stay. -/
theorem mem_pathify (v : YamlValue S) {path : String} :
    ∀ (p : String) (paths : List (String × S)), path ∈ keys paths →
      path ∈ keys (pathify p paths v) := by
  induction v using YamlValue.induct with
  | scalar s =>
    intro p paths h
    exact mem_keys_set h
  | list values ih =>
    intro p paths h
    exact mem_pathifyElements ih 0 paths h
  | dict entries ih =>
    intro p paths h
    exact mem_pathifyEntries ih paths h

/-- The path of every scalar is listed. -/
theorem mem_pathify_of_leadsTo {v : YamlValue S} {ks : List String} (h : LeadsTo v ks) :
    ∀ (p : String) (paths : List (String × S)),
      ks.foldl joinPath p ∈ keys (pathify p paths v) := by
  induction h with
  | scalar s =>
    intro p paths
    exact mem_keys_of_get get_set_self
  | @element values i v ks hi _ ih =>
    intro p paths
    suffices hall : ∀ idx, (toString (idx + i) :: ks).foldl joinPath p ∈
        keys (pathifyElements p paths idx values) by
      simpa [pathify] using hall 0
    induction values generalizing i paths with
    | nil => simp at hi
    | cons w values ihvalues =>
      intro idx
      cases i with
      | zero =>
        cases hi
        rw [pathifyElements]
        exact mem_pathifyElements (fun v' _ => mem_pathify v') _ _ (ih _ paths)
      | succ i =>
        have hnext := ihvalues (i := i) hi (pathify (joinPath p (toString idx)) paths w) (idx + 1)
        rwa [Nat.add_right_comm, Nat.add_assoc] at hnext
  | @entry entries k v ks hk _ ih =>
    intro p paths
    induction entries generalizing paths with
    | nil => cases hk
    | cons e entries ihentries =>
      simp only [OrderedDict.get] at hk
      split at hk
      · next heq =>
        cases hk
        subst heq
        rw [pathify, pathifyEntries]
        exact mem_pathifyEntries (fun e' _ => mem_pathify e'.2) _ (ih _ paths)
      · exact ihentries hk _

end Pathify

/-! ## Both passes -/

variable (builtins convertTypes paramRewrites) in
/-- What the second pass leaves at a place. -/
def afterPaths (place : List String) (s : PyScalar F D) : PyScalar F D :=
  match rewriteOf builtins convertTypes paramRewrites (dottedPath place) with
  | some new => if splitPath (dottedPath place) = place then new else s
  | none => s

/-- If no other path is split to a place, only its own path counts. By
induction on the paths. -/
theorem assigned_eq {place : List String} (paths : List String)
    (hother : ∀ path ∈ paths, path ∈ keys paramRewrites → splitPath path = place →
      path = dottedPath place) :
    ∀ s : PyScalar F D, assigned builtins convertTypes paramRewrites paths place s =
      if dottedPath place ∈ paths then afterPaths builtins convertTypes paramRewrites place s
      else s := by
  induction paths with
  | nil =>
    intro s
    rfl
  | cons path paths ih =>
    intro s
    have hrest := ih fun path' hmem => hother path' (by simp [hmem])
    cases hnew : rewriteOf (D := D) builtins convertTypes paramRewrites path with
    | none =>
      rw [assigned_cons_of_none paths hnew, hrest]
      by_cases heq : dottedPath place = path
      · subst heq
        simp [afterPaths, hnew]
      · simp [heq]
    | some new =>
      rw [assigned_cons_of_some paths hnew]
      simp only [hrest]
      by_cases hplace : splitPath path = place
      · have heq := hother path (by simp) (mem_keys_of_rewriteOf hnew) hplace
        subst heq
        simp [afterPaths, hnew, assign, hplace]
      · have hsame : assign (splitPath path) new place s = s := by
          rw [assign, if_neg fun heq => hplace heq.symm]
        rw [hsame]
        by_cases heq : dottedPath place = path
        · subst heq
          simp [afterPaths, hnew, hplace]
        · simp [heq]

/-- The tree after both passes, if the paths lead to their scalars. -/
theorem substituteParams_eq {levels : Nat} {node : YamlDict (PyScalar F D)}
    (hlevels : (YamlValue.dict node).levels ≤ levels) (hkeys : (YamlValue.dict node).DistinctKeys)
    (hlead : PathsLead builtins convertTypes paramRewrites node) :
    substituteParams builtins convertTypes paramRewrites levels node =
      .ok ((byKeys builtins convertTypes paramRewrites (.dict node)).mapAt
        (afterPaths builtins convertTypes paramRewrites)) := by
  have hdistinct : (byKeys builtins convertTypes paramRewrites (.dict node)).DistinctKeys :=
    hkeys.byKeys
  have hassigned : (byKeys builtins convertTypes paramRewrites (.dict node)).mapAt
        (assigned builtins convertTypes paramRewrites
          (keys (pathify "" [] (byKeys builtins convertTypes paramRewrites (.dict node))))) =
      (byKeys builtins convertTypes paramRewrites (.dict node)).mapAt
        (afterPaths builtins convertTypes paramRewrites) := by
    apply mapAt_congr hdistinct
    intro place hplace
    funext s
    have hlisted : dottedPath place ∈
        keys (pathify "" [] (byKeys builtins convertTypes paramRewrites (.dict node))) :=
      mem_pathify_of_leadsTo hplace "" []
    rw [assigned_eq, if_pos hlisted]
    intro path hmem hin hsplit
    rw [← hsplit]
    exact (hlead path hmem hin).2.symm
  rw [substituteParams, iterLeafKeys_node hlevels hkeys, ← hassigned]
  apply foldlM_rewritePath _ _ hdistinct
  intro path hmem hin
  exact (hlead path hmem hin).1

end Nav3D.Common

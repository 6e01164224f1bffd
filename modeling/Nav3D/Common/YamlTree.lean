/-
Nav3D.Common.YamlTree — what `yaml.safe_load` gives to `RewrittenYaml`
(`nav3d_common/launch/rewritten_yaml.py`): nested dictionaries and lists of
scalars.

The keys are strings, and the dictionaries and lists are trees: an anchor
that makes two entries share one object is left out. The scalars are any
type.
-/
import Nav3D.Lib.OrderedDict

namespace Nav3D.Common

open OrderedDict

/-- A `YamlValue`. -/
inductive YamlValue (S : Type) where
  | scalar (s : S)
  | list (values : List (YamlValue S))
  | dict (entries : List (String × YamlValue S))

/-- The entries of a `dict`. -/
abbrev YamlDict (S : Type) := List (String × YamlValue S)

/-- What Python raises. -/
inductive PyError where
  | keyError
  | typeError
  | valueError
  | indexError
  | attributeError
  | recursionError
  deriving DecidableEq, Repr

variable {S : Type}

/-- `node[k]`. -/
def item (k : String) (node : YamlDict S) : Except PyError (YamlValue S) :=
  match get k node with
  | some v => .ok v
  | none => .error .keyError

namespace YamlValue

/-- `isinstance(v, dict)`. -/
def isDict : YamlValue S → Bool
  | .dict _ => true
  | _ => false

/-- Induction on a value. -/
@[elab_as_elim] theorem induct {P : YamlValue S → Prop} (scalar : ∀ s, P (.scalar s))
    (list : ∀ values, (∀ v ∈ values, P v) → P (.list values))
    (dict : ∀ entries, (∀ e ∈ entries, P e.2) → P (.dict entries)) : ∀ v, P v
  | .scalar s => scalar s
  | .list values => list values fun v _ => induct scalar list dict v
  | .dict entries => dict entries fun e _ => induct scalar list dict e.2
decreasing_by
  · simp_wf
    have := List.sizeOf_lt_of_mem ‹v ∈ values›
    omega
  · obtain ⟨k, v⟩ := e
    have := List.sizeOf_lt_of_mem ‹(k, v) ∈ entries›
    simp at this ⊢
    omega

mutual
/-- The number of dictionaries inside one another. -/
def levels : YamlValue S → Nat
  | .scalar _ => 0
  | .list _ => 0
  | .dict entries => levelsBelow entries + 1

def levelsBelow : YamlDict S → Nat
  | [] => 0
  | (_, v) :: entries => max v.levels (levelsBelow entries)
end

mutual
/-- The keys of each of the nested dictionaries satisfy `P`. -/
def EachDict (P : List String → Prop) : YamlValue S → Prop
  | .scalar _ => True
  | .list _ => True
  | .dict entries => P (keys entries) ∧ EachBelow P entries

def EachBelow (P : List String → Prop) : YamlDict S → Prop
  | [] => True
  | (_, v) :: entries => v.EachDict P ∧ EachBelow P entries
end

theorem levelsBelow_le {entries : YamlDict S} {n : Nat} :
    levelsBelow entries ≤ n ↔ ∀ e ∈ entries, e.2.levels ≤ n := by
  induction entries with
  | nil => simp [levelsBelow]
  | cons e entries ih => simp only [levelsBelow, Nat.max_le, ih, List.forall_mem_cons]

theorem eachBelow_iff {P : List String → Prop} {entries : YamlDict S} :
    EachBelow P entries ↔ ∀ e ∈ entries, e.2.EachDict P := by
  induction entries with
  | nil => simp [EachBelow]
  | cons e entries ih => simp [EachBelow, ih]

theorem eachDict_of_forall {P : List String → Prop} (h : ∀ ks, P ks) (v : YamlValue S) :
    v.EachDict P := by
  induction v using induct with
  | scalar s => trivial
  | list values => trivial
  | dict entries ih => exact ⟨h _, eachBelow_iff.mpr ih⟩

/-! ### Equality -/

mutual
/-- `==` of two values: dictionaries are equal if they have the same keys with
equal values, in any order. -/
def Same : YamlValue S → YamlValue S → Prop
  | .dict es, .dict fs => es.length = fs.length ∧ SameBelow es fs
  | .scalar s, w => w = .scalar s
  | .list values, w => w = .list values
  | .dict _, _ => False

def SameBelow : YamlDict S → YamlDict S → Prop
  | [], _ => True
  | (k, v) :: es, fs => (∃ w, get k fs = some w ∧ Same v w) ∧ SameBelow es fs
end

theorem sameBelow_iff {es fs : YamlDict S} :
    SameBelow es fs ↔ ∀ e ∈ es, ∃ w, get e.1 fs = some w ∧ Same e.2 w := by
  induction es with
  | nil => simp [SameBelow]
  | cons e es ih => simp [SameBelow, ih]

/-- With keys that are all different, a value is equal to itself. -/
theorem same_self (v : YamlValue S) : v.EachDict List.Nodup → Same v v := by
  induction v using induct with
  | scalar s => simp [Same]
  | list values => simp [Same]
  | dict entries ih =>
    intro h
    simp only [EachDict, eachBelow_iff] at h
    simp only [Same, sameBelow_iff, true_and]
    intro e he
    exact ⟨e.2, get_of_mem h.1 he, ih e he (h.2 e he)⟩

end YamlValue

end Nav3D.Common

/-
Nav3D.Lib.Numerals — the facts that numerals rest on.

A numeral of a field needs a proof that it is at least two, an index below
three one that three is not zero. Under a name here, they make a definition
the same term in every file that writes it.
-/
import Mathlib.Algebra.GroupWithZero.Nat
import Mathlib.Data.Nat.Init

namespace Numerals

instance atLeastTwo_two : Nat.AtLeastTwo 2 := ⟨by decide⟩

instance atLeastTwo_ten : Nat.AtLeastTwo 10 := ⟨by decide⟩

instance neZero_three : NeZero 3 := ⟨by decide⟩

end Numerals

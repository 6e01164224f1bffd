/-
Nav3D.Lib.Decimal — numbers in decimal digits, and integers with a sign
before them.
-/
import Mathlib.Data.Nat.Init

namespace Decimal

theorem isDigit_of_mem {n : Nat} {d : Char} (h : d ∈ Nat.toDigits 10 n) : d.isDigit = true :=
  Nat.isDigit_of_mem_toDigits (by decide) (by decide) h

/-- Every number has a first digit. -/
theorem exists_digit (n : Nat) :
    ∃ d digits, Nat.toDigits 10 n = d :: digits ∧ d.isDigit = true := by
  cases h : Nat.toDigits 10 n with
  | nil => exact absurd h Nat.toDigits_ne_nil
  | cons d digits =>
    refine ⟨d, digits, rfl, ?_⟩
    apply isDigit_of_mem (n := n)
    rw [h]
    exact List.mem_cons_self

/-- The number with these digits. -/
def ofDigits (digits : List Char) : Nat := Nat.ofDigitChars 10 digits 0

@[simp] theorem ofDigits_toDigits (n : Nat) : ofDigits (Nat.toDigits 10 n) = n :=
  Nat.ofDigitChars_ten_toDigits

theorem toDigits_injective {m n : Nat} (h : Nat.toDigits 10 m = Nat.toDigits 10 n) : m = n := by
  calc
    m = ofDigits (Nat.toDigits 10 m) := (ofDigits_toDigits m).symm
    _ = ofDigits (Nat.toDigits 10 n) := by rw [h]
    _ = n := ofDigits_toDigits n

def renderInt (n : Int) : List Char :=
  if n < 0 then '-' :: Nat.toDigits 10 n.natAbs else Nat.toDigits 10 n.natAbs

def parseInt : List Char → Option Int
  | '-' :: digits => some (-(ofDigits digits : Nat))
  | digits => some (ofDigits digits : Nat)

/-- An integer is read back. -/
theorem parseInt_renderInt (n : Int) : parseInt (renderInt n) = some n := by
  unfold renderInt
  split
  · next hneg =>
    rw [parseInt, ofDigits_toDigits]
    congr 1
    omega
  · next hnonneg =>
    have hvalue : ((n.natAbs : Nat) : Int) = n := by omega
    obtain ⟨d, digits, hdigits, hd⟩ := exists_digit n.natAbs
    have hminus : d ≠ '-' := by
      rintro rfl
      cases hd
    rw [hdigits, parseInt, ← hdigits, ofDigits_toDigits, hvalue]
    intro digits' heq
    cases heq
    exact hminus rfl

/-- What is neither a digit nor the sign does not occur. -/
theorem not_mem_renderInt {c : Char} (hdigit : c.isDigit = false) (hsign : c ≠ '-') (n : Int) :
    c ∉ renderInt n := by
  have hdigits : c ∉ Nat.toDigits 10 n.natAbs := by
    intro hmem
    rw [isDigit_of_mem hmem] at hdigit
    cases hdigit
  unfold renderInt
  split
  · simp [hdigits, hsign]
  · exact hdigits

end Decimal

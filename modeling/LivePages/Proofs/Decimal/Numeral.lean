import Mathlib.Logic.Function.Defs
import LivePages.Decimal.Reader

/-!
# Numerals

The text of a natural number is its decimal digits.  It is different for each number, and
a number of 64 bits is read back from it.
-/

namespace LivePages.Decimal

theorem toList_toString (n : Nat) : (toString n).toList = Nat.toDigits 10 n := by
  rw [Nat.toString_eq_repr, Nat.toList_repr]

theorem isDigit_of_mem_toString {n : Nat} {c : Char} (member : c ∈ (toString n).toList) :
    c.isDigit = true := by
  rw [toList_toString] at member
  exact Nat.isDigit_of_mem_toDigits (by decide) (by decide) member

theorem toList_toString_ne_nil (n : Nat) : (toString n).toList ≠ [] := by
  rw [toList_toString]
  exact Nat.toDigits_ne_nil

theorem natOfDigits_toString (n : Nat) : natOfDigits (toString n).toList = n := by
  rw [toList_toString]
  exact Nat.ofDigitChars_toDigits (by decide) (by decide)

theorem toString_injective : Function.Injective (toString : Nat → String) := by
  intro m n same
  calc
    m = natOfDigits (toString m).toList := (natOfDigits_toString m).symm
    _ = natOfDigits (toString n).toList := by rw [same]
    _ = n := natOfDigits_toString n

/-- A number of 64 bits is read back from its digits. -/
theorem readIndex?_toString {n : Nat} (fits : n < UInt64.size) :
    readIndex? (toString n).toList = some n := by
  have digits : (toString n).toList.all Char.isDigit = true :=
    List.all_eq_true.2 fun c member => isDigit_of_mem_toString member
  have isIndex : (toString n).toList ≠ [] ∧ (toString n).toList.all Char.isDigit ∧
      natOfDigits (toString n).toList < 0x10000000000000000 :=
    ⟨toList_toString_ne_nil n, digits, by rwa [natOfDigits_toString]⟩
  rw [readIndex?, if_pos isIndex, natOfDigits_toString]
  -- no digit is a sign
  intro rest signed
  rw [signed] at digits
  exact absurd digits (by simp)

end LivePages.Decimal

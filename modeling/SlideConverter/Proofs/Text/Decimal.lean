import Mathlib.Data.List.Basic
import Mathlib.Data.Nat.Digits.Defs
import SlideConverter.Text.DecimalDigit

/-!
# Numbers in decimal

Digits stand for a number, each for ten times what it would stand for one place further on. A
number is written in ASCII digits without zeros in front, and the digits are read as the number.
-/

namespace SlideConverter.Text

variable {c : Char} {s : List Char} {n : Nat}

theorem isDigit_of_mem_toDigits (there : c ∈ Nat.toDigits 10 n) : c.isDigit = true :=
  Nat.isDigit_of_mem_toDigits (by decide) (by decide) there

theorem toNat_of_isDigit (digit : c.isDigit = true) :
    '0'.toNat ≤ c.toNat ∧ c.toNat ≤ '9'.toNat := by
  simp only [Char.isDigit, Bool.and_eq_true, decide_eq_true_eq] at digit
  exact digit

/-- Only zero begins with the digit zero. -/
theorem eq_zero_of_toDigits (zero : Nat.toDigits 10 n = '0' :: s) : n = 0 := by
  induction n using Nat.strongRecOn generalizing s with
  | ind n ih =>
    rw [Nat.toDigits_eq_if (by decide)] at zero
    split at zero
    · exact Nat.digitChar_eq_zero.mp (List.cons.inj zero).1
    · rename_i large
      obtain ⟨d, rest, front⟩ := List.exists_cons_of_ne_nil
        (Nat.toDigits_ne_nil (n := n / 10) (b := 10))
      rw [front] at zero
      obtain rfl := (List.cons.inj zero).1
      have small := ih (n / 10) (by omega) front
      omega

theorem foldl_toDigits (n : Nat) :
    (Nat.toDigits 10 n).foldl (fun n c => n * 10 + (c.toNat - '0'.toNat)) 0 = n := by
  conv_rhs => rw [← Nat.ofDigitChars_ten_toDigits (n := n), Nat.ofDigitChars]
  refine List.foldl_ext _ _ _ fun n c _ => ?_
  rw [Nat.mul_comm]

/-- The number that digits stand for, the last one for the ones. -/
def decimalValue (digits : List Char) : Nat :=
  Nat.ofDigits 10 (digits.reverse.map fun c => c.toNat - '0'.toNat)

theorem foldl_eq_decimalValue (digits : List Char) :
    digits.foldl (fun n c => n * 10 + (c.toNat - '0'.toNat)) 0 = decimalValue digits := by
  rw [decimalValue, Nat.ofDigits_eq_foldr, List.foldr_map, List.foldr_reverse]
  refine List.foldl_ext _ _ _ fun n c _ => ?_
  rw [Nat.add_comm, Nat.mul_comm]
  rfl

theorem asciiNumber?_of_isDigit {digits : List Char} (nonempty : digits ≠ [])
    (ascii : ∀ c ∈ digits, c.isDigit = true) :
    asciiNumber? digits = some (decimalValue digits) := by
  have some_digits : digits.isEmpty = false := List.isEmpty_eq_false_iff.mpr nonempty
  have all_ascii : digits.all (·.isDigit) = true := List.all_eq_true.mpr ascii
  rw [asciiNumber?, some_digits, all_ascii, foldl_eq_decimalValue]
  rfl

end SlideConverter.Text

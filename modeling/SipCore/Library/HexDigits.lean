/-
Numbers written in hexadecimal, padded with zeros, and read back by a reader that
takes the digits a text begins with, in either case of the letters.
-/

import Mathlib.Data.List.TakeWhile

namespace SipCore.Hex

def digitValue? (char : Char) : Option Nat :=
  if '0' ≤ char ∧ char ≤ '9' then some (char.toNat - 48)
  else if 'a' ≤ char ∧ char ≤ 'f' then some (char.toNat - 87)
  else if 'A' ≤ char ∧ char ≤ 'F' then some (char.toNat - 55)
  else none

def leadingDigits (chars : List Char) : List Char :=
  chars.takeWhile (fun char => (digitValue? char).isSome)

def value (digits : List Char) : Nat :=
  digits.foldl (fun total digit => total * 16 + (digitValue? digit).getD 0) 0

def padded (width number : Nat) : List Char :=
  (Nat.toDigits 16 number).leftpad width '0'

theorem digitValue?_digitChar {digit : Nat} (small : digit < 16) :
    digitValue? digit.digitChar = some digit := by
  have every : ∀ number < 16, digitValue? number.digitChar = some number := by decide
  exact every digit small

theorem value_append_singleton (digits : List Char) (digit : Char) :
    value (digits ++ [digit]) = value digits * 16 + (digitValue? digit).getD 0 := by
  unfold value
  rw [List.foldl_append]
  rfl

theorem value_zeros_append (count : Nat) (digits : List Char) :
    value (List.replicate count '0' ++ digits) = value digits := by
  induction count with
  | zero => rfl
  | succ count ih => exact ih

-- Without its last digit a number of several digits is its sixteenth part.
theorem toDigits_spec (number : Nat) :
    value (Nat.toDigits 16 number) = number ∧
      ∀ digit ∈ Nat.toDigits 16 number, (digitValue? digit).isSome = true := by
  induction number using Nat.strongRecOn with
  | ind number ih =>
      by_cases small : number < 16
      · rw [Nat.toDigits_of_lt_base small]
        have single := digitValue?_digitChar small
        simp [value, single]
      · have last := digitValue?_digitChar (Nat.mod_lt number (by decide : 16 > 0))
        rcases ih (number / 16) (by omega) with ⟨front, digits⟩
        rw [Nat.toDigits_of_base_le (by decide) (Nat.le_of_not_lt small)]
        constructor
        · rw [value_append_singleton, last, Option.getD_some]
          omega
        · intro digit member
          rcases List.mem_append.mp member with before | final
          · exact digits digit before
          · rw [List.mem_singleton.mp final, last]
            rfl

theorem value_padded (width number : Nat) : value (padded width number) = number := by
  unfold padded List.leftpad
  rw [value_zeros_append]
  exact (toDigits_spec number).1

theorem leadingDigits_padded (width number : Nat) :
    leadingDigits (padded width number) = padded width number := by
  apply List.takeWhile_eq_self_iff.mpr
  intro digit member
  rcases List.mem_append.mp member with zero | digits
  · rw [List.eq_of_mem_replicate zero]
    decide
  · exact (toDigits_spec number).2 digit digits

theorem padded_ne_nil (width number : Nat) : padded width number ≠ [] := by
  intro empty
  exact Nat.toDigits_ne_nil (List.append_eq_nil_iff.mp empty).2

end SipCore.Hex

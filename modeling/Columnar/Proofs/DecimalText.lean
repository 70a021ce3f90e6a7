import Columnar.Proofs.OrdinalStrings

set_option autoImplicit false

namespace Columnar

namespace Text

theorem join_eq_intercalate (separator : List Char) (texts : List (List Char)) :
    join separator texts = separator.intercalate texts := by
  induction texts with
  | nil => rfl
  | cons text rest ih =>
    cases rest with
    | nil => simp [join]
    | cons next more =>
      rw [join, ih, List.intercalate_cons_cons]
      simp

theorem digit_char (digit : Nat) (small : digit < 10) :
    (digitChar digit).isDigit = true ∧ (digitChar digit).toNat - 48 = digit := by
  have all : ∀ digit : Fin 10,
      (digitChar digit).isDigit = true ∧ (digitChar digit).toNat - 48 = digit := by decide
  exact all ⟨digit, small⟩

theorem value_append_digit (digits : List Char) (last : Char) :
    value (digits ++ [last]) = value digits * 10 + (last.toNat - 48) := by
  rw [value, List.reverse_append, List.reverse_singleton, List.singleton_append, List.map_cons,
    Nat.ofDigits_cons, ← value]
  omega

theorem decimal_digits (number : Nat) :
    decimal number ≠ [] ∧ (∀ c ∈ decimal number, c.isDigit = true) ∧ value (decimal number) = number := by
  induction number using Nat.strongRecOn with
  | ind number lower =>
    rw [decimal]
    by_cases single : number < 10
    · obtain ⟨isDigit, same⟩ := digit_char number single
      rw [if_pos single]
      exact ⟨by simp, by simpa using isDigit, by simpa [value] using same⟩
    · obtain ⟨_, digits, front⟩ := lower (number / 10) (by omega)
      obtain ⟨isDigit, last⟩ := digit_char (number % 10) (by omega)
      rw [if_neg single, value_append_digit, front, last]
      refine ⟨by simp, fun c member => ?_, by omega⟩
      cases List.mem_append.mp member with
      | inl before => exact digits c before
      | inr here => rw [List.mem_singleton.mp here, isDigit]

theorem decimal_injective (a b : Nat) (same : decimal a = decimal b) : a = b := by
  rw [← (decimal_digits a).2.2, same, (decimal_digits b).2.2]

theorem size_decimal (number : Nat) (small : number < UInt64.size) :
    size? (decimal number) = .ok number := by
  obtain ⟨filled, digits, same⟩ := decimal_digits number
  rw [size_iff]
  exact ⟨[], decimal number, rfl, .inl rfl, filled, digits, same.symm, small⟩

theorem trim_decimal (number : Nat) : trim (decimal number) = decimal number := by
  have digits := (decimal_digits number).2.1
  have seen (c : Char) (member : c ∈ decimal number) : isBlank c = false := by
    have code := Char.isDigit_iff_toNat.mp (digits c member)
    have low : '0'.toNat = 48 := rfl
    have high : '9'.toNat = 57 := rfl
    simp only [isBlank, Bool.or_eq_false_iff, Bool.and_eq_false_iff, decide_eq_false_iff_not,
      beq_eq_false_iff_ne]
    omega
  refine trim_of_trimmed _ _ ⟨[], [], by simp, by simp, by simp, fun c first => ?_, fun c last => ?_⟩
  · exact seen c (List.mem_of_mem_head? first)
  · exact seen c (List.mem_of_mem_getLast? last)

end Text

end Columnar

import WrapperTypings.Binary64.Text
import WrapperTypings.Text.CodePoint

set_option autoImplicit false

namespace WrapperTypings.Text

theorem exists_digitChar_of_mem_toDigits {base value : Nat} (large : 1 < base) {c : Char}
    (member : c ∈ Nat.toDigits base value) : ∃ digit < base, c = digit.digitChar := by
  induction value using Nat.strongRecOn with
  | ind value ih =>
      rw [Nat.toDigits_eq_if large] at member
      split at member
      · rename_i small
        exact ⟨value, small, List.mem_singleton.mp member⟩
      · rename_i notSmall
        rcases List.mem_append.mp member with earlier | last
        · have smaller : value / base < value := Nat.div_lt_self (by omega) large
          exact ih (value / base) smaller earlier
        · exact ⟨value % base, Nat.mod_lt _ (by omega), List.mem_singleton.mp last⟩

theorem isDigit_toDigits (value : Nat) : ∀ c ∈ Nat.toDigits 10 value, c.isDigit = true :=
  fun _ member => Nat.isDigit_of_mem_toDigits (by decide) (by decide) member

@[simp]
theorem digitsValue_toDigits (value : Nat) : Binary64.digitsValue (Nat.toDigits 10 value) = value :=
  Nat.ofDigitChars_ten_toDigits

private theorem digitChar_ne_newline (digit : Nat) : digit.digitChar ≠ '\n' := by
  have small : ∀ digit < 16, Nat.digitChar digit ≠ '\n' := by decide
  by_cases hexadecimal : digit < 16
  · exact small digit hexadecimal
  · rw [Nat.digitChar_eq_star.mpr (by omega)]
    decide

theorem newline_not_mem_toDigits {base value : Nat} (large : 1 < base) :
    '\n' ∉ Nat.toDigits base value := by
  intro member
  obtain ⟨digit, _, same⟩ := exists_digitChar_of_mem_toDigits large member
  exact digitChar_ne_newline digit same.symm

theorem newline_not_mem_hexDigits (width value : Nat) : '\n' ∉ hexDigits width value := by
  have padding : ∀ count, '\n' ∉ List.replicate count '0' := by
    intro count member
    have same := List.eq_of_mem_replicate member
    contradiction
  unfold hexDigits
  intro member
  rcases List.mem_append.mp member with padded | digit
  · exact padding _ padded
  · exact newline_not_mem_toDigits (by decide) digit

theorem hexValue?_digitChar : ∀ digit < 16, hexValue? digit.digitChar = some digit := by
  decide

theorem hexDigits_four {value : Nat} (small : value < 65536) : hexDigits 4 value =
    [Nat.digitChar (value / 4096), Nat.digitChar (value / 256 % 16),
      Nat.digitChar (value / 16 % 16), Nat.digitChar (value % 16)] := by
  have zero : Nat.digitChar 0 = '0' := rfl
  have base : 1 < 16 := by decide
  unfold hexDigits
  rw [Nat.toDigits_eq_if base]
  split
  · have first : value / 4096 = 0 := by omega
    have second : value / 256 % 16 = 0 := by omega
    have third : value / 16 % 16 = 0 := by omega
    have last : value % 16 = value := by omega
    rw [first, second, third, last, zero]
    rfl
  rw [Nat.toDigits_eq_if base]
  split
  · have first : value / 4096 = 0 := by omega
    have second : value / 256 % 16 = 0 := by omega
    have third : value / 16 % 16 = value / 16 := by omega
    rw [first, second, third, zero]
    rfl
  rw [Nat.toDigits_eq_if base]
  split
  · have first : value / 4096 = 0 := by omega
    have second : value / 256 % 16 = value / 16 / 16 := by omega
    rw [first, second, zero]
    rfl
  rw [Nat.toDigits_of_lt_base (by omega)]
  have first : value / 4096 = value / 16 / 16 / 16 := by omega
  have second : value / 256 % 16 = value / 16 / 16 % 16 := by omega
  rw [first, second]
  rfl

end WrapperTypings.Text

import WrapperTypings.Json.Reader
import WrapperTypings.Json.Writer
import WrapperTypings.Proofs.Text.Digits

set_option autoImplicit false

namespace WrapperTypings.Json

open Binary64 (spanDigits digitsValue)
open Text (digitsValue_toDigits isDigit_toDigits)

def Ends (rest : List Char) : Prop :=
  ∀ c others, rest = c :: others → c = ',' ∨ c = '\n'

theorem ends_nil : Ends [] := by
  intro c others same
  cases same

theorem ends_comma (rest : List Char) : Ends (',' :: rest) := by
  intro c others same
  cases same
  exact Or.inl rfl

theorem ends_newline (rest : List Char) : Ends ('\n' :: rest) := by
  intro c others same
  cases same
  exact Or.inr rfl

section
variable {rest : List Char}

theorem Ends.takeWhile_isDigit (ends : Ends rest) : rest.takeWhile Char.isDigit = [] := by
  cases rest with
  | nil => rfl
  | cons c others => rcases ends c others rfl with same | same <;> subst same <;> rfl

theorem Ends.spanFraction (ends : Ends rest) : spanFraction rest = ([], rest) := by
  cases rest with
  | nil => rfl
  | cons c others => rcases ends c others rfl with same | same <;> subst same <;> rfl

theorem Ends.spanExponent (ends : Ends rest) : spanExponent rest = none := by
  cases rest with
  | nil => rfl
  | cons c others => rcases ends c others rfl with same | same <;> subst same <;> rfl

private theorem spanDigits_append {digits : List Char} (all : ∀ c ∈ digits, c.isDigit = true)
    (ends : Ends rest) : spanDigits (digits ++ rest) = (digits, rest) := by
  have dropped : rest.dropWhile Char.isDigit = rest := by
    have whole := List.takeWhile_append_dropWhile (p := Char.isDigit) (l := rest)
    rw [ends.takeWhile_isDigit, List.nil_append] at whole
    exact whole
  unfold spanDigits
  rw [List.takeWhile_append_of_pos all, List.dropWhile_append_of_pos all, ends.takeWhile_isDigit,
    dropped, List.append_nil]

private theorem toDigits_head {value : Nat} (positive : 0 < value) :
    ∃ first others, Nat.toDigits 10 value = first :: others ∧ first ≠ '0' := by
  induction value using Nat.strongRecOn with
  | ind value ih =>
      rw [Nat.toDigits_eq_if (by decide)]
      split
      · refine ⟨_, _, rfl, ?_⟩
        rw [Ne, Nat.digitChar_eq_zero]
        omega
      · obtain ⟨first, others, written, nonzero⟩ := ih (value / 10) (by omega) (by omega)
        rw [written]
        exact ⟨first, others ++ [Nat.digitChar (value % 10)], rfl, nonzero⟩

private theorem spanWhole_toDigits (value : Nat) (ends : Ends rest) :
    spanWhole (Nat.toDigits 10 value ++ rest) = (Nat.toDigits 10 value, rest) := by
  by_cases zero : value = 0
  · subst zero
    rfl
  · obtain ⟨first, others, written, nonzero⟩ := toDigits_head (Nat.pos_of_ne_zero zero)
    have all := isDigit_toDigits value
    rw [written] at all ⊢
    rw [List.cons_append, spanWhole, ← List.cons_append]
    · exact spanDigits_append all ends
    · intro _ same
      exact nonzero (List.cons.inj same).1

def IsShort (value : Int) : Prop :=
  (Nat.toDigits 10 value.natAbs).length ≤ integerDigitLimit

instance (value : Int) : Decidable (IsShort value) :=
  inferInstanceAs (Decidable (_ ≤ _))

private theorem readUnsigned_toDigits (negative : Bool) (start : List Char) {value : Nat}
    (short : (Nat.toDigits 10 value).length ≤ integerDigitLimit) (ends : Ends rest) :
    readUnsigned negative start (Nat.toDigits 10 value ++ rest) =
      .ok (.int (if negative then -(value : Int) else value), rest) := by
  have nonempty : (Nat.toDigits 10 value).isEmpty = false := by
    rw [List.isEmpty_eq_false_iff]
    exact Nat.toDigits_ne_nil
  unfold readUnsigned
  rw [spanWhole_toDigits value ends]
  simp only [nonempty, ends.spanFraction, ends.spanExponent, digitsValue_toDigits,
    Nat.not_lt.mpr short, Bool.false_eq_true, if_false, List.isEmpty_nil, if_true]

private theorem takeWord?_cons_of_ne {word : String} {c first : Char} {others : List Char}
    (spelled : word.toList = first :: others) (other : c ≠ first) (text : List Char) :
    takeWord? word (c :: text) = none := by
  unfold takeWord?
  rw [spelled, if_neg]
  rw [List.isPrefixOf_iff_prefix, List.cons_prefix_cons]
  exact fun both => other both.1.symm

@[simp] private theorem takeWord?_self (word : String) :
    takeWord? word (word.toList ++ rest) = some rest := by
  unfold takeWord?
  rw [if_pos (List.isPrefixOf_iff_prefix.mpr (List.prefix_append _ _)), List.drop_left]

theorem readScalar_null (rest : List Char) :
    readScalar ("null".toList ++ rest) = .ok (.null, rest) := by
  unfold readScalar
  rw [takeWord?_self]

theorem readScalar_bool (value : Bool) (rest : List Char) :
    readScalar ((if value then "true" else "false").toList ++ rest) = .ok (.bool value, rest) := by
  unfold readScalar
  cases value with
  | true =>
      rw [if_pos rfl, takeWord?_self]
      rfl
  | false =>
      rw [if_neg (by decide), takeWord?_self]
      rfl

theorem ne_of_isDigit {c other : Char} (digit : c.isDigit = true)
    (foreign : other.isDigit = false) : c ≠ other := by
  intro same
  rw [same, foreign] at digit
  contradiction

theorem toList_toString_int (value : Int) : (toString value).toList =
    if value < 0 then '-' :: Nat.toDigits 10 value.natAbs else Nat.toDigits 10 value.natAbs := by
  rw [Int.toString_eq_repr, Int.repr_eq_if]
  split
  · rename_i nonnegative
    have magnitude : value.toNat = value.natAbs := by omega
    rw [if_neg (by omega), Nat.toList_repr, magnitude]
  · rename_i negative
    have magnitude : (-value).toNat = value.natAbs := by omega
    rw [if_pos (by omega), String.toList_append, Nat.toList_repr, magnitude]
    rfl

theorem readScalar_int {value : Int} (short : IsShort value) (ends : Ends rest) :
    readScalar ((toString value).toList ++ rest) = .ok (.int value, rest) := by
  obtain ⟨first, others, written⟩ : ∃ first others,
      Nat.toDigits 10 value.natAbs = first :: others :=
    List.exists_cons_of_ne_nil Nat.toDigits_ne_nil
  have digit : first.isDigit = true :=
    isDigit_toDigits value.natAbs first (written ▸ List.mem_cons_self)
  rw [toList_toString_int]
  by_cases negative : value < 0
  · rw [if_pos negative]
    have magnitude : -(value.natAbs : Int) = value := by omega
    have infinity : takeWord? "-Infinity" ('-' :: Nat.toDigits 10 value.natAbs ++ rest) = none := by
      unfold takeWord?
      rw [written, if_neg]
      rw [List.isPrefixOf_iff_prefix]
      intro opens
      have second := (List.cons_prefix_cons.mp (List.cons_prefix_cons.mp opens).2).1
      exact ne_of_isDigit digit rfl second.symm
    unfold readScalar
    rw [infinity, List.cons_append, takeWord?_cons_of_ne rfl (by decide),
      takeWord?_cons_of_ne rfl (by decide), takeWord?_cons_of_ne rfl (by decide),
      takeWord?_cons_of_ne rfl (by decide), takeWord?_cons_of_ne rfl (by decide)]
    simp only
    rw [readUnsigned_toDigits true _ short ends, if_pos rfl, magnitude]
  · rw [if_neg negative]
    have magnitude : (value.natAbs : Int) = value := by omega
    have read := readUnsigned_toDigits false (Nat.toDigits 10 value.natAbs ++ rest) short ends
    rw [if_neg (by decide), magnitude, written, List.cons_append] at read
    unfold readScalar
    rw [written, List.cons_append, takeWord?_cons_of_ne rfl (ne_of_isDigit digit rfl),
      takeWord?_cons_of_ne rfl (ne_of_isDigit digit rfl),
      takeWord?_cons_of_ne rfl (ne_of_isDigit digit rfl),
      takeWord?_cons_of_ne rfl (ne_of_isDigit digit rfl),
      takeWord?_cons_of_ne rfl (ne_of_isDigit digit rfl),
      takeWord?_cons_of_ne rfl (ne_of_isDigit digit rfl)]
    simp only
    split
    · rename_i same
      exact absurd (List.cons.inj same).1 (ne_of_isDigit digit rfl)
    · exact read

end

end WrapperTypings.Json

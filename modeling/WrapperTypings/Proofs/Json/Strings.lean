import Mathlib.Tactic.SplitIfs
import WrapperTypings.Json.Reader
import WrapperTypings.Json.Writer
import WrapperTypings.Proofs.Text.Digits

set_option autoImplicit false

namespace WrapperTypings.Json

open Text (Point isHighSurrogate isLowSurrogate pairChar units hexDigits)

private theorem hexFour?_hexDigits {code : Nat} (small : code < 65536) {a b c d : Char}
    (written : hexDigits 4 code = [a, b, c, d]) : hexFour? a b c d = some code := by
  rw [Text.hexDigits_four small] at written
  cases written
  unfold hexFour?
  rw [Text.hexValue?_digitChar _ (by omega), Text.hexValue?_digitChar _ (by omega),
    Text.hexValue?_digitChar _ (by omega), Text.hexValue?_digitChar _ (by omega)]
  have total : ((code / 4096 * 16 + code / 256 % 16) * 16 + code / 16 % 16) * 16 + code % 16 =
      code := by omega
  exact congrArg some total

section
variable (start : Nat) (done : List Point)

private theorem readString_simple {letter plain : Char} (short : simpleEscape? letter = some plain)
    (other : letter ≠ 'u') (rest : List Char) :
    readString start done ('\\' :: letter :: rest) = readString start (.char plain :: done) rest := by
  rw [readString, short]
  · intro _ _ _ _ _ _ _ _ _ _ same
    exact absurd same other
  · intro _ _ _ _ _ _ same
    exact absurd same other
  · exact other

private theorem readString_plain {c : Char} (quote : c ≠ '"') (backslash : c ≠ '\\')
    (shown : 0x20 ≤ c.toNat) (rest : List Char) :
    readString start done (c :: rest) = readString start (.char c :: done) rest := by
  have printable : ¬c.toNat < 0x20 := by omega
  rw [readString, if_neg printable]
  · exact quote
  · intro _ _ _ _ _ _ _ _ _ _ same
    exact absurd same backslash
  · intro _ _ _ _ _ _ same
    exact absurd same backslash
  · intro _ same
    exact absurd same backslash
  · intro _ _ same
    exact absurd same backslash
  · intro same
    exact absurd same backslash

private theorem readString_unit {code : Nat} (small : code < 65536)
    (single : isHighSurrogate code = false) (next : Char) (rest : List Char) :
    readString start done (unitEscape code ++ next :: rest) =
      readString start (.ofCode code :: done) (next :: rest) := by
  obtain ⟨a, b, c, d, written⟩ : ∃ a b c d, hexDigits 4 code = [a, b, c, d] :=
    ⟨_, _, _, _, Text.hexDigits_four small⟩
  have digits := hexFour?_hexDigits small written
  unfold unitEscape
  rw [written]
  simp only [List.cons_append, List.nil_append]
  by_cases escape : ∃ e f g h after others,
      next = '\\' ∧ rest = 'u' :: e :: f :: g :: h :: after :: others
  · obtain ⟨e, f, g, h, after, others, isEscape, same⟩ := escape
    subst isEscape same
    rw [readString, digits]
    simp only [single, Bool.false_eq_true, if_false]
  · rw [readString, digits]
    intro e f g h after others isEscape same
    exact escape ⟨e, f, g, h, after, others, isEscape, same⟩

private theorem readString_pair {high low : Nat} (isHigh : isHighSurrogate high = true)
    (isLow : isLowSurrogate low = true) (next : Char) (rest : List Char) :
    readString start done (unitEscape high ++ (unitEscape low ++ next :: rest)) =
      readString start (.char (pairChar high low) :: done) (next :: rest) := by
  have highSmall : high < 65536 := by
    simp only [isHighSurrogate, Bool.and_eq_true, decide_eq_true_eq] at isHigh
    omega
  have lowSmall : low < 65536 := by
    simp only [isLowSurrogate, Bool.and_eq_true, decide_eq_true_eq] at isLow
    omega
  obtain ⟨a, b, c, d, written⟩ : ∃ a b c d, hexDigits 4 high = [a, b, c, d] :=
    ⟨_, _, _, _, Text.hexDigits_four highSmall⟩
  obtain ⟨e, f, g, h, lowWritten⟩ : ∃ e f g h, hexDigits 4 low = [e, f, g, h] :=
    ⟨_, _, _, _, Text.hexDigits_four lowSmall⟩
  have digits := hexFour?_hexDigits highSmall written
  have lowDigits := hexFour?_hexDigits lowSmall lowWritten
  unfold unitEscape
  rw [written, lowWritten]
  simp only [List.cons_append, List.nil_append]
  rw [readString, digits]
  simp only [isHigh, lowDigits, isLow, if_true]

end

private theorem ofCode_toNat (c : Char) : Point.ofCode c.toNat = .char c := by
  have valid := c.valid
  unfold Point.ofCode
  rw [if_neg, Char.ofNat_toNat]
  intro surrogate
  rw [Bool.and_eq_true, decide_eq_true_eq, decide_eq_true_eq] at surrogate
  have bounds : c.toNat < 0xD800 ∨ 0xDFFF < c.toNat ∧ c.toNat < 0x110000 := valid
  omega

private theorem pairChar_units {c : Char} (astral : 0x10000 ≤ c.toNat) :
    pairChar (0xD800 + (c.toNat - 0x10000) / 0x400) (0xDC00 + (c.toNat - 0x10000) % 0x400) = c := by
  have total : 0x10000 + (0xD800 + (c.toNat - 0x10000) / 0x400 - 0xD800) * 0x400 +
      (0xDC00 + (c.toNat - 0x10000) % 0x400 - 0xDC00) = c.toNat := by omega
  unfold pairChar
  rw [total, Char.ofNat_toNat]

private theorem readString_units (start : Nat) (done : List Point) (c next : Char)
    (rest : List Char) :
    readString start done ((units c).flatMap unitEscape ++ next :: rest) =
      readString start (.char c :: done) (next :: rest) := by
  have bounds : c.toNat < 0xD800 ∨ 0xDFFF < c.toNat ∧ c.toNat < 0x110000 := c.valid
  unfold units
  split
  · rename_i small
    have single : isHighSurrogate c.toNat = false := by
      rw [Bool.eq_false_iff]
      intro surrogate
      simp only [isHighSurrogate, Bool.and_eq_true, decide_eq_true_eq] at surrogate
      omega
    rw [List.flatMap_singleton, readString_unit start done small single, ofCode_toNat]
  · rename_i large
    have isHigh : isHighSurrogate (0xD800 + (c.toNat - 0x10000) / 0x400) = true := by
      simp only [isHighSurrogate, Bool.and_eq_true, decide_eq_true_eq]
      omega
    have isLow : isLowSurrogate (0xDC00 + (c.toNat - 0x10000) % 0x400) = true := by
      simp only [isLowSurrogate, Bool.and_eq_true, decide_eq_true_eq]
      omega
    rw [List.flatMap_cons, List.flatMap_singleton, List.append_assoc,
      readString_pair start done isHigh isLow, pairChar_units (by omega)]

private theorem readString_writeChar (start : Nat) (done : List Point) (c next : Char)
    (rest : List Char) :
    readString start done (writeChar c ++ next :: rest) =
      readString start (.char c :: done) (next :: rest) := by
  unfold writeChar
  split_ifs with quote backslash newline carriage tab feed back shown
  · subst quote
    exact readString_simple start done rfl (by decide) _
  · subst backslash
    exact readString_simple start done rfl (by decide) _
  · subst newline
    exact readString_simple start done rfl (by decide) _
  · subst carriage
    exact readString_simple start done rfl (by decide) _
  · subst tab
    exact readString_simple start done rfl (by decide) _
  · subst feed
    exact readString_simple start done rfl (by decide) _
  · subst back
    exact readString_simple start done rfl (by decide) _
  · rw [Bool.and_eq_true, decide_eq_true_eq, decide_eq_true_eq] at shown
    exact readString_plain start done quote backslash shown.1 _
  · exact readString_units start done c next rest

private theorem readString_flatMap_writeChar (start : Nat) (done : List Point)
    (text rest : List Char) :
    readString start done (text.flatMap writeChar ++ '"' :: rest) =
      .ok (Text.ofPoints (done.reverse ++ text.map Point.char), rest) := by
  induction text generalizing done with
  | nil => rw [List.flatMap_nil, List.nil_append, readString, List.map_nil, List.append_nil]
  | cons c text ih =>
      have begins : ∃ next others, text.flatMap writeChar ++ '"' :: rest = next :: others := by
        cases text.flatMap writeChar with
        | nil => exact ⟨_, _, rfl⟩
        | cons next others => exact ⟨_, _, rfl⟩
      obtain ⟨next, others, same⟩ := begins
      rw [List.flatMap_cons, List.append_assoc, same, readString_writeChar, ← same, ih,
        List.reverse_cons, List.append_assoc, List.singleton_append, List.map_cons]

theorem readString_writeString (start : Nat) {value : String} (scalar : Text.isScalar value = true)
    (rest : List Char) :
    readString start [] ((Text.points value).flatMap writePoint ++ '"' :: rest) =
      .ok (value, rest) := by
  obtain ⟨chars, rfl⟩ := Text.exists_of_isScalar scalar
  rw [Text.points_ofPoints, List.flatMap_map]
  exact readString_flatMap_writeChar start [] chars rest

end WrapperTypings.Json

import WrapperTypings.Proofs.Text.Dotted
import WrapperTypings.Yaml.ScalarValue

set_option autoImplicit false

namespace WrapperTypings.Yaml

open Text (IsDotted IsRun)

section
variable {digits fraction text : List Char}

private theorem not_mem_words (dotted : IsDotted text) {words : List String}
    (noDigit : words.any (fun word => word.toList.head?.any Char.isDigit) = false) :
    words.contains (String.ofList text) = false := by
  rw [← Bool.not_eq_true, List.contains_iff_mem]
  exact fun member => dotted.ofList_ne (Bool.eq_false_iff.mpr (List.any_eq_false.mp noDigit _ member)) rfl

private theorem unsigned_dotted (dotted : IsDotted text) : Tag.unsigned text = text := by
  unfold Tag.unsigned
  split
  · exact absurd rfl (dotted.ne_cons (by decide) _)
  · exact absurd rfl (dotted.ne_cons (by decide) _)
  · rfl

private theorem withoutFinalNewline_dotted (dotted : IsDotted text) :
    Tag.withoutFinalNewline text = text := by
  refine if_neg (fun last => ?_)
  exact dotted.not_mem (by decide) (by decide) (List.mem_of_getLast? last)

private theorem looksPlain_dotted (dotted : IsDotted text) : Timestamp.looksPlain text = false := by
  have noDash : ∀ c ∈ text, decide (c ≠ '-') = true := by
    intro c member
    refine decide_eq_true (fun dash => ?_)
    exact dotted.not_mem (by decide) (by decide) (dash ▸ member)
  have whole : cut '-' text = (text, []) := by
    unfold cut
    rw [List.takeWhile_eq_self_iff.mpr noDash, List.dropWhile_eq_nil_iff.mpr noDash]
    rfl
  have none : Timestamp.ofText? text = none := by
    unfold Timestamp.ofText?
    rw [whole]
    dsimp only
    cases shortNumber? 4 4 text <;> rfl
  unfold Timestamp.looksPlain
  rw [none]

private theorem ofPlain_dotted (dotted : IsDotted text) : Tag.ofPlain (String.ofList text) =
    if Tag.looksFloat text then .float else if Tag.looksInt text then .int else .string := by
  unfold Tag.ofPlain
  dsimp only
  rw [String.toList_ofList, withoutFinalNewline_dotted dotted, if_neg (dotted.ofList_ne (by decide)),
    not_mem_words dotted (by decide : Tag.boolWords.any _ = false), if_neg Bool.false_ne_true,
    not_mem_words dotted (by decide : Tag.nullWords.any _ = false), looksPlain_dotted dotted,
    not_mem_words dotted (by decide : ["!", "&", "*"].any _ = false), if_neg (dotted.ofList_ne (by decide)),
    if_neg (dotted.ofList_ne (by decide)), if_neg Bool.false_ne_true, if_neg Bool.false_ne_true,
    if_neg Bool.false_ne_true]

private theorem isNumeral_run (run : IsRun digits) : Tag.isNumeral digits = true := by
  obtain ⟨c, rest, rfl, digit⟩ := run.begins
  rw [Tag.isNumeral, digit, Bool.true_and, List.all_eq_true]
  intro d member
  rw [Tag.isDigitOrUnderscore, run.each d (List.mem_cons_of_mem c member), Bool.true_or]

private theorem looksFloat_run (run : IsRun digits) : Tag.looksFloat digits = false := by
  unfold Tag.looksFloat
  dsimp only
  rw [unsigned_dotted run.dotted, List.dropWhile_eq_nil_iff.mpr run.ne_point]

private theorem looksFloat_append (run : IsRun digits)
    (behind : ∀ c ∈ text, c.isDigit = true ∨ c = '.') :
    Tag.looksFloat (digits ++ '.' :: text) = Tag.isFraction text := by
  have before : (digits ++ '.' :: text).takeWhile (· ≠ '.') = digits := by
    rw [List.takeWhile_append_of_pos run.ne_point]
    simp
  have after : (digits ++ '.' :: text).dropWhile (· ≠ '.') = '.' :: text := by
    rw [List.dropWhile_append_of_pos run.ne_point]
    simp
  unfold Tag.looksFloat
  dsimp only
  rw [unsigned_dotted (run.dotted_append behind), before, after]
  dsimp only
  rw [if_neg (by simpa using run.filled), if_pos (isNumeral_run run)]

private theorem isDigitOrUnderscore_run (run : IsRun digits) :
    ∀ c ∈ digits, Tag.isDigitOrUnderscore c = true := by
  intro c member
  rw [Tag.isDigitOrUnderscore, run.each c member, Bool.true_or]

private theorem isFraction_run (run : IsRun digits) : Tag.isFraction digits = true := by
  rw [Tag.isFraction, List.dropWhile_eq_nil_iff.mpr (isDigitOrUnderscore_run run)]
  rfl

private theorem isFraction_append (run : IsRun digits) (text : List Char) :
    Tag.isFraction (digits ++ '.' :: text) = false := by
  rw [Tag.isFraction, List.dropWhile_append_of_pos (isDigitOrUnderscore_run run)]
  cases text <;> rfl

def isOctal (digits : List Char) : Bool :=
  digits.head? == some '0' && digits.all (fun c => '0' ≤ c && c ≤ '7')

private theorem head?_ne_zero (noZero : ∀ rest, digits = '0' :: rest → False) :
    digits.head? ≠ some '0' := by
  intro zero
  cases digits with
  | nil => cases zero
  | cons c rest =>
      cases zero
      exact noZero rest rfl

private theorem looksInt_run (run : IsRun digits) :
    Tag.looksInt digits = (digits.head? != some '0' || isOctal digits) := by
  have noUnderscore : ∀ c ∈ digits, c ≠ '_' := by
    rintro c member rfl
    have digit := run.each _ member
    cases digit
  unfold Tag.looksInt
  rw [unsigned_dotted run.dotted]
  split
  · exact absurd rfl run.filled
  · rfl
  · have letter := run.each 'b' (List.mem_cons_of_mem _ List.mem_cons_self)
    cases letter
  · have letter := run.each 'x' (List.mem_cons_of_mem _ List.mem_cons_self)
    cases letter
  · rename_i rest _ _ _
    have octal : rest.all (fun c => ('0' ≤ c && c ≤ '7') || c = '_') =
        rest.all (fun c => '0' ≤ c && c ≤ '7') := by
      rw [Bool.eq_iff_iff, List.all_eq_true, List.all_eq_true]
      refine forall₂_congr (fun c member => ?_)
      rw [decide_eq_false (noUnderscore c (List.mem_cons_of_mem _ member)), Bool.or_false]
    simp [isOctal, octal]
  · rename_i noZero
    have different := head?_ne_zero noZero
    simp [isNumeral_run run, different]

private theorem looksInt_append (run : IsRun digits)
    (behind : ∀ c ∈ text, c.isDigit = true ∨ c = '.') :
    Tag.looksInt (digits ++ '.' :: text) = false := by
  have dotted := run.dotted_append behind
  have point : '.' ∈ digits ++ '.' :: text := List.mem_append_right _ List.mem_cons_self
  generalize digits ++ '.' :: text = body at dotted point
  unfold Tag.looksInt
  rw [unsigned_dotted dotted]
  split
  · cases point
  · simp at point
  · exact absurd (List.mem_cons_of_mem _ List.mem_cons_self)
      (dotted.not_mem (by decide : 'b'.isDigit = false) (by decide))
  · exact absurd (List.mem_cons_of_mem _ List.mem_cons_self)
      (dotted.not_mem (by decide : 'x'.isDigit = false) (by decide))
  · rename_i rest _ _ _
    have inRest : '.' ∈ rest := (List.mem_cons.mp point).resolve_left (by decide)
    rw [List.all_eq_false]
    exact ⟨'.', inRest, by decide⟩
  · have noNumeral : Tag.isNumeral body = false := by
      obtain ⟨c, rest, rfl, digit⟩ := dotted.begins
      have inRest : '.' ∈ rest := by
        refine (List.mem_cons.mp point).resolve_left ?_
        rintro rfl
        cases digit
      rw [Tag.isNumeral, digit, Bool.true_and, List.all_eq_false]
      exact ⟨'.', inRest, by decide⟩
    have noSixties : Tag.isSixties body = false := by
      unfold Tag.isSixties
      rw [Text.parts_of_not_mem (dotted.not_mem (by decide : ':'.isDigit = false) (by decide))]
    rw [noNumeral, noSixties]
    rfl

private theorem toNat_lt_dotted (dotted : IsDotted text) : ∀ c ∈ text, c.toNat < 128 := by
  intro c member
  rcases dotted.chars c member with digit | rfl
  · exact Nat.lt_of_le_of_lt (Text.digit_bounds digit).2 (by decide)
  · decide

private theorem lower_dotted (dotted : IsDotted text) :
    Text.lower (String.ofList text) = String.ofList text := by
  have each (before : List Char) : ∀ text : List Char, (∀ c ∈ text, c.toNat < 128 ∧ c.toLower = c) →
      Text.lowerFrom before text = text := by
    intro text
    induction text generalizing before with
    | nil => exact fun _ => rfl
    | cons c rest ih =>
        intro plain
        obtain ⟨⟨ascii, same⟩, later⟩ := List.forall_mem_cons.mp plain
        rw [Text.lowerFrom, ih _ later, if_pos ascii, same]
        rfl
  rw [Text.lower, String.toList_ofList,
    each [] text (fun c member => ⟨toNat_lt_dotted dotted c member, dotted.toLower c member⟩)]

private theorem withoutUnderscores_dotted (dotted : IsDotted text) :
    withoutUnderscores (String.ofList text) = text := by
  unfold withoutUnderscores
  rw [String.toList_ofList, List.filter_eq_self]
  intro c member
  refine decide_eq_true (fun same => ?_)
  exact dotted.not_mem (by decide) (by decide) (same ▸ member)

private theorem map_plainDigit_dotted (dotted : IsDotted text) : text.map Text.plainDigit = text :=
  (List.map_congr_left (fun c member => if_pos (toNat_lt_dotted dotted c member))).trans
    (List.map_id text)

private theorem signed_dotted (dotted : IsDotted text) : signed text = (false, text) := by
  unfold signed
  split
  · exact absurd rfl (dotted.ne_cons (by decide) _)
  · exact absurd rfl (dotted.ne_cons (by decide) _)
  · rfl

def valueIn (base : Nat) (digits : List Char) : Nat :=
  digits.foldl (fun value c => base * value + (c.toNat - 48)) 0

private theorem withoutBase_run {base : Nat} (run : IsRun digits)
    (noDigit : (baseLetter? base).any Char.isDigit = false) :
    withoutBase base digits = digits := by
  unfold withoutBase
  split
  · rename_i c rest
    have digit := run.each c (List.mem_cons_of_mem _ List.mem_cons_self)
    refine if_neg (fun letter => ?_)
    rw [Text.toLower_of_isDigit digit] at letter
    rw [letter] at noDigit
    exact Bool.false_ne_true (noDigit.symm.trans digit)
  · rfl

private theorem digitIn?_of_isDigit {base : Nat} {c : Char} (digit : c.isDigit = true)
    (small : c.toNat - 48 < base) : digitIn? base c = some (c.toNat - 48) := by
  simp only [Char.isDigit, Bool.and_eq_true, decide_eq_true_eq, ge_iff_le] at digit
  have decimal : ('0' ≤ c && c ≤ '9') = true := by
    rw [Bool.and_eq_true, decide_eq_true_eq, decide_eq_true_eq]
    exact digit
  rw [digitIn?, Text.hexValue?, if_pos decimal, Option.filter_some, if_pos (decide_eq_true small)]

private theorem readInteger_run {base : Nat} (run : IsRun digits)
    (noDigit : (baseLetter? base).any Char.isDigit = false)
    (small : ∀ c ∈ digits, c.toNat - 48 < base) (short : digits.length ≤ integerDigitLimit) :
    readInteger base digits = .ok (valueIn base digits : Nat) := by
  have values : digits.mapM (digitIn? base) = some (digits.map (fun c => c.toNat - 48)) := by
    have each : ∀ c ∈ digits, digitIn? base c = some (c.toNat - 48) := fun c member =>
      digitIn?_of_isDigit (run.each c member) (small c member)
    -- What is known of all digits together does not hold of the rest of them.
    clear run noDigit small short
    induction digits with
    | nil => rfl
    | cons c rest ih =>
        obtain ⟨here, later⟩ := List.forall_mem_cons.mp each
        rw [List.mapM_cons, here, ih later]
        rfl
  have total : (digits.map (fun c => c.toNat - 48)).foldl (fun value digit => value * base + digit) 0 =
      valueIn base digits := by
    rw [List.foldl_map, valueIn]
    simp only [Nat.mul_comm]
  unfold readInteger
  rw [run.dotted.trim, map_plainDigit_dotted run.dotted, signed_dotted run.dotted]
  dsimp only
  rw [withoutBase_run run noDigit, values]
  dsimp only
  rw [if_neg (by simpa using run.filled), if_neg (by simp [short]), total]
  rfl

private theorem intValue_run (run : IsRun digits) :
    intValue (String.ofList digits) = readInteger (if digits.head? = some '0' then 8 else 10) digits := by
  have noColon : digits.contains ':' = false := by
    rw [List.contains_eq_mem, decide_eq_false_iff_not]
    exact run.dotted.not_mem (by decide) (by decide)
  unfold intValue
  rw [withoutUnderscores_dotted run.dotted]
  split
  · exact absurd rfl run.filled
  · rw [signed_dotted run.dotted]
    dsimp only
    have same (read : Except Fault Int) :
        (read >>= fun value => .ok (if false = true then -value else value)) = read := by
      cases read <;> rfl
    split
    · exact absurd rfl run.filled
    · have zero : readInteger 8 ['0'] = .ok (valueIn 8 ['0'] : Nat) :=
        readInteger_run run (by decide) (List.forall_mem_singleton.mpr (by decide)) (by decide)
      exact zero.symm
    · have letter := run.each 'b' (List.mem_cons_of_mem _ List.mem_cons_self)
      cases letter
    · have letter := run.each 'x' (List.mem_cons_of_mem _ List.mem_cons_self)
      cases letter
    · exact same _
    · rename_i noZero
      rw [noColon, if_neg Bool.false_ne_true, if_neg (head?_ne_zero noZero)]
      exact same _

private theorem ofText?_dotted (dotted : IsDotted text) :
    Binary64.ofText? text = Binary64.ofUnsigned? false text := by
  have plain : text.map Char.toLower = text :=
    (List.map_congr_left dotted.toLower).trans (List.map_id text)
  have noWord {other : String} (noDigit : other.toList.head?.any Char.isDigit = false) :
      decide (String.ofList text = other) = false :=
    decide_eq_false (dotted.ofList_ne noDigit)
  unfold Binary64.ofText?
  split
  rename_i negative body shape
  have same : (negative, body) = (false, text) := by
    rw [← shape]
    split
    · exact absurd rfl (dotted.ne_cons (by decide) _)
    · exact absurd rfl (dotted.ne_cons (by decide) _)
    · rfl
  cases same
  dsimp only
  rw [plain, noWord (by decide), noWord (by decide), if_neg (by decide),
    if_neg (dotted.ofList_ne (by decide))]

private theorem ofUnsigned?_append (run : IsRun digits) (behind : IsRun fraction) :
    Binary64.ofUnsigned? false (digits ++ '.' :: fraction) = some (Binary64.ofDecimal false
      (Binary64.digitsValue (digits ++ fraction)) (-(fraction.length : Int))) := by
  have whole : Binary64.spanDigits (digits ++ '.' :: fraction) = (digits, '.' :: fraction) := by
    rw [Binary64.spanDigits, List.takeWhile_append_of_pos run.each,
      List.dropWhile_append_of_pos run.each]
    simp
  have rest : Binary64.spanDigits fraction = (fraction, []) := by
    rw [Binary64.spanDigits, List.takeWhile_eq_self_iff.mpr behind.each,
      List.dropWhile_eq_nil_iff.mpr behind.each]
  unfold Binary64.ofUnsigned?
  rw [whole]
  simp [rest, run.filled, Binary64.exponentValue?]

private theorem floatValue_append (run : IsRun digits) (behind : IsRun fraction) :
    floatValue (String.ofList (digits ++ '.' :: fraction)) = .ok (Binary64.ofDecimal false
      (Binary64.digitsValue (digits ++ fraction)) (-(fraction.length : Int))) := by
  have dotted := run.dotted_append (fun c member => .inl (behind.each c member))
  have noColon : (digits ++ '.' :: fraction).contains ':' = false := by
    rw [List.contains_eq_mem, decide_eq_false_iff_not]
    exact dotted.not_mem (by decide) (by decide)
  have read : readFloat (digits ++ '.' :: fraction) = .ok (Binary64.ofDecimal false
      (Binary64.digitsValue (digits ++ fraction)) (-(fraction.length : Int))) := by
    rw [readFloat, dotted.trim, map_plainDigit_dotted dotted, ofText?_dotted dotted,
      ofUnsigned?_append run behind]
  unfold floatValue
  rw [withoutUnderscores_dotted dotted, lower_dotted dotted, String.toList_ofList]
  split
  · rename_i nothing
    exact absurd nothing (dotted.ne_of_head rfl)
  · rw [signed_dotted dotted]
    dsimp only
    rw [if_neg (dotted.ofList_ne (by decide)), if_neg (dotted.ofList_ne (by decide)), noColon,
      if_neg Bool.false_ne_true, read]
    simp only [bind, Except.bind, Bool.false_eq_true, if_false]

end

def runsValue : List (List Char) → Value
  | [digits] =>
      if digits.head? = some '0' then
        if isOctal digits then .int (valueIn 8 digits : Nat) else .string (String.ofList digits)
      else .int (valueIn 10 digits : Nat)
  | [whole, fraction] =>
      .float (Binary64.ofDecimal false (Binary64.digitsValue (whole ++ fraction))
        (-(fraction.length : Int)))
  | runs => .string (String.ofList (['.'].intercalate runs))

private theorem scalarValue_run {digits : List Char} (run : IsRun digits)
    (short : digits.length ≤ integerDigitLimit) :
    scalarValue (Tag.ofPlain (String.ofList digits)) (String.ofList digits) = .ok (runsValue [digits]) := by
  rw [ofPlain_dotted run.dotted, looksFloat_run run, looksInt_run run, runsValue]
  -- Behind a leading zero the digits are read in base eight, if they are digits of that base.
  by_cases zero : digits.head? = some '0'
  · cases octal : isOctal digits with
    | false =>
        rw [zero]
        rfl
    | true =>
        have small : ∀ c ∈ digits, c.toNat - 48 < 8 := by
          intro c member
          rw [isOctal, Bool.and_eq_true, List.all_eq_true] at octal
          have range := octal.2 c member
          rw [Bool.and_eq_true, decide_eq_true_eq, decide_eq_true_eq] at range
          have high : c.toNat ≤ 55 := range.2
          omega
        have read : intValue (String.ofList digits) = .ok (valueIn 8 digits : Nat) := by
          rw [intValue_run run, if_pos zero]
          exact readInteger_run run (by decide) small short
        simp [zero, scalarValue, read]
  · have small : ∀ c ∈ digits, c.toNat - 48 < 10 := by
      intro c member
      obtain ⟨_, high⟩ := Text.digit_bounds (run.each c member)
      omega
    have read : intValue (String.ofList digits) = .ok (valueIn 10 digits : Nat) := by
      rw [intValue_run run, if_neg zero]
      exact readInteger_run run (by decide) small short
    simp [zero, scalarValue, read]

/-- Runs of digits with points between them denote a number or themselves. -/
theorem scalarValue_runs {runs : List (List Char)} (filled : runs ≠ []) (each : ∀ run ∈ runs, IsRun run)
    (short : ∀ run ∈ runs, run.length ≤ integerDigitLimit) :
    scalarValue (Tag.ofPlain (String.ofList (['.'].intercalate runs)))
      (String.ofList (['.'].intercalate runs)) = .ok (runsValue runs) := by
  cases runs with
  | nil => contradiction
  | cons whole others =>
      obtain ⟨run, later⟩ := List.forall_mem_cons.mp each
      cases others with
      | nil =>
          rw [List.intercalate_singleton]
          exact scalarValue_run run (short whole List.mem_cons_self)
      | cons fraction others =>
          obtain ⟨behind, later⟩ := List.forall_mem_cons.mp later
          cases others with
          | nil =>
              have text : ['.'].intercalate [whole, fraction] = whole ++ '.' :: fraction := by
                rw [List.intercalate_cons_cons, List.intercalate_singleton, List.append_assoc]
                rfl
              rw [text, ofPlain_dotted (run.dotted_append behind.chars), looksFloat_append run behind.chars,
                isFraction_run behind, if_pos rfl, scalarValue, floatValue_append run behind]
              rfl
          | cons next others =>
              have text : ['.'].intercalate (whole :: fraction :: next :: others) =
                  whole ++ '.' :: (fraction ++ '.' :: ['.'].intercalate (next :: others)) := by
                simp [List.intercalate_cons_cons]
              have chars : ∀ c ∈ fraction ++ '.' :: ['.'].intercalate (next :: others),
                  c.isDigit = true ∨ c = '.' := by
                have more := Text.chars_intercalate (List.forall_mem_cons.mpr ⟨behind, later⟩)
                rwa [List.intercalate_cons_cons, List.append_assoc] at more
              rw [text, ofPlain_dotted (run.dotted_append chars), looksFloat_append run chars,
                isFraction_append behind, looksInt_append run chars, if_neg Bool.false_ne_true,
                if_neg Bool.false_ne_true, runsValue, text]
              · rfl
              · nofun
              · nofun

end WrapperTypings.Yaml

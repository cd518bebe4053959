import WrapperTypings.Proofs.Binary64.Text
import WrapperTypings.Proofs.Text.Digits
import WrapperTypings.Proofs.Version.Preorder

set_option autoImplicit false

namespace WrapperTypings.Version

open Binary64 (digitsValue)
open Text (IsDotted IsRun)

def dotted (runs : List (List Char)) : String :=
  String.ofList (['.'].intercalate runs)

section
variable {runs : List (List Char)}

theorem written_dotted (filled : runs ≠ []) (each : ∀ run ∈ runs, IsRun run)
    (short : ∀ run ∈ runs, run.length ≤ componentDigitLimit) : Written (dotted runs) runs where
  filled := filled
  digits run among := ⟨(each run among).filled, (each run among).each⟩
  short := short
  text := by
    rw [dotted, String.toList_ofList]
    exact (Text.isDotted_intercalate filled each).trim

theorem short_of_components {numbers : List Nat} (filled : runs ≠ []) (each : ∀ run ∈ runs, IsRun run)
    (read : components (dotted runs) = .ok numbers) :
    ∀ run ∈ runs, run.length ≤ componentDigitLimit := by
  obtain ⟨others, written, rfl⟩ := components_eq_ok.mp read
  have same : others = runs := by
    rw [← written.parts, dotted, String.toList_ofList, (Text.isDotted_intercalate filled each).trim,
      Text.parts_intercalate filled]
    exact Text.flatMap_parts_of_not_mem (fun run among => (each run among).point_not_mem)
  exact same ▸ written.short

end

theorem isRun_toDigits (value : Nat) : IsRun (Nat.toDigits 10 value) where
  filled := Nat.toDigits_ne_nil
  each := Text.isDigit_toDigits value

theorem digitsValue_lt (digits : List Char) (each : ∀ c ∈ digits, c.isDigit = true) :
    digitsValue digits < 10 ^ digits.length := by
  induction digits using List.reverseRecOn with
  | nil => decide
  | append_singleton before c ih =>
      obtain ⟨earlier, last⟩ := List.forall_mem_append.mp each
      obtain ⟨_, high⟩ := Text.digit_bounds (last c (List.mem_singleton.mpr rfl))
      have less := ih earlier
      rw [Binary64.digitsValue_concat, List.length_append, List.length_singleton, pow_succ]
      omega

private theorem char_of_components {version : String} {numbers : List Nat}
    (read : components version = .ok numbers) {c : Char} (member : c ∈ version.toList) :
    Text.isBlank c = true ∨ c.isDigit = true ∨ c = '.' := by
  obtain ⟨runs, _, digits, trimmed⟩ := dotted_of_components read
  refine (Text.mem_trim member).imp_right (fun kept => ?_)
  rw [trimmed] at kept
  exact Text.chars_intercalate (fun run among => ⟨(digits run among).1, (digits run among).2⟩) c kept

private theorem digitsValue_mod_ten {digits : List Char} (each : ∀ c ∈ digits, c.isDigit = true)
    (ends : digits.rdropWhile (· = '0') = digits) (tens : digitsValue digits % 10 = 0) :
    digitsValue digits = 0 := by
  rcases List.eq_nil_or_concat digits with rfl | ⟨before, c, rfl⟩
  · rfl
  · rw [List.concat_eq_append] at *
    obtain ⟨low, high⟩ := Text.digit_bounds (each c (List.mem_append_right _ (List.mem_singleton.mpr rfl)))
    rw [Binary64.digitsValue_concat] at tens
    have zero : c = '0' := by
      have code : c.toNat = 48 := by omega
      exact Char.toNat_inj.mp code
    rw [zero, List.rdropWhile_concat_pos _ _ _ (by decide)] at ends
    have shorter := congrArg List.length ends
    have prefixed := (List.rdropWhile_prefix (· = '0') before).length_le
    rw [List.length_append, List.length_singleton] at shorter
    omega

section
variable {digits : List Char} {point : Int}

private theorem layout_cases (each : ∀ c ∈ digits, c.isDigit = true)
    (ends : digits.rdropWhile (· = '0') = digits) :
    'e' ∈ Binary64.layout digits point ∨ ∃ whole fraction,
      Binary64.layout digits point = whole ++ '.' :: fraction ∧ IsRun whole ∧
      (∀ c ∈ fraction, c.isDigit = true) ∧
      (digitsValue fraction % 10 = 0 → digitsValue fraction = 0) := by
  have zeros (count : Nat) : ∀ c ∈ List.replicate count '0', c.isDigit = true := by
    intro c member
    rw [List.eq_of_mem_replicate member]
    rfl
  unfold Binary64.layout
  split
  · right
    split
    · refine ⟨['0'], List.replicate point.natAbs '0' ++ digits, rfl, by decide,
        List.forall_mem_append.mpr ⟨zeros _, each⟩, fun tens => ?_⟩
      rw [digitsValue_zeros_append (fun c => List.eq_of_mem_replicate)] at tens ⊢
      exact digitsValue_mod_ten each ends tens
    · rename_i inside
      have position : 0 < point.toNat := by omega
      refine ⟨_, _, rfl, ⟨?_, ?_⟩, ?_, ?_⟩
      · intro empty
        have length := congrArg List.length empty
        rw [List.length_append, List.length_replicate, List.length_nil] at length
        omega
      · exact List.forall_mem_append.mpr ⟨fun c member => each c (List.mem_of_mem_take member), zeros _⟩
      · split
        · exact List.forall_mem_singleton.mpr rfl
        · exact fun c member => each c (List.mem_of_mem_drop member)
      · split
        · exact fun _ => rfl
        · rename_i more
          refine digitsValue_mod_ten (fun c member => each c (List.mem_of_mem_drop member)) ?_
          refine (Binary64.rdropWhile_append_iff (by simpa using more) (digits.take point.toNat)).mp ?_
          rw [List.take_append_drop]
          exact ends
  · exact .inl (List.mem_append_right _ List.mem_cons_self)

end

private theorem numbers_of_pair {whole fraction : List Char} {numbers : List Nat}
    (run : IsRun whole)
    (each : ∀ c ∈ fraction, c.isDigit = true)
    (read : components (String.ofList (whole ++ '.' :: fraction)) = .ok numbers) :
    numbers = [digitsValue whole, digitsValue fraction] := by
  obtain ⟨runs, written, rfl⟩ := components_eq_ok.mp read
  have noPoint : '.' ∉ fraction := by
    intro member
    have digit := each _ member
    cases digit
  rw [← written.parts, String.toList_ofList, (run.dotted_append (fun c member => .inl (each c member))).trim,
    Text.parts_append_separator, Text.parts_of_not_mem run.point_not_mem, Text.parts_of_not_mem noPoint]
  rfl

/-- The text of a double that is a version has two components. -/
theorem components_text {value : Binary64} {numbers : List Nat}
    (read : components value.text = .ok numbers) :
    ∃ whole fraction, numbers = [whole, fraction] ∧ (fraction % 10 = 0 → fraction = 0) := by
  have absent {c : Char} (visible : Text.isBlank c = false) (other : c.isDigit = false ∧ c ≠ '.') :
      c ∉ value.text.toList := by
    intro member
    rcases char_of_components read member with blank | digit | point
    · rw [visible] at blank
      cases blank
    · rw [other.1] at digit
      cases digit
    · exact other.2 point
  cases value with
  | nan => exact absurd (by decide) (absent (by decide : Text.isBlank 'n' = false) (by decide))
  | infinite negative =>
      refine absurd ?_ (absent (by decide : Text.isBlank 'i' = false) (by decide))
      cases negative <;> decide
  | finite negative significand exponent =>
      cases negative with
      | true =>
          refine absurd ?_ (absent (by decide : Text.isBlank '-' = false) (by decide))
          rw [Binary64.text, if_pos rfl, String.toList_ofList]
          exact List.mem_cons_self
      | false =>
          by_cases zero : significand = 0
          · subst zero
            have text : Binary64.text (.finite false 0 exponent) =
                String.ofList (['0'] ++ '.' :: ['0']) := rfl
            rw [text] at read
            have run : IsRun ['0'] := by decide
            exact ⟨_, _, numbers_of_pair run run.each read, fun _ => rfl⟩
          · obtain ⟨_, _, _, _, found, _, written⟩ := Binary64.shortestDigits_eq significand exponent
            have text : Binary64.text (.finite false significand exponent) = String.ofList
                (Binary64.layout (Binary64.decimalForm found.1 found.2).1
                  (Binary64.decimalForm found.1 found.2).2) := by
              rw [Binary64.text, if_neg zero, written]
              rfl
            rw [text] at read absent
            rw [String.toList_ofList] at absent
            have each : ∀ c ∈ (Binary64.decimalForm found.1 found.2).1, c.isDigit = true :=
              fun c member => (isRun_toDigits found.1).each c ((List.rdropWhile_prefix _ _).subset member)
            rcases layout_cases each (List.rdropWhile_idempotent _ _) with exponential | pair
            · exact absurd exponential (absent (by decide) (by decide))
            · obtain ⟨whole, fraction, shape, run, digits, tens⟩ := pair
              rw [shape] at read
              exact ⟨_, _, numbers_of_pair run digits read, tens⟩

end WrapperTypings.Version

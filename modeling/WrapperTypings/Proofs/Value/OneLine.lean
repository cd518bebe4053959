import Mathlib.Tactic.SplitIfs
import WrapperTypings.Proofs.Text.Digits
import WrapperTypings.Proofs.Text.Lines
import WrapperTypings.Value.Text

set_option autoImplicit false

namespace WrapperTypings

open Text (IsOneLine isOneLine_ofList isOneLine_append)

namespace Text

private theorem newline_not_mem_numericEscape (code : Nat) : '\n' ∉ numericEscape code := by
  have digits := newline_not_mem_hexDigits
  unfold numericEscape
  split
  · simp [digits]
  · split <;> simp [digits]

private theorem newline_not_mem_quotedChar {shown : Char → Bool} {quote : Char}
    (visible : quote ≠ '\n')
    (c : Char) : '\n' ∉ quotedChar shown quote c := by
  unfold quotedChar
  split_ifs with isQuote isBackslash isNewline isReturn isTab isShown
  · subst isQuote
    simp [visible.symm]
  · simp
  · simp
  · simp
  · simp
  · simp only [List.mem_singleton]
    exact fun same => isNewline same.symm
  · exact newline_not_mem_numericEscape c.toNat

private theorem newline_not_mem_quotedPoint {shown : Char → Bool} {quote : Char}
    (visible : quote ≠ '\n')
    (point : Point) : '\n' ∉ quotedPoint shown quote point := by
  cases point with
  | char c => exact newline_not_mem_quotedChar visible c
  | surrogate offset => exact newline_not_mem_numericEscape _

private theorem quoteFor_ne_newline (text : List Char) : quoteFor text ≠ '\n' := by
  unfold quoteFor
  split <;> decide

private theorem isOneLine_quoted (text : String) : IsOneLine (quoted text) := by
  have visible := quoteFor_ne_newline text.toList
  unfold quoted
  rw [isOneLine_ofList]
  simp only [List.mem_append, List.mem_cons, List.mem_flatMap, List.not_mem_nil, or_false, not_or]
  refine ⟨⟨visible.symm, ?_⟩, visible.symm⟩
  rintro ⟨point, _, member⟩
  exact newline_not_mem_quotedPoint visible point member

end Text

private theorem isOneLine_toString_int (value : Int) : IsOneLine (toString value) := by
  have digits : ∀ n : Nat, IsOneLine n.repr := by
    intro n
    unfold IsOneLine
    rw [Nat.toList_repr]
    exact Text.newline_not_mem_toDigits (by decide)
  rw [Int.toString_eq_repr, Int.repr_eq_if]
  split
  · exact digits _
  · rw [isOneLine_append]
    exact ⟨by decide, digits _⟩

namespace Binary64

private theorem newline_not_mem_shortestDigits (significand : Nat) (exponent : Int) :
    '\n' ∉ (shortestDigits significand exponent).1 := by
  intro member
  have original := (List.dropWhile_sublist _).mem (List.mem_reverse.mp member)
  exact Text.newline_not_mem_toDigits (by decide) (List.mem_reverse.mp original)

private theorem newline_not_mem_exponentText (exponent : Int) : '\n' ∉ exponentText exponent := by
  have digits : '\n' ∉ Nat.toDigits 10 exponent.natAbs :=
    Text.newline_not_mem_toDigits (by decide)
  unfold exponentText
  simp only [List.mem_cons, not_or]
  constructor
  · split <;> decide
  · split
    · simp [digits]
    · exact digits

private theorem newline_not_mem_layout {digits : List Char} (absent : '\n' ∉ digits) (point : Int) :
    '\n' ∉ layout digits point := by
  have taken : ∀ count, '\n' ∉ digits.take count :=
    fun count member => absent (List.mem_of_mem_take member)
  have dropped : ∀ count, '\n' ∉ digits.drop count :=
    fun count member => absent (List.mem_of_mem_drop member)
  unfold layout
  split
  · split
    · simp [absent]
    · simp only [List.mem_append, List.mem_cons, not_or]
      refine ⟨⟨taken _, by simp⟩, by decide, ?_⟩
      split
      · decide
      · exact dropped _
  · simp only [List.mem_append, List.mem_cons, not_or]
    refine ⟨?_, by decide, newline_not_mem_exponentText _⟩
    cases digits with
    | nil => decide
    | cons first rest =>
        cases rest with
        | nil => exact absent
        | cons second others =>
            rw [List.mem_cons, not_or] at absent
            simp only [List.mem_cons, not_or]
            exact ⟨absent.1, by decide, fun same => absent.2 (same ▸ List.mem_cons_self),
              fun member => absent.2 (List.mem_cons_of_mem _ member)⟩

private theorem isOneLine_text (value : Binary64) : IsOneLine value.text := by
  cases value with
  | nan => decide
  | infinite negative => cases negative <;> decide
  | finite negative significand exponent =>
      have digits := newline_not_mem_shortestDigits significand exponent
      have body : '\n' ∉ (if significand = 0 then ['0', '.', '0']
          else layout (shortestDigits significand exponent).1
            (shortestDigits significand exponent).2) := by
        split
        · decide
        · exact newline_not_mem_layout digits _
      unfold text
      rw [isOneLine_ofList]
      cases negative with
      | false => exact body
      | true =>
          rw [if_pos rfl, List.mem_cons, not_or]
          exact ⟨by decide, body⟩

end Binary64

mutual

theorem Json.isOneLine_inspect : ∀ value : Json, IsOneLine value.inspect
  | .null => by decide
  | .bool value => by cases value <;> decide
  | .int value => isOneLine_toString_int value
  | .float value => Binary64.isOneLine_text value
  | .string value => Text.isOneLine_quoted value
  | .array items => by
      have separated : IsOneLine ", " := by decide
      have members := Text.isOneLine_intercalate separated (Json.isOneLine_inspectItems items)
      change IsOneLine ("[" ++ _ ++ "]")
      simp only [isOneLine_append]
      exact ⟨⟨by decide, members⟩, by decide⟩
  | .object fields => by
      have separated : IsOneLine ", " := by decide
      have members := Text.isOneLine_intercalate separated (Json.isOneLine_inspectFields fields)
      change IsOneLine ("\x7b" ++ _ ++ "\x7d")
      simp only [isOneLine_append]
      exact ⟨⟨by decide, members⟩, by decide⟩

theorem Json.isOneLine_inspectItems : ∀ items : List Json,
    ∀ text ∈ Value.inspectItems (Value.ofItems items), IsOneLine text
  | [] => by
      intro text member
      cases member
  | item :: rest => by
      intro text member
      rcases List.mem_cons.mp member with same | later
      · rw [same]
        exact Json.isOneLine_inspect item
      · exact Json.isOneLine_inspectItems rest text later

theorem Json.isOneLine_inspectFields : ∀ fields : List (String × Json),
    ∀ text ∈ Value.inspectEntries (Value.ofFields fields), IsOneLine text
  | [] => by
      intro text member
      cases member
  | (name, value) :: rest => by
      intro text member
      rcases List.mem_cons.mp member with same | later
      · have shown : IsOneLine (Text.quoted name ++ ": " ++ value.inspect) := by
          simp only [isOneLine_append]
          exact ⟨⟨Text.isOneLine_quoted name, by decide⟩, Json.isOneLine_inspect value⟩
        exact same ▸ shown
      · exact Json.isOneLine_inspectFields rest text later

end

/-- A value put into other text is on one line unless it is itself a text with newlines. -/
theorem Json.isOneLine_display {value : Json}
    (flat : ∀ text, value = .string text → IsOneLine text) : IsOneLine value.display := by
  cases value with
  | string text => exact flat text rfl
  | null => exact Json.isOneLine_inspect .null
  | bool value => exact Json.isOneLine_inspect (.bool value)
  | int value => exact Json.isOneLine_inspect (.int value)
  | float value => exact Json.isOneLine_inspect (.float value)
  | array items => exact Json.isOneLine_inspect (.array items)
  | object fields => exact Json.isOneLine_inspect (.object fields)

end WrapperTypings

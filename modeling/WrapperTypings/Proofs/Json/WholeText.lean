import Mathlib.Tactic.SplitIfs
import WrapperTypings.Proofs.Json.ReadBack

set_option autoImplicit false

namespace WrapperTypings.Json

def IsPlain (c : Char) : Prop :=
  c = '\n' ∨ 0x20 ≤ c.toNat ∧ c.toNat ≤ 0x7E

instance (c : Char) : Decidable (IsPlain c) :=
  inferInstanceAs (Decidable (_ ∨ _))

private theorem isPlain_of_all {text : List Char}
    (plain : text.all (fun c => decide (IsPlain c)) = true) : ∀ c ∈ text, IsPlain c :=
  fun c member => of_decide_eq_true (List.all_eq_true.mp plain c member)

private theorem isPlain_hexDigits {code : Nat} (small : code < 65536) :
    ∀ c ∈ Text.hexDigits 4 code, IsPlain c := by
  have digits : ∀ digit < 16, IsPlain digit.digitChar := by decide
  rw [Text.hexDigits_four small]
  simp only [List.forall_mem_cons]
  exact ⟨digits _ (by omega), digits _ (by omega), digits _ (by omega), digits _ (by omega),
    by simp⟩

private theorem isPlain_unitEscape {unit : Nat} (small : unit < 65536) :
    ∀ c ∈ unitEscape unit, IsPlain c := by
  unfold unitEscape
  simp only [List.forall_mem_cons]
  exact ⟨by decide, by decide, isPlain_hexDigits small⟩

private theorem isPlain_writeChar (c : Char) : ∀ written ∈ writeChar c, IsPlain written := by
  have bounds : c.toNat < 0xD800 ∨ 0xDFFF < c.toNat ∧ c.toNat < 0x110000 := c.valid
  unfold writeChar
  split_ifs with quote backslash newline carriage tab feed back shown
  · exact isPlain_of_all (by decide)
  · exact isPlain_of_all (by decide)
  · exact isPlain_of_all (by decide)
  · exact isPlain_of_all (by decide)
  · exact isPlain_of_all (by decide)
  · exact isPlain_of_all (by decide)
  · exact isPlain_of_all (by decide)
  · rw [Bool.and_eq_true, decide_eq_true_eq, decide_eq_true_eq] at shown
    intro written member
    exact List.mem_singleton.mp member ▸ Or.inr shown
  · intro written member
    obtain ⟨unit, among, inEscape⟩ := List.mem_flatMap.mp member
    have small : unit < 65536 := by
      unfold Text.units at among
      split at among
      · rename_i below
        exact List.mem_singleton.mp among ▸ below
      · simp only [List.mem_cons, List.not_mem_nil, or_false] at among
        omega
    exact isPlain_unitEscape small written inEscape

private theorem isPlain_writePoint (point : Text.Point) : ∀ c ∈ writePoint point, IsPlain c := by
  cases point with
  | char c => exact isPlain_writeChar c
  | surrogate offset =>
      have small : Text.Point.surrogateCode offset < 65536 := by
        have within := offset.isLt
        unfold Text.Point.surrogateCode
        omega
      exact isPlain_unitEscape small

private theorem isPlain_writeString (value : String) : ∀ c ∈ writeString value, IsPlain c := by
  have quote : IsPlain '"' := by decide
  unfold writeString
  intro c member
  simp only [List.cons_append, List.mem_cons, List.mem_append, List.not_mem_nil, or_false] at member
  rcases member with same | inside | same
  · exact same ▸ quote
  · obtain ⟨original, _, written⟩ := List.mem_flatMap.mp inside
    exact isPlain_writePoint original c written
  · exact same ▸ quote

private theorem isPlain_lineBreak (level : Nat) : ∀ c ∈ lineBreak level, IsPlain c := by
  intro c member
  rcases List.mem_cons.mp member with same | indented
  · exact Or.inl same
  · exact List.eq_of_mem_replicate indented ▸ by decide

private theorem isPlain_writeItems {items : List Json}
    (each : ∀ item ∈ items, ∀ level, ∀ c ∈ writeValue level item, IsPlain c) (level : Nat) :
    ∀ c ∈ writeItems level items, IsPlain c := by
  induction items with
  | nil =>
      intro c member
      cases member
  | cons item rest ih =>
      obtain ⟨here, later⟩ := List.forall_mem_cons.mp each
      intro c member
      simp only [writeItems, List.cons_append, List.mem_cons, List.mem_append, or_assoc] at member
      rcases member with same | breaks | inItem | inRest
      · exact same ▸ by decide
      · exact isPlain_lineBreak level c breaks
      · exact here level c inItem
      · exact ih later c inRest

private theorem isPlain_writeFields {fields : List (String × Json)}
    (each : ∀ field ∈ fields, ∀ level, ∀ c ∈ writeValue level field.2, IsPlain c) (level : Nat) :
    ∀ c ∈ writeFields level fields, IsPlain c := by
  induction fields with
  | nil =>
      intro c member
      cases member
  | cons field rest ih =>
      obtain ⟨here, later⟩ := List.forall_mem_cons.mp each
      intro c member
      simp only [writeFields, List.cons_append, List.mem_cons, List.mem_append, or_assoc] at member
      rcases member with same | breaks | named | same | same | inValue | inRest
      · exact same ▸ by decide
      · exact isPlain_lineBreak level c breaks
      · exact isPlain_writeString field.1 c named
      · exact same ▸ by decide
      · exact same ▸ by decide
      · exact here level c inValue
      · exact ih later c inRest

private theorem isPlain_bool (value : Bool) :
    ∀ c ∈ (if value then "true" else "false").toList, IsPlain c := by
  cases value with
  | false => exact isPlain_of_all (by decide)
  | true => exact isPlain_of_all (by decide)

private theorem isPlain_int (value : Int) : ∀ c ∈ (toString value).toList, IsPlain c := by
  have digits : ∀ c ∈ Nat.toDigits 10 value.natAbs, IsPlain c := by
    intro c member
    obtain ⟨digit, small, same⟩ := Text.exists_digitChar_of_mem_toDigits (by decide) member
    have plain : ∀ digit < 10, IsPlain digit.digitChar := by decide
    exact same ▸ plain digit small
  intro c member
  rw [toList_toString_int] at member
  split at member
  · rcases List.mem_cons.mp member with same | digit
    · exact same ▸ by decide
    · exact digits c digit
  · exact digits c member

private theorem isPlain_array {items : List Json}
    (each : ∀ item ∈ items, ∀ level, ∀ c ∈ writeValue level item, IsPlain c) (level : Nat) :
    ∀ c ∈ writeValue level (.array items), IsPlain c := by
  intro c member
  cases items with
  | nil =>
      have brackets : ∀ c ∈ ['[', ']'], IsPlain c := isPlain_of_all (by decide)
      exact brackets c member
  | cons item rest =>
      obtain ⟨here, later⟩ := List.forall_mem_cons.mp each
      simp only [writeValue, List.cons_append, List.mem_cons, List.mem_append,
        List.not_mem_nil, or_false, or_assoc] at member
      rcases member with same | breaks | inItem | inRest | breaks | same
      · exact same ▸ by decide
      · exact isPlain_lineBreak _ c breaks
      · exact here _ c inItem
      · exact isPlain_writeItems later _ c inRest
      · exact isPlain_lineBreak _ c breaks
      · exact same ▸ by decide

private theorem isPlain_object {fields : List (String × Json)}
    (each : ∀ field ∈ fields, ∀ level, ∀ c ∈ writeValue level field.2, IsPlain c) (level : Nat) :
    ∀ c ∈ writeValue level (.object fields), IsPlain c := by
  intro c member
  cases fields with
  | nil =>
      have braces : ∀ c ∈ ['{', '}'], IsPlain c := isPlain_of_all (by decide)
      exact braces c member
  | cons field rest =>
      obtain ⟨here, later⟩ := List.forall_mem_cons.mp each
      simp only [writeValue, List.cons_append, List.mem_cons, List.mem_append,
        List.not_mem_nil, or_false, or_assoc] at member
      rcases member with same | breaks | named | same | same | inValue | inRest | breaks | same
      · exact same ▸ by decide
      · exact isPlain_lineBreak _ c breaks
      · exact isPlain_writeString field.1 c named
      · exact same ▸ by decide
      · exact same ▸ by decide
      · exact here _ c inValue
      · exact isPlain_writeFields later _ c inRest
      · exact isPlain_lineBreak _ c breaks
      · exact same ▸ by decide

theorem isPlain_writeValue (value : Json) (portable : value.Portable) :
    ∀ level, ∀ c ∈ writeValue level value, IsPlain c := by
  induction value using nested with
  | null =>
      have word : ∀ c ∈ "null".toList, IsPlain c := isPlain_of_all (by decide)
      exact fun _ => word
  | bool value => exact fun _ => isPlain_bool value
  | int value => exact fun _ => isPlain_int value
  | float value => cases portable
  | string value => exact fun _ => isPlain_writeString value
  | array items each =>
      have inside := portable_array.mp portable
      exact isPlain_array (fun item member => each item member (inside item member))
  | object fields each =>
      have inside := portable_object.mp portable
      exact isPlain_object (fun field member => each field member (inside field member).2)

private theorem readDocument_writeValue {value : Json} (portable : value.Portable)
    (distinct : value.Distinct) : readDocument (writeValue 0 value) = .ok value := by
  have back := readsBack value portable distinct
  obtain ⟨c, rest, written, shown, _⟩ := back.begins 0
  have unmarked : c ≠ '\uFEFF' := by
    intro same
    have plain := isPlain_writeValue value portable 0 c (written ▸ List.mem_cons_self)
    rw [same] at plain
    exact absurd plain (by decide)
  have whole := back.reads 0 (2 * (writeValue 0 value).length + 2) [] (by omega) ends_nil
  rw [List.append_nil] at whole
  rw [written] at whole ⊢
  rw [readDocument, skipSpace_cons shown, whole]
  · rfl
  · intro _ same
    exact unmarked (List.cons.inj same).1

/-- The text of a value is read as the value with its fields sorted. -/
theorem read_write {value : Json} (portable : value.Portable) (distinct : value.Distinct) :
    read (write value) = .ok value.sorted := by
  unfold read write
  rw [String.toList_ofList,
    readDocument_writeValue (portable_sorted portable) (distinct_sorted distinct)]
  rfl

end WrapperTypings.Json

import WrapperTypings.Proofs.Text.Parts
import WrapperTypings.Text.Point

set_option autoImplicit false

/-! Lone surrogates in texts that are put together. A character with which no surrogate is held keeps its
neighbours apart: texts with it between them have the surrogates that each of them has. -/

namespace WrapperTypings.Text

def IsApart (c : Char) : Prop :=
  c ≠ lead ∧ unmarked? c = none

instance (c : Char) : Decidable (IsApart c) :=
  inferInstanceAs (Decidable (_ ∧ _))

section
variable {c : Char} {offset : Fin 0x800}

theorem surrogate_mem_append_cons (apart : IsApart c) {first rest : List Char} :
    .surrogate offset ∈ pointsOf (first ++ c :: rest) ↔
      .surrogate offset ∈ pointsOf first ∨ .surrogate offset ∈ pointsOf rest := by
  rw [pointsOf_append_cons apart.2, pointsOf_cons apart.1, List.mem_append, List.mem_cons]
  simp only [reduceCtorEq, false_or]

private theorem surrogate_mem_intercalate (apart : IsApart c) {pieces : List (List Char)} :
    .surrogate offset ∈ pointsOf ([c].intercalate pieces) ↔
      ∃ piece ∈ pieces, .surrogate offset ∈ pointsOf piece := by
  induction pieces with
  | nil => exact iff_of_false nofun (fun ⟨_, member, _⟩ => nomatch member)
  | cons piece rest ih =>
      cases rest with
      | nil => simp
      | cons next others =>
          rw [List.intercalate_cons_cons, List.append_assoc, List.singleton_append,
            surrogate_mem_append_cons apart, ih]
          simp only [List.mem_cons, exists_eq_or_imp]

end

theorem unencodable?_join {c : Char} {glue : String} (single : glue.toList = [c]) (apart : IsApart c)
    {members : List String} : unencodable? (join glue members) = none ↔
      ∀ member ∈ members, unencodable? member = none := by
  unfold join
  simp only [unencodable?_eq_none_iff, points, String.toList_intercalate, single,
    surrogate_mem_intercalate apart, List.mem_map]
  constructor
  · exact fun absent member among offset held => absent offset ⟨_, ⟨member, among, rfl⟩, held⟩
  · rintro absent offset ⟨_, ⟨member, among, rfl⟩, held⟩
    exact absent member among offset held

theorem unencodable?_append_cons {c : Char} (apart : IsApart c) {first rest text : String}
    (plain : lead ∉ rest.toList) (same : text.toList = first.toList ++ c :: rest.toList) :
    unencodable? text = none ↔ unencodable? first = none := by
  have none : unencodable? rest = Option.none := unencodable?_of_not_mem plain
  rw [unencodable?_eq_none_iff] at none
  simp only [unencodable?_eq_none_iff]
  refine forall_congr' (fun offset => not_congr ?_)
  unfold points at none ⊢
  rw [same, surrogate_mem_append_cons apart]
  exact or_iff_left (none offset)

def isAscii (text : String) : Bool :=
  text.toByteArray.data.toList.all (· < 128)

theorem unencodable?_of_isAscii {text : String} (ascii : isAscii text = true) :
    unencodable? text = none := by
  refine unencodable?_of_not_mem (fun member => ?_)
  have first : (0xED : UInt8) ∈ text.toByteArray.data.toList := by
    rw [← String.utf8Encode_toList, List.utf8Encode, List.data_toByteArray]
    exact List.mem_flatMap.mpr ⟨lead, member, by decide⟩
  exact absurd (List.all_eq_true.mp ascii _ first) (by decide)

end WrapperTypings.Text

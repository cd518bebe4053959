import WrapperTypings.Proofs.Text.Parts
import WrapperTypings.Text.Template

set_option autoImplicit false

namespace WrapperTypings.Text.Template

def IsPlain (text : List Char) : Prop :=
  '\x7b' ∉ text ∧ '\x7d' ∉ text

instance (text : List Char) : Decidable (IsPlain text) :=
  inferInstanceAs (Decidable (_ ∧ _))

def versionField : String := "\x7bversion\x7d"

variable {attributes : Attributes} {value : String} {depth fuel : Nat}

private theorem expandFrom_plain_append {subject : String} {plain rest : List Char}
    (text : IsPlain plain) :
    expandFrom attributes subject value (depth + 1) (fuel + plain.length) (plain ++ rest) =
      (expandFrom attributes subject value (depth + 1) fuel rest).map (plain ++ ·) := by
  induction plain with
  | nil =>
      rw [List.nil_append, List.length_nil, Nat.add_zero]
      cases expandFrom attributes subject value (depth + 1) fuel rest <;> rfl
  | cons c more ih =>
      obtain ⟨opening, closing⟩ := text
      rw [List.mem_cons, not_or] at opening closing
      have notOpening : c ≠ '\x7b' := fun same => opening.1 same.symm
      have notClosing : c ≠ '\x7d' := fun same => closing.1 same.symm
      rw [List.length_cons, ← Nat.add_assoc, List.cons_append, expandFrom, ih ⟨opening.2, closing.2⟩]
      · cases expandFrom attributes subject value (depth + 1) fuel rest <;> rfl
      all_goals simp_all

private theorem expandFrom_field_append (rest : List Char) :
    expandFrom attributes "version" value (depth + 1) (fuel + 1) (versionField.toList ++ rest) =
      (expandFrom attributes "version" value (depth + 1) fuel rest).map (value.toList ++ ·) := by
  have field : versionField.toList ++ rest = '\x7b' :: ("version\x7d".toList ++ rest) := rfl
  have read : readField ("version\x7d".toList ++ rest) =
      .ok (⟨"version".toList, none, []⟩, rest) := rfl
  have found : fieldValue attributes "version" value "version".toList =
      .ok (shownText value.toList) := rfl
  rw [field, expandFrom, read]
  change (do
    let shown ← fieldValue attributes "version" value "version".toList
    let fit ← shown none
    let fitted ← fit []
    let filled ← expandFrom attributes "version" value (depth + 1) fuel rest
    Except.ok (fitted ++ filled)) = _
  · rw [found]
    cases expandFrom attributes "version" value (depth + 1) fuel rest <;> rfl
  all_goals simp

private theorem expandFrom_intercalate {pieces : List (List Char)}
    (plain : ∀ piece ∈ pieces, IsPlain piece)
    (enough : (versionField.toList.intercalate pieces).length < fuel) :
    expandFrom attributes "version" value (depth + 1) fuel (versionField.toList.intercalate pieces) =
      .ok (value.toList.intercalate pieces) := by
  have ended (more : Nat) : expandFrom attributes "version" value (depth + 1) (more + 1) [] = .ok [] := by
    rw [expandFrom]
  induction pieces generalizing fuel with
  | nil =>
      obtain ⟨more, rfl⟩ : ∃ more, fuel = more + 1 := ⟨fuel - 1, by omega⟩
      exact ended more
  | cons piece rest ih =>
      obtain ⟨here, later⟩ := List.forall_mem_cons.mp plain
      cases rest with
      | nil =>
          rw [List.intercalate_singleton] at enough ⊢
          obtain ⟨more, rfl⟩ : ∃ more, fuel = more + 1 + piece.length :=
            ⟨fuel - 1 - piece.length, by omega⟩
          have filled := @expandFrom_plain_append attributes value depth (more + 1) "version" _ [] here
          rw [List.append_nil, ended] at filled
          rw [filled, List.intercalate_singleton]
          exact congrArg Except.ok (List.append_nil piece)
      | cons next others =>
          rw [List.intercalate_cons_cons] at enough ⊢
          rw [List.append_assoc, List.length_append, List.length_append] at enough
          -- The piece and the field take as much fuel as they have characters.
          have width : versionField.toList.length = 9 := rfl
          obtain ⟨more, rfl⟩ : ∃ more, fuel = more + 1 + piece.length :=
            ⟨fuel - 1 - piece.length, by omega⟩
          rw [List.append_assoc, expandFrom_plain_append here, expandFrom_field_append,
            ih later (by omega), List.intercalate_cons_cons]
          simp [Except.map]

theorem expand_join (pieces : List String) (plain : ∀ piece ∈ pieces, IsPlain piece.toList) :
    expand attributes "version" value (join versionField pieces) = .ok (join value pieces) := by
  have each : ∀ piece ∈ pieces.map String.toList, IsPlain piece := by
    intro piece member
    obtain ⟨text, among, rfl⟩ := List.mem_map.mp member
    exact plain text among
  unfold expand join
  rw [String.toList_intercalate, expandFrom_intercalate each]
  · change Except.ok (String.ofList _) = _
    rw [← String.toList_intercalate, String.ofList_toList]
  · rw [← String.toList_intercalate, String.length_toList]
    exact Nat.lt_succ_self _

end WrapperTypings.Text.Template

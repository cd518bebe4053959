import WrapperTypings.Document.Basic
import WrapperTypings.Proofs.Outcome
import WrapperTypings.Proofs.Text.Points
import WrapperTypings.Proofs.Version.Order

set_option autoImplicit false

/-! Documents that can be written as bytes. A document has a lone surrogate exactly if one of its lines
has one. Versions have none, so that it makes no difference which version a document is for. -/

namespace WrapperTypings

theorem Version.Dotted.lead_not_mem {version : String} (dotted : Dotted version) :
    Text.lead ∉ version.toList := by
  obtain ⟨runs, _, digits, trimmed⟩ := dotted
  intro member
  rcases Text.mem_trim member with blank | kept
  · exact absurd blank (by decide)
  · rw [trimmed] at kept
    rcases Text.mem_intercalate kept with same | ⟨run, among, present⟩
    · exact absurd same (by decide)
    · exact absurd ((digits run among).2 _ present) (by decide)

namespace Document

variable {catalog : Catalog} {declarations : Declarations} {variant : Variant}
  {excluded : List String} {options : Options} {document : String}

private theorem encodable_iff_lines {all : List String}
    (found : lines catalog declarations variant excluded options = .ok all)
    (rendered : render catalog declarations variant excluded options = .ok document) :
    Text.unencodable? document = none ↔ ∀ line ∈ all, Text.unencodable? line = none := by
  unfold render at rendered
  rw [found] at rendered
  cases rendered
  exact Text.unencodable?_join rfl (by decide)

/-- The parts of a document that has no lone surrogate: the lines that the version is not on. -/
structure Encodable (catalog : Catalog) (declarations : Declarations) (variant : Variant)
    (excluded : List String) (options : Options) : Prop where
  header : ∀ line ∈ headerLines "" variant options, Text.unencodable? line = none
  declared : ∀ lines, declarationLines declarations = .ok lines →
    ∀ line ∈ lines, Text.unencodable? line = none
  constants : ∀ line ∈ constantLines catalog excluded variant, Text.unencodable? line = none
  functions : ∀ line ∈ functionLines catalog excluded variant, Text.unencodable? line = none

private theorem unencodable?_firstLine {version moduleName : String}
    (plain : Text.lead ∉ version.toList) :
    Text.unencodable? ("// Type definitions for " ++ moduleName ++ " " ++ version) = none ↔
      Text.unencodable? ("// Type definitions for " ++ moduleName ++ " ") = none := by
  have apart : Text.IsApart ' ' := by decide
  have named : Text.unencodable? ("// Type definitions for " ++ moduleName ++ " ") = none ↔
      Text.unencodable? ("// Type definitions for " ++ moduleName) = none := by
    refine Text.unencodable?_append_cons apart (show Text.lead ∉ "".toList by decide) ?_
    simp
  rw [named]
  exact Text.unencodable?_append_cons apart plain (by simp)

private theorem encodable_headerLines {version : String} (plain : Text.lead ∉ version.toList) :
    (∀ line ∈ headerLines version variant options, Text.unencodable? line = none) ↔
      ∀ line ∈ headerLines "" variant options, Text.unencodable? line = none := by
  unfold headerLines
  simp only [List.forall_mem_cons, String.append_empty]
  rw [unencodable?_firstLine plain]

/-- Whether a document can be encoded does not depend on the version. -/
theorem encodable_iff (plain : Text.lead ∉ catalog.version.toList)
    (rendered : render catalog declarations variant excluded options = .ok document) :
    Text.unencodable? document = none ↔
      Encodable catalog declarations variant excluded options := by
  obtain ⟨all, found, _⟩ := Outcome.map_eq_ok.mp rendered
  obtain ⟨declared, declares, assembled⟩ := Outcome.bind_eq_ok.mp found
  rw [encodable_iff_lines found rendered, ← Except.ok.inj assembled]
  simp only [List.forall_mem_append, encodable_headerLines plain, List.forall_mem_singleton]
  constructor
  · rintro ⟨⟨⟨⟨⟨header, declared⟩, constants⟩, _⟩, functions⟩, _⟩
    exact ⟨header, fun lines same => Except.ok.inj (declares.symm.trans same) ▸ declared, constants,
      functions⟩
  · rintro ⟨header, declared, constants, functions⟩
    exact ⟨⟨⟨⟨⟨header, declared _ declares⟩, constants⟩, by decide⟩, functions⟩, by decide⟩

theorem Encodable.of_isAscii
    (header : ∀ line ∈ headerLines "" variant options, Text.isAscii line = true)
    (declared : ((declarationLines declarations).toOption.getD []).all Text.isAscii = true)
    (constants : ∀ constant ∈ catalog.constants, Text.isAscii (constantLine constant) = true)
    (functions : ∀ symbol ∈ catalog.symbols, symbol.signatures.all Text.isAscii = true) :
    Encodable catalog declarations variant excluded options := by
  refine ⟨fun line member => ?_, fun lines declares line member => ?_, fun line member => ?_,
    fun line member => ?_⟩
  · exact Text.unencodable?_of_isAscii (header line member)
  · rw [declares] at declared
    exact Text.unencodable?_of_isAscii (List.all_eq_true.mp declared line member)
  · obtain ⟨constant, selected, rfl⟩ := List.mem_map.mp member
    exact Text.unencodable?_of_isAscii (constants constant (List.mem_filter.mp selected).1)
  · obtain ⟨symbol, selected, among⟩ := List.mem_flatMap.mp member
    have ascii := List.all_eq_true.mp (functions symbol (List.mem_filter.mp selected).1)
    exact Text.unencodable?_of_isAscii (ascii line among)

end Document

end WrapperTypings

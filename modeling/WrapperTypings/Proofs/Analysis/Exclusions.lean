import Mathlib.Data.List.Basic
import WrapperTypings.Analysis.Report
import WrapperTypings.Document.Basic

set_option autoImplicit false

/-! Exclusions that do nothing. The report looks for the excluded names among the lower-cased names
of the catalog, the standard build for the lower-cased name of each entry among the excluded ones.
A name that the report calls stale hides no entry, alone or together with others; any other
excluded name hides one. -/

namespace WrapperTypings

namespace Report

variable {catalog : Catalog} {excluded : List String} {name : String}

private theorem mem_stale_iff :
    name ∈ stale catalog excluded ↔ name ∈ excluded ∧ name ∉ lowerNames catalog := by
  unfold stale
  rw [List.mem_eraseDups, List.mem_mergeSort, List.mem_filter, Bool.not_eq_true',
    ← Bool.not_eq_true, List.contains_iff_mem]

private theorem mem_lowerNames_iff : name ∈ lowerNames catalog ↔
    (∃ symbol ∈ catalog.symbols, Text.lower symbol.name = name) ∨
      ∃ constant ∈ catalog.constants, Text.lower constant.name = name := by
  unfold lowerNames
  rw [List.mem_append, List.mem_map, List.mem_map]

end Report

namespace Variant

variable {α : Type} {nameOf : α → String} {entries : List α} {excluded other : List String}

private theorem mem_select_standard {entry : α} : entry ∈ select nameOf excluded .standard entries ↔
    entry ∈ entries ∧ Text.lower (nameOf entry) ∉ excluded := by
  unfold select exports
  rw [List.mem_filter, Bool.not_eq_true', ← Bool.not_eq_true, List.contains_iff_mem]

private theorem select_standard_congr (agree : ∀ entry ∈ entries,
      (Text.lower (nameOf entry) ∈ excluded ↔ Text.lower (nameOf entry) ∈ other)) :
    select nameOf excluded .standard entries = select nameOf other .standard entries := by
  unfold select exports
  refine List.filter_congr (fun entry member => ?_)
  have same : excluded.contains (Text.lower (nameOf entry)) =
      other.contains (Text.lower (nameOf entry)) := by
    rw [Bool.eq_iff_iff, List.contains_iff_mem, List.contains_iff_mem]
    exact agree entry member
  rw [same]

private theorem mem_select_without {name : String} (among : name ∈ excluded) {entry : α}
    (member : entry ∈ entries) (named : Text.lower (nameOf entry) = name) :
    entry ∈ select nameOf (excluded.filter (· ≠ name)) .standard entries ∧
      entry ∉ select nameOf excluded .standard entries := by
  rw [mem_select_standard, mem_select_standard, named]
  constructor
  · refine ⟨member, fun remains => ?_⟩
    have other := (List.mem_filter.mp remains).2
    exact absurd rfl (of_decide_eq_true other)
  · rintro ⟨_, exported⟩
    exact exported among

end Variant

/-- Sets of excluded names that agree on the lower-cased names of a catalog. -/
def Catalog.AgreeOn (catalog : Catalog) (excluded other : List String) : Prop :=
  ∀ name ∈ Report.lowerNames catalog, (name ∈ excluded ↔ name ∈ other)

namespace Catalog.AgreeOn

variable {catalog : Catalog} {excluded other : List String}

private theorem symbols (agree : catalog.AgreeOn excluded other) :
    Variant.select Symbol.name excluded .standard catalog.symbols =
      Variant.select Symbol.name other .standard catalog.symbols :=
  Variant.select_standard_congr (fun symbol member =>
    agree _ (Report.mem_lowerNames_iff.mpr (.inl ⟨symbol, member, rfl⟩)))

private theorem constants (agree : catalog.AgreeOn excluded other) :
    Variant.select Constant.name excluded .standard catalog.constants =
      Variant.select Constant.name other .standard catalog.constants :=
  Variant.select_standard_congr (fun constant member =>
    agree _ (Report.mem_lowerNames_iff.mpr (.inr ⟨constant, member, rfl⟩)))

private theorem render (agree : catalog.AgreeOn excluded other) (declarations : Declarations)
    (options : Document.Options) :
    Document.render catalog declarations .standard excluded options =
      Document.render catalog declarations .standard other options := by
  unfold Document.render Document.lines Document.constantLines Document.functionLines
  rw [agree.symbols, agree.constants]

private theorem filter {Kept : String → Prop} [DecidablePred Kept]
    (idle : ∀ name, ¬ Kept name → name ∉ Report.lowerNames catalog) :
    catalog.AgreeOn excluded (excluded.filter Kept) := by
  intro name present
  have kept : Kept name := by
    by_contra dropped
    exact idle name dropped present
  simp only [List.mem_filter, decide_eq_true kept, and_true]

end Catalog.AgreeOn

/-- The stale exclusions are those that do nothing: without all of them the standard document is the
same, and so is the choice of entries without any one of them; without any other excluded name the
standard build has an entry that it does not have with it. -/
theorem Report.render_without_stale (catalog : Catalog) (declarations : Declarations)
    (excluded : List String) :
    let stale := (ofCatalog catalog declarations excluded).staleExclusions
    (∀ (emitted : Declarations) (options : Document.Options),
      Document.render catalog emitted .standard excluded options =
        Document.render catalog emitted .standard (excluded.filter (· ∉ stale)) options) ∧
    (∀ name ∈ excluded, name ∉ stale →
      let fewer := excluded.filter (· ≠ name)
      (∃ symbol ∈ Variant.select Symbol.name fewer .standard catalog.symbols,
        symbol ∉ Variant.select Symbol.name excluded .standard catalog.symbols) ∨
      ∃ constant ∈ Variant.select Constant.name fewer .standard catalog.constants,
        constant ∉ Variant.select Constant.name excluded .standard catalog.constants) ∧
    (∀ name ∈ stale,
      let fewer := excluded.filter (· ≠ name)
      name ∈ excluded ∧
      Variant.select Symbol.name fewer .standard catalog.symbols =
        Variant.select Symbol.name excluded .standard catalog.symbols ∧
      Variant.select Constant.name fewer .standard catalog.constants =
        Variant.select Constant.name excluded .standard catalog.constants) := by
  intro stale
  have stale_iff (name : String) :
      name ∈ stale ↔ name ∈ excluded ∧ name ∉ lowerNames catalog := mem_stale_iff
  refine ⟨?_, ?_, ?_⟩
  · intro emitted options
    have agree : catalog.AgreeOn excluded (excluded.filter (· ∉ stale)) := by
      exact .filter (fun name dropped => ((stale_iff name).mp (not_not.mp dropped)).2)
    exact agree.render emitted options
  · intro name among effective fewer
    have present : name ∈ lowerNames catalog := by
      by_contra absent
      exact effective ((stale_iff name).mpr ⟨among, absent⟩)
    rcases mem_lowerNames_iff.mp present with ⟨symbol, member, named⟩ | ⟨constant, member, named⟩
    · exact .inl ⟨symbol, Variant.mem_select_without among member named⟩
    · exact .inr ⟨constant, Variant.mem_select_without among member named⟩
  · intro name isStale fewer
    obtain ⟨among, absent⟩ := (stale_iff name).mp isStale
    have agree : catalog.AgreeOn excluded fewer := by
      refine .filter (fun other dropped => ?_)
      rw [not_not.mp dropped]
      exact absent
    exact ⟨among, agree.symbols.symm, agree.constants.symm⟩

def Report.casedCatalog : Catalog :=
  { version := "0.7.3"
    symbols := [⟨"pad", [], [], none, .void, [], [], false, .null, .string "function"⟩]
    constants := [⟨"PAD", "uint"⟩] }

/-- Of the same name written in two ways, the one in lower case hides something. -/
theorem Report.render_without_stale_casedCatalog :
    "PAD" ∈ (ofCatalog casedCatalog Declarations.empty ["pad", "PAD"]).staleExclusions ∧
    (∀ options, Document.render casedCatalog Declarations.empty .standard ["pad", "PAD"] options =
      Document.render casedCatalog Declarations.empty .standard ["pad"] options) ∧
    "pad" ∉ (ofCatalog casedCatalog Declarations.empty ["pad", "PAD"]).staleExclusions ∧
    ((∃ symbol ∈ Variant.select Symbol.name ["PAD"] .standard casedCatalog.symbols,
        symbol ∉ Variant.select Symbol.name ["pad", "PAD"] .standard casedCatalog.symbols) ∨
      ∃ constant ∈ Variant.select Constant.name ["PAD"] .standard casedCatalog.constants,
        constant ∉ Variant.select Constant.name ["pad", "PAD"] .standard
          casedCatalog.constants) := by
  obtain ⟨same, restored, idle⟩ :=
    render_without_stale casedCatalog Declarations.empty ["pad", "PAD"]
  have isStale : "PAD" ∈ stale casedCatalog ["pad", "PAD"] :=
    mem_stale_iff.mpr (by decide +kernel)
  have effective : "pad" ∉ stale casedCatalog ["pad", "PAD"] := by
    rw [mem_stale_iff]
    decide +kernel
  refine ⟨isStale, fun options => ?_, effective, restored "pad" (by decide) effective⟩
  have kept : ["pad", "PAD"].filter (· ∉ stale casedCatalog ["pad", "PAD"]) = ["pad"] := by
    simp [isStale, effective]
  exact kept ▸ same Declarations.empty options

end WrapperTypings

import WrapperTypings.Proofs.Catalog.Sorted
import WrapperTypings.Proofs.Json.WholeText

set_option autoImplicit false

namespace WrapperTypings

namespace Symbol

def Described (symbol : Symbol) : Prop :=
  ∃ value : Json, value.Distinct ∧ ofJson value = .ok symbol

theorem Described.distinct {symbol : Symbol} (described : symbol.Described) :
    ∀ carried ∈ symbol.carried, carried.Distinct := by
  obtain ⟨value, distinct, read⟩ := described
  exact everywhere_carried Json.structural_hasDistinctNames distinct read

theorem Described.distinct_toJson {symbol : Symbol} (described : symbol.Described) :
    symbol.toJson.Distinct :=
  everywhere_toJson Json.structural_hasDistinctNames described.distinct

theorem Described.ofJson_sorted_toJson {symbol : Symbol} (described : symbol.Described) :
    ofJson symbol.toJson.sorted = .ok symbol.sorted := by
  obtain ⟨value, distinct, read⟩ := described
  exact ofJson_sorted (Described.distinct_toJson ⟨value, distinct, read⟩)
    (ofJson_toJson (describable_of_ofJson read))

private theorem sorted_sorted {symbol : Symbol}
    (distinct : ∀ carried ∈ symbol.carried, carried.Distinct) :
    symbol.sorted.sorted = symbol.sorted := by
  simp only [carried, List.forall_mem_append, List.forall_mem_cons] at distinct
  obtain ⟨⟨⟨⟨inputs, outputs⟩, dependencies⟩, assertions⟩, target, kind, _⟩ := distinct
  have parameters : ∀ values : List Parameter,
      (∀ size ∈ values.map Parameter.size, size.Distinct) →
      (values.map Parameter.sorted).map Parameter.sorted = values.map Parameter.sorted := by
    intro values sizes
    rw [List.map_map]
    refine List.map_congr_left (fun parameter member => ?_)
    have size := Json.sorted_sorted _ (sizes _ (List.mem_map_of_mem member))
    unfold Parameter.sorted
    rw [Function.comp_apply, size]
  have values : ∀ values : List Json, (∀ value ∈ values, value.Distinct) →
      (values.map Json.sorted).map Json.sorted = values.map Json.sorted := by
    intro values each
    rw [List.map_map]
    exact List.map_congr_left (fun value member => Json.sorted_sorted value (each value member))
  unfold sorted
  simp only [parameters _ inputs, parameters _ outputs, values _ dependencies, values _ assertions,
    Json.sorted_sorted _ target, Json.sorted_sorted _ kind]

end Symbol

namespace Catalog

theorem sorted_alike {catalog : Catalog}
    (distinct : ∀ symbol ∈ catalog.symbols, ∀ carried ∈ symbol.carried, carried.Distinct) :
    catalog.sorted.Alike catalog := by
  unfold Alike sorted
  simp only [List.map_map, Catalog.mk.injEq, true_and, and_true]
  refine List.map_congr_left (fun symbol member => ?_)
  exact Symbol.sorted_sorted (distinct symbol member)

def dumpedSymbols (catalog : Catalog) : List Json :=
  (catalog.symbols.map Symbol.toJson).map Json.sorted

def dumpedConstants (catalog : Catalog) : List Json :=
  (catalog.constants.map Constant.toJson).map Json.sorted

theorem portable_toJson {catalog : Catalog} :
    catalog.toJson.Portable ↔ Text.isScalar catalog.version = true ∧
      (∀ symbol ∈ catalog.symbols, symbol.toJson.Portable) ∧
      ∀ constant ∈ catalog.constants, constant.toJson.Portable := by
  have names : ∀ name ∈ ["version", "symbols", "constants"], Text.isScalar name = true := by
    decide +kernel
  simp only [List.forall_mem_cons] at names
  unfold toJson toFields
  simp only [Json.portable_object, Json.portable_array, List.forall_mem_cons, List.forall_mem_map,
    List.not_mem_nil, false_imp_iff, implies_true, names, true_and, and_true]
  exact Iff.rfl

/-- The text of a dump is read as an object that is alike to what was dumped, and has the symbols
and the constants in their lists. -/
theorem read_write_toJson {catalog : Catalog}
    (described : ∀ symbol ∈ catalog.symbols, symbol.Described)
    (portable : catalog.toJson.Portable) :
    ∃ fields, Json.read (Json.write catalog.toJson) = .ok (.object fields) ∧
      (Json.object fields).Alike catalog.toJson ∧
      Json.field "symbols" fields = .array catalog.dumpedSymbols ∧
      Json.field "constants" fields = .array catalog.dumpedConstants := by
  have distinct : catalog.toJson.Distinct := everywhere_toJson Json.structural_hasDistinctNames
    (fun symbol member => (described symbol member).distinct)
  have read := Json.read_write portable distinct
  have alike := Json.alike_sorted distinct
  have same := sortedFields_sorted (Json.distinct_object.mp distinct).1
  rw [Catalog.toJson, Json.sorted_object] at read alike
  refine ⟨_, read, alike, ?_, ?_⟩
  · rw [same.field "symbols"]
    exact Json.sorted_array _
  · rw [same.field "constants"]
    exact Json.sorted_array _

theorem mem_dumpedSymbols {catalog : Catalog} {element : Json}
    (member : element ∈ catalog.dumpedSymbols) :
    ∃ symbol ∈ catalog.symbols, element = symbol.toJson.sorted := by
  obtain ⟨value, among, same⟩ := List.mem_map.mp member
  obtain ⟨symbol, present, written⟩ := List.mem_map.mp among
  exact ⟨symbol, present, same.symm.trans (congrArg Json.sorted written.symm)⟩

end Catalog

end WrapperTypings

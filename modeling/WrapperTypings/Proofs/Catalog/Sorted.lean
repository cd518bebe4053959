import Mathlib.Tactic.SplitIfs
import WrapperTypings.Proofs.Catalog.Carried

set_option autoImplicit false

namespace WrapperTypings

open Descriptor (Fields)

def Parameter.sorted (parameter : Parameter) : Parameter :=
  { parameter with size := parameter.size.sorted }

def Symbol.sorted (symbol : Symbol) : Symbol :=
  { symbol with
    inputs := symbol.inputs.map Parameter.sorted
    outputs := symbol.outputs.map Parameter.sorted
    dependencies := symbol.dependencies.map Json.sorted
    assertions := symbol.assertions.map Json.sorted
    target := symbol.target.sorted
    kind := symbol.kind.sorted }

def Catalog.sorted (catalog : Catalog) : Catalog :=
  { catalog with symbols := catalog.symbols.map Symbol.sorted }

/-- Catalogs that differ in nothing but the order of fields in the values that symbols carry. -/
def Catalog.Alike (first second : Catalog) : Prop :=
  first.sorted = second.sorted

namespace Json

private theorem isNothing_sorted (value : Json) : value.sorted.isNothing = value.isNothing := by
  cases value with
  | array items =>
      rw [sorted_array]
      cases items <;> rfl
  | object fields =>
      rw [sorted_object]
      have same := (names_sorted_perm fields).length_eq
      rw [List.length_map, List.length_map] at same
      simp only [isNothing]
      rw [Bool.eq_iff_iff, List.isEmpty_iff_length_eq_zero, List.isEmpty_iff_length_eq_zero, same]
  | _ => rfl

private theorem sorted_eq_string_iff {value : Json} {text : String} :
    value.sorted = .string text ↔ value = .string text := by
  cases value <;> simp [sorted]

end Json

section
variable {fields others : Fields}

def SortedFields (fields others : Fields) : Prop :=
  ∀ name, Json.lookup? name others = (Json.lookup? name fields).map Json.sorted

theorem SortedFields.field (same : SortedFields fields others) (name : String) :
    Json.field name others = (Json.field name fields).sorted := by
  unfold Json.field
  rw [same name]
  cases Json.lookup? name fields <;> rfl

theorem SortedFields.field_string (same : SortedFields fields others) {name text : String} :
    Json.field name others = .string text ↔ Json.field name fields = .string text := by
  rw [same.field name, Json.sorted_eq_string_iff]

theorem SortedFields.flag (same : SortedFields fields others) (name : String) :
    Descriptor.flag name others = Descriptor.flag name fields := by
  unfold Descriptor.flag
  simp only [Descriptor.field_json, Descriptor.isNothing_json]
  rw [same.field name, Json.isNothing_sorted]

theorem SortedFields.items (same : SortedFields fields others) {name owner : String}
    {items : List Json} (listed : Descriptor.items name owner fields = .ok items) :
    Descriptor.items name owner others = .ok (items.map Json.sorted) := by
  rw [Descriptor.items_eq_ok_iff] at listed ⊢
  rw [same.field name]
  rcases listed with ⟨found, rfl⟩ | found <;> rw [found]
  · exact .inl ⟨rfl, rfl⟩
  · exact .inr (Json.sorted_array items)

theorem SortedFields.returnOf (same : SortedFields fields others) {owner : String}
    {expression : Option String} (returns : Symbol.returnOf owner fields = .ok expression) :
    Symbol.returnOf owner others = .ok expression := by
  rw [Symbol.returnOf_eq_ok_iff] at returns ⊢
  simp only [same.field_string]
  rcases returns with ⟨missing, rfl⟩ | given
  · exact .inl ⟨by rw [same.field "return", missing]; rfl, rfl⟩
  · exact .inr given

end

theorem sortedFields_sorted {fields : Fields} (distinct : (fields.map Prod.fst).Nodup) :
    SortedFields fields (Text.sortByName Prod.fst (fields.map Json.sortedField)) :=
  Json.lookup?_sorted distinct

namespace ReturnShape

private theorem memberType_sorted {name : String} {fields others : Fields}
    (same : SortedFields fields others) :
    memberType name others = memberType name fields := by
  unfold memberType Descriptor.filled
  simp only [Descriptor.field_json]
  rw [same.field name]
  cases Json.field name fields <;> simp [Json.sorted, Descriptor.Readable.view]

private theorem ofJson_sorted {value : Json} {shape : ReturnShape} (distinct : value.Distinct)
    (read : ofJson value = .ok shape) : ofJson value.sorted = .ok shape := by
  cases value with
  | object fields =>
      have same := sortedFields_sorted (Json.distinct_object.mp distinct).1
      rw [Json.sorted_object]
      rw [ofJson_object] at read ⊢
      rw [same.field "kind"]
      simp only [Json.sorted_eq_string_iff, memberType_sorted same]
      split_ifs at read ⊢ with plain boolean numeric text paired
      · exact read
      · exact read
      · exact read
      · exact read
      · exact read
  | _ => cases read

private theorem resolve_sorted {expression : Option String} {explicit : Json} {shape : ReturnShape}
    (distinct : explicit.Distinct) (resolved : resolve expression explicit = .ok shape) :
    resolve expression explicit.sorted = .ok shape := by
  cases explicit with
  | null => exact resolved
  | object fields =>
      have read := ofJson_sorted distinct resolved
      rw [Json.sorted_object] at read ⊢
      exact read
  | _ => cases resolved

end ReturnShape

namespace Parameter

private theorem ofJson_sorted {owner : String} {value : Json} {parameter : Parameter}
    (distinct : value.Distinct) (read : ofJson owner value = .ok parameter) :
    ofJson owner value.sorted = .ok parameter.sorted := by
  obtain ⟨fields, isObject, named, filled, typed, flagged, sized⟩ := ofJson_eq_ok_iff.mp read
  subst isObject
  have same := sortedFields_sorted (Json.distinct_object.mp distinct).1
  refine ofJson_eq_ok_iff.mpr ⟨_, Json.sorted_object fields, same.field_string.mpr named, filled,
    same.field_string.mpr typed, (same.flag "optional").trans flagged, ?_⟩
  rw [same.field "size", sized]
  rfl

private theorem mapM_ofJson_sorted {owner : String} {values : List Json}
    {parameters : List Parameter}
    (distinct : ∀ value ∈ values, value.Distinct)
    (read : values.mapM (ofJson owner) = .ok parameters) :
    (values.map Json.sorted).mapM (ofJson owner) = .ok (parameters.map sorted) := by
  rw [Outcome.mapM_eq_ok] at read ⊢
  rw [List.forall₂_map_left_iff, List.forall₂_map_right_iff]
  induction read with
  | nil => exact List.Forall₂.nil
  | cons here _ ih =>
      obtain ⟨first, rest⟩ := List.forall_mem_cons.mp distinct
      exact List.Forall₂.cons (ofJson_sorted first here) (ih rest)

end Parameter

theorem Constant.ofJson_sorted {value : Json} {constant : Constant} (distinct : value.Distinct)
    (read : Constant.ofJson value = .ok constant) :
    Constant.ofJson value.sorted = .ok constant := by
  obtain ⟨fields, isObject, named, filled, typed⟩ := Constant.ofJson_eq_ok_iff.mp read
  subst isObject
  have same := sortedFields_sorted (Json.distinct_object.mp distinct).1
  exact Constant.ofJson_eq_ok_iff.mpr ⟨_, Json.sorted_object fields, same.field_string.mpr named,
    filled, same.field_string.mpr typed⟩

namespace Symbol

/-- A descriptor with its fields sorted describes the same symbol, with the values that it carries
sorted. -/
theorem ofJson_sorted {value : Json} {symbol : Symbol} (distinct : value.Distinct)
    (read : ofJson value = .ok symbol) : ofJson value.sorted = .ok symbol.sorted := by
  obtain ⟨fields, isObject, named, filled, returns, ⟨inputs, listsInputs, inputsRead⟩,
    ⟨outputs, listsOutputs, outputsRead⟩, resolved, depends, asserts, flagged, targeted, kinded⟩ :=
    ofJson_eq_ok_iff.mp read
  subst isObject
  obtain ⟨names, inside⟩ := Json.distinct_object.mp distinct
  have same := sortedFields_sorted names
  have inputsDistinct := Descriptor.everywhere_items rfl inside listsInputs
  have outputsDistinct := Descriptor.everywhere_items rfl inside listsOutputs
  refine ofJson_eq_ok_iff.mpr ⟨_, Json.sorted_object fields, same.field_string.mpr named, filled,
    same.returnOf returns,
    ⟨_, same.items listsInputs, Parameter.mapM_ofJson_sorted inputsDistinct inputsRead⟩,
    ⟨_, same.items listsOutputs, Parameter.mapM_ofJson_sorted outputsDistinct outputsRead⟩,
    ?_, same.items depends, same.items asserts, (same.flag "noOutputFormat").trans flagged, ?_, ?_⟩
  · rw [same.field "return_shape"]
    exact ReturnShape.resolve_sorted (Json.everywhere_field rfl inside _) resolved
  · rw [same.field "target", targeted]
    rfl
  · change _ = symbol.kind.sorted
    rw [same "type", ← kinded]
    cases Json.lookup? "type" fields <;> rfl

end Symbol

end WrapperTypings

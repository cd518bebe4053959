import WrapperTypings.Proofs.Catalog.Descriptor
import WrapperTypings.Proofs.Json.Sorted

set_option autoImplicit false

namespace WrapperTypings

open Descriptor (Fields)

/-- The values that a symbol takes from its descriptor as they are. -/
def Symbol.carried (symbol : Symbol) : List Json :=
  symbol.inputs.map Parameter.size ++ symbol.outputs.map Parameter.size ++ symbol.dependencies ++
    symbol.assertions ++ [symbol.target, symbol.kind]

/-- A test that only looks at numbers and at the names in objects: it passes null, truth values and
texts, lists, and objects with distinct names. -/
structure Json.Structural (test : Json → Bool) : Prop where
  null : test .null = true
  bool : ∀ value, test (.bool value) = true
  string : ∀ value, test (.string value) = true
  array : ∀ items, test (.array items) = true
  object : ∀ fields : Fields, (fields.map Prod.fst).Nodup → test (.object fields) = true

theorem Json.structural_hasDistinctNames : Json.Structural Json.hasDistinctNames :=
  ⟨rfl, fun _ => rfl, fun _ => rfl, fun _ => rfl, fun _ distinct => decide_eq_true distinct⟩

section
variable {test : Json → Bool}

theorem Descriptor.everywhere_items (null : test .null = true) {name owner : String}
    {fields : Fields} {items : List Json}
    (inside : ∀ field ∈ fields, Json.everywhere test field.2 = true)
    (listed : Descriptor.items name owner fields = .ok items) :
    ∀ item ∈ items, Json.everywhere test item = true := by
  have whole := Json.everywhere_field null inside name
  rcases Descriptor.items_eq_ok_iff.mp listed with ⟨_, rfl⟩ | found
  · exact List.forall_mem_nil _
  · rw [found] at whole
    exact (Json.everywhere_array.mp whole).2

theorem Parameter.everywhere_sizes (null : test .null = true) {owner : String}
    {values : List Json} {parameters : List Parameter}
    (inside : ∀ value ∈ values, Json.everywhere test value = true)
    (read : values.mapM (Parameter.ofJson owner) = .ok parameters) :
    ∀ size ∈ parameters.map Parameter.size, Json.everywhere test size = true := by
  intro size member
  obtain ⟨parameter, among, same⟩ := List.mem_map.mp member
  obtain ⟨value, present, readOne⟩ := Outcome.exists_of_mapM_eq_ok read parameter among
  obtain ⟨fields, isObject, _, _, _, _, sized⟩ := Parameter.ofJson_eq_ok_iff.mp readOne
  have whole := inside value present
  rw [isObject, Json.everywhere_object] at whole
  rw [← same, ← sized]
  exact Json.everywhere_field null whole.2 "size"

theorem Symbol.everywhere_carried (structural : Json.Structural test) {value : Json}
    {symbol : Symbol} (inside : Json.everywhere test value = true)
    (read : Symbol.ofJson value = .ok symbol) :
    ∀ carried ∈ symbol.carried, Json.everywhere test carried = true := by
  obtain ⟨fields, isObject, _, _, _, ⟨inputs, listsInputs, inputsRead⟩,
    ⟨outputs, listsOutputs, outputsRead⟩, _, depends, asserts, _, targeted, kinded⟩ :=
    Symbol.ofJson_eq_ok_iff.mp read
  rw [isObject, Json.everywhere_object] at inside
  have null := structural.null
  intro carried member
  simp only [Symbol.carried, List.mem_append, List.mem_cons, List.not_mem_nil, or_false,
    or_assoc] at member
  rcases member with inInputs | inOutputs | depended | asserted | same | same
  · have items := Descriptor.everywhere_items null inside.2 listsInputs
    exact Parameter.everywhere_sizes null items inputsRead carried inInputs
  · have items := Descriptor.everywhere_items null inside.2 listsOutputs
    exact Parameter.everywhere_sizes null items outputsRead carried inOutputs
  · exact Descriptor.everywhere_items null inside.2 depends carried depended
  · exact Descriptor.everywhere_items null inside.2 asserts carried asserted
  · rw [same, ← targeted]
    exact Json.everywhere_field null inside.2 "target"
  · rw [same, ← kinded]
    cases found : Json.lookup? "type" fields with
    | none => exact structural.string "function"
    | some kind => exact inside.2 _ (Json.mem_of_lookup? found)

theorem Json.everywhere_optionalField {name : String} {value : Option Json}
    (inside : ∀ found, value = some found → Json.everywhere test found = true) :
    ∀ field ∈ Json.optionalField name value, Json.everywhere test field.2 = true := by
  cases value with
  | none => exact List.forall_mem_nil _
  | some found =>
      intro field member
      exact List.mem_singleton.mp member ▸ inside found rfl

theorem Json.everywhere_unless {absent : Prop} [Decidable absent] {name : String} {value : Json}
    (inside : Json.everywhere test value = true) :
    ∀ field ∈ Json.optionalField name (if absent then none else some value),
      Json.everywhere test field.2 = true := by
  refine Json.everywhere_optionalField (fun found same => ?_)
  split at same
  · cases same
  · cases same
    exact inside

theorem Json.everywhere_flag (structural : Json.Structural test) (name : String) (flag : Bool) :
    ∀ field ∈ Json.optionalField name (if flag then some (.bool true) else none),
      Json.everywhere test field.2 = true := by
  refine Json.everywhere_optionalField (fun found same => ?_)
  split at same
  · cases same
    exact structural.bool true
  · cases same

theorem Json.names_optionalField (name : String) (value : Option Json) :
    ((Json.optionalField name value).map Prod.fst).Sublist [name] := by
  cases value with
  | none => exact List.nil_sublist _
  | some found => exact List.Sublist.refl _

theorem Parameter.everywhere_toJson (structural : Json.Structural test) {parameter : Parameter}
    (sized : Json.everywhere test parameter.size = true) :
    Json.everywhere test parameter.toJson = true := by
  rw [Parameter.toJson_eq, Json.everywhere_object]
  constructor
  · refine structural.object _ ?_
    simp only [List.map_append]
    have names : ["name", "type", "optional", "size"].Nodup := by decide
    refine names.sublist ?_
    exact ((List.Sublist.refl ["name", "type"]).append
      (Json.names_optionalField "optional" _)).append (Json.names_optionalField "size" _)
  · simp only [List.forall_mem_append, List.forall_mem_cons]
    exact ⟨⟨⟨structural.string _, structural.string _, List.forall_mem_nil _⟩,
      Json.everywhere_flag structural _ _⟩, Json.everywhere_unless sized⟩

theorem ReturnShape.everywhere_toJson (structural : Json.Structural test) (shape : ReturnShape) :
    Json.everywhere test shape.toJson = true := by
  have texts : ∀ fields : Fields, (fields.map Prod.fst).Nodup →
      (∀ field ∈ fields, ∃ text, field.2 = .string text) →
      Json.everywhere test (.object fields) = true := by
    intro fields distinct each
    rw [Json.everywhere_object]
    refine ⟨structural.object fields distinct, fun field member => ?_⟩
    obtain ⟨text, same⟩ := each field member
    rw [same]
    exact structural.string text
  cases shape <;> exact texts _ (by simp) (by simp)

theorem Symbol.names_toFields (symbol : Symbol) : (symbol.toFields.map Prod.fst).Nodup := by
  have names : ["name", "type", "inputs", "outputs", "return_shape", "return", "dependencies",
      "assert_retval", "noOutputFormat", "target"].Nodup := by decide
  rw [Symbol.toFields_eq]
  simp only [List.map_append]
  refine names.sublist ?_
  exact (((((List.Sublist.refl ["name", "type", "inputs", "outputs", "return_shape"]).append
    (Json.names_optionalField "return" _)).append
    (Json.names_optionalField "dependencies" _)).append
    (Json.names_optionalField "assert_retval" _)).append
    (Json.names_optionalField "noOutputFormat" _)).append (Json.names_optionalField "target" _)

theorem Symbol.everywhere_toJson (structural : Json.Structural test) {symbol : Symbol}
    (inside : ∀ carried ∈ symbol.carried, Json.everywhere test carried = true) :
    Json.everywhere test symbol.toJson = true := by
  have list : ∀ values : List Json, (∀ value ∈ values, Json.everywhere test value = true) →
      Json.everywhere test (.array values) = true :=
    fun values each => Json.everywhere_array.mpr ⟨structural.array values, each⟩
  have parameters : ∀ values : List Parameter,
      (∀ size ∈ values.map Parameter.size, Json.everywhere test size = true) →
      Json.everywhere test (.array (values.map Parameter.toJson)) = true := by
    intro values sizes
    refine list _ (fun value member => ?_)
    obtain ⟨parameter, among, same⟩ := List.mem_map.mp member
    rw [← same]
    exact Parameter.everywhere_toJson structural (sizes _ (List.mem_map_of_mem among))
  simp only [Symbol.carried, List.forall_mem_append, List.forall_mem_cons] at inside
  obtain ⟨⟨⟨⟨inputs, outputs⟩, dependencies⟩, assertions⟩, target, kind, _⟩ := inside
  rw [Symbol.toJson, Json.everywhere_object]
  refine ⟨structural.object _ symbol.names_toFields, ?_⟩
  rw [Symbol.toFields_eq]
  simp only [List.forall_mem_append, List.forall_mem_cons]
  refine ⟨⟨⟨⟨⟨⟨structural.string _, kind, parameters _ inputs, parameters _ outputs,
    ReturnShape.everywhere_toJson structural _, List.forall_mem_nil _⟩, ?_⟩, ?_⟩, ?_⟩, ?_⟩, ?_⟩
  · refine Json.everywhere_optionalField (fun found same => ?_)
    obtain ⟨expression, _, same⟩ := Option.map_eq_some_iff.mp same
    exact same ▸ structural.string expression
  · exact Json.everywhere_unless (list _ dependencies)
  · exact Json.everywhere_unless (list _ assertions)
  · exact Json.everywhere_flag structural _ _
  · exact Json.everywhere_unless target

theorem Constant.everywhere_toJson (structural : Json.Structural test) (constant : Constant) :
    Json.everywhere test constant.toJson = true := by
  rw [Constant.toJson, Json.everywhere_object]
  simp only [List.forall_mem_cons]
  refine ⟨structural.object _ ?_, structural.string _, structural.string _, List.forall_mem_nil _⟩
  have names : ["name", "type"].Nodup := by decide
  exact names

theorem Catalog.everywhere_toJson (structural : Json.Structural test) {catalog : Catalog}
    (inside : ∀ symbol ∈ catalog.symbols, ∀ carried ∈ symbol.carried,
      Json.everywhere test carried = true) :
    Json.everywhere test catalog.toJson = true := by
  have names : ["version", "symbols", "constants"].Nodup := by decide
  rw [Catalog.toJson, Json.everywhere_object]
  refine ⟨structural.object _ names, ?_⟩
  simp only [Catalog.toFields, List.forall_mem_cons]
  refine ⟨structural.string _, ?_, ?_, List.forall_mem_nil _⟩
  · refine Json.everywhere_array.mpr ⟨structural.array _, fun value member => ?_⟩
    obtain ⟨symbol, among, same⟩ := List.mem_map.mp member
    exact same ▸ Symbol.everywhere_toJson structural (inside symbol among)
  · refine Json.everywhere_array.mpr ⟨structural.array _, fun value member => ?_⟩
    obtain ⟨constant, _, same⟩ := List.mem_map.mp member
    exact same ▸ Constant.everywhere_toJson structural constant

end

end WrapperTypings

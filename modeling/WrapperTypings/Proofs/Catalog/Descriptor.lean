import WrapperTypings.Catalog.Descriptor
import WrapperTypings.Document.Signature
import WrapperTypings.Proofs.Catalog.ReturnShape
import WrapperTypings.Proofs.Json.Fields
import WrapperTypings.Proofs.Outcome

set_option autoImplicit false

/-! Descriptors read back. The symbols that descriptors describe are those whose names and types
are not empty where a descriptor needs them, and writing such a symbol loses nothing: whatever is
left out is what reading puts in its place, and a shape that was inferred is read as the explicit
one that was written for it. -/

namespace WrapperTypings

open Descriptor (Fields Fault)

namespace Descriptor

section
variable {κ ν : Type} [Readable κ ν]

private theorem filled_eq_ok_iff {fault : Fault} {name : String} {fields : List (κ × ν)}
    {text : String} :
    filled fault name fields = .ok text ↔
      Readable.view (field name fields) = .text text ∧ text ≠ "" := by
  unfold filled
  cases Readable.view (field name fields) with
  | text found =>
      by_cases empty : found = ""
      · simp only [if_pos empty, reduceCtorEq, false_iff, View.text.injEq]
        rintro ⟨same, filled⟩
        exact filled (same ▸ empty)
      · simp only [if_neg empty, Except.ok.injEq, View.text.injEq]
        constructor
        · intro same
          exact ⟨same, same ▸ empty⟩
        · exact And.left
  | _ => simp

private theorem name_eq_ok {subject : Subject} {fields : List (κ × ν)} {text : String} :
    Descriptor.name subject fields = .ok text ↔
      Readable.view (field "name" fields) = .text text ∧ text ≠ "" :=
  filled_eq_ok_iff

private theorem token_eq_ok {subject : Subject} {owner : String} {fields : List (κ × ν)}
    {text : String} :
    token subject owner fields = .ok text ↔ Readable.view (field "type" fields) = .text text := by
  unfold token
  cases Readable.view (field "type" fields) <;> simp

@[grind =] theorem object_eq_ok {subject : Subject} {value : ν} {fields : List (κ × ν)} :
    object subject value = .ok fields ↔ Readable.view value = .fields fields := by
  unfold object
  cases Readable.view value <;> simp

theorem eq_of_object_eq_error {subject : Subject} {value : ν} {fault : Fault}
    (failed : object subject value = .error fault) :
    fault = .notAnObject subject (Readable.kindName value) := by
  unfold object at failed
  split at failed <;> cases failed
  rfl

theorem eq_of_name_eq_error {subject : Subject} {fields : List (κ × ν)} {fault : Fault}
    (failed : Descriptor.name subject fields = .error fault) : fault = .missingName subject := by
  unfold Descriptor.name filled at failed
  split at failed
  · split at failed <;> cases failed
    rfl
  · cases failed
    rfl

private theorem eq_of_token_eq_error {subject : Subject} {owner : String} {fields : List (κ × ν)}
    {fault : Fault} (failed : token subject owner fields = .error fault) :
    fault = .missingType subject owner := by
  unfold token at failed
  split at failed <;> cases failed
  rfl

theorem eq_of_items_eq_error {name owner : String} {fields : List (κ × ν)} {fault : Fault}
    (failed : items name owner fields = .error fault) : fault = .notAList name owner := by
  unfold items at failed
  split at failed <;> cases failed
  rfl

end

@[simp]
theorem field_json (name : String) (fields : Fields) : field name fields = Json.field name fields :=
  rfl

@[simp]
theorem lookup?_json (name : String) (fields : Fields) :
    Readable.lookup? name fields = Json.lookup? name fields :=
  rfl

@[simp]
theorem isNothing_json (value : Json) : Readable.isNothing value = value.isNothing :=
  rfl

section
variable {value : Json}

@[simp]
theorem view_eq_null_iff : Readable.view value = .null ↔ value = .null := by
  cases value <;> simp [Readable.view]

@[simp]
theorem view_eq_text_iff {text : String} :
    Readable.view value = .text text ↔ value = .string text := by
  cases value <;> simp [Readable.view]

@[simp]
theorem view_eq_items_iff {items : List Json} :
    Readable.view value = .items items ↔ value = .array items := by
  cases value <;> simp [Readable.view]

@[simp]
theorem view_eq_fields_iff {fields : Fields} :
    Readable.view value = .fields fields ↔ value = .object fields := by
  cases value <;> simp [Readable.view]

end

end Descriptor

open Descriptor

namespace ReturnShape

def Named : ReturnShape → Prop
  | .plain typeName => typeName ≠ ""
  | .paired binary string => binary ≠ "" ∧ string ≠ ""
  | _ => True

theorem memberType_eq_ok_iff {name member : String} {fields : Fields} :
    memberType name fields = .ok member ↔
      Json.field name fields = .string member ∧ member ≠ "" := by
  rw [← view_eq_text_iff]
  exact filled_eq_ok_iff

private theorem kind?_eq_some_iff {fields : Fields} {kind : String} :
    kind? fields = some kind ↔ Json.field "kind" fields = .string kind := by
  rw [← view_eq_text_iff]
  unfold kind?
  rw [field_json]
  cases Readable.view (Json.field "kind" fields) <;> simp

theorem ofJson_object (fields : Fields) : ofJson (.object fields) =
    if Json.field "kind" fields = .string "plain" then do
      let typeName ← memberType "type" fields
      .ok (.plain typeName)
    else if Json.field "kind" fields = .string "boolean" then .ok .boolean
    else if Json.field "kind" fields = .string "numeric" then .ok .numeric
    else if Json.field "kind" fields = .string "text" then .ok .text
    else if Json.field "kind" fields = .string "paired" then do
      let binary ← memberType "binary" fields
      let string ← memberType "string" fields
      .ok (.paired binary string)
    else .error (.unknownShapeKind (Json.field "kind" fields).inspect) := by
  simp only [← kind?_eq_some_iff]
  rfl

private theorem ofJson_toJson {shape : ReturnShape} (named : shape.Named) :
    ofJson shape.toJson = .ok shape := by
  cases shape with
  | plain typeName =>
      let fields : Fields := [("kind", .string "plain"), ("type", .string typeName)]
      have read : memberType "type" fields = .ok typeName := memberType_eq_ok_iff.mpr ⟨rfl, named⟩
      change ofJson (.object fields) = _
      have kind : Json.field "kind" fields = .string "plain" := rfl
      rw [ofJson_object, if_pos kind, read]
      rfl
  | paired binary string =>
      let fields : Fields :=
        [("kind", .string "paired"), ("binary", .string binary), ("string", .string string)]
      have readBinary : memberType "binary" fields = .ok binary :=
        memberType_eq_ok_iff.mpr ⟨rfl, named.1⟩
      have readString : memberType "string" fields = .ok string :=
        memberType_eq_ok_iff.mpr ⟨rfl, named.2⟩
      have kind : Json.field "kind" fields = .string "paired" := rfl
      change ofJson (.object fields) = _
      simp only [ofJson_object, kind, Json.string.injEq, String.reduceEq, if_false, if_true,
        readBinary, readString]
      rfl
  | boolean => rfl
  | numeric => rfl
  | text => rfl

private theorem named_of_ofJson {value : Json} {shape : ReturnShape}
    (read : ofJson value = .ok shape) :
    shape.Named := by
  cases value with
  | object fields =>
      rw [ofJson_object] at read
      split at read
      · obtain ⟨typeName, found, same⟩ := Outcome.bind_eq_ok.mp read
        cases same
        exact (memberType_eq_ok_iff.mp found).2
      split at read
      · cases read
        trivial
      split at read
      · cases read
        trivial
      split at read
      · cases read
        trivial
      split at read
      · obtain ⟨binary, foundBinary, read⟩ := Outcome.bind_eq_ok.mp read
        obtain ⟨string, foundString, same⟩ := Outcome.bind_eq_ok.mp read
        cases same
        exact ⟨(memberType_eq_ok_iff.mp foundBinary).2, (memberType_eq_ok_iff.mp foundString).2⟩
      · cases read
  | _ => cases read

private theorem structuredOpenings_named :
    ∀ opening ∈ structuredOpenings, opening.2.1 ≠ "" ∧ opening.2.2 ≠ "" := by
  decide

private theorem infer_named (expression : Option String) : (infer expression).Named := by
  have decided := decided_infer expression
  generalize infer expression = shape at decided
  cases decided with
  | nothing unformatted => exact (by decide : "void" ≠ "")
  | record structured among => exact structuredOpenings_named _ among
  | formatted unchecked unstringified formats => exact ⟨by decide, by decide⟩
  | verbatim given filled unchecked unstringified unformatted => exact filled
  | random _ | checked _ _ | stringified _ _ => trivial

@[simp]
theorem resolve_null (expression : Option String) :
    resolve expression Json.null = .ok (infer expression) :=
  rfl

theorem resolve_of_ne_null {expression : Option String} {explicit : Json}
    (given : explicit ≠ .null) : resolve expression explicit = ofJson explicit := by
  cases explicit with
  | null => exact absurd rfl given
  | _ => rfl

private theorem named_of_resolve {expression : Option String} {explicit : Json}
    {shape : ReturnShape}
    (resolved : resolve expression explicit = .ok shape) : shape.Named := by
  by_cases inferred : explicit = .null
  · rw [inferred] at resolved
    cases resolved
    exact infer_named expression
  · rw [resolve_of_ne_null inferred] at resolved
    exact named_of_ofJson resolved

private theorem resolve_toJson {shape : ReturnShape} (named : shape.Named)
    (expression : Option String) :
    resolve expression shape.toJson = .ok shape :=
  ofJson_toJson named

end ReturnShape

namespace Descriptor

private theorem name_eq_ok_iff {subject : Subject} {fields : Fields} {text : String} :
    Descriptor.name subject fields = .ok text ↔
      Json.field "name" fields = .string text ∧ text ≠ "" := by
  rw [name_eq_ok, field_json, view_eq_text_iff]

private theorem object_eq_ok_iff {subject : Subject} {value : Json} {fields : Fields} :
    object subject value = .ok fields ↔ value = .object fields := by
  rw [object_eq_ok, view_eq_fields_iff]

theorem items_eq_ok_iff {name owner : String} {fields : Fields} {found : List Json} :
    items name owner fields = .ok found ↔
      Json.field name fields = .null ∧ found = [] ∨ Json.field name fields = .array found := by
  rw [← view_eq_null_iff, ← view_eq_items_iff]
  unfold items
  rw [field_json]
  cases Readable.view (Json.field name fields) <;> simp [eq_comm]

section
variable {κ ν α : Type} [Readable κ ν] {subject : Subject} {make : List (κ × ν) → String → String → α}

/-- Reads an object with a name and a type. Parameters, constants and the fields of records are read
like this and differ in what is made of the object. -/
def entry (subject : Subject) (make : List (κ × ν) → String → String → α) (value : ν) :
    Except Fault α := do
  let fields ← object subject value
  let name ← Descriptor.name subject fields
  let token ← Descriptor.token subject name fields
  .ok (make fields name token)

theorem entry_eq_ok_iff {value : ν} {made : α} :
    entry subject make value = .ok made ↔ ∃ fields name token,
      Readable.view value = .fields fields ∧
      Readable.view (field "name" fields) = .text name ∧ name ≠ "" ∧
      Readable.view (field "type" fields) = .text token ∧ make fields name token = made := by
  unfold entry
  constructor
  · intro read
    obtain ⟨fields, isObject, read⟩ := Outcome.bind_eq_ok.mp read
    obtain ⟨name, hasName, read⟩ := Outcome.bind_eq_ok.mp read
    obtain ⟨token, hasType, same⟩ := Outcome.bind_eq_ok.mp read
    obtain ⟨named, filled⟩ := name_eq_ok.mp hasName
    exact ⟨fields, name, token, object_eq_ok.mp isObject, named, filled, token_eq_ok.mp hasType,
      Except.ok.inj same⟩
  · rintro ⟨fields, name, token, isObject, named, filled, typed, same⟩
    refine Outcome.bind_eq_ok.mpr ⟨fields, object_eq_ok.mpr isObject, ?_⟩
    refine Outcome.bind_eq_ok.mpr ⟨name, name_eq_ok.mpr ⟨named, filled⟩, ?_⟩
    exact Outcome.bind_eq_ok.mpr ⟨token, token_eq_ok.mpr typed, congrArg Except.ok same⟩

theorem ne_tooLong_of_entry_eq_error {value : ν} {fault : Fault}
    (failed : entry subject make value = .error fault) : fault ≠ .integerTooLong := by
  rcases Outcome.bind_eq_error.mp failed with noObject | ⟨fields, _, failed⟩
  · rw [eq_of_object_eq_error noObject]
    exact nofun
  rcases Outcome.bind_eq_error.mp failed with noName | ⟨name, _, failed⟩
  · rw [eq_of_name_eq_error noName]
    exact nofun
  rcases Outcome.bind_eq_error.mp failed with noType | ⟨_, _, impossible⟩
  · rw [eq_of_token_eq_error noType]
    exact nofun
  · cases impossible

end

end Descriptor

open Descriptor

namespace Parameter

theorem toJson_eq (parameter : Parameter) : parameter.toJson = .object (
    [("name", .string parameter.name), ("type", .string parameter.token)] ++
    Json.optionalField "optional" (if parameter.optional then some (.bool true) else none) ++
    Json.optionalField "size" (if parameter.size = .null then none else some parameter.size)) := by
  rw [Json.optionalField_if, Json.optionalField_unless]
  rfl

theorem ofJson_eq_ok_iff {owner : String} {value : Json} {parameter : Parameter} :
    ofJson owner value = .ok parameter ↔ ∃ fields, value = .object fields ∧
      Json.field "name" fields = .string parameter.name ∧ parameter.name ≠ "" ∧
      Json.field "type" fields = .string parameter.token ∧
      flag "optional" fields = parameter.optional ∧
      Json.field "size" fields = parameter.size := by
  have reads : ofJson owner value = entry (.parameter owner) (fun fields name token =>
      ⟨name, token, flag "optional" fields, Json.field "size" fields⟩) value := rfl
  rw [reads, entry_eq_ok_iff]
  simp only [view_eq_fields_iff, field_json, view_eq_text_iff]
  constructor
  · rintro ⟨fields, name, token, isObject, named, filled, typed, same⟩
    cases same
    exact ⟨fields, isObject, named, filled, typed, rfl, rfl⟩
  · rintro ⟨fields, isObject, named, filled, typed, flagged, sized⟩
    refine ⟨fields, parameter.name, parameter.token, isObject, named, filled, typed, ?_⟩
    rw [flagged, sized]

private theorem ofJson_toJson (owner : String) {parameter : Parameter}
    (named : parameter.name ≠ "") :
    ofJson owner parameter.toJson = .ok parameter := by
  refine ofJson_eq_ok_iff.mpr ⟨_, parameter.toJson_eq, ?_, named, ?_, ?_, ?_⟩
  · simp [Json.field, Json.lookup?]
  · simp [Json.field, Json.lookup?]
  · cases parameter.optional <;>
      simp [flag, Json.field, Json.lookup?, Json.isNothing]
  · by_cases absent : parameter.size = .null <;>
      simp [Json.field, Json.lookup?, absent]

private theorem mapM_ofJson_toJson (owner : String) {parameters : List Parameter}
    (named : ∀ parameter ∈ parameters, parameter.name ≠ "") :
    (parameters.map toJson).mapM (ofJson owner) = .ok parameters := by
  rw [Outcome.mapM_eq_ok, List.forall₂_map_left_iff, List.forall₂_same]
  exact fun parameter member => ofJson_toJson owner (named parameter member)

private theorem named_of_mapM_ofJson {owner : String} {values : List Json}
    {parameters : List Parameter}
    (read : values.mapM (ofJson owner) = .ok parameters) :
    ∀ parameter ∈ parameters, parameter.name ≠ "" := by
  intro parameter member
  obtain ⟨value, _, readOne⟩ := Outcome.exists_of_mapM_eq_ok read parameter member
  obtain ⟨fields, _, _, filled, _⟩ := ofJson_eq_ok_iff.mp readOne
  exact filled

end Parameter

namespace Constant

theorem ofJson_eq_ok_iff {value : Json} {constant : Constant} :
    ofJson value = .ok constant ↔ ∃ fields, value = .object fields ∧
      Json.field "name" fields = .string constant.name ∧ constant.name ≠ "" ∧
      Json.field "type" fields = .string constant.token := by
  have reads : ofJson value = entry .constant (fun _ name token => ⟨name, token⟩) value := rfl
  rw [reads, entry_eq_ok_iff]
  simp only [view_eq_fields_iff, field_json, view_eq_text_iff]
  constructor
  · rintro ⟨fields, name, token, isObject, named, filled, typed, same⟩
    cases same
    exact ⟨fields, isObject, named, filled, typed⟩
  · rintro ⟨fields, isObject, named, filled, typed⟩
    exact ⟨fields, constant.name, constant.token, isObject, named, filled, typed, rfl⟩

theorem ofJson_toJson {constant : Constant} (named : constant.name ≠ "") :
    ofJson constant.toJson = .ok constant :=
  ofJson_eq_ok_iff.mpr ⟨_, rfl, rfl, named, rfl⟩

end Constant

namespace Symbol

theorem eq_of_returnOf_eq_error {κ ν : Type} [Readable κ ν] {name : String} {fields : List (κ × ν)}
    {fault : Fault} (failed : returnOf name fields = .error fault) : fault = .returnNotText name := by
  unfold returnOf at failed
  split at failed <;> cases failed
  rfl

theorem returnOf_eq_ok_iff {name : String} {fields : Fields} {expression : Option String} :
    returnOf name fields = .ok expression ↔
      Json.field "return" fields = .null ∧ expression = none ∨
        ∃ text, Json.field "return" fields = .string text ∧ expression = some text := by
  simp only [← view_eq_null_iff, ← view_eq_text_iff]
  unfold returnOf
  rw [field_json]
  cases Readable.view (Json.field "return" fields) <;> simp [eq_comm]

theorem ofJson_eq_ok_iff {value : Json} {symbol : Symbol} :
    ofJson value = .ok symbol ↔ ∃ fields, value = .object fields ∧
      Json.field "name" fields = .string symbol.name ∧ symbol.name ≠ "" ∧
      returnOf symbol.name fields = .ok symbol.returnExpression ∧
      (∃ inputs, items "inputs" symbol.name fields = .ok inputs ∧
        inputs.mapM (Parameter.ofJson symbol.name) = .ok symbol.inputs) ∧
      (∃ outputs, items "outputs" symbol.name fields = .ok outputs ∧
        outputs.mapM (Parameter.ofJson symbol.name) = .ok symbol.outputs) ∧
      ReturnShape.resolve symbol.returnExpression (Json.field "return_shape" fields) =
        .ok symbol.shape ∧
      items "dependencies" symbol.name fields = .ok symbol.dependencies ∧
      items "assert_retval" symbol.name fields = .ok symbol.assertions ∧
      flag "noOutputFormat" fields = symbol.noOutputFormat ∧
      Json.field "target" fields = symbol.target ∧
      (Json.lookup? "type" fields).getD (.string "function") = symbol.kind := by
  unfold ofJson
  constructor
  · intro read
    obtain ⟨fields, isObject, read⟩ := Outcome.bind_eq_ok.mp read
    obtain ⟨name, hasName, read⟩ := Outcome.bind_eq_ok.mp read
    obtain ⟨expression, returns, read⟩ := Outcome.bind_eq_ok.mp read
    obtain ⟨inputs, listsInputs, read⟩ := Outcome.bind_eq_ok.mp read
    obtain ⟨readInputs, inputsRead, read⟩ := Outcome.bind_eq_ok.mp read
    obtain ⟨outputs, listsOutputs, read⟩ := Outcome.bind_eq_ok.mp read
    obtain ⟨readOutputs, outputsRead, read⟩ := Outcome.bind_eq_ok.mp read
    obtain ⟨shape, resolved, read⟩ := Outcome.bind_eq_ok.mp read
    obtain ⟨dependencies, depends, read⟩ := Outcome.bind_eq_ok.mp read
    obtain ⟨assertions, asserts, same⟩ := Outcome.bind_eq_ok.mp read
    cases same
    obtain ⟨named, filled⟩ := name_eq_ok_iff.mp hasName
    exact ⟨fields, object_eq_ok_iff.mp isObject, named, filled, returns,
      ⟨inputs, listsInputs, inputsRead⟩, ⟨outputs, listsOutputs, outputsRead⟩, resolved, depends,
      asserts, rfl, rfl, rfl⟩
  · rintro ⟨fields, isObject, named, filled, returns, ⟨inputs, listsInputs, inputsRead⟩,
      ⟨outputs, listsOutputs, outputsRead⟩, resolved, depends, asserts, flagged, targeted, kinded⟩
    refine Outcome.bind_eq_ok.mpr ⟨fields, object_eq_ok_iff.mpr isObject, ?_⟩
    refine Outcome.bind_eq_ok.mpr ⟨symbol.name, name_eq_ok_iff.mpr ⟨named, filled⟩, ?_⟩
    refine Outcome.bind_eq_ok.mpr ⟨symbol.returnExpression, returns, ?_⟩
    refine Outcome.bind_eq_ok.mpr ⟨inputs, listsInputs, ?_⟩
    refine Outcome.bind_eq_ok.mpr ⟨symbol.inputs, inputsRead, ?_⟩
    refine Outcome.bind_eq_ok.mpr ⟨outputs, listsOutputs, ?_⟩
    refine Outcome.bind_eq_ok.mpr ⟨symbol.outputs, outputsRead, ?_⟩
    refine Outcome.bind_eq_ok.mpr ⟨symbol.shape, resolved, ?_⟩
    refine Outcome.bind_eq_ok.mpr ⟨symbol.dependencies, depends, ?_⟩
    refine Outcome.bind_eq_ok.mpr ⟨symbol.assertions, asserts, ?_⟩
    rw [flagged, field_json, targeted, lookup?_json]
    exact congrArg Except.ok (congrArg (fun kind => { symbol with kind }) kinded)

/-- A symbol that a descriptor can describe: its name, the names of its inputs and outputs, and
the types of its shape are not empty. -/
structure Describable (symbol : Symbol) : Prop where
  named : symbol.name ≠ ""
  inputsNamed : ∀ parameter ∈ symbol.inputs, parameter.name ≠ ""
  outputsNamed : ∀ parameter ∈ symbol.outputs, parameter.name ≠ ""
  shapeNamed : symbol.shape.Named

theorem describable_of_ofJson {value : Json} {symbol : Symbol} (read : ofJson value = .ok symbol) :
    symbol.Describable := by
  obtain ⟨fields, _, _, filled, _, ⟨_, _, inputsRead⟩, ⟨_, _, outputsRead⟩, resolved, _⟩ :=
    ofJson_eq_ok_iff.mp read
  exact ⟨filled, Parameter.named_of_mapM_ofJson inputsRead,
    Parameter.named_of_mapM_ofJson outputsRead, ReturnShape.named_of_resolve resolved⟩

theorem toFields_eq (symbol : Symbol) : symbol.toFields =
    [("name", .string symbol.name),
      ("type", symbol.kind),
      ("inputs", .array (symbol.inputs.map Parameter.toJson)),
      ("outputs", .array (symbol.outputs.map Parameter.toJson)),
      ("return_shape", symbol.shape.toJson)] ++
    Json.optionalField "return" (symbol.returnExpression.map .string) ++
    Json.optionalField "dependencies"
      (if symbol.dependencies = [] then none else some (.array symbol.dependencies)) ++
    Json.optionalField "assert_retval"
      (if symbol.assertions = [] then none else some (.array symbol.assertions)) ++
    Json.optionalField "noOutputFormat"
      (if symbol.noOutputFormat then some (.bool true) else none) ++
    Json.optionalField "target" (if symbol.target = .null then none else some symbol.target) := by
  simp only [Json.optionalField_unless, Json.optionalField_if]
  unfold toFields
  cases symbol.returnExpression with
  | none => rfl
  | some expression => rfl

section
variable (symbol : Symbol)

private theorem returnOf_toFields :
    returnOf symbol.name symbol.toFields = .ok symbol.returnExpression := by
  rw [returnOf_eq_ok_iff, toFields_eq]
  cases symbol.returnExpression <;>
    simp [Json.field, Json.lookup?]

private theorem items_dependencies_toFields :
    items "dependencies" symbol.name symbol.toFields = .ok symbol.dependencies := by
  rw [items_eq_ok_iff, toFields_eq]
  by_cases empty : symbol.dependencies = [] <;>
    simp [Json.field, Json.lookup?, empty]

private theorem items_assertions_toFields :
    items "assert_retval" symbol.name symbol.toFields = .ok symbol.assertions := by
  rw [items_eq_ok_iff, toFields_eq]
  by_cases empty : symbol.assertions = [] <;>
    simp [Json.field, Json.lookup?, empty]

private theorem flag_toFields : flag "noOutputFormat" symbol.toFields = symbol.noOutputFormat := by
  unfold flag
  rw [toFields_eq]
  cases symbol.noOutputFormat <;>
    simp [Json.field, Json.lookup?, Json.isNothing]

private theorem target_toFields : Json.field "target" symbol.toFields = symbol.target := by
  rw [toFields_eq]
  by_cases absent : symbol.target = .null <;>
    simp [Json.field, Json.lookup?, absent]

end

theorem ofJson_toJson {symbol : Symbol} (describable : symbol.Describable) :
    ofJson symbol.toJson = .ok symbol := by
  refine ofJson_eq_ok_iff.mpr ⟨symbol.toFields, rfl, rfl, describable.named,
    symbol.returnOf_toFields,
    ⟨symbol.inputs.map Parameter.toJson, rfl,
      Parameter.mapM_ofJson_toJson symbol.name describable.inputsNamed⟩,
    ⟨symbol.outputs.map Parameter.toJson, rfl,
      Parameter.mapM_ofJson_toJson symbol.name describable.outputsNamed⟩,
    ReturnShape.resolve_toJson describable.shapeNamed symbol.returnExpression,
    symbol.items_dependencies_toFields, symbol.items_assertions_toFields, symbol.flag_toFields,
    symbol.target_toFields, rfl⟩

def normalForm (value : Json) : Except Fault Json :=
  (ofJson value).map toJson

/-- Whatever a descriptor says, and however its shape was found, the descriptor written for what
was read says the same: it is read to the same symbol, with the same signatures, and is its own
normal form. -/
theorem ofJson_toJson_of_ofJson {value : Json} {symbol : Symbol}
    (read : ofJson value = .ok symbol) :
    ofJson symbol.toJson = .ok symbol ∧
    normalForm value = .ok symbol.toJson ∧
    normalForm symbol.toJson = .ok symbol.toJson ∧
    (ofJson symbol.toJson).map signatures = (ofJson value).map signatures := by
  have again : ofJson symbol.toJson = .ok symbol := ofJson_toJson (describable_of_ofJson read)
  refine ⟨again, ?_, ?_, ?_⟩
  · unfold normalForm
    rw [read]
    rfl
  · unfold normalForm
    rw [again]
    rfl
  · rw [again, read]

def sampleDescriptor : Json :=
  .object [
    ("return", .string "_format_output(\x7bmac: mac, cipher: cipher\x7d, outputFormat)"),
    ("type", .null),
    ("inputs", .array [
      .object [("type", .string "buf"), ("size", .array [.int 8]), ("name", .string "key")],
      .object [("name", .string "nonce"), ("optional", .int 1), ("type", .string "")]]),
    ("outputs", .null),
    ("name", .string "crypto_secretbox_detached"),
    ("return_shape", .null),
    ("dependencies", .array [.bool true, .object [("b", .null), ("a", .int 2)]]),
    ("target", .object [("sumo", .bool false)])]

def sampleSymbol : Symbol :=
  { name := "crypto_secretbox_detached"
    inputs := [⟨"key", "buf", false, .array [.int 8]⟩, ⟨"nonce", "", true, .null⟩]
    outputs := []
    returnExpression :=
      some "_format_output(\x7bmac: mac, cipher: cipher\x7d, outputFormat)"
    shape := .paired "SecretBox" "StringSecretBox"
    dependencies := [.bool true, .object [("b", .null), ("a", .int 2)]]
    assertions := []
    noOutputFormat := false
    target := .object [("sumo", .bool false)]
    kind := .null }

theorem ofJson_sampleDescriptor : ofJson sampleDescriptor = .ok sampleSymbol := by
  decide +kernel

theorem ofJson_toJson_sampleDescriptor : ofJson sampleDescriptor = .ok sampleSymbol ∧
    ofJson sampleSymbol.toJson = .ok sampleSymbol :=
  ⟨ofJson_sampleDescriptor, (ofJson_toJson_of_ofJson ofJson_sampleDescriptor).1⟩

end Symbol

end WrapperTypings

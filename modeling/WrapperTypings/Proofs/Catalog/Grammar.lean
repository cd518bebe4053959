import WrapperTypings.Proofs.Catalog.Descriptor

set_option autoImplicit false

/-! The values that are descriptors, said without reading them: which fields an object must have and
of which kind each of them is. Reading comes to a symbol, a constant or a shape for exactly these
values. -/

namespace WrapperTypings

namespace Descriptor

def IsText : Json → Prop
  | .string _ => True
  | _ => False

def IsFilled : Json → Prop
  | .string text => text ≠ ""
  | _ => False

def IsListOf (Accepted : Json → Prop) : Json → Prop
  | .null => True
  | .array items => ∀ item ∈ items, Accepted item
  | _ => False

def IsEntry : Json → Prop
  | .object fields => IsFilled (Json.field "name" fields) ∧ IsText (Json.field "type" fields)
  | _ => False

def IsShape : Json → Prop
  | .object fields =>
      Json.field "kind" fields ∈ [.string "boolean", .string "numeric", .string "text"] ∨
      Json.field "kind" fields = .string "plain" ∧ IsFilled (Json.field "type" fields) ∨
      Json.field "kind" fields = .string "paired" ∧ IsFilled (Json.field "binary" fields) ∧
        IsFilled (Json.field "string" fields)
  | _ => False

/-- Fields that describe a symbol; all but the name may be missing or null. -/
structure DescribesSymbol (fields : Fields) : Prop where
  name : IsFilled (Json.field "name" fields)
  returns : Json.field "return" fields = .null ∨ IsText (Json.field "return" fields)
  inputs : IsListOf IsEntry (Json.field "inputs" fields)
  outputs : IsListOf IsEntry (Json.field "outputs" fields)
  dependencies : IsListOf (fun _ => True) (Json.field "dependencies" fields)
  assertions : IsListOf (fun _ => True) (Json.field "assert_retval" fields)
  shape : Json.field "return_shape" fields = .null ∨ IsShape (Json.field "return_shape" fields)

def IsSymbol : Json → Prop
  | .object fields => DescribesSymbol fields
  | _ => False

instance : DecidablePred IsText
  | .string _ => isTrue trivial
  | .null | .bool _ | .int _ | .float _ | .array _ | .object _ => isFalse id

instance : DecidablePred IsFilled
  | .string text => inferInstanceAs (Decidable (text ≠ ""))
  | .null | .bool _ | .int _ | .float _ | .array _ | .object _ => isFalse id

instance : DecidablePred IsEntry
  | .object _ => inferInstanceAs (Decidable (_ ∧ _))
  | .null | .bool _ | .int _ | .float _ | .string _ | .array _ => isFalse id

private theorem isText_iff {value : Json} : IsText value ↔ ∃ text, value = .string text := by
  cases value <;> simp [IsText]

private theorem isFilled_iff {value : Json} :
    IsFilled value ↔ ∃ text, value = .string text ∧ text ≠ "" := by
  cases value <;> simp [IsFilled]

private theorem isEntry_iff {value : Json} : IsEntry value ↔ ∃ fields name token,
    value = .object fields ∧ Json.field "name" fields = .string name ∧ name ≠ "" ∧
      Json.field "type" fields = .string token := by
  constructor
  · intro entry
    cases value with
    | object fields =>
        obtain ⟨name, named, filled⟩ := isFilled_iff.mp entry.1
        obtain ⟨token, typed⟩ := isText_iff.mp entry.2
        exact ⟨fields, name, token, rfl, named, filled, typed⟩
    | _ => exact entry.elim
  · rintro ⟨fields, name, token, rfl, named, filled, typed⟩
    exact ⟨isFilled_iff.mpr ⟨name, named, filled⟩, isText_iff.mpr ⟨token, typed⟩⟩

private theorem exists_items_iff {α : Type} {field : String} (owner : String) {fields : Fields}
    {step : Json → Except Fault α} {Accepted : Json → Prop}
    (each : ∀ item, (∃ result, step item = .ok result) ↔ Accepted item) :
    (∃ list, items field owner fields = .ok list ∧ ∃ results, list.mapM step = .ok results) ↔
      IsListOf Accepted (Json.field field fields) := by
  simp only [Outcome.exists_mapM_eq_ok_iff, each, items_eq_ok_iff]
  unfold IsListOf
  cases Json.field field fields <;> simp

private theorem exists_items_eq_ok_iff {field : String} (owner : String) {fields : Fields} :
    (∃ list, items field owner fields = .ok list) ↔
      IsListOf (fun _ => True) (Json.field field fields) := by
  simp only [items_eq_ok_iff]
  unfold IsListOf
  cases Json.field field fields <;> simp

end Descriptor

open Descriptor

theorem Parameter.exists_ofJson_iff (owner : String) {value : Json} :
    (∃ parameter, ofJson owner value = .ok parameter) ↔ IsEntry value := by
  rw [isEntry_iff]
  constructor
  · rintro ⟨parameter, read⟩
    obtain ⟨fields, isObject, named, filled, typed, _⟩ := ofJson_eq_ok_iff.mp read
    exact ⟨fields, parameter.name, parameter.token, isObject, named, filled, typed⟩
  · rintro ⟨fields, name, token, isObject, named, filled, typed⟩
    exact ⟨⟨name, token, flag "optional" fields, Json.field "size" fields⟩,
      ofJson_eq_ok_iff.mpr ⟨fields, isObject, named, filled, typed, rfl, rfl⟩⟩

theorem Constant.exists_ofJson_iff {value : Json} :
    (∃ constant, ofJson value = .ok constant) ↔ IsEntry value := by
  rw [isEntry_iff]
  constructor
  · rintro ⟨constant, read⟩
    obtain ⟨fields, isObject, named, filled, typed⟩ := ofJson_eq_ok_iff.mp read
    exact ⟨fields, constant.name, constant.token, isObject, named, filled, typed⟩
  · rintro ⟨fields, name, token, isObject, named, filled, typed⟩
    exact ⟨⟨name, token⟩, ofJson_eq_ok_iff.mpr ⟨fields, isObject, named, filled, typed⟩⟩

namespace ReturnShape

private theorem exists_memberType_iff {field : String} {fields : Fields} :
    (∃ text, memberType field fields = .ok text) ↔ IsFilled (Json.field field fields) := by
  simp only [memberType_eq_ok_iff, isFilled_iff]

private theorem exists_ofJson_iff {value : Json} :
    (∃ shape, ofJson value = .ok shape) ↔ IsShape value := by
  cases value with
  | object fields =>
      rw [ofJson_object]
      unfold IsShape
      by_cases plain : Json.field "kind" fields = .string "plain"
      · simp [plain, Outcome.bind_eq_ok, exists_memberType_iff]
      by_cases boolean : Json.field "kind" fields = .string "boolean"
      · simp [boolean]
      by_cases numeric : Json.field "kind" fields = .string "numeric"
      · simp [numeric]
      by_cases text : Json.field "kind" fields = .string "text"
      · simp [text]
      by_cases paired : Json.field "kind" fields = .string "paired"
      · simp [paired, Outcome.bind_eq_ok, exists_memberType_iff]
      · simp [plain, boolean, numeric, text, paired]
  | _ =>
      constructor
      · rintro ⟨shape, read⟩
        cases read
      · exact False.elim

private theorem exists_resolve_iff (expression : Option String) {explicit : Json} :
    (∃ shape, resolve expression explicit = .ok shape) ↔
      explicit = .null ∨ IsShape explicit := by
  rw [← exists_ofJson_iff]
  by_cases inferred : explicit = .null
  · simp [inferred]
  · simp [inferred, resolve_of_ne_null]

end ReturnShape

namespace Symbol

private theorem exists_returnOf_iff (name : String) {fields : Fields} :
    (∃ expression, returnOf name fields = .ok expression) ↔
      Json.field "return" fields = .null ∨ IsText (Json.field "return" fields) := by
  simp only [returnOf_eq_ok_iff]
  unfold IsText
  cases Json.field "return" fields <;> simp

theorem exists_ofJson_iff {value : Json} :
    (∃ symbol, ofJson value = .ok symbol) ↔ IsSymbol value := by
  constructor
  · rintro ⟨symbol, read⟩
    obtain ⟨fields, rfl, named, filled, returns, ⟨inputs, listsInputs, inputsRead⟩,
      ⟨outputs, listsOutputs, outputsRead⟩, resolved, depends, asserts, _⟩ :=
      ofJson_eq_ok_iff.mp read
    exact {
      name := isFilled_iff.mpr ⟨symbol.name, named, filled⟩
      returns := (exists_returnOf_iff _).mp ⟨_, returns⟩
      inputs := (exists_items_iff _ (fun _ => Parameter.exists_ofJson_iff _)).mp
        ⟨inputs, listsInputs, _, inputsRead⟩
      outputs := (exists_items_iff _ (fun _ => Parameter.exists_ofJson_iff _)).mp
        ⟨outputs, listsOutputs, _, outputsRead⟩
      dependencies := (exists_items_eq_ok_iff _).mp ⟨_, depends⟩
      assertions := (exists_items_eq_ok_iff _).mp ⟨_, asserts⟩
      shape := (ReturnShape.exists_resolve_iff _).mp ⟨_, resolved⟩ }
  · intro describes
    cases value with
    | object fields =>
        obtain ⟨name, named, filled⟩ := isFilled_iff.mp describes.name
        obtain ⟨expression, returns⟩ := (exists_returnOf_iff name).mpr describes.returns
        have entries (field : String) (listed : IsListOf IsEntry (Json.field field fields)) :=
          (exists_items_iff name (fun _ => Parameter.exists_ofJson_iff name)).mpr listed
        obtain ⟨inputs, listsInputs, readInputs, inputsRead⟩ := entries "inputs" describes.inputs
        obtain ⟨outputs, listsOutputs, readOutputs, outputsRead⟩ :=
          entries "outputs" describes.outputs
        obtain ⟨dependencies, depends⟩ :=
          (exists_items_eq_ok_iff name).mpr describes.dependencies
        obtain ⟨assertions, asserts⟩ :=
          (exists_items_eq_ok_iff name).mpr describes.assertions
        obtain ⟨shape, resolved⟩ :=
          (ReturnShape.exists_resolve_iff expression).mpr describes.shape
        exact ⟨⟨name, readInputs, readOutputs, expression, shape, dependencies, assertions,
            flag "noOutputFormat" fields, Json.field "target" fields,
            (Json.lookup? "type" fields).getD (.string "function")⟩,
          ofJson_eq_ok_iff.mpr ⟨fields, rfl, named, filled, returns,
            ⟨inputs, listsInputs, inputsRead⟩, ⟨outputs, listsOutputs, outputsRead⟩, resolved,
            depends, asserts, rfl, rfl, rfl⟩⟩
    | _ => exact describes.elim

end Symbol

end WrapperTypings

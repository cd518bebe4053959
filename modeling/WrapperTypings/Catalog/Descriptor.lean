import WrapperTypings.Catalog.Basic
import WrapperTypings.Value.Text

set_option autoImplicit false

/-! Descriptors: the form of the catalog's entries as values. They are read from JSON, and those of
utility functions from any other value. Reading checks the required fields and fixes the return shape
once; writing leaves out what reading supplies by default. -/

namespace WrapperTypings

namespace Descriptor

inductive Subject where
  | symbol
  | constant
  | parameter (owner : String)
  | recordField (record : String)
  | declarations
  deriving DecidableEq, Repr

def Subject.text : Subject → String
  | .symbol => "Symbol descriptor"
  | .constant => "Constant descriptor"
  | .parameter owner => "IO entry of " ++ owner
  | .recordField record => "Field of record " ++ record
  | .declarations => "Declarations"

def Subject.entryText (name : String) : Subject → String
  | .parameter owner => "IO entry '" ++ name ++ "' of " ++ owner
  | .recordField record => "Field '" ++ name ++ "' of record " ++ record
  | .constant => "Constant '" ++ name ++ "'"
  | subject => subject.text ++ " '" ++ name ++ "'"

inductive Fault where
  | notAnObject (subject : Subject) (kind : String)
  | missingName (subject : Subject)
  | missingType (subject : Subject) (name : String)
  | notAList (field owner : String)
  | returnNotText (symbol : String)
  | shapeNotAnObject (kind : String)
  | unknownShapeKind (kind : String)
  | missingShapeType (field : String)
  /-- A text that cannot be written, since an integer in it has too many digits. This is no fault of a
  descriptor. -/
  | integerTooLong
  deriving DecidableEq

def unwrittenMessage : String :=
  "Exceeds the limit (4300 digits) for integer string conversion; " ++
    "use sys.set_int_max_str_digits() to increase the limit"

def Fault.message : Fault → String
  | .notAnObject subject kind => subject.text ++ " must be an object, got " ++ kind
  | .missingName subject => subject.text ++ " is missing a 'name'"
  | .missingType subject name => subject.entryText name ++ " is missing a 'type'"
  | .notAList field owner => "'" ++ field ++ "' of " ++ owner ++ " must be a list"
  | .returnNotText symbol => "'return' of symbol '" ++ symbol ++ "' must be a string"
  | .shapeNotAnObject kind => "return_shape must be an object, got " ++ kind
  | .unknownShapeKind kind => "Unknown return_shape kind: " ++ kind
  | .missingShapeType field => "return_shape requires a non-empty string '" ++ field ++ "'"
  | .integerTooLong => unwrittenMessage

def written : Option String → Except Fault String
  | some text => .ok text
  | none => .error .integerTooLong

/-- What descriptors tell apart about a value. -/
inductive View (κ ν : Type) where
  | null
  | text (text : String)
  | items (items : List ν)
  | fields (fields : List (κ × ν))
  | other

/-- A sort of values that descriptors are given in; `κ` is what the fields of its objects are named
by. -/
class Readable (κ : outParam Type) (ν : Type) where
  view : ν → View κ ν
  ofText : String → ν
  null : ν
  lookup? : String → List (κ × ν) → Option ν
  kindName : ν → String
  isNothing : ν → Bool
  members? : ν → Option (List ν)
  /-- A value as messages cite it, and the name of a field in them. -/
  inspect? : ν → Option String
  keyText? : κ → Option String

instance : Readable String Json where
  view
    | .null => .null
    | .string text => .text text
    | .array items => .items items
    | .object fields => .fields fields
    | _ => .other
  ofText := .string
  null := .null
  lookup? := Json.lookup?
  kindName := Json.kindName
  isNothing := Json.isNothing
  members? := Json.members?
  inspect? value := some value.inspect
  keyText? := some

instance : Readable Value Value where
  view
    | .null => .null
    | .string text => .text text
    | .list items => .items items
    | .map entries => .fields entries
    | _ => .other
  ofText := .string
  null := .null
  lookup? := Value.lookup?
  kindName := Value.kindName
  isNothing := Value.isNothing
  members? := Value.members?
  inspect? := Value.inspect?
  keyText? := Value.display?

abbrev Fields := List (String × Json)

section
variable {κ ν : Type} [Readable κ ν]

def field (name : String) (fields : List (κ × ν)) : ν :=
  (Readable.lookup? name fields).getD Readable.null

def object (subject : Subject) (value : ν) : Except Fault (List (κ × ν)) :=
  match Readable.view value with
  | .fields fields => .ok fields
  | _ => .error (.notAnObject subject (Readable.kindName value))

def filled (fault : Fault) (name : String) (fields : List (κ × ν)) : Except Fault String :=
  match Readable.view (field name fields) with
  | .text text => if text = "" then .error fault else .ok text
  | _ => .error fault

def name (subject : Subject) (fields : List (κ × ν)) : Except Fault String :=
  filled (.missingName subject) "name" fields

def token (subject : Subject) (name : String) (fields : List (κ × ν)) : Except Fault String :=
  match Readable.view (field "type" fields) with
  | .text token => .ok token
  | _ => .error (.missingType subject name)

def items (name owner : String) (fields : List (κ × ν)) : Except Fault (List ν) :=
  match Readable.view (field name fields) with
  | .null => .ok []
  | .items items => .ok items
  | _ => .error (.notAList name owner)

def flag (name : String) (fields : List (κ × ν)) : Bool :=
  !Readable.isNothing (field name fields)

end

end Descriptor

open Descriptor

section
variable {κ ν : Type} [Readable κ ν]

namespace ReturnShape

def memberType (name : String) (fields : List (κ × ν)) : Except Fault String :=
  filled (.missingShapeType name) name fields

def kind? (fields : List (κ × ν)) : Option String :=
  match Readable.view (field "kind" fields) with
  | .text kind => some kind
  | _ => none

def read (value : ν) : Except Fault ReturnShape :=
  match Readable.view value with
  | .fields fields =>
      let kind := kind? fields
      if kind = some "plain" then do
        let typeName ← memberType "type" fields
        .ok (.plain typeName)
      else if kind = some "boolean" then .ok .boolean
      else if kind = some "numeric" then .ok .numeric
      else if kind = some "text" then .ok .text
      else if kind = some "paired" then do
        let binary ← memberType "binary" fields
        let string ← memberType "string" fields
        .ok (.paired binary string)
      else do
        let kind ← written (Readable.inspect? (field "kind" fields))
        .error (.unknownShapeKind kind)
  | _ => .error (.shapeNotAnObject (Readable.kindName value))

def ofJson (value : Json) : Except Fault ReturnShape :=
  read value

def toJson (shape : ReturnShape) : Json :=
  .object (("kind", .string shape.kindName) ::
    match shape with
    | .plain typeName => [("type", .string typeName)]
    | .paired binary string => [("binary", .string binary), ("string", .string string)]
    | _ => [])

/-- The shape of a symbol: the explicit one unless it is null, otherwise the inferred one. -/
def resolve (expression : Option String) (explicit : ν) : Except Fault ReturnShape :=
  match Readable.view explicit with
  | .null => .ok (infer expression)
  | _ => read explicit

end ReturnShape

namespace Parameter

def read (owner : String) (value : ν) : Except Fault (Parameter ν) := do
  let fields ← object (.parameter owner) value
  let name ← Descriptor.name (.parameter owner) fields
  let token ← Descriptor.token (.parameter owner) name fields
  .ok ⟨name, token, flag "optional" fields, field "size" fields⟩

def ofJson (owner : String) (value : Json) : Except Fault Parameter :=
  read owner value

def toJson (parameter : Parameter) : Json :=
  .object (
    [("name", .string parameter.name), ("type", .string parameter.token)] ++
    (if parameter.optional then [("optional", .bool true)] else []) ++
    (if parameter.size = .null then [] else [("size", parameter.size)]))

end Parameter

namespace Symbol

def returnOf (name : String) (fields : List (κ × ν)) : Except Fault (Option String) :=
  match Readable.view (field "return" fields) with
  | .null => .ok none
  | .text expression => .ok (some expression)
  | _ => .error (.returnNotText name)

/-- Reads a symbol. A missing kind is "function"; a null one stays null. -/
def read (value : ν) : Except Fault (Symbol ν) := do
  let fields ← object .symbol value
  let name ← Descriptor.name .symbol fields
  let returnExpression ← returnOf name fields
  let inputs ← (← items "inputs" name fields).mapM (Parameter.read name)
  let outputs ← (← items "outputs" name fields).mapM (Parameter.read name)
  let shape ← ReturnShape.resolve returnExpression (field "return_shape" fields)
  let dependencies ← items "dependencies" name fields
  let assertions ← items "assert_retval" name fields
  .ok {
    name, inputs, outputs, returnExpression, shape, dependencies, assertions
    noOutputFormat := flag "noOutputFormat" fields
    target := field "target" fields
    kind := (Readable.lookup? "type" fields).getD (Readable.ofText "function") }

def ofJson (value : Json) : Except Fault Symbol :=
  read value

def toFields (symbol : Symbol) : Fields :=
  [("name", .string symbol.name),
    ("type", symbol.kind),
    ("inputs", .array (symbol.inputs.map Parameter.toJson)),
    ("outputs", .array (symbol.outputs.map Parameter.toJson)),
    ("return_shape", symbol.shape.toJson)] ++
  (match symbol.returnExpression with
    | some expression => [("return", .string expression)]
    | none => []) ++
  (if symbol.dependencies = [] then [] else [("dependencies", .array symbol.dependencies)]) ++
  (if symbol.assertions = [] then [] else [("assert_retval", .array symbol.assertions)]) ++
  (if symbol.noOutputFormat then [("noOutputFormat", .bool true)] else []) ++
  (if symbol.target = .null then [] else [("target", symbol.target)])

def toJson (symbol : Symbol) : Json :=
  .object symbol.toFields

end Symbol

end

namespace Constant

def ofJson (value : Json) : Except Fault Constant := do
  let fields ← object .constant value
  let name ← Descriptor.name .constant fields
  let token ← Descriptor.token .constant name fields
  .ok ⟨name, token⟩

def toJson (constant : Constant) : Json :=
  .object [("name", .string constant.name), ("type", .string constant.token)]

end Constant

namespace Catalog

def toFields (catalog : Catalog) : Fields :=
  [("version", .string catalog.version),
    ("symbols", .array (catalog.symbols.map Symbol.toJson)),
    ("constants", .array (catalog.constants.map Constant.toJson))]

def toJson (catalog : Catalog) : Json :=
  .object catalog.toFields

end Catalog

end WrapperTypings

import WrapperTypings.Text.LowerCase
import WrapperTypings.Value.Text

set_option autoImplicit false

namespace WrapperTypings

inductive Variant where
  | standard
  | sumo
  deriving DecidableEq, Repr, Inhabited

namespace Variant

def name : Variant → String
  | .standard => "standard"
  | .sumo => "sumo"

def ofName? (name : String) : Option Variant :=
  if name = "standard" then some .standard
  else if name = "sumo" then some .sumo
  else none

def ofValue? : Json → Option Variant
  | .string name => ofName? name
  | _ => none

def ofFlag (sumo : Bool) : Variant :=
  if sumo then .sumo else .standard

def suffix : Variant → String
  | .standard => ""
  | .sumo => "-sumo"

def moduleName (variant : Variant) (base : String) : String :=
  base ++ variant.suffix

def fileName (variant : Variant) (base : String) : String :=
  base ++ variant.suffix ++ ".d.ts"

def exports (variant : Variant) (excluded : List String) (name : String) : Bool :=
  match variant with
  | .sumo => true
  | .standard => !excluded.contains (Text.lower name)

def select {α : Type} (nameOf : α → String) (excluded : List String) (variant : Variant)
    (entries : List α) : List α :=
  entries.filter (fun entry => variant.exports excluded (nameOf entry))

@[simp] theorem select_sumo {α : Type} (nameOf : α → String) (excluded : List String)
    (entries : List α) : select nameOf excluded .sumo entries = entries := by
  simp [select, exports]

end Variant

end WrapperTypings

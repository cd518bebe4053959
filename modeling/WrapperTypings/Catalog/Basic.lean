import WrapperTypings.Catalog.ReturnShape
import WrapperTypings.Json.Basic

set_option autoImplicit false

namespace WrapperTypings

structure Parameter (ν : Type := Json) where
  name : String
  token : String
  optional : Bool
  size : ν
  deriving DecidableEq, Inhabited

/-- An exported function. The dependencies, assertions, target and kind are carried through for
dumps; a null target is an absent one. They are values of the sort that descriptors are given in. -/
structure Symbol (ν : Type := Json) where
  name : String
  inputs : List (Parameter ν)
  outputs : List (Parameter ν)
  returnExpression : Option String
  shape : ReturnShape
  dependencies : List ν
  assertions : List ν
  noOutputFormat : Bool
  target : ν
  kind : ν
  deriving DecidableEq, Inhabited

structure Constant where
  name : String
  token : String
  deriving DecidableEq, Repr, Inhabited

structure Catalog where
  version : String
  symbols : List Symbol
  constants : List Constant
  deriving DecidableEq, Inhabited

namespace Catalog

def symbol? (catalog : Catalog) (name : String) : Option Symbol :=
  catalog.symbols.find? (fun symbol => symbol.name = name)

def constant? (catalog : Catalog) (name : String) : Option Constant :=
  catalog.constants.find? (fun constant => constant.name = name)

end Catalog

end WrapperTypings

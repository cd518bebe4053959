set_option autoImplicit false

namespace WrapperTypings.Yaml

inductive Token where
  | streamStart
  | streamEnd
  | versionDirective (major : Nat)
  | tagDirective (handle lead : String)
  | otherDirective
  | documentStart
  | documentEnd
  | blockSequenceStart
  | blockMappingStart
  | blockEnd
  | flowSequenceStart
  | flowSequenceEnd
  | flowMappingStart
  | flowMappingEnd
  | blockEntry
  | flowEntry
  | key
  | value
  | reference (name : String)
  | anchor (name : String)
  /-- A tag; without a handle the suffix is the whole tag. -/
  | tag (handle : Option String) (suffix : String)
  | scalar (text : String) (plain : Bool)
  deriving DecidableEq, Repr, Inhabited

/-- What a stage hands on: its items in order, and the fault that ended them, if one did. An
item counts only if the next stage asks for it before the fault. -/
structure Stream (ε α : Type) where
  items : List α
  fault : Option ε

end WrapperTypings.Yaml

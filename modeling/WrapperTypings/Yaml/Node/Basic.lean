import WrapperTypings.Yaml.Tag

set_option autoImplicit false

/-! The nodes of a document. An alias stands for a copy of its node, except inside that node,
where it says so. -/

namespace WrapperTypings.Yaml

inductive Node where
  | scalar (tag : Tag) (text : String)
  | sequence (tag : Tag) (items : List Node)
  | mapping (tag : Tag) (entries : List (Node × Node))
  | again (isMap : Bool)
  deriving Inhabited

namespace Node

def isMerge : Node → Bool
  | .scalar tag _ => tag == .merge
  | .sequence tag _ => tag == .merge
  | .mapping tag _ => tag == .merge
  | .again _ => false

def isDefault : Node → Bool
  | .scalar tag _ => tag == .default
  | .sequence tag _ => tag == .default
  | .mapping tag _ => tag == .default
  | .again _ => false

mutual

def height : Node → Nat
  | .scalar _ _ => 1
  | .sequence _ items => heightItems items + 1
  | .mapping _ entries => heightEntries entries + 1
  | .again _ => 1

def heightItems : List Node → Nat
  | [] => 0
  | item :: rest => max (height item) (heightItems rest)

def heightEntries : List (Node × Node) → Nat
  | [] => 0
  | (key, value) :: rest => max (max (height key) (height value)) (heightEntries rest)

end

mutual

/-- The text of a scalar. A mapping lends the text of its default value. -/
def scalarText? : Node → Option String
  | .scalar _ text => some text
  | .sequence _ _ => none
  | .mapping _ entries => defaultText? entries
  | .again _ => none

def defaultText? : List (Node × Node) → Option String
  | [] => none
  | (key, value) :: rest => if key.isDefault then scalarText? value else defaultText? rest

end

end Node

end WrapperTypings.Yaml

import WrapperTypings.Yaml.Node.Reader
import WrapperTypings.Yaml.ScalarValue

set_option autoImplicit false

/-! The value of a document. Of several faults the one nearest to the root counts, and of equally
near ones the first. -/

namespace WrapperTypings.Yaml

/-- A fault in the value of a node, with its distance from the root. -/
structure Located where
  depth : Nat
  fault : Fault
  deriving DecidableEq, Repr

abbrev Valued (α : Type) := Except Located α

namespace Valued

/-- Both values, or of their faults the one nearer to the root, the first if they are equally
near. -/
def both {α β : Type} (first : Valued α) (second : Valued β) : Valued (α × β) :=
  match first, second with
  | .ok a, .ok b => .ok (a, b)
  | .error fault, .ok _ => .error fault
  | .ok _, .error fault => .error fault
  | .error fault, .error later => .error (if later.depth < fault.depth then later else fault)

def all {α : Type} (values : List (Valued α)) : Valued (List α) :=
  values.foldr (fun value rest => (both value rest).map (fun pair => pair.1 :: pair.2)) (.ok [])

def fail {α : Type} (depth : Nat) (fault : Fault) : Valued α :=
  .error ⟨depth, fault⟩

end Valued

def plainKey (key : Node) : Node :=
  if !key.isDefault then key
  else
    match key with
    | .scalar _ text => .scalar .string text
    | .sequence _ items => .sequence .string items
    | .mapping _ entries => .mapping .string entries
    | node => node

/-- The entries of a mapping with those of its merged mappings in front. A merge of several
mappings puts the last one first, and a node is never merged into itself. -/
def mergedEntries : Nat → List (Node × Node) → Except Fault (List (Node × Node))
  | 0, _ => .error .value
  | fuel + 1, entries => do
      let merged ← (entries.filter (·.1.isMerge)).mapM (fun entry =>
        match entry.2 with
        | .mapping _ inner => mergedEntries fuel inner
        | .sequence _ items => do
            let parts ← items.mapM (fun item =>
              match item with
              | .mapping _ inner => mergedEntries fuel inner
              | .again true => .ok []
              | _ => .error Fault.value)
            -- Entries in front are overridden, so the first of several mappings has to come last.
            .ok parts.reverse.flatten
        | .again true => .ok []
        | _ => .error Fault.value)
      let own := (entries.filter (!·.1.isMerge)).map (fun entry => (plainKey entry.1, entry.2))
      .ok (merged.flatten ++ own)

def mergedAt (depth : Nat) (entries : List (Node × Node)) : Valued (List (Node × Node)) :=
  (mergedEntries (Node.heightEntries entries + 1) entries).mapError (fun fault => ⟨depth, fault⟩)

def isCollection (tag : Tag) : Bool :=
  [Tag.sequence, .mapping, .set, .orderedPairs, .pairs].contains tag

def isContainer : Node → Bool
  | .scalar tag _ => isCollection tag
  | .sequence tag _ => isCollection tag
  | .mapping tag _ => isCollection tag
  | .again _ => true

def keyAt (depth : Nat) (value : Node → Valued Value) (key : Node) : Valued Value :=
  if isContainer key then Valued.fail depth .value else value key

def singleEntry? : Node → Option (Node × Node)
  | .mapping _ [entry] => some entry
  | _ => none

def entriesAt (depth : Nat) (value : Node → Valued Value) (entries : List (Node × Node)) :
    Valued (List (Value × Value)) := do
  let entries ← mergedAt depth entries
  Valued.all (entries.map (fun entry => (keyAt depth value entry.1).both (value entry.2)))

def pairsAt (depth : Nat) (value : Node → Valued Value) (items : List Node) :
    Valued (List Value) :=
  Valued.all (items.map (fun item =>
    match singleEntry? item with
    | some (first, second) =>
        ((value first).both (value second)).map (fun pair => Value.pair pair.1 pair.2)
    | none => Valued.fail depth .value))

def mapOf (entries : List (Value × Value)) : Value :=
  .map (entries.foldl (fun map entry => Value.putEntry entry.1 entry.2 map) [])

def setOf (entries : List (Value × Value)) : Value :=
  .set (entries.foldl (fun members entry => Value.putMember entry.1 members) [])

/-- The value of a node at a depth. What a collection holds lies one level deeper than it, and
so do the faults of its own form. -/
def valueAt : Nat → Nat → Node → Valued Value
  | 0, depth, _ => Valued.fail depth .value
  | _ + 1, _, .again isMap => .ok (.again isMap)
  | _ + 1, depth, .scalar tag text =>
      if isCollection tag then Valued.fail (depth + 1) .value
      else (scalarValue tag text).mapError (fun fault => ⟨depth, fault⟩)
  | fuel + 1, depth, .sequence tag items =>
      let inner := valueAt fuel (depth + 1)
      if tag = .sequence then (Valued.all (items.map inner)).map Value.list
      else if tag = .orderedPairs || tag = .pairs then
        (pairsAt (depth + 1) inner items).map Value.list
      else Valued.fail (if isCollection tag then depth + 1 else depth) .value
  | fuel + 1, depth, .mapping tag entries =>
      let inner := valueAt fuel (depth + 1)
      if tag = .mapping then (entriesAt (depth + 1) inner entries).map mapOf
      else if tag = .set then (entriesAt (depth + 1) inner entries).map setOf
      else if isCollection tag then Valued.fail (depth + 1) .value
      else
        match (Node.mapping tag entries).scalarText? with
        | some text => (scalarValue tag text).mapError (fun fault => ⟨depth, fault⟩)
        | none => Valued.fail depth .value

def read (conditions : Conditions) (content : ByteArray) : Except Fault Value := do
  match ← Node.ofSource conditions.room (Source.ofBytes conditions content) with
  | none => .ok .null
  | some root => (valueAt (2 * root.height + 2) 0 root).mapError Located.fault

end WrapperTypings.Yaml

import WrapperTypings.Calendar
import WrapperTypings.Json.Basic

set_option autoImplicit false

namespace WrapperTypings

inductive Value where
  | null
  | bool (value : Bool)
  | int (value : Int)
  | float (value : Binary64)
  | string (value : String)
  | bytes (value : List UInt8)
  | date (value : Date)
  | moment (value : Moment)
  | list (items : List Value)
  | pair (first second : Value)
  | set (members : List Value)
  | map (entries : List (Value × Value))
  /-- A value that contains itself, at the place where it comes round again. What is looked into before
  that place has to be written out. -/
  | again (isMap : Bool)
  deriving Inhabited

namespace Value

mutual

def ofJson : Json → Value
  | .null => .null
  | .bool value => .bool value
  | .int value => .int value
  | .float value => .float value
  | .string value => .string value
  | .array items => .list (ofItems items)
  | .object fields => .map (ofFields fields)

def ofItems : List Json → List Value
  | [] => []
  | item :: rest => ofJson item :: ofItems rest

def ofFields : List (String × Json) → List (Value × Value)
  | [] => []
  | (name, value) :: rest => (.string name, ofJson value) :: ofFields rest

end

def isNothing : Value → Bool
  | .null => true
  | .bool value => !value
  | .int value => value == 0
  | .float value => value.isZero
  | .string value => value.isEmpty
  | .bytes value => value.isEmpty
  | .list items => items.isEmpty
  | .set members => members.isEmpty
  | .map entries => entries.isEmpty
  | _ => false

inductive Numeral where
  | int (value : Int)
  | float (value : Binary64)

def numeral? : Value → Option Numeral
  | .bool value => some (.int (if value then 1 else 0))
  | .int value => some (.int value)
  | .float value => some (.float value)
  | _ => none

def Numeral.same : Numeral → Numeral → Bool
  | .int a, .int b => a == b
  | .int a, .float b => b.equalsInt a
  | .float a, .int b => a.equalsInt b
  | .float a, .float b => a.sameNumber b

/-- Whether two keys are the same key: numbers by their value, everything else by its kind and
content. -/
def sameKey (a b : Value) : Bool :=
  match numeral? a, numeral? b with
  | some x, some y => x.same y
  | none, none =>
      match a, b with
      | .null, .null => true
      | .string x, .string y => x == y
      | .bytes x, .bytes y => x == y
      | .date x, .date y => x == y
      | .moment x, .moment y => x == y
      | _, _ => false
  | _, _ => false

/-- Sets an entry: in place, keeping the old key, if the key is there, otherwise at the end. -/
def putEntry (key value : Value) : List (Value × Value) → List (Value × Value)
  | [] => [(key, value)]
  | (k, old) :: rest =>
      if sameKey k key then (k, value) :: rest else (k, old) :: putEntry key value rest

def putMember (member : Value) (members : List Value) : List Value :=
  if members.any (fun m => sameKey m member) then members else members ++ [member]

def kindName : Value → String
  | .null => "NoneType"
  | .bool _ => "bool"
  | .int _ => "int"
  | .float _ => "float"
  | .string _ => "str"
  | .bytes _ => "bytes"
  | .date _ => "date"
  | .moment _ => "datetime"
  | .list _ => "list"
  | .pair _ _ => "tuple"
  | .set _ => "set"
  | .map _ => "dict"
  | .again isMap => if isMap then "dict" else "list"

def lookup? (name : String) : List (Value × Value) → Option Value
  | [] => none
  | (.string key, value) :: rest => if key = name then some value else lookup? name rest
  | _ :: rest => lookup? name rest

def field (name : String) (entries : List (Value × Value)) : Value :=
  (lookup? name entries).getD .null

def members? : Value → Option (List Value)
  | .string text => some ((Text.pieces text).map Value.string)
  | .bytes value => some (value.map (fun b => .int b.toNat))
  | .list items => some items
  | .pair first second => some [first, second]
  | .set members => some members
  | .map entries => some (entries.map Prod.fst)
  | _ => none

def length? : Value → Option Nat
  | .string value => some (Text.points value).length
  | .bytes value => some value.length
  | .list items => some items.length
  | .pair _ _ => some 2
  | .set members => some members.length
  | .map entries => some entries.length
  | _ => none

end Value

end WrapperTypings

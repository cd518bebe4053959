import WrapperTypings.Value.Basic
import WrapperTypings.Binary64.Text
import WrapperTypings.Text.Quoted

set_option autoImplicit false

namespace WrapperTypings

def boolText (value : Bool) : String :=
  if value then "True" else "False"

def quotedByte (quote : Char) (b : UInt8) : List Char :=
  let c := Char.ofNat b.toNat
  if b < 128 && (c = quote || c = '\\') then ['\\', c]
  else if c = '\n' then ['\\', 'n']
  else if c = '\r' then ['\\', 'r']
  else if c = '\t' then ['\\', 't']
  else if 32 ≤ b && b < 127 then [c]
  else '\\' :: 'x' :: Text.hexDigits 2 b.toNat

def quotedBytes (bytes : List UInt8) : String :=
  let quote := Text.quoteFor (bytes.map (fun b => Char.ofNat b.toNat))
  String.ofList ('b' :: quote :: bytes.flatMap (quotedByte quote) ++ [quote])

namespace Value

mutual

def inspect : Value → String
  | .null => "None"
  | .bool value => boolText value
  | .int value => toString value
  | .float value => value.text
  | .string value => Text.quoted value
  | .bytes value => quotedBytes value
  | .date value => value.inspect
  | .moment value => value.inspect
  | .list items => "[" ++ String.intercalate ", " (inspectItems items) ++ "]"
  | .pair first second => "(" ++ inspect first ++ ", " ++ inspect second ++ ")"
  | .set [] => "set()"
  | .set (member :: rest) =>
      "\x7b" ++ String.intercalate ", " (inspect member :: inspectItems rest) ++ "\x7d"
  | .map entries => "\x7b" ++ String.intercalate ", " (inspectEntries entries) ++ "\x7d"
  | .again isMap => if isMap then "\x7b...\x7d" else "[...]"

def inspectItems : List Value → List String
  | [] => []
  | item :: rest => inspect item :: inspectItems rest

def inspectEntries : List (Value × Value) → List String
  | [] => []
  | (key, value) :: rest => (inspect key ++ ": " ++ inspect value) :: inspectEntries rest

end

def display : Value → String
  | .string value => value
  | .date value => value.text
  | .moment value => value.text
  | value => value.inspect

def digitLimit : Nat := 4300

mutual

def isWritable : Value → Bool
  | .int value => value.natAbs < Nat.pow 10 digitLimit
  | .list items => areWritable items
  | .pair first second => isWritable first && isWritable second
  | .set members => areWritable members
  | .map entries => areWritableEntries entries
  | _ => true

def areWritable : List Value → Bool
  | [] => true
  | item :: rest => isWritable item && areWritable rest

def areWritableEntries : List (Value × Value) → Bool
  | [] => true
  | (key, value) :: rest => isWritable key && isWritable value && areWritableEntries rest

end

def inspect? (value : Value) : Option String :=
  if value.isWritable then some value.inspect else none

def display? (value : Value) : Option String :=
  if value.isWritable then some value.display else none

end Value

def Json.inspect (value : Json) : String :=
  (Value.ofJson value).inspect

def Json.display (value : Json) : String :=
  (Value.ofJson value).display

end WrapperTypings

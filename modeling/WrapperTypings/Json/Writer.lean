import WrapperTypings.Json.Basic
import WrapperTypings.Binary64.Text
import WrapperTypings.Text.Point
import WrapperTypings.Text.Search

set_option autoImplicit false

namespace WrapperTypings.Json

mutual

def sorted : Json → Json
  | .array items => .array (sortedItems items)
  | .object fields =>
      .object ((sortedFields fields).mergeSort (fun a b => Text.before a.1 b.1))
  | value => value

def sortedItems : List Json → List Json
  | [] => []
  | item :: rest => sorted item :: sortedItems rest

def sortedFields : List (String × Json) → List (String × Json)
  | [] => []
  | (name, value) :: rest => (name, sorted value) :: sortedFields rest

end

def unitEscape (unit : Nat) : List Char :=
  '\\' :: 'u' :: Text.hexDigits 4 unit

def writeChar (c : Char) : List Char :=
  if c = '"' then ['\\', '"']
  else if c = '\\' then ['\\', '\\']
  else if c = '\n' then ['\\', 'n']
  else if c = '\r' then ['\\', 'r']
  else if c = '\t' then ['\\', 't']
  else if c = '\x0c' then ['\\', 'f']
  else if c = '\x08' then ['\\', 'b']
  else if 0x20 ≤ c.toNat && c.toNat ≤ 0x7E then [c]
  else (Text.units c).flatMap unitEscape

def writePoint : Text.Point → List Char
  | .char c => writeChar c
  | .surrogate offset => unitEscape (Text.Point.surrogateCode offset)

def writeString (value : String) : List Char :=
  '"' :: (Text.points value).flatMap writePoint ++ ['"']

def writeFloat : Binary64 → List Char
  | .nan => "NaN".toList
  | .infinite negative => (if negative then "-Infinity" else "Infinity").toList
  | value => value.text.toList

def lineBreak (level : Nat) : List Char :=
  '\n' :: List.replicate (2 * level) ' '

mutual

def writeValue (level : Nat) : Json → List Char
  | .null => "null".toList
  | .bool value => (if value then "true" else "false").toList
  | .int value => (toString value).toList
  | .float value => writeFloat value
  | .string value => writeString value
  | .array [] => ['[', ']']
  | .array (item :: rest) =>
      '[' :: lineBreak (level + 1) ++ writeValue (level + 1) item ++
        writeItems (level + 1) rest ++ lineBreak level ++ [']']
  | .object [] => ['{', '}']
  | .object ((name, value) :: rest) =>
      '{' :: lineBreak (level + 1) ++ writeString name ++ ':' :: ' ' ::
        writeValue (level + 1) value ++ writeFields (level + 1) rest ++ lineBreak level ++ ['}']

def writeItems (level : Nat) : List Json → List Char
  | [] => []
  | item :: rest => ',' :: lineBreak level ++ writeValue level item ++ writeItems level rest

def writeFields (level : Nat) : List (String × Json) → List Char
  | [] => []
  | (name, value) :: rest =>
      ',' :: lineBreak level ++ writeString name ++ ':' :: ' ' :: writeValue level value ++
        writeFields level rest

end

def write (value : Json) : String :=
  String.ofList (writeValue 0 value.sorted)

end WrapperTypings.Json

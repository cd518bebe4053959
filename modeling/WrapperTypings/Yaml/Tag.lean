import WrapperTypings.Text.CodePoint
import WrapperTypings.Yaml.Timestamp

set_option autoImplicit false

namespace WrapperTypings.Yaml

inductive Tag where
  | null
  | bool
  | int
  | float
  | binary
  | timestamp
  | orderedPairs
  | pairs
  | set
  | string
  | sequence
  | mapping
  | merge
  /-- The key that stands for the mapping's default value. -/
  | default
  | unknown
  deriving DecidableEq, Repr

namespace Tag

def standardLead : String := "tag:yaml.org,2002:"

def standardNames : List (String × Tag) :=
  [("null", .null), ("bool", .bool), ("int", .int), ("float", .float), ("binary", .binary),
    ("timestamp", .timestamp), ("omap", .orderedPairs), ("pairs", .pairs), ("set", .set),
    ("str", .string), ("seq", .sequence), ("map", .mapping), ("merge", .merge),
    ("value", .default)]

def ofText (text : String) : Tag :=
  match standardNames.find? (fun entry => standardLead ++ entry.1 == text) with
  | some entry => entry.2
  | none => .unknown

def boolWords : List String :=
  ["yes", "Yes", "YES", "no", "No", "NO", "true", "True", "TRUE", "false", "False", "FALSE",
    "on", "On", "ON", "off", "Off", "OFF"]

def nullWords : List String :=
  ["~", "null", "Null", "NULL", ""]

def unsigned : List Char → List Char
  | '+' :: rest => rest
  | '-' :: rest => rest
  | text => text

def isDigitOrUnderscore (c : Char) : Bool :=
  c.isDigit || c = '_'

def isNumeral : List Char → Bool
  | [] => false
  | c :: rest => c.isDigit && rest.all isDigitOrUnderscore

def isSixty : List Char → Bool
  | [c] => c.isDigit
  | [c, d] => '0' ≤ c && c ≤ '5' && d.isDigit
  | _ => false

/-- Numbers in base sixty have at least two places, joined by colons. -/
def isSixties (text : List Char) : Bool :=
  match Text.parts ':' text with
  | first :: second :: others => isNumeral first && (second :: others).all isSixty
  | _ => false

def looksInt (text : List Char) : Bool :=
  match unsigned text with
  | [] => false
  | ['0'] => true
  | '0' :: 'b' :: digits => !digits.isEmpty && digits.all (fun c => c = '0' || c = '1' || c = '_')
  | '0' :: 'x' :: digits =>
      !digits.isEmpty && digits.all (fun c => (Text.hexValue? c).isSome || c = '_')
  | '0' :: digits => digits.all (fun c => ('0' ≤ c && c ≤ '7') || c = '_')
  | body => isNumeral body || isSixties body

def isExponent : List Char → Bool
  | [] => true
  | c :: sign :: digits =>
      (c = 'e' || c = 'E') && (sign = '+' || sign = '-') && !digits.isEmpty &&
        digits.all Char.isDigit
  | _ => false

def isFraction (text : List Char) : Bool :=
  isExponent (text.dropWhile isDigitOrUnderscore)

def infinityWords : List String :=
  [".inf", ".Inf", ".INF"]

def nanWords : List String :=
  [".nan", ".NaN", ".NAN"]

def looksFloat (text : List Char) : Bool :=
  let body := unsigned text
  let whole := body.takeWhile (· ≠ '.')
  match body.dropWhile (· ≠ '.') with
  | [] => false
  | _ :: fraction =>
      if whole.isEmpty then
        infinityWords.contains (String.ofList body) || nanWords.contains (String.ofList text) ||
          (body.length = text.length && (Text.peek fraction 0).isDigit && isFraction fraction)
      else if isNumeral whole then isFraction fraction
      else isSixties whole && fraction.all isDigitOrUnderscore

def withoutFinalNewline (text : List Char) : List Char :=
  if text.getLast? = some '\n' then text.dropLast else text

/-- The type that plain text looks like. A newline at the end does not matter. -/
def ofPlain (text : String) : Tag :=
  let body := withoutFinalNewline text.toList
  let word := String.ofList body
  if text = "\n" then .string
  else if boolWords.contains word then .bool
  else if looksFloat body then .float
  else if looksInt body then .int
  else if word = "<<" then .merge
  else if nullWords.contains word then .null
  else if Timestamp.looksPlain body then .timestamp
  else if word = "=" then .default
  else if ["!", "&", "*"].contains word then .unknown
  else .string

end Tag

end WrapperTypings.Yaml

import WrapperTypings.Text.Search

set_option autoImplicit false

/-! Return shapes, and how a return expression is classified into one. The expression is never
evaluated: a fixed list of markers is tried in order and the first match decides. -/

namespace WrapperTypings

/-- What a function returns. A paired shape has one type for binary output and one for text. -/
inductive ReturnShape where
  | plain (typeName : String)
  | boolean
  | numeric
  | text
  | paired (binary string : String)
  deriving DecidableEq, Repr, Inhabited

namespace ReturnShape

def kindName : ReturnShape → String
  | .plain _ => "plain"
  | .boolean => "boolean"
  | .numeric => "numeric"
  | .text => "text"
  | .paired _ _ => "paired"

def isPaired : ReturnShape → Bool
  | .paired _ _ => true
  | _ => false

def typeName? : ReturnShape → Option String
  | .plain typeName => some typeName
  | .boolean => some "boolean"
  | .numeric => some "number"
  | .text => some "string"
  | .paired _ _ => none

def void : ReturnShape := .plain "void"

def formatMarker : String := "_format_output"

/-- Openings of expressions that build a record, with the record's binary and text types. -/
def structuredOpenings : List (String × String × String) := [
  ("\x7bpublicKey: _format_output", "KeyPair", "StringKeyPair"),
  ("_format_output(\x7bciphertext: ciphertext, mac: mac\x7d", "CryptoBox", "StringCryptoBox"),
  ("_format_output(\x7bmac: mac, cipher: cipher\x7d", "SecretBox", "StringSecretBox"),
  ("_format_output(\x7bsharedRx: sharedRx, sharedTx: sharedTx\x7d", "CryptoKX",
    "StringCryptoKX")]

def classify (expression : String) : ReturnShape :=
  match structuredOpenings.find? (fun opening => Text.beginsWith expression opening.1) with
  | some (_, binary, string) => .paired binary string
  | none =>
      if expression = "random_value" then .numeric
      else if Text.contains expression "=== 0" then .boolean
      else if Text.contains expression "stringify" then .text
      else if Text.contains expression formatMarker then .paired "Uint8Array" "string"
      else .plain expression

def infer : Option String → ReturnShape
  | none => void
  | some expression => if expression = "" then void else classify expression

def hasSelector (expression : Option String) (shape : ReturnShape) : Bool :=
  shape.isPaired || Text.contains (expression.getD "") formatMarker

end ReturnShape

end WrapperTypings

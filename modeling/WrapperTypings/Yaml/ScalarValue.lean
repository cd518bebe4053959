import WrapperTypings.Text.Base64
import WrapperTypings.Text.Blank
import WrapperTypings.Text.Decimal
import WrapperTypings.Text.LowerCase
import WrapperTypings.Value.Basic
import WrapperTypings.Yaml.Fault
import WrapperTypings.Yaml.Tag

set_option autoImplicit false

namespace WrapperTypings.Yaml

def signed : List Char → Bool × List Char
  | '-' :: rest => (true, rest)
  | '+' :: rest => (false, rest)
  | text => (false, text)

def baseLetter? (base : Nat) : Option Char :=
  match base with
  | 2 => some 'b'
  | 8 => some 'o'
  | 16 => some 'x'
  | _ => none

def withoutBase (base : Nat) (text : List Char) : List Char :=
  match text with
  | '0' :: c :: rest => if baseLetter? base = some c.toLower then rest else text
  | _ => text

def digitIn? (base : Nat) (c : Char) : Option Nat :=
  (Text.hexValue? c).filter (· < base)

def integerDigitLimit : Nat := 4300

def readInteger (base : Nat) (text : List Char) : Except Fault Int :=
  let (negative, body) := signed ((Text.trim text).map Text.plainDigit)
  let digits := withoutBase base body
  match digits.mapM (digitIn? base) with
  | none => .error (.notAnInteger (String.ofList text) base)
  | some values =>
      if values.isEmpty then .error (.notAnInteger (String.ofList text) base)
      else if base = 10 && integerDigitLimit < values.length then
        .error (.integerTooLong values.length)
      else
        let value : Int := (values.foldl (fun value digit => value * base + digit) 0 : Nat)
        .ok (if negative then -value else value)

def sixties (places : List Int) : Int :=
  places.foldl (fun value place => value * 60 + place) 0

def withoutUnderscores (text : String) : List Char :=
  text.toList.filter (· ≠ '_')

/-- An integer: binary and hexadecimal behind `0b` and `0x`, octal behind another zero, in base
sixty where there are colons, otherwise decimal. -/
def intValue (text : String) : Except Fault Int :=
  match withoutUnderscores text with
  | [] => .error .emptyNumber
  | plain => do
      let (negative, body) := signed plain
      let value ←
        match body with
        | [] => .error .emptyNumber
        | ['0'] => .ok 0
        | '0' :: 'b' :: digits => readInteger 2 digits
        | '0' :: 'x' :: digits => readInteger 16 digits
        | '0' :: _ => readInteger 8 body
        | _ =>
            if body.contains ':' then sixties <$> (Text.parts ':' body).mapM (readInteger 10)
            else readInteger 10 body
      .ok (if negative then -value else value)

def readFloat (text : List Char) : Except Fault Binary64 :=
  match Binary64.ofText? ((Text.trim text).map Text.plainDigit) with
  | some value => .ok value
  | none => .error (.notAFloat (String.ofList text))

/-- Places in base sixty from the last to the first, as long as the worth of a place is a number. -/
def floatSixtiesFrom (sum : Binary64) (worth : Nat) : List Binary64 → Except Fault Binary64
  | [] => .ok sum
  | place :: rest =>
      match Binary64.ofInt (worth : Int) with
      | .finite negative significand exponent =>
          floatSixtiesFrom (sum.add (place.mul (.finite negative significand exponent))) (worth * 60) rest
      | _ => .error .floatTooLarge

def floatSixties (places : List Binary64) : Except Fault Binary64 :=
  floatSixtiesFrom (Binary64.ofInt 0) 1 places.reverse

def floatValue (text : String) : Except Fault Binary64 :=
  match (Text.lower (String.ofList (withoutUnderscores text))).toList with
  | [] => .error .emptyNumber
  | plain => do
      let (negative, body) := signed plain
      if String.ofList body = ".nan" then .ok .nan
      else
        let value ←
          if String.ofList body = ".inf" then .ok (.infinite false)
          else if body.contains ':' then (Text.parts ':' body).mapM readFloat >>= floatSixties
          else readFloat body
        .ok (if negative then value.negate else value)

def boolValue (text : String) : Except Fault Bool :=
  let word := Text.lower text
  if ["yes", "true", "on"].contains word then .ok true
  else if ["no", "false", "off"].contains word then .ok false
  else .error .notABool

def binaryValue (text : String) : Except Fault (List UInt8) :=
  if text.toList.all (fun c => c.toNat < 128) then
    match Text.Base64.decode? text.toList with
    | some bytes => .ok bytes
    | none => .error .value
  else .error .value

def timestampValue (text : String) : Except Fault Value :=
  match Timestamp.ofText? (Tag.withoutFinalNewline text.toList) with
  | none => .error .notATimestamp
  | some ⟨year, month, day, _, none⟩ =>
      match Date.check year month day with
      | .ok date => .ok (.date date)
      | .error fault => .error (.calendar fault)
  | some ⟨year, month, day, _, some clock⟩ =>
      match Moment.check year month day clock.hour clock.minute clock.second clock.microsecond
          clock.offset with
      | .ok moment => .ok (.moment moment)
      | .error fault => .error (.calendar fault)

def scalarValue (tag : Tag) (text : String) : Except Fault Value :=
  match tag with
  | .null => .ok .null
  | .bool => .bool <$> boolValue text
  | .int => .int <$> intValue text
  | .float => .float <$> floatValue text
  | .binary => .bytes <$> binaryValue text
  | .timestamp => timestampValue text
  | .string => .ok (.string text)
  | _ => .error .value

end WrapperTypings.Yaml

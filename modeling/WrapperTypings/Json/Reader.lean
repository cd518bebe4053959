import WrapperTypings.Json.Basic
import WrapperTypings.Binary64.Text
import WrapperTypings.Text.Point

set_option autoImplicit false

/-! Reading JSON text. The grammar is the standard one with three more numbers, `NaN`, `Infinity`
and `-Infinity`. A fault carries what was expected and the place where the text went wrong. -/

namespace WrapperTypings.Json

inductive Complaint where
  | expectingValue
  | expectingName
  | expectingColon
  | expectingComma
  | extraData
  | unterminatedText
  | controlCharacter
  | badEscape
  | badUnicodeEscape
  | byteOrderMark
  deriving DecidableEq, Repr

def Complaint.message : Complaint → String
  | .expectingValue => "Expecting value"
  | .expectingName => "Expecting property name enclosed in double quotes"
  | .expectingColon => "Expecting ':' delimiter"
  | .expectingComma => "Expecting ',' delimiter"
  | .extraData => "Extra data"
  | .unterminatedText => "Unterminated string starting at"
  | .controlCharacter => "Invalid control character at"
  | .badEscape => "Invalid \\escape"
  | .badUnicodeEscape => "Invalid \\uXXXX escape"
  | .byteOrderMark => "Unexpected UTF-8 BOM (decode using utf-8-sig)"

/-- Why reading stopped: a complaint with the number of characters left at its place, or an
integer with more digits than are read. -/
inductive Stop where
  | complaint (what : Complaint) (remaining : Nat)
  | integerTooLong (digits : Nat)
  deriving DecidableEq, Repr

inductive Fault where
  | malformed (what : Complaint) (line column offset : Nat)
  | integerTooLong (digits : Nat)
  deriving DecidableEq, Repr

def integerDigitLimit : Nat := 4300

def isSpace (c : Char) : Bool :=
  c = ' ' || c = '\t' || c = '\n' || c = '\r'

def skipSpace (text : List Char) : List Char :=
  text.dropWhile isSpace

def stopAt {α : Type} (what : Complaint) (rest : List Char) : Except Stop α :=
  .error (.complaint what rest.length)

def hexFour? (a b c d : Char) : Option Nat := do
  let a ← Text.hexValue? a
  let b ← Text.hexValue? b
  let c ← Text.hexValue? c
  let d ← Text.hexValue? d
  pure (((a * 16 + b) * 16 + c) * 16 + d)

def simpleEscape? (c : Char) : Option Char :=
  if c = '"' || c = '\\' || c = '/' then some c
  else if c = 'b' then some '\x08'
  else if c = 'f' then some '\x0c'
  else if c = 'n' then some '\n'
  else if c = 'r' then some '\r'
  else if c = 't' then some '\t'
  else none

/-- Reads the rest of a string after its opening quote. `start` is the number of characters left
at that quote, and `done` holds what was read so far, last first. -/
def readString (start : Nat) (done : List Text.Point) : List Char → Except Stop (String × List Char)
  | [] => .error (.complaint .unterminatedText start)
  | '"' :: rest => .ok (Text.ofPoints done.reverse, rest)
  | '\\' :: 'u' :: a :: b :: c :: d :: '\\' :: 'u' :: e :: f :: g :: h :: next :: rest =>
      match hexFour? a b c d with
      | none =>
          stopAt .badUnicodeEscape
            ('u' :: a :: b :: c :: d :: '\\' :: 'u' :: e :: f :: g :: h :: next :: rest)
      | some first =>
          if Text.isHighSurrogate first then
            match hexFour? e f g h with
            | none => stopAt .badUnicodeEscape ('u' :: e :: f :: g :: h :: next :: rest)
            | some second =>
                if Text.isLowSurrogate second then
                  readString start (.char (Text.pairChar first second) :: done) (next :: rest)
                else
                  readString start (.ofCode first :: done)
                    ('\\' :: 'u' :: e :: f :: g :: h :: next :: rest)
          else
            readString start (.ofCode first :: done)
              ('\\' :: 'u' :: e :: f :: g :: h :: next :: rest)
  | '\\' :: 'u' :: a :: b :: c :: d :: next :: rest =>
      match hexFour? a b c d with
      | none => stopAt .badUnicodeEscape ('u' :: a :: b :: c :: d :: next :: rest)
      | some code => readString start (.ofCode code :: done) (next :: rest)
  | '\\' :: 'u' :: rest => stopAt .badUnicodeEscape ('u' :: rest)
  | '\\' :: c :: rest =>
      match simpleEscape? c with
      | some plain => readString start (.char plain :: done) rest
      | none => stopAt .badEscape ('\\' :: c :: rest)
  | '\\' :: [] => .error (.complaint .unterminatedText start)
  | c :: rest =>
      if c.toNat < 0x20 then stopAt .controlCharacter (c :: rest)
      else readString start (.char c :: done) rest

def spanFraction : List Char → List Char × List Char
  | '.' :: d :: rest =>
      if d.isDigit then Binary64.spanDigits (d :: rest) else ([], '.' :: d :: rest)
  | rest => ([], rest)

def spanExponent : List Char → Option (Int × List Char)
  | c :: rest =>
      if c = 'e' || c = 'E' then
        let (negative, digits) :=
          match rest with
          | '-' :: digits => (true, digits)
          | '+' :: digits => (false, digits)
          | digits => (false, digits)
        let (read, rest) := Binary64.spanDigits digits
        if read.isEmpty then none
        else
          let value : Int := Binary64.digitsValue read
          some (if negative then -value else value, rest)
      else none
  | [] => none

def spanWhole : List Char → List Char × List Char
  | '0' :: rest => (['0'], rest)
  | rest => Binary64.spanDigits rest

def readUnsigned (negative : Bool) (start rest : List Char) : Except Stop (Json × List Char) :=
  let (whole, afterWhole) := spanWhole rest
  if whole.isEmpty then stopAt .expectingValue start
  else
    let (fraction, afterFraction) := spanFraction afterWhole
    match spanExponent afterFraction with
    | some (exponent, rest) =>
        .ok (.float (Binary64.ofDecimal negative (Binary64.digitsValue (whole ++ fraction))
          (exponent - fraction.length)), rest)
    | none =>
        if fraction.isEmpty then
          if integerDigitLimit < whole.length then .error (.integerTooLong whole.length)
          else
            let value : Int := Binary64.digitsValue whole
            .ok (.int (if negative then -value else value), afterFraction)
        else
          .ok (.float (Binary64.ofDecimal negative (Binary64.digitsValue (whole ++ fraction))
            (-(fraction.length : Int))), afterFraction)

def takeWord? (word : String) (text : List Char) : Option (List Char) :=
  if word.toList.isPrefixOf text then some (text.drop word.toList.length) else none

def readScalar (text : List Char) : Except Stop (Json × List Char) :=
  match takeWord? "null" text with
  | some rest => .ok (.null, rest)
  | none =>
  match takeWord? "true" text with
  | some rest => .ok (.bool true, rest)
  | none =>
  match takeWord? "false" text with
  | some rest => .ok (.bool false, rest)
  | none =>
  match takeWord? "NaN" text with
  | some rest => .ok (.float .nan, rest)
  | none =>
  match takeWord? "Infinity" text with
  | some rest => .ok (.float (.infinite false), rest)
  | none =>
  match takeWord? "-Infinity" text with
  | some rest => .ok (.float (.infinite true), rest)
  | none =>
      match text with
      | '-' :: rest => readUnsigned true text rest
      | rest => readUnsigned false text rest

mutual

/-- Reads one value. Of two calls inside one another at least one consumes a character, so a fuel
above twice the length of the text is never used up. -/
def readValue : Nat → List Char → Except Stop (Json × List Char)
  | 0, text => stopAt .expectingValue text
  | fuel + 1, text =>
      match text with
      | [] => stopAt .expectingValue []
      | '"' :: rest => do
          let (value, rest) ← readString text.length [] rest
          .ok (.string value, rest)
      | '[' :: rest =>
          match skipSpace rest with
          | ']' :: rest => .ok (.array [], rest)
          | rest => readItems fuel [] rest
      | '{' :: rest =>
          match skipSpace rest with
          | '}' :: rest => .ok (.object [], rest)
          | rest => readFields fuel [] rest
      | text => readScalar text

def readItems : Nat → List Json → List Char → Except Stop (Json × List Char)
  | 0, _, text => stopAt .expectingValue text
  | fuel + 1, done, text => do
      let (item, rest) ← readValue fuel text
      match skipSpace rest with
      | ']' :: rest => .ok (.array (item :: done).reverse, rest)
      | ',' :: rest => readItems fuel (item :: done) (skipSpace rest)
      | rest => stopAt .expectingComma rest

def readFields : Nat → List (String × Json) → List Char → Except Stop (Json × List Char)
  | 0, _, text => stopAt .expectingValue text
  | fuel + 1, done, text =>
      match text with
      | '"' :: rest => do
          let (name, rest) ← readString text.length [] rest
          match skipSpace rest with
          | ':' :: rest => do
              let (value, rest) ← readValue fuel (skipSpace rest)
              match skipSpace rest with
              | '}' :: rest => .ok (.object (put name value done), rest)
              | ',' :: rest => readFields fuel (put name value done) (skipSpace rest)
              | rest => stopAt .expectingComma rest
          | rest => stopAt .expectingColon rest
      | rest => stopAt .expectingName rest

end

def readDocument (text : List Char) : Except Stop Json :=
  match text with
  | '\uFEFF' :: _ => stopAt .byteOrderMark text
  | text => do
      let (value, rest) ← readValue (2 * text.length + 2) (skipSpace text)
      match skipSpace rest with
      | [] => .ok value
      | rest => stopAt .extraData rest

def place (text : List Char) (offset : Nat) : Nat × Nat :=
  let before := text.take offset
  (before.count '\n' + 1, (before.reverse.takeWhile (· ≠ '\n')).length + 1)

def Stop.toFault (text : List Char) : Stop → Fault
  | .complaint what remaining =>
      let offset := text.length - remaining
      let (line, column) := place text offset
      .malformed what line column offset
  | .integerTooLong digits => .integerTooLong digits

def read (text : String) : Except Fault Json :=
  (readDocument text.toList).mapError (Stop.toFault text.toList)

end WrapperTypings.Json

import WrapperTypings.Binary64.Text
import WrapperTypings.Text.Decimal
import WrapperTypings.Text.Point
import WrapperTypings.Text.Quoted

set_option autoImplicit false

/-! Templates with replacement fields. A field in braces names the one variable, may pick a
character of its value by position or look into an attribute, may show it in quotes, and may fit it to
a width and a precision; a doubled brace stands for itself. Faults are found from left to right, each
field being filled in before what follows it is looked at. -/

namespace WrapperTypings.Text.Template

inductive Complaint where
  | loneOpening
  | loneClosing
  | openingInName
  | unclosedField
  | noConversion
  | noColon
  | unclosedSpec
  | unknownConversion (point : Point)
  | tooDeep
  | tooManyDigits
  | unclosedIndex
  | emptyPart
  | textAfterIndex
  | invalidSpec (spec : String)
  | unknownType (point : Point)
  | commaAndUnderscore
  | separatorWith (separator : Char) (point : Point)
  | missingPrecision
  | spaceSign
  | sign
  | negativeZero
  | alternateForm
  | signAwarePadding
  deriving DecidableEq, Repr

/-- Why a template cannot be filled in: its form, or a field that does not lead to a value. -/
inductive Fault where
  | malformed (what : Complaint)
  | unknownName
  | position
  | indexBeyondEnd
  | indexNotNumeric
  | unknownAttribute
  /-- Another fault of what an attribute leads to. -/
  | attribute (words : Option String)
  deriving DecidableEq, Repr

def Complaint.pointText (last : Nat) (point : Point) : String :=
  let code :=
    match point with
    | .char c => c.toNat
    | .surrogate offset => Point.surrogateCode offset
  if 32 < code && code < last then ofPoints [point]
  else "\\x" ++ String.ofList (hexDigits 1 code)

def Complaint.message : Complaint → String
  | .loneOpening => "Single '\x7b' encountered in format string"
  | .loneClosing => "Single '\x7d' encountered in format string"
  | .openingInName => "unexpected '\x7b' in field name"
  | .unclosedField => "expected '\x7d' before end of string"
  | .noConversion => "end of string while looking for conversion specifier"
  | .noColon => "expected ':' after conversion specifier"
  | .unclosedSpec => "unmatched '\x7b' in format spec"
  | .unknownConversion point => "Unknown conversion specifier " ++ pointText 127 point
  | .tooDeep => "Max string recursion exceeded"
  | .tooManyDigits => "Too many decimal digits in format string"
  | .unclosedIndex => "Missing ']' in format string"
  | .emptyPart => "Empty attribute in format string"
  | .textAfterIndex => "Only '.' or '[' may follow ']' in format field specifier"
  | .invalidSpec spec => "Invalid format specifier '" ++ spec ++ "' for object of type 'str'"
  | .unknownType point =>
      "Unknown format code '" ++ pointText 128 point ++ "' for object of type 'str'"
  | .commaAndUnderscore => "Cannot specify both ',' and '_'."
  | .separatorWith separator point =>
      "Cannot specify '" ++ String.singleton separator ++ "' with '" ++ pointText 128 point ++ "'."
  | .missingPrecision => "Format specifier missing precision"
  | .spaceSign => "Space not allowed in string format specifier"
  | .sign => "Sign not allowed in string format specifier"
  | .negativeZero => "Negative zero coercion (z) not allowed in string format specifier"
  | .alternateForm => "Alternate form (#) not allowed in string format specifier"
  | .signAwarePadding => "'=' alignment not allowed in string format specifier"

def numberLimit : Nat := Nat.pow 2 63

def spanDecimals (text : List Char) : List Char × List Char :=
  ((text.takeWhile isDecimal).map plainDigit, text.dropWhile isDecimal)

def number (digits : List Char) : Except Complaint Nat :=
  if digits.any Char.isDigit && numberLimit ≤ Binary64.digitsValue digits then .error .tooManyDigits
  else .ok (Binary64.digitsValue digits)

def wholeNumber? (name : List Char) : Except Complaint (Option Nat) := do
  let (digits, rest) := spanDecimals name
  let value ← number digits
  .ok (if digits.isEmpty || !rest.isEmpty then none else some value)

inductive Alignment where
  | left
  | right
  | center
  | signAware
  deriving DecidableEq, Repr

def alignment? : Char → Option Alignment
  | '<' => some .left
  | '>' => some .right
  | '^' => some .center
  | '=' => some .signAware
  | _ => none

structure Layout where
  fill : Point
  align : Alignment
  width : Nat
  precision : Option Nat

def alignmentPart (text : List Char) : Option Point × Option Alignment × List Char :=
  match firstPoint? text with
  | none => (none, none, [])
  | some (fill, rest) =>
      match rest.head?.bind alignment? with
      | some align => (some fill, some align, rest.drop 1)
      | none =>
          match text.head?.bind alignment? with
          | some align => (none, some align, text.drop 1)
          | none => (none, none, text)

def flagPart (flag : Char) : List Char → Bool × List Char
  | [] => (false, [])
  | c :: rest => if c = flag then (true, rest) else (false, c :: rest)

def signPart : List Char → Option Char × List Char
  | [] => (none, [])
  | c :: rest => if c = ' ' || c = '+' || c = '-' then (some c, rest) else (none, c :: rest)

def separatorPart (text : List Char) : Except Complaint (Option Char × List Char) :=
  let (comma, text) := flagPart ',' text
  let (underscore, text) := flagPart '_' text
  if underscore && (comma || text.head? = some ',') then .error .commaAndUnderscore
  else .ok (if comma then some ',' else if underscore then some '_' else none, text)

def precisionPart (text : List Char) : Except Complaint (Option Nat × List Char) := do
  let (point, rest) := flagPart '.' text
  if point then
    let (digits, rest) := spanDecimals rest
    let value ← number digits
    if digits.isEmpty then .error .missingPrecision else .ok (some value, rest)
  else .ok (none, text)

def admitsSeparator (separator : Char) : Point → Bool
  | .char c => "defgEG%F".toList.contains c || (separator = '_' && "boxX".toList.contains c)
  | .surrogate _ => false

def layoutOf (spec : List Char) : Except Complaint Layout := do
  let (fill, align, text) := alignmentPart spec
  let (sign, text) := signPart text
  let (negativeZero, text) := flagPart 'z' text
  let (alternate, text) := flagPart '#' text
  let (zero, text) := if fill.isNone then flagPart '0' text else (false, text)
  let (digits, text) := spanDecimals text
  let width ← number digits
  let (separator, text) ← separatorPart text
  let (precision, text) ← precisionPart text
  let type ←
    match firstPoint? text with
    | none => .ok (.char 's')
    | some (type, []) => .ok type
    | _ => .error (.invalidSpec (String.ofList spec))
  match separator with
  | some separator =>
      if !admitsSeparator separator type then .error (.separatorWith separator type)
  | none => pure ()
  if type ≠ .char 's' then .error (.unknownType type)
  else if sign = some ' ' then .error .spaceSign
  else if sign.isSome then .error .sign
  else if negativeZero then .error .negativeZero
  else if alternate then .error .alternateForm
  else if align = some .signAware then .error .signAwarePadding
  else .ok ⟨fill.getD (.char (if zero then '0' else ' ')), align.getD .left, width, precision⟩

def Layout.apply (layout : Layout) (value : List Char) : List Char :=
  let shown :=
    match layout.precision with
    | some precision => value.take precision
    | none => value
  let missing := layout.width - shown.length
  let before :=
    match layout.align with
    | .right => missing
    | .center => missing / 2
    | _ => 0
  let padding := fun count => (List.replicate count (held layout.fill)).flatten
  padding before ++ shown ++ padding (missing - before)

def applySpec (spec value : List Char) : Except Fault (List Char) :=
  if spec.isEmpty then .ok value
  else (layoutOf spec).mapError Fault.malformed |>.map (fun layout => layout.apply value)

/-- How what a field leads to is shown: with a conversion, and then by a specification. -/
abbrev Shown := Option Point → Except Fault (List Char → Except Fault (List Char))

/-- What the attributes of a text, and the parts of the name behind them, lead to. -/
abbrev Attributes := List Char → List Char → Except Fault Shown

structure Field where
  name : List Char
  conversion : Option Point
  spec : List Char

/-- The name of a field, the character that ends it, and the rest. Inside brackets nothing ends
the name. -/
def nameEnd (inIndex : Bool) : List Char → Except Complaint (List Char × Char × List Char)
  | [] => .error .unclosedField
  | c :: rest =>
      if inIndex then do
        let (name, mark, rest) ← nameEnd (c ≠ ']') rest
        .ok (c :: name, mark, rest)
      else if c = '\x7b' then .error .openingInName
      else if c = '\x7d' || c = ':' || c = '!' then .ok ([], c, rest)
      else do
        let (name, mark, rest) ← nameEnd (c = '[') rest
        .ok (c :: name, mark, rest)

/-- A specification up to the brace that closes the field; braces inside it come in pairs. -/
def specEnd : Nat → List Char → Except Complaint (List Char × List Char)
  | _, [] => .error .unclosedSpec
  | level, c :: rest =>
      if c = '\x7d' && level = 0 then .ok ([], rest)
      else do
        let level :=
          if c = '\x7b' then level + 1 else if c = '\x7d' then level - 1 else level
        let (spec, rest) ← specEnd level rest
        .ok (c :: spec, rest)

def readField (text : List Char) : Except Complaint (Field × List Char) := do
  let (name, mark, rest) ← nameEnd false text
  if mark = '\x7d' then .ok (⟨name, none, []⟩, rest)
  else if mark = ':' then do
    let (spec, rest) ← specEnd 0 rest
    .ok (⟨name, none, spec⟩, rest)
  else
    match firstPoint? rest with
    | none => .error .noConversion
    | some (_, []) => .error .unclosedSpec
    | some (conversion, '\x7d' :: rest) => .ok (⟨name, some conversion, []⟩, rest)
    | some (conversion, ':' :: rest) => do
        let (spec, rest) ← specEnd 0 rest
        .ok (⟨name, some conversion, spec⟩, rest)
    | _ => .error .noColon

def isPartMark (c : Char) : Bool :=
  c = '.' || c = '['

def convert (conversion : Option Point) (value : List Char) : Except Fault (List Char) :=
  match conversion with
  | none => .ok value
  | some (.char 's') => .ok value
  | some (.char 'r') => .ok (quoted (String.ofList value)).toList
  | some (.char 'a') => .ok (quotedAscii (String.ofList value)).toList
  | some point => .error (.malformed (.unknownConversion point))

def shownText (value : List Char) : Shown := fun conversion =>
  (convert conversion value).map (fun text spec => applySpec spec text)

/-- What the parts of a name behind the variable pick from a value: characters by position, as long
as they do not come to an attribute. -/
def pick (attributes : Attributes) : Nat → List Char → List Char → Except Fault Shown
  | 0, _, value => .ok (shownText value)
  | _ + 1, [], value => .ok (shownText value)
  | fuel + 1, c :: rest, value =>
      if c = '.' then
        if (rest.takeWhile (!isPartMark ·)).isEmpty then .error (.malformed .emptyPart)
        else attributes value rest
      else if c = '[' then
        if !rest.contains ']' then .error (.malformed .unclosedIndex)
        else do
          let name := rest.takeWhile (· ≠ ']')
          let index ← (wholeNumber? name).mapError .malformed
          if name.isEmpty then .error (.malformed .emptyPart)
          else
            match index with
            | none => .error .indexNotNumeric
            | some index =>
                match value[index]? with
                | none => .error .indexBeyondEnd
                | some picked => pick attributes fuel ((rest.dropWhile (· ≠ ']')).drop 1) [picked]
      else .error (.malformed .textAfterIndex)

def fieldValue (attributes : Attributes) (subject value : String) (name : List Char) :
    Except Fault Shown := do
  let first := name.takeWhile (!isPartMark ·)
  let parts := name.dropWhile (!isPartMark ·)
  let number ← (wholeNumber? first).mapError .malformed
  if number.isSome || first.isEmpty then .error .position
  else if first ≠ subject.toList then .error .unknownName
  else pick attributes (parts.length + 1) parts value.toList

/-- Fills in a template. A specification may hold fields itself, whose own may not. -/
def expandFrom (attributes : Attributes) (subject value : String) :
    Nat → Nat → List Char → Except Fault (List Char)
  | 0, _, _ => .error (.malformed .tooDeep)
  | _ + 1, 0, _ => .ok []
  | depth + 1, fuel + 1, text =>
      match text with
      | [] => .ok []
      | ['\x7b'] => .error (.malformed .loneOpening)
      | '\x7b' :: '\x7b' :: rest => do
          let filled ← expandFrom attributes subject value (depth + 1) fuel rest
          .ok ('\x7b' :: filled)
      | '\x7b' :: rest => do
          let (field, rest) ← (readField rest).mapError .malformed
          let shown ← fieldValue attributes subject value field.name
          let fit ← shown field.conversion
          let spec ←
            if field.spec.contains '\x7b' then
              expandFrom attributes subject value depth (field.spec.length + 1) field.spec
            else .ok field.spec
          let fitted ← fit spec
          let filled ← expandFrom attributes subject value (depth + 1) fuel rest
          .ok (fitted ++ filled)
      | '\x7d' :: '\x7d' :: rest => do
          let filled ← expandFrom attributes subject value (depth + 1) fuel rest
          .ok ('\x7d' :: filled)
      | '\x7d' :: _ => .error (.malformed .loneClosing)
      | c :: rest => do
          let filled ← expandFrom attributes subject value (depth + 1) fuel rest
          .ok (c :: filled)

def expand (attributes : Attributes) (subject value template : String) : Except Fault String :=
  (expandFrom attributes subject value 2 (template.length + 1) template.toList).map String.ofList

end WrapperTypings.Text.Template

import WrapperTypings.Binary64.Text
import WrapperTypings.Json.Basic
import WrapperTypings.Yaml.Cursor
import WrapperTypings.Yaml.Tag

set_option autoImplicit false

/-! Writing JSON values as a YAML document in block style. A string is plain where plain text
reads back as that string, otherwise in single quotes if they can hold it, otherwise in double
quotes, where everything outside printable ASCII is escaped. Long text is folded at its spaces. -/

namespace WrapperTypings.Yaml

inductive Style where
  | plain
  | single
  | double
  deriving DecidableEq, Repr

def isLeadingIndicator (c : Char) : Bool :=
  "#,[]\x7b\x7d&*!|>'\"%@\x60".toList.contains c

def opensWithIndicator : List Char → Bool
  | [] => false
  | c :: rest =>
      isLeadingIndicator c || ((c = '?' || c = ':' || c = '-') && isWideGap (Text.peek rest 0))

def hasInnerIndicator : List Char → Bool
  | c :: d :: rest =>
      (d = ':' && isWideGap (Text.peek rest 0)) || (d = '#' && isWideGap c) ||
        hasInnerIndicator (d :: rest)
  | _ => false

def hasBlockIndicator (text : List Char) : Bool :=
  ['-', '-', '-'].isPrefixOf text || ['.', '.', '.'].isPrefixOf text ||
    opensWithIndicator text || hasInnerIndicator text

def isSpecial (c : Char) : Bool :=
  c ≠ '\n' && !('\x20' ≤ c && c ≤ '\x7e')

def isMultiline (text : List Char) : Bool :=
  text.any (fun c => c ≠ '\r' && isBreak c)

def hasSpaceAtBreak : List Char → Bool
  | c :: d :: rest =>
      (c = ' ' && isBreak d) || (isBreak c && d = ' ') || hasSpaceAtBreak (d :: rest)
  | _ => false

def hasOuterSpace (text : List Char) : Bool :=
  text.head? = some ' ' || text.getLast? = some ' '

def fitsSingle (text : List Char) : Bool :=
  !text.any isSpecial && !hasSpaceAtBreak text

def fitsPlain (text : List Char) : Bool :=
  fitsSingle text && !isMultiline text && !hasOuterSpace text && !hasBlockIndicator text

def styleOf (isKey : Bool) (text : String) : Style :=
  let chars := text.toList
  if Tag.ofPlain text = .string && fitsPlain chars && !(isKey && chars.isEmpty) then .plain
  else if fitsSingle chars && !(isKey && isMultiline chars) then .single
  else .double

def bestWidth : Nat := 80

def newLine (indent : Nat) : List Char :=
  '\n' :: List.replicate indent ' '

def isLoneSpace (before c : Char) (rest : List Char) : Bool :=
  c = ' ' && before ≠ ' ' && rest.head? ≠ some ' '

def plainFrom (indent : Nat) (fold : Bool) (before : Char) : Nat → List Char → List Char
  | _, [] => []
  | column, c :: rest =>
      if fold && isLoneSpace before c rest && bestWidth < column then
        newLine indent ++ plainFrom indent fold c indent rest
      else c :: plainFrom indent fold c (column + 1) rest

/-- Text in single quotes from a column on. A quote is written twice, and a run of line breaks
with one more. A space at either end stays. -/
def singleFrom (indent : Nat) (fold : Bool) (before : Char) : Nat → List Char → List Char
  | _, [] => []
  | column, c :: rest =>
      if c = '\n' then
        let extra := if before = '\n' then [] else ['\n']
        let spaces := if rest.head? = some '\n' then [] else List.replicate indent ' '
        extra ++ '\n' :: spaces ++ singleFrom indent fold c indent rest
      else if c = '\'' then '\'' :: '\'' :: singleFrom indent fold c (column + 2) rest
      else if fold && isLoneSpace before c rest && before ≠ '\x00' && !rest.isEmpty &&
          bestWidth < column then
        newLine indent ++ singleFrom indent fold c indent rest
      else c :: singleFrom indent fold c (column + 1) rest

def escapeLetter? (c : Char) : Option Char :=
  match c with
  | '\x00' => some '0'
  | '\x07' => some 'a'
  | '\x08' => some 'b'
  | '\t' => some 't'
  | '\n' => some 'n'
  | '\x0b' => some 'v'
  | '\x0c' => some 'f'
  | '\r' => some 'r'
  | '\x1b' => some 'e'
  | '"' => some '"'
  | '\\' => some '\\'
  | '\x85' => some 'N'
  | '\u00a0' => some '_'
  | '\u2028' => some 'L'
  | '\u2029' => some 'P'
  | _ => none

def upperHex (width code : Nat) : List Char :=
  (Text.hexDigits width code).map Char.toUpper

def charEscape? (c : Char) : Option (List Char) :=
  match escapeLetter? c with
  | some letter => some ['\\', letter]
  | none =>
      if '\x20' ≤ c && c ≤ '\x7e' then none
      else if c.toNat ≤ 0xFF then some ('\\' :: 'x' :: upperHex 2 c.toNat)
      else if c.toNat ≤ 0xFFFF then some ('\\' :: 'u' :: upperHex 4 c.toNat)
      else some ('\\' :: 'U' :: upperHex 8 c.toNat)

def doubleEscape? : Text.Point → Option (List Char)
  | .char c => charEscape? c
  | .surrogate offset => some ('\\' :: 'u' :: upperHex 4 (Text.Point.surrogateCode offset))

/-- An escaped line break, and the backslash that keeps a space at the start of the next line. -/
def escapedBreak (indent : Nat) (following : Text.Point) : List Char :=
  '\\' :: newLine indent ++ if following = .char ' ' then ['\\'] else []

def columnAfterBreak (indent : Nat) (following : Text.Point) : Nat :=
  if following = .char ' ' then indent + 1 else indent

/-- Text in double quotes from a column on. A line may be broken before a space, and at either
end of an escape, but not before the second nor behind the last but one character. `fresh` says
that an escape or a break comes before. -/
def doubleFrom (indent : Nat) (fold : Bool) (first fresh : Bool) :
    Nat → List Text.Point → List Char
  | _, [] => []
  | column, point :: rest =>
      let mayBreak := fold && !first && !rest.isEmpty
      match doubleEscape? point with
      | some escape =>
          let behind := column + escape.length
          if mayBreak && bestWidth + 1 < behind then
            let following := rest.headD (.char '\x00')
            escape ++ escapedBreak indent following ++
              doubleFrom indent fold false true (columnAfterBreak indent following) rest
          else escape ++ doubleFrom indent fold false true behind rest
      | none =>
          if mayBreak && (point = .char ' ' || fresh) && bestWidth < column then
            escapedBreak indent point ++ Text.held point ++
              doubleFrom indent fold false false (columnAfterBreak indent point + 1) rest
          else Text.held point ++ doubleFrom indent fold false false (column + 1) rest

def stringText (isKey : Bool) (indent column : Nat) (text : String) : List Char :=
  let chars := text.toList
  match styleOf isKey text with
  | .plain => plainFrom indent (!isKey) '\x00' column chars
  | .single => '\'' :: singleFrom indent (!isKey) '\x00' (column + 1) chars ++ ['\'']
  | .double => '"' :: doubleFrom indent (!isKey) true true (column + 1) (Text.points text) ++ ['"']

def withPoint (text : List Char) : List Char :=
  if text.contains 'e' && !text.contains '.' then
    text.takeWhile (· ≠ 'e') ++ '.' :: '0' :: text.dropWhile (· ≠ 'e')
  else text

def floatText : Binary64 → List Char
  | .nan => ".nan".toList
  | .infinite negative => (if negative then "-.inf" else ".inf").toList
  | value => withPoint value.text.toList

def isSimpleKey (name : String) : Bool :=
  (Text.points name).length < 123 && !name.isEmpty && !isMultiline name.toList

/-- What announces the value of an entry: its text, whether it is a key on the same line, and the
column behind it. A key that does not fit there has a line and a mark of its own. -/
structure Announcement where
  text : List Char
  afterKey : Bool
  column : Nat

def announce (indent : Nat) (name : String) : Announcement :=
  if isSimpleKey name then
    let key := stringText true indent indent name
    ⟨key ++ [':'], true, indent + key.length + 1⟩
  else
    ⟨'?' :: ' ' :: stringText false (indent + 2) (indent + 2) name ++ newLine indent ++ [':'], false,
      indent + 1⟩

mutual

/-- A value behind the mark that announces it, a colon after a key or the mark of an item. After
a key a collection begins on a new line, and a sequence needs no further indentation. -/
def writeValue (afterKey : Bool) (indent column : Nat) : Json → List Char
  | .null => " null".toList
  | .bool value => (if value then " true" else " false").toList
  | .int value => ' ' :: (toString value).toList
  | .float value => ' ' :: floatText value
  | .string value => ' ' :: stringText false (indent + 2) (column + 1) value
  | .array items =>
      if items.isEmpty then " []".toList
      else if afterKey then writeItems indent (newLine indent) items
      else writeItems (indent + 2) [' '] items
  | .object fields =>
      if fields.isEmpty then [' ', '{', '}']
      else writeEntries (indent + 2) (if afterKey then newLine (indent + 2) else [' ']) fields

def writeItems (indent : Nat) (lead : List Char) : List Json → List Char
  | [] => []
  | item :: rest =>
      lead ++ '-' :: writeValue false indent (indent + 1) item ++
        writeItems indent (newLine indent) rest

def writeEntries (indent : Nat) (lead : List Char) : List (String × Json) → List Char
  | [] => []
  | (name, value) :: rest =>
      let head := announce indent name
      lead ++ head.text ++ writeValue head.afterKey indent head.column value ++
        writeEntries indent (newLine indent) rest

end

def write (fields : List (String × Json)) : String :=
  String.ofList
    ((if fields.isEmpty then ['{', '}'] else writeEntries 0 [] fields) ++ ['\n'])

end WrapperTypings.Yaml

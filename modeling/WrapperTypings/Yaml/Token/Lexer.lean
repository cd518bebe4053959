import WrapperTypings.Yaml.ScalarText
import WrapperTypings.Yaml.Source
import WrapperTypings.Yaml.Token.Basic

set_option autoImplicit false

/-! From text to tokens. A token that may turn out to begin a mapping key is held back until a
colon behind it settles the question, or can no longer do so; the tokens before it are handed on.
-/

namespace WrapperTypings.Yaml

/-- A place where a key may have begun: the number of its first token, and whether the block
structure requires that a colon follows. -/
structure PossibleKey where
  token : Nat
  required : Bool
  place : Cursor

/-- The state between two tokens. `queue` holds the tokens read but not handed on, and `indents`
the columns of the enclosing block collections. -/
structure Lexer where
  cursor : Cursor
  finished : Bool
  flowLevel : Nat
  queue : List Token
  taken : Nat
  indent : Int
  indents : List Int
  keyAllowed : Bool
  possibleKeys : List (Nat × PossibleKey)

namespace Lexer

def start (text : List Char) : Lexer where
  cursor := Cursor.start text
  finished := false
  flowLevel := 0
  queue := [.streamStart]
  taken := 0
  indent := -1
  indents := []
  keyAllowed := true
  possibleKeys := []

def inFlow (lexer : Lexer) : Bool :=
  lexer.flowLevel != 0

def column (lexer : Lexer) : Int :=
  lexer.cursor.column

def push (token : Token) (lexer : Lexer) : Lexer :=
  { lexer with queue := lexer.queue ++ [token] }

def advance (count : Nat) (token : Token) (lexer : Lexer) : Lexer :=
  push token { lexer with cursor := lexer.cursor.skip count }

def unwind (column : Int) (lexer : Lexer) : Lexer :=
  if lexer.inFlow then lexer
  else go lexer.indents lexer
where
  go : List Int → Lexer → Lexer
    | [], lexer => lexer
    | outer :: indents, lexer =>
        if column < lexer.indent then
          go indents (push .blockEnd { lexer with indent := outer, indents })
        else lexer

def deepen (column : Int) (lexer : Lexer) : Bool × Lexer :=
  if lexer.indent < column then
    (true, { lexer with indent := column, indents := lexer.indent :: lexer.indents })
  else (false, lexer)

def keyReach : Nat := 1024

def dropStale (lexer : Lexer) : Scan Lexer :=
  let stale := fun (entry : Nat × PossibleKey) =>
    entry.2.place.line != lexer.cursor.line ||
      decide (keyReach < lexer.cursor.index - entry.2.place.index)
  if lexer.possibleKeys.any (fun entry => stale entry && entry.2.required) then lexer.cursor.refuse
  else
    .ok { lexer with possibleKeys := lexer.possibleKeys.filter (fun entry => !stale entry) }

def dropKey (lexer : Lexer) : Scan Lexer :=
  match lexer.possibleKeys.lookup lexer.flowLevel with
  | none => .ok lexer
  | some key =>
      if key.required then lexer.cursor.refuse
      else
        .ok { lexer with
          possibleKeys := lexer.possibleKeys.filter (·.1 != lexer.flowLevel) }

def saveKey (lexer : Lexer) : Scan Lexer :=
  if lexer.keyAllowed then do
    let required := !lexer.inFlow && lexer.indent = lexer.column
    let key := ⟨lexer.taken + lexer.queue.length, required, lexer.cursor⟩
    let lexer ← lexer.dropKey
    .ok { lexer with possibleKeys := (lexer.flowLevel, key) :: lexer.possibleKeys }
  else .ok lexer

def insertAt (index : Nat) (token : Token) (tokens : List Token) : List Token :=
  tokens.take index ++ token :: tokens.drop index

def flowStart (token : Token) (lexer : Lexer) : Scan Lexer := do
  let lexer ← lexer.saveKey
  .ok (advance 1 token { lexer with flowLevel := lexer.flowLevel + 1, keyAllowed := true })

/-- A closing bracket without an opening one leaves the level alone, so the structure fails. -/
def flowEnd (token : Token) (lexer : Lexer) : Scan Lexer := do
  let lexer ← lexer.dropKey
  .ok (advance 1 token { lexer with flowLevel := lexer.flowLevel - 1, keyAllowed := false })

def flowEntry (lexer : Lexer) : Scan Lexer := do
  let lexer ← { lexer with keyAllowed := true }.dropKey
  .ok (advance 1 .flowEntry lexer)

def openBlock (opening : Token) (lexer : Lexer) : Scan Lexer :=
  if lexer.inFlow then .ok lexer
  else if !lexer.keyAllowed then lexer.cursor.refuse
  else
    let (opened, lexer) := lexer.deepen lexer.column
    .ok (if opened then push opening lexer else lexer)

def blockEntry (lexer : Lexer) : Scan Lexer := do
  let lexer ← lexer.openBlock .blockSequenceStart
  let lexer ← { lexer with keyAllowed := true }.dropKey
  .ok (advance 1 .blockEntry lexer)

def explicitKey (lexer : Lexer) : Scan Lexer := do
  let lexer ← lexer.openBlock .blockMappingStart
  let lexer ← { lexer with keyAllowed := !lexer.inFlow }.dropKey
  .ok (advance 1 .key lexer)

/-- A colon. It turns the possible key of its level into a key, whose token, and the opening of a
mapping if need be, is put before the tokens already read. -/
def valueMark (lexer : Lexer) : Scan Lexer :=
  match lexer.possibleKeys.lookup lexer.flowLevel with
  | some key =>
      let position := key.token - lexer.taken
      let queue := insertAt position .key lexer.queue
      let lexer := { lexer with
        possibleKeys := lexer.possibleKeys.filter (·.1 != lexer.flowLevel)
        keyAllowed := false }
      let (opened, lexer) :=
        if lexer.inFlow then (false, lexer) else lexer.deepen key.place.column
      let queue := if opened then insertAt position .blockMappingStart queue else queue
      .ok (advance 1 .value { lexer with queue })
  | none => do
      let lexer ← lexer.openBlock .blockMappingStart
      let lexer ← { lexer with keyAllowed := !lexer.inFlow }.dropKey
      .ok (advance 1 .value lexer)

def leaveBlocks (lexer : Lexer) : Scan Lexer := do
  let lexer ← (lexer.unwind (-1)).dropKey
  .ok { lexer with keyAllowed := false }

def documentMark (token : Token) (lexer : Lexer) : Scan Lexer := do
  let lexer ← lexer.leaveBlocks
  .ok (advance 3 token lexer)

def streamEnd (lexer : Lexer) : Scan Lexer := do
  let lexer ← lexer.leaveBlocks
  .ok (push .streamEnd { lexer with possibleKeys := [], finished := true })

def nameText (cursor : Cursor) : Scan (String × Cursor) :=
  let (name, cursor) := cursor.span isNameChar
  if name.isEmpty then cursor.refuse else .ok (String.ofList name, cursor)

def versionNumber (cursor : Cursor) : Scan (List Char × Cursor) :=
  let (digits, cursor) := cursor.span Char.isDigit
  if digits.isEmpty then cursor.refuse else .ok (digits, cursor)

def numberValue (digits : List Char) : Nat :=
  digits.foldl (fun value c => 10 * value + (c.toNat - 48)) 0

/-- A tag handle: an exclamation mark, alone or in front of a name and a second one. Behind the
lone mark of a directive a space must follow at once. -/
def handleText (cursor : Cursor) : Scan (String × Cursor) :=
  if cursor.here ≠ '!' then cursor.refuse
  else
    let cursor := cursor.next
    if cursor.here = ' ' then .ok ("!", cursor)
    else
      let (name, cursor) := cursor.span isNameChar
      if cursor.here ≠ '!' then cursor.refuse
      else .ok (String.ofList ('!' :: name ++ ['!']), cursor.next)

def isUriChar (c : Char) : Bool :=
  c.isAlphanum || "-;/?:@&=+$,_.!~*'()[]%".toList.contains c

def uriBytes : Nat → Cursor → Scan (List UInt8 × Cursor)
  | 0, cursor => .ok ([], cursor)
  | fuel + 1, cursor =>
      if cursor.here = '%' then
        match Text.hexValue? (cursor.peek 1), Text.hexValue? (cursor.peek 2) with
        | some high, some low => do
            let (others, cursor) ← uriBytes fuel (cursor.skip 3)
            .ok ((high * 16 + low).toUInt8 :: others, cursor)
        | _, _ => cursor.refuse
      else .ok ([], cursor)

def uriChars : Nat → Cursor → Scan (List Char × Cursor)
  | 0, cursor => .ok ([], cursor)
  | fuel + 1, cursor =>
      let (plain, cursor) := cursor.span (fun c => isUriChar c && c ≠ '%')
      if cursor.here = '%' then do
        let (bytes, cursor) ← uriBytes (cursor.rest.length + 1) cursor
        match String.fromUTF8? (ByteArray.mk bytes.toArray) with
        | none => cursor.refuse
        | some decoded => do
            let (others, cursor) ← uriChars fuel cursor
            .ok (plain ++ (Text.hold decoded).toList ++ others, cursor)
      else .ok (plain, cursor)

def uriText (cursor : Cursor) : Scan (String × Cursor) :=
  if !isUriChar cursor.here then cursor.refuse
  else do
    let (text, cursor) ← uriChars (cursor.rest.length + 1) cursor
    .ok (String.ofList text, cursor)

def directiveToken (cursor : Cursor) : Scan (Token × Cursor) := do
  let (name, cursor) ← nameText cursor.next
  if !isGap cursor.here then cursor.refuse
  else
    let (token, cursor) ←
      if name = "YAML" then do
        let (major, cursor) ← versionNumber cursor.skipSpaces
        if cursor.here ≠ '.' then cursor.refuse
        else do
          let (minor, cursor) ← versionNumber cursor.next
          if !isGap cursor.here then cursor.refuse
          else if 4300 < major.length then .error (cursor.stopFor (.integerTooLong major.length))
          else if 4300 < minor.length then .error (cursor.stopFor (.integerTooLong minor.length))
          else .ok (Token.versionDirective (numberValue major), cursor)
      else if name = "TAG" then do
        let (handle, cursor) ← handleText cursor.skipSpaces
        if cursor.here ≠ ' ' then cursor.refuse
        else do
          let (lead, cursor) ← uriText cursor.skipSpaces
          if !isGap cursor.here then cursor.refuse
          else .ok (Token.tagDirective handle lead, cursor)
      else .ok (Token.otherDirective, cursor.skipWhile (fun c => !isLineEnd c))
    let cursor ← endOfHeader cursor
    .ok (token, cursor)

def directive (lexer : Lexer) : Scan Lexer := do
  let lexer ← lexer.leaveBlocks
  let (token, cursor) ← directiveToken lexer.cursor
  .ok (push token { lexer with cursor })

def endsName (c : Char) : Bool :=
  isWideGap c || "?:,]\x7d%@\x60".toList.contains c

def keyToken (read : Cursor → Scan (Token × Cursor)) (lexer : Lexer) :
    Scan Lexer := do
  let lexer ← lexer.saveKey
  let (token, cursor) ← read lexer.cursor
  .ok (push token { lexer with cursor, keyAllowed := false })

def nameToken (make : String → Token) (cursor : Cursor) : Scan (Token × Cursor) := do
  let (name, cursor) ← nameText cursor.next
  if endsName cursor.here then .ok (make name, cursor) else cursor.refuse

def hasHandle (cursor : Cursor) : Bool :=
  (cursor.next.rest.takeWhile (fun c => !isGap c)).contains '!'

def tagToken (cursor : Cursor) : Scan (Token × Cursor) := do
  let second := cursor.peek 1
  let (token, cursor) ←
    if second = '<' then do
      let (suffix, cursor) ← uriText (cursor.skip 2)
      if cursor.here ≠ '>' then cursor.refuse
      else .ok (Token.tag none suffix, cursor.next)
    else if isWideGap second then .ok (Token.tag none "!", cursor.next)
    else do
      let (handle, cursor) ←
        if hasHandle cursor then handleText cursor else .ok ("!", cursor.next)
      let (suffix, cursor) ← uriText cursor
      .ok (Token.tag (some handle) suffix, cursor)
  if isGap cursor.here then .ok (token, cursor) else cursor.refuse

def quotedToken (double : Bool) (cursor : Cursor) : Scan (Token × Cursor) := do
  let (text, cursor) ← quotedText double (cursor.rest.length + 1) cursor.next
  .ok (.scalar (String.ofList text) false, cursor)

def blockScalar (folded : Bool) (lexer : Lexer) : Scan Lexer := do
  let lexer ← { lexer with keyAllowed := true }.dropKey
  let (text, cursor) ← blockText folded lexer.indent lexer.cursor.next
  .ok (push (.scalar (String.ofList text) false) { lexer with cursor })

def plainScalar (lexer : Lexer) : Scan Lexer := do
  let lexer ← lexer.saveKey
  let (text, lineEnded, cursor) :=
    plainText lexer.inFlow (lexer.indent + 1) (lexer.cursor.rest.length + 1) [] false
      lexer.cursor
  .ok (push (.scalar (String.ofList text) true) { lexer with cursor, keyAllowed := lineEnded })

def beginsPlain (lexer : Lexer) : Bool :=
  let c := lexer.cursor.here
  let textFollows := !isWideGap (lexer.cursor.peek 1)
  if isWideGap c then false
  else if c = '-' then textFollows
  else if c = '?' || c = ':' then !lexer.inFlow && textFollows
  else !",[]\x7b\x7d#&*!|>'\"%@\x60".toList.contains c

/-- Moves to the next token: over blanks, comments and line ends, behind which a key may begin
outside flow collections. -/
def toNextToken : Nat → Lexer → Lexer
  | 0, lexer => lexer
  | fuel + 1, lexer =>
      let cursor := lexer.cursor.skipComment
      match cursor.lineBreak with
      | ([], _) => { lexer with cursor }
      | (_, cursor) =>
          toNextToken fuel
            { lexer with cursor, keyAllowed := lexer.keyAllowed || !lexer.inFlow }

def skipMark (lexer : Lexer) : Lexer :=
  if lexer.cursor.index = 0 && lexer.cursor.here = '\uFEFF' then
    { lexer with cursor := lexer.cursor.next }
  else lexer

def fetch (lexer : Lexer) : Scan Lexer := do
  let lexer := lexer.skipMark
  let lexer := toNextToken (lexer.cursor.rest.length + 1) lexer
  let lexer ← lexer.dropStale
  let lexer := lexer.unwind lexer.column
  let c := lexer.cursor.here
  let atLineStart := lexer.cursor.column = 0
  let gapFollows := isWideGap (lexer.cursor.peek 1)
  if c = '\x00' then lexer.streamEnd
  else if c = '%' && atLineStart then lexer.directive
  else if c = '-' && atLineStart && lexer.cursor.atBoundary then
    lexer.documentMark .documentStart
  else if c = '.' && atLineStart && lexer.cursor.atBoundary then
    lexer.documentMark .documentEnd
  else if c = '[' then lexer.flowStart .flowSequenceStart
  else if c = '\x7b' then lexer.flowStart .flowMappingStart
  else if c = ']' then lexer.flowEnd .flowSequenceEnd
  else if c = '\x7d' then lexer.flowEnd .flowMappingEnd
  else if c = ',' then lexer.flowEntry
  else if c = '-' && gapFollows then lexer.blockEntry
  else if c = '?' && (lexer.inFlow || gapFollows) then lexer.explicitKey
  else if c = ':' && (lexer.inFlow || gapFollows) then lexer.valueMark
  else if c = '*' then lexer.keyToken (nameToken .reference)
  else if c = '&' then lexer.keyToken (nameToken .anchor)
  else if c = '!' then lexer.keyToken tagToken
  else if c = '|' && !lexer.inFlow then lexer.blockScalar false
  else if c = '>' && !lexer.inFlow then lexer.blockScalar true
  else if c = '\'' then lexer.keyToken (quotedToken false)
  else if c = '"' then lexer.keyToken (quotedToken true)
  else if lexer.beginsPlain then lexer.plainScalar
  else lexer.cursor.refuse

/-- Whether the first token of the queue is still held back, after dropping stale keys. -/
def mustFetch (lexer : Lexer) : Scan (Bool × Lexer) :=
  if lexer.finished then .ok (false, lexer)
  else if lexer.queue.isEmpty then .ok (true, lexer)
  else do
    let lexer ← lexer.dropStale
    .ok (lexer.possibleKeys.any (fun entry => entry.2.token = lexer.taken), lexer)

/-- One turn: reads on, or hands on the first token of the queue. Nothing is left to do behind the end
of the stream. -/
def turn (lexer : Lexer) : Scan (Option (List Token × Lexer)) := do
  let (asks, lexer) ← lexer.mustFetch
  if asks then
    let lexer ← lexer.fetch
    .ok (some ([], lexer))
  else
    match lexer.queue with
    | [] => .ok none
    | token :: queue => .ok (some ([token], { lexer with queue, taken := lexer.taken + 1 }))

/-- How far a turn may look ahead of the place where it ends. -/
def lookahead : Nat := 4

/-- What is told instead if a turn ends with so many characters left in front of a wall. -/
def wallAt (wall : Option Fault) (left : Nat) : Option Fault :=
  if left < lookahead then wall else none

@[simp] theorem wallAt_none (left : Nat) : wallAt none left = none :=
  ite_self none

/-- Hands on tokens until the stream ends, a fault stops it or the wall is met. Every turn reads a
character, ends the stream or hands on one of the few tokens that each character gives. -/
def tokens (wall : Option Fault) : Nat → Lexer → Stream Fault Token
  | 0, _ => ⟨[], none⟩
  | fuel + 1, lexer =>
      match lexer.turn with
      | .error stop => ⟨[], some ((wallAt wall stop.left).getD stop.fault)⟩
      | .ok none => ⟨[], none⟩
      | .ok (some (handed, lexer)) =>
          match wallAt wall lexer.cursor.rest.length with
          | some fault => ⟨[], some fault⟩
          | none =>
              let rest := tokens wall fuel lexer
              ⟨handed ++ rest.items, rest.fault⟩

end Lexer

def Token.ofSource (source : Source) : Stream Fault Token :=
  Lexer.tokens source.wall (8 * source.text.length + 16) (Lexer.start source.text)

end WrapperTypings.Yaml

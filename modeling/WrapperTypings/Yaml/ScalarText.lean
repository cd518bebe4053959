import WrapperTypings.Yaml.Cursor
import WrapperTypings.Text.Point

set_option autoImplicit false

/-! The text of scalars: plain, quoted and block. Each reader starts at the scalar's first
character and answers the text with the place behind it. Loops are bounded by the number of
characters left, of which every turn but the last takes at least one. -/

namespace WrapperTypings.Yaml

/-- A line break as part of folded text: a newline before text is a space, and before further
breaks it is dropped. -/
def foldBreak (first others : List Char) : List Char :=
  if first ≠ ['\n'] then first ++ others
  else if others.isEmpty then [' ']
  else others

def endsFlowPlain (c : Char) : Bool :=
  c = ',' || c = '?' || c = '[' || c = ']' || c = '\x7b' || c = '\x7d'

def endsAtColon (inFlow : Bool) (following : Char) : Bool :=
  isWideGap following || (inFlow && endsFlowPlain following && following ≠ '?')

def plainChunk (inFlow : Bool) : List Char → List Char
  | [] => []
  | c :: rest =>
      if isWideGap c || (c = ':' && endsAtColon inFlow (Text.peek rest 0)) ||
          (inFlow && endsFlowPlain c) then []
      else c :: plainChunk inFlow rest

/-- The line breaks after the first one inside a plain scalar. Nothing is answered if a document
boundary follows one of them. -/
def plainBreaks : Nat → Cursor → Option (List Char) × Cursor
  | 0, cursor => (some [], cursor)
  | fuel + 1, cursor =>
      if cursor.atBoundary then (none, cursor)
      else
        let cursor := cursor.skipSpaces
        match cursor.lineBreak with
        | ([], _) => (some [], cursor)
        | (first, cursor) =>
            let (others, cursor) := plainBreaks fuel cursor
            (others.map (first ++ ·), cursor)

/-- The gap behind a piece of a plain scalar: its folded text, empty where the scalar ends, and
whether a line ended in it. -/
def plainGap (cursor : Cursor) : List Char × Bool × Cursor :=
  let (spaces, cursor) := cursor.span (· = ' ')
  match cursor.lineBreak with
  | ([], _) => (spaces, false, cursor)
  | (first, cursor) =>
      match plainBreaks (cursor.rest.length + 1) cursor with
      | (none, cursor) => ([], true, cursor)
      | (some others, cursor) => (foldBreak first others, true, cursor)

/-- A plain scalar, and whether the last gap it looked past ended a line. `indent` is the least
column at which it continues outside flow collections. -/
def plainText (inFlow : Bool) (indent : Int) : Nat → List Char → Bool → Cursor →
    List Char × Bool × Cursor
  | 0, _, lineEnded, cursor => ([], lineEnded, cursor)
  | fuel + 1, gap, lineEnded, cursor =>
      let chunk := if cursor.here = '#' then [] else plainChunk inFlow cursor.rest
      if chunk.isEmpty then ([], lineEnded, cursor)
      else
        let cursor := cursor.skip chunk.length
        let (nextGap, nextEnded, cursor) := plainGap cursor
        if nextGap.isEmpty || cursor.here = '#' || (!inFlow && (cursor.column : Int) < indent) then
          (gap ++ chunk, nextEnded, cursor)
        else
          let (others, lineEnded, cursor) := plainText inFlow indent fuel nextGap nextEnded cursor
          (gap ++ chunk ++ others, lineEnded, cursor)

def quotedEscape? (c : Char) : Option Char :=
  match c with
  | '0' => some '\x00'
  | 'a' => some '\x07'
  | 'b' => some '\x08'
  | 't' => some '\t'
  | '\t' => some '\t'
  | 'n' => some '\n'
  | 'v' => some '\x0b'
  | 'f' => some '\x0c'
  | 'r' => some '\r'
  | 'e' => some '\x1b'
  | ' ' => some ' '
  | '"' => some '"'
  | '\\' => some '\\'
  | '/' => some '/'
  | 'N' => some '\x85'
  | '_' => some '\u00a0'
  | 'L' => some '\u2028'
  | 'P' => some '\u2029'
  | _ => none

def escapeWidth? (c : Char) : Option Nat :=
  match c with
  | 'x' => some 2
  | 'u' => some 4
  | 'U' => some 8
  | _ => none

def escapedPoint (code : Nat) : Except Fault Text.Point :=
  if Nat.pow 2 31 ≤ code then .error .codePointSize
  else if 0x110000 ≤ code then .error .codePoint
  else .ok (.ofCode code)

def escapedCode (width : Nat) (cursor : Cursor) : Scan (List Char × Cursor) :=
  let digits := cursor.rest.take width
  match digits.mapM Text.hexValue? with
  | none => cursor.refuse
  | some values =>
      if values.length < width then cursor.refuse
      else do
        let code := values.foldl (fun code value => code * 16 + value) 0
        let point ← (escapedPoint code).mapError cursor.stopFor
        .ok (Text.held point, cursor.skip width)

def quotedBreaks : Nat → Cursor → Scan (List Char × Cursor)
  | 0, cursor => .ok ([], cursor)
  | fuel + 1, cursor =>
      if cursor.atBoundary then cursor.refuse
      else
        let cursor := cursor.skipWhile (fun c => c = ' ' || c = '\t')
        match cursor.lineBreak with
        | ([], _) => .ok ([], cursor)
        | (first, cursor) => do
            let (others, cursor) ← quotedBreaks fuel cursor
            .ok (first ++ others, cursor)

/-- What a backslash stands for in a double-quoted scalar: a character, or nothing with the line
breaks behind it. The cursor is behind the backslash. -/
def escapeText (cursor : Cursor) : Scan (List Char × Cursor) :=
  let c := cursor.here
  match quotedEscape? c with
  | some plain => .ok ([plain], cursor.next)
  | none =>
      match escapeWidth? c with
      | some width => escapedCode width cursor.next
      | none =>
          if isBreak c then
            let (_, cursor) := cursor.lineBreak
            quotedBreaks (cursor.rest.length + 1) cursor
          else cursor.refuse

def quotedGap (cursor : Cursor) : Scan (List Char × Cursor) := do
  let (blanks, cursor) := cursor.span (fun c => c = ' ' || c = '\t')
  match cursor.lineBreak with
  | ([], _) => if cursor.here = '\x00' then cursor.refuse else .ok (blanks, cursor)
  | (first, cursor) => do
      let (others, cursor) ← quotedBreaks (cursor.rest.length + 1) cursor
      .ok (foldBreak first others, cursor)

def quotedText (double : Bool) : Nat → Cursor → Scan (List Char × Cursor)
  | 0, cursor => cursor.refuse
  | fuel + 1, cursor =>
      let c := cursor.here
      if c = '\x00' then cursor.refuse
      else if double && c = '"' then .ok ([], cursor.next)
      else if !double && c = '\'' then
        if cursor.peek 1 = '\'' then do
          let (rest, cursor) ← quotedText double fuel (cursor.skip 2)
          .ok ('\'' :: rest, cursor)
        else .ok ([], cursor.next)
      else if double && c = '\\' then do
        let (text, cursor) ← escapeText cursor.next
        let (rest, cursor) ← quotedText double fuel cursor
        .ok (text ++ rest, cursor)
      else if isWideGap c then do
        let (text, cursor) ← quotedGap cursor
        let (rest, cursor) ← quotedText double fuel cursor
        .ok (text ++ rest, cursor)
      else do
        let (rest, cursor) ← quotedText double fuel cursor.next
        .ok (c :: rest, cursor)

inductive Chomping where
  | clip
  | strip
  | keep
  deriving DecidableEq, Repr

def chomping? (c : Char) : Option Chomping :=
  if c = '+' then some .keep else if c = '-' then some .strip else none

def indentDigit? (cursor : Cursor) : Scan (Option Nat) :=
  let c := cursor.here
  if c = '0' then cursor.refuse
  else if c.isDigit then .ok (some (c.toNat - 48))
  else .ok none

def blockHeader (cursor : Cursor) : Scan (Chomping × Option Nat × Cursor) := do
  let (chomping, indent, cursor) ←
    match chomping? cursor.here with
    | some chomping => do
        let cursor := cursor.next
        let indent ← indentDigit? cursor
        .ok (chomping, indent, if indent.isSome then cursor.next else cursor)
    | none => do
        let indent ← indentDigit? cursor
        let cursor := if indent.isSome then cursor.next else cursor
        match indent, chomping? cursor.here with
        | some _, some chomping => .ok (chomping, indent, cursor.next)
        | _, _ => .ok (Chomping.clip, indent, cursor)
  if isGap cursor.here then .ok (chomping, indent, cursor) else cursor.refuse

def endOfHeader (cursor : Cursor) : Scan Cursor :=
  let cursor := cursor.skipComment
  if isLineEnd cursor.here then .ok cursor.lineBreak.2 else cursor.refuse

/-- The empty lines before a block scalar's text, and the widest column among them and the
first line of the text. -/
def leadingLines : Nat → Nat → Cursor → List Char × Nat × Cursor
  | 0, widest, cursor => ([], widest, cursor)
  | fuel + 1, widest, cursor =>
      if cursor.here = ' ' then
        let cursor := cursor.next
        leadingLines fuel (max widest cursor.column) cursor
      else
        match cursor.lineBreak with
        | ([], _) => ([], widest, cursor)
        | (first, cursor) =>
            let (others, widest, cursor) := leadingLines fuel widest cursor
            (first ++ others, widest, cursor)

def skipIndent (indent : Nat) (cursor : Cursor) : Cursor :=
  cursor.skip (min (cursor.run (· = ' ')) (indent - cursor.column))

def blockBreaks (indent : Nat) : Nat → Cursor → List Char × Cursor
  | 0, cursor => ([], cursor)
  | fuel + 1, cursor =>
      let cursor := skipIndent indent cursor
      match cursor.lineBreak with
      | ([], _) => ([], cursor)
      | (first, cursor) =>
          let (others, cursor) := blockBreaks indent fuel cursor
          (first ++ others, cursor)

def isBlankChar (c : Char) : Bool :=
  c = ' ' || c = '\t'

/-- The lines of a block scalar. Answers the text up to the last line, that line's break, the
breaks behind it, and the place. `breaks` are the empty lines before the first line. -/
def blockLines (folded : Bool) (indent : Nat) : Nat → List Char → Cursor →
    List Char × List Char × List Char × Cursor
  | 0, breaks, cursor => ([], [], breaks, cursor)
  | fuel + 1, breaks, cursor =>
      if cursor.column = indent && cursor.here ≠ '\x00' then
        let leadingText := !isBlankChar cursor.here
        let (line, cursor) := cursor.span (fun c => !isLineEnd c)
        let (lineEnd, cursor) := cursor.lineBreak
        let (nextBreaks, cursor) := blockBreaks indent (cursor.rest.length + 1) cursor
        if cursor.column = indent && cursor.here ≠ '\x00' then
          let joint :=
            if folded && lineEnd = ['\n'] && leadingText && !isBlankChar cursor.here then
              if nextBreaks.isEmpty then [' '] else []
            else lineEnd
          let (text, lastEnd, lastBreaks, cursor) :=
            blockLines folded indent fuel nextBreaks cursor
          (breaks ++ line ++ joint ++ text, lastEnd, lastBreaks, cursor)
        else (breaks ++ line, lineEnd, nextBreaks, cursor)
      else ([], [], breaks, cursor)

def blockText (folded : Bool) (parent : Int) (cursor : Cursor) :
    Scan (List Char × Cursor) := do
  let (chomping, increment, cursor) ← blockHeader cursor
  let cursor ← endOfHeader cursor
  let least := (max (parent + 1) 1).toNat
  let fuel := cursor.rest.length + 1
  let (indent, breaks, cursor) :=
    match increment with
    | none =>
        let (breaks, widest, cursor) := leadingLines fuel 0 cursor
        (max least widest, breaks, cursor)
    | some increment =>
        let indent := least + increment - 1
        let (breaks, cursor) := blockBreaks indent fuel cursor
        (indent, breaks, cursor)
  let (text, lastEnd, lastBreaks, cursor) := blockLines folded indent fuel breaks cursor
  let ending :=
    match chomping with
    | .strip => []
    | .clip => lastEnd
    | .keep => lastEnd ++ lastBreaks
  .ok (text ++ ending, cursor)

end WrapperTypings.Yaml

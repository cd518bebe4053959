import WrapperTypings.Text.Point
import WrapperTypings.Text.Search
import WrapperTypings.Yaml.Fault

set_option autoImplicit false

namespace WrapperTypings.Yaml

def isBreak (c : Char) : Bool :=
  c = '\n' || c = '\r' || c = '\x85' || c = '\u2028' || c = '\u2029'

def isLineEnd (c : Char) : Bool :=
  c = '\x00' || isBreak c

def isGap (c : Char) : Bool :=
  c = ' ' || isLineEnd c

def isWideGap (c : Char) : Bool :=
  c = '\t' || isGap c

def isNameChar (c : Char) : Bool :=
  c.isAlphanum || c = '-' || c = '_'

structure Cursor where
  rest : List Char
  index : Nat
  line : Nat
  column : Nat
  deriving Repr

namespace Cursor

def start (text : List Char) : Cursor := ⟨text, 0, 0, 0⟩

def peek (cursor : Cursor) (ahead : Nat) : Char :=
  Text.peek cursor.rest ahead

def here (cursor : Cursor) : Char :=
  cursor.peek 0

/-- Moves over one character. A byte order mark takes no column, and what opens two characters that
hold one takes none and does not count. -/
def next (cursor : Cursor) : Cursor :=
  match cursor.rest with
  | [] => cursor
  | c :: rest =>
      if c = Text.lead then { cursor with rest }
      else if isBreak c && !(c = '\r' && rest.head? = some '\n') then
        ⟨rest, cursor.index + 1, cursor.line + 1, 0⟩
      else
        ⟨rest, cursor.index + 1, cursor.line,
          if c = '\uFEFF' then cursor.column else cursor.column + 1⟩

def skip : Nat → Cursor → Cursor
  | 0, cursor => cursor
  | count + 1, cursor => skip count cursor.next

def run (cursor : Cursor) (test : Char → Bool) : Nat :=
  (cursor.rest.takeWhile test).length

def skipWhile (cursor : Cursor) (test : Char → Bool) : Cursor :=
  cursor.skip (cursor.run test)

def span (cursor : Cursor) (test : Char → Bool) : List Char × Cursor :=
  (cursor.rest.takeWhile test, cursor.skipWhile test)

def skipSpaces (cursor : Cursor) : Cursor :=
  cursor.skipWhile (· = ' ')

/-- Moves over a line break. It reads as a newline, except that the line and paragraph separators
read as themselves; where there is none, nothing is read. -/
def lineBreak (cursor : Cursor) : List Char × Cursor :=
  let c := cursor.here
  if c = '\r' && cursor.peek 1 = '\n' then (['\n'], cursor.skip 2)
  else if c = '\r' || c = '\n' || c = '\x85' then (['\n'], cursor.next)
  else if c = '\u2028' || c = '\u2029' then ([c], cursor.next)
  else ([], cursor)

def atBoundary (cursor : Cursor) : Bool :=
  let lead := cursor.rest.take 3
  (lead = ['-', '-', '-'] || lead = ['.', '.', '.']) && isWideGap (cursor.peek 3)

def skipComment (cursor : Cursor) : Cursor :=
  let cursor := cursor.skipSpaces
  if cursor.here = '#' then cursor.skipWhile (fun c => !isLineEnd c) else cursor

end Cursor

structure Stop where
  fault : Fault
  left : Nat

abbrev Scan (α : Type) := Except Stop α

def Cursor.stopFor (cursor : Cursor) (fault : Fault) : Stop :=
  ⟨fault, cursor.rest.length⟩

def Cursor.refuse {α : Type} (cursor : Cursor) : Scan α :=
  .error (cursor.stopFor .token)

end WrapperTypings.Yaml

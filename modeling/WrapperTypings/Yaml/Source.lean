import WrapperTypings.Text.Point
import WrapperTypings.Yaml.Fault

set_option autoImplicit false

/-! How the text of a document comes: its bytes are decoded in pieces, and the characters are handed
on in blocks. What is wrong with a block is told as soon as a character of it is asked for. -/

namespace WrapperTypings.Yaml

/-- What reading depends on and the document does not say: where the pieces and blocks begin, and for
how many collections inside one another there is room below the root. -/
structure Conditions where
  /-- Where the piece with the byte at a position begins. -/
  pieceStart : Nat → Nat
  blockStart : Nat → Nat
  room : Nat
  blockStart_le : ∀ index, blockStart index ≤ index

/-- Pieces of 8192 bytes and blocks of 4096 characters, of which the first two come together. -/
def Conditions.usual : Conditions where
  pieceStart position := position - position % 8192
  blockStart index := if index < 8192 then 0 else index - index % 4096
  room := 480
  blockStart_le index := by
    split
    · exact Nat.zero_le index
    · exact Nat.sub_le index _

/-- The characters up to where the text breaks off, and what is found there. -/
structure Source where
  text : List Char
  wall : Option Fault

def isAllowed (c : Char) : Bool :=
  c = '\t' || c = '\n' || c = '\r' || ('\x20' ≤ c && c ≤ '\x7e') || c = '\x85' ||
    ('\u00a0' ≤ c && c ≤ '\uD7FF') || ('\uE000' ≤ c && c ≤ '\uFFFD') || 0x10000 ≤ c.toNat

section
variable (conditions : Conditions)

def shownAt (size : Nat) (fault : Text.Utf8Fault) : Nat :=
  match fault.reason with
  | .invalidStart => fault.position
  | .invalidContinuation => fault.position + fault.length
  | .unexpectedEnd => size

def characterStart (bytes : ByteArray) : Nat → Nat
  | 0 => 0
  | position + 1 =>
      if bytes.data[position + 1]?.any (fun b => 0x80 ≤ b && b < 0xC0) then
        characterStart bytes position
      else position + 1

/-- Where the bytes begin that are decoded together with those that are not UTF-8. A character that a
piece breaks off is decoded with the next piece. -/
def undecodedFrom (bytes : ByteArray) (fault : Text.Utf8Fault) : Nat :=
  let shown := shownAt bytes.size fault
  let start := if shown < bytes.size then conditions.pieceStart shown else bytes.size
  if fault.position ≤ start then fault.position else characterStart bytes start

/-- The characters before the bytes that cannot be decoded, and the fault as it is told, its position
counted from the bytes that are decoded with them. -/
def decoded (bytes : ByteArray) : List Char × Option Text.Utf8Fault :=
  match Text.decode bytes with
  | .ok text => (Text.unifyNewlines text.toList, none)
  | .error fault =>
      let start := undecodedFrom conditions bytes fault
      let text := ((String.fromUTF8? (bytes.extract 0 start)).getD "").toList
      -- What a carriage return at the end stands for is not known before the next piece is.
      let text := if text.getLast? = some '\r' then text.dropLast else text
      (Text.unifyNewlines text, some { fault with position := fault.position - start })

/-- The index of the first character that is not handed on, and what is told instead. The block where
something is wrong is not; of two in one block what cannot be decoded counts, since the block is not
complete without it. -/
def wall? (text : List Char) (undecoded : Option Text.Utf8Fault) : Option (Nat × Fault) :=
  let forbidden := (text.findIdx? (!isAllowed ·)).map (fun index =>
    (conditions.blockStart index, Fault.character))
  let undecoded := undecoded.map (fun fault =>
    (conditions.blockStart text.length, Fault.undecodable fault))
  match forbidden, undecoded with
  | some first, some second => some (if first.1 < second.1 then first else second)
  | some first, none => some first
  | none, second => second

def Source.ofBytes (bytes : ByteArray) : Source :=
  let (text, undecoded) := decoded conditions bytes
  let wall := wall? conditions text undecoded
  let handed := (wall.map (fun found => text.take found.1)).getD text
  ⟨(handed.map Text.Point.char).flatMap Text.held, wall.map Prod.snd⟩

theorem Source.ofBytes_toUTF8 {text : String} (unreturned : '\r' ∉ text.toList)
    (plain : Text.lead ∉ text.toList) (allowed : text.toList.all isAllowed = true) :
    Source.ofBytes conditions text.toUTF8 = ⟨text.toList, none⟩ := by
  have found : text.toList.findIdx? (!isAllowed ·) = .none := by
    rw [List.findIdx?_eq_none_iff]
    intro c member
    rw [List.all_eq_true.mp allowed c member]
    rfl
  have read : decoded conditions text.toUTF8 = (text.toList, .none) := by
    unfold decoded
    rw [Text.decode_toUTF8]
    dsimp only
    rw [Text.unifyNewlines_of_not_mem unreturned]
  have noWall : wall? conditions text.toList .none = .none := by
    unfold wall?
    rw [found]
    rfl
  unfold Source.ofBytes
  rw [read]
  dsimp only
  rw [noWall]
  exact congrArg (Source.mk · .none) (Text.flatMap_held_of_not_mem plain)

end

end WrapperTypings.Yaml

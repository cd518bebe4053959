set_option autoImplicit false

namespace WrapperTypings.Text

inductive Utf8Reason where
  | invalidStart
  | invalidContinuation
  | unexpectedEnd
  deriving DecidableEq, Repr

/-- The first bytes that are not UTF-8: where they start, how many they are, and why. -/
structure Utf8Fault where
  position : Nat
  length : Nat
  firstByte : UInt8
  reason : Utf8Reason
  deriving DecidableEq, Repr

/-- How a byte can open a character: how many bytes follow and the interval of the next one. -/
def openingByte (b : UInt8) : Option (Nat × UInt8 × UInt8) :=
  if b < 0x80 then some (0, 0, 0)
  else if b < 0xC2 then none
  else if b < 0xE0 then some (1, 0x80, 0xBF)
  else if b = 0xE0 then some (2, 0xA0, 0xBF)
  else if b = 0xED then some (2, 0x80, 0x9F)
  else if b < 0xF0 then some (2, 0x80, 0xBF)
  else if b = 0xF0 then some (3, 0x90, 0xBF)
  else if b < 0xF4 then some (3, 0x80, 0xBF)
  else if b = 0xF4 then some (3, 0x80, 0x8F)
  else none

/-- Follows the bytes after an opening byte; answers how many of them fit before the first that
does not, and whether the bytes ran out. -/
def continuing : Nat → UInt8 → UInt8 → List UInt8 → Nat × Bool
  | 0, _, _, _ => (0, false)
  | _ + 1, _, _, [] => (0, true)
  | more + 1, low, high, b :: rest =>
      if low ≤ b && b ≤ high then
        let (count, ended) := continuing more 0x80 0xBF rest
        (count + 1, ended)
      else (0, false)

/-- The first fault at or after a position; the skip counts bytes of a character that is already
known to be whole. -/
def firstFault (position skip : Nat) : List UInt8 → Option Utf8Fault
  | [] => none
  | b :: rest =>
      match skip with
      | skip + 1 => firstFault (position + 1) skip rest
      | 0 =>
          match openingByte b with
          | none => some ⟨position, 1, b, .invalidStart⟩
          | some (more, low, high) =>
              match continuing more low high rest with
              | (count, true) => some ⟨position, count + 1, b, .unexpectedEnd⟩
              | (count, false) =>
                  if count < more then some ⟨position, count + 1, b, .invalidContinuation⟩
                  else firstFault (position + 1) more rest

def decode (bytes : ByteArray) : Except Utf8Fault String :=
  match String.fromUTF8? bytes with
  | some text => .ok text
  | none => .error ((firstFault 0 0 bytes.toList).getD ⟨0, 1, 0, .invalidStart⟩)

@[simp] theorem decode_toUTF8 (text : String) : decode text.toUTF8 = .ok text := by
  unfold decode String.fromUTF8?
  rw [String.toUTF8_eq_toByteArray, dif_pos text.isValidUTF8]
  rfl

def unifyNewlines : List Char → List Char
  | [] => []
  | '\r' :: '\n' :: rest => '\n' :: unifyNewlines rest
  | '\r' :: rest => '\n' :: unifyNewlines rest
  | c :: rest => c :: unifyNewlines rest

theorem unifyNewlines_of_not_mem {text : List Char} (h : '\r' ∉ text) :
    unifyNewlines text = text := by
  induction text with
  | nil => rfl
  | cons c rest ih =>
      have hc : c ≠ '\r' := fun same => h (same ▸ List.mem_cons_self)
      have hrest : '\r' ∉ rest := fun inside => h (List.mem_cons_of_mem _ inside)
      unfold unifyNewlines
      split <;> simp_all

def readText (bytes : ByteArray) : Except Utf8Fault String :=
  (decode bytes).map (fun text => String.ofList (unifyNewlines text.toList))

end WrapperTypings.Text

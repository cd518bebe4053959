set_option autoImplicit false

namespace WrapperTypings.Text.Base64

def sextet? (c : Char) : Option Nat :=
  if 'A' ≤ c && c ≤ 'Z' then some (c.toNat - 65)
  else if 'a' ≤ c && c ≤ 'z' then some (c.toNat - 71)
  else if '0' ≤ c && c ≤ '9' then some (c.toNat + 4)
  else if c = '+' then some 62
  else if c = '/' then some 63
  else none

/-- Reads on inside a group. `count` characters of it are read, `left` is what the last of them
leaves for the next byte, and `padding` counts the padding since. -/
def decodeFrom (count left padding : Nat) : List Char → Option (List UInt8)
  | [] => if count = 0 then some [] else none
  | c :: rest =>
      if c = '=' then
        if count < 2 then decodeFrom count left padding rest
        else if 4 ≤ count + padding + 1 then some []
        else decodeFrom count left (padding + 1) rest
      else
        match sextet? c with
        | none => decodeFrom count left padding rest
        | some bits =>
            match count with
            | 0 => decodeFrom 1 bits 0 rest
            | 1 => (decodeFrom 2 (bits % 16) 0 rest).map ((left * 4 + bits / 16).toUInt8 :: ·)
            | 2 => (decodeFrom 3 (bits % 4) 0 rest).map ((left * 16 + bits / 4).toUInt8 :: ·)
            | _ => (decodeFrom 0 0 0 rest).map ((left * 64 + bits).toUInt8 :: ·)

def decode? (text : List Char) : Option (List UInt8) :=
  decodeFrom 0 0 0 text

end WrapperTypings.Text.Base64

import WrapperTypings.Text.Point
import WrapperTypings.Text.Printable

set_option autoImplicit false

namespace WrapperTypings.Text

def numericEscape (code : Nat) : List Char :=
  if code < 0x100 then '\\' :: 'x' :: hexDigits 2 code
  else if code < 0x10000 then '\\' :: 'u' :: hexDigits 4 code
  else '\\' :: 'U' :: hexDigits 8 code

def quotedChar (shown : Char → Bool) (quote c : Char) : List Char :=
  if c = quote then ['\\', c]
  else if c = '\\' then ['\\', '\\']
  else if c = '\n' then ['\\', 'n']
  else if c = '\r' then ['\\', 'r']
  else if c = '\t' then ['\\', 't']
  else if shown c then [c]
  else numericEscape c.toNat

def quotedPoint (shown : Char → Bool) (quote : Char) : Point → List Char
  | .char c => quotedChar shown quote c
  | .surrogate offset => numericEscape (Point.surrogateCode offset)

def quoteFor (text : List Char) : Char :=
  if text.contains '\'' && !text.contains '"' then '"' else '\''

def quoted (text : String) : String :=
  let quote := quoteFor text.toList
  String.ofList (quote :: (points text).flatMap (quotedPoint isPrintable quote) ++ [quote])

def quotedAscii (text : String) : String :=
  let quote := quoteFor text.toList
  let shown := fun c => c.toNat < 128 && isPrintable c
  String.ofList (quote :: (points text).flatMap (quotedPoint shown quote) ++ [quote])

end WrapperTypings.Text

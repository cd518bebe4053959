import WrapperTypings.Text.Search

set_option autoImplicit false

namespace WrapperTypings.TypeToken

def typeExpression (token : String) : String :=
  if token = "uint" then "number"
  else if token = "buf" then "Uint8Array"
  else if token = "randombytes_implementation" then "Uint8Array"
  else if token = "unsized_buf" then "string | Uint8Array | undefined"
  else if token = "unsized_buf_optional" then "string | Uint8Array | undefined"
  else token

def isOptional (token : String) : Bool :=
  Text.contains token "optional"

end WrapperTypings.TypeToken

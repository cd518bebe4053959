import WrapperTypings.Calendar
import WrapperTypings.Text.Quoted
import WrapperTypings.Text.Utf8

set_option autoImplicit false

namespace WrapperTypings.Yaml

inductive Fault where
  | undecodable (fault : Text.Utf8Fault)
  /-- A character that may not stand in a document. -/
  | character
  /-- Text that is no token where it stands. -/
  | token
  /-- A token that does not continue what came before. -/
  | misplaced
  /-- An unknown or repeated anchor, or a second document. -/
  | reference
  /-- Collections inside one another for which there is no room. -/
  | tooDeep
  /-- A node that has no value of its type. -/
  | value
  | calendar (fault : CalendarFault)
  | integerTooLong (digits : Nat)
  | notAnInteger (text : String) (base : Nat)
  | notAFloat (text : String)
  | notABool
  /-- An integer beyond every number with a point. -/
  | floatTooLarge
  | emptyNumber
  | notATimestamp
  | codePoint
  /-- An escape beyond 31 bits. -/
  | codePointSize
  deriving DecidableEq, Repr

end WrapperTypings.Yaml

import WrapperTypings.Text.Blank
import WrapperTypings.Text.Quoted
import WrapperTypings.Text.Search
import WrapperTypings.Binary64.Text

set_option autoImplicit false

namespace WrapperTypings.Version

inductive Fault where
  | notNumeric (version : String)
  | componentTooLong (digits : Nat)
  | belowMinimum (minimum : String)
  deriving DecidableEq, Repr

def componentDigitLimit : Nat := 4300

def isComponent (part : List Char) : Bool :=
  !part.isEmpty && part.all Char.isDigit

def readComponent (part : List Char) : Except Fault Nat :=
  if componentDigitLimit < part.length then .error (.componentTooLong part.length)
  else .ok (Binary64.digitsValue part)

/-- The components of a version. Every part is checked for digits before any is read. -/
def components (version : String) : Except Fault (List Nat) :=
  let parts := Text.parts '.' (Text.trim version.toList)
  if parts.all isComponent then parts.mapM readComponent
  else .error (.notNumeric version)

def compareComponents : List Nat → List Nat → Ordering
  | [], [] => .eq
  | [], b :: bs => if b = 0 then compareComponents [] bs else .lt
  | a :: as, [] => if a = 0 then compareComponents as [] else .gt
  | a :: as, b :: bs => (compare a b).then (compareComponents as bs)

def compareVersions (a b : String) : Except Fault Ordering := do
  let left ← components a
  let right ← components b
  pure (compareComponents left right)

/-- Accepts a version that is at least the minimum. One that cannot be compared for its form is
below every minimum. -/
def checkMinimum (version minimum : String) : Except Fault String :=
  match compareVersions version minimum with
  | .ok .lt => .error (.belowMinimum minimum)
  | .ok _ => .ok version
  -- The length of a component is a fault of its own and says nothing about the order.
  | .error (.componentTooLong digits) => .error (.componentTooLong digits)
  | .error _ => .error (.belowMinimum minimum)

end WrapperTypings.Version

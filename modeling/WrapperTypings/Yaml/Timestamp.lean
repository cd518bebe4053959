import WrapperTypings.Binary64.Text
import WrapperTypings.Calendar
import WrapperTypings.Text.Search

set_option autoImplicit false

namespace WrapperTypings.Yaml

/-- A time of day as written. `fraction` holds the digits behind the point, and `offset` the
zone's distance from universal time in seconds. -/
structure Clock where
  hour : Nat
  minute : Nat
  second : Nat
  fraction : List Char
  offset : Option Int

structure Timestamp where
  year : Nat
  month : Nat
  day : Nat
  fullWidth : Bool
  clock : Option Clock

def shortNumber? (least most : Nat) (text : List Char) : Option Nat :=
  if least ≤ text.length && text.length ≤ most && text.all Char.isDigit then
    some (Binary64.digitsValue text)
  else none

def cut (mark : Char) (text : List Char) : List Char × List Char :=
  (text.takeWhile (· ≠ mark), (text.dropWhile (· ≠ mark)).drop 1)

def isTimeBlank (c : Char) : Bool :=
  c = ' ' || c = '\t'

namespace Clock

def offset? (text : List Char) : Option Int :=
  match Text.parts ':' text with
  | [hour] => (shortNumber? 1 2 hour).map (fun hour => (hour : Int) * 3600)
  | [hour, minute] => do
      let hour ← shortNumber? 1 2 hour
      let minute ← shortNumber? 2 2 minute
      some ((hour : Int) * 3600 + (minute : Int) * 60)
  | _ => none

/-- A zone: `Z`, or a sign, hours and perhaps minutes. Blanks may stand in front; no zone at all
has no offset. -/
def zone? (text : List Char) : Option (Option Int) :=
  match text.dropWhile isTimeBlank with
  | [] => if text.isEmpty then some none else none
  | ['Z'] => some (some 0)
  | '+' :: rest => (offset? rest).map some
  | '-' :: rest => (offset? rest).map (fun seconds => some (-seconds))
  | _ => none

def ofText? (text : List Char) : Option Clock := do
  let (hour, rest) := cut ':' text
  let (minute, rest) := cut ':' rest
  let hour ← shortNumber? 1 2 hour
  let minute ← shortNumber? 2 2 minute
  let second ← shortNumber? 2 2 (rest.take 2)
  let (fraction, rest) :=
    match rest.drop 2 with
    | '.' :: rest => Binary64.spanDigits rest
    | rest => ([], rest)
  let offset ← zone? rest
  some ⟨hour, minute, second, fraction, offset⟩

def microsecond (clock : Clock) : Nat :=
  let digits := clock.fraction.take 6
  Binary64.digitsValue digits * Nat.pow 10 (6 - digits.length)

end Clock

namespace Timestamp

/-- What stands behind the date: nothing, or a time of day set off by a `T` or blanks. -/
def clock? : List Char → Option (Option Clock)
  | [] => some none
  | c :: rest =>
      if c = 'T' || c = 't' then (Clock.ofText? rest).map some
      else if isTimeBlank c then (Clock.ofText? (rest.dropWhile isTimeBlank)).map some
      else none

def ofText? (text : List Char) : Option Timestamp := do
  let (year, rest) := cut '-' text
  let (month, rest) := cut '-' rest
  let (day, rest) := Binary64.spanDigits rest
  let fullWidth := month.length = 2 && day.length = 2
  let year ← shortNumber? 4 4 year
  let month ← shortNumber? 1 2 month
  let day ← shortNumber? 1 2 day
  let clock ← clock? rest
  some ⟨year, month, day, fullWidth, clock⟩

/-- Whether plain text is taken for a timestamp: a date alone has to have its full width. -/
def looksPlain (text : List Char) : Bool :=
  match ofText? text with
  | some timestamp => timestamp.fullWidth || timestamp.clock.isSome
  | none => false

end Timestamp

end WrapperTypings.Yaml

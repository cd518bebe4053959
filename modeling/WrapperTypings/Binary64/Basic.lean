set_option autoImplicit false

/-! IEEE 754 double-precision numbers as exact values: a sign and a significand times a power of
two, or one of the special values. Every operation computes the exact rational result and rounds
it once, to the nearest double and to the even neighbour on a tie. -/

namespace WrapperTypings

/-- A double. The finite values built by `ofRatio` are canonical: the significand is below
`2 ^ 53`, and below `2 ^ 52` only at the least exponent. -/
inductive Binary64 where
  | nan
  | infinite (negative : Bool)
  | finite (negative : Bool) (significand : Nat) (exponent : Int)
  deriving DecidableEq, Repr, Inhabited

namespace Binary64

def zero : Binary64 := .finite false 0 (-1074)

def roundQuotient (numerator denominator : Nat) : Nat :=
  let quotient := numerator / denominator
  let twice := 2 * (numerator % denominator)
  if twice < denominator then quotient
  else if denominator < twice then quotient + 1
  else quotient + quotient % 2

def scaleDown (numerator denominator : Nat) (exponent : Int) : Nat × Nat :=
  match exponent with
  | .ofNat e => (numerator, denominator * Nat.pow 2 e)
  | .negSucc e => (numerator * Nat.pow 2 (e + 1), denominator)

/-- The exponent at which a positive ratio has a 53-bit significand, but at least `-1074`. -/
def ratioExponent (numerator denominator : Nat) : Int :=
  let guess : Int := (Nat.log2 numerator : Int) - (Nat.log2 denominator : Int) - 52
  let (n, d) := scaleDown numerator denominator guess
  let exponent := if n / d < Nat.pow 2 52 then guess - 1 else guess
  max exponent (-1074)

/-- The double nearest to a ratio; `denominator` is positive. -/
def ofRatio (negative : Bool) (numerator denominator : Nat) : Binary64 :=
  if numerator = 0 then .finite negative 0 (-1074)
  else
    let exponent := ratioExponent numerator denominator
    let (n, d) := scaleDown numerator denominator exponent
    let rounded := roundQuotient n d
    let (significand, exponent) :=
      if rounded = Nat.pow 2 53 then (Nat.pow 2 52, exponent + 1) else (rounded, exponent)
    if 971 < exponent then .infinite negative else .finite negative significand exponent

/-- The double nearest to `digits * 10 ^ exponent`. Exponents far outside the range of doubles
are settled without computing the power. -/
def ofDecimal (negative : Bool) (digits : Nat) (exponent : Int) : Binary64 :=
  if digits = 0 then .finite negative 0 (-1074)
  else
    let magnitude : Int := ((Nat.toDigits 10 digits).length : Int) + exponent
    if 400 < magnitude then .infinite negative
    else if magnitude < -400 then .finite negative 0 (-1074)
    else
      match exponent with
      | .ofNat e => ofRatio negative (digits * Nat.pow 10 e) 1
      | .negSucc e => ofRatio negative digits (Nat.pow 10 (e + 1))

def ofInt (value : Int) : Binary64 :=
  ofRatio (value < 0) value.natAbs 1

def negate : Binary64 → Binary64
  | .nan => .nan
  | .infinite negative => .infinite !negative
  | .finite negative significand exponent => .finite (!negative) significand exponent

def toRatio? : Binary64 → Option (Int × Nat)
  | .finite negative significand exponent =>
      let signed : Int := if negative then -(significand : Int) else significand
      match exponent with
      | .ofNat e => some (signed * Nat.pow 2 e, 1)
      | .negSucc e => some (signed, Nat.pow 2 (e + 1))
  | _ => none

def ofSigned (numerator : Int) (denominator : Nat) : Binary64 :=
  ofRatio (numerator < 0) numerator.natAbs denominator

def add (a b : Binary64) : Binary64 :=
  match toRatio? a, toRatio? b with
  | some (n, d), some (m, e) => ofSigned (n * e + m * d) (d * e)
  | some _, none => b
  | none, some _ => a
  | none, none => if a = b then a else .nan

def isZero : Binary64 → Bool
  | .finite _ significand _ => significand == 0
  | _ => false

def isNegative : Binary64 → Bool
  | .nan => false
  | .infinite negative => negative
  | .finite negative _ _ => negative

def mul (a b : Binary64) : Binary64 :=
  let negative := isNegative a != isNegative b
  match toRatio? a, toRatio? b with
  | some (n, d), some (m, e) => ofRatio negative (n * m).natAbs (d * e)
  | _, _ => if a = .nan || b = .nan || isZero a || isZero b then .nan else .infinite negative

def isNonPositive : Binary64 → Bool
  | .nan => false
  | .infinite negative => negative
  | .finite negative significand _ => negative || significand == 0

def equalsInt (a : Binary64) (value : Int) : Bool :=
  match toRatio? a with
  | some (n, d) => n == value * d
  | none => false

/-- Whether two doubles are the same number; the two zeros are, and a non-number counts as
itself. -/
def sameNumber (a b : Binary64) : Bool :=
  a == b || (isZero a && isZero b)

end Binary64

end WrapperTypings

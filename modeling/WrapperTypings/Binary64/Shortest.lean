import WrapperTypings.Binary64.Basic

set_option autoImplicit false

/-! The shortest decimal that reads back as a given double: the fewest digits, and among the
decimals with that many digits the one nearest to the number. -/

namespace WrapperTypings.Binary64

/-- The number of digits before the point of a ratio of at least one, and otherwise minus the
number of zeros after the point. The ratio is positive; `fuel` bounds the zeros. -/
def pointPosition (numerator denominator : Nat) : Nat → Int
  | 0 => 0
  | fuel + 1 =>
      if denominator ≤ numerator then ((Nat.toDigits 10 (numerator / denominator)).length : Int)
      else if denominator ≤ numerator * 10 then 0
      else pointPosition (numerator * 10) denominator fuel - 1

/-- The neighbours of a ratio on the grid `10 ^ -places`: the one below, and whether the one above
is strictly nearer or, at the same distance, even. -/
def gridNeighbours (numerator denominator : Nat) (places : Int) : Nat × Bool :=
  let (n, d) :=
    match places with
    | .ofNat p => (numerator * Nat.pow 10 p, denominator)
    | .negSucc p => (numerator, denominator * Nat.pow 10 (p + 1))
  let lower := n / d
  let twice := 2 * (n % d)
  (lower, decide (d < twice) || (decide (twice = d) && lower % 2 == 1))

def shortestFrom (value : Binary64) (numerator denominator : Nat) (point : Int) :
    Nat → Nat → Nat × Int
  | _, 0 => (numerator, 0)
  | count, fuel + 1 =>
      let places : Int := (count : Int) - point
      let (lower, upperNearer) := gridNeighbours numerator denominator places
      let nearer := if upperNearer then lower + 1 else lower
      let farther := if upperNearer then lower else lower + 1
      if ofDecimal false nearer (-places) = value then (nearer, -places)
      else if ofDecimal false farther (-places) = value then (farther, -places)
      else shortestFrom value numerator denominator point (count + 1) fuel

/-- The digits of a positive finite double and the position of the point, counted from the first
digit: `digits = d₁d₂…` and `point = p` stand for `0.d₁d₂… * 10 ^ p`. -/
def shortestDigits (significand : Nat) (exponent : Int) : List Char × Int :=
  let value := Binary64.finite false significand exponent
  let (numerator, denominator) :=
    match exponent with
    | .ofNat e => (significand * Nat.pow 2 e, 1)
    | .negSucc e => (significand, Nat.pow 2 (e + 1))
  let point := pointPosition numerator denominator 400
  let (digits, exponent) := shortestFrom value numerator denominator point 1 17
  let written := Nat.toDigits 10 digits
  let stripped := (written.reverse.dropWhile (· = '0')).reverse
  (stripped, (written.length : Int) + exponent)

end WrapperTypings.Binary64

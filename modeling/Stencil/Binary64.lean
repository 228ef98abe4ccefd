import Stencil.Text.Basic

/-! Double-precision numbers as exact values: a significand below `2^53` times a power of two of at
least `2^-1074`.  Decimals are rounded to the nearest such value, ties to the even significand, and
a value is written with the fewest digits that round back to it. -/

namespace Stencil

inductive Binary64 where
  | nan
  | infinite (negative : Bool)
  | finite (negative : Bool) (significand : Nat) (exponent : Int)
  deriving DecidableEq

namespace Binary64

/-- `numerator / denominator` to the nearest integer, ties to even. -/
def roundDiv (numerator denominator : Nat) : Nat :=
  let q := numerator / denominator
  let twice := 2 * (numerator % denominator)
  if twice < denominator ∨ (twice = denominator ∧ q % 2 = 0) then q else q + 1

def scale (ratio : Nat × Nat) (base : Nat) (exponent : Int) : Nat × Nat :=
  match exponent with
  | .ofNat n => (ratio.1 * base.pow n, ratio.2)
  | .negSucc n => (ratio.1, ratio.2 * base.pow (n + 1))

/-- The least significand above the least exponent, `2^52`. -/
def hidden : Nat := Nat.pow 2 52

def maxExponent : Int := 971

def minExponent : Int := -1074

/-- The value whose significand has 53 bits, or fewer at the least exponent. -/
def ofRatio (negative : Bool) (numerator denominator : Nat) : Binary64 :=
  let guess : Int := max minExponent (Int.ofNat numerator.log2 - Int.ofNat denominator.log2 - 52)
  let scaled := scale (numerator, denominator) 2 (-guess)
  let exponent := if scaled.1 / scaled.2 < hidden then max minExponent (guess - 1) else guess
  let scaled := scale (numerator, denominator) 2 (-exponent)
  let significand := roundDiv scaled.1 scaled.2
  let (significand, exponent) :=
    if significand = 2 * hidden then (hidden, exponent + 1) else (significand, exponent)
  if maxExponent < exponent then .infinite negative else .finite negative significand exponent

/-- `digits * 10^exponent`; exponents far outside the range are decided by the number of digits. -/
def ofDecimal (negative : Bool) (digits : Nat) (exponent : Int) : Binary64 :=
  let magnitude : Int := (Nat.toDigits 10 digits).length + exponent
  if digits = 0 ∨ magnitude < -400 then .finite negative 0 minExponent
  else if 400 < magnitude then .infinite negative
  else
    let ratio := scale (digits, 1) 10 exponent
    ofRatio negative ratio.1 ratio.2

/-- The interval of the reals that round to a value, as numerators over a common denominator
`4 * 2^1074`, and whether its ends belong to it. -/
structure Interval where
  low : Nat
  value : Nat
  high : Nat
  closed : Bool

def commonDenominator : Nat := 4 * Nat.pow 2 1074

def interval (significand : Nat) (exponent : Int) : Interval :=
  let unit := Nat.pow 2 (exponent - minExponent).toNat
  let below := if significand = hidden ∧ minExponent < exponent then unit else 2 * unit
  { low := 4 * significand * unit - below
    value := 4 * significand * unit
    high := 4 * significand * unit + 2 * unit
    closed := significand % 2 == 0 }

def Interval.holds (i : Interval) (ratio : Nat × Nat) : Bool :=
  let low := i.low * ratio.2
  let high := i.high * ratio.2
  let x := ratio.1 * commonDenominator
  if i.closed then low ≤ x && x ≤ high else low < x && x < high

def distance (m n : Nat) : Nat := (m - n) + (n - m)

/-- The nearer of the two neighbours of the value among the multiples of `10^exponent`, if it lies
in the interval; of two that are equally near the greater. -/
def Interval.onGrid? (i : Interval) (exponent : Int) : Option Nat :=
  let step := scale (1, 1) 10 exponent
  let below := i.value * step.2 / (commonDenominator * step.1)
  let at_ := fun k : Nat => (k * step.1, step.2)
  let gap := fun k : Nat => distance (k * step.1 * commonDenominator) (i.value * step.2)
  match i.holds (at_ below), i.holds (at_ (below + 1)) with
  | true, true => some (if gap below < gap (below + 1) then below else below + 1)
  | true, false => some below
  | false, true => some (below + 1)
  | false, false => none

/-- The coarsest grid of powers of ten with a value that rounds back, from `10^start` down. -/
def Interval.shortestFrom (i : Interval) : Nat → Int → Nat × Int
  | 0, exponent => (i.value / commonDenominator, exponent)
  | bound + 1, exponent =>
    match i.onGrid? exponent with
    | some 0 => i.shortestFrom bound (exponent - 1)
    | some digits => (digits, exponent)
    | none => i.shortestFrom bound (exponent - 1)

def shortest (significand : Nat) (exponent : Int) : Nat × Int :=
  (interval significand exponent).shortestFrom 700 309

/-- Positional notation, with at least one digit on each side of the point. -/
def positional (digits : Nat) (exponent : Int) : Text :=
  match exponent with
  | .ofNat n => Text.decimal (digits * Nat.pow 10 n) ++ ".0".toList
  | .negSucc n =>
    let padded := (Text.decimal digits).leftpad (n + 2) '0'
    padded.take (padded.length - (n + 1)) ++ '.' :: padded.drop (padded.length - (n + 1))

def sign (negative : Bool) : Text := if negative then ['-'] else []

def text : Binary64 → Text
  | .nan => "NaN".toList
  | .infinite negative => sign negative ++ "inf".toList
  | .finite negative 0 _ => sign negative ++ "0.0".toList
  | .finite negative significand exponent =>
    let shortest := shortest significand exponent
    sign negative ++ positional shortest.1 shortest.2

end Binary64

end Stencil

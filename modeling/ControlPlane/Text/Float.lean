/-
This file writes floating-point numbers of 64 bits with the fewest digits that
read back. A number is a multiple of a power of two, and the reals that round to
it form an interval around it. Among the multiples of powers of ten in that
interval the file takes one with the fewest digits, and of those the nearest.
-/

import ControlPlane.Text.Number

namespace ControlPlane.Text

/-! ### The interval of a number -/

/-- A number with the ends of the interval of reals that round to it, as multiples of a fraction
of one. The ends belong to the interval if it is closed. -/
structure RoundingInterval where
  lower : Nat
  value : Nat
  upper : Nat
  denominator : Nat
  isClosed : Bool

/-- The interval around a positive number, given by the bits of its magnitude. The gap below a
power of two is half as wide as the one above it. -/
def RoundingInterval.ofBits (bits : Nat) : RoundingInterval :=
  let exponent := bits / 2 ^ 52
  let fraction := bits % 2 ^ 52
  let significand := if exponent = 0 then fraction else 2 ^ 52 + fraction
  let gap := if fraction = 0 && 1 < exponent then 1 else 2
  let doublings := max 1 exponent
  let scale := 2 ^ (doublings - 1077)
  { lower := (4 * significand - gap) * scale
    value := 4 * significand * scale
    upper := (4 * significand + 2) * scale
    denominator := 2 ^ (1077 - doublings)
    isClosed := significand % 2 = 0 }

namespace RoundingInterval

/-- Whether a fraction lies in the interval. -/
def covers (interval : RoundingInterval) (numerator denominator : Nat) : Bool :=
  let scaled := numerator * interval.denominator
  let lower := interval.lower * denominator
  let upper := interval.upper * denominator
  (lower < scaled && scaled < upper) || (interval.isClosed && (scaled = lower || scaled = upper))

/-! ### Decimals -/

/-- The number of digits that a number has before the point; it is zero or negative for a number
below one tenth. -/
def magnitude (interval : RoundingInterval) : Int :=
  let whole := interval.value / interval.denominator
  if whole ≠ 0 then (decimalLetters whole).length
  else
    let places := (decimalLetters (interval.denominator / interval.value)).length
    let isPower := interval.denominator ≤ interval.value * 10 ^ (places - 1)
    (if isPower then 2 else 1) - Int.ofNat places

/-- The neighbour of a number among the multiples of a power of ten that lies in the interval. Of
two such neighbours it is the nearer one. -/
def roundTo? (interval : RoundingInterval) (exponent : Int) : Option Nat :=
  let unit := 10 ^ exponent.toNat
  let parts := 10 ^ (-exponent).toNat
  let below := interval.value * parts / (interval.denominator * unit)
  let remainder := interval.value * parts % (interval.denominator * unit)
  let candidates := [below, below + 1].filter fun count => interval.covers (count * unit) parts
  match candidates with
  | [lower, upper] =>
    some (if 2 * remainder < interval.denominator * unit then lower
      else if interval.denominator * unit < 2 * remainder then upper
      else if lower % 2 = 0 then lower else upper)
  | other => other.head?

/-- Drops the zeros at the end of a number and counts them into the exponent. -/
def normalize : Nat → Nat → Int → Nat × Int
  | 0, digits, exponent => (digits, exponent)
  | fuel + 1, digits, exponent =>
    if digits ≠ 0 && digits % 10 = 0 then normalize fuel (digits / 10) (exponent + 1)
    else (digits, exponent)

/-- The shortest decimal in the interval, as a whole number and the exponent of a power of ten. -/
def shortest (interval : RoundingInterval) : Nat × Int :=
  let found := (List.range 17).findSome? fun fewer =>
    let exponent := interval.magnitude - Int.ofNat (fewer + 1)
    (interval.roundTo? exponent).map fun digits => (digits, exponent)
  let (digits, exponent) := found.getD (0, 0)
  normalize 20 digits exponent

end RoundingInterval

/-! ### Texts -/

/-- The text of a decimal. A number of at most sixteen digits before the point, or with at most
four zeros behind it, is written with a point, any other one with an exponent. -/
def decimalText (digits : Nat) (exponent : Int) : String :=
  let letters := (decimal digits).toList
  let point := exponent + letters.length
  if 0 ≤ exponent && point ≤ 16 then
    String.ofList (letters ++ List.replicate exponent.toNat '0') ++ ".0"
  else if 0 < point && point ≤ 16 then
    String.ofList (letters.take point.toNat ++ '.' :: letters.drop point.toNat)
  else if -5 < point && point ≤ 0 then
    "0." ++ String.ofList (List.replicate (-point).toNat '0' ++ letters)
  else
    let fraction := letters.drop 1
    let shift := if point ≤ 0 then "-" ++ decimal (1 - point).toNat else decimal (point - 1).toNat
    String.ofList (letters.take 1) ++
      (if fraction.isEmpty then "" else "." ++ String.ofList fraction) ++ "e" ++ shift

/-- The text of a finite number. -/
def floatText (number : Float) : String :=
  let bits := number.toBits.toNat
  let magnitude := bits % 2 ^ 63
  (if 2 ^ 63 ≤ bits then "-" else "") ++
    if magnitude = 0 then "0.0"
    else
      let (digits, exponent) := (RoundingInterval.ofBits magnitude).shortest
      decimalText digits exponent

end ControlPlane.Text

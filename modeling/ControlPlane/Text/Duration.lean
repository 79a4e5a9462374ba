/-
This file writes durations: in the largest unit of which there is at least one,
with as many decimals as needed.
-/

import ControlPlane.Text.Number

namespace ControlPlane.Text

/-- The letters of a number without the zeros at its end. -/
def dropEndZeros (letters : List Char) : List Char :=
  (letters.reverse.dropWhile (· == '0')).reverse

/-- The decimals of a part out of a power of ten, after a point, or nothing for zero. -/
def decimals (places part : Nat) : List Char :=
  let digits := decimalLetters part
  let padded := List.replicate (places - digits.length) '0' ++ digits
  match dropEndZeros padded with
  | [] => []
  | kept => '.' :: kept

/-- A number of units of ten to the power of `places` nanoseconds. -/
def inUnit (places nanoseconds : Nat) (unit : String) : String :=
  decimal (nanoseconds / 10 ^ places) ++
    String.ofList (decimals places (nanoseconds % 10 ^ places)) ++ unit

/-- The text of a duration in nanoseconds. -/
def duration (nanoseconds : Nat) : String :=
  if 10 ^ 9 ≤ nanoseconds then inUnit 9 nanoseconds "s"
  else if 10 ^ 6 ≤ nanoseconds then inUnit 6 nanoseconds "ms"
  else if 10 ^ 3 ≤ nanoseconds then inUnit 3 nanoseconds "µs"
  else inUnit 0 nanoseconds "ns"

end ControlPlane.Text

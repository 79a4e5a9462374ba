/-
This file reads and writes whole numbers. A written number is the shortest run
of digits. A read number may start with a plus sign and with zeros, must have a
digit, and must lie below the bound of the place it is meant for.
-/

import ControlPlane.Order

namespace ControlPlane.Text

/-- The value of a digit in a radix of at most sixteen. -/
def digitValue? (radix : Nat) (letter : Char) : Option Nat :=
  let value :=
    if '0' ≤ letter ∧ letter ≤ '9' then some (letter.toNat - '0'.toNat)
    else if 'a' ≤ letter ∧ letter ≤ 'f' then some (letter.toNat - 'a'.toNat + 10)
    else if 'A' ≤ letter ∧ letter ≤ 'F' then some (letter.toNat - 'A'.toNat + 10)
    else none
  value.filter fun digit => digit < radix

/-- The value of a run of digits read after a number. -/
def digitsValue? (radix : Nat) (start : Nat) : List Char → Option Nat
  | [] => some start
  | letter :: letters =>
    match digitValue? radix letter with
    | some digit => digitsValue? radix (start * radix + digit) letters
    | none => none

/-- The value of a nonempty run of digits. -/
def unsignedValue? (radix : Nat) (letters : List Char) : Option Nat :=
  if letters.isEmpty then none else digitsValue? radix 0 letters

/-- Reads a decimal number below a bound, with an optional plus sign. -/
def decimalBelow? (bound : Nat) (letters : List Char) : Option Nat :=
  let digits :=
    match letters with
    | '+' :: rest => rest
    | _ => letters
  (unsignedValue? 10 digits).filter fun value => value < bound

/-- The decimal digits of a number. -/
def decimalLetters (number : Nat) : List Char :=
  Nat.toDigits 10 number

/-- The decimal text of a number. -/
def decimal (number : Nat) : String :=
  String.ofList (decimalLetters number)

end ControlPlane.Text

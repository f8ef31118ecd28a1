/-!
Contract: whole numbers written on a command line.

Owns:
- a plain numeral: decimal digits after an optional plus sign, up to a bound;
- a signed numeral, for which a minus sign is read and then only zero is within bounds.

Does not own: which options take which kind of number.
-/

namespace KermitSend.CommandLine

/-- The worth of a run of decimal digits; `none` when it is empty or holds anything else. -/
def digitsValue (digits : List Char) : Option Nat :=
  if digits ≠ [] ∧ digits.all Char.isDigit then
    some (digits.foldl (fun value digit => value * 10 + (digit.toNat - 48)) 0)
  else none

/-- Accept a number up to a bound. -/
def atMost (bound : Nat) (value : Nat) : Option Nat :=
  if value ≤ bound then some value else none

/-- Read a numeral up to `bound`: digits, with a plus sign in front if one likes. -/
def plainNumeral (bound : Nat) (text : String) : Option Nat :=
  match text.toList with
  | '+' :: digits => (digitsValue digits).bind (atMost bound)
  | digits => (digitsValue digits).bind (atMost bound)

/-- Read a numeral that may carry either sign; below zero nothing is within bounds. -/
def signedNumeral (bound : Nat) (text : String) : Option Nat :=
  match text.toList with
  | '-' :: digits => (digitsValue digits).bind (atMost 0)
  | _ => plainNumeral bound text

end KermitSend.CommandLine

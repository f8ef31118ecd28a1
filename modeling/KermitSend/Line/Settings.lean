/-!
Contract: how a serial line is set up.

Owns:
- data bits, parity and stop bits, with the numbers and words that name them;
- what is wrong with a number or word that names none.

Does not own: the speed of the line, which may be any number.
-/

namespace KermitSend.Line

/-- The data bits of one character on the line. -/
inductive DataBits where
  | five
  | six
  | seven
  | eight
deriving DecidableEq, Repr

/-- The parity bit of one character on the line. -/
inductive Parity where
  | none
  | odd
  | even
deriving DecidableEq, Repr

/-- The stop bits of one character on the line. -/
inductive StopBits where
  | one
  | two
deriving DecidableEq, Repr

/-- What is wrong with a line setting. -/
inductive SettingFault where
  | dataBits (given : Nat)
  | parity (given : String)
  | stopBits (given : Nat)
deriving DecidableEq, Repr

/-- The wording of a fault in a line setting. -/
def SettingFault.message : SettingFault → String
  | .dataBits given => s!"Invalid data bits: {given}. Must be 5, 6, 7, or 8"
  | .parity given => "Invalid parity: " ++ given ++ ". Must be 'none', 'odd', or 'even'"
  | .stopBits given => s!"Invalid stop bits: {given}. Must be 1 or 2"

/-- The data bits that a number names. -/
def DataBits.ofNumber : Nat → Except SettingFault DataBits
  | 5 => .ok .five
  | 6 => .ok .six
  | 7 => .ok .seven
  | 8 => .ok .eight
  | given => .error (.dataBits given)

/-- The name of data bits in messages. -/
def DataBits.name : DataBits → String
  | .five => "Five"
  | .six => "Six"
  | .seven => "Seven"
  | .eight => "Eight"

/-- The parity that a word names, in capital or small letters.  Lowering the 26 capitals is
enough: no other character has a small form among the letters of the three words. -/
def Parity.ofWord (given : String) : Except SettingFault Parity :=
  let word := given.map Char.toLower
  if word = "none" then .ok .none
  else if word = "odd" then .ok .odd
  else if word = "even" then .ok .even
  else .error (.parity given)

/-- The name of a parity in messages. -/
def Parity.name : Parity → String
  | .none => "None"
  | .odd => "Odd"
  | .even => "Even"

/-- The stop bits that a number names. -/
def StopBits.ofNumber : Nat → Except SettingFault StopBits
  | 1 => .ok .one
  | 2 => .ok .two
  | given => .error (.stopBits given)

/-- The name of stop bits in messages. -/
def StopBits.name : StopBits → String
  | .one => "One"
  | .two => "Two"

/-- A serial line's settings. -/
structure Settings where
  baud : Nat
  dataBits : DataBits
  parity : Parity
  stopBits : StopBits
deriving DecidableEq, Repr

/-- Settings in one line of text. -/
def Settings.describe (settings : Settings) : String :=
  s!"{settings.baud} baud, {settings.dataBits.name}, "
    ++ s!"{settings.parity.name}, {settings.stopBits.name}"

end KermitSend.Line

/-!
Contract: bytes written in base sixteen.

Owns:
- the two upper-case digits of one byte;
- the digits of a natural number at a fixed width, in lower case.

Does not own: marks such as `0x` around the digits.
-/

namespace KermitSend.Text.Hexadecimal

/-- The digit for a value below sixteen, with letters in upper case. -/
def upperDigit (value : Nat) : Char :=
  Char.ofNat (if value < 10 then 48 + value else 55 + value)

/-- The digit for a value below sixteen, with letters in lower case. -/
def lowerDigit (value : Nat) : Char :=
  Char.ofNat (if value < 10 then 48 + value else 87 + value)

/-- A byte as two upper-case digits. -/
def ofByte (byte : UInt8) : String :=
  String.ofList [upperDigit (byte.toNat / 16), upperDigit (byte.toNat % 16)]

/-- The lowest `width` digits of `value`, in lower case, highest digit first. -/
def ofNat (width value : Nat) : String :=
  String.ofList ((List.range width).reverse.map fun place =>
    lowerDigit (value / Nat.pow 16 place % 16))

end KermitSend.Text.Hexadecimal

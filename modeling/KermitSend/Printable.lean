/-!
Contract: the printable form of a small number.

Owns:
- the byte that stands for a number on the line and the number a byte stands for;
- the law that each undoes the other, for all 256 values.

Does not own: which numbers fit on printable characters (0 to 94 do).
-/

namespace KermitSend.Printable

/-- The byte that stands for `value`: 32 places above it, counted modulo 256. -/
def encode (value : UInt8) : UInt8 :=
  value + 0x20

/-- The number that `byte` stands for. -/
def decode (byte : UInt8) : UInt8 :=
  byte - 0x20

theorem decode_encode (value : UInt8) : decode (encode value) = value := by
  simp [decode, encode]

theorem encode_decode (byte : UInt8) : encode (decode byte) = byte := by
  simp [decode, encode]

end KermitSend.Printable

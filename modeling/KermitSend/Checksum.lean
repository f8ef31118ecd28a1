import KermitSend.Printable

/-!
Contract: the one-byte check that closes a header, a packet or a reply.

Owns:
- the sum of a byte string and how it splits over concatenation;
- the folding of a sum into one printable byte, and the range of that byte.

Does not own: which bytes of a frame a check covers.
-/

namespace KermitSend

/-- The sum of all bytes, as a number. -/
def byteSum : List UInt8 → Nat
  | [] => 0
  | byte :: bytes => byte.toNat + byteSum bytes

@[simp]
theorem byteSum_nil : byteSum [] = 0 :=
  rfl

@[simp]
theorem byteSum_cons (byte : UInt8) (bytes : List UInt8) :
    byteSum (byte :: bytes) = byte.toNat + byteSum bytes :=
  rfl

@[simp]
theorem byteSum_append (left right : List UInt8) :
    byteSum (left ++ right) = byteSum left + byteSum right := by
  induction left with
  | nil => exact (Nat.zero_add _).symm
  | cons byte left inductionHypothesis =>
      rw [List.cons_append, byteSum_cons, byteSum_cons, inductionHypothesis, Nat.add_assoc]

/-- The check for a byte sum: bits 6 and 7 are added onto the low six bits, and the
six bits that remain are made printable. -/
def checksum (sum : Nat) : UInt8 :=
  Printable.encode (UInt8.ofNat ((sum + sum / 64 % 4) % 64))

theorem toNat_checksum (sum : Nat) :
    (checksum sum).toNat = (sum + sum / 64 % 4) % 64 + 0x20 := by
  have offset : (0x20 : UInt8).toNat = 0x20 := rfl
  unfold checksum Printable.encode
  rw [UInt8.toNat_add, UInt8.toNat_ofNat', offset]
  omega

/-- The check is one of 64 printable bytes. -/
theorem checksum_range (sum : Nat) :
    0x20 ≤ checksum sum ∧ checksum sum ≤ 0x5F := by
  have value := toNat_checksum sum
  constructor
  · apply UInt8.le_iff_toNat_le.2
    show 0x20 ≤ (checksum sum).toNat
    omega
  · apply UInt8.le_iff_toNat_le.2
    show (checksum sum).toNat ≤ 0x5F
    omega

end KermitSend

import KermitSend.Proofs.Checksum.Difference

/-!
Contract: the check notices one flipped bit among the bytes it covers.

Owns:
- a byte with one bit flipped, which differs from the byte by a power of two;
- byte strings with one bit flipped, and what that does to their sum;
- the law that the checks of the two sums differ.

Does not own: which bytes of a frame are covered, and damage to several bits.
-/

set_option autoImplicit false

namespace KermitSend

/-! ## One flipped bit -/

def flipBit (byte : UInt8) (bit : Nat) : UInt8 :=
  byte ^^^ (1 <<< UInt8.ofNat bit)

private theorem xor_one_cases (number : Nat) :
    number ^^^ 1 = number + 1 ∨ (number ^^^ 1) + 1 = number := by
  have half : (number ^^^ 1) / 2 = number / 2 := by
    rw [Nat.xor_div_two]
    exact Nat.xor_zero _
  have parity : (number ^^^ 1) % 2 = 1 ↔ ¬ number % 2 = 1 := by
    rw [Nat.xor_mod_two_eq_one]
    simp
  omega

/-- Flipping a bit of a number adds or takes away its value. -/
theorem xor_two_pow_cases (number bit : Nat) :
    number ^^^ 2 ^ bit = number + 2 ^ bit ∨ (number ^^^ 2 ^ bit) + 2 ^ bit = number := by
  have high : (number ^^^ 2 ^ bit) / 2 ^ bit = (number / 2 ^ bit) ^^^ 1 := by
    rw [Nat.xor_div_two_pow, Nat.div_self (Nat.two_pow_pos bit)]
  have low : (number ^^^ 2 ^ bit) % 2 ^ bit = number % 2 ^ bit := by
    rw [Nat.xor_mod_two_pow, Nat.mod_self, Nat.xor_zero]
  have before := Nat.div_add_mod number (2 ^ bit)
  have after := Nat.div_add_mod (number ^^^ 2 ^ bit) (2 ^ bit)
  rw [high, low] at after
  rcases xor_one_cases (number / 2 ^ bit) with up | down
  · left
    rw [up, Nat.mul_succ] at after
    omega
  · right
    rw [← down, Nat.mul_succ] at before
    omega

private theorem toNat_flipBit
    (byte : UInt8)
    {bit : Nat}
    (low : bit < 8) :
    (flipBit byte bit).toNat = byte.toNat ^^^ 2 ^ bit := by
  have mask : ∀ bit < 8, ((1 : UInt8) <<< UInt8.ofNat bit).toNat = 2 ^ bit := by
    decide
  unfold flipBit
  rw [UInt8.toNat_xor, mask bit low]

theorem flipBit_ne
    (byte : UInt8)
    {bit : Nat}
    (low : bit < 8) :
    flipBit byte bit ≠ byte := by
  intro same
  have flipped := toNat_flipBit byte low
  have positive := Nat.two_pow_pos bit
  rw [same] at flipped
  rcases xor_two_pow_cases byte.toNat bit with up | down <;> omega

/-! ## Sums under a flipped bit -/

/-- No sum misses a difference that is a power of two. -/
theorem checksum_add_two_pow_ne
    (sum : Nat)
    {bit : Nat}
    (low : bit < 8) :
    checksum (sum + 2 ^ bit) ≠ checksum sum := by
  intro same
  have small : ∀ bit < 8, 2 ^ bit ≤ 255 := by
    decide
  have member := mem_missed_of_same (Nat.two_pow_pos bit) (small bit low) same
  exact two_pow_notMem_missed bit member

def flipAt (bytes : List UInt8) (position bit : Nat) : List UInt8 :=
  bytes.set position (flipBit (bytes.getD position 0) bit)

@[simp]
theorem length_flipAt (bytes : List UInt8) (position bit : Nat) :
    (flipAt bytes position bit).length = bytes.length := by
  simp [flipAt]

theorem checksum_flipAt_ne
    {bytes : List UInt8}
    {position bit : Nat}
    (inside : position < bytes.length)
    (low : bit < 8) :
    checksum (byteSum (flipAt bytes position bit)) ≠ checksum (byteSum bytes) := by
  have moved := byteSum_set inside (flipBit bytes[position] bit)
  have found : bytes.getD position 0 = bytes[position] := by
    simp [inside]
  rw [toNat_flipBit _ low] at moved
  unfold flipAt
  rw [found]
  rcases xor_two_pow_cases bytes[position].toNat bit with up | down
  · have raised : byteSum (bytes.set position (flipBit bytes[position] bit)) =
        byteSum bytes + 2 ^ bit := by
      omega
    rw [raised]
    exact checksum_add_two_pow_ne _ low
  · have lowered : byteSum bytes =
        byteSum (bytes.set position (flipBit bytes[position] bit)) + 2 ^ bit := by
      omega
    rw [lowered]
    exact (checksum_add_two_pow_ne _ low).symm

end KermitSend

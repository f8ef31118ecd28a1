import KermitSend.Proofs.Checksum.Difference

/-!
Contract: the check is the same however the bytes under it are summed.

A sender sums the payload and the header of a frame apart, a reader sums all covered bytes in one
pass, and a receiver may keep no more than eight bits of either sum.

Owns:
- byte sums, which do not depend on the order of the bytes;
- registers of any width, to which bytes and other registers are added and in which every addition
  wraps;
- the check folded within a register, and the law that in eight bits or more it is the check of the
  bytes;
- the sums for which nothing wraps in a register;
- all that the check of a byte string hangs on, and what it tells of a replaced byte.

Does not own: registers too narrow for a byte, which lose the bits that are folded.
-/

set_option autoImplicit false

namespace KermitSend

/-! ## Bytes in any order -/

theorem byteSum_eq_of_perm
    {left right : List UInt8}
    (permutation : left.Perm right) :
    byteSum left = byteSum right := by
  induction permutation with
  | nil => rfl
  | cons byte _ inductionHypothesis =>
      rw [byteSum_cons, byteSum_cons, inductionHypothesis]
  | swap first second bytes =>
      simp only [byteSum_cons]
      omega
  | trans _ _ firstHalf secondHalf => exact firstHalf.trans secondHalf

/-! ## Registers -/

/-- A register of `width` bits.  What does not fit is dropped. -/
abbrev Register (width : Nat) : Type :=
  BitVec width

namespace Register

section Adding

variable (width : Nat)

def addByte
    {width : Nat}
    (register : Register width)
    (byte : UInt8) :
    Register width :=
  register + BitVec.ofNat width byte.toNat

/-- A register that was clear, after bytes have been added to it one by one. -/
def ofBytes (bytes : List UInt8) : Register width :=
  bytes.foldl addByte (BitVec.ofNat width 0)

/-- Every part is summed in a register of its own, and the registers are added up. -/
def ofParts (parts : List (List UInt8)) : Register width :=
  parts.foldl (fun register part => register + ofBytes width part) (BitVec.ofNat width 0)

variable {width}

private theorem foldl_addByte (bytes : List UInt8) (register : Register width) :
    bytes.foldl addByte register = register + BitVec.ofNat width (byteSum bytes) := by
  induction bytes generalizing register with
  | nil => simp
  | cons byte bytes inductionHypothesis =>
      rw [List.foldl_cons, inductionHypothesis, addByte, byteSum_cons, BitVec.ofNat_add,
        BitVec.add_assoc]

theorem ofBytes_eq (bytes : List UInt8) :
    ofBytes width bytes = BitVec.ofNat width (byteSum bytes) := by
  unfold ofBytes
  rw [foldl_addByte, BitVec.zero_add]

private theorem foldl_addPart (parts : List (List UInt8)) (register : Register width) :
    parts.foldl (fun register part => register + ofBytes width part) register =
      register + BitVec.ofNat width (byteSum parts.flatten) := by
  induction parts generalizing register with
  | nil => simp
  | cons part parts inductionHypothesis =>
      rw [List.foldl_cons, inductionHypothesis, ofBytes_eq, List.flatten_cons, byteSum_append,
        BitVec.ofNat_add, BitVec.add_assoc]

/-- It does not matter where the bytes are split into parts. -/
theorem ofParts_eq (parts : List (List UInt8)) :
    ofParts width parts = BitVec.ofNat width (byteSum parts.flatten) := by
  unfold ofParts
  rw [foldl_addPart, BitVec.zero_add]

end Adding

/-! ## Folding within a register -/

section Folding

variable {width : Nat}

/-- Bits 6 and 7 added onto the register. -/
def fold (register : Register width) : Register width :=
  register + (register >>> 6 &&& BitVec.ofNat width 3)

/-- The check, from a register that is folded and cut to six bits within its own width. -/
def check (register : Register width) : UInt8 :=
  Printable.encode (UInt8.ofNat (fold register &&& BitVec.ofNat width 0x3F).toNat)

private theorem dvd_two_pow_of_wide (wide : 8 ≤ width) : 256 ∣ 2 ^ width :=
  Nat.pow_dvd_pow 2 wide

/-- A register of eight bits or more holds the masks of the fold. -/
theorem mod_two_pow_of_wide
    (wide : 8 ≤ width)
    {mask : Nat}
    (small : mask < 256) :
    mask % 2 ^ width = mask := by
  have room := Nat.le_of_dvd (Nat.two_pow_pos width) (dvd_two_pow_of_wide wide)
  exact Nat.mod_eq_of_lt (Nat.lt_of_lt_of_le small room)

theorem toNat_fold
    (wide : 8 ≤ width)
    (register : Register width) :
    (fold register).toNat = (register.toNat + register.toNat / 64 % 4) % 2 ^ width := by
  have mask : 3 % 2 ^ width = 3 := mod_two_pow_of_wide wide (by decide)
  have carry : register.toNat >>> 6 &&& 3 = register.toNat / 64 % 4 := by
    rw [Nat.shiftRight_eq_div_pow]
    exact Nat.and_two_pow_sub_one_eq_mod (register.toNat / 64) 2
  unfold fold
  rw [BitVec.toNat_add, BitVec.toNat_and, BitVec.toNat_ushiftRight, BitVec.toNat_ofNat, mask,
    carry]

/-- A register folds to the check of the number it holds: what the fold may drop lies above the six
bits that are kept. -/
theorem check_eq
    (wide : 8 ≤ width)
    (register : Register width) :
    check register = checksum register.toNat := by
  have mask : 0x3F % 2 ^ width = 0x3F := mod_two_pow_of_wide wide (by decide)
  have six : 64 ∣ 2 ^ width := Nat.dvd_trans (by decide) (dvd_two_pow_of_wide wide)
  have kept : (fold register &&& BitVec.ofNat width 0x3F).toNat =
      (register.toNat + register.toNat / 64 % 4) % 64 := by
    rw [BitVec.toNat_and, BitVec.toNat_ofNat, mask, toNat_fold wide,
      Nat.and_two_pow_sub_one_eq_mod _ 6]
    exact Nat.mod_mod_of_dvd _ six
  unfold check checksum
  rw [kept]

private theorem checksum_toNat_ofNat
    (wide : 8 ≤ width)
    (sum : Nat) :
    checksum (BitVec.ofNat width sum).toNat = checksum sum := by
  apply checksum_congr
  rw [BitVec.toNat_ofNat]
  exact Nat.mod_mod_of_dvd sum (dvd_two_pow_of_wide wide)

end Folding

/-! ## The check of summed bytes -/

section Summed

variable
  {width : Nat}
  {bytes : List UInt8}

/-- Parts that hold the bytes in any order leave a number with the check of the bytes. -/
theorem checksum_ofParts
    (wide : 8 ≤ width)
    {parts : List (List UInt8)}
    (permutation : parts.flatten.Perm bytes) :
    checksum (ofParts width parts).toNat = checksum (byteSum bytes) := by
  rw [ofParts_eq, byteSum_eq_of_perm permutation]
  exact checksum_toNat_ofNat wide (byteSum bytes)

/-- In seven bits the highest bit of a byte is lost, and with it what it adds to the fold. -/
example : (ofParts 7 [[0x80]]).check ≠ checksum (byteSum [0x80]) := by
  decide

private theorem toNat_ofBytes_of_lt (fits : byteSum bytes < 2 ^ width) :
    (ofBytes width bytes).toNat = byteSum bytes := by
  rw [ofBytes_eq, BitVec.toNat_ofNat]
  exact Nat.mod_eq_of_lt fits

/-- A sum at least four below the register's range can be folded without wrapping. -/
theorem toNat_fold_ofBytes_of_lt
    (wide : 8 ≤ width)
    (fits : byteSum bytes + 3 < 2 ^ width) :
    (fold (ofBytes width bytes)).toNat = byteSum bytes + byteSum bytes / 64 % 4 := by
  have carry : byteSum bytes / 64 % 4 ≤ 3 := by
    omega
  rw [toNat_fold wide, toNat_ofBytes_of_lt (by omega)]
  apply Nat.mod_eq_of_lt
  omega

end Summed

end Register

/-! ## What the check tells -/

/-- The check of a byte string hangs on its sum modulo 256 alone.  So it does not matter in which
order the bytes are summed, into which parts they are split and how wide the registers are, from
eight bits on, whether a register is folded within its width or read as a number first; in 32 bits
neither the sum nor the fold wraps up to four below the range.  The check is printable.  Where it
stays as it was although a byte was replaced, the sum has moved by a difference on the list. -/
theorem checksum_laws (bytes : List UInt8) :
    (∀ other : List UInt8, byteSum other % 256 = byteSum bytes % 256 →
      checksum (byteSum other) = checksum (byteSum bytes)) ∧
    (∀ width, 8 ≤ width → ∀ parts : List (List UInt8), parts.flatten.Perm bytes →
      (Register.ofParts width parts).check = checksum (byteSum bytes) ∧
      checksum (Register.ofParts width parts).toNat = checksum (byteSum bytes)) ∧
    (byteSum bytes ≤ 2 ^ 32 - 4 →
      (Register.ofBytes 32 bytes).toNat = byteSum bytes ∧
      (Register.ofBytes 32 bytes).fold.toNat = byteSum bytes + byteSum bytes / 64 % 4) ∧
    (0x20 ≤ checksum (byteSum bytes) ∧ checksum (byteSum bytes) ≤ 0x5F) ∧
    ∀ (position : Nat) (inside : position < bytes.length) (byte : UInt8),
      byte ≠ bytes[position] →
      ∀ difference : Int,
        (byteSum (bytes.set position byte) : Int) = byteSum bytes + difference →
        (0 < difference.natAbs ∧ difference.natAbs ≤ 255) ∧
        (checksum (byteSum (bytes.set position byte)) = checksum (byteSum bytes) →
          difference.natAbs ∈ missed ∧
          difference % 64 ∈ [1, 2, 3, 61, 62, 63] ∧
          ∀ bit, difference.natAbs ≠ 2 ^ bit) := by
  refine ⟨?_, ?_, ?_, checksum_range _, ?_⟩
  · intro other same
    exact checksum_congr same
  · intro width wide parts permutation
    have number := Register.checksum_ofParts wide permutation
    exact ⟨(Register.check_eq wide _).trans number, number⟩
  · intro fits
    exact ⟨Register.toNat_ofBytes_of_lt (by omega),
      Register.toNat_fold_ofBytes_of_lt (by decide) (by omega)⟩
  · intro position inside byte other difference sum
    obtain ⟨moved, small⟩ := moved_of_replaced inside other sum
    refine ⟨⟨Int.natAbs_pos.2 moved, small⟩, ?_⟩
    intro kept
    have member := natAbs_mem_missed moved small sum kept
    refine ⟨member, residue_of_missed member, ?_⟩
    intro bit power
    rw [power] at member
    exact two_pow_notMem_missed bit member

/-- Two bytes that overflow eight bits, summed there the other way round, and a replacement that
the check misses: it lowers the sum by 129. -/
theorem checksum_laws_overflowing :
    (Register.ofParts 8 [[0x7F], [0x81]]).toNat = 0 ∧
    (Register.ofParts 8 [[0x7F], [0x81]]).check = checksum (byteSum [0x81, 0x7F]) ∧
    (Register.ofBytes 32 [0x81, 0x7F]).toNat = 256 ∧
    checksum (byteSum [0x00, 0x7F]) = checksum (byteSum [0x81, 0x7F]) ∧
    (-129 : Int).natAbs ∈ missed ∧
    (-129 : Int) % 64 ∈ [1, 2, 3, 61, 62, 63] ∧
    ∀ bit, (-129 : Int).natAbs ≠ 2 ^ bit := by
  obtain ⟨-, summed, fits, -, replaced⟩ := checksum_laws [0x81, 0x7F]
  have kept : checksum (byteSum [0x00, 0x7F]) = checksum (byteSum [0x81, 0x7F]) := by
    decide
  obtain ⟨-, tells⟩ := replaced 0 (by decide) 0x00 (by decide) (-129) (by decide)
  exact ⟨by decide, (summed 8 (by decide) [[0x7F], [0x81]] (by decide)).1,
    (fits (by decide)).1, kept, tells kept⟩

end KermitSend

import KermitSend.Proofs.Checksum.BitFlip
import KermitSend.Proofs.Packet.Sealed

/-!
Contract: no flipped bit turns an accepted frame into another one.

Owns:
- where a flipped bit of a sealed frame falls: a mark, a covered byte or the check;
- the law that a sealed frame with one bit flipped is not sealed any more, and so is refused.

Does not own: damage to several bits, which the check may miss.
-/

set_option autoImplicit false

namespace KermitSend.Packet

/-! ## Where a flipped bit falls -/

section Places

variable
  {covered : List UInt8}
  (bit : Nat)

private theorem flipAt_sealed_start :
    flipAt (sealed covered) 0 bit =
      flipBit Wire.start bit :: covered ++ [checksum (byteSum covered), Wire.terminator] :=
  rfl

private theorem flipAt_sealed_covered
    {position : Nat}
    (inside : position < covered.length) :
    flipAt (sealed covered) (position + 1) bit =
      Wire.start :: flipAt covered position bit ++
        [checksum (byteSum covered), Wire.terminator] := by
  simp [flipAt, sealed, List.set_append_left _ _ inside, List.getElem?_append_left inside]

private theorem flipAt_sealed_check :
    flipAt (sealed covered) (covered.length + 1) bit =
      Wire.start :: covered ++
        [flipBit (checksum (byteSum covered)) bit, Wire.terminator] := by
  simp [flipAt, sealed, List.set_append_right]

private theorem flipAt_sealed_terminator :
    flipAt (sealed covered) (covered.length + 2) bit =
      Wire.start :: covered ++
        [checksum (byteSum covered), flipBit Wire.terminator bit] := by
  simp [flipAt, sealed, List.set_append_right]

end Places

/-! ## Damaged frames -/

/-- A list that begins and ends like a frame is sealed only where every part is. -/
theorem parts_of_eq_sealed
    {start check terminator : UInt8}
    {inside covered : List UInt8}
    (sameLength : inside.length = covered.length)
    (equal : start :: inside ++ [check, terminator] = sealed covered) :
    start = Wire.start ∧ inside = covered ∧ check = checksum (byteSum covered) ∧
      terminator = Wire.terminator := by
  rw [sealed, List.cons_append, List.cons_append, List.cons.injEq] at equal
  obtain ⟨start, rest⟩ := equal
  obtain ⟨inside, trailer⟩ := List.append_inj rest sameLength
  simp only [List.cons.injEq, and_true] at trailer
  exact ⟨start, inside, trailer.1, trailer.2⟩

private theorem flipAt_sealed_ne
    {covered damaged : List UInt8}
    {position bit : Nat}
    (inside : position < (sealed covered).length)
    (low : bit < 8) :
    flipAt (sealed covered) position bit ≠ sealed damaged := by
  intro equal
  have sameLength : covered.length = damaged.length := by
    have lengths := congrArg List.length equal
    rw [length_flipAt, length_sealed, length_sealed] at lengths
    omega
  rw [length_sealed] at inside
  rcases position with _ | position
  · rw [flipAt_sealed_start] at equal
    obtain ⟨start, -, -, -⟩ := parts_of_eq_sealed sameLength equal
    exact flipBit_ne Wire.start low start
  · have places : position < covered.length ∨ position = covered.length ∨
        position = covered.length + 1 := by
      omega
    rcases places with isCovered | rfl | rfl
    · -- the check has stayed, and the bytes under it have not
      rw [flipAt_sealed_covered bit isCovered] at equal
      have flippedLength : (flipAt covered position bit).length = damaged.length := by
        rw [length_flipAt, sameLength]
      obtain ⟨-, rfl, check, -⟩ := parts_of_eq_sealed flippedLength equal
      exact checksum_flipAt_ne isCovered low check.symm
    · rw [flipAt_sealed_check] at equal
      obtain ⟨-, rfl, check, -⟩ := parts_of_eq_sealed sameLength equal
      exact flipBit_ne (checksum (byteSum covered)) low check
    · rw [flipAt_sealed_terminator] at equal
      obtain ⟨-, -, -, terminator⟩ := parts_of_eq_sealed sameLength equal
      exact flipBit_ne Wire.terminator low terminator

/-- One flipped bit anywhere in an accepted frame makes the reader refuse it: the damaged frame
may be read in the other form, but no form accepts a frame that is not sealed. -/
theorem refused_of_flipAt
    {frame : List UInt8}
    {packet : DataPacket}
    (accepted : parse frame = .ok packet)
    {position bit : Nat}
    (inside : position < frame.length)
    (low : bit < 8) :
    ∃ error, parse (flipAt frame position bit) = .error error := by
  obtain ⟨covered, rfl, -⟩ := (parse_eq_ok_iff frame packet).1 accepted
  cases read : parse (flipAt (sealed covered) position bit) with
  | error error => exact ⟨error, rfl⟩
  | ok other =>
      obtain ⟨damaged, equal, -⟩ := (parse_eq_ok_iff _ other).1 read
      exact absurd equal (flipAt_sealed_ne inside low)

/-- One bit of LENGTH makes this short frame announce the long form. -/
theorem refused_of_flipAt_length :
    parse [0x01, 0x24, 0x20, 0x44, 0x41, 0x2C, 0x0D] = .ok ⟨0, [0x41], .small⟩ ∧
      ∃ error, parse (flipAt [0x01, 0x24, 0x20, 0x44, 0x41, 0x2C, 0x0D] 1 2) = .error error := by
  have accepted :
      parse [0x01, 0x24, 0x20, 0x44, 0x41, 0x2C, 0x0D] = .ok ⟨0, [0x41], .small⟩ := by
    decide
  exact ⟨accepted, refused_of_flipAt accepted (by decide) (by decide)⟩

end KermitSend.Packet

import Mathlib.Data.List.Basic
import KermitSend.Packet.Parse

/-!
Contract: the layout that every accepted frame has.

Owns:
- sealed frames: bytes between the start and the check over them;
- the parts of a sealed frame as the reader looks them up;
- when each check of the reader passes, and the law that a frame is accepted exactly when it
  is sealed, its length fields fit it and its kind and sequence number are right.

Does not own: how a sender fills the covered bytes.
-/

set_option autoImplicit false

namespace KermitSend.Packet

/-- The frame that starts, closes and checks the covered bytes as every frame does. -/
def sealed (covered : List UInt8) : List UInt8 :=
  Wire.start :: covered ++ [checksum (byteSum covered), Wire.terminator]

/-! ## The parts of a sealed frame -/

section Parts

variable (covered : List UInt8)

@[simp]
theorem length_sealed : (sealed covered).length = covered.length + 3 := by
  simp [sealed]

@[simp]
theorem byteAt_sealed_zero : byteAt (sealed covered) 0 = Wire.start :=
  rfl

private theorem byteAt_sealed_succ
    {position : Nat}
    (inside : position < covered.length) :
    byteAt (sealed covered) (position + 1) = byteAt covered position := by
  simp [byteAt, sealed, List.getElem?_append_left inside]

@[simp]
theorem byteAt_sealed_check :
    byteAt (sealed covered) (covered.length + 1) = checksum (byteSum covered) := by
  simp [byteAt, sealed]

@[simp]
theorem byteAt_sealed_last :
    byteAt (sealed covered) (covered.length + 2) = Wire.terminator := by
  simp [byteAt, sealed]

private theorem slice_sealed (first : Nat) :
    slice (sealed covered) (first + 1) (covered.length + 1) = covered.drop first := by
  simp [slice, sealed]

end Parts

/-- A frame with the start, the check and the terminator where they belong is sealed. -/
theorem eq_sealed
    {frame : List UInt8}
    (long : 3 ≤ frame.length)
    (start : byteAt frame 0 = Wire.start)
    (terminator : byteAt frame (frame.length - 1) = Wire.terminator)
    (check : byteAt frame (frame.length - 2) =
      checksum (byteSum (slice frame 1 (frame.length - 2)))) :
    frame = sealed (slice frame 1 (frame.length - 2)) := by
  rcases frame with _ | ⟨first, rest⟩
  · simp at long
  · have parts := List.take_append_drop (rest.length - 2) rest
    obtain ⟨last, ending, trailer⟩ : ∃ last ending,
        rest.drop (rest.length - 2) = [last, ending] := by
      rw [← List.length_eq_two, List.length_drop]
      rw [List.length_cons] at long
      omega
    rw [trailer] at parts
    -- from here on the frame is its start, what is covered, and two more bytes
    generalize rest.take (rest.length - 2) = covered at parts
    subst parts
    simp [byteAt, slice] at start terminator check
    simp [slice, sealed, start, terminator, check]

/-! ## The checks of the reader -/

theorem bind_eq_ok_iff
    {α β : Type}
    (check : Except Error α)
    (rest : α → Except Error β)
    (result : β) :
    (check >>= rest) = .ok result ↔ ∃ value, check = .ok value ∧ rest value = .ok result := by
  cases check with
  | error error => simp [bind, Except.bind]
  | ok value => simp [bind, Except.bind]

private theorem check_bind_eq_ok_iff
    {β : Type}
    (check : Except Error Unit)
    (rest : Unit → Except Error β)
    (result : β) :
    (check >>= rest) = .ok result ↔ check = .ok () ∧ rest () = .ok result := by
  rw [bind_eq_ok_iff]
  exact Unique.exists_iff

private theorem checkSequence_eq_ok_iff (sequence : UInt8) :
    checkSequence sequence = .ok () ↔ sequence ≤ Wire.lastSequence := by
  unfold checkSequence
  by_cases late : sequence > Wire.lastSequence
  · simp [late]
  · simp [late, UInt8.not_lt.1 late]

theorem verify_eq_ok_iff (covered : List UInt8) (received : UInt8) :
    verify covered received = .ok () ↔ received = checksum (byteSum covered) := by
  simp [verify]

theorem checkShape_eq_ok_iff (frame : List UInt8) :
    checkShape frame = .ok () ↔
      6 ≤ frame.length ∧ byteAt frame 0 = Wire.start ∧
        byteAt frame (frame.length - 1) = Wire.terminator ∧ byteAt frame 3 = Wire.dataKind := by
  have bound : frame.length < smallHeaderLength + trailerLength ↔ ¬ 6 ≤ frame.length := by
    rw [smallHeaderLength, trailerLength]
    omega
  simp only [checkShape, bound]
  by_cases long : 6 ≤ frame.length <;>
    by_cases start : byteAt frame 0 = Wire.start <;>
      by_cases terminator : byteAt frame (frame.length - 1) = Wire.terminator <;>
        by_cases kind : byteAt frame 3 = Wire.dataKind <;>
          simp [long, start, terminator, kind]

/-- The short form is read where the length field is not zero and counts the frame. -/
theorem checkLength_eq_small_iff (frame : List UInt8) :
    checkLength frame = .ok .small ↔
      (Printable.decode (byteAt frame 1)).toNat ≠ 0 ∧
        frame.length = (Printable.decode (byteAt frame 1)).toNat + 3 := by
  simp only [checkLength]
  by_cases long : (Printable.decode (byteAt frame 1)).toNat = 0
  · simp only [long, if_true, ne_eq, not_true, false_and, iff_false]
    intro read
    split at read
    · simp at read
    · obtain ⟨_, counted⟩ := (check_bind_eq_ok_iff _ _ _).1 read
      split at counted <;> simp [pure, Except.pure] at counted
  · by_cases fits : frame.length = (Printable.decode (byteAt frame 1)).toNat + 3 <;>
      simp [long, fits]

/-- The long form is read where the length field is zero, the header is checked and its digits
count the frame. -/
theorem checkLength_eq_large_iff (frame : List UInt8) :
    checkLength frame = .ok .large ↔
      (Printable.decode (byteAt frame 1)).toNat = 0 ∧ 9 ≤ frame.length ∧
        byteAt frame 6 = checksum (byteSum (slice frame 1 6)) ∧
          frame.length = extendedLength frame + 8 := by
  simp only [checkLength]
  by_cases long : (Printable.decode (byteAt frame 1)).toNat = 0
  · have bound : frame.length < largeHeaderLength + trailerLength ↔ ¬ 9 ≤ frame.length := by
      rw [largeHeaderLength, trailerLength]
      omega
    have count : largeHeaderLength + extendedLength frame + 1 = extendedLength frame + 8 := by
      rw [largeHeaderLength]
      omega
    simp only [long, if_true, true_and, bound, count]
    by_cases room : 9 ≤ frame.length
    · rw [if_neg (not_not_intro room), check_bind_eq_ok_iff, verify_eq_ok_iff]
      simp only [room, true_and]
      by_cases fits : frame.length = extendedLength frame + 8 <;>
        simp [fits, pure, Except.pure]
    · simp [room]
  · simp only [long, if_false, false_and, iff_false]
    split <;> simp

theorem parse_eq_ok_iff_checks (frame : List UInt8) (packet : DataPacket) :
    parse frame = .ok packet ↔
      checkShape frame = .ok () ∧ checkLength frame = .ok packet.mode ∧
        verify (slice frame 1 (frame.length - 2)) (byteAt frame (frame.length - 2)) = .ok () ∧
          checkSequence packet.sequence = .ok () ∧
            packet.sequence = Printable.decode (byteAt frame 2) ∧
              packet.payload =
                slice frame packet.mode.headerLength (frame.length - 2) := by
  obtain ⟨sequence, payload, mode⟩ := packet
  rw [parse, check_bind_eq_ok_iff, bind_eq_ok_iff]
  simp only [check_bind_eq_ok_iff, pure, Except.pure, Except.ok.injEq, DataPacket.mk.injEq]
  constructor
  · rintro ⟨shape, _, length, check, inRange, rfl, rfl, rfl⟩
    exact ⟨shape, length, check, inRange, rfl, rfl⟩
  · rintro ⟨shape, length, check, inRange, rfl, rfl⟩
    exact ⟨shape, mode, length, check, inRange, rfl, rfl, rfl⟩

/-! ## Accepted frames -/

/-- The packet that a frame around the covered bytes is read as. -/
structure Carries (covered : List UInt8) (packet : DataPacket) : Prop where
  long : 3 ≤ covered.length
  length : checkLength (sealed covered) = .ok packet.mode
  sequence : packet.sequence = Printable.decode (byteAt covered 1)
  inRange : packet.sequence ≤ Wire.lastSequence
  kind : byteAt covered 2 = Wire.dataKind
  payload : packet.payload = covered.drop (packet.mode.headerLength - 1)

private theorem slice_sealed_payload (covered : List UInt8) (mode : Mode) :
    slice (sealed covered) mode.headerLength (covered.length + 1) =
      covered.drop (mode.headerLength - 1) := by
  cases mode with
  | small => exact slice_sealed covered 3
  | large => exact slice_sealed covered 6

/-- A sealed frame is accepted exactly as the packet that it carries. -/
theorem parse_sealed_eq_ok_iff (covered : List UInt8) (packet : DataPacket) :
    parse (sealed covered) = .ok packet ↔ Carries covered packet := by
  have checkPosition : (sealed covered).length - 2 = covered.length + 1 := by
    rw [length_sealed]
    omega
  have lastPosition : (sealed covered).length - 1 = covered.length + 2 := by
    rw [length_sealed]
    omega
  rw [parse_eq_ok_iff_checks, checkShape_eq_ok_iff, verify_eq_ok_iff, checkSequence_eq_ok_iff,
    checkPosition, lastPosition, slice_sealed_payload]
  constructor
  · rintro ⟨⟨room, -, -, kind⟩, length, -, inRange, sequence, payload⟩
    have long : 3 ≤ covered.length := by
      rw [length_sealed] at room
      omega
    rw [byteAt_sealed_succ covered (by omega)] at kind sequence
    exact ⟨long, length, sequence, inRange, kind, payload⟩
  · rintro ⟨long, length, sequence, inRange, kind, payload⟩
    refine ⟨⟨?_, byteAt_sealed_zero covered, byteAt_sealed_last covered, ?_⟩, length, ?_,
      inRange, ?_, payload⟩
    · rw [length_sealed]
      omega
    · rw [byteAt_sealed_succ covered (by omega), kind]
    · rw [byteAt_sealed_check, slice_sealed, List.drop_zero]
    · rw [byteAt_sealed_succ covered (by omega), sequence]

/-- Accepted frames are sealed. -/
theorem parse_eq_ok_iff (frame : List UInt8) (packet : DataPacket) :
    parse frame = .ok packet ↔ ∃ covered, frame = sealed covered ∧ Carries covered packet := by
  constructor
  · intro accepted
    have checks := (parse_eq_ok_iff_checks frame packet).1 accepted
    rw [checkShape_eq_ok_iff, verify_eq_ok_iff] at checks
    obtain ⟨⟨room, start, terminator, -⟩, -, check, -⟩ := checks
    have split := eq_sealed (by omega) start terminator check
    rw [split, parse_sealed_eq_ok_iff] at accepted
    exact ⟨_, split, accepted⟩
  · rintro ⟨covered, rfl, carries⟩
    exact (parse_sealed_eq_ok_iff covered packet).2 carries

end KermitSend.Packet

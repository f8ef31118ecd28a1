import KermitSend.Packet.Parse

/-!
Contract: a byte stream cut into frames by the lengths that the frames announce.

Owns:
- the length that the front of a stream announces: one byte for the end of a transfer, the
  length field of a short or a long frame otherwise;
- cutting a stream into whole frames and an unfinished rest.

Does not own: whether a frame that was cut off is sound.
-/

namespace KermitSend.Packet

/-- The length of the frame at the front of a stream, once enough of it is there to tell. -/
def announcedLength (stream : List UInt8) : Option Nat :=
  match stream with
  | [] => none
  | mark :: fields =>
      if mark = Wire.endOfTransfer then some 1
      else
        match fields with
        | [] => none
        | length :: _ =>
            let counted := (Printable.decode length).toNat
            if counted ≠ 0 then some (counted + 3)
            else if stream.length < largeHeaderLength then none
            else some (largeHeaderLength + extendedLength stream + 1)

/-- An announced length is never zero. -/
theorem announcedLength_pos
    {stream : List UInt8}
    {length : Nat}
    (announced : announcedLength stream = some length) :
    0 < length := by
  rcases stream with _ | ⟨mark, _ | ⟨field, fields⟩⟩
  · simp [announcedLength] at announced
  · simp only [announcedLength] at announced
    split at announced
    · simp only [Option.some.injEq] at announced
      omega
    · simp at announced
  · simp only [announcedLength] at announced
    split at announced
    · simp only [Option.some.injEq] at announced
      omega
    · split at announced
      · simp only [Option.some.injEq] at announced
        omega
      · split at announced
        · simp at announced
        · simp only [Option.some.injEq] at announced
          omega

set_option linter.unusedVariables false in
/-- Cut whole frames off the front of a stream; the second part is what is left. -/
def cutFrames (stream : List UInt8) : List (List UInt8) × List UInt8 :=
  match announced : announcedLength stream with
  | none => ([], stream)
  | some length =>
      if fits : length ≤ stream.length then
        let rest := cutFrames (stream.drop length)
        (stream.take length :: rest.1, rest.2)
      else ([], stream)
termination_by stream.length
decreasing_by
  have positive := announcedLength_pos announced
  rw [List.length_drop]
  omega

end KermitSend.Packet

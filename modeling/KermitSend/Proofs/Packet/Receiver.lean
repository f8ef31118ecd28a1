import KermitSend.Packet.Stream
import KermitSend.Proofs.Packet.RoundTrip

/-!
Contract: a receiver that makes file bytes of a byte stream.

Owns:
- reassembling: every frame is read, a frame with the sequence number of the frame just before
  it is dropped, and the bytes of the others are joined;
- copies of one frame, which are reassembled like one;
- the law that accepted frames announce their own length, so that a stream of them is cut where
  they end.

Does not own: which frames a sender writes.
-/

set_option autoImplicit false

namespace KermitSend.Packet

/-! ## Reassembling -/

/-- Join the bytes of frames, where `previous` is the sequence number of the frame before them. -/
def reassembleAfter (previous : Option UInt8) : List (List UInt8) → Except Error (List UInt8)
  | [] => .ok []
  | frame :: later => do
      let packet ← parse frame
      let rest ← reassembleAfter (some packet.sequence) later
      if previous = some packet.sequence then return rest
      else do
        let chunk ← packet.data
        return chunk ++ rest

def reassemble (frames : List (List UInt8)) : Except Error (List UInt8) :=
  reassembleAfter none frames

private theorem accepted_of_reassembleAfter
    {previous : Option UInt8}
    {frames : List (List UInt8)}
    {bytes : List UInt8}
    (reassembled : reassembleAfter previous frames = .ok bytes) :
    ∀ frame ∈ frames, ∃ packet, parse frame = .ok packet := by
  induction frames generalizing previous bytes with
  | nil => simp
  | cons frame later inductionHypothesis =>
      obtain ⟨packet, read, joined⟩ := (bind_eq_ok_iff _ _ _).1 reassembled
      obtain ⟨rest, continued, -⟩ := (bind_eq_ok_iff _ _ _).1 joined
      intro other member
      rcases List.mem_cons.1 member with rfl | member
      · exact ⟨packet, read⟩
      · exact inductionHypothesis continued other member

section Copies

variable
  {mode : Mode}
  {chunk frame : List UInt8}
  {sequence : UInt8}
  {later : List (List UInt8)}
  {bytes : List UInt8}

/-- A frame with another sequence number than the one before it adds its chunk. -/
theorem reassembleAfter_new
    {previous : Option UInt8}
    (new : previous ≠ some sequence)
    (encoded : encode mode chunk sequence = .ok frame)
    (rest : reassembleAfter (some sequence) later = .ok bytes) :
    reassembleAfter previous (frame :: later) = .ok (chunk ++ bytes) := by
  rw [reassembleAfter, parse_of_encode encoded]
  have sequenceOf : (packetOf (formOf mode chunk) chunk sequence).sequence = sequence := rfl
  simp only [bind, Except.bind, sequenceOf, rest, if_neg new, data_packetOf]
  rfl

/-- A frame with the sequence number of the one before it is dropped. -/
theorem reassembleAfter_repeated
    (encoded : encode mode chunk sequence = .ok frame)
    (rest : reassembleAfter (some sequence) later = .ok bytes) :
    reassembleAfter (some sequence) (frame :: later) = .ok bytes := by
  rw [reassembleAfter, parse_of_encode encoded]
  have sequenceOf : (packetOf (formOf mode chunk) chunk sequence).sequence = sequence := rfl
  simp only [bind, Except.bind, sequenceOf, rest, if_true]
  rfl

private theorem reassembleAfter_copies
    (encoded : encode mode chunk sequence = .ok frame)
    (rest : reassembleAfter (some sequence) later = .ok bytes)
    (copies : Nat) :
    reassembleAfter (some sequence) (List.replicate copies frame ++ later) = .ok bytes := by
  induction copies with
  | zero => exact rest
  | succ copies inductionHypothesis =>
      rw [List.replicate_succ, List.cons_append]
      exact reassembleAfter_repeated encoded inductionHypothesis

/-- However many copies there are of a frame, they add its chunk once. -/
theorem reassembleAfter_replicate
    {previous : Option UInt8}
    (new : previous ≠ some sequence)
    (encoded : encode mode chunk sequence = .ok frame)
    (rest : reassembleAfter (some sequence) later = .ok bytes)
    {copies : Nat}
    (positive : 1 ≤ copies) :
    reassembleAfter previous (List.replicate copies frame ++ later) = .ok (chunk ++ bytes) := by
  obtain ⟨others, rfl⟩ := Nat.exists_eq_add_of_le' positive
  rw [List.replicate_succ, List.cons_append]
  exact reassembleAfter_new new encoded (reassembleAfter_copies encoded rest others)

end Copies

/-! ## Cutting -/

private theorem byteAt_append
    {frame : List UInt8}
    {position : Nat}
    (inside : position < frame.length)
    (later : List UInt8) :
    byteAt (frame ++ later) position = byteAt frame position := by
  simp [byteAt, List.getElem?_append_left inside]

private theorem announcedLength_of_start
    {stream : List UInt8}
    (long : 2 ≤ stream.length)
    (start : byteAt stream 0 = Wire.start) :
    announcedLength stream =
      if (Printable.decode (byteAt stream 1)).toNat ≠ 0 then
        some ((Printable.decode (byteAt stream 1)).toNat + 3)
      else if stream.length < largeHeaderLength then none
      else some (largeHeaderLength + extendedLength stream + 1) := by
  rcases stream with _ | ⟨mark, _ | ⟨field, fields⟩⟩
  · simp at long
  · simp at long
  · have notEnd : mark ≠ Wire.endOfTransfer := by
      intro ends
      have marks : Wire.endOfTransfer = Wire.start := ends ▸ start
      exact absurd marks (by decide)
    have fieldAt : byteAt (mark :: field :: fields) 1 = field := rfl
    rw [fieldAt]
    simp only [announcedLength, if_neg notEnd]

/-- An accepted frame announces its own length, whatever follows it. -/
theorem announcedLength_of_parse
    {frame : List UInt8}
    {packet : DataPacket}
    (accepted : parse frame = .ok packet)
    (later : List UInt8) :
    announcedLength (frame ++ later) = some frame.length := by
  have checks := (parse_eq_ok_iff_checks frame packet).1 accepted
  rw [checkShape_eq_ok_iff] at checks
  obtain ⟨⟨room, start, -, -⟩, length, -⟩ := checks
  -- every field that the announcement reads is among the first six bytes
  have stays : ∀ position < 6, byteAt (frame ++ later) position = byteAt frame position := by
    intro position early
    exact byteAt_append (by omega) later
  have longer : frame.length ≤ (frame ++ later).length := by
    rw [List.length_append]
    omega
  have extended : extendedLength (frame ++ later) = extendedLength frame := by
    rw [extendedLength, extendedLength, stays 4 (by decide), stays 5 (by decide)]
  have startStays : byteAt (frame ++ later) 0 = Wire.start := by
    rw [stays 0 (by decide), start]
  rw [announcedLength_of_start (by omega) startStays, stays 1 (by decide), extended]
  cases form : packet.mode with
  | small =>
      rw [form, checkLength_eq_small_iff] at length
      rw [if_pos length.1, ← length.2]
  | large =>
      rw [form, checkLength_eq_large_iff] at length
      obtain ⟨zero, long, -, counted⟩ := length
      rw [if_neg (not_not_intro zero), if_neg, largeHeaderLength]
      · rw [counted, Option.some.injEq]
        omega
      · rw [largeHeaderLength]
        omega

theorem cutFrames_append
    {frame later : List UInt8}
    (announced : announcedLength (frame ++ later) = some frame.length) :
    cutFrames (frame ++ later) = (frame :: (cutFrames later).1, (cutFrames later).2) := by
  rw [cutFrames]
  split
  case h_1 none => rw [announced] at none; contradiction
  case h_2 length found =>
    rw [announced, Option.some.injEq] at found
    subst found
    simp

/-- A stream of accepted frames is cut where they end. -/
theorem cutFrames_flatten_append
    {frames : List (List UInt8)}
    (accepted : ∀ frame ∈ frames, ∃ packet, parse frame = .ok packet)
    (later : List UInt8) :
    cutFrames (frames.flatten ++ later) =
      (frames ++ (cutFrames later).1, (cutFrames later).2) := by
  induction frames with
  | nil => rfl
  | cons frame frames inductionHypothesis =>
      obtain ⟨packet, read⟩ := accepted frame List.mem_cons_self
      have others := inductionHypothesis fun other member =>
        accepted other (List.mem_cons_of_mem frame member)
      rw [List.flatten_cons, List.append_assoc,
        cutFrames_append (announcedLength_of_parse read _), others, List.cons_append]

private theorem cutFrames_nil : cutFrames [] = ([], []) := by
  rw [cutFrames]
  rfl

theorem cutFrames_endOfTransfer :
    cutFrames [Wire.endOfTransfer] = ([[Wire.endOfTransfer]], []) := by
  have announced : announcedLength ([Wire.endOfTransfer] ++ []) =
      some [Wire.endOfTransfer].length := rfl
  have cut := cutFrames_append announced
  rwa [cutFrames_nil] at cut

/-- A byte stream decodes to the given bytes: it is cut into accepted frames and a tail, and
the frames are reassembled to those bytes. -/
structure Decodes
    (stream : List UInt8)
    (frames tail : List (List UInt8))
    (bytes : List UInt8) : Prop where
  whole : stream = frames.flatten ++ tail.flatten
  cut : cutFrames stream = (frames ++ tail, [])
  accepted : ∀ frame ∈ frames, ∃ packet, parse frame = .ok packet
  joined : reassemble frames = .ok bytes

/-- Frames that can be reassembled are all there is to their stream, but for the end of the
transfer where it is there. -/
theorem Decodes.of_reassemble
    {frames tail : List (List UInt8)}
    {bytes : List UInt8}
    (joined : reassemble frames = .ok bytes)
    (ends : tail = [] ∨ tail = [[Wire.endOfTransfer]]) :
    Decodes (frames ++ tail).flatten frames tail bytes := by
  have accepted := accepted_of_reassembleAfter joined
  have cut : cutFrames tail.flatten = (tail, []) := by
    rcases ends with rfl | rfl
    · exact cutFrames_nil
    · exact cutFrames_endOfTransfer
  exact
    { whole := List.flatten_append
      cut := by
        rw [List.flatten_append, cutFrames_flatten_append accepted, cut]
      accepted := accepted
      joined := joined }

theorem Decodes.of_reassemble_all
    {frames : List (List UInt8)}
    {bytes : List UInt8}
    (joined : reassemble frames = .ok bytes) :
    Decodes frames.flatten frames [] bytes := by
  have decodes := Decodes.of_reassemble joined (.inl rfl)
  rwa [List.append_nil] at decodes

end KermitSend.Packet

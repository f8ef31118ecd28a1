import KermitSend.Proofs.Packet.Receiver

/-!
Contract: accepted frames tell where they end.

Owns:
- no accepted frame is the front of a longer one, and none begins like the end of a transfer;
- a stream of accepted frames, of either form and with any digits, is cut in one way only;
- the law that a receiver which goes by the length fields recovers the frames and the end.

Does not own: what the frames carry.
-/

set_option autoImplicit false

namespace KermitSend.Packet

/-- A byte string that is read as one complete frame. -/
def Accepted (frame : List UInt8) : Prop :=
  ∃ packet, parse frame = .ok packet

section Accepted

variable
  {frame : List UInt8}

private theorem Accepted.announcedLength_append
    (accepted : Accepted frame)
    (later : List UInt8) :
    announcedLength (frame ++ later) = some frame.length := by
  obtain ⟨packet, read⟩ := accepted
  exact announcedLength_of_parse read later

/-- A frame and a longer one that begins with it would announce the same length. -/
theorem Accepted.eq_nil_of_append
    {later : List UInt8}
    (accepted : Accepted frame)
    (longer : Accepted (frame ++ later)) :
    later = [] := by
  have short := accepted.announcedLength_append later
  have long := longer.announcedLength_append []
  rw [List.append_nil, short, Option.some.injEq, List.length_append] at long
  apply List.length_eq_zero_iff.1
  omega

private theorem Accepted.head?_ne_endOfTransfer
    (accepted : Accepted frame) :
    frame.head? ≠ some Wire.endOfTransfer := by
  obtain ⟨packet, read⟩ := accepted
  obtain ⟨covered, rfl, -⟩ := (parse_eq_ok_iff frame packet).1 read
  show some Wire.start ≠ some Wire.endOfTransfer
  decide

end Accepted

section Streams

variable
  {frames others : List (List UInt8)}

/-- A receiver that goes by the length fields cuts off every frame, and then the end. -/
theorem cutFrames_transfer
    (accepted : ∀ frame ∈ frames, Accepted frame) :
    cutFrames (frames.flatten ++ [Wire.endOfTransfer]) =
      (frames ++ [[Wire.endOfTransfer]], []) := by
  rw [cutFrames_flatten_append accepted, cutFrames_endOfTransfer]

/-- Two transfers with the same stream have the same frames. -/
theorem eq_of_flatten_eq
    (accepted : ∀ frame ∈ frames, Accepted frame)
    (othersAccepted : ∀ frame ∈ others, Accepted frame)
    (same : frames.flatten ++ [Wire.endOfTransfer] = others.flatten ++ [Wire.endOfTransfer]) :
    frames = others := by
  have cut := cutFrames_transfer accepted
  rw [same, cutFrames_transfer othersAccepted, Prod.mk.injEq] at cut
  exact (List.append_cancel_right cut.1).symm

/-- Accepted frames are prefix-free and distinct from the end of a transfer, so that a stream of
them is cut in one way only, which is where their length fields say. -/
theorem self_delimiting
    (accepted : ∀ frame ∈ frames, Accepted frame)
    (othersAccepted : ∀ frame ∈ others, Accepted frame) :
    (∀ frame later, Accepted frame → Accepted (frame ++ later) → later = []) ∧
    (∀ frame, Accepted frame → frame.head? ≠ some Wire.endOfTransfer) ∧
    (frames.flatten ++ [Wire.endOfTransfer] = others.flatten ++ [Wire.endOfTransfer] →
      frames = others) ∧
    cutFrames (frames.flatten ++ [Wire.endOfTransfer]) =
      (frames ++ [[Wire.endOfTransfer]], []) := by
  refine ⟨?prefixFree, ?apart, ?unique, cutFrames_transfer accepted⟩
  case prefixFree =>
    intro frame later short longer
    exact short.eq_nil_of_append longer
  case apart =>
    intro frame whole
    exact whole.head?_ne_endOfTransfer
  case unique =>
    intro same
    exact eq_of_flatten_eq accepted othersAccepted same

end Streams

/-- A long frame around 95 bytes whose low digit is 96: no sender counts like this. -/
def carriedDigit : List UInt8 :=
  sealed ([0x20, 0x21, 0x44, 0x20, 0x80, 0x45] ++ List.replicate 95 0x41)

theorem self_delimiting_carriedDigit :
    (∀ frame ∈ [smallFrame [0x41] 0, carriedDigit], Accepted frame) ∧
    (∀ frame ∈ [carriedDigit], Accepted frame) ∧
    (([smallFrame [0x41] 0, carriedDigit].flatten ++ [Wire.endOfTransfer] =
        [carriedDigit].flatten ++ [Wire.endOfTransfer]) →
      [smallFrame [0x41] 0, carriedDigit] = [carriedDigit]) ∧
    cutFrames ([smallFrame [0x41] 0, carriedDigit].flatten ++ [Wire.endOfTransfer]) =
      ([smallFrame [0x41] 0, carriedDigit] ++ [[Wire.endOfTransfer]], []) := by
  have short : Accepted (smallFrame [0x41] 0) := ⟨⟨0, [0x41], .small⟩, by decide⟩
  have long : Accepted carriedDigit := ⟨⟨1, List.replicate 95 0x41, .large⟩, by decide +kernel⟩
  have both : ∀ frame ∈ [smallFrame [0x41] 0, carriedDigit], Accepted frame := by
    simp [short, long]
  have one : ∀ frame ∈ [carriedDigit], Accepted frame := by
    simp [long]
  obtain ⟨-, -, unique, cut⟩ := self_delimiting both one
  exact ⟨both, one, unique, cut⟩

end KermitSend.Packet

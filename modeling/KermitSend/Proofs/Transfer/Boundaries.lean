import KermitSend.Proofs.Packet.Transparency
import KermitSend.Proofs.Transfer.Accounting
import KermitSend.Proofs.Transfer.WireImage

/-!
Contract: the boundaries that a receiver finds in the stream of a transfer by its marks alone.

Owns:
- what a transfer puts on the line after its frames;
- the law that it writes frames around chunks and nothing else before that;
- the law that splitting its stream after each terminator gives back these frames, and that the
  end of the transfer is told by the last byte of a completed one and by no other byte.

Does not own: what the frames decode to.
-/

set_option autoImplicit false

namespace KermitSend

variable {φ π : Type}

/-- What is written after all frames: the end of the transfer, if it completes. -/
def Ending.farewell : Ending → List (List UInt8)
  | .completed _ => [[Wire.endOfTransfer]]
  | .failed _ => []

/-! ## What is written -/

section Frames

variable
  {settings : Settings}

/-- A frame that is written is the frame of some chunk. -/
def Framing (settings : Settings) (frame : List UInt8) : Prop :=
  ∃ chunk sequence, Packet.encode settings.mode chunk sequence = .ok frame

theorem Framing.delimited
    {frame : List UInt8}
    (framing : Framing settings frame) :
    Packet.Delimited frame := by
  obtain ⟨chunk, sequence, encoded⟩ := framing
  have built : Packet.Built chunk sequence frame := .inr (.inr ⟨settings.mode, encoded⟩)
  exact built.transparent.delimited

private theorem Delivery.Framed.framing
    {total index : Nat}
    {delivery : Delivery}
    (framed : delivery.Framed settings total index) :
    Framing settings delivery.frame :=
  ⟨delivery.chunk, sequenceAt index, framed.encoded⟩

theorem Books.framing_copies
    {session : Session}
    {settled : List Delivery}
    (books : Books settings session settled) :
    ∀ frame ∈ settled.flatMap Delivery.copies, Framing settings frame := by
  intro frame member
  obtain ⟨delivery, among, copy⟩ := List.mem_flatMap.1 member
  obtain ⟨index, found⟩ := List.getElem?_of_mem among
  have entry := books.entries index delivery found
  rw [List.eq_of_mem_replicate copy]
  exact entry.framed.framing

private theorem BreaksOff.framing_written
    {total index : Nat}
    {tail : List Exchange}
    {error : TransferError}
    (breaks : BreaksOff settings total index tail error) :
    ∀ frame ∈ written tail, Framing settings frame := by
  intro frame member
  rcases breaks.written_eq with nothing | ⟨delivery, framed, copies, repeated⟩
  · rw [nothing] at member
    cases member
  · rw [repeated] at member
    rw [List.eq_of_mem_replicate member]
    exact framed.framing

end Frames

section Send

variable
  (settings : Settings)
  (file : FileSource φ)
  (port : SerialPort π)
  (devices : Devices φ π)

/-- A transfer writes frames, and then the end of the transfer if it completes. -/
theorem written_send :
    ∃ frames,
      written (send settings file port devices).exchanges =
        frames ++ (send settings file port devices).ending.farewell ∧
      ∀ frame ∈ frames, Framing settings frame := by
  cases ending : (send settings file port devices).ending with
  | completed report =>
      obtain ⟨session, settled, -, closed⟩ := closed_of_completed ending
      exact ⟨_, closed.written_eq, closed.books.framing_copies⟩
  | failed error =>
      cases counted : error.bytesSent? with
      | none =>
          have nothing := written_of_uncounted ending counted
          refine ⟨[], nothing, ?_⟩
          simp
      | some count =>
          obtain ⟨session, settled, tail, -, -, -, books, split, breaks⟩ :=
            breaksOff_of_counted ending counted
          refine ⟨settled.flatMap Delivery.copies ++ written tail, ?_, ?_⟩
          · rw [split, written_append, written_settledExchanges]
            exact (List.append_nil _).symm
          · intro frame member
            rcases List.mem_append.1 member with before | last
            · exact books.framing_copies frame before
            · exact breaks.framing_written frame last

end Send

/-! ## What a receiver sees -/

/-- The marks of a stream tell its frames apart: they are all that was written but for the end of
the transfer, which is told by one last byte where the transfer completed. -/
structure Separates
    (settings : Settings)
    (exchanges : List Exchange)
    (ending : Ending)
    (frames : List (List UInt8)) : Prop where
  written : written exchanges = frames ++ ending.farewell
  framing : ∀ frame ∈ frames, Framing settings frame
  split : Packet.splitAfter Wire.terminator (stream exchanges) =
    (frames, ending.farewell.flatten)
  ended : ∀ position, (stream exchanges)[position]? = some Wire.endOfTransfer ↔
    (∃ report, ending = .completed report) ∧ position + 1 = (stream exchanges).length

private theorem endOfTransfer_notMem_flatten
    {settings : Settings}
    {frames : List (List UInt8)}
    (framing : ∀ frame ∈ frames, Framing settings frame) :
    Wire.endOfTransfer ∉ frames.flatten := by
  intro member
  obtain ⟨frame, among, inside⟩ := List.mem_flatten.1 member
  exact (framing frame among).delimited.endOfTransfer_notMem inside

private theorem getElem?_append_singleton_eq_iff
    {front : List UInt8}
    {mark : UInt8}
    (unmarked : mark ∉ front)
    (position : Nat) :
    (front ++ [mark])[position]? = some mark ↔ position + 1 = (front ++ [mark]).length := by
  rw [List.length_append, List.length_singleton, Nat.add_right_cancel_iff]
  constructor
  · intro found
    by_cases inside : position < front.length
    · rw [List.getElem?_append_left inside] at found
      exact absurd (List.mem_of_getElem? found) unmarked
    · have within := (List.getElem?_eq_some_iff.1 found).1
      rw [List.length_append, List.length_singleton] at within
      omega
  · rintro rfl
    exact getElem?_length_append_cons front mark []

private theorem separates_of_written
    {settings : Settings}
    {exchanges : List Exchange}
    {ending : Ending}
    {frames : List (List UInt8)}
    (all : written exchanges = frames ++ ending.farewell)
    (framing : ∀ frame ∈ frames, Framing settings frame) :
    Separates settings exchanges ending frames := by
  have whole : stream exchanges = frames.flatten ++ ending.farewell.flatten := by
    unfold stream
    rw [all, List.flatten_append]
  have unmarked := endOfTransfer_notMem_flatten framing
  refine ⟨all, framing, ?split, ?ended⟩
  case split =>
    rw [whole]
    apply Packet.splitAfter_flatten_append
    · intro frame member
      exact (framing frame member).delimited
    · cases ending with
      | completed report =>
          show Wire.terminator ∉ [Wire.endOfTransfer]
          decide
      | failed error => exact List.not_mem_nil
  case ended =>
    intro position
    rw [whole]
    cases ending with
    | completed report =>
        show (frames.flatten ++ [Wire.endOfTransfer])[position]? = _ ↔
          _ ∧ position + 1 = (frames.flatten ++ [Wire.endOfTransfer]).length
        rw [getElem?_append_singleton_eq_iff unmarked]
        exact (and_iff_right ⟨report, rfl⟩).symm
    | failed error =>
        show (frames.flatten ++ [])[position]? = _ ↔ _
        rw [List.append_nil]
        constructor
        · intro found
          exact absurd (List.mem_of_getElem? found) unmarked
        · rintro ⟨⟨report, same⟩, -⟩
          cases same

/-- Frames hold no mark but at their ends, whichever encoder built them and around whatever chunk.
So a receiver that goes by the marks finds in the stream of any transfer exactly the frames written,
each copy of its own, and the end of the transfer where it was told and nowhere else. -/
theorem transparent_send
    (settings : Settings)
    (file : FileSource φ)
    (port : SerialPort π)
    (devices : Devices φ π) :
    (∀ chunk sequence frame, Packet.Built chunk sequence frame →
      Packet.Transparent chunk frame) ∧
    ∃ frames,
      Separates settings (send settings file port devices).exchanges
        (send settings file port devices).ending frames := by
  constructor
  · intro chunk sequence frame built
    exact built.transparent
  · obtain ⟨frames, all, framing⟩ := written_send settings file port devices
    exact ⟨frames, separates_of_written all framing⟩

/-- The chunk holds the three marks and the quote mark, each of which is quoted. -/
theorem transparent_send_marks :
    Packet.Built [0x01, 0x03, 0x0D, 0x23] 127
      (Packet.largeFrame [0x01, 0x03, 0x0D, 0x23] 127) ∧
    Packet.Transparent [0x01, 0x03, 0x0D, 0x23]
      (Packet.largeFrame [0x01, 0x03, 0x0D, 0x23] 127) ∧
    ∃ frames,
      Separates .inPairs
        (send .inPairs Scripted.File.device Scripted.Port.device
          ⟨.threeBytes, .refusesOnce⟩).exchanges
        (send .inPairs Scripted.File.device Scripted.Port.device
          ⟨.threeBytes, .refusesOnce⟩).ending frames := by
  have built : Packet.Built [0x01, 0x03, 0x0D, 0x23] 127
      (Packet.largeFrame [0x01, 0x03, 0x0D, 0x23] 127) := .inr (.inl rfl)
  obtain ⟨transparent, separates⟩ := transparent_send .inPairs Scripted.File.device
    Scripted.Port.device ⟨.threeBytes, .refusesOnce⟩
  exact ⟨built, transparent _ _ _ built, separates⟩

end KermitSend

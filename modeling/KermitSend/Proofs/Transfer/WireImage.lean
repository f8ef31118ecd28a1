import KermitSend.Proofs.Packet.Receiver
import KermitSend.Proofs.Transfer.Failure

/-!
Contract: what a transfer has put on the line decodes to the front of the file.

Owns:
- settled deliveries, and copies of the one after them, as a receiver reassembles them;
- what a transfer leaves on the line when it stops short: the acknowledged bytes, and perhaps
  the chunk in flight;
- the law that the stream decodes to the announced bytes of the file, or to a front of it.

Does not own: what the receiver answers.
-/

set_option autoImplicit false

namespace KermitSend

variable {φ π : Type}

def stream (exchanges : List Exchange) : List UInt8 :=
  (written exchanges).flatten

/-! ## Deliveries as a receiver sees them -/

/-- A sequence number goes before the packet of an index if it is not that packet's own: what
follows is then not taken for a copy of what came before. -/
def Precedes (previous : Option UInt8) (index : Nat) : Prop :=
  previous ≠ some (sequenceAt index)

/-- Settled deliveries add their chunks, whatever frames follow them.  The induction carries the
sequence number of the frame before, which never is that of the next packet. -/
theorem reassembleAfter_settled
    {settings : Settings}
    {total : Nat}
    (settled : List Delivery)
    {first : Nat}
    {previous : Option UInt8}
    (precedes : Precedes previous first)
    (entries : ∀ index (delivery : Delivery), settled[index]? = some delivery →
      delivery.Settled settings total (first + index)) :
    ∃ last, Precedes last (first + settled.length) ∧
      ∀ later bytes, Packet.reassembleAfter last later = .ok bytes →
        Packet.reassembleAfter previous (settled.flatMap Delivery.copies ++ later) =
          .ok (settled.flatMap Delivery.chunk ++ bytes) := by
  induction settled generalizing first previous with
  | nil =>
      refine ⟨previous, precedes, ?_⟩
      intro later bytes rest
      exact rest
  | cons delivery settled inductionHypothesis =>
      have entry := entries 0 delivery rfl
      have advances : Precedes (some (sequenceAt first)) (first + 1) := by
        intro same
        exact sequenceAt_succ_ne first (Option.some.inj same).symm
      obtain ⟨last, lastPrecedes, rejoin⟩ :=
        inductionHypothesis advances (Delivery.settled_tail entries)
      refine ⟨last, ?_, ?_⟩
      · rwa [Nat.add_assoc, Nat.add_comm 1] at lastPrecedes
      · intro later bytes rest
        rw [List.flatMap_cons, List.flatMap_cons, List.append_assoc, List.append_assoc,
          Delivery.copies]
        exact Packet.reassembleAfter_replicate precedes entry.framed.encoded
          (rejoin later bytes rest) entry.attempted

section Books

variable
  {settings : Settings}
  {session : Session}
  {settled : List Delivery}

private theorem Books.reassemble_append (books : Books settings session settled) :
    ∃ last, Precedes last settled.length ∧
      ∀ later bytes, Packet.reassembleAfter last later = .ok bytes →
        Packet.reassemble (settled.flatMap Delivery.copies ++ later) =
          .ok (settled.flatMap Delivery.chunk ++ bytes) := by
  have precedes : Precedes none 0 := by
    simp [Precedes]
  obtain ⟨last, lastPrecedes, rejoin⟩ :=
    reassembleAfter_settled settled precedes books.entries_from_zero
  rw [Nat.zero_add] at lastPrecedes
  exact ⟨last, lastPrecedes, rejoin⟩

private theorem Books.reassemble_copies (books : Books settings session settled) :
    Packet.reassemble (settled.flatMap Delivery.copies) =
      .ok (settled.flatMap Delivery.chunk) := by
  obtain ⟨last, -, rejoin⟩ := books.reassemble_append
  have joined := rejoin [] [] rfl
  rwa [List.append_nil, List.append_nil] at joined

private theorem Books.reassemble_copies_append
    (books : Books settings session settled)
    {delivery : Delivery}
    (framed : delivery.Framed settings session.total settled.length)
    {copies : Nat}
    (positive : 1 ≤ copies) :
    Packet.reassemble
        (settled.flatMap Delivery.copies ++ List.replicate copies delivery.frame) =
      .ok (settled.flatMap Delivery.chunk ++ delivery.chunk) := by
  obtain ⟨last, precedes, rejoin⟩ := books.reassemble_append
  have ended : Packet.reassembleAfter (some (sequenceAt settled.length)) [] = .ok [] := rfl
  have next := Packet.reassembleAfter_replicate precedes framed.encoded ended positive
  rw [List.append_nil, List.append_nil] at next
  exact rejoin _ _ next

end Books

/-! ## Transfers that stop short -/

/-- What exchanges have left on the line: the bytes of the settled deliveries, or those and the
chunk in flight. -/
structure LeftBehind
    (settings : Settings)
    (session : Session)
    (exchanges : List Exchange)
    (bytes : List UInt8) : Prop where
  joined : Packet.reassemble (written exchanges) = .ok bytes
  inOrder : bytes <+: served exchanges
  length : bytes.length = session.bytesSent ∨
    bytes.length =
      session.bytesSent + min (session.total - session.bytesSent) settings.chunkLimit

section Books

variable
  {settings : Settings}
  {session : Session}
  {settled : List Delivery}
  {tail : List Exchange}

private theorem Books.leftBehind_settled
    (books : Books settings session settled)
    (nothing : written tail = []) :
    LeftBehind settings session (settledExchanges settings session.total settled ++ tail)
      (settled.flatMap Delivery.chunk) where
  joined := by
    rw [written_append, written_settledExchanges, nothing, List.append_nil]
    exact books.reassemble_copies
  inOrder := by
    rw [served_append, books.served_settledExchanges]
    exact List.prefix_append _ _
  length := .inl books.carried

private theorem Books.leftBehind_inFlight
    (books : Books settings session settled)
    {delivery : Delivery}
    (framed : delivery.Framed settings session.total settled.length)
    {copies : Nat}
    (positive : 1 ≤ copies)
    (repeated : written tail = List.replicate copies delivery.frame)
    (chunk : served tail = delivery.chunk) :
    LeftBehind settings session (settledExchanges settings session.total settled ++ tail)
      (settled.flatMap Delivery.chunk ++ delivery.chunk) where
  joined := by
    rw [written_append, written_settledExchanges, repeated]
    exact books.reassemble_copies_append framed positive
  inOrder := by
    have all : served (settledExchanges settings session.total settled ++ tail) =
        settled.flatMap Delivery.chunk ++ delivery.chunk := by
      rw [served_append, books.served_settledExchanges, chunk]
    exact all ▸ List.prefix_refl _
  length := by
    right
    have whole := framed.whole
    have bytesSent := books.bytesSent
    rw [pieceLength] at whole
    rw [List.length_append, books.carried]
    omega

/-- Reads of the next chunk leave nothing on the line. -/
theorem Books.leftBehind_reads
    (books : Books settings session settled)
    (reads : List FileRead)
    (nothing : written tail = []) :
    LeftBehind settings session
      (settledExchanges settings session.total settled ++
        (reads.map Exchange.ofFileRead ++ tail))
      (settled.flatMap Delivery.chunk) := by
  apply books.leftBehind_settled
  rw [written_append, written_reads, nothing, List.append_nil]

/-- Attempts on the next packet leave its chunk on the line, unless there were none. -/
theorem Books.leftBehind_exchanges
    (books : Books settings session settled)
    {delivery : Delivery}
    (framed : delivery.Framed settings session.total settled.length)
    {extra : Nat}
    (repeated : written tail = List.replicate extra delivery.frame)
    (unread : served tail = []) :
    ∃ bytes, LeftBehind settings session
      (settledExchanges settings session.total settled ++
        (delivery.exchanges settings ++ tail)) bytes := by
  have copies : written (delivery.exchanges settings ++ tail) =
      List.replicate (delivery.replies.length + extra) delivery.frame := by
    rw [written_append, Delivery.written_exchanges, repeated, Delivery.copies,
      List.replicate_append_replicate]
  have chunk : served (delivery.exchanges settings ++ tail) = delivery.chunk := by
    rw [served_append, framed.served_exchanges, unread, List.append_nil]
  by_cases none : delivery.replies.length + extra = 0
  · rw [none, List.replicate_zero] at copies
    exact ⟨_, books.leftBehind_settled copies⟩
  · exact ⟨_, books.leftBehind_inFlight framed (Nat.one_le_iff_ne_zero.2 none) copies chunk⟩

end Books

/-- A transfer that breaks off leaves settled bytes, or those and the chunk in flight. -/
theorem Books.leftBehind
    {settings : Settings}
    {session : Session}
    {settled : List Delivery}
    {tail : List Exchange}
    {error : TransferError}
    (books : Books settings session settled)
    (breaks : BreaksOff settings session.total settled.length tail error) :
    ∃ bytes, LeftBehind settings session
      (settledExchanges settings session.total settled ++ tail) bytes := by
  cases breaks with
  | truncated _ _ => exact ⟨_, books.leftBehind_reads _ rfl⟩
  | unreadable _ _ _ => exact ⟨_, books.leftBehind_reads _ rfl⟩
  | @unsent delivery fault framed _ _ =>
      have failed : written [.write delivery.frame (.error fault)] =
          List.replicate 0 delivery.frame := rfl
      exact books.leftBehind_exchanges framed failed rfl
  | @unheard delivery fault framed _ _ _ =>
      have sent : written (attempt settings delivery.frame (.error fault)) =
          List.replicate 1 delivery.frame := rfl
      exact books.leftBehind_exchanges framed sent rfl
  | @exhausted delivery framed _ _ =>
      have nothing : written [] = List.replicate 0 delivery.frame := rfl
      have left := books.leftBehind_exchanges framed nothing rfl
      rwa [List.append_nil] at left
  | unended _ => exact ⟨_, books.leftBehind_settled rfl⟩

/-! ## The stream of a transfer -/

/-- The stream of a completed transfer is that of accepted frames around the announced bytes of
the file, and then the end of the transfer. -/
theorem decodes_of_completed
    {file : FileSource φ}
    {rest : φ → List UInt8}
    (serves : file.Serves rest)
    {settings : Settings}
    {port : SerialPort π}
    {devices : Devices φ π}
    {report : Report}
    (completed : (send settings file port devices).ending = .completed report) :
    ∃ total frames, (file.size devices.file).1 = .ok total ∧
      total ≤ (rest devices.file).length ∧
        Packet.Decodes (stream (send settings file port devices).exchanges)
          frames [[Wire.endOfTransfer]] ((rest devices.file).take total) := by
  obtain ⟨session, settled, -, closed⟩ := closed_of_completed completed
  obtain ⟨answer, split⟩ := closed.split
  have announced := size_eq_total closed.accepted split
  have inOrder := served_send_prefix serves settings port devices
  obtain ⟨enough, front⟩ := closed.chunks_eq_take inOrder
  have joined := closed.books.reassemble_copies
  rw [front] at joined
  refine ⟨session.total, settled.flatMap Delivery.copies, announced, enough, ?_⟩
  rw [stream, closed.written_eq]
  exact .of_reassemble joined (.inr rfl)

/-- The stream of a transfer that stops short is that of accepted frames around a front of the
file: the settled bytes, or those and the chunk in flight. -/
theorem decodes_of_failed
    {file : FileSource φ}
    {rest : φ → List UInt8}
    (serves : file.Serves rest)
    {settings : Settings}
    {port : SerialPort π}
    {devices : Devices φ π}
    {error : TransferError}
    (failed : (send settings file port devices).ending = .failed error) :
    ∃ bytes,
      Packet.Decodes (stream (send settings file port devices).exchanges)
        (written (send settings file port devices).exchanges) [] bytes ∧
      bytes <+: rest devices.file ∧
        (bytes.length = error.bytesSent?.getD 0 ∨
          ∃ total, (file.size devices.file).1 = .ok total ∧
            bytes.length = error.bytesSent?.getD 0 +
              min (total - error.bytesSent?.getD 0) settings.chunkLimit) := by
  have inOrder := served_send_prefix serves settings port devices
  cases counted : error.bytesSent? with
  | none =>
      have nothing := written_of_uncounted failed counted
      rw [stream, nothing]
      exact ⟨[], .of_reassemble_all rfl, List.nil_prefix, .inl rfl⟩
  | some count =>
      obtain ⟨session, settled, tail, -, announced, sent, books, split, breaks⟩ :=
        breaksOff_of_counted failed counted
      obtain ⟨bytes, left⟩ := books.leftBehind breaks
      rw [← split] at left
      rw [Option.getD_some, sent]
      refine ⟨bytes, .of_reassemble_all left.joined, left.inOrder.trans inOrder, ?_⟩
      rcases left.length with acknowledged | inFlight
      · exact .inl acknowledged
      · exact .inr ⟨session.total, announced, inFlight⟩

/-- What a transfer puts on the line decodes to the file: to all announced bytes, followed by the
end of the transfer, when the transfer completes, and to a front of the file when it stops
short.  The front is what the error counts as sent, or that and the chunk in flight. -/
theorem decodes_send
    {file : FileSource φ}
    {rest : φ → List UInt8}
    (serves : file.Serves rest)
    (settings : Settings)
    (port : SerialPort π)
    (devices : Devices φ π) :
    match (send settings file port devices).ending with
    | .completed _ =>
        ∃ total frames, (file.size devices.file).1 = .ok total ∧
          total ≤ (rest devices.file).length ∧
            Packet.Decodes (stream (send settings file port devices).exchanges)
              frames [[Wire.endOfTransfer]] ((rest devices.file).take total)
    | .failed error =>
        ∃ bytes,
          Packet.Decodes (stream (send settings file port devices).exchanges)
            (written (send settings file port devices).exchanges) [] bytes ∧
          bytes <+: rest devices.file ∧
            (bytes.length = error.bytesSent?.getD 0 ∨
              ∃ total, (file.size devices.file).1 = .ok total ∧
                bytes.length = error.bytesSent?.getD 0 +
                  min (total - error.bytesSent?.getD 0) settings.chunkLimit) ∧
              bytes.length ≤ error.bytesSent?.getD 0 + settings.chunkLimit := by
  cases ending : (send settings file port devices).ending with
  | completed report => exact decodes_of_completed serves ending
  | failed error =>
      obtain ⟨bytes, decodes, front, length⟩ := decodes_of_failed serves ending
      refine ⟨bytes, decodes, front, length, ?_⟩
      rcases length with acknowledged | ⟨total, -, inFlight⟩ <;> omega

/-- A receiver that accepts one packet and is not heard of again. -/
def Scripted.Port.acceptsOnce : Scripted.Port :=
  { writes := 0
    writeFaults := []
    arrived := 0
    leftover := []
    responses := [.answer Wire.acceptKind]
    afterwards := none }

theorem threeBytes_decodes_unanswered :
    (send .inPairs Scripted.File.device Scripted.Port.device
      ⟨.threeBytes, .acceptsOnce⟩).ending = .failed (.retriesExhausted 4 1 2) ∧
    ∃ bytes,
      Packet.Decodes
        (stream (send .inPairs Scripted.File.device Scripted.Port.device
          ⟨.threeBytes, .acceptsOnce⟩).exchanges)
        (written (send .inPairs Scripted.File.device Scripted.Port.device
          ⟨.threeBytes, .acceptsOnce⟩).exchanges) [] bytes ∧
      bytes <+: [1, 2, 3] ∧
        (bytes.length = 2 ∨ ∃ total, (.ok 3 : Except Fault Nat) = .ok total ∧
          bytes.length = 2 + min (total - 2) 2) ∧
          bytes.length ≤ 2 + 2 := by
  have followed : (Machine.initial.follow .inPairs Scripted.File.device Scripted.Port.device
      40 ⟨.threeBytes, .acceptsOnce⟩).map Prod.snd =
        some (.failed (.retriesExhausted 4 1 2)) := by
    decide
  have failed := ending_of_follow followed
  have decodes := decodes_send Scripted.File.serves .inPairs Scripted.Port.device
    ⟨.threeBytes, .acceptsOnce⟩
  rw [failed] at decodes
  exact ⟨failed, decodes⟩

end KermitSend

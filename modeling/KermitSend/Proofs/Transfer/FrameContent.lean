import KermitSend.Proofs.Transfer.CallOrder

/-!
Contract: the bytes of a content that the calls of a transfer are about.

Owns:
- each piece of a content by its index;
- calls that keep to the first bytes of a content;
- the law that the frames of every transfer carry the piece of their packet and nothing else, and
  that its reads ask for nothing beyond the announced size.

Does not own: how a piece is gathered from the reads.
-/

set_option autoImplicit false

namespace KermitSend

variable {φ π : Type}

/-! ## Pieces by index -/

theorem getElem?_pieces
    {limit index : Nat}
    (positive : 0 < limit)
    {content : List UInt8}
    (inside : index * limit < content.length) :
    (pieces limit content)[index]? = some ((content.drop (index * limit)).take limit) := by
  induction index generalizing content with
  | zero =>
      have present : content ≠ [] := List.ne_nil_of_length_pos (by omega)
      rw [pieces_of_ne_nil positive present, Nat.zero_mul]
      rfl
  | succ index inductionHypothesis =>
      rw [Nat.succ_mul] at inside
      have present : content ≠ [] := List.ne_nil_of_length_pos (by omega)
      have later : index * limit < (content.drop limit).length := by
        rw [List.length_drop]
        omega
      rw [pieces_of_ne_nil positive present, List.getElem?_cons_succ, inductionHypothesis later,
        List.drop_drop, Nat.succ_mul, Nat.add_comm limit]

/-- The piece of an index has the length that is wanted for its packet, and these bytes. -/
theorem getElem?_pieces_take
    {settings : Settings}
    {total index : Nat}
    {earlier chunk later : List UInt8}
    (positive : 0 < settings.chunkLimit)
    (before : earlier.length = index * settings.chunkLimit)
    (within : index * settings.chunkLimit < total)
    (whole : chunk.length = pieceLength settings total index)
    (nonempty : chunk ≠ []) :
    (pieces settings.chunkLimit ((earlier ++ chunk ++ later).take total))[index]? =
      some chunk := by
  have present := List.length_pos_iff.2 nonempty
  have inside : index * settings.chunkLimit < ((earlier ++ chunk ++ later).take total).length := by
    rw [List.length_take, List.length_append, List.length_append]
    omega
  rw [getElem?_pieces positive inside, List.drop_take, List.take_take, List.append_assoc,
    List.drop_left' before, Nat.min_comm, ← pieceLength, List.take_left' whole]

/-! ## Calls about the first bytes -/

/-- Calls about the first `total` bytes of a content: every frame carries the piece of the packet in
flight and nothing else, and every read asks for bytes among them. -/
structure StaysWithin
    (settings : Settings)
    (content : List UInt8)
    (total : Nat)
    (exchanges : List Exchange) : Prop where
  frames : ∀ before bytes answer after, exchanges = before ++ .write bytes answer :: after →
    bytes = [Wire.endOfTransfer] ∨ ∃ piece,
      (pieces settings.chunkLimit (content.take total))[inFlightAfter 0 (replies before)]? =
          some piece ∧
        Packet.encode settings.mode piece (sequenceAt (inFlightAfter 0 (replies before))) =
          .ok bytes
  reads : ∀ before room answer after, exchanges = before ++ .fileRead room answer :: after →
    (served before).length + room ≤ total

/-- A frame to be sent is that of the piece of the packet in flight. -/
theorem Conversation.framed_of_sending
    {settings : Settings}
    {history : List Exchange}
    {machine : Machine}
    {content : List UInt8}
    (conversation : Conversation settings history machine)
    (sending : machine.phase = .sending)
    (inOrder : served history <+: content) :
    ∃ piece,
      (pieces settings.chunkLimit (content.take machine.session.total))[
          inFlightAfter 0 (replies history)]? = some piece ∧
        Packet.encode settings.mode piece (sequenceAt (inFlightAfter 0 (replies history))) =
          .ok machine.frame := by
  have started : machine.phase ≠ .idle := by
    rw [sending]
    decide
  have index := (conversation.inFlight_of_sending sending).2
  obtain ⟨settled, pending, accepted, books, standing, split⟩ :=
    conversation.recorded.elim started
  unfold Standing at standing
  rw [sending] at standing
  obtain ⟨delivery, flying, -, -, -, rfl⟩ := standing
  have framed := flying.framed
  have positive := ((settings.validate_eq_ok_iff).1 accepted).1
  have within := framed.index_mul_lt
  have before : (settled.flatMap Delivery.chunk).length = settled.length * settings.chunkLimit := by
    rw [books.carried, books.bytesSent]
    omega
  obtain ⟨later, rfl⟩ := inOrder
  rw [index, books.packets, flying.frame, split, served_append, books.served_settledExchanges,
    framed.served_exchanges]
  exact ⟨delivery.chunk,
    getElem?_pieces_take positive before within framed.whole framed.nonempty, framed.encoded⟩

/-- Once a transfer has begun, it counts on the size that the file announced. -/
theorem Conversation.total_eq_size
    {settings : Settings}
    {file : FileSource φ}
    {port : SerialPort π}
    {devices : Devices φ π}
    {machine : Machine}
    {before later : List Exchange}
    (conversation : Conversation settings before machine)
    (started : machine.phase ≠ .idle)
    (split : (send settings file port devices).exchanges = before ++ later) :
    (file.size devices.file).1 = .ok machine.session.total := by
  obtain ⟨settled, pending, accepted, -, -, rfl⟩ := conversation.recorded.elim started
  rw [List.append_assoc] at split
  exact size_eq_total accepted split

theorem staysWithin_send
    {file : FileSource φ}
    {rest : φ → List UInt8}
    (serves : file.Serves rest)
    (settings : Settings)
    (port : SerialPort π)
    (devices : Devices φ π)
    {total : Nat}
    (announced : (file.size devices.file).1 = .ok total) :
    StaysWithin settings (rest devices.file) total (send settings file port devices).exchanges := by
  constructor
  case frames =>
    intro before bytes answer after split
    obtain ⟨machine, conversation, calls⟩ := exists_calls_of_send split
    rcases calls.write with ⟨sending, rfl, -⟩ | ⟨-, farewell, -⟩
    · right
      have started : machine.phase ≠ .idle := by
        rw [sending]
        decide
      have counted := conversation.total_eq_size started split
      rw [announced, Except.ok.injEq] at counted
      have inOrder := served_send_prefix serves settings port devices
      rw [split, served_append] at inOrder
      rw [counted]
      exact conversation.framed_of_sending sending ((List.prefix_append _ _).trans inOrder)
    · exact .inl farewell
  case reads =>
    intro before room answer after split
    obtain ⟨machine, conversation, calls⟩ := exists_calls_of_send split
    obtain ⟨filled, phase, -, rfl⟩ := calls.fileRead
    have started : machine.phase ≠ .idle := by
      rw [phase]
      simp
    have counted := conversation.total_eq_size started split
    rw [announced, Except.ok.injEq] at counted
    rw [conversation.missing_eq phase, ← counted]
    exact Nat.min_le_left _ _

end KermitSend

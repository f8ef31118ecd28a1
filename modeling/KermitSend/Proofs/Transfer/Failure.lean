import KermitSend.Proofs.Packet.RoundTrip
import KermitSend.Proofs.Transfer.Replies

/-!
Contract: how a transfer that has begun breaks off.

Owns:
- the ways to break off at a packet, each with the exchanges since the last settled delivery and
  with the error;
- the law that a failed transfer has settled deliveries and then breaks off in one of these ways;
- the law that a transfer which fails before the size of the file is known has asked for nothing but
  the size, and so has written nothing.

Does not own: what the error accounts for.
-/

set_option autoImplicit false

namespace KermitSend

variable {φ π : Type}

/-- The bytes that the first packets, as many as given, carry together. -/
def bytesBefore (settings : Settings) (total index : Nat) : Nat :=
  min total (index * settings.chunkLimit)

/-- A transfer breaks off at the packet of the given index: the exchanges since the delivery before
it was settled, and the error. -/
inductive BreaksOff
    (settings : Settings)
    (total index : Nat) :
    List Exchange → TransferError → Prop where
  | truncated {reads bytes}
      (gathered : Gathers (pieceLength settings total index) reads bytes)
      (incomplete : bytes.length < pieceLength settings total index) :
      BreaksOff settings total index
        (reads.map Exchange.ofFileRead ++
          [.fileRead (pieceLength settings total index - bytes.length) (.ok [])])
        (.fileTruncated (bytesBefore settings total index) total)
  | unreadable {reads bytes fault}
      (gathered : Gathers (pieceLength settings total index) reads bytes)
      (incomplete : bytes.length < pieceLength settings total index)
      (kind : fault.kind ≠ .interrupted) :
      BreaksOff settings total index
        (reads.map Exchange.ofFileRead ++
          [.fileRead (pieceLength settings total index - bytes.length) (.error fault)])
        (.fileRead (bytesBefore settings total index) fault)
  | unsent {delivery : Delivery} {fault}
      (framed : delivery.Framed settings total index)
      (unanswered : delivery.Unanswered index)
      (left : delivery.replies.length < settings.retryLimit.toNat) :
      BreaksOff settings total index
        (delivery.exchanges settings ++ [.write delivery.frame (.error fault)])
        (.write (sequenceAt index) (bytesBefore settings total index) fault)
  | unheard {delivery : Delivery} {fault}
      (framed : delivery.Framed settings total index)
      (unanswered : delivery.Unanswered index)
      (left : delivery.replies.length < settings.retryLimit.toNat)
      (kind : fault.kind ≠ .timedOut) :
      BreaksOff settings total index
        (delivery.exchanges settings ++ attempt settings delivery.frame (.error fault))
        (.read (sequenceAt index) (bytesBefore settings total index) fault)
  | exhausted {delivery : Delivery}
      (framed : delivery.Framed settings total index)
      (unanswered : delivery.Unanswered index)
      (used : delivery.replies.length = settings.retryLimit.toNat) :
      BreaksOff settings total index (delivery.exchanges settings)
        (.retriesExhausted settings.retryLimit (sequenceAt index)
          (bytesBefore settings total index))
  | unended {fault}
      (covered : total ≤ index * settings.chunkLimit) :
      BreaksOff settings total index [.write [Wire.endOfTransfer] (.error fault)]
        (.write (sequenceAt index) (bytesBefore settings total index) fault)

/-! ## Frames -/

/-- With accepted settings no chunk is refused a frame. -/
theorem encode_ne_error
    {settings : Settings}
    {chunk : List UInt8}
    (accepted : settings.validate = .ok ())
    (fits : chunk.length ≤ settings.chunkLimit)
    (index : Nat)
    (error : Packet.Error) :
    Packet.encode settings.mode chunk (sequenceAt index) ≠ .error error := by
  obtain ⟨-, limit, -, -⟩ := (settings.validate_eq_ok_iff).1 accepted
  have inRange : ¬ Wire.lastSequence < sequenceAt index := by
    have last : Wire.lastSequence.toNat = 127 := rfl
    rw [UInt8.lt_iff_toNat_lt, toNat_sequenceAt, last]
    omega
  have within : ¬ settings.mode.limit < chunk.length := by
    omega
  rw [Packet.encode_eq, if_neg inRange, if_neg within]
  intro refused
  cases refused

/-- No frame is taken for the end of a transfer. -/
theorem Delivery.Framed.frame_ne_endOfTransfer
    {settings : Settings}
    {total index : Nat}
    {delivery : Delivery}
    (framed : delivery.Framed settings total index) :
    delivery.frame ≠ [Wire.endOfTransfer] := by
  intro same
  have read := Packet.parse_of_encode framed.encoded
  have refused : Packet.parse [Wire.endOfTransfer] = .error (.malformed .tooShort) := by
    rfl
  rw [same, refused] at read
  cases read

/-! ## Every failure breaks off -/

section Stops

variable
  {settings : Settings}
  {machine : Machine}
  {settled : List Delivery}
  {pending final : List Exchange}
  {error : TransferError}

/-- Counting an attempt that uses up the limit reaches the limit and no more. -/
theorem succ_eq_of_exhausted
    {count limit : UInt8}
    (below : count < limit)
    (last : limit ≤ count + 1) :
    count + 1 = limit := by
  apply UInt8.toNat_inj.1
  have raised := toNat_succ_of_lt below
  have order := UInt8.le_iff_toNat_le.1 last
  have left := UInt8.lt_iff_toNat_lt.1 below
  omega

/-- While a chunk is read, the exchanges since the last settled delivery have gathered the part of
the piece that is filled. -/
theorem Books.exists_gathered
    (books : Books settings machine.session settled)
    (standing : Standing settings settled.length machine pending)
    {filled : Nat}
    (phase : machine.phase = .chunking filled) :
    ∃ reads bytes,
      pending = reads.map Exchange.ofFileRead ∧
      Gathers (pieceLength settings machine.session.total settled.length) reads bytes ∧
      bytes.length = filled := by
  unfold Standing at standing
  rw [phase] at standing
  obtain ⟨reads, filling, rfl⟩ := standing
  have gathered := filling.gathered
  rw [books.wanted_eq] at gathered
  exact ⟨reads, machine.buffer.take filled, rfl, gathered, filling.length_take⟩

/-- A transfer that fails once it has begun breaks off at the packet after the settled ones. -/
theorem Books.breaksOff
    (accepted : settings.validate = .ok ())
    (books : Books settings machine.session settled)
    (standing : Standing settings settled.length machine pending)
    (started : machine.phase ≠ .idle)
    (stops : machine.Stops settings final (.failed error)) :
    BreaksOff settings machine.session.total settled.length (pending ++ final) error := by
  have bytesSent : machine.session.bytesSent =
      bytesBefore settings machine.session.total settled.length := books.bytesSent
  have wanted := books.wanted_eq
  cases stops with
  | invalid phase _ => exact absurd phase started
  | unsized phase _ => exact absurd phase started
  | truncated phase incomplete =>
      obtain ⟨reads, bytes, rfl, gathered, rfl⟩ := books.exists_gathered standing phase
      rw [wanted] at incomplete ⊢
      rw [bytesSent]
      exact .truncated gathered incomplete
  | unreadable phase incomplete kind =>
      obtain ⟨reads, bytes, rfl, gathered, rfl⟩ := books.exists_gathered standing phase
      rw [wanted] at incomplete ⊢
      rw [bytesSent]
      exact .unreadable gathered incomplete kind
  | unframed phase something complete refused =>
      rw [books.sequence] at refused
      have fits : (machine.buffer.take (machine.wanted settings)).length ≤
          settings.chunkLimit := by
        rw [List.length_take, Machine.wanted]
        omega
      exact absurd refused (encode_ne_error accepted fits settled.length _)
  | unsent phase =>
      rw [Standing, phase] at standing
      obtain ⟨delivery, flying, unanswered, tries, left, rfl⟩ := standing
      rw [bytesSent, books.sequence, flying.frame]
      rw [UInt8.lt_iff_toNat_lt, ← tries] at left
      exact .unsent flying.framed unanswered left
  | unheard phase kind =>
      rw [Standing, phase] at standing
      obtain ⟨delivery, flying, unanswered, tries, left, rfl⟩ := standing
      rw [bytesSent, books.sequence, List.append_assoc]
      rw [UInt8.lt_iff_toNat_lt, ← tries] at left
      exact .unheard flying.framed unanswered left kind
  | exhausted phase last =>
      rw [Standing, phase] at standing
      obtain ⟨delivery, flying, unanswered, tries, left, rfl⟩ := standing
      have used := succ_eq_of_exhausted left last
      rw [← toNat_succ_of_lt left, used] at tries
      rw [bytesSent, books.sequence, used, List.append_nil]
      exact .exhausted flying.framed unanswered tries
  | unended phase =>
      rw [Standing, phase] at standing
      obtain ⟨nothing, -, rfl⟩ := standing
      have remaining := books.remaining
      rw [bytesSent, books.sequence]
      exact .unended (by omega)

end Stops

/-- Before its beginning a transfer has made no call, or has failed to learn the size of the file,
and its error counts no bytes. -/
theorem Recorded.exchanges_of_idle
    {settings : Settings}
    {history final : List Exchange}
    {machine : Machine}
    {ending : Ending}
    (recorded : Recorded settings history machine)
    (idle : machine.phase = .idle)
    (stops : machine.Stops settings final ending) :
    (history ++ final = [] ∨ ∃ fault, history ++ final = [.size (.error fault)]) ∧
      ending.bytesSent? = none := by
  rw [recorded.history_eq_nil idle]
  cases stops with
  | invalid _ _ => exact ⟨.inl rfl, rfl⟩
  | @unsized fault _ _ => exact ⟨.inr ⟨fault, rfl⟩, rfl⟩
  | _ => simp_all

theorem Machine.Stops.bytesSent?_eq
    {settings : Settings}
    {machine : Machine}
    {final : List Exchange}
    {error : TransferError}
    (stops : machine.Stops settings final (.failed error))
    (started : machine.phase ≠ .idle) :
    error.bytesSent? = some machine.session.bytesSent := by
  cases stops with
  | invalid phase _ => exact absurd phase started
  | unsized phase _ => exact absurd phase started
  | _ => rfl

section Send

variable
  {settings : Settings}
  {file : FileSource φ}
  {port : SerialPort π}
  {devices : Devices φ π}
  {error : TransferError}

theorem exchanges_of_uncounted
    (failed : (send settings file port devices).ending = .failed error)
    (uncounted : error.bytesSent? = none) :
    (send settings file port devices).exchanges = [] ∨
      ∃ fault, (send settings file port devices).exchanges = [.size (.error fault)] := by
  obtain ⟨history, machine, final, conversation, stops, split⟩ :=
    exists_conversation_of_send settings file port devices
  rw [failed] at stops
  have idle : machine.phase = .idle := by
    by_contra started
    rw [stops.bytesSent?_eq started] at uncounted
    cases uncounted
  rw [split]
  exact (conversation.recorded.exchanges_of_idle idle stops).1

theorem written_of_uncounted
    (failed : (send settings file port devices).ending = .failed error)
    (uncounted : error.bytesSent? = none) :
    written (send settings file port devices).exchanges = [] := by
  rcases exchanges_of_uncounted failed uncounted with none | ⟨fault, unsized⟩
  · rw [none]
    rfl
  · rw [unsized]
    rfl

/-- A failed transfer whose error counts bytes had settled some deliveries when it broke off. -/
theorem breaksOff_of_counted
    {count : Nat}
    (failed : (send settings file port devices).ending = .failed error)
    (counted : error.bytesSent? = some count) :
    ∃ session settled tail, settings.validate = .ok () ∧
      (file.size devices.file).1 = .ok session.total ∧ count = session.bytesSent ∧
        Books settings session settled ∧
          (send settings file port devices).exchanges =
              settledExchanges settings session.total settled ++ tail ∧
            BreaksOff settings session.total settled.length tail error := by
  obtain ⟨history, machine, final, conversation, stops, split⟩ :=
    exists_conversation_of_send settings file port devices
  rw [failed] at stops
  have started : machine.phase ≠ .idle := by
    intro idle
    have uncounted := (conversation.recorded.exchanges_of_idle idle stops).2
    rw [Ending.bytesSent?, counted] at uncounted
    cases uncounted
  have sent : count = machine.session.bytesSent := by
    rw [stops.bytesSent?_eq started, Option.some.injEq] at counted
    exact counted.symm
  obtain ⟨settled, pending, accepted, books, standing, rfl⟩ :=
    conversation.recorded.elim started
  rw [List.append_assoc] at split
  exact ⟨machine.session, settled, _, accepted, size_eq_total accepted split, sent, books, split,
    books.breaksOff accepted standing started stops⟩

end Send

end KermitSend

import KermitSend.Proofs.Program.Outcome
import KermitSend.Proofs.Transfer.Supply

/-!
Contract: what the user is told of a receiver that a failed transfer leaves in the middle.

Owns:
- which device the last call of a failed transfer was made on;
- the law that a transfer which fails after a data packet has gone out advises the user to restart
  the receiver exactly when its last call was one on the line;
- what the error is in the other case, in which the file has stopped the transfer.

Does not own: what failed transfers have delivered.
-/

set_option autoImplicit false

namespace KermitSend

variable {φ π : Type}

/-! ## The last call -/

/-- The last call was one on the line. -/
def EndsOnLine (exchanges : List Exchange) : Prop :=
  ∃ last, exchanges.getLast? = some last ∧ last.onLine = true

/-- The last call was a read of the file. -/
def EndsAtFile (exchanges : List Exchange) : Prop :=
  ∃ room answer, exchanges.getLast? = some (.fileRead room answer)

section Last

variable
  (front : List Exchange)
  (last : Exchange)

private theorem endsOnLine_concat_iff : EndsOnLine (front ++ [last]) ↔ last.onLine = true := by
  rw [EndsOnLine, List.getLast?_concat]
  simp

private theorem endsAtFile_concat_iff :
    EndsAtFile (front ++ [last]) ↔ ∃ room answer, last = .fileRead room answer := by
  rw [EndsAtFile, List.getLast?_concat]
  simp

end Last

/-- Attempts on a packet, one or more, end with a call on the line. -/
theorem Delivery.exists_exchanges_concat
    (settings : Settings)
    {delivery : Delivery}
    (attempted : 0 < delivery.replies.length) :
    ∃ front last, delivery.exchanges settings = front ++ [last] ∧ last.onLine = true := by
  rcases delivery.replies.eq_nil_or_concat' with none | ⟨earlier, reply, split⟩
  · rw [none] at attempted
    cases attempted
  · refine ⟨delivery.reads.map Exchange.ofFileRead ++
        earlier.flatMap (attempt settings delivery.frame) ++ [.write delivery.frame (.ok ())],
      .receive Wire.replyLength settings.replyTimeout reply, ?_, rfl⟩
    rw [exchanges, attempts, split, List.flatMap_append, List.flatMap_singleton,
      List.append_assoc, List.append_assoc]
    rfl

section BreaksOff

variable
  {settings : Settings}
  {total index : Nat}
  {tail : List Exchange}
  {error : TransferError}

/-- What is advised when a transfer breaks off goes by the device that the last call was made on. -/
theorem BreaksOff.exists_last
    (breaks : BreaksOff settings total index tail error)
    (allowed : 0 < settings.retryLimit.toNat) :
    ∃ front last, tail = front ++ [last] ∧
      ((error.advisesRestart = true ∧ last.onLine = true) ∨
        (error.advisesRestart = false ∧ ∃ room answer, last = .fileRead room answer)) := by
  cases breaks with
  | truncated _ _ => exact ⟨_, _, rfl, .inr ⟨rfl, _, _, rfl⟩⟩
  | unreadable _ _ _ => exact ⟨_, _, rfl, .inr ⟨rfl, _, _, rfl⟩⟩
  | unsent _ _ _ => exact ⟨_, _, rfl, .inl ⟨rfl, rfl⟩⟩
  | @unheard delivery fault _ _ _ _ =>
      refine ⟨delivery.exchanges settings ++ [.write delivery.frame (.ok ())],
        .receive Wire.replyLength settings.replyTimeout (.error fault), ?_, .inl ⟨rfl, rfl⟩⟩
      rw [List.append_assoc]
      rfl
  | exhausted _ _ used =>
      obtain ⟨front, last, split, onLine⟩ :=
        Delivery.exists_exchanges_concat settings (used ▸ allowed)
      exact ⟨front, last, split, .inl ⟨rfl, onLine⟩⟩
  | unended _ => exact ⟨[], _, rfl, .inl ⟨rfl, rfl⟩⟩

private theorem written_reads_concat
    (reads : List FileRead)
    (room : Nat)
    (answer : Except Fault (List UInt8)) :
    written (reads.map Exchange.ofFileRead ++ [.fileRead room answer]) = [] := by
  rw [written_append, written_reads]
  rfl

private theorem index_mul_lt_of_lt_pieceLength
    {count : Nat}
    (incomplete : count < pieceLength settings total index) :
    index * settings.chunkLimit < total := by
  rw [pieceLength] at incomplete
  omega

/-- A file that stops a transfer does so before anything of the next packet is on the line. -/
theorem BreaksOff.of_unadvised
    (breaks : BreaksOff settings total index tail error)
    (unadvised : error.advisesRestart = false) :
    written tail = [] ∧ index * settings.chunkLimit < total ∧
      (error = .fileTruncated (bytesBefore settings total index) total ∨
        ∃ fault, error = .fileRead (bytesBefore settings total index) fault) := by
  cases breaks with
  | truncated _ incomplete =>
      exact ⟨written_reads_concat _ _ _, index_mul_lt_of_lt_pieceLength incomplete, .inl rfl⟩
  | unreadable _ incomplete _ =>
      exact ⟨written_reads_concat _ _ _, index_mul_lt_of_lt_pieceLength incomplete,
        .inr ⟨_, rfl⟩⟩
  | _ => cases unadvised

end BreaksOff

/-! ## What is printed -/

section Printed

variable {error : TransferError}

private theorem Program.conclude_of_advised (advised : error.advisesRestart = true) :
    Program.conclude (.failed error) =
      ("", "Data transmit failed: " ++ error.message ++ "\n"
        ++ "The target is left mid-transfer; restart loadb before retrying\n", 1) := by
  show ("", failureReport error, 1) = _
  unfold failureReport
  rw [if_pos advised]
  rfl

private theorem Program.conclude_of_unadvised (unadvised : error.advisesRestart = false) :
    Program.conclude (.failed error) =
      ("", "Data transmit failed: " ++ error.message ++ "\n", 1) := by
  show ("", failureReport error, 1) = _
  unfold failureReport
  rw [if_neg (Bool.eq_false_iff.1 unadvised), String.append_empty]

end Printed

/-! ## Failed transfers -/

/-- A transfer of `total` bytes failed with a data packet out and its end untold, so that the
receiver still waits: what the user is told goes by the device that the last call was made on. -/
structure LeftMidway (total : Nat) (exchanges : List Exchange) (error : TransferError) : Prop where
  unended : [Wire.endOfTransfer] ∉ written exchanges
  advised : error.advisesRestart = true ↔ EndsOnLine exchanges
  report : EndsOnLine exchanges →
    Program.conclude (.failed error) =
      ("", "Data transmit failed: " ++ error.message ++ "\n"
        ++ "The target is left mid-transfer; restart loadb before retrying\n", 1)
  silent : ¬ EndsOnLine exchanges →
    EndsAtFile exchanges ∧
    Program.conclude (.failed error) = ("", "Data transmit failed: " ++ error.message ++ "\n", 1)
  stopped : ¬ EndsOnLine exchanges →
    ∃ sent, 0 < sent ∧ sent < total ∧
      (error = .fileTruncated sent total ∨ ∃ fault, error = .fileRead sent fault)

section Report

variable
  {total : Nat}
  {front : List Exchange}
  {last : Exchange}
  {error : TransferError}

private theorem leftMidway_of_onLine
    (unended : [Wire.endOfTransfer] ∉ written (front ++ [last]))
    (onLine : last.onLine = true)
    (advised : error.advisesRestart = true) :
    LeftMidway total (front ++ [last]) error where
  unended := unended
  advised := by
    rw [endsOnLine_concat_iff]
    exact iff_of_true advised onLine
  report _ := Program.conclude_of_advised advised
  silent off := absurd ((endsOnLine_concat_iff front last).2 onLine) off
  stopped off := absurd ((endsOnLine_concat_iff front last).2 onLine) off

private theorem leftMidway_of_file
    {room : Nat}
    {answer : Except Fault (List UInt8)}
    (unended : [Wire.endOfTransfer] ∉ written (front ++ [.fileRead room answer]))
    (unadvised : error.advisesRestart = false)
    (stopped : ∃ sent, 0 < sent ∧ sent < total ∧
      (error = .fileTruncated sent total ∨ ∃ fault, error = .fileRead sent fault)) :
    LeftMidway total (front ++ [.fileRead room answer]) error := by
  have off : ¬ EndsOnLine (front ++ [.fileRead room answer]) := by
    rw [endsOnLine_concat_iff]
    exact Bool.false_ne_true
  refine ⟨unended, ?_, fun onLine => absurd onLine off, ?_, fun _ => stopped⟩
  · rw [unadvised]
    exact iff_of_false Bool.false_ne_true off
  · intro _
    exact ⟨(endsAtFile_concat_iff front _).2 ⟨room, answer, rfl⟩,
      Program.conclude_of_unadvised unadvised⟩

end Report

section Send

variable
  {settings : Settings}
  {file : FileSource φ}
  {port : SerialPort π}
  {devices : Devices φ π}
  {error : TransferError}

/-- A failed transfer does not tell of its end. -/
theorem endOfTransfer_notMem_written
    (failed : (send settings file port devices).ending = .failed error) :
    [Wire.endOfTransfer] ∉ written (send settings file port devices).exchanges := by
  obtain ⟨frames, all, framing⟩ := written_send settings file port devices
  rw [all, failed, Ending.farewell, List.append_nil]
  intro member
  exact (framing _ member).delimited.endOfTransfer_notMem List.mem_cons_self

private theorem dataFrames_eq_nil
    {exchanges : List Exchange}
    (nothing : written exchanges = []) :
    dataFrames exchanges = [] := by
  rw [dataFrames, nothing]
  rfl

/-- A transfer with a data packet out counts bytes when it fails. -/
theorem exists_counted_of_dataFrames
    (failed : (send settings file port devices).ending = .failed error)
    (begun : dataFrames (send settings file port devices).exchanges ≠ []) :
    ∃ count, error.bytesSent? = some count := by
  cases counted : error.bytesSent? with
  | none => exact absurd (dataFrames_eq_nil (written_of_uncounted failed counted)) begun
  | some count => exact ⟨count, rfl⟩

/-- With a data packet out, a file that stops a transfer does so after some of its bytes and before
others have been acknowledged. -/
theorem BreaksOff.stopped_of_dataFrames
    {total : Nat}
    {settled : List Delivery}
    {tail : List Exchange}
    (breaks : BreaksOff settings total settled.length tail error)
    (unadvised : error.advisesRestart = false)
    (positive : 0 < settings.chunkLimit)
    (begun : dataFrames (settledExchanges settings total settled ++ tail) ≠ []) :
    ∃ sent, 0 < sent ∧ sent < total ∧
      (error = .fileTruncated sent total ∨ ∃ fault, error = .fileRead sent fault) := by
  obtain ⟨silent, below, stated⟩ := breaks.of_unadvised unadvised
  have acknowledged : 0 < settled.length := by
    rw [List.length_pos_iff]
    rintro rfl
    apply begun
    apply dataFrames_eq_nil
    rw [written_append, written_settledExchanges, silent]
    rfl
  have sent : bytesBefore settings total settled.length =
      settled.length * settings.chunkLimit :=
    Nat.min_eq_right (Nat.le_of_lt below)
  refine ⟨_, ?_, ?_, stated⟩
  · rw [sent]
    exact Nat.mul_pos acknowledged positive
  · rw [sent]
    exact below

/-- A transfer that fails after a data packet has gone out leaves the receiver waiting, and advises
the user to restart it exactly when its last call was one on the line.  In every other case the file
has stopped the transfer, with some of its bytes acknowledged and not all, and the user is told of
the error alone. -/
theorem restart_advised_iff_endsOnLine
    (settings : Settings)
    (file : FileSource φ)
    (port : SerialPort π)
    (devices : Devices φ π)
    (error : TransferError)
    (failed : (send settings file port devices).ending = .failed error)
    (begun : dataFrames (send settings file port devices).exchanges ≠ []) :
    ∃ total, (file.size devices.file).1 = .ok total ∧
      LeftMidway total (send settings file port devices).exchanges error := by
  obtain ⟨count, counted⟩ := exists_counted_of_dataFrames failed begun
  obtain ⟨session, settled, tail, accepted, announced, -, -, split, breaks⟩ :=
    breaksOff_of_counted failed counted
  obtain ⟨positive, -, allowed, -⟩ := (settings.validate_eq_ok_iff).1 accepted
  have unended := endOfTransfer_notMem_written failed
  refine ⟨session.total, announced, ?_⟩
  rw [split] at begun unended ⊢
  obtain ⟨front, last, rfl, advice⟩ := breaks.exists_last allowed
  rcases advice with ⟨advised, onLine⟩ | ⟨unadvised, room, answer, rfl⟩
  · rw [← List.append_assoc] at unended ⊢
    exact leftMidway_of_onLine unended onLine advised
  · have stopped := breaks.stopped_of_dataFrames unadvised positive begun
    rw [← List.append_assoc] at unended ⊢
    exact leftMidway_of_file unended unadvised stopped

end Send

/-- A receiver that is not heard of again after it has accepted a packet is to be restarted. -/
theorem restart_advised_acceptsOnce :
    (send .inPairs Scripted.File.device Scripted.Port.device
      ⟨.threeBytes, .acceptsOnce⟩).ending = .failed (.retriesExhausted 4 1 2) ∧
    (dataFrames (send .inPairs Scripted.File.device Scripted.Port.device
      ⟨.threeBytes, .acceptsOnce⟩).exchanges).length = 5 ∧
    ∃ total, (Scripted.File.device.size .threeBytes).1 = .ok total ∧
      LeftMidway total (send .inPairs Scripted.File.device Scripted.Port.device
        ⟨.threeBytes, .acceptsOnce⟩).exchanges (.retriesExhausted 4 1 2) := by
  have followed : (Machine.initial.follow .inPairs Scripted.File.device Scripted.Port.device
      40 ⟨.threeBytes, .acceptsOnce⟩).map
        (fun result => ((dataFrames result.1).length, result.2)) =
      some (5, .failed (.retriesExhausted 4 1 2)) := by
    decide
  obtain ⟨result, found, read⟩ := Option.map_eq_some_iff.1 followed
  obtain ⟨exchanges, ending⟩ := send_of_follow found
  rw [Prod.mk.injEq, ← exchanges, ← ending] at read
  obtain ⟨frames, failed⟩ := read
  have begun : dataFrames (send .inPairs Scripted.File.device Scripted.Port.device
      ⟨.threeBytes, .acceptsOnce⟩).exchanges ≠ [] := by
    intro none
    rw [none] at frames
    cases frames
  exact ⟨failed, frames, restart_advised_iff_endsOnLine .inPairs Scripted.File.device
    Scripted.Port.device ⟨.threeBytes, .acceptsOnce⟩ _ failed begun⟩

/-- A file that has less to give than it announced stops a transfer after one packet of two, and
nothing is said of the receiver, which waits for the other. -/
theorem restart_unadvised_truncated :
    (send .inPairs Scripted.File.device Scripted.Port.device
      ⟨.plain 3 [0x41, 0x42], .dropsAtEnd⟩).ending = .failed (.fileTruncated 2 3) ∧
    dataFrames (send .inPairs Scripted.File.device Scripted.Port.device
      ⟨.plain 3 [0x41, 0x42], .dropsAtEnd⟩).exchanges =
        [[0x01, 0x25, 0x20, 0x44, 0x41, 0x42, 0x2C, 0x0D]] ∧
    [Wire.endOfTransfer] ∉ written (send .inPairs Scripted.File.device Scripted.Port.device
      ⟨.plain 3 [0x41, 0x42], .dropsAtEnd⟩).exchanges ∧
    TransferError.advisesRestart (.fileTruncated 2 3) = false ∧
    Program.conclude (.failed (.fileTruncated 2 3)) =
      ("", "Data transmit failed: file ended after 2 of 3 bytes\n", 1) := by
  have followed : (Machine.initial.follow .inPairs Scripted.File.device Scripted.Port.device
      40 ⟨.plain 3 [0x41, 0x42], .dropsAtEnd⟩).map
        (fun result => (dataFrames result.1, written result.1, result.2)) =
      some ([[0x01, 0x25, 0x20, 0x44, 0x41, 0x42, 0x2C, 0x0D]],
        [[0x01, 0x25, 0x20, 0x44, 0x41, 0x42, 0x2C, 0x0D]],
        .failed (.fileTruncated 2 3)) := by
    decide
  obtain ⟨result, found, read⟩ := Option.map_eq_some_iff.1 followed
  obtain ⟨exchanges, ending⟩ := send_of_follow found
  rw [Prod.mk.injEq, Prod.mk.injEq, ← exchanges, ← ending] at read
  obtain ⟨frames, all, failed⟩ := read
  refine ⟨failed, frames, ?_, rfl, rfl⟩
  rw [all]
  decide

end KermitSend

import KermitSend.Proofs.Transfer.Failure

/-!
Contract: the schedule that the calls of every transfer keep to.

Owns:
- calls without their answers;
- the schedule of a transfer that gets every packet across;
- calls that keep to a schedule as far as they go;
- what could still have followed where a transfer broke off, and the law that every transfer,
  however it ends, keeps to some schedule.

Does not own: what the order of calls says about two calls far apart.
-/

set_option autoImplicit false

namespace KermitSend

variable {φ π : Type}

/-- What is asked of a device. -/
inductive Call where
  | size
  | fileRead (room : Nat)
  | write (bytes : List UInt8)
  | receive (room timeout : Nat)
  | close
deriving DecidableEq, Repr

def Exchange.call : Exchange → Call
  | .size _ => .size
  | .fileRead room _ => .fileRead room
  | .write bytes _ => .write bytes
  | .receive room timeout _ => .receive room timeout
  | .close _ => .close

/-! ## Schedules -/

/-- Deliveries cover a transfer of `total` bytes: there is one for each packet, with reads of its
chunk, and all are settled. -/
structure Covers
    (settings : Settings)
    (total : Nat)
    (deliveries : List Delivery) : Prop where
  count : deliveries.length = (total + settings.chunkLimit - 1) / settings.chunkLimit
  entries : ∀ index (delivery : Delivery), deliveries[index]? = some delivery →
    delivery.Settled settings total index
  read : ∀ delivery ∈ deliveries, delivery.reads ≠ []

/-- The schedule of a transfer that makes the given deliveries: it asks for the size, then for each
packet reads the chunk and makes its attempts, then tells the end and closes the file. -/
def schedule
    (settings : Settings)
    (total : Nat)
    (deliveries : List Delivery) :
    List Exchange :=
  settledExchanges settings total deliveries ++
    [.write [Wire.endOfTransfer] (.ok ()), .close (.ok ())]

/-- Exchanges keep to a schedule when their calls are the first of its calls, and their answers,
that to the last call apart, are the answers it gives. -/
structure KeepsTo (scheduled exchanges : List Exchange) : Prop where
  calls : exchanges.map Exchange.call <+: scheduled.map Exchange.call
  answers : exchanges.dropLast <+: scheduled

namespace KeepsTo

variable {scheduled exchanges : List Exchange}

private theorem of_front (front : exchanges <+: scheduled) : KeepsTo scheduled exchanges where
  calls := front.map Exchange.call
  answers := (List.dropLast_prefix exchanges).trans front

/-- Another answer to the last call still keeps to the schedule. -/
theorem of_last
    {planned last : Exchange}
    (earlier later : List Exchange)
    (same : last.call = planned.call) :
    KeepsTo (earlier ++ planned :: later) (earlier ++ [last]) where
  calls := by
    rw [List.map_append, List.map_append, List.prefix_append_right_inj, List.map_singleton, same]
    exact List.prefix_append [planned.call] _
  answers := by
    rw [List.dropLast_concat]
    exact List.prefix_append _ _

private theorem append_left
    (keeps : KeepsTo scheduled exchanges)
    (earlier : List Exchange) :
    KeepsTo (earlier ++ scheduled) (earlier ++ exchanges) where
  calls := by
    rw [List.map_append, List.map_append, List.prefix_append_right_inj]
    exact keeps.calls
  answers := by
    by_cases none : exchanges = []
    · rw [none, List.append_nil]
      exact (List.dropLast_prefix earlier).trans (List.prefix_append _ _)
    · rw [List.dropLast_append_of_ne_nil none, List.prefix_append_right_inj]
      exact keeps.answers

private theorem append_right
    (keeps : KeepsTo scheduled exchanges)
    (later : List Exchange) :
    KeepsTo (scheduled ++ later) exchanges where
  calls := by
    rw [List.map_append]
    exact keeps.calls.trans (List.prefix_append _ _)
  answers := keeps.answers.trans (List.prefix_append _ _)

end KeepsTo

/-! ## What could still have followed -/

section Completion

variable
  {settings : Settings}
  {total index : Nat}

/-- There is a packet with the given index when those before it leave some bytes. -/
theorem lt_packetCount_iff
    (positive : 0 < settings.chunkLimit) :
    index < (total + settings.chunkLimit - 1) / settings.chunkLimit ↔
      index * settings.chunkLimit < total := by
  rw [← Nat.succ_le_iff, Nat.le_div_iff_mul_le positive, Nat.succ_mul]
  omega

/-- Reads that leave a chunk incomplete could have gone on to complete it. -/
theorem Gathers.exists_framed
    {reads : List FileRead}
    {bytes : List UInt8}
    (accepted : settings.validate = .ok ())
    (gathered : Gathers (pieceLength settings total index) reads bytes)
    (incomplete : bytes.length < pieceLength settings total index) :
    ∃ missing chunk frame,
      Delivery.Framed settings total index
        { reads := reads ++ [(pieceLength settings total index - bytes.length, .ok missing)]
          chunk
          frame
          replies := [] } := by
  let missing : List UInt8 :=
    List.replicate (pieceLength settings total index - bytes.length) 0
  have length : missing.length = pieceLength settings total index - bytes.length :=
    List.length_replicate
  have present : missing ≠ [] := by
    rw [← List.length_pos_iff, length]
    omega
  have whole : (bytes ++ missing).length = pieceLength settings total index := by
    rw [List.length_append, length]
    omega
  have fits : (bytes ++ missing).length ≤ settings.chunkLimit := by
    rw [whole]
    exact Nat.min_le_right _ _
  cases encoded : Packet.encode settings.mode (bytes ++ missing) (sequenceAt index) with
  | error error => exact absurd encoded (encode_ne_error accepted fits index error)
  | ok frame =>
      refine ⟨missing, bytes ++ missing, frame, ?_⟩
      exact
        { gathered := gathered.stored incomplete present (Nat.le_of_eq length)
          whole := whole
          nonempty := List.append_ne_nil_of_right_ne_nil bytes present
          encoded := encoded }

/-- Whatever becomes of a read that is needed, it could have completed the chunk, and the packet
could have been acknowledged at the first attempt. -/
theorem Gathers.exists_settled
    {reads : List FileRead}
    {bytes : List UInt8}
    (accepted : settings.validate = .ok ())
    (gathered : Gathers (pieceLength settings total index) reads bytes)
    (incomplete : bytes.length < pieceLength settings total index) :
    ∃ delivery : Delivery, delivery.Settled settings total index ∧ ∀ answer,
      KeepsTo (delivery.exchanges settings)
        (reads.map Exchange.ofFileRead ++
          [.fileRead (pieceLength settings total index - bytes.length) answer]) := by
  have retryPositive := ((settings.validate_eq_ok_iff).1 accepted).2.2.1
  obtain ⟨missing, chunk, frame, framed⟩ := gathered.exists_framed accepted incomplete
  obtain ⟨reply, forgiven, good⟩ := exists_acknowledges (sequenceAt index)
  refine ⟨_, Delivery.Unanswered.settled_answered ⟨?_, ?_⟩ framed retryPositive forgiven good, ?_⟩
  · simp
  · simp
  · intro answer
    rw [Delivery.exchanges_answered, Delivery.exchanges, List.map_append, List.append_assoc,
      List.append_assoc]
    apply KeepsTo.of_last
    rfl

/-- A packet with an attempt left could have been acknowledged at the next, whatever became of that
one. -/
theorem Delivery.Unanswered.exists_settled
    {delivery : Delivery}
    (unanswered : delivery.Unanswered index)
    (framed : delivery.Framed settings total index)
    (left : delivery.replies.length < settings.retryLimit.toNat) :
    ∃ settled : Delivery, settled.Settled settings total index ∧
      (∀ answer, KeepsTo (settled.exchanges settings)
        (delivery.exchanges settings ++ [.write delivery.frame answer])) ∧
      ∀ answer, KeepsTo (settled.exchanges settings)
        (delivery.exchanges settings ++ attempt settings delivery.frame answer) := by
  obtain ⟨reply, forgiven, good⟩ := exists_acknowledges (sequenceAt index)
  refine ⟨delivery.answered reply, unanswered.settled_answered framed left forgiven good, ?_, ?_⟩
  · intro answer
    rw [delivery.exchanges_answered]
    apply KeepsTo.of_last
    rfl
  · intro answer
    rw [delivery.exchanges_answered]
    apply KeepsTo.append_left
    apply KeepsTo.of_last [.write delivery.frame (.ok ())] []
    rfl

/-- Settled deliveries as many as there are packets cover the transfer. -/
theorem Covers.of_entries
    {deliveries : List Delivery}
    (count : deliveries.length = (total + settings.chunkLimit - 1) / settings.chunkLimit)
    (entries : ∀ index (delivery : Delivery), deliveries[index]? = some delivery →
      delivery.Settled settings total index) :
    Covers settings total deliveries where
  count := count
  entries := entries
  read := by
    intro delivery member
    obtain ⟨index, found⟩ := List.getElem?_of_mem member
    exact (entries index delivery found).framed.reads_ne_nil

/-- Settled deliveries for the first packets could have been followed by such for all others. -/
theorem exists_covers
    (accepted : settings.validate = .ok ())
    (missing : Nat)
    {deliveries : List Delivery}
    (entries : ∀ index (delivery : Delivery), deliveries[index]? = some delivery →
      delivery.Settled settings total index)
    (count : deliveries.length + missing =
      (total + settings.chunkLimit - 1) / settings.chunkLimit) :
    ∃ later, Covers settings total (deliveries ++ later) := by
  induction missing generalizing deliveries with
  | zero =>
      refine ⟨[], ?_⟩
      rw [List.append_nil]
      exact .of_entries count entries
  | succ missing inductionHypothesis =>
      have positive := ((settings.validate_eq_ok_iff).1 accepted).1
      have remains : deliveries.length * settings.chunkLimit < total :=
        (lt_packetCount_iff positive).1 (by omega)
      have incomplete : ([] : List UInt8).length <
          pieceLength settings total deliveries.length := by
        rw [List.length_nil, pieceLength]
        omega
      obtain ⟨delivery, settles, -⟩ := Gathers.none.exists_settled accepted incomplete
      have longer := forall_index_concat entries settles
      obtain ⟨later, covers⟩ := inductionHypothesis longer (by
        rw [List.length_append, List.length_singleton]
        omega)
      rw [List.append_assoc] at covers
      exact ⟨_, covers⟩

/-- Without its last reply an unanswered packet is still unanswered. -/
theorem Delivery.Unanswered.exists_last
    {delivery : Delivery}
    (unanswered : delivery.Unanswered index)
    (attempted : 0 < delivery.replies.length) :
    ∃ (earlier : Delivery) (last : Answer), delivery = earlier.answered last ∧
      earlier.Unanswered index ∧ earlier.replies.length < delivery.replies.length := by
  have present := List.length_pos_iff.1 attempted
  have split := List.dropLast_append_getLast present
  refine ⟨{ delivery with replies := delivery.replies.dropLast },
    delivery.replies.getLast present, ?_, ⟨?_, ?_⟩, ?_⟩
  · rw [answered, split]
  · intro reply member
    exact unanswered.forgiven reply (List.dropLast_subset _ member)
  · intro reply member
    exact unanswered.refused reply (List.dropLast_subset _ member)
  · show delivery.replies.dropLast.length < _
    rw [List.length_dropLast]
    omega

/-- Where a transfer breaks off, the packet in flight could still have come to be settled, if it is
not the end of the transfer that failed. -/
theorem BreaksOff.keepsTo
    {tail : List Exchange}
    {error : TransferError}
    (accepted : settings.validate = .ok ())
    (breaks : BreaksOff settings total index tail error) :
    (∃ delivery : Delivery, delivery.Settled settings total index ∧
      KeepsTo (delivery.exchanges settings) tail) ∨
    (total ≤ index * settings.chunkLimit ∧
      KeepsTo [.write [Wire.endOfTransfer] (.ok ()), .close (.ok ())] tail) := by
  cases breaks with
  | truncated gathered incomplete =>
      obtain ⟨delivery, settles, keeps⟩ := gathered.exists_settled accepted incomplete
      exact .inl ⟨delivery, settles, keeps _⟩
  | unreadable gathered incomplete kind =>
      obtain ⟨delivery, settles, keeps⟩ := gathered.exists_settled accepted incomplete
      exact .inl ⟨delivery, settles, keeps _⟩
  | unsent framed unanswered left =>
      obtain ⟨delivery, settles, unsent, -⟩ := unanswered.exists_settled framed left
      exact .inl ⟨delivery, settles, unsent _⟩
  | unheard framed unanswered left kind =>
      obtain ⟨delivery, settles, -, unheard⟩ := unanswered.exists_settled framed left
      exact .inl ⟨delivery, settles, unheard _⟩
  | exhausted framed unanswered used =>
      -- the last reply could have been the acknowledgement
      have retryPositive := ((settings.validate_eq_ok_iff).1 accepted).2.2.1
      obtain ⟨delivery, last, rfl, stillUnanswered, left⟩ :=
        unanswered.exists_last (by omega : 0 < _)
      obtain ⟨settled, settles, -, unheard⟩ := stillUnanswered.exists_settled
        ⟨framed.gathered, framed.whole, framed.nonempty, framed.encoded⟩ (by omega)
      left
      refine ⟨settled, settles, ?_⟩
      rw [delivery.exchanges_answered]
      exact unheard last
  | unended covered =>
      right
      refine ⟨covered, ?_⟩
      apply KeepsTo.of_last [] [.close (.ok ())]
      rfl

end Completion

/-! ## Every transfer keeps to a schedule -/

/-- What follows the settled deliveries of a schedule may be kept to by itself. -/
theorem keepsTo_schedule_append
    {settings : Settings}
    {total : Nat}
    {settled later : List Delivery}
    {tail : List Exchange}
    (keeps : KeepsTo
      (later.flatMap (Delivery.exchanges settings) ++
        [.write [Wire.endOfTransfer] (.ok ()), .close (.ok ())]) tail) :
    KeepsTo (schedule settings total (settled ++ later))
      (settledExchanges settings total settled ++ tail) := by
  have split : schedule settings total (settled ++ later) =
      settledExchanges settings total settled ++
        (later.flatMap (Delivery.exchanges settings) ++
          [.write [Wire.endOfTransfer] (.ok ()), .close (.ok ())]) := by
    simp [schedule, settledExchanges]
  rw [split]
  exact keeps.append_left _

/-- A transfer keeps to a schedule of the announced size. -/
structure Scheduled
    (settings : Settings)
    (total : Nat)
    (exchanges : List Exchange) : Prop where
  announced : ∀ size, exchanges.head? = some (.size (.ok size)) → size = total
  keeps : ∃ deliveries, Covers settings total deliveries ∧
    KeepsTo (schedule settings total deliveries) exchanges

namespace Scheduled

variable
  {settings : Settings}
  {session : Session}
  {settled : List Delivery}
  {exchanges : List Exchange}

private theorem of_settled
    {total : Nat}
    {later : List Delivery}
    {tail : List Exchange}
    (covers : Covers settings total (settled ++ later))
    (keeps : KeepsTo
      (later.flatMap (Delivery.exchanges settings) ++
        [.write [Wire.endOfTransfer] (.ok ()), .close (.ok ())]) tail) :
    Scheduled settings total (settledExchanges settings total settled ++ tail) where
  announced := by
    intro size first
    have known : (settledExchanges settings total settled ++ tail).head? =
        some (.size (.ok total)) := rfl
    rw [known, Option.some.injEq, Exchange.size.injEq, Except.ok.injEq] at first
    exact first.symm
  keeps := ⟨settled ++ later, covers, keepsTo_schedule_append keeps⟩

private theorem of_closed
    (closed : Closed settings session settled exchanges) :
    Scheduled settings session.total exchanges := by
  have positive := ((settings.validate_eq_ok_iff).1 closed.accepted).1
  have covers : Covers settings session.total (settled ++ []) := by
    rw [List.append_nil]
    exact .of_entries (closed.books.length_eq positive closed.nothing) closed.books.entries
  obtain ⟨answer, split⟩ := closed.split
  rw [split]
  apply of_settled covers
  apply KeepsTo.of_last [.write [Wire.endOfTransfer] (.ok ())] []
  rfl

private theorem of_breaksOff
    {tail : List Exchange}
    {error : TransferError}
    (accepted : settings.validate = .ok ())
    (books : Books settings session settled)
    (breaks : BreaksOff settings session.total settled.length tail error) :
    Scheduled settings session.total
      (settledExchanges settings session.total settled ++ tail) := by
  have positive := ((settings.validate_eq_ok_iff).1 accepted).1
  rcases breaks.keepsTo accepted with ⟨delivery, settles, keeps⟩ | ⟨covered, keeps⟩
  · have entries := forall_index_concat books.entries settles
    have inside := (lt_packetCount_iff positive).2 settles.framed.index_mul_lt
    obtain ⟨missing, count⟩ := Nat.exists_eq_add_of_lt inside
    obtain ⟨later, covers⟩ := exists_covers accepted missing entries (by
      rw [List.length_append, List.length_singleton]
      omega)
    rw [List.append_assoc] at covers
    apply of_settled covers
    rw [List.flatMap_append, List.flatMap_singleton, List.append_assoc]
    exact keeps.append_right _
  · have nothing : session.remaining = 0 := by
      rw [books.remaining]
      omega
    have covers : Covers settings session.total (settled ++ []) := by
      rw [List.append_nil]
      exact .of_entries (books.length_eq positive nothing) books.entries
    exact of_settled covers keeps

/-- A transfer that does not begin keeps to the schedule of an empty file. -/
theorem of_uncounted
    (unbegun : exchanges = [] ∨ ∃ fault, exchanges = [.size (.error fault)]) :
    Scheduled settings 0 exchanges := by
  have covers : Covers settings 0 [] := by
    refine .of_entries ?_ (by simp)
    rw [List.length_nil, Nat.zero_add]
    by_cases positive : 0 < settings.chunkLimit
    · exact (Nat.div_eq_of_lt (by omega)).symm
    · rw [Nat.eq_zero_of_not_pos positive]
  rcases unbegun with rfl | ⟨fault, rfl⟩
  · refine ⟨by simp, [], covers, .of_front List.nil_prefix⟩
  · refine ⟨by simp, [], covers, ?_⟩
    apply KeepsTo.of_last []
    rfl

end Scheduled

/-- Every transfer keeps to the schedule of one that would have got all packets across, whatever the
devices answer and wherever it stops. -/
theorem exists_scheduled
    (settings : Settings)
    (file : FileSource φ)
    (port : SerialPort π)
    (devices : Devices φ π) :
    ∃ total, Scheduled settings total (send settings file port devices).exchanges := by
  cases ending : (send settings file port devices).ending with
  | completed report =>
      obtain ⟨session, settled, -, closed⟩ := closed_of_completed ending
      exact ⟨session.total, .of_closed closed⟩
  | failed error =>
      cases counted : error.bytesSent? with
      | none => exact ⟨0, .of_uncounted (exchanges_of_uncounted ending counted)⟩
      | some count =>
          obtain ⟨session, settled, tail, accepted, -, -, books, split, breaks⟩ :=
            breaksOff_of_counted ending counted
          rw [split]
          exact ⟨session.total, .of_breaksOff accepted books breaks⟩

end KermitSend

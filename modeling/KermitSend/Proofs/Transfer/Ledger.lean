import Mathlib.Algebra.Ring.Nat
import Mathlib.Data.List.Basic
import KermitSend.Proofs.Transfer.Conversation
import KermitSend.Proofs.Transfer.Delivery

/-!
Contract: the ledger that every conversation of a transfer can be read as.

After the size of the file comes one settled delivery for each acknowledged packet, and then
what the present phase has done for the next packet or for the end of the transfer.

Owns:
- what the counters say of the settled deliveries;
- what each phase has done since the last settled delivery;
- the law that all conversations are recorded in this way.

Does not own: what a finished transfer achieves.
-/

set_option autoImplicit false

namespace KermitSend

/-- The counters of a session agree with the deliveries settled so far. -/
structure Books (settings : Settings) (session : Session) (settled : List Delivery) : Prop where
  packets : session.packets = settled.length
  bytesSent : session.bytesSent = min session.total (settled.length * settings.chunkLimit)
  remaining : session.remaining = session.total - settled.length * settings.chunkLimit
  carried : (settled.flatMap Delivery.chunk).length = session.bytesSent
  sequence : session.sequence = sequenceAt settled.length
  retransmits : session.retransmits =
    (settled.map Delivery.retransmits).sum + session.retries.toNat
  entries : ∀ index (delivery : Delivery), settled[index]? = some delivery →
    delivery.Settled settings session.total index

theorem Delivery.settled_tail
    {settings : Settings}
    {total first : Nat}
    {delivery : Delivery}
    {settled : List Delivery}
    (entries : ∀ index (entry : Delivery), (delivery :: settled)[index]? = some entry →
      entry.Settled settings total (first + index)) :
    ∀ index (entry : Delivery), settled[index]? = some entry →
      entry.Settled settings total (first + 1 + index) := by
  intro index entry found
  have later := entries (index + 1) entry found
  rwa [← Nat.add_assoc, Nat.add_right_comm] at later

theorem Books.entries_from_zero
    {settings : Settings}
    {session : Session}
    {settled : List Delivery}
    (books : Books settings session settled) :
    ∀ index (delivery : Delivery), settled[index]? = some delivery →
      delivery.Settled settings session.total (0 + index) := by
  intro index delivery found
  rw [Nat.zero_add]
  exact books.entries index delivery found

/-- A chunk is being read: the front of the buffer is what the reads have gathered. -/
structure Filling
    (settings : Settings)
    (machine : Machine)
    (filled : Nat)
    (reads : List FileRead) : Prop where
  fresh : machine.session.retries = 0
  room : machine.buffer.length = settings.chunkLimit
  within : filled ≤ machine.wanted settings
  gathered : Gathers (machine.wanted settings) reads (machine.buffer.take filled)

/-- A packet is in flight: the machine holds the chunk and the frame of the delivery. -/
structure Flying
    (settings : Settings)
    (index : Nat)
    (machine : Machine)
    (delivery : Delivery) : Prop where
  framed : delivery.Framed settings machine.session.total index
  chunkLength : machine.chunkLength = delivery.chunk.length
  frame : machine.frame = delivery.frame
  room : machine.buffer.length = settings.chunkLimit
  kept : machine.buffer.take machine.chunkLength = delivery.chunk

/-- What the present phase has done since the last settled delivery. -/
def Standing
    (settings : Settings)
    (index : Nat)
    (machine : Machine)
    (pending : List Exchange) : Prop :=
  match machine.phase with
  | .idle => False
  | .chunking filled => ∃ reads,
      Filling settings machine filled reads ∧ pending = reads.map Exchange.ofFileRead
  | .sending => ∃ delivery : Delivery,
      Flying settings index machine delivery ∧ delivery.Unanswered index ∧
        delivery.replies.length = machine.session.retries.toNat ∧
          machine.session.retries < settings.retryLimit ∧
            pending = delivery.exchanges settings
  | .receiving => ∃ delivery : Delivery,
      Flying settings index machine delivery ∧ delivery.Unanswered index ∧
        delivery.replies.length = machine.session.retries.toNat ∧
          machine.session.retries < settings.retryLimit ∧
            pending = delivery.exchanges settings ++ [.write delivery.frame (.ok ())]
  | .advance => ∃ delivery : Delivery,
      Flying settings index machine delivery ∧
        delivery.Settled settings machine.session.total index ∧
          delivery.replies.length = machine.session.retries.toNat + 1 ∧
            pending = delivery.exchanges settings
  | .retry => ∃ delivery : Delivery,
      Flying settings index machine delivery ∧ delivery.Unanswered index ∧
        delivery.replies.length = machine.session.retries.toNat + 1 ∧
          machine.session.retries < settings.retryLimit ∧
            pending = delivery.exchanges settings
  | .finishing =>
      machine.session.remaining = 0 ∧ machine.session.retries = 0 ∧ pending = []
  | .closing =>
      machine.session.remaining = 0 ∧ machine.session.retries = 0 ∧
        pending = [.write [Wire.endOfTransfer] (.ok ())]

/-- The exchanges of a transfer of `total` bytes up to the last settled delivery. -/
def settledExchanges
    (settings : Settings)
    (total : Nat)
    (settled : List Delivery) :
    List Exchange :=
  .size (.ok total) :: settled.flatMap (Delivery.exchanges settings)

/-- A history is recorded: nothing has happened yet, or the size is known and the history is
that of the settled deliveries with what is pending. -/
inductive Recorded (settings : Settings) : List Exchange → Machine → Prop where
  | begun : Recorded settings [] Machine.initial
  | underway {machine settled pending}
      (accepted : settings.validate = .ok ())
      (books : Books settings machine.session settled)
      (standing : Standing settings settled.length machine pending) :
      Recorded settings (settledExchanges settings machine.session.total settled ++ pending) machine

private theorem Recorded.of_parts
    {settings : Settings}
    {history pending : List Exchange}
    {machine : Machine}
    {settled : List Delivery}
    (accepted : settings.validate = .ok ())
    (books : Books settings machine.session settled)
    (standing : Standing settings settled.length machine pending)
    (split : history = settledExchanges settings machine.session.total settled ++ pending) :
    Recorded settings history machine :=
  split ▸ .underway accepted books standing

theorem Recorded.elim
    {settings : Settings}
    {history : List Exchange}
    {machine : Machine}
    (recorded : Recorded settings history machine)
    (started : machine.phase ≠ .idle) :
    ∃ settled pending,
      settings.validate = .ok () ∧ Books settings machine.session settled ∧
        Standing settings settled.length machine pending ∧
          history = settledExchanges settings machine.session.total settled ++ pending := by
  cases recorded with
  | begun => exact absurd rfl started
  | @underway _ settled pending accepted books standing =>
      exact ⟨settled, pending, accepted, books, standing, rfl⟩

theorem Recorded.history_eq_nil
    {settings : Settings}
    {history : List Exchange}
    {machine : Machine}
    (recorded : Recorded settings history machine)
    (idle : machine.phase = .idle) :
    history = [] := by
  cases recorded with
  | begun => rfl
  | underway _ _ standing => simp [Standing, idle] at standing

section Moves

variable
  {settings : Settings}
  {machine : Machine}
  {settled : List Delivery}
  {pending : List Exchange}

theorem Books.wanted_eq (books : Books settings machine.session settled) :
    machine.wanted settings = pieceLength settings machine.session.total settled.length := by
  rw [Machine.wanted, pieceLength, books.remaining]

/-- A front of the buffer that is wanted is all there. -/
theorem Filling.length_take
    {filled : Nat}
    {reads : List FileRead}
    (filling : Filling settings machine filled reads) :
    (machine.buffer.take filled).length = filled := by
  have within := filling.within
  have room := filling.room
  rw [List.length_take]
  simp only [Machine.wanted] at within
  omega

private theorem Flying.congr
    {index : Nat}
    {changed : Machine}
    {delivery : Delivery}
    (flying : Flying settings index machine delivery)
    (total : changed.session.total = machine.session.total)
    (chunkLength : changed.chunkLength = machine.chunkLength)
    (frame : changed.frame = machine.frame)
    (buffer : changed.buffer = machine.buffer) :
    Flying settings index changed delivery where
  framed := by
    rw [total]
    exact flying.framed
  chunkLength := chunkLength.trans flying.chunkLength
  frame := frame.trans flying.frame
  room := by
    rw [buffer]
    exact flying.room
  kept := by
    rw [buffer, chunkLength]
    exact flying.kept

private theorem Flying.answered
    {index : Nat}
    {delivery : Delivery}
    (flying : Flying settings index machine delivery)
    (answer : Except Fault (List UInt8)) :
    Flying settings index machine (delivery.answered answer) :=
  ⟨flying.framed.answered answer, flying.chunkLength, flying.frame, flying.room, flying.kept⟩

private theorem Books.congr
    {session changed : Session}
    (books : Books settings session settled)
    (total : changed.total = session.total)
    (packets : changed.packets = session.packets)
    (bytesSent : changed.bytesSent = session.bytesSent)
    (remaining : changed.remaining = session.remaining)
    (sequence : changed.sequence = session.sequence)
    (retransmits : changed.retransmits =
      (settled.map Delivery.retransmits).sum + changed.retries.toNat) :
    Books settings changed settled where
  packets := packets.trans books.packets
  bytesSent := by rw [bytesSent, total, books.bytesSent]
  remaining := by rw [remaining, total, books.remaining]
  carried := books.carried.trans bytesSent.symm
  sequence := sequence.trans books.sequence
  retransmits := retransmits
  entries := by
    rw [total]
    exact books.entries

private theorem Books.start (settings : Settings) (total : Nat) :
    Books settings (.start total) [] where
  packets := rfl
  bytesSent := by simp [Session.start, Session.empty]
  remaining := by simp [Session.start]
  carried := rfl
  sequence := rfl
  retransmits := rfl
  entries := by simp

private theorem Books.advance
    {session : Session}
    {delivery : Delivery}
    (books : Books settings session settled)
    (settles : delivery.Settled settings session.total settled.length)
    (tries : delivery.replies.length = session.retries.toNat + 1) :
    Books settings (session.advance delivery.chunk.length) (settled ++ [delivery]) where
  packets := by simp [Session.advance, books.packets]
  bytesSent := by
    have sent := books.bytesSent
    have whole := settles.framed.whole
    have next := Nat.add_one_mul settled.length settings.chunkLimit
    simp only [Session.advance, List.length_append, List.length_singleton, pieceLength] at whole ⊢
    omega
  remaining := by
    have left := books.remaining
    have whole := settles.framed.whole
    have next := Nat.add_one_mul settled.length settings.chunkLimit
    simp only [Session.advance, List.length_append, List.length_singleton, pieceLength] at whole ⊢
    omega
  carried := by
    simp only [Session.advance, List.flatMap_append, List.flatMap_singleton,
      List.length_append, books.carried]
  sequence := by
    simp only [Session.advance, List.length_append, List.length_singleton, books.sequence]
    exact sequenceAt_succ settled.length
  retransmits := by
    have counted := books.retransmits
    simp only [Session.advance, List.map_append, List.sum_append, List.map_singleton,
      List.sum_singleton, Delivery.retransmits, UInt8.toNat_zero]
    omega
  entries := forall_index_concat books.entries settles

private theorem Standing.begun
    (index : Nat)
    (phase : machine.phase = .chunking 0)
    (fresh : machine.session.retries = 0)
    (room : machine.buffer.length = settings.chunkLimit) :
    Standing settings index machine [] := by
  simp only [Standing, phase]
  exact ⟨[], ⟨fresh, room, Nat.zero_le _, .none⟩, rfl⟩

private theorem Standing.interrupted
    {filled : Nat}
    {fault : Fault}
    (phase : machine.phase = .chunking filled)
    (incomplete : filled < machine.wanted settings)
    (kind : fault.kind = .interrupted)
    (standing : Standing settings settled.length machine pending) :
    Standing settings settled.length machine
      (pending ++ [.fileRead (machine.wanted settings - filled) (.error fault)]) := by
  simp only [Standing, phase] at standing ⊢
  obtain ⟨reads, filling, rfl⟩ := standing
  have length := filling.length_take
  have gathered := filling.gathered.interrupted (by rw [length]; exact incomplete) kind
  rw [length] at gathered
  refine ⟨_, ⟨filling.fresh, filling.room, filling.within, gathered⟩, ?_⟩
  rw [List.map_append]
  rfl

private theorem Standing.stored
    {filled : Nat}
    {bytes : List UInt8}
    (phase : machine.phase = .chunking filled)
    (incomplete : filled < machine.wanted settings)
    (nonempty : bytes ≠ [])
    (fits : bytes.length ≤ machine.wanted settings - filled)
    (standing : Standing settings settled.length machine pending) :
    Standing settings settled.length
      { machine with
        phase := .chunking (filled + bytes.length)
        buffer := overwrite machine.buffer filled bytes }
      (pending ++ [.fileRead (machine.wanted settings - filled) (.ok bytes)]) := by
  simp only [Standing, phase] at standing ⊢
  obtain ⟨reads, filling, rfl⟩ := standing
  have length := filling.length_take
  have gathered := filling.gathered.stored (by rw [length]; exact incomplete) nonempty
    (by rw [length]; exact fits)
  rw [length] at gathered
  have inside : filled + bytes.length ≤ machine.buffer.length := by
    have room := filling.room
    simp only [Machine.wanted] at fits incomplete
    omega
  refine ⟨reads ++ [(machine.wanted settings - filled, .ok bytes)],
    ⟨filling.fresh, ?_, ?_, ?_⟩, ?_⟩
  · exact (length_overwrite inside).trans filling.room
  · show filled + bytes.length ≤ machine.wanted settings
    omega
  · rw [take_overwrite inside]
    exact gathered
  · rw [List.map_append]
    rfl

/-- With nothing left to send nothing has been read, and the transfer finishes. -/
private theorem Standing.finished
    {filled : Nat}
    (phase : machine.phase = .chunking filled)
    (nothing : machine.session.remaining = 0)
    (standing : Standing settings settled.length machine pending) :
    Standing settings settled.length { machine with phase := .finishing } pending := by
  simp only [Standing, phase] at standing ⊢
  obtain ⟨reads, filling, rfl⟩ := standing
  have gathered := filling.gathered
  rw [Machine.wanted, nothing, Nat.zero_min] at gathered
  obtain ⟨rfl, _⟩ := gathered.of_zero
  exact ⟨nothing, filling.fresh, rfl⟩

private theorem Standing.fresh
    {filled : Nat}
    (phase : machine.phase = .chunking filled)
    (standing : Standing settings settled.length machine pending) :
    machine.session.retries = 0 := by
  simp only [Standing, phase] at standing
  obtain ⟨_, filling, _⟩ := standing
  exact filling.fresh

/-- A chunk that is complete is framed, with all attempts ahead. -/
private theorem Standing.framed
    {filled : Nat}
    {frame : List UInt8}
    (accepted : settings.validate = .ok ())
    (books : Books settings machine.session settled)
    (phase : machine.phase = .chunking filled)
    (something : machine.session.remaining ≠ 0)
    (complete : machine.wanted settings ≤ filled)
    (encoded : Packet.encode settings.mode
      (machine.buffer.take (machine.wanted settings)) machine.session.sequence = .ok frame)
    (standing : Standing settings settled.length machine pending) :
    Standing settings settled.length
      { machine with
        phase := .sending
        session := { machine.session with retries := 0 }
        chunkLength := machine.wanted settings
        frame }
      pending := by
  simp only [Standing, phase] at standing ⊢
  obtain ⟨reads, filling, rfl⟩ := standing
  obtain ⟨chunkPositive, _, retryPositive, _⟩ := (settings.validate_eq_ok_iff).1 accepted
  have length := filling.length_take
  have exact : filled = machine.wanted settings := Nat.le_antisymm filling.within complete
  subst exact
  have gathered := filling.gathered
  rw [books.wanted_eq] at gathered length encoded ⊢
  have positive :
      0 < pieceLength settings machine.session.total settled.length := by
    rw [← books.wanted_eq, Machine.wanted]
    omega
  refine ⟨⟨reads, machine.buffer.take _, frame, []⟩,
    ⟨⟨gathered, length, ?_, ?_⟩, ?_, rfl, filling.room, rfl⟩, ⟨?_, ?_⟩, rfl, ?_, ?_⟩
  · intro empty
    have none := congrArg List.length empty
    exact absurd (length.symm.trans none) (Nat.ne_of_gt positive)
  · rw [← books.sequence]
    exact encoded
  · exact length.symm
  · simp
  · simp
  · exact UInt8.lt_iff_toNat_lt.2 retryPositive
  · simp [Delivery.exchanges, Delivery.attempts]

private theorem Standing.sent
    (phase : machine.phase = .sending)
    (standing : Standing settings settled.length machine pending) :
    Standing settings settled.length { machine with phase := .receiving }
      (pending ++ [.write machine.frame (.ok ())]) := by
  simp only [Standing, phase] at standing ⊢
  obtain ⟨delivery, flying, unanswered, tries, left, rfl⟩ := standing
  refine ⟨delivery, flying.congr rfl rfl rfl rfl, unanswered, tries, left, ?_⟩
  rw [flying.frame]

private theorem exchanges_received
    (delivery : Delivery)
    (answer : Except Fault (List UInt8)) :
    delivery.exchanges settings ++ [.write delivery.frame (.ok ())] ++
        [.receive Wire.replyLength settings.replyTimeout answer] =
      (delivery.answered answer).exchanges settings := by
  rw [delivery.exchanges_answered, List.append_assoc]
  rfl

private theorem Standing.acknowledged
    {answer : Except Fault (List UInt8)}
    (books : Books settings machine.session settled)
    (phase : machine.phase = .receiving)
    (forgiven : Forgiven answer)
    (good : acknowledges machine.session.sequence answer = true)
    (standing : Standing settings settled.length machine pending) :
    Standing settings settled.length { machine with phase := .advance }
      (pending ++ [.receive Wire.replyLength settings.replyTimeout answer]) := by
  simp only [Standing, phase] at standing ⊢
  obtain ⟨delivery, flying, unanswered, tries, left, rfl⟩ := standing
  have allowed := UInt8.lt_iff_toNat_lt.1 left
  have length : (delivery.answered answer).replies.length =
      machine.session.retries.toNat + 1 := by
    rw [Delivery.answered, List.length_append, tries]
    rfl
  have settles : (delivery.answered answer).Settled settings machine.session.total
      settled.length := by
    apply unanswered.settled_answered flying.framed (by omega) forgiven
    exact books.sequence ▸ good
  have answered := flying.answered answer
  exact ⟨_, answered.congr rfl rfl rfl rfl, settles, length, exchanges_received delivery answer⟩

private theorem Standing.refused
    {answer : Except Fault (List UInt8)}
    (books : Books settings machine.session settled)
    (phase : machine.phase = .receiving)
    (forgiven : Forgiven answer)
    (bad : acknowledges machine.session.sequence answer = false)
    (standing : Standing settings settled.length machine pending) :
    Standing settings settled.length { machine with phase := .retry }
      (pending ++ [.receive Wire.replyLength settings.replyTimeout answer]) := by
  simp only [Standing, phase] at standing ⊢
  obtain ⟨delivery, flying, unanswered, tries, left, rfl⟩ := standing
  have length : (delivery.answered answer).replies.length =
      machine.session.retries.toNat + 1 := by
    rw [Delivery.answered, List.length_append, tries]
    rfl
  have stillUnanswered : (delivery.answered answer).Unanswered settled.length := by
    rw [books.sequence] at bad
    exact ⟨Delivery.forall_answered unanswered.forgiven forgiven,
      Delivery.forall_answered unanswered.refused bad⟩
  have answered := flying.answered answer
  exact ⟨_, answered.congr rfl rfl rfl rfl, stillUnanswered, length, left,
    exchanges_received delivery answer⟩

/-- In every phase the packet in flight has an attempt left. -/
theorem Standing.retries_lt
    (accepted : settings.validate = .ok ())
    (standing : Standing settings settled.length machine pending) :
    machine.session.retries < settings.retryLimit := by
  have positive := ((settings.validate_eq_ok_iff).1 accepted).2.2.1
  have fresh : machine.session.retries = 0 → machine.session.retries < settings.retryLimit := by
    intro none
    rw [none]
    exact UInt8.lt_iff_toNat_lt.2 positive
  unfold Standing at standing
  split at standing
  · exact standing.elim
  · obtain ⟨_, filling, -⟩ := standing
    exact fresh filling.fresh
  · obtain ⟨_, -, -, -, left, -⟩ := standing
    exact left
  · obtain ⟨_, -, -, -, left, -⟩ := standing
    exact left
  · obtain ⟨_, -, settles, tries, -⟩ := standing
    have allowed := settles.allowed
    rw [UInt8.lt_iff_toNat_lt]
    omega
  · obtain ⟨_, -, -, -, left, -⟩ := standing
    exact left
  · exact fresh standing.2.1
  · exact fresh standing.2.1

private theorem Standing.retried
    (phase : machine.phase = .retry)
    (another : machine.session.retries + 1 < settings.retryLimit)
    (raised : (machine.session.retries + 1).toNat = machine.session.retries.toNat + 1)
    (standing : Standing settings settled.length machine pending) :
    Standing settings settled.length
      { machine with
        phase := .sending
        session := { machine.session with
          retries := machine.session.retries + 1
          retransmits := machine.session.retransmits + 1 } }
      pending := by
  simp only [Standing, phase] at standing ⊢
  obtain ⟨delivery, flying, unanswered, tries, left, rfl⟩ := standing
  exact ⟨delivery, flying.congr rfl rfl rfl rfl, unanswered, tries.trans raised.symm, another,
    rfl⟩

private theorem Standing.ended
    (phase : machine.phase = .finishing)
    (standing : Standing settings settled.length machine pending) :
    Standing settings settled.length { machine with phase := .closing }
      (pending ++ [.write [Wire.endOfTransfer] (.ok ())]) := by
  simp only [Standing, phase] at standing ⊢
  obtain ⟨nothing, fresh, rfl⟩ := standing
  exact ⟨nothing, fresh, rfl⟩

private theorem Recorded.opened
    (accepted : settings.validate = .ok ())
    (machine : Machine)
    (total : Nat) :
    Recorded settings [.size (.ok total)]
      { machine with
        phase := .chunking 0
        session := .start total
        buffer := List.replicate settings.chunkLimit 0 } := by
  exact .of_parts accepted (.start settings total)
    (.begun 0 rfl rfl List.length_replicate) rfl

private theorem Recorded.advanced
    (accepted : settings.validate = .ok ())
    (books : Books settings machine.session settled)
    (phase : machine.phase = .advance)
    (standing : Standing settings settled.length machine pending) :
    Recorded settings (settledExchanges settings machine.session.total settled ++ pending)
      { machine with
        phase := .chunking 0
        session := machine.session.advance machine.chunkLength } := by
  simp only [Standing, phase] at standing
  obtain ⟨delivery, flying, settles, tries, rfl⟩ := standing
  have entered := books.advance settles tries
  rw [← flying.chunkLength] at entered
  refine .of_parts accepted entered (.begun _ rfl rfl flying.room) ?_
  simp [settledExchanges, Session.advance]

private theorem Books.retried
    (books : Books settings machine.session settled)
    (raised : (machine.session.retries + 1).toNat = machine.session.retries.toNat + 1) :
    Books settings
      { machine.session with
        retries := machine.session.retries + 1
        retransmits := machine.session.retransmits + 1 }
      settled := by
  refine books.congr rfl rfl rfl rfl rfl ?_
  have counted := books.retransmits
  simp only [raised]
  omega

end Moves

/-- An attempt counter that stays below its limit does not wrap. -/
theorem toNat_succ_of_lt
    {count limit : UInt8}
    (below : count < limit) :
    (count + 1).toNat = count.toNat + 1 := by
  have small := limit.toNat_lt
  have order := UInt8.lt_iff_toNat_lt.1 below
  rw [UInt8.toNat_add, UInt8.toNat_one]
  omega

/-- What is recorded stays recorded over every move. -/
theorem Recorded.continued
    {settings : Settings}
    {history exchanges : List Exchange}
    {machine next : Machine}
    (recorded : Recorded settings history machine)
    (move : machine.Moves settings exchanges next) :
    Recorded settings (history ++ exchanges) next := by
  by_cases idle : machine.phase = .idle
  · -- only the opening leaves the idle phase, and only a transfer not yet begun is in it
    cases recorded with
    | begun =>
        cases move with
        | opened _ accepted => exact .opened accepted Machine.initial _
        | _ => simp_all
    | underway accepted books standing => simp [Standing, idle] at standing
  · obtain ⟨settled, pending, accepted, books, standing, rfl⟩ := recorded.elim idle
    rw [List.append_assoc]
    cases move with
    | opened phase _ => exact absurd phase idle
    | interrupted phase incomplete kind =>
        exact .of_parts accepted books (standing.interrupted phase incomplete kind) rfl
    | stored phase incomplete nonempty fits =>
        exact .of_parts accepted books (standing.stored phase incomplete nonempty fits) rfl
    | finished phase nothing =>
        rw [List.append_nil]
        exact .of_parts accepted books (standing.finished phase nothing) rfl
    | framed phase something complete encoded =>
        rw [List.append_nil]
        have fresh := standing.fresh phase
        refine .of_parts accepted ?_
          (standing.framed accepted books phase something complete encoded) rfl
        refine books.congr rfl rfl rfl rfl rfl ?_
        rw [← fresh]
        exact books.retransmits
    | sent phase => exact .of_parts accepted books (standing.sent phase) rfl
    | acknowledged phase forgiven good =>
        exact .of_parts accepted books (standing.acknowledged books phase forgiven good) rfl
    | refused phase forgiven bad =>
        exact .of_parts accepted books (standing.refused books phase forgiven bad) rfl
    | advanced phase =>
        rw [List.append_nil]
        exact .advanced accepted books phase standing
    | retried phase another =>
        have raised := toNat_succ_of_lt (standing.retries_lt accepted)
        rw [List.append_nil]
        exact .of_parts accepted (books.retried raised) (standing.retried phase another raised) rfl
    | ended phase =>
        exact .of_parts accepted books (standing.ended phase) rfl

theorem Conversation.recorded
    {settings : Settings}
    {history : List Exchange}
    {machine : Machine}
    (conversation : Conversation settings history machine) :
    Recorded settings history machine := by
  induction conversation with
  | begun => exact .begun
  | continued _ move inductionHypothesis => exact inductionHypothesis.continued move

/-! ## The parts of the settled exchanges -/

theorem traffic_settledExchanges
    (settings : Settings)
    (total : Nat)
    (settled : List Delivery) :
    traffic (settledExchanges settings total settled) =
      settled.flatMap (Delivery.attempts settings) := by
  rw [settledExchanges, traffic, List.filter_cons_of_neg (by simp [Exchange.onLine]),
    List.filter_flatMap]
  exact List.flatMap_congr fun delivery _ => delivery.traffic_exchanges settings

theorem written_settledExchanges
    (settings : Settings)
    (total : Nat)
    (settled : List Delivery) :
    written (settledExchanges settings total settled) = settled.flatMap Delivery.copies := by
  rw [settledExchanges, written, List.filterMap_cons_none rfl, List.filterMap_flatMap]
  exact List.flatMap_congr fun delivery _ => delivery.written_exchanges settings

theorem Books.served_settledExchanges
    {settings : Settings}
    {session : Session}
    {settled : List Delivery}
    (books : Books settings session settled) :
    served (settledExchanges settings session.total settled) =
      settled.flatMap Delivery.chunk := by
  rw [settledExchanges, served, List.flatMap_cons, List.flatMap_assoc]
  refine (List.nil_append _).trans (List.flatMap_congr fun delivery member => ?_)
  obtain ⟨index, found⟩ := List.getElem?_of_mem member
  exact (books.entries index delivery found).framed.served_exchanges

end KermitSend

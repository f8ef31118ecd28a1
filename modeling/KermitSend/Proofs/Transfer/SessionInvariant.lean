import Mathlib.Algebra.Order.BigOperators.Group.List
import Mathlib.Algebra.Order.Ring.Nat
import Mathlib.Data.List.Permutation
import KermitSend.Proofs.Transfer.Exactness
import KermitSend.Proofs.Transfer.Reached

/-!
Contract: what holds of every state between two steps of a transfer.

Owns:
- the counters against each other and against the settings;
- how much of the file has been taken, and for a packet in flight the chunk, its place in the
  file and its frame;
- the law that all of this holds after every step.

Does not own: what the settled deliveries look like.
-/

set_option autoImplicit false

namespace KermitSend

variable {φ π : Type}

/-- The counters of a transfer of `total` bytes agree with one another and with the settings. -/
structure Balanced (settings : Settings) (total : Nat) (machine : Machine) : Prop where
  announced : machine.session.total = total
  accounted : machine.session.bytesSent + machine.session.remaining = total
  bytesSent : machine.session.bytesSent = min total (machine.session.packets * settings.chunkLimit)
  sequence : machine.session.sequence.toNat = machine.session.packets % 128
  retries : machine.session.retries < settings.retryLimit
  retransmits : machine.session.retransmits ≤
    machine.session.packets * (settings.retryLimit.toNat - 1) + machine.session.retries.toNat
  room : machine.buffer.length = settings.chunkLimit

/-- Exactly the first `count` bytes of a content have been taken. -/
structure Taken (content unread : List UInt8) (count : Nat) : Prop where
  enough : count ≤ content.length
  unread : unread = content.drop count

/-- No packet is in flight: the file has been taken as far as it is acknowledged. -/
structure AtRest (content unread : List UInt8) (machine : Machine) : Prop where
  fresh : machine.session.retries = 0
  taken : Taken content unread machine.session.bytesSent

/-- A packet is in flight: the file has been taken up to the end of its chunk, and the frame is
built around the bytes of the file that come after the acknowledged ones. -/
structure InFlight
    (settings : Settings)
    (content unread : List UInt8)
    (machine : Machine) : Prop where
  something : 0 < machine.session.remaining
  chunkLength : machine.chunkLength = min machine.session.remaining settings.chunkLimit
  nonempty : 1 ≤ machine.chunkLength
  taken : Taken content unread (machine.session.bytesSent + machine.chunkLength)
  kept : machine.buffer.take machine.chunkLength =
    (content.drop machine.session.bytesSent).take machine.chunkLength
  framed : Packet.encode settings.mode
    ((content.drop machine.session.bytesSent).take machine.chunkLength)
      machine.session.sequence = .ok machine.frame

/-- What a stage asks of the file and of the packet. -/
def Placed
    (settings : Settings)
    (content unread : List UInt8)
    (machine : Machine) : Prop :=
  match machine.phase.stage with
  | .idle => False
  | .chunking => AtRest content unread machine
  | .awaitAck | .advance | .retry => InFlight settings content unread machine
  | .finish => AtRest content unread machine ∧ machine.session.remaining = 0

/-! ## The counters -/

section Counters

variable
  {settings : Settings}
  {machine : Machine}
  {settled : List Delivery}
  {pending : List Exchange}

private theorem Books.retransmits_le
    {session : Session}
    (books : Books settings session settled) :
    session.retransmits ≤
      session.packets * (settings.retryLimit.toNat - 1) + session.retries.toNat := by
  have each : ∀ count ∈ settled.map Delivery.retransmits,
      count ≤ settings.retryLimit.toNat - 1 := by
    intro count member
    obtain ⟨delivery, among, rfl⟩ := List.mem_map.1 member
    obtain ⟨index, found⟩ := List.getElem?_of_mem among
    have allowed := (books.entries index delivery found).allowed
    exact Nat.sub_le_sub_right allowed 1
  have all : (settled.map Delivery.retransmits).sum ≤
      (settled.map Delivery.retransmits).length * (settings.retryLimit.toNat - 1) :=
    List.sum_le_card_nsmul _ _ each
  rw [List.length_map] at all
  rw [books.retransmits, books.packets]
  omega

theorem Books.balanced
    (accepted : settings.validate = .ok ())
    (books : Books settings machine.session settled)
    (standing : Standing settings settled.length machine pending)
    (room : machine.buffer.length = settings.chunkLimit) :
    Balanced settings machine.session.total machine where
  announced := rfl
  accounted := by
    have bytesSent := books.bytesSent
    have remaining := books.remaining
    omega
  bytesSent := by
    rw [books.packets]
    exact books.bytesSent
  sequence := by
    rw [books.sequence, books.packets]
    exact toNat_sequenceAt settled.length
  retries := standing.retries_lt accepted
  retransmits := books.retransmits_le
  room := room

/-! ## The file -/

private theorem Taken.of_append
    {front unread : List UInt8}
    {count : Nat}
    (length : front.length = count) :
    Taken (front ++ unread) unread count where
  enough := by
    rw [List.length_append]
    omega
  unread := by
    rw [← length]
    exact (List.drop_left).symm

variable {content unread : List UInt8}

theorem Books.atRest
    (books : Books settings machine.session settled)
    (fresh : machine.session.retries = 0)
    (served : content = settled.flatMap Delivery.chunk ++ unread) :
    AtRest content unread machine where
  fresh := fresh
  taken := by
    rw [served]
    exact .of_append books.carried

theorem Books.inFlight
    (books : Books settings machine.session settled)
    {delivery : Delivery}
    (flying : Flying settings settled.length machine delivery)
    (served : content = settled.flatMap Delivery.chunk ++ delivery.chunk ++ unread) :
    InFlight settings content unread machine := by
  have chunkLength : machine.chunkLength =
      min machine.session.remaining settings.chunkLimit := by
    rw [flying.chunkLength, flying.framed.whole, ← books.wanted_eq]
    rfl
  have nonempty : 1 ≤ machine.chunkLength := by
    rw [flying.chunkLength]
    exact List.length_pos_iff.2 flying.framed.nonempty
  have taken : Taken content unread (machine.session.bytesSent + machine.chunkLength) := by
    rw [served]
    apply Taken.of_append
    rw [List.length_append, books.carried, flying.chunkLength]
  have slice : (content.drop machine.session.bytesSent).take machine.chunkLength =
      delivery.chunk := by
    rw [served, List.append_assoc, ← books.carried, List.drop_left, flying.chunkLength,
      List.take_left]
  refine ⟨by omega, chunkLength, nonempty, taken, ?_, ?_⟩
  · rw [slice]
    exact flying.kept
  · rw [slice, books.sequence, flying.frame]
    exact flying.framed.encoded

/-- What is pending at the opening of a stage says where the file stands. -/
theorem Books.placed
    (books : Books settings machine.session settled)
    (standing : Standing settings settled.length machine pending)
    (opening : machine.phase = machine.phase.stage.opening)
    (taken : content = settled.flatMap Delivery.chunk ++ served pending ++ unread) :
    Placed settings content unread machine := by
  unfold Placed
  unfold Standing at standing
  cases stage : machine.phase.stage with
  | idle =>
      rw [opening, stage] at standing
      exact standing
  | chunking =>
      rw [opening, stage] at standing
      obtain ⟨reads, filling, rfl⟩ := standing
      have nothing := filling.gathered.served_eq
      rw [List.take_zero] at nothing
      rw [nothing, List.append_nil] at taken
      exact books.atRest filling.fresh taken
  | awaitAck =>
      rw [opening, stage] at standing
      obtain ⟨delivery, flying, -, -, -, rfl⟩ := standing
      rw [flying.framed.served_exchanges] at taken
      exact books.inFlight flying taken
  | advance =>
      rw [opening, stage] at standing
      obtain ⟨delivery, flying, -, -, rfl⟩ := standing
      rw [flying.framed.served_exchanges] at taken
      exact books.inFlight flying taken
  | retry =>
      rw [opening, stage] at standing
      obtain ⟨delivery, flying, -, -, -, rfl⟩ := standing
      rw [flying.framed.served_exchanges] at taken
      exact books.inFlight flying taken
  | finish =>
      rw [opening, stage] at standing
      obtain ⟨nothing, fresh, rfl⟩ := standing
      have unserved : served [] = [] := rfl
      rw [unserved, List.append_nil] at taken
      exact ⟨books.atRest fresh taken, nothing⟩

end Counters

/-- After every step but the last, the counters are balanced and the file and the packet in flight
are where the stage asks for them. -/
theorem session_invariant
    {file : FileSource φ}
    {rest : φ → List UInt8}
    (serves : file.Serves rest)
    {settings : Settings}
    {port : SerialPort π}
    {devices now : Devices φ π}
    {history : List Exchange}
    {machine : Machine}
    (reached : Reached settings file port devices history machine now)
    (started : machine.phase ≠ .idle) :
    ∃ total, (file.size devices.file).1 = .ok total ∧
      Balanced settings total machine ∧
        Placed settings (rest devices.file) (rest now.file) machine := by
  obtain ⟨settled, pending, accepted, books, standing, split⟩ :=
    reached.conversation.recorded.elim started
  obtain ⟨_, sent, -⟩ := reached.send_eq
  rw [split, List.append_assoc] at sent
  have taken := reached.content_eq serves
  rw [split, served_append, books.served_settledExchanges] at taken
  have room := reached.conversation.length_buffer started
  exact ⟨machine.session.total, size_eq_total accepted sent,
    books.balanced accepted standing room,
    books.placed standing reached.phase_eq_opening taken⟩

/-- The last byte of three is in flight, after a first packet that took two attempts. -/
def Machine.lastOfThree : Machine :=
  { phase := .sending
    session :=
      { sequence := 1
        remaining := 1
        total := 3
        retries := 0
        bytesSent := 2
        packets := 1
        retransmits := 1 }
    buffer := [3, 2]
    chunkLength := 1
    frame := [0x01, 0x25, 0x21, 0x44, 0x23, 0x43, 0x53, 0x0D] }

theorem session_invariant_lastOfThree :
    ∃ history now,
      Reached .inPairs Scripted.File.device Scripted.Port.device ⟨.threeBytes, .refusesOnce⟩
        history .lastOfThree now ∧
      Machine.lastOfThree.phase ≠ .idle ∧
        ∃ total, (Scripted.File.device.size .threeBytes).1 = .ok total ∧
          Balanced .inPairs total .lastOfThree ∧
            Placed .inPairs [1, 2, 3] now.file.data .lastOfThree := by
  have seventh : ((Machine.initial.steps .inPairs Scripted.File.device Scripted.Port.device 7
      ⟨.threeBytes, .refusesOnce⟩)[6]?.map Step.outcome) = some (.entered .lastOfThree) := by
    cbv
  obtain ⟨step, found, entered⟩ := Option.map_eq_some_iff.1 seventh
  obtain ⟨history, reached⟩ := Reached.begun.of_steps found entered
  have started : Machine.lastOfThree.phase ≠ .idle := by
    decide
  exact ⟨history, step.devices, reached, started,
    session_invariant Scripted.File.serves reached started⟩

end KermitSend

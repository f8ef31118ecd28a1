import KermitSend.Proofs.Transfer.Failure

/-!
Contract: validation asks of settings exactly what a transfer needs.

Owns:
- a run whose first call ends it;
- what framing asks of a chunk and its sequence number;
- the law that a transfer with rejected settings does nothing but report the fault;
- the law that with accepted settings every chunk can be framed, so that neither the settings nor a
  packet is ever the cause of a failure.

Does not own: the bounds of the settings.
-/

set_option autoImplicit false

namespace KermitSend

variable {φ π : Type}

/-! ## A run of one call -/

namespace Machine

variable
  {settings : Settings}
  {file : FileSource φ}
  {port : SerialPort π}
  {machine : Machine}
  {devices : Devices φ π}
  {ending : Ending}

private theorem step_of_stop
    (stops : (machine.call settings file port devices).turn.next = .stop ending) :
    machine.step settings file port devices =
      { origin := machine
        exchanges := (machine.call settings file port devices).exchanges
        notices := (machine.call settings file port devices).turn.notices
        outcome := .stopped ending
        devices := (machine.call settings file port devices).devices } := by
  fun_cases step settings file port machine devices with
  | case1 performed next enters =>
      rw [show (machine.call settings file port devices).turn.next = .enter next from enters]
        at stops
      cases stops
  | case2 performed last ends =>
      rw [show (machine.call settings file port devices).turn.next = .stop last from ends,
        Next.stop.injEq] at stops
      subst stops
      rfl
  | case3 performed next stays rest =>
      rw [show (machine.call settings file port devices).turn.next = .within next from stays]
        at stops
      cases stops

private theorem run_of_stop
    (progressing : machine.Progressing settings)
    (stops : (machine.call settings file port devices).turn.next = .stop ending) :
    machine.run settings file port progressing devices =
      { steps := [machine.step settings file port devices]
        ending
        devices := (machine.call settings file port devices).devices } := by
  have stopped := step_of_stop stops
  rw [run]
  split
  · rename_i last ends
    rw [stopped, Outcome.stopped.injEq] at ends
    subst ends
    rw [stopped]
  · rename_i next ends
    rw [stopped] at ends
    cases ends

end Machine

/-! ## Settings that are rejected -/

/-- With rejected settings a transfer reports the fault, and has asked nothing of its devices. -/
theorem send_of_rejected
    {settings : Settings}
    {fault : SettingsFault}
    (rejected : settings.validate = .error fault)
    (file : FileSource φ)
    (port : SerialPort π)
    (devices : Devices φ π) :
    (send settings file port devices).ending = .failed (.invalidSettings fault) ∧
      (send settings file port devices).exchanges = [] ∧
        (send settings file port devices).devices = devices := by
  have acts : Machine.initial.act settings =
      .settle (Turn.fail (.invalidSettings fault)) := by
    simp only [Machine.act, Machine.initial, Machine.opening, rejected]
  have called : Machine.initial.call settings file port devices =
      ⟨[], Turn.fail (.invalidSettings fault), devices⟩ := by
    rw [Machine.call, acts]
    rfl
  have stops : (Machine.initial.call settings file port devices).turn.next =
      .stop (.failed (.invalidSettings fault)) := by
    rw [called]
    rfl
  rw [send, Machine.run_of_stop _ stops]
  refine ⟨rfl, ?_, ?_⟩
  · rw [Run.exchanges, List.flatMap_singleton, Machine.step_of_stop stops, called]
  · rw [called]

/-! ## Chunks that can be framed -/

/-- Framing asks that the sequence number be one that packets carry, and that the chunk be within
the limit of the form in which the mode sends it. -/
structure Framable (mode : Packet.Mode) (chunk : List UInt8) (sequence : UInt8) : Prop where
  inRange : sequence ≤ Wire.lastSequence
  fits : chunk.length ≤ (Packet.formOf mode chunk).limit

private theorem Framable.exists_frame
    {mode : Packet.Mode}
    {chunk : List UInt8}
    {sequence : UInt8}
    (framable : Framable mode chunk sequence) :
    ∃ frame, Packet.encode mode chunk sequence = .ok frame := by
  rw [Packet.encode_eq_encodeAs, Packet.encodeAs_eq, if_neg (UInt8.not_lt.2 framable.inRange),
    if_neg (Nat.not_lt.2 framable.fits)]
  exact ⟨_, rfl⟩

private theorem sequenceAt_le (index : Nat) : sequenceAt index ≤ Wire.lastSequence := by
  have last : Wire.lastSequence.toNat = 127 := rfl
  rw [UInt8.le_iff_toNat_le, toNat_sequenceAt, last]
  omega

/-- Whenever a chunk is being read, what is wanted of it can be framed. -/
theorem Conversation.framable
    {settings : Settings}
    {history : List Exchange}
    {machine : Machine}
    (conversation : Conversation settings history machine)
    {filled : Nat}
    (phase : machine.phase = .chunking filled) :
    Framable settings.mode (machine.buffer.take (machine.wanted settings))
      machine.session.sequence := by
  have started : machine.phase ≠ .idle := by
    rw [phase]
    simp
  obtain ⟨settled, pending, accepted, books, -, -⟩ := conversation.recorded.elim started
  have limit := ((settings.validate_eq_ok_iff).1 accepted).2.1
  have short : (machine.buffer.take (machine.wanted settings)).length ≤ settings.mode.limit := by
    rw [List.length_take, Machine.wanted]
    omega
  refine ⟨?_, Packet.length_le_limit_formOf short⟩
  rw [books.sequence]
  exact sequenceAt_le settled.length

section Accepted

variable
  {settings : Settings}
  {file : FileSource φ}
  {port : SerialPort π}
  {devices : Devices φ π}

theorem ne_invalidSettings_of_accepted
    (accepted : settings.validate = .ok ())
    (fault : SettingsFault) :
    (send settings file port devices).ending ≠ .failed (.invalidSettings fault) := by
  intro failed
  obtain ⟨history, machine, final, -, stops, -⟩ :=
    exists_conversation_of_send settings file port devices
  rw [failed] at stops
  cases stops with
  | invalid _ rejected =>
      rw [accepted] at rejected
      cases rejected

theorem ne_packet_of_send
    (sequence : UInt8)
    (bytesSent : Nat)
    (error : Packet.Error) :
    (send settings file port devices).ending ≠ .failed (.packet sequence bytesSent error) := by
  intro failed
  obtain ⟨history, machine, final, conversation, stops, -⟩ :=
    exists_conversation_of_send settings file port devices
  rw [failed] at stops
  cases stops with
  | unframed phase _ _ refused =>
      obtain ⟨frame, framed⟩ := (conversation.framable phase).exists_frame
      rw [framed] at refused
      cases refused

end Accepted

/-- Rejected settings are all that a transfer reports, with nothing asked of file or port.  With
accepted settings a transfer fails neither for them nor for a packet: at every point of every
conversation at which a chunk is read, its sequence number and length are within the bounds of the
form in which it will be framed. -/
theorem validation_exact
    (settings : Settings)
    (file : FileSource φ)
    (port : SerialPort π)
    (devices : Devices φ π) :
    (∀ fault, settings.validate = .error fault →
      (send settings file port devices).ending = .failed (.invalidSettings fault) ∧
        (send settings file port devices).exchanges = [] ∧
          (send settings file port devices).devices = devices) ∧
    (settings.validate = .ok () →
      (∀ fault,
        (send settings file port devices).ending ≠ .failed (.invalidSettings fault)) ∧
      (∀ sequence bytesSent error,
        (send settings file port devices).ending ≠ .failed (.packet sequence bytesSent error)) ∧
      ∀ history machine filled, Conversation settings history machine →
        machine.phase = .chunking filled →
          Framable settings.mode (machine.buffer.take (machine.wanted settings))
            machine.session.sequence) := by
  constructor
  · intro fault rejected
    exact send_of_rejected rejected file port devices
  · intro accepted
    refine ⟨?_, ?_, ?_⟩
    · intro fault
      exact ne_invalidSettings_of_accepted accepted fault
    · intro sequence bytesSent error
      exact ne_packet_of_send sequence bytesSent error
    · intro history machine filled conversation phase
      exact conversation.framable phase

/-- One byte more than a short packet carries. -/
def Settings.oversized : Settings :=
  { Settings.inPairs with chunkLimit := 101 }

theorem validation_exact_oversized :
    Settings.oversized.validate = .error (.chunkLimit 101 100 .small) ∧
    (send .oversized Scripted.File.device Scripted.Port.device
      ⟨.threeBytes, .refusesOnce⟩).ending =
        .failed (.invalidSettings (.chunkLimit 101 100 .small)) ∧
    (send .oversized Scripted.File.device Scripted.Port.device
      ⟨.threeBytes, .refusesOnce⟩).exchanges = [] ∧
    Settings.inPairs.validate = .ok () ∧
    ∀ sequence bytesSent error,
      (send .inPairs Scripted.File.device Scripted.Port.device
        ⟨.threeBytes, .refusesOnce⟩).ending ≠ .failed (.packet sequence bytesSent error) := by
  have rejected : Settings.oversized.validate = .error (.chunkLimit 101 100 .small) := by
    decide
  have accepted : Settings.inPairs.validate = .ok () := by
    decide
  obtain ⟨failed, silent, -⟩ := (validation_exact .oversized Scripted.File.device
    Scripted.Port.device ⟨.threeBytes, .refusesOnce⟩).1 _ rejected
  obtain ⟨-, framed, -⟩ := (validation_exact .inPairs Scripted.File.device
    Scripted.Port.device ⟨.threeBytes, .refusesOnce⟩).2 accepted
  exact ⟨rejected, failed, silent, accepted, framed⟩

end KermitSend

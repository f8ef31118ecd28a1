import KermitSend.Proofs.Transfer.Course

/-!
Contract: everything that one call of a transfer can do.

Owns:
- the moves of a transfer: from a state, over a call and its answer, into the next state;
- the stops of a transfer: from a state, over a call and its answer, to the end;
- the law that every call on any devices is one of these;
- which phase asks for which call.

Does not own: which moves follow one another.
-/

set_option autoImplicit false

namespace KermitSend

variable {φ π : Type}

/-- The bytes that an answer of the port leaves in the reply. -/
def heard : Except Fault (List UInt8) → List UInt8
  | .ok bytes => bytes
  | .error _ => []

/-- Whether an answer of the port counts as the acknowledgement of a sequence number. -/
def acknowledges (sequence : UInt8) (answer : Except Fault (List UInt8)) : Bool :=
  ((Reply.ofBytes (heard answer)).judge sequence).isAcknowledged

/-- Whether the sender goes on after an answer of the port: only timeouts are forgiven. -/
def Forgiven (answer : Except Fault (List UInt8)) : Prop :=
  ∀ fault, answer = .error fault → fault.kind = .timedOut

namespace Machine

/-- The moves of a transfer, one constructor for each way in which a call can go well. -/
inductive Moves (settings : Settings) : Machine → List Exchange → Machine → Prop where
  | opened {machine total}
      (phase : machine.phase = .idle)
      (accepted : settings.validate = .ok ()) :
      Moves settings machine [.size (.ok total)]
        { machine with
          phase := .chunking 0
          session := .start total
          buffer := List.replicate settings.chunkLimit 0 }
  | interrupted {machine filled fault}
      (phase : machine.phase = .chunking filled)
      (incomplete : filled < machine.wanted settings)
      (kind : fault.kind = .interrupted) :
      Moves settings machine [.fileRead (machine.wanted settings - filled) (.error fault)] machine
  | stored {machine filled bytes}
      (phase : machine.phase = .chunking filled)
      (incomplete : filled < machine.wanted settings)
      (nonempty : bytes ≠ [])
      (fits : bytes.length ≤ machine.wanted settings - filled) :
      Moves settings machine [.fileRead (machine.wanted settings - filled) (.ok bytes)]
        { machine with
          phase := .chunking (filled + bytes.length)
          buffer := overwrite machine.buffer filled bytes }
  | finished {machine filled}
      (phase : machine.phase = .chunking filled)
      (nothing : machine.session.remaining = 0) :
      Moves settings machine [] { machine with phase := .finishing }
  | framed {machine filled frame}
      (phase : machine.phase = .chunking filled)
      (something : machine.session.remaining ≠ 0)
      (complete : machine.wanted settings ≤ filled)
      (encoded : Packet.encode settings.mode
        (machine.buffer.take (machine.wanted settings)) machine.session.sequence = .ok frame) :
      Moves settings machine []
        { machine with
          phase := .sending
          session := { machine.session with retries := 0 }
          chunkLength := machine.wanted settings
          frame }
  | sent {machine}
      (phase : machine.phase = .sending) :
      Moves settings machine [.write machine.frame (.ok ())] { machine with phase := .receiving }
  | acknowledged {machine answer}
      (phase : machine.phase = .receiving)
      (forgiven : Forgiven answer)
      (good : acknowledges machine.session.sequence answer = true) :
      Moves settings machine [.receive Wire.replyLength settings.replyTimeout answer]
        { machine with phase := .advance }
  | refused {machine answer}
      (phase : machine.phase = .receiving)
      (forgiven : Forgiven answer)
      (bad : acknowledges machine.session.sequence answer = false) :
      Moves settings machine [.receive Wire.replyLength settings.replyTimeout answer]
        { machine with phase := .retry }
  | advanced {machine}
      (phase : machine.phase = .advance) :
      Moves settings machine []
        { machine with
          phase := .chunking 0
          session := machine.session.advance machine.chunkLength }
  | retried {machine}
      (phase : machine.phase = .retry)
      (another : machine.session.retries + 1 < settings.retryLimit) :
      Moves settings machine []
        { machine with
          phase := .sending
          session := { machine.session with
            retries := machine.session.retries + 1
            retransmits := machine.session.retransmits + 1 } }
  | ended {machine}
      (phase : machine.phase = .finishing) :
      Moves settings machine [.write [Wire.endOfTransfer] (.ok ())]
        { machine with phase := .closing }

/-- The stops of a transfer, one constructor for each way in which it ends. -/
inductive Stops (settings : Settings) : Machine → List Exchange → Ending → Prop where
  | invalid {machine fault}
      (phase : machine.phase = .idle)
      (rejected : settings.validate = .error fault) :
      Stops settings machine [] (.failed (.invalidSettings fault))
  | unsized {machine fault}
      (phase : machine.phase = .idle)
      (accepted : settings.validate = .ok ()) :
      Stops settings machine [.size (.error fault)] (.failed (.fileSize fault))
  | truncated {machine filled}
      (phase : machine.phase = .chunking filled)
      (incomplete : filled < machine.wanted settings) :
      Stops settings machine [.fileRead (machine.wanted settings - filled) (.ok [])]
        (.failed (.fileTruncated machine.session.bytesSent machine.session.total))
  | unreadable {machine filled fault}
      (phase : machine.phase = .chunking filled)
      (incomplete : filled < machine.wanted settings)
      (kind : fault.kind ≠ .interrupted) :
      Stops settings machine [.fileRead (machine.wanted settings - filled) (.error fault)]
        (.failed (.fileRead machine.session.bytesSent fault))
  | unframed {machine filled error}
      (phase : machine.phase = .chunking filled)
      (something : machine.session.remaining ≠ 0)
      (complete : machine.wanted settings ≤ filled)
      (refused : Packet.encode settings.mode
        (machine.buffer.take (machine.wanted settings)) machine.session.sequence =
          .error error) :
      Stops settings machine []
        (.failed (.packet machine.session.sequence machine.session.bytesSent error))
  | unsent {machine fault}
      (phase : machine.phase = .sending) :
      Stops settings machine [.write machine.frame (.error fault)]
        (.failed (.write machine.session.sequence machine.session.bytesSent fault))
  | unheard {machine fault}
      (phase : machine.phase = .receiving)
      (kind : fault.kind ≠ .timedOut) :
      Stops settings machine [.receive Wire.replyLength settings.replyTimeout (.error fault)]
        (.failed (.read machine.session.sequence machine.session.bytesSent fault))
  | exhausted {machine}
      (phase : machine.phase = .retry)
      (last : settings.retryLimit ≤ machine.session.retries + 1) :
      Stops settings machine []
        (.failed (.retriesExhausted (machine.session.retries + 1) machine.session.sequence
          machine.session.bytesSent))
  | unended {machine fault}
      (phase : machine.phase = .finishing) :
      Stops settings machine [.write [Wire.endOfTransfer] (.error fault)]
        (.failed (.write machine.session.sequence machine.session.bytesSent fault))
  | closed {machine answer}
      (phase : machine.phase = .closing) :
      Stops settings machine [.close answer] (.completed machine.session.report)

section Counting

variable
  {settings : Settings}
  {machine next : Machine}
  {exchanges : List Exchange}

theorem Moves.phase_ne_idle (move : machine.Moves settings exchanges next) :
    next.phase ≠ .idle := by
  cases move with
  | interrupted phase _ _ => simp [phase]
  | _ => simp

/-- Once the size is known, no move changes what the transfer counts on. -/
theorem Moves.total_eq
    (move : machine.Moves settings exchanges next)
    (started : machine.phase ≠ .idle) :
    next.session.total = machine.session.total := by
  cases move with
  | opened phase _ => exact absurd phase started
  | _ => rfl

theorem Moves.total_of_size
    {total : Nat}
    (move : machine.Moves settings [.size (.ok total)] next) :
    next.session.total = total := by
  cases move with
  | opened _ _ => rfl

end Counting

/-- Everything that a call whose exchanges and turn are given must amount to. -/
def Accounted
    (settings : Settings)
    (machine : Machine)
    (exchanges : List Exchange)
    (next : Next) : Prop :=
  match next with
  | .within following => Moves settings machine exchanges following
  | .enter following => Moves settings machine exchanges following
  | .stop ending => Stops settings machine exchanges ending

private theorem moves_of_accounted
    {settings : Settings}
    {machine following : Machine}
    {exchanges : List Exchange}
    {next : Next}
    (accounted : Accounted settings machine exchanges next)
    (goes : next.onward? = some following) :
    Moves settings machine exchanges following := by
  cases next with
  | within reached =>
      rw [Next.onward?, Option.some.injEq] at goes
      exact goes ▸ accounted
  | enter reached =>
      rw [Next.onward?, Option.some.injEq] at goes
      exact goes ▸ accounted
  | stop ending => simp [Next.onward?] at goes

section Phases

variable
  {settings : Settings}
  (file : FileSource φ)
  (port : SerialPort π)
  {machine : Machine}
  (devices : Devices φ π)

private theorem accounted_idle (phase : machine.phase = .idle) :
    Accounted settings machine (machine.call settings file port devices).exchanges
      (machine.call settings file port devices).turn.next := by
  cases accepted : settings.validate with
  | error fault =>
      simp only [call, act, phase, opening, accepted]
      exact .invalid phase accepted
  | ok =>
      simp only [call, act, phase, opening, accepted, Action.perform]
      cases (file.size devices.file).1 with
      | error fault => exact .unsized phase accepted
      | ok total => exact .opened phase accepted

private theorem accounted_chunking {filled : Nat} (phase : machine.phase = .chunking filled) :
    Accounted settings machine (machine.call settings file port devices).exchanges
      (machine.call settings file port devices).turn.next := by
  by_cases nothing : machine.session.remaining = 0
  · simp only [call, act, phase, chunking, nothing, if_true]
    exact .finished phase nothing
  · by_cases incomplete : filled < machine.wanted settings
    · simp only [call, act, phase, chunking, nothing, incomplete, if_true, if_false,
        Action.perform]
      cases answer : (file.read devices.file (machine.wanted settings - filled)).1 with
      | error fault =>
          by_cases kind : fault.kind = .interrupted
          · simp only [absorb, kind, if_true]
            exact .interrupted phase incomplete kind
          · simp only [absorb, kind, if_false]
            exact .unreadable phase incomplete kind
      | ok bytes =>
          have fits := file.read_length_le _ _ _ answer
          cases bytes with
          | nil => exact .truncated phase incomplete
          | cons byte bytes => exact .stored phase incomplete (by simp) fits
    · have complete : machine.wanted settings ≤ filled := Nat.le_of_not_lt incomplete
      simp only [call, act, phase, chunking, nothing, incomplete, if_false, dispatch]
      cases encoded : Packet.encode settings.mode
          (machine.buffer.take (machine.wanted settings)) machine.session.sequence with
      | error error => exact .unframed phase nothing complete encoded
      | ok frame => exact .framed phase nothing complete encoded

private theorem accounted_receiving (phase : machine.phase = .receiving) :
    Accounted settings machine (machine.call settings file port devices).exchanges
      (machine.call settings file port devices).turn.next := by
  have judged : ∀ answer, Forgiven answer →
      Accounted settings machine [.receive Wire.replyLength settings.replyTimeout answer]
        (machine.judge (heard answer)).next := by
    intro answer forgiven
    simp only [judge]
    split
    · rename_i good
      exact .acknowledged phase forgiven good
    · rename_i bad
      exact .refused phase forgiven (by simpa [acknowledges] using bad)
  simp only [call, act, phase, receiving, Action.perform]
  cases (port.receive devices.port Wire.replyLength settings.replyTimeout).1 with
  | ok bytes => exact judged (.ok bytes) (by simp [Forgiven])
  | error fault =>
      by_cases kind : fault.kind = .timedOut
      · simp only [kind, if_true]
        exact judged (.error fault) (by simp [Forgiven, kind])
      · simp only [kind, if_false]
        exact .unheard phase kind

private theorem accounted_retry (phase : machine.phase = .retry) :
    Accounted settings machine (machine.call settings file port devices).exchanges
      (machine.call settings file port devices).turn.next := by
  simp only [call, act, phase, Action.perform, tryAgain]
  split
  · rename_i last
    exact .exhausted phase last
  · rename_i another
    exact .retried phase (UInt8.not_le.1 another)

end Phases

/-- Whatever the devices answer, a call is one of the moves or one of the stops. -/
theorem accounted_call
    (settings : Settings)
    (file : FileSource φ)
    (port : SerialPort π)
    (machine : Machine)
    (devices : Devices φ π) :
    Accounted settings machine (machine.call settings file port devices).exchanges
      (machine.call settings file port devices).turn.next := by
  cases phase : machine.phase with
  | idle => exact accounted_idle file port devices phase
  | chunking filled => exact accounted_chunking file port devices phase
  | sending =>
      simp only [call, act, phase, sending, Action.perform]
      cases (port.write devices.port machine.frame).1 with
      | error fault => exact .unsent phase
      | ok => exact .sent phase
  | receiving => exact accounted_receiving file port devices phase
  | advance =>
      simp only [call, act, phase]
      exact .advanced phase
  | retry => exact accounted_retry file port devices phase
  | finishing =>
      simp only [call, act, phase, finishing, Action.perform]
      cases (port.write devices.port [Wire.endOfTransfer]).1 with
      | error fault => exact .unended phase
      | ok => exact .ended phase
  | closing =>
      simp only [call, act, phase, closing, Action.perform]
      exact .closed phase

section Calls

variable
  {settings : Settings}
  {file : FileSource φ}
  {port : SerialPort π}
  {machine : Machine}
  {devices : Devices φ π}

theorem moves_of_call
    {next : Machine}
    (goes : (machine.call settings file port devices).turn.next.onward? = some next) :
    Moves settings machine (machine.call settings file port devices).exchanges next :=
  moves_of_accounted (machine.accounted_call settings file port devices) goes

theorem stops_of_call
    {ending : Ending}
    (stops : (machine.call settings file port devices).turn.next = .stop ending) :
    Stops settings machine (machine.call settings file port devices).exchanges ending := by
  have accounted := machine.accounted_call settings file port devices
  rw [stops] at accounted
  exact accounted

end Calls

/-- What the phase must be for a state to ask for an action, and what it then asks with. -/
def Asks (settings : Settings) (machine : Machine) : Action → Prop
  | .askSize _ => machine.phase = .idle
  | .fileRead room _ =>
      ∃ filled, machine.phase = .chunking filled ∧ filled < machine.wanted settings ∧
        room = machine.wanted settings - filled
  | .write bytes _ =>
      machine.phase = .sending ∧ bytes = machine.frame ∨
        machine.phase = .finishing ∧ bytes = [Wire.endOfTransfer]
  | .receive delay timeout _ =>
      machine.phase = .receiving ∧ delay = settings.replyDelay ∧ timeout = settings.replyTimeout
  | .close _ => machine.phase = .closing
  | .settle _ => True

theorem asks_act (settings : Settings) (machine : Machine) :
    machine.Asks settings (machine.act settings) := by
  cases phase : machine.phase with
  | idle =>
      simp only [act, phase, opening]
      split
      · exact trivial
      · exact phase
  | chunking filled =>
      simp only [act, phase, chunking]
      split
      · exact trivial
      · split
        · rename_i incomplete
          exact ⟨filled, phase, incomplete, rfl⟩
        · exact trivial
  | sending =>
      simp only [act, phase]
      exact .inl ⟨phase, rfl⟩
  | receiving =>
      simp only [act, phase]
      exact ⟨phase, rfl, rfl⟩
  | advance =>
      simp only [act, phase]
      exact trivial
  | retry =>
      simp only [act, phase]
      exact trivial
  | finishing =>
      simp only [act, phase]
      exact .inr ⟨phase, rfl⟩
  | closing =>
      simp only [act, phase]
      exact phase

end Machine

end KermitSend

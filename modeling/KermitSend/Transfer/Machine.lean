import KermitSend.Buffer
import KermitSend.Packet.Encode
import KermitSend.Transfer.Error
import KermitSend.Transfer.Notice

/-!
Contract: the sender as a machine that asks for one call at a time.

A transfer passes through six stages.  Chunking reads one chunk and frames it; awaiting the
reply sends the frame and judges the answer; advancing accounts for an acknowledged chunk;
retrying sends the same frame again; finishing ends the transfer and closes the file.  Where a
stage makes several calls, a phase says which comes next.

Owns:
- the state of a transfer between two calls;
- the call that a state asks for, and what every possible answer leads to;
- the notices told on the way.

Does not own: the devices that answer, and how often a stage is entered.
-/

namespace KermitSend

/-- Where a transfer stands: a stage, and within it the call that comes next. -/
inductive Phase where
  | idle
  /-- `filled` bytes of the chunk have been read. -/
  | chunking (filled : Nat)
  | sending
  | receiving
  | advance
  | retry
  | finishing
  | closing
deriving DecidableEq, Repr

namespace Phase

/-- The stage that a phase belongs to. -/
def stage : Phase → Stage
  | .idle => .idle
  | .chunking _ => .chunking
  | .sending | .receiving => .awaitAck
  | .advance => .advance
  | .retry => .retry
  | .finishing | .closing => .finish

/-- Whether a chunk is framed and not yet accounted for. -/
def inFlight : Phase → Bool
  | .sending | .receiving | .advance | .retry => true
  | _ => false

theorem eq_idle_iff (phase : Phase) : phase = .idle ↔ phase.stage = .idle := by
  cases phase <;> simp [stage]

theorem inFlight_iff (phase : Phase) :
    phase.inFlight = true ↔
      phase.stage = .awaitAck ∨ phase.stage = .advance ∨ phase.stage = .retry := by
  cases phase <;> simp [inFlight, stage]

end Phase

/-- The state of a transfer between two calls. -/
structure Machine where
  phase : Phase
  session : Session
  /-- Room for one chunk, used again for every packet. -/
  buffer : List UInt8
  /-- The number of bytes at the front of the buffer that the packet in flight carries. -/
  chunkLength : Nat
  frame : List UInt8
deriving DecidableEq, Repr

/-- What follows a turn: more of the same stage, the next stage, or the end. -/
inductive Next where
  | within (machine : Machine)
  | enter (machine : Machine)
  | stop (ending : Ending)
deriving DecidableEq, Repr

/-- What the machine does with an answer: the notices it gives and what follows. -/
structure Turn where
  notices : List Notice
  next : Next
deriving DecidableEq, Repr

/-- The call that a machine asks for, with its reaction to every answer; `settle` asks for
none. -/
inductive Action where
  | askSize (react : Except Fault Nat → Turn)
  | fileRead (room : Nat) (react : Except Fault (List UInt8) → Turn)
  | write (bytes : List UInt8) (react : Except Fault Unit → Turn)
  /-- Wait for `delay`, then read a reply for at most `timeout` milliseconds. -/
  | receive (delay timeout : Nat) (react : Except Fault (List UInt8) → Turn)
  | close (react : Except Fault Unit → Turn)
  | settle (turn : Turn)

namespace Turn

/-- Stop the transfer short. -/
def fail (error : TransferError) : Turn :=
  { notices := [], next := .stop (.failed error) }

/-- Go on to the first phase of another stage and tell of the transition. -/
def enter (notices : List Notice) (machine : Machine) (phase : Phase) : Turn :=
  { notices :=
      notices ++ [.transition machine.phase.stage phase.stage machine.session.sequence]
    next := .enter { machine with phase } }

end Turn

namespace Machine

/-- The machine before its first call. -/
def initial : Machine :=
  { phase := .idle, session := .empty, buffer := [], chunkLength := 0, frame := [] }

/-- The number of file bytes the next packet carries. -/
def wanted (settings : Settings) (machine : Machine) : Nat :=
  min machine.session.remaining settings.chunkLimit

/-- The size of the file is known: prepare the counters and the buffer. -/
def begin (settings : Settings) (machine : Machine) (size : Nat) : Turn :=
  Turn.enter [.started size settings.mode settings.chunkLimit]
    { machine with
      session := .start size
      buffer := List.replicate settings.chunkLimit 0 }
    (.chunking 0)

/-- Ask for the size of the file, unless the settings are at fault. -/
def opening (settings : Settings) (machine : Machine) : Action :=
  match settings.validate with
  | .error fault => .settle (Turn.fail (.invalidSettings fault))
  | .ok () => .askSize fun
      | .error fault => Turn.fail (.fileSize fault)
      | .ok size => machine.begin settings size

/-- Take in an answer of the file for the chunk being read. -/
def absorb (machine : Machine) (filled : Nat) : Except Fault (List UInt8) → Turn
  | .ok [] =>
      Turn.fail (.fileTruncated machine.session.bytesSent machine.session.total)
  | .ok bytes =>
      { notices := []
        next := .within { machine with
          phase := .chunking (filled + bytes.length)
          buffer := overwrite machine.buffer filled bytes } }
  | .error fault =>
      if fault.kind = .interrupted then { notices := [], next := .within machine }
      else Turn.fail (.fileRead machine.session.bytesSent fault)

/-- Frame the chunk at the front of the buffer. -/
def dispatch (settings : Settings) (machine : Machine) : Turn :=
  let sequence := machine.session.sequence
  let chunkLength := machine.wanted settings
  match Packet.encode settings.mode (machine.buffer.take chunkLength) sequence with
  | .error error => Turn.fail (.packet sequence machine.session.bytesSent error)
  | .ok frame =>
      Turn.enter [.prepared sequence chunkLength frame.length]
        { machine with
          session := { machine.session with retries := 0 }
          chunkLength
          frame }
        .sending

/-- Read the chunk until it is whole, then frame it; with nothing left to send, finish. -/
def chunking (settings : Settings) (machine : Machine) (filled : Nat) : Action :=
  if machine.session.remaining = 0 then .settle (Turn.enter [] machine .finishing)
  else if filled < machine.wanted settings then
    .fileRead (machine.wanted settings - filled) (machine.absorb filled)
  else .settle (machine.dispatch settings)

/-- The failure of a write, with the progress made. -/
def writeError (machine : Machine) (fault : Fault) : TransferError :=
  .write machine.session.sequence machine.session.bytesSent fault

/-- Send the frame in flight. -/
def sending (machine : Machine) : Action :=
  .write machine.frame fun
    | .error fault => Turn.fail (machine.writeError fault)
    | .ok () =>
        { notices := [.packetSent machine.session.sequence machine.frame.length]
          next := .within { machine with phase := .receiving } }

/-- Judge the bytes that came back. -/
def judge (machine : Machine) (bytes : List UInt8) : Turn :=
  let sequence := machine.session.sequence
  let reply := Reply.ofBytes bytes
  let verdict := reply.judge sequence
  if verdict.isAcknowledged then Turn.enter [.acknowledged sequence] machine .advance
  else Turn.enter [.badReply sequence verdict bytes.length reply] machine .retry

/-- Read the reply; a port that reports a timeout has delivered nothing. -/
def receiving (settings : Settings) (machine : Machine) : Action :=
  .receive settings.replyDelay settings.replyTimeout fun
    | .ok bytes => machine.judge bytes
    | .error fault =>
        if fault.kind = .timedOut then machine.judge []
        else
          Turn.fail (.read machine.session.sequence machine.session.bytesSent fault)

/-- Account for the acknowledged chunk. -/
def accept (machine : Machine) : Turn :=
  let session := machine.session.advance machine.chunkLength
  let notices :=
    if machine.session.crossesPercent machine.chunkLength then [.progress session] else []
  Turn.enter notices { machine with session } (.chunking 0)

/-- Send the frame again, unless the attempts are used up. -/
def tryAgain (settings : Settings) (machine : Machine) : Turn :=
  let retries := machine.session.retries + 1
  if retries ≥ settings.retryLimit then
    Turn.fail
      (.retriesExhausted retries machine.session.sequence machine.session.bytesSent)
  else
    Turn.enter [.retransmitting machine.session.sequence (retries + 1)]
      { machine with
        session := { machine.session with
          retries
          retransmits := machine.session.retransmits + 1 } }
      .sending

/-- Tell the receiver that the transfer is over. -/
def finishing (machine : Machine) : Action :=
  .write [Wire.endOfTransfer] fun
    | .error fault => Turn.fail (machine.writeError fault)
    | .ok () => { notices := [.endSent], next := .within { machine with phase := .closing } }

/-- Close the file; a failure to close is told and changes nothing. -/
def closing (machine : Machine) : Action :=
  .close fun answer =>
    let warnings := match answer with
      | .error fault => [.closeFailed fault]
      | .ok () => []
    { notices := warnings ++ [.completed machine.session.report]
      next := .stop (.completed machine.session.report) }

/-- The call a machine asks for next. -/
def act (settings : Settings) (machine : Machine) : Action :=
  match machine.phase with
  | .idle => machine.opening settings
  | .chunking filled => machine.chunking settings filled
  | .sending => machine.sending
  | .receiving => machine.receiving settings
  | .advance => .settle machine.accept
  | .retry => .settle (machine.tryAgain settings)
  | .finishing => machine.finishing
  | .closing => machine.closing

end Machine

end KermitSend

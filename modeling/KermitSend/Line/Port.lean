import KermitSend.Buffer
import KermitSend.Transfer.Device

/-!
Contract: a serial line whose reads have to fill a buffer within a time limit.

The system underneath has one timeout setting, which its reads and its writes both go by, and
hands over whatever has arrived; a reply may therefore take several reads.

Owns:
- what the line relies on of the system: reads end in time, store no more than was asked for
  and are interrupted only finitely often in a row;
- collecting bytes until the buffer is full, nothing comes any more or the deadline passes;
- the line as a device of a transfer.

Does not own: the system underneath.
-/

namespace KermitSend.Line

/-- The answer to one read of the system, with the time it took. -/
structure RawRead where
  answer : Except Fault (List UInt8)
  elapsed : Nat

/-- The system's side of a serial line, with a state of type `σ` behind it. -/
structure RawPort (σ : Type) where
  write : σ → List UInt8 → (timeout : Nat) → Except Fault Unit × σ
  read : σ → (room timeout : Nat) → RawRead × σ
  /-- How often in a row a read may still be interrupted. -/
  patience : σ → (room timeout : Nat) → Nat
  read_length_le : ∀ state room timeout bytes,
    (read state room timeout).1.answer = .ok bytes → bytes.length ≤ room
  elapsed_le : ∀ state room timeout, (read state room timeout).1.elapsed ≤ timeout
  patience_lt : ∀ state room timeout fault,
    (read state room timeout).1.answer = .error fault → fault.kind = .interrupted →
      patience (read state room timeout).2 room
          (timeout - (read state room timeout).1.elapsed) <
        patience state room timeout

variable {σ : Type}

/-- A line in use: the system's side, its timeout setting and the time on the clock. -/
structure Port (σ : Type) where
  raw : σ
  timeout : Nat
  now : Nat

/-- The timeout that a line is opened with, in milliseconds. -/
def openTimeout : Nat := 500

/-- A line just opened. -/
def Port.opened (raw : σ) (now : Nat) : Port σ :=
  { raw, timeout := openTimeout, now }

/-- One read of the system while a buffer is being filled. -/
structure ReadRecord where
  room : Nat
  timeout : Nat
  read : RawRead

/-- What filling a buffer came to: the number of bytes stored, or the failure that stopped it,
with the buffer, the reads and the line after them. -/
structure Reception (σ : Type) where
  outcome : Except Fault Nat
  buffer : List UInt8
  reads : List ReadRecord
  line : Port σ

/-- The line after a read: the timeout stays as it was set for the read, and its time has
passed. -/
def Port.afterRead (line : Port σ) (timeout : Nat) (read : RawRead) (raw : σ) : Port σ :=
  { line with raw, timeout, now := line.now + read.elapsed }

set_option linter.unusedVariables false in
/-- Fill `buffer` from position `filled` on.  Each read is given the time that is left until
the deadline; the first is made even when none is. -/
def Port.fill
    (system : RawPort σ)
    (deadline : Nat)
    (line : Port σ)
    (buffer : List UInt8)
    (filled : Nat)
    (first : Bool) :
    Reception σ :=
  let room := buffer.length - filled
  let timeout := deadline - line.now
  if room = 0 ∨ timeout = 0 ∧ first = false then
    { outcome := .ok filled, buffer, reads := [], line }
  else
    let result := system.read line.raw room timeout
    let after := line.afterRead timeout result.1 result.2
    let record : ReadRecord := { room, timeout, read := result.1 }
    match answer : result.1.answer with
    | .ok [] => { outcome := .ok filled, buffer, reads := [record], line := after }
    | .ok (byte :: bytes) =>
        let rest :=
          after.fill system deadline (overwrite buffer filled (byte :: bytes))
            (filled + (byte :: bytes).length) false
        { rest with reads := record :: rest.reads }
    | .error fault =>
        if fault.kind = .timedOut then
          { outcome := .ok filled, buffer, reads := [record], line := after }
        else if interrupted : fault.kind = .interrupted then
          let rest := after.fill system deadline buffer filled false
          { rest with reads := record :: rest.reads }
        else { outcome := .error fault, buffer, reads := [record], line := after }
termination_by
  (buffer.length - filled, system.patience line.raw (buffer.length - filled) (deadline - line.now))
decreasing_by
  · apply Prod.Lex.left
    have fits := system.read_length_le line.raw room timeout _ answer
    simp only [List.length_cons] at fits
    rw [length_overwrite] <;> simp only [List.length_cons] <;> omega
  · apply Prod.Lex.right
    have fewer := system.patience_lt line.raw room timeout fault answer interrupted
    simp only [Port.afterRead, Nat.sub_add_eq]
    exact fewer

/-- Fill a buffer, taking at most `timeout` milliseconds. -/
def Port.receive
    (system : RawPort σ)
    (line : Port σ)
    (buffer : List UInt8)
    (timeout : Nat) :
    Reception σ :=
  line.fill system (line.now + timeout) buffer 0 true

/-- Write all bytes, under the timeout that is set on the line. -/
def Port.writeAll
    (system : RawPort σ)
    (line : Port σ)
    (bytes : List UInt8) :
    Except Fault Unit × Port σ :=
  let result := system.write line.raw bytes line.timeout
  (result.1, { line with raw := result.2 })

/-- Filling keeps the length of the buffer. -/
theorem Port.length_buffer_fill
    (system : RawPort σ)
    (deadline : Nat)
    (line : Port σ)
    (buffer : List UInt8)
    (filled : Nat)
    (first : Bool) :
    (line.fill system deadline buffer filled first).buffer.length = buffer.length := by
  fun_induction Port.fill system deadline line buffer filled first with
  | case3 line buffer filled first room timeout more result after record byte bytes answer rest
      inductionHypothesis =>
      have fits := system.read_length_le line.raw room timeout _ answer
      refine inductionHypothesis.trans (length_overwrite ?_)
      omega
  | case5 _ _ _ _ _ _ _ _ _ _ _ _ _ _ _ inductionHypothesis => exact inductionHypothesis
  | _ => rfl

/-- A line as a device: a reply is read into a buffer of zeros. -/
def Port.device (system : RawPort σ) : SerialPort (Port σ) where
  write := fun line bytes => line.writeAll system bytes
  receive := fun line room timeout =>
    let reception := line.receive system (List.replicate room 0) timeout
    (reception.outcome.map reception.buffer.take, reception.line)
  receive_length_le := by
    intro line room timeout bytes received
    have kept :=
      Port.length_buffer_fill system (line.now + timeout) line (List.replicate room 0) 0 true
    simp only [Except.map] at received
    split at received
    · simp at received
    · simp only [Except.ok.injEq] at received
      subst received
      simp only [List.length_replicate] at kept
      rw [Port.receive, List.length_take, kept]
      exact Nat.min_le_right ..

end KermitSend.Line

import KermitSend.Fault

/-!
Contract: the two devices a transfer works with, seen from the sender.

Owns:
- a file source: its size, successive reads and its closing;
- a serial port: whole writes, and reads that end with a timeout;
- what the sender relies on: no call delivers more bytes than were asked for, and a source
  interrupts a read only finitely often in a row.

Does not own: any particular file or port.
-/

namespace KermitSend

/-- A file as the sender sees it, with a state of type `φ` behind it. -/
structure FileSource (φ : Type) where
  size : φ → Except Fault Nat × φ
  /-- Read at most the given number of bytes; no bytes mean the end of the file. -/
  read : φ → Nat → Except Fault (List UInt8) × φ
  close : φ → Except Fault Unit × φ
  /-- How often in a row a read for the given number of bytes may still be interrupted. -/
  patience : φ → Nat → Nat
  read_length_le : ∀ state room bytes,
    (read state room).1 = .ok bytes → bytes.length ≤ room
  patience_lt : ∀ state room fault,
    (read state room).1 = .error fault → fault.kind = .interrupted →
      patience (read state room).2 room < patience state room

/-- A serial port as the sender sees it, with a state of type `π` behind it. -/
structure SerialPort (π : Type) where
  write : π → List UInt8 → Except Fault Unit × π
  /-- Read at most `room` bytes within `timeout` milliseconds; fewer mean that no more came. -/
  receive : π → (room timeout : Nat) → Except Fault (List UInt8) × π
  receive_length_le : ∀ state room timeout bytes,
    (receive state room timeout).1 = .ok bytes → bytes.length ≤ room

/-- The states of both devices. -/
structure Devices (φ π : Type) where
  file : φ
  port : π

end KermitSend

import KermitSend.Transfer.Device
import KermitSend.Transfer.Machine

/-!
Contract: one call of the machine, made on a device and answered.

Owns:
- the record of a call with its answer;
- the relation between an action and everything its answers can lead to;
- making the call on a given file and port.

Does not own: the order of calls.
-/

namespace KermitSend

/-- One call on a device and its answer. -/
inductive Exchange where
  | size (answer : Except Fault Nat)
  | fileRead (room : Nat) (answer : Except Fault (List UInt8))
  | write (bytes : List UInt8) (answer : Except Fault Unit)
  | receive (room timeout : Nat) (answer : Except Fault (List UInt8))
  | close (answer : Except Fault Unit)

/-- An action, answered in any way at all, yields these calls and this turn. -/
inductive Action.Yields : Action → List Exchange → Turn → Prop where
  | askSize (react : Except Fault Nat → Turn) (answer : Except Fault Nat) :
      Action.Yields (.askSize react) [.size answer] (react answer)
  | fileRead (room : Nat) (react : Except Fault (List UInt8) → Turn)
      (answer : Except Fault (List UInt8)) :
      Action.Yields (.fileRead room react) [.fileRead room answer] (react answer)
  | write (bytes : List UInt8) (react : Except Fault Unit → Turn) (answer : Except Fault Unit) :
      Action.Yields (.write bytes react) [.write bytes answer] (react answer)
  | receive (delay timeout : Nat) (react : Except Fault (List UInt8) → Turn)
      (answer : Except Fault (List UInt8)) :
      Action.Yields (.receive delay timeout react)
        [.receive Wire.replyLength timeout answer] (react answer)
  | close (react : Except Fault Unit → Turn) (answer : Except Fault Unit) :
      Action.Yields (.close react) [.close answer] (react answer)
  | settle (turn : Turn) : Action.Yields (.settle turn) [] turn

variable {φ π : Type}

/-- What performing an action gives: the calls made, the turn taken and the devices after it. -/
structure Performed (φ π : Type) where
  exchanges : List Exchange
  turn : Turn
  devices : Devices φ π

/-- Make the call that an action asks for and react to the answer. -/
def Action.perform (file : FileSource φ) (port : SerialPort π) (devices : Devices φ π) :
    Action → Performed φ π
  | .askSize react =>
      let answered := file.size devices.file
      ⟨[.size answered.1], react answered.1, { devices with file := answered.2 }⟩
  | .fileRead room react =>
      let answered := file.read devices.file room
      ⟨[.fileRead room answered.1], react answered.1, { devices with file := answered.2 }⟩
  | .write bytes react =>
      let answered := port.write devices.port bytes
      ⟨[.write bytes answered.1], react answered.1, { devices with port := answered.2 }⟩
  | .receive _ timeout react =>
      let answered := port.receive devices.port Wire.replyLength timeout
      ⟨[.receive Wire.replyLength timeout answered.1], react answered.1,
        { devices with port := answered.2 }⟩
  | .close react =>
      let answered := file.close devices.file
      ⟨[.close answered.1], react answered.1, { devices with file := answered.2 }⟩
  | .settle turn => ⟨[], turn, devices⟩

/-- What is performed is one of the ways in which an action can be answered. -/
theorem Action.yields_perform
    (file : FileSource φ)
    (port : SerialPort π)
    (devices : Devices φ π)
    (action : Action) :
    action.Yields (action.perform file port devices).exchanges
      (action.perform file port devices).turn := by
  cases action <;> constructor

/-- An interrupted read uses up patience. -/
theorem Action.patience_perform
    (file : FileSource φ)
    (port : SerialPort π)
    (devices : Devices φ π)
    (action : Action)
    {room : Nat}
    {fault : Fault}
    (performed :
      (action.perform file port devices).exchanges = [.fileRead room (.error fault)])
    (interrupted : fault.kind = .interrupted) :
    file.patience (action.perform file port devices).devices.file room <
      file.patience devices.file room := by
  cases action with
  | fileRead asked react =>
      simp only [Action.perform, List.cons.injEq, Exchange.fileRead.injEq, and_true] at performed
      obtain ⟨rfl, answered⟩ := performed
      exact file.patience_lt devices.file asked fault answered interrupted
  | _ => simp [Action.perform] at performed

end KermitSend

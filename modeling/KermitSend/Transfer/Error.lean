import KermitSend.Fault
import KermitSend.Packet.Error
import KermitSend.Session
import KermitSend.Settings

/-!
Contract: how a transfer ends.

Owns:
- the causes that stop a transfer, each with the progress made until then;
- the one wording of each cause, and the fault below it;
- whether a cause leaves the receiver in the middle of a transfer, as far as a user is told.

Does not own: when a cause arises.
-/

namespace KermitSend

/-- Why a transfer stopped short. -/
inductive TransferError where
  | fileOpen (path : String) (source : Fault)
  | fileSize (source : Fault)
  | fileRead (bytesSent : Nat) (source : Fault)
  | fileTruncated (bytesSent expected : Nat)
  | write (sequence : UInt8) (bytesSent : Nat) (source : Fault)
  | read (sequence : UInt8) (bytesSent : Nat) (source : Fault)
  | retriesExhausted (retries sequence : UInt8) (bytesSent : Nat)
  | packet (sequence : UInt8) (bytesSent : Nat) (source : Packet.Error)
  | invalidSettings (fault : SettingsFault)
deriving DecidableEq, Repr

namespace TransferError

/-- How far the transfer had come, as errors on a packet word it. -/
def position (sequence : UInt8) (bytesSent : Nat) : String :=
  s!"sequence {sequence.toNat} - success send = {bytesSent} bytes"

/-- The wording of a cause. -/
def message : TransferError → String
  | .fileOpen path source => "failed to open " ++ path ++ ": " ++ source.message
  | .fileSize source => "failed to read file size: " ++ source.message
  | .fileRead bytesSent source =>
      s!"file read failed after {bytesSent} bytes: " ++ source.message
  | .fileTruncated bytesSent expected => s!"file ended after {bytesSent} of {expected} bytes"
  | .write sequence bytesSent source =>
      "serial write failed in " ++ position sequence bytesSent ++ ": " ++ source.message
  | .read sequence bytesSent source =>
      "serial read failed in " ++ position sequence bytesSent ++ ": " ++ source.message
  | .retriesExhausted retries sequence bytesSent =>
      s!"failed after {retries.toNat} retries in " ++ position sequence bytesSent
  | .packet sequence bytesSent source =>
      "could not build packet for " ++ position sequence bytesSent ++ ": " ++ source.message
  | .invalidSettings fault => "invalid configuration: " ++ fault.message

/-- The file bytes acknowledged before the transfer stopped, where the cause records them. -/
def bytesSent? : TransferError → Option Nat
  | .fileOpen .. | .fileSize .. | .invalidSettings .. => none
  | .fileRead bytesSent _ => some bytesSent
  | .fileTruncated bytesSent _ => some bytesSent
  | .write _ bytesSent _ => some bytesSent
  | .read _ bytesSent _ => some bytesSent
  | .retriesExhausted _ _ bytesSent => some bytesSent
  | .packet _ bytesSent _ => some bytesSent

/-- The wording of the fault below a cause, where there is one. -/
def sourceMessage? : TransferError → Option String
  | .fileOpen _ source => some source.message
  | .fileSize source => some source.message
  | .fileRead _ source => some source.message
  | .write _ _ source => some source.message
  | .read _ _ source => some source.message
  | .packet _ _ source => some source.message
  | .fileTruncated .. | .retriesExhausted .. | .invalidSettings .. => none

/-- Whether the user is told to restart the receiver: after a failure on the line, and when
the attempts on a packet ran out. -/
def advisesRestart : TransferError → Bool
  | .retriesExhausted .. | .write .. | .read .. => true
  | _ => false

end TransferError

/-- How a transfer ended. -/
inductive Ending where
  | completed (report : Report)
  | failed (error : TransferError)
deriving DecidableEq, Repr

/-- The wording of an ending. -/
def Ending.message : Ending → String
  | .completed _ => "transfer complete"
  | .failed error => error.message

/-- The file bytes acknowledged by the end, where the ending records them. -/
def Ending.bytesSent? : Ending → Option Nat
  | .completed report => some report.bytesSent
  | .failed error => error.bytesSent?

end KermitSend

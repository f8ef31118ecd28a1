import KermitSend.Binary64
import KermitSend.Wire

/-!
Contract: the progress of one transfer.

Owns:
- the counters of a transfer and how an acknowledged chunk moves them;
- progress in whole percent and as an exact fraction;
- the report that a finished transfer gives.

Does not own: when a chunk counts as acknowledged.
-/

namespace KermitSend

/-- What a finished transfer did. -/
structure Report where
  bytesSent : Nat
  packets : Nat
  retransmits : Nat
deriving DecidableEq, Repr

/-- The counters of one transfer. -/
structure Session where
  /-- The sequence number of the packet in flight. -/
  sequence : UInt8
  /-- File bytes that no reply has acknowledged yet. -/
  remaining : Nat
  total : Nat
  /-- Failed attempts on the packet in flight. -/
  retries : UInt8
  bytesSent : Nat
  packets : Nat
  retransmits : Nat
deriving DecidableEq, Repr

namespace Session

/-- The counters before the size of the file is known. -/
def empty : Session :=
  { sequence := 0
    remaining := 0
    total := 0
    retries := 0
    bytesSent := 0
    packets := 0
    retransmits := 0 }

/-- The counters at the start of a transfer of `total` bytes. -/
def start (total : Nat) : Session :=
  { empty with remaining := total, total }

/-- Whole percents sent; an empty file is always complete. -/
def wholePercent (session : Session) : Nat :=
  if session.total = 0 then 100 else session.bytesSent * 100 / session.total

/-- Percents sent: a product and a quotient, each rounded once. -/
def percent (session : Session) : Binary64 :=
  if session.total = 0 then Binary64.ofNat 100
  else
    ((Binary64.ofNat session.bytesSent).mul (Binary64.ofNat 100)).div
      (Binary64.ofNat session.total)

/-- Account for an acknowledged packet that carried `length` file bytes. -/
def advance (session : Session) (length : Nat) : Session :=
  { session with
    remaining := session.remaining - length
    bytesSent := session.bytesSent + length
    packets := session.packets + 1
    sequence := (session.sequence + 1) % Wire.sequenceModulus
    retries := 0 }

/-- Whether an acknowledged packet of `length` bytes moves progress into a new whole
percent. -/
def crossesPercent (session : Session) (length : Nat) : Bool :=
  (session.advance length).wholePercent != session.wholePercent

/-- The figures a finished transfer reports. -/
def report (session : Session) : Report :=
  { bytesSent := session.bytesSent
    packets := session.packets
    retransmits := session.retransmits }

end Session

end KermitSend

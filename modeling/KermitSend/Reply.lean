import KermitSend.Checksum
import KermitSend.Text.Hexadecimal
import KermitSend.Wire

/-!
Contract: the six-byte replies of a receiver.

Owns:
- the fields of a reply, read from bytes that may have stopped arriving early;
- the reply that a receiver gives for a sequence number;
- the verdict on a reply: check first, then sequence number, then kind.

Does not own: waiting for a reply.
-/

namespace KermitSend

/-- A reply, field by field in the order of the line. -/
structure Reply where
  mark : UInt8
  length : UInt8
  label : UInt8
  kind : UInt8
  check : UInt8
  ending : UInt8
deriving DecidableEq, Repr

/-- What a reply says about the packet in flight. -/
inductive Verdict where
  | acknowledged
  | refused
  | checksumInvalid (expected received : UInt8)
  | sequenceInvalid (expected received : UInt8)
  | unexpectedKind (kind : UInt8)
deriving DecidableEq, Repr

namespace Verdict

/-- The wording of a verdict. -/
def message : Verdict → String
  | .acknowledged => "ACK"
  | .refused => "NACK"
  | .checksumInvalid expected received =>
      "checksum mismatch (expected 0x" ++ Text.Hexadecimal.ofByte expected
        ++ ", got 0x" ++ Text.Hexadecimal.ofByte received ++ ")"
  | .sequenceInvalid expected received =>
      s!"sequence mismatch (expected {expected.toNat}, got {received.toNat})"
  | .unexpectedKind kind => "unexpected packet type 0x" ++ Text.Hexadecimal.ofByte kind

/-- Only one verdict lets the sender move on. -/
def isAcknowledged (verdict : Verdict) : Bool :=
  verdict == .acknowledged

end Verdict

namespace Reply

/-- The reply in a buffer whose first bytes are `bytes` and whose others are zero. -/
def ofBytes (bytes : List UInt8) : Reply :=
  { mark := bytes.getD 0 0
    length := bytes.getD 1 0
    label := bytes.getD 2 0
    kind := bytes.getD 3 0
    check := bytes.getD 4 0
    ending := bytes.getD 5 0 }

/-- The bytes of a reply in the order of the line. -/
def toBytes (reply : Reply) : List UInt8 :=
  [reply.mark, reply.length, reply.label, reply.kind, reply.check, reply.ending]

/-- The check that a reply's length, sequence number and kind call for. -/
def requiredCheck (reply : Reply) : UInt8 :=
  checksum (byteSum [reply.length, reply.label, reply.kind])

/-- Judge a reply against the sequence number in flight.  The mark and the ending are not
looked at. -/
def judge (reply : Reply) (expected : UInt8) : Verdict :=
  let received := Printable.decode reply.label
  if reply.check ≠ reply.requiredCheck then .checksumInvalid reply.requiredCheck reply.check
  else if received ≠ expected then .sequenceInvalid expected received
  else if reply.kind = Wire.acceptKind then .acknowledged
  else if reply.kind = Wire.refuseKind then .refused
  else .unexpectedKind reply.kind

/-- The reply of the given kind that a receiver sends for a sequence number. -/
def answer (sequence kind : UInt8) : Reply :=
  let length := Printable.encode 3
  let label := Printable.encode sequence
  { mark := Wire.start
    length
    label
    kind
    check := checksum (byteSum [length, label, kind])
    ending := Wire.terminator }

theorem ofBytes_toBytes (reply : Reply) : ofBytes reply.toBytes = reply :=
  rfl

end Reply

end KermitSend

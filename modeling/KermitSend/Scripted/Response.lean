import KermitSend.Fault
import KermitSend.Reply

/-!
Contract: what a scripted receiver does about one packet.

Owns:
- the responses a script is made of;
- the bytes that a response puts on the line.

Does not own: when a response is due.
-/

namespace KermitSend.Scripted

/-- What a scripted receiver does about one packet. -/
inductive Response where
  /-- These very bytes, which may be none. -/
  | literal (content : List UInt8)
  /-- A reply of this kind for the last packet that arrived. -/
  | answer (kind : UInt8)
  /-- A reply of this kind for the given sequence number. -/
  | answerFor (sequence kind : UInt8)
  /-- The line fails. -/
  | failure (cause : Fault)
deriving DecidableEq, Repr

/-- The bytes of a response, when `arrived` is the sequence number of the last packet. -/
def Response.deliver (arrived : UInt8) : Response → Except Fault (List UInt8)
  | .literal content => .ok content
  | .answer kind => .ok (Reply.answer arrived kind).toBytes
  | .answerFor sequence kind => .ok (Reply.answer sequence kind).toBytes
  | .failure cause => .error cause

end KermitSend.Scripted

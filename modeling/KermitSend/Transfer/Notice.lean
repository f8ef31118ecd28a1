import KermitSend.Fault
import KermitSend.Packet.Mode
import KermitSend.Reply
import KermitSend.Session

/-!
Contract: what a transfer tells its operator while it runs.

Owns:
- the occasions on which something is told, each with its figures;
- the level, the wording and the named fields of each.

Does not own: where notices go and how a line of them looks.
-/

namespace KermitSend

/-- How much a notice matters, least first. -/
inductive Level where
  | trace
  | debug
  | info
  | warn
deriving DecidableEq, Repr

namespace Level

/-- The place of a level in the order of importance. -/
def rank : Level → Nat
  | .trace => 0
  | .debug => 1
  | .info => 2
  | .warn => 3

/-- The name of a level. -/
def name : Level → String
  | .trace => "TRACE"
  | .debug => "DEBUG"
  | .info => "INFO"
  | .warn => "WARN"

end Level

/-- The stages of a transfer. -/
inductive Stage where
  | idle
  | chunking
  | awaitAck
  | advance
  | retry
  | finish
deriving DecidableEq, Repr

/-- The name of a stage. -/
def Stage.name : Stage → String
  | .idle => "Idle"
  | .chunking => "Chunking"
  | .awaitAck => "AwaitAck"
  | .advance => "Advance"
  | .retry => "Retry"
  | .finish => "Finish"

/-- Something told while a transfer runs. -/
inductive Notice where
  | started (bytes : Nat) (mode : Packet.Mode) (chunkLimit : Nat)
  | transition (origin target : Stage) (sequence : UInt8)
  | prepared (sequence : UInt8) (chunkLength frameLength : Nat)
  | packetSent (sequence : UInt8) (frameLength : Nat)
  | acknowledged (sequence : UInt8)
  | badReply (sequence : UInt8) (verdict : Verdict) (received : Nat) (reply : Reply)
  | progress (session : Session)
  | retransmitting (sequence attempt : UInt8)
  | endSent
  | closeFailed (fault : Fault)
  | completed (report : Report)
deriving DecidableEq, Repr

/-- A named field of a notice. -/
inductive NoticeValue where
  | number (value : Nat)
  | text (value : String)
deriving DecidableEq, Repr

namespace Notice

/-- The level of a notice.  A reply that was damaged or cut short is part of line noise; one
that is whole but wrong deserves a warning. -/
def level : Notice → Level
  | .transition .. => .trace
  | .started .. | .progress .. | .completed .. => .info
  | .prepared .. | .packetSent .. | .acknowledged .. | .retransmitting .. | .endSent => .debug
  | .badReply _ verdict _ _ =>
      match verdict with
      | .checksumInvalid .. => .debug
      | _ => .warn
  | .closeFailed .. => .warn

/-- The wording of a notice. -/
def message : Notice → String
  | .started .. => "Starting transfer"
  | .transition .. => "transition"
  | .prepared .. => "Prepared packet"
  | .packetSent .. => "Sent: data packet"
  | .acknowledged .. => "Received: ACK"
  | .badReply _ verdict _ _ =>
      match verdict with
      | .unexpectedKind .. => "Protocol anomaly: " ++ verdict.message
      | _ => "Bad reply: " ++ verdict.message
  | .progress session =>
      "Downloading file: " ++ session.percent.toFixed 3 ++ "% completed"
  | .retransmitting .. => "Retransmitting packet"
  | .endSent => "Sent: ETX"
  | .closeFailed fault => "File close failed: " ++ fault.message
  | .completed .. => "Transfer complete"

/-- The bytes of a reply as a list of decimal numbers. -/
def replyText (reply : Reply) : String :=
  "[" ++ ", ".intercalate (reply.toBytes.map fun byte => toString byte.toNat) ++ "]"

/-- The fields that a notice carries beside its wording. -/
def fields : Notice → List (String × NoticeValue)
  | .started bytes mode chunkLimit =>
      [("bytes", .number bytes), ("mode", .text mode.name), ("max_chunk", .number chunkLimit)]
  | .transition origin target sequence =>
      [("from", .text origin.name), ("to", .text target.name),
        ("sequence", .number sequence.toNat)]
  | .prepared sequence chunkLength frameLength =>
      [("sequence", .number sequence.toNat), ("chunk", .number chunkLength),
        ("frame", .number frameLength)]
  | .packetSent sequence frameLength =>
      [("sequence", .number sequence.toNat), ("bytes", .number frameLength)]
  | .acknowledged sequence => [("sequence", .number sequence.toNat)]
  | .badReply sequence verdict received reply =>
      match verdict with
      | .checksumInvalid .. =>
          [("sequence", .number sequence.toNat), ("received", .number received),
            ("reply", .text (replyText reply))]
      | .unexpectedKind .. =>
          [("sequence", .number sequence.toNat), ("reply", .text (replyText reply))]
      | _ => [("sequence", .number sequence.toNat)]
  | .progress session =>
      [("sent", .number session.bytesSent), ("total", .number session.total)]
  | .retransmitting sequence attempt =>
      [("sequence", .number sequence.toNat), ("attempt", .number attempt.toNat)]
  | .endSent | .closeFailed .. => []
  | .completed report =>
      [("bytes", .number report.bytesSent), ("packets", .number report.packets),
        ("retransmits", .number report.retransmits)]

/-- Whether a notice is told when only those of a level and above are wanted. -/
def isTold (wanted : Level) (notice : Notice) : Bool :=
  wanted.rank ≤ notice.level.rank

end Notice

end KermitSend

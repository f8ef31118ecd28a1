import KermitSend.Text.Hexadecimal

/-!
Contract: why a data packet cannot be built or read.

Owns:
- the causes, each with the figures that describe it;
- the one wording of each cause.

Does not own: when a cause arises.
-/

namespace KermitSend.Packet

/-- What is wrong with the shape of a frame. -/
inductive Malformation where
  | tooShort
  | missingStart
  | missingTerminator
  | notData
  | lengthMismatch
deriving DecidableEq, Repr

/-- The wording of a malformation. -/
def Malformation.message : Malformation → String
  | .tooShort => "frame too short"
  | .missingStart => "missing start marker"
  | .missingTerminator => "missing terminator"
  | .notData => "not a data packet"
  | .lengthMismatch => "length field does not match frame"

/-- Why a data packet cannot be built or read. -/
inductive Error where
  | chunkTooLarge (length limit : Nat)
  | sequenceOutOfRange (sequence : UInt8)
  | allocation (size : Nat)
  | malformed (reason : Malformation)
  | checksumMismatch (expected received : UInt8)
  | danglingQuote
deriving DecidableEq, Repr

/-- The wording of a packet error. -/
def Error.message : Error → String
  | .chunkTooLarge length limit =>
      s!"chunk of {length} bytes exceeds the {limit} byte packet limit"
  | .sequenceOutOfRange sequence =>
      s!"sequence number {sequence.toNat} is outside 0..=127"
  | .allocation size =>
      s!"failed to allocate {size} bytes for escaped payload: "
        ++ "memory allocation failed because the computed capacity exceeded the "
        ++ "collection's maximum"
  | .malformed reason => "malformed packet: " ++ reason.message
  | .checksumMismatch expected received =>
      "checksum mismatch: expected 0x" ++ Text.Hexadecimal.ofByte expected
        ++ ", got 0x" ++ Text.Hexadecimal.ofByte received
  | .danglingQuote => "escape marker at end of payload"

end KermitSend.Packet

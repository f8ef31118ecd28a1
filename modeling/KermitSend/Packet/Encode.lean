import KermitSend.Packet.Error
import KermitSend.Packet.Mode
import KermitSend.Quoting

/-!
Contract: data packets as they go onto the line.

Short form: start, LENGTH, SEQUENCE, kind, payload, CHECK, terminator.  LENGTH counts the
bytes from SEQUENCE to CHECK.
Long form: start, 0, SEQUENCE, kind, HIGH, LOW, HEADER CHECK, payload, CHECK, terminator.
HIGH and LOW are digits in base 95 that count payload and CHECK.
Every field in capitals is printable; both checks cover all bytes between the start and
themselves.

Owns:
- the two layouts and the choice between them;
- the refusals: first a sequence number out of range, then a chunk over the limit.

Does not own: reading a frame.
-/

namespace KermitSend.Packet

/-- The bytes in front of a short payload. -/
def smallHeaderLength : Nat := 4

/-- The bytes in front of a long payload. -/
def largeHeaderLength : Nat := 7

/-- The check and the terminator. -/
def trailerLength : Nat := 2

/-- The base of the two length digits of the long form. -/
def lengthRadix : Nat := 95

/-- The bytes that a frame around `chunk` takes behind a header of the given length. -/
def frameLength (headerLength : Nat) (chunk : List UInt8) : Nat :=
  headerLength + Quoting.quotedLength chunk + trailerLength

/-- A packet's sequence number is at most 127. -/
def checkSequence (sequence : UInt8) : Except Error Unit :=
  if sequence > Wire.lastSequence then .error (.sequenceOutOfRange sequence) else .ok ()

/-- A packet's chunk is within the limit of its form. -/
def checkChunk (chunk : List UInt8) (limit : Nat) : Except Error Unit :=
  if chunk.length > limit then .error (.chunkTooLarge chunk.length limit) else .ok ()

/-- The frame of the short form, for a chunk and a sequence number within bounds. -/
def smallFrame (chunk : List UInt8) (sequence : UInt8) : List UInt8 :=
  let payload := Quoting.quote chunk
  let length := Printable.encode (UInt8.ofNat (payload.bytes.length + 3))
  let label := Printable.encode sequence
  let sum := length.toNat + label.toNat + Wire.dataKind.toNat + payload.sum
  [Wire.start, length, label, Wire.dataKind] ++ payload.bytes ++ [checksum sum, Wire.terminator]

/-- The frame of the long form, for a chunk and a sequence number within bounds. -/
def largeFrame (chunk : List UInt8) (sequence : UInt8) : List UInt8 :=
  let payload := Quoting.quote chunk
  let extended := payload.bytes.length + 1
  let header :=
    [Printable.encode 0, Printable.encode sequence, Wire.dataKind,
      Printable.encode (UInt8.ofNat (extended / lengthRadix)),
      Printable.encode (UInt8.ofNat (extended % lengthRadix))]
  let headerCheck := checksum (byteSum header)
  let sum := payload.sum + byteSum header + headerCheck.toNat
  [Wire.start] ++ header ++ [headerCheck] ++ payload.bytes ++ [checksum sum, Wire.terminator]

/-- Build a short packet that carries `chunk`. -/
def encodeSmall (chunk : List UInt8) (sequence : UInt8) : Except Error (List UInt8) := do
  checkSequence sequence
  checkChunk chunk Mode.small.limit
  return smallFrame chunk sequence

/-- Build a long packet that carries `chunk`. -/
def encodeLarge (chunk : List UInt8) (sequence : UInt8) : Except Error (List UInt8) := do
  checkSequence sequence
  checkChunk chunk Mode.large.limit
  return largeFrame chunk sequence

/-- Build the packet that `mode` calls for: large mode still sends short chunks in the
short form. -/
def encode (mode : Mode) (chunk : List UInt8) (sequence : UInt8) : Except Error (List UInt8) :=
  match mode with
  | .small => encodeSmall chunk sequence
  | .large =>
      if chunk.length ≥ largeThreshold then encodeLarge chunk sequence
      else encodeSmall chunk sequence

end KermitSend.Packet

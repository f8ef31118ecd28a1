import KermitSend.Packet.Encode

/-!
Contract: reading one complete data packet.

Owns:
- the checks on a frame and their order, in either form;
- the payload as it stood on the line and the file bytes it carries.

Does not own: finding the end of a frame in a longer byte string.
-/

namespace KermitSend.Packet

/-- A data packet that passed every check. -/
structure DataPacket where
  sequence : UInt8
  /-- The payload as it stood on the line, still quoted. -/
  payload : List UInt8
  mode : Mode
deriving DecidableEq, Repr

/-- The file bytes that a packet carries. -/
def DataPacket.data (packet : DataPacket) : Except Error (List UInt8) :=
  match Quoting.unquote packet.payload with
  | some chunk => .ok chunk
  | none => .error .danglingQuote

/-- The bytes of `frame` from position `first` up to, not including, position `last`. -/
def slice (frame : List UInt8) (first last : Nat) : List UInt8 :=
  (frame.take last).drop first

/-- The byte at a position, 0 past the end. -/
def byteAt (frame : List UInt8) (position : Nat) : UInt8 :=
  frame.getD position 0

/-- Compare a received check with the one that the covered bytes call for. -/
def verify (covered : List UInt8) (received : UInt8) : Except Error Unit :=
  let expected := checksum (byteSum covered)
  if received = expected then .ok () else .error (.checksumMismatch expected received)

/-- The checks on the parts that both forms share: length, marks and kind. -/
def checkShape (frame : List UInt8) : Except Error Unit :=
  if frame.length < smallHeaderLength + trailerLength then .error (.malformed .tooShort)
  else if byteAt frame 0 ≠ Wire.start then .error (.malformed .missingStart)
  else if byteAt frame (frame.length - 1) ≠ Wire.terminator then
    .error (.malformed .missingTerminator)
  else if byteAt frame 3 ≠ Wire.dataKind then .error (.malformed .notData)
  else .ok ()

/-- The length that the digits of a long header announce for payload and check. -/
def extendedLength (frame : List UInt8) : Nat :=
  (Printable.decode (byteAt frame 4)).toNat * lengthRadix
    + (Printable.decode (byteAt frame 5)).toNat

/-- Check the length field, and in the long form the header check, against the frame. -/
def checkLength (frame : List UInt8) : Except Error Mode :=
  let length := (Printable.decode (byteAt frame 1)).toNat
  if length = 0 then
    if frame.length < largeHeaderLength + trailerLength then .error (.malformed .tooShort)
    else do
      verify (slice frame 1 6) (byteAt frame 6)
      if frame.length ≠ largeHeaderLength + extendedLength frame + 1 then
        .error (.malformed .lengthMismatch)
      else return .large
  else if frame.length ≠ length + 3 then .error (.malformed .lengthMismatch)
  else .ok .small

/-- The bytes in front of the payload in either form. -/
def Mode.headerLength : Mode → Nat
  | .small => smallHeaderLength
  | .large => largeHeaderLength

/-- Read and check one complete frame, of either form. -/
def parse (frame : List UInt8) : Except Error DataPacket := do
  checkShape frame
  let mode ← checkLength frame
  let checkPosition := frame.length - 2
  verify (slice frame 1 checkPosition) (byteAt frame checkPosition)
  let sequence := Printable.decode (byteAt frame 2)
  checkSequence sequence
  return { sequence, payload := slice frame mode.headerLength checkPosition, mode }

end KermitSend.Packet

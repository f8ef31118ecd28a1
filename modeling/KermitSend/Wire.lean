/-!
Contract: the bytes that carry a meaning of their own on the line.

Owns:
- the marks that open and close a frame and end a transfer;
- the kinds of packet a sender and a receiver exchange;
- the modulus of sequence numbers and the largest one in use.

Does not own: how a number or a data byte is made printable.
-/

namespace KermitSend.Wire

/-- Opens every frame. -/
def start : UInt8 := 0x01

/-- Tells the receiver, outside any frame, that the transfer is over. -/
def endOfTransfer : UInt8 := 0x03

/-- Closes every frame: a carriage return. -/
def terminator : UInt8 := 0x0D

/-- Announces that the next byte is a quoted one: `#`. -/
def quoteMark : UInt8 := 0x23

/-- The highest control character of the seven-bit range. -/
def delete : UInt8 := 0x7F

/-- The kind of a packet that carries file data: `D`. -/
def dataKind : UInt8 := 0x44

/-- The kind of a reply that accepts a packet: `Y`. -/
def acceptKind : UInt8 := 0x59

/-- The kind of a reply that refuses a packet: `N`. -/
def refuseKind : UInt8 := 0x4E

/-- Sequence numbers count packets modulo this number. -/
def sequenceModulus : UInt8 := 128

/-- The largest sequence number a packet may carry. -/
def lastSequence : UInt8 := 127

/-- The number of bytes in a reply. -/
def replyLength : Nat := 6

end KermitSend.Wire

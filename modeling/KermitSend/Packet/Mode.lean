/-!
Contract: the two forms of a data packet.

Owns:
- the short form, whose length is one byte, and the long form, whose length is two digits;
- the limit each sets on the file bytes in one packet;
- the chunk length from which long-form senders use the long form.

Does not own: the layout of either form.
-/

namespace KermitSend.Packet

/-- The form a sender uses for its data packets. -/
inductive Mode where
  | small
  | large
deriving DecidableEq, Repr

namespace Mode

/-- The most file bytes that one packet of this mode carries. -/
def limit : Mode → Nat
  | .small => 100
  | .large => 500

/-- The name of the mode in messages. -/
def name : Mode → String
  | .small => "Small"
  | .large => "Large"

end Mode

/-- In large mode, chunks shorter than this still travel in the short form. -/
def largeThreshold : Nat := 95

end KermitSend.Packet

/-!
Contract: bytes stored into a buffer that is used again.

Owns:
- storing bytes from a position on, over what was there;
- what that does to the length, to the bytes in front and to the bytes stored;
- storing nothing, and storing in two goes.

Does not own: who stores.
-/

namespace KermitSend

/-- Put `bytes` into `buffer` from position `start` on, over what was there. -/
def overwrite (buffer : List UInt8) (start : Nat) (bytes : List UInt8) : List UInt8 :=
  buffer.take start ++ bytes ++ buffer.drop (start + bytes.length)

/-- Bytes that fit leave the length as it is. -/
theorem length_overwrite
    {buffer bytes : List UInt8}
    {start : Nat}
    (fits : start + bytes.length ≤ buffer.length) :
    (overwrite buffer start bytes).length = buffer.length := by
  simp only [overwrite, List.length_append, List.length_take, List.length_drop]
  omega

/-- The front of the buffer grows by exactly the bytes stored. -/
theorem take_overwrite
    {buffer bytes : List UInt8}
    {start : Nat}
    (fits : start + bytes.length ≤ buffer.length) :
    (overwrite buffer start bytes).take (start + bytes.length) = buffer.take start ++ bytes := by
  have front : (buffer.take start ++ bytes).length = start + bytes.length := by
    simp only [List.length_append, List.length_take]
    omega
  rw [overwrite, List.take_append_of_le_length (Nat.le_of_eq front.symm), ← front,
    List.take_length]

theorem overwrite_nil (buffer : List UInt8) (start : Nat) : overwrite buffer start [] = buffer := by
  rw [overwrite, List.length_nil, Nat.add_zero, List.append_nil, List.take_append_drop]

/-- Storing bytes right behind those just stored is storing both at once. -/
theorem overwrite_overwrite
    {buffer first : List UInt8}
    {start : Nat}
    (fits : start + first.length ≤ buffer.length)
    (second : List UInt8) :
    overwrite (overwrite buffer start first) (start + first.length) second =
      overwrite buffer start (first ++ second) := by
  have front : (buffer.take start ++ first).length = start + first.length := by
    simp only [List.length_append, List.length_take]
    omega
  have behind : (overwrite buffer start first).drop (start + first.length + second.length) =
      buffer.drop (start + (first ++ second).length) := by
    rw [overwrite, ← front, List.drop_length_add_append, List.drop_drop, front,
      List.length_append, Nat.add_assoc]
  rw [overwrite, take_overwrite fits, behind, overwrite, List.append_assoc (buffer.take start)]

end KermitSend

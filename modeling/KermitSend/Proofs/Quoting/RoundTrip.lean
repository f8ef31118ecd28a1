import KermitSend.Quoting

/-!
Contract: unquoting undoes quoting.

Owns:
- the bytes that flipping gives back, and how one step of unquoting reads them;
- the law that a quoted chunk is read as that chunk, whatever is behind it;
- the most bytes that quoting can emit.

Does not own: payloads that no quoting emitted.
-/

set_option autoImplicit false

namespace KermitSend.Quoting

/-- Bit 6 is among the low seven bits. -/
theorem low_xor (byte : UInt8) : (byte ^^^ 0x40) &&& 0x7F = (byte &&& 0x7F) ^^^ 0x40 := by
  apply UInt8.toNat_inj.1
  simp only [UInt8.toNat_and, UInt8.toNat_xor, Nat.and_xor_distrib_right]
  rfl

theorem low_xor_xor (byte : UInt8) : ((byte ^^^ 0x40) &&& 0x7F) ^^^ 0x40 = byte &&& 0x7F := by
  rw [low_xor, UInt8.xor_assoc, UInt8.xor_self, UInt8.xor_zero]

/-- A byte that has to be quoted is given back by flipping it twice.  Others need not be: the
flip of `c` is the mark, which stays as it is. -/
theorem unflip_flip
    {byte : UInt8}
    (quoted : mustQuote byte = true) :
    unflip (flip byte) = byte := by
  by_cases mark : byte &&& 0x7F = Wire.quoteMark
  · simp [unflip, flip, mark]
  · have other : (byte ^^^ 0x40) &&& 0x7F ≠ Wire.quoteMark := by
      intro same
      have low := low_xor_xor byte
      rw [same] at low
      rw [mustQuote, ← low] at quoted
      exact absurd quoted (by decide)
    simp only [unflip, flip, beq_iff_eq, mark, other, if_false]
    rw [UInt8.xor_assoc, UInt8.xor_self, UInt8.xor_zero]

theorem mustQuote_quoteMark : mustQuote Wire.quoteMark = true := by
  decide

/-- A mark and the byte behind it are read together. -/
theorem unquote_quoteMark (next : UInt8) (rest : List UInt8) :
    unquote (Wire.quoteMark :: next :: rest) = (unquote rest).map (unflip next :: ·) := by
  rw [unquote, if_pos (beq_self_eq_true Wire.quoteMark)]

theorem unquote_cons
    {byte : UInt8}
    (plain : byte ≠ Wire.quoteMark)
    (rest : List UInt8) :
    unquote (byte :: rest) = (unquote rest).map (byte :: ·) := by
  have other : (byte == Wire.quoteMark) = false := beq_false_of_ne plain
  cases rest with
  | nil => simp [unquote, other]
  | cons next rest => simp [unquote, other]

/-- A quoted chunk is read as that chunk, and what is behind it as it would be alone. -/
theorem unquote_quote_append (chunk payload : List UInt8) :
    unquote ((quote chunk).bytes ++ payload) = (unquote payload).map (chunk ++ ·) := by
  induction chunk with
  | nil => exact Option.map_id'.symm
  | cons byte chunk inductionHypothesis =>
      have joined : ∀ rest : Option (List UInt8),
          (rest.map (chunk ++ ·)).map (byte :: ·) = rest.map (byte :: chunk ++ ·) := by
        intro rest
        rw [Option.map_map]
        rfl
      rw [quote_cons, Quoted.cons]
      by_cases quoted : mustQuote byte = true
      · rw [if_pos quoted, List.cons_append, List.cons_append, unquote_quoteMark,
          inductionHypothesis, unflip_flip quoted, joined]
      · have plain : byte ≠ Wire.quoteMark := by
          intro mark
          exact quoted (mark ▸ mustQuote_quoteMark)
        rw [if_neg quoted, List.cons_append, unquote_cons plain, inductionHypothesis, joined]

theorem unquote_quote (chunk : List UInt8) : unquote (quote chunk).bytes = some chunk := by
  have read := unquote_quote_append chunk []
  rwa [List.append_nil, unquote, Option.map_some, List.append_nil] at read

theorem quotedLength_le (chunk : List UInt8) : quotedLength chunk ≤ 2 * chunk.length := by
  have quoted : chunk.countP mustQuote ≤ chunk.length := List.countP_le_length
  rw [quotedLength]
  omega

end KermitSend.Quoting

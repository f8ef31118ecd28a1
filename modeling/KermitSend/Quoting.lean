import KermitSend.Checksum
import KermitSend.Wire

/-!
Contract: control-byte quoting of packet payloads.

A byte whose low seven bits are a control character, or the quote mark itself, is sent as
two bytes: the mark, then the byte with bit 6 flipped.  The mark is sent unflipped.

Owns:
- which bytes are quoted and how one byte is flipped;
- quoting of a chunk, with the sum of the bytes it emits and their number;
- unquoting of a payload, which fails only on a mark with nothing after it.

Does not own: the frame around a payload.
-/

namespace KermitSend.Quoting

/-- A byte must be quoted when its low seven bits are a control character or the mark. -/
def mustQuote (byte : UInt8) : Bool :=
  let low := byte &&& 0x7F
  low < 0x20 || low == Wire.delete || low == Wire.quoteMark

/-- The byte that follows a mark: bit 6 flipped, save that the mark stays as it is. -/
def flip (byte : UInt8) : UInt8 :=
  if byte &&& 0x7F == Wire.quoteMark then byte else byte ^^^ 0x40

/-- The byte that a flipped byte came from; flipping bit 6 is its own inverse. -/
def unflip (byte : UInt8) : UInt8 :=
  flip byte

/-- Quoted bytes together with their sum. -/
structure Quoted where
  bytes : List UInt8
  sum : Nat
deriving DecidableEq, Repr

/-- Quote one byte in front of bytes already quoted. -/
def Quoted.cons (byte : UInt8) (rest : Quoted) : Quoted :=
  if mustQuote byte then
    { bytes := Wire.quoteMark :: flip byte :: rest.bytes
      sum := Wire.quoteMark.toNat + (flip byte).toNat + rest.sum }
  else
    { bytes := byte :: rest.bytes, sum := byte.toNat + rest.sum }

/-- Quote a whole chunk, summing the emitted bytes on the way. -/
def quote (chunk : List UInt8) : Quoted :=
  chunk.foldr Quoted.cons ⟨[], 0⟩

/-- Append the quoted form of `chunk` to `written`, with the sum of what was appended. -/
def quoteOnto (written chunk : List UInt8) : Quoted :=
  { quote chunk with bytes := written ++ (quote chunk).bytes }

/-- The number of bytes that `chunk` takes once quoted. -/
def quotedLength (chunk : List UInt8) : Nat :=
  chunk.length + chunk.countP mustQuote

/-- Undo quoting: `none` when the payload ends in a mark with nothing to quote. -/
def unquote : List UInt8 → Option (List UInt8)
  | [] => some []
  | [byte] => if byte == Wire.quoteMark then none else some [byte]
  | byte :: next :: rest =>
      if byte == Wire.quoteMark then (unquote rest).map (unflip next :: ·)
      else (unquote (next :: rest)).map (byte :: ·)

@[simp]
theorem quote_nil : quote [] = ⟨[], 0⟩ :=
  rfl

@[simp]
theorem quote_cons (byte : UInt8) (chunk : List UInt8) :
    quote (byte :: chunk) = (quote chunk).cons byte :=
  rfl

/-- The sum kept while quoting is the sum of the quoted bytes. -/
theorem quote_sum (chunk : List UInt8) : (quote chunk).sum = byteSum (quote chunk).bytes := by
  induction chunk with
  | nil => rfl
  | cons byte chunk inductionHypothesis =>
      rw [quote_cons, Quoted.cons]
      split <;> simp [inductionHypothesis, Nat.add_assoc]

/-- Quoting emits exactly the announced number of bytes. -/
theorem length_quote (chunk : List UInt8) :
    (quote chunk).bytes.length = quotedLength chunk := by
  induction chunk with
  | nil => rfl
  | cons byte chunk inductionHypothesis =>
      rw [quote_cons, Quoted.cons]
      split <;> simp_all [quotedLength] <;> omega

end KermitSend.Quoting

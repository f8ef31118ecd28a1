import Mathlib.Algebra.Ring.Nat
import KermitSend.Proofs.Quoting.RoundTrip

/-!
Contract: quoting carries the joining of byte strings over to what it emits.

Owns:
- quoting of joined chunks;
- writing byte after byte, with the sum of what is written in a word of 32 bits, and the law that
  this writes the quoted chunk;
- the law that quoting is faithful in length and in sum, respects joining, and is undone in front of
  any payload.

Does not own: payloads that no quoting emitted.
-/

set_option autoImplicit false

namespace KermitSend.Quoting

/-! ## Joined chunks -/

theorem bytes_quote_cons (byte : UInt8) (chunk : List UInt8) :
    (quote (byte :: chunk)).bytes = (quote [byte]).bytes ++ (quote chunk).bytes := by
  rw [quote_cons, quote_cons, Quoted.cons, Quoted.cons]
  split <;> rfl

theorem bytes_quote_append (left right : List UInt8) :
    (quote (left ++ right)).bytes = (quote left).bytes ++ (quote right).bytes := by
  induction left with
  | nil => rfl
  | cons byte left inductionHypothesis =>
      rw [List.cons_append, bytes_quote_cons, inductionHypothesis, bytes_quote_cons byte left,
        List.append_assoc]

theorem sum_quote_append (left right : List UInt8) :
    (quote (left ++ right)).sum = (quote left).sum + (quote right).sum := by
  rw [quote_sum, quote_sum, quote_sum, bytes_quote_append, byteSum_append]

/-- Quoting joined chunks onto bytes is quoting the second one onto what the first one left. -/
theorem quoteOnto_append (written left right : List UInt8) :
    quoteOnto written (left ++ right) =
      { bytes := (quoteOnto (quoteOnto written left).bytes right).bytes
        sum := (quoteOnto written left).sum + (quoteOnto written right).sum } := by
  simp only [quoteOnto, bytes_quote_append, sum_quote_append, List.append_assoc]

theorem quote_injective
    {left right : List UInt8}
    (same : (quote left).bytes = (quote right).bytes) :
    left = right := by
  have read := unquote_quote left
  rw [same, unquote_quote] at read
  exact (Option.some.inj read).symm

/-! ## Byte after byte -/

/-- Bytes that have been written, and a running sum in a word of 32 bits. -/
structure Emission where
  written : List UInt8
  sum : UInt32
deriving DecidableEq, Repr

namespace Emission

def push (emission : Emission) (byte : UInt8) : Emission :=
  { written := emission.written ++ [byte]
    sum := emission.sum + UInt32.ofNat byte.toNat }

/-- Write one byte of a chunk, behind a mark where it has to be quoted. -/
def emit (emission : Emission) (byte : UInt8) : Emission :=
  if mustQuote byte then (emission.push Wire.quoteMark).push (flip byte) else emission.push byte

/-- Bytes written one after another stand behind those that were there, and add to the word. -/
theorem foldl_push (bytes : List UInt8) (emission : Emission) :
    bytes.foldl push emission =
      { written := emission.written ++ bytes
        sum := emission.sum + UInt32.ofNat (byteSum bytes) } := by
  induction bytes generalizing emission with
  | nil => simp
  | cons byte bytes inductionHypothesis =>
      rw [List.foldl_cons, inductionHypothesis, push, byteSum_cons, UInt32.ofNat_add,
        List.append_assoc, UInt32.add_assoc, List.singleton_append]

private theorem emit_eq_foldl_push (emission : Emission) (byte : UInt8) :
    emission.emit byte = (quote [byte]).bytes.foldl push emission := by
  rw [emit, quote_cons, Quoted.cons]
  split <;> rfl

private theorem foldl_emit_eq_foldl_push (chunk : List UInt8) (emission : Emission) :
    chunk.foldl emit emission = (quote chunk).bytes.foldl push emission := by
  induction chunk generalizing emission with
  | nil => rfl
  | cons byte chunk inductionHypothesis =>
      rw [List.foldl_cons, inductionHypothesis, emit_eq_foldl_push,
        bytes_quote_cons byte chunk, List.foldl_append]

/-- Quoting byte after byte writes the quoted chunk behind what was there, and the word is the sum
of the bytes it wrote, as far as 32 bits go. -/
theorem foldl_emit (written chunk : List UInt8) :
    chunk.foldl emit ⟨written, 0⟩ =
      { written := (quoteOnto written chunk).bytes
        sum := UInt32.ofNat (quoteOnto written chunk).sum } := by
  rw [foldl_emit_eq_foldl_push, foldl_push, ← quote_sum, UInt32.zero_add]
  rfl

end Emission

/-! ## Faithful quoting -/

/-- Quoting a chunk onto bytes that are there leaves these in front and appends as many bytes as
announced, between one and two for each byte of the chunk; it returns their sum, in a word of 32
bits too where the sum fits.  What is appended for joined chunks is joined, and reading it gives
back the chunk in front of whatever the payload behind it reads as. -/
theorem quoting_faithful
    (written chunk : List UInt8)
    (fits : (quoteOnto written chunk).sum < 2 ^ 32) :
    (∃ appended,
      (quoteOnto written chunk).bytes = written ++ appended ∧
      appended.length = quotedLength chunk ∧
      (quoteOnto written chunk).sum = byteSum appended ∧
      (chunk.foldl Emission.emit ⟨written, 0⟩).written = written ++ appended ∧
      (chunk.foldl Emission.emit ⟨written, 0⟩).sum.toNat = byteSum appended ∧
      (∀ payload, unquote (appended ++ payload) = (unquote payload).map (chunk ++ ·)) ∧
      unquote appended = some chunk) ∧
    chunk.length ≤ quotedLength chunk ∧
    quotedLength chunk ≤ 2 * chunk.length ∧
    (∀ later, quoteOnto written (chunk ++ later) =
      { bytes := (quoteOnto (quoteOnto written chunk).bytes later).bytes
        sum := (quoteOnto written chunk).sum + (quoteOnto written later).sum }) ∧
    ∀ other, (quoteOnto written other).bytes = (quoteOnto written chunk).bytes →
      other = chunk := by
  refine ⟨⟨(quote chunk).bytes, rfl, length_quote chunk, quote_sum chunk, ?_, ?_,
    unquote_quote_append chunk, unquote_quote chunk⟩, ?_, quotedLength_le chunk,
    quoteOnto_append written chunk, ?_⟩
  · rw [Emission.foldl_emit]
    rfl
  · rw [Emission.foldl_emit, UInt32.toNat_ofNat', Nat.mod_eq_of_lt fits]
    exact quote_sum chunk
  · exact Nat.le_add_right chunk.length _
  · intro other same
    exact quote_injective (List.append_cancel_left same)

/-- A plain byte, a control byte, the highest one, the mark, and the mark with its high bit set. -/
def fiveKinds : List UInt8 :=
  [0x41, 0x01, 0x7F, 0x23, 0xA3]

theorem quoting_faithful_fiveKinds :
    (quoteOnto [0x0D] fiveKinds).bytes =
      [0x0D, 0x41, 0x23, 0x41, 0x23, 0x3F, 0x23, 0x23, 0x23, 0xA3] ∧
    (quoteOnto [0x0D] fiveKinds).sum < 2 ^ 32 ∧
    ∀ payload, unquote ((quote fiveKinds).bytes ++ payload) =
      (unquote payload).map (fiveKinds ++ ·) := by
  have fits : (quoteOnto [0x0D] fiveKinds).sum < 2 ^ 32 := by
    decide
  obtain ⟨⟨appended, split, -, -, -, -, read, -⟩, -⟩ :=
    quoting_faithful [0x0D] fiveKinds fits
  obtain rfl : (quote fiveKinds).bytes = appended := List.append_cancel_left split
  exact ⟨by decide, fits, read⟩

end KermitSend.Quoting

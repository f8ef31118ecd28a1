import KermitSend.Proofs.Packet.RoundTrip

/-!
Contract: nothing inside of a frame is taken for a mark.

Owns:
- payload bytes that are no control characters, with and without the eighth bit;
- fields and checks that are made printable and stay so;
- the law that a frame begins with the start, ends with the terminator and holds neither these
  nor the end of a transfer anywhere else;
- a byte stream split after every terminator, which gives back such frames.

Does not own: frames that no sender built, some of which do hold marks.
-/

set_option autoImplicit false

namespace KermitSend.Packet

/-! ## Payload bytes -/

/-- The low seven bits of a byte are no control character. -/
def Readable (byte : UInt8) : Prop :=
  0x20 ≤ byte &&& 0x7F ∧ byte &&& 0x7F ≤ 0x7E

theorem readable_iff (byte : UInt8) :
    Readable byte ↔ 32 ≤ (byte &&& 0x7F).toNat ∧ (byte &&& 0x7F).toNat ≤ 126 := by
  unfold Readable
  rw [UInt8.le_iff_toNat_le, UInt8.le_iff_toNat_le]
  rfl

private theorem toNat_low (byte : UInt8) : (byte &&& 0x7F).toNat = byte.toNat % 128 := by
  rw [UInt8.toNat_and]
  exact Nat.and_two_pow_sub_one_eq_mod byte.toNat 7

private theorem Readable.printable
    {byte : UInt8}
    (readable : Readable byte) :
    0x20 ≤ byte := by
  have low := ((readable_iff byte).1 readable).1
  have below := Nat.mod_le byte.toNat 128
  rw [toNat_low] at low
  apply UInt8.le_iff_toNat_le.2
  exact Nat.le_trans low below

theorem mustQuote_iff (byte : UInt8) :
    Quoting.mustQuote byte = true ↔
      (byte &&& 0x7F).toNat < 32 ∨ (byte &&& 0x7F).toNat = 127 ∨
        byte &&& 0x7F = Wire.quoteMark := by
  have control : byte &&& 0x7F < 0x20 ↔ (byte &&& 0x7F).toNat < 32 := by
    rw [UInt8.lt_iff_toNat_lt]
    rfl
  have delete : byte &&& 0x7F = Wire.delete ↔ (byte &&& 0x7F).toNat = 127 := by
    rw [← UInt8.toNat_inj]
    rfl
  simp only [Quoting.mustQuote, Bool.or_eq_true, decide_eq_true_eq, beq_iff_eq, control, delete,
    or_assoc]

private theorem readable_of_plain
    {byte : UInt8}
    (plain : ¬ Quoting.mustQuote byte = true) :
    Readable byte := by
  have low := toNat_low byte
  rw [mustQuote_iff] at plain
  rw [readable_iff]
  omega

/-- Flipping bit 6 takes the 32 control characters to `@` and what follows it, and the highest one
to `?`. -/
theorem readable_flip
    {byte : UInt8}
    (quoted : Quoting.mustQuote byte = true) :
    Readable (Quoting.flip byte) := by
  have controls : ∀ low < 32, 32 ≤ low ^^^ 64 ∧ low ^^^ 64 ≤ 126 := by
    decide
  unfold Quoting.flip
  by_cases mark : byte &&& 0x7F = Wire.quoteMark
  · rw [if_pos (beq_iff_eq.2 mark)]
    show 0x20 ≤ byte &&& 0x7F ∧ byte &&& 0x7F ≤ 0x7E
    rw [mark]
    decide
  · rw [if_neg (fun same => mark (beq_iff_eq.1 same)), readable_iff, Quoting.low_xor,
      UInt8.toNat_xor]
    rcases (mustQuote_iff byte).1 quoted with control | delete | same
    · exact controls _ control
    · rw [delete]
      decide
    · exact absurd same mark

/-- Quoting emits no control characters: neither a byte that stays as it is, nor the mark, nor the
byte behind it. -/
theorem readable_of_mem_quote
    {chunk : List UInt8}
    {byte : UInt8}
    (member : byte ∈ (Quoting.quote chunk).bytes) :
    Readable byte := by
  induction chunk with
  | nil => cases member
  | cons first chunk inductionHypothesis =>
      rw [Quoting.quote_cons, Quoting.Quoted.cons] at member
      by_cases quoted : Quoting.mustQuote first = true
      · rw [if_pos quoted, List.mem_cons, List.mem_cons] at member
        rcases member with rfl | rfl | later
        · unfold Readable
          decide
        · exact readable_flip quoted
        · exact inductionHypothesis later
      · rw [if_neg quoted, List.mem_cons] at member
        rcases member with rfl | later
        · exact readable_of_plain quoted
        · exact inductionHypothesis later

/-! ## Fields and checks -/

/-- A number below 224 is made printable without wrapping. -/
theorem printable_encode
    {value : UInt8}
    (small : value.toNat < 224) :
    0x20 ≤ Printable.encode value := by
  apply UInt8.le_iff_toNat_le.2
  unfold Printable.encode
  rw [UInt8.toNat_add]
  show 32 ≤ (value.toNat + 32) % 256
  omega

theorem printable_encode_ofNat
    {value : Nat}
    (small : value < 224) :
    0x20 ≤ Printable.encode (UInt8.ofNat value) := by
  apply printable_encode
  rw [UInt8.toNat_ofNat', Nat.mod_eq_of_lt (by omega)]
  exact small

private theorem printable_label
    {sequence : UInt8}
    (inRange : sequence ≤ Wire.lastSequence) :
    0x20 ≤ Printable.encode sequence := by
  apply printable_encode
  have last := (le_lastSequence_iff sequence).1 inRange
  omega

section Fields

variable
  {chunk : List UInt8}
  {sequence : UInt8}

private theorem printable_smallCovered
    (inRange : sequence ≤ Wire.lastSequence)
    (fits : chunk.length ≤ Mode.small.limit) :
    ∀ byte ∈ smallCovered chunk sequence, 0x20 ≤ byte := by
  have doubled := Quoting.quotedLength_le chunk
  rw [← Quoting.length_quote] at doubled
  rw [Mode.limit] at fits
  unfold smallCovered
  intro byte member
  simp only [List.mem_cons] at member
  rcases member with rfl | rfl | rfl | payload
  · -- LENGTH is at most 203
    apply printable_encode_ofNat
    omega
  · exact printable_label inRange
  · decide
  · exact (readable_of_mem_quote payload).printable

private theorem printable_largeCovered
    (inRange : sequence ≤ Wire.lastSequence)
    (fits : chunk.length ≤ Mode.large.limit) :
    ∀ byte ∈ largeCovered chunk sequence, 0x20 ≤ byte := by
  have doubled := Quoting.quotedLength_le chunk
  rw [← Quoting.length_quote] at doubled
  rw [Mode.limit] at fits
  unfold largeCovered largeHeader
  intro byte member
  simp only [List.cons_append, List.nil_append, List.mem_cons] at member
  rcases member with rfl | rfl | rfl | rfl | rfl | rfl | payload
  · decide
  · exact printable_label inRange
  · decide
  · -- HIGH is at most 10
    apply printable_encode_ofNat
    unfold lengthRadix
    omega
  · apply printable_encode_ofNat
    unfold lengthRadix
    omega
  · exact (checksum_range _).1
  · exact (readable_of_mem_quote payload).printable

end Fields

/-! ## Frames -/

/-- A frame stands between its marks: what is in between is printable. -/
def Delimited (frame : List UInt8) : Prop :=
  ∃ body, frame = [Wire.start] ++ body ++ [Wire.terminator] ∧ ∀ byte ∈ body, 0x20 ≤ byte

private theorem delimited_sealed
    {covered : List UInt8}
    (printable : ∀ byte ∈ covered, 0x20 ≤ byte) :
    Delimited (sealed covered) := by
  refine ⟨covered ++ [checksum (byteSum covered)], by simp [sealed], ?_⟩
  intro byte member
  rw [List.mem_append, List.mem_singleton] at member
  rcases member with inside | rfl
  · exact printable byte inside
  · exact (checksum_range _).1

private theorem delimited_frameAs
    {form : Mode}
    {chunk : List UInt8}
    {sequence : UInt8}
    (inRange : sequence ≤ Wire.lastSequence)
    (fits : chunk.length ≤ form.limit) :
    Delimited (frameAs form chunk sequence) := by
  cases form with
  | small =>
      rw [frameAs, smallFrame_eq_sealed]
      exact delimited_sealed (printable_smallCovered inRange fits)
  | large =>
      rw [frameAs, largeFrame_eq_sealed]
      exact delimited_sealed (printable_largeCovered inRange fits)

/-- A frame that one of the encoders has built for a chunk. -/
def Built (chunk : List UInt8) (sequence : UInt8) (frame : List UInt8) : Prop :=
  encodeSmall chunk sequence = .ok frame ∨ encodeLarge chunk sequence = .ok frame ∨
    ∃ mode, encode mode chunk sequence = .ok frame

private theorem Built.eq_frameAs
    {chunk frame : List UInt8}
    {sequence : UInt8}
    (built : Built chunk sequence frame) :
    ∃ form : Mode, sequence ≤ Wire.lastSequence ∧ chunk.length ≤ form.limit ∧
      frame = frameAs form chunk sequence := by
  rcases built with small | large | ⟨mode, encoded⟩
  · exact ⟨.small, eq_frameAs_of_encodeAs small⟩
  · exact ⟨.large, eq_frameAs_of_encodeAs large⟩
  · rw [encode_eq_encodeAs] at encoded
    exact ⟨formOf mode chunk, eq_frameAs_of_encodeAs encoded⟩

/-- A frame around a chunk holds no mark but at its ends, and no control character in its payload,
which is the quoted chunk. -/
structure Transparent (chunk frame : List UInt8) : Prop where
  delimited : Delimited frame
  start : ∀ position, frame[position]? = some Wire.start → position = 0
  terminator : ∀ position, frame[position]? = some Wire.terminator → position + 1 = frame.length
  endOfTransfer : Wire.endOfTransfer ∉ frame
  payload : ∃ packet, parse frame = .ok packet ∧ packet.payload = (Quoting.quote chunk).bytes ∧
    ∀ byte ∈ packet.payload, Readable byte

section Delimited

variable
  {frame : List UInt8}

/-- A byte of a frame is the start at its beginning, the terminator at its end, or printable. -/
theorem Delimited.cases_at
    (delimited : Delimited frame)
    {position : Nat}
    {byte : UInt8}
    (found : frame[position]? = some byte) :
    position = 0 ∧ byte = Wire.start ∨ 0x20 ≤ byte ∨
      position + 1 = frame.length ∧ byte = Wire.terminator := by
  obtain ⟨body, rfl, printable⟩ := delimited
  cases position with
  | zero =>
      left
      exact ⟨rfl, (Option.some.inj found).symm⟩
  | succ position =>
      right
      have after : (body ++ [Wire.terminator])[position]? = some byte := found
      by_cases inside : position < body.length
      · left
        rw [List.getElem?_append_left inside] at after
        exact printable byte (List.mem_of_getElem? after)
      · right
        rw [List.getElem?_append_right (Nat.not_lt.1 inside), List.getElem?_singleton,
          Option.ite_none_right_eq_some, Option.some.injEq] at after
        obtain ⟨last, rfl⟩ := after
        refine ⟨?_, rfl⟩
        simp only [List.length_append, List.length_singleton]
        omega

private theorem Delimited.start_at
    (delimited : Delimited frame)
    {position : Nat}
    (found : frame[position]? = some Wire.start) :
    position = 0 := by
  rcases delimited.cases_at found with ⟨first, -⟩ | printable | ⟨-, same⟩
  · exact first
  · exact absurd printable (by decide)
  · exact absurd same (by decide)

private theorem Delimited.terminator_at
    (delimited : Delimited frame)
    {position : Nat}
    (found : frame[position]? = some Wire.terminator) :
    position + 1 = frame.length := by
  rcases delimited.cases_at found with ⟨-, same⟩ | printable | ⟨last, -⟩
  · exact absurd same (by decide)
  · exact absurd printable (by decide)
  · exact last

theorem Delimited.endOfTransfer_notMem
    (delimited : Delimited frame) :
    Wire.endOfTransfer ∉ frame := by
  intro member
  obtain ⟨position, found⟩ := List.getElem?_of_mem member
  rcases delimited.cases_at found with ⟨-, same⟩ | printable | ⟨-, same⟩
  · exact absurd same (by decide)
  · exact absurd printable (by decide)
  · exact absurd same (by decide)

end Delimited

theorem Built.transparent
    {chunk frame : List UInt8}
    {sequence : UInt8}
    (built : Built chunk sequence frame) :
    Transparent chunk frame := by
  obtain ⟨form, inRange, fits, rfl⟩ := built.eq_frameAs
  have delimited := delimited_frameAs inRange fits
  refine ⟨delimited, ?_, ?_, delimited.endOfTransfer_notMem,
    ⟨_, parse_frameAs inRange fits, rfl, ?_⟩⟩
  · intro position found
    exact delimited.start_at found
  · intro position found
    exact delimited.terminator_at found
  · intro byte member
    exact readable_of_mem_quote member

/-! ## Splitting a stream -/

/-- Split a byte stream after every mark; the second part is what follows the last one. -/
def splitAfter (mark : UInt8) : List UInt8 → List (List UInt8) × List UInt8
  | [] => ([], [])
  | byte :: bytes =>
      let later := splitAfter mark bytes
      if byte = mark then ([byte] :: later.1, later.2)
      else
        match later.1 with
        | [] => ([], byte :: later.2)
        | piece :: pieces => ((byte :: piece) :: pieces, later.2)

section Split

variable
  {mark : UInt8}

private theorem splitAfter_of_notMem
    {bytes : List UInt8}
    (unmarked : mark ∉ bytes) :
    splitAfter mark bytes = ([], bytes) := by
  induction bytes with
  | nil => rfl
  | cons byte bytes inductionHypothesis =>
      rw [List.mem_cons, not_or] at unmarked
      unfold splitAfter
      rw [inductionHypothesis unmarked.2, if_neg (Ne.symm unmarked.1)]

private theorem splitAfter_mark (later : List UInt8) :
    splitAfter mark (mark :: later) =
      ([mark] :: (splitAfter mark later).1, (splitAfter mark later).2) := by
  rw [splitAfter, if_pos rfl]

/-- A piece that holds the mark at its end only is split off whole. -/
theorem splitAfter_append
    {body : List UInt8}
    (unmarked : mark ∉ body)
    (later : List UInt8) :
    splitAfter mark (body ++ [mark] ++ later) =
      ((body ++ [mark]) :: (splitAfter mark later).1, (splitAfter mark later).2) := by
  induction body with
  | nil => exact splitAfter_mark later
  | cons byte body inductionHypothesis =>
      rw [List.mem_cons, not_or] at unmarked
      have rest := inductionHypothesis unmarked.2
      show splitAfter mark (byte :: (body ++ [mark] ++ later)) = _
      rw [splitAfter, rest, if_neg (Ne.symm unmarked.1)]
      rfl

private theorem Delimited.splitAfter_append
    {frame : List UInt8}
    (delimited : Delimited frame)
    (later : List UInt8) :
    splitAfter Wire.terminator (frame ++ later) =
      (frame :: (splitAfter Wire.terminator later).1, (splitAfter Wire.terminator later).2) := by
  obtain ⟨body, rfl, printable⟩ := delimited
  apply Packet.splitAfter_append
  intro member
  rw [List.mem_append, List.mem_singleton] at member
  rcases member with same | inside
  · exact absurd same (by decide)
  · exact absurd (printable _ inside) (by decide)

/-- A stream of frames is split where they end. -/
theorem splitAfter_flatten_append
    {frames : List (List UInt8)}
    (delimited : ∀ frame ∈ frames, Delimited frame)
    {rest : List UInt8}
    (unmarked : Wire.terminator ∉ rest) :
    splitAfter Wire.terminator (frames.flatten ++ rest) = (frames, rest) := by
  induction frames with
  | nil => exact splitAfter_of_notMem unmarked
  | cons frame frames inductionHypothesis =>
      have first := delimited frame List.mem_cons_self
      have others := inductionHypothesis fun other member =>
        delimited other (List.mem_cons_of_mem frame member)
      rw [List.flatten_cons, List.append_assoc, first.splitAfter_append, others]

end Split

end KermitSend.Packet

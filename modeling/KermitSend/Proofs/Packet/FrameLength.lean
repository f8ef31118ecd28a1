import KermitSend.Proofs.Packet.RoundTrip

/-!
Contract: the lengths of frames, and what their length fields say of them.

A frame is given room before its chunk is quoted, by a count of the bytes to be quoted; its length
fields come from the bytes that quoting emitted.

Owns:
- the law that both agree in either form: a frame takes exactly the room counted for it, and its
  length fields count the quoted bytes without loss;
- the bounds of lengths and length fields, and the chunks that reach them.

Does not own: what a reader makes of a length field.
-/

set_option autoImplicit false

namespace KermitSend.Packet

section Lengths

variable
  (chunk : List UInt8)
  (sequence : UInt8)

/-- A short frame takes the room counted for it, whatever its chunk. -/
theorem length_smallFrame :
    (smallFrame chunk sequence).length = frameLength smallHeaderLength chunk := by
  simp only [smallFrame, frameLength, smallHeaderLength, trailerLength, List.length_append,
    List.length_cons, List.length_nil, Quoting.length_quote]

private theorem length_largeFrame :
    (largeFrame chunk sequence).length = frameLength largeHeaderLength chunk := by
  simp only [largeFrame, frameLength, largeHeaderLength, trailerLength, List.length_append,
    List.length_cons, List.length_nil, Quoting.length_quote]

end Lengths

/-! ## Length fields -/

/-- The number that the length field at a position of a frame stands for. -/
def fieldAt (frame : List UInt8) (position : Nat) : Nat :=
  (Printable.decode (byteAt frame position)).toNat

section Fields

variable
  {chunk : List UInt8}
  (sequence : UInt8)

/-- Quoting at most doubles a chunk, so that a form bounds what it emits. -/
theorem quotedLength_le_of_fits
    {form : Mode}
    (fits : chunk.length ≤ form.limit) :
    Quoting.quotedLength chunk ≤ 2 * form.limit := by
  have doubled := Quoting.quotedLength_le chunk
  omega

private theorem fieldAt_smallFrame (fits : chunk.length ≤ Mode.small.limit) :
    fieldAt (smallFrame chunk sequence) 1 = Quoting.quotedLength chunk + 3 := by
  have emitted : Quoting.quotedLength chunk ≤ 200 := quotedLength_le_of_fits fits
  show (Printable.decode (Printable.encode (UInt8.ofNat
    ((Quoting.quote chunk).bytes.length + 3)))).toNat = _
  rw [Printable.decode_encode, UInt8.toNat_ofNat', Quoting.length_quote, Nat.mod_eq_of_lt]
  omega

/-- The mark of the long form stands where a short frame has its length. -/
theorem fieldAt_largeFrame_mark : fieldAt (largeFrame chunk sequence) 1 = 0 := by
  show (Printable.decode (Printable.encode 0)).toNat = 0
  rw [Printable.decode_encode]
  rfl

/-- The digits of a long frame are the quotient and the remainder of what they count. -/
theorem fieldAt_largeFrame_digits (fits : chunk.length ≤ Mode.large.limit) :
    fieldAt (largeFrame chunk sequence) 4 = (Quoting.quotedLength chunk + 1) / lengthRadix ∧
      fieldAt (largeFrame chunk sequence) 5 =
        (Quoting.quotedLength chunk + 1) % lengthRadix := by
  have emitted : Quoting.quotedLength chunk ≤ 1000 := quotedLength_le_of_fits fits
  constructor
  · show (Printable.decode (Printable.encode (UInt8.ofNat
      (((Quoting.quote chunk).bytes.length + 1) / lengthRadix)))).toNat = _
    rw [Printable.decode_encode, UInt8.toNat_ofNat', Quoting.length_quote, lengthRadix,
      Nat.mod_eq_of_lt]
    omega
  · show (Printable.decode (Printable.encode (UInt8.ofNat
      (((Quoting.quote chunk).bytes.length + 1) % lengthRadix)))).toNat = _
    rw [Printable.decode_encode, UInt8.toNat_ofNat', Quoting.length_quote, lengthRadix,
      Nat.mod_eq_of_lt]
    omega

end Fields

/-! ## Frames measured -/

/-- A short frame fills the room counted for its chunk, and its length field counts the quoted
bytes and three more: it never shows the zero that marks a long frame. -/
structure MeasuredSmall (chunk frame : List UInt8) : Prop where
  room : frame.length = frameLength smallHeaderLength chunk
  counted : fieldAt frame 1 = Quoting.quotedLength chunk + 3
  least : 3 ≤ fieldAt frame 1
  most : fieldAt frame 1 ≤ 203
  bounded : frame.length ≤ 206

/-- A long frame fills the room counted for its chunk, shows the mark of its form, and counts the
quoted bytes and their check in two digits in base 95. -/
structure MeasuredLarge (chunk frame : List UInt8) : Prop where
  room : frame.length = frameLength largeHeaderLength chunk
  marked : fieldAt frame 1 = 0
  high : fieldAt frame 4 < 95
  low : fieldAt frame 5 < 95
  counted : 95 * fieldAt frame 4 + fieldAt frame 5 = Quoting.quotedLength chunk + 1
  bounded : frame.length ≤ 1009

section Measured

variable
  {chunk : List UInt8}
  (sequence : UInt8)

theorem measured_smallFrame (fits : chunk.length ≤ Mode.small.limit) :
    MeasuredSmall chunk (smallFrame chunk sequence) := by
  have room := length_smallFrame chunk sequence
  have counted := fieldAt_smallFrame sequence fits
  have emitted : Quoting.quotedLength chunk ≤ 200 := quotedLength_le_of_fits fits
  refine { room, counted, least := by omega, most := by omega, bounded := ?_ }
  rw [room, frameLength, smallHeaderLength, trailerLength]
  omega

theorem measured_largeFrame (fits : chunk.length ≤ Mode.large.limit) :
    MeasuredLarge chunk (largeFrame chunk sequence) := by
  have room := length_largeFrame chunk sequence
  obtain ⟨high, low⟩ := fieldAt_largeFrame_digits sequence fits
  have emitted : Quoting.quotedLength chunk ≤ 1000 := quotedLength_le_of_fits fits
  rw [lengthRadix] at high low
  refine
    { room
      marked := fieldAt_largeFrame_mark sequence
      high := by omega
      low := by omega
      counted := by omega
      bounded := ?_ }
  rw [room, frameLength, largeHeaderLength, trailerLength]
  omega

/-- A form frames every chunk within its limit, under every sequence number in range. -/
theorem encodeAs_eq_frameAs
    {form : Mode}
    {sequence : UInt8}
    (inRange : sequence.toNat ≤ 127)
    (fits : chunk.length ≤ form.limit) :
    encodeAs form chunk sequence = .ok (frameAs form chunk sequence) := by
  have early := UInt8.not_lt.2 ((le_lastSequence_iff sequence).2 inRange)
  rw [encodeAs_eq, if_neg early, if_neg (Nat.not_lt.2 fits)]

end Measured

/-- Within the limit of a form, every chunk gets a frame that fills exactly the room counted for it
and whose length fields count it without loss. -/
theorem frames_measured
    (chunk : List UInt8)
    {sequence : UInt8}
    (inRange : sequence.toNat ≤ 127) :
    (chunk.length ≤ 100 →
      ∃ frame, encodeSmall chunk sequence = .ok frame ∧ MeasuredSmall chunk frame) ∧
    (chunk.length ≤ 500 →
      ∃ frame, encodeLarge chunk sequence = .ok frame ∧ MeasuredLarge chunk frame) := by
  constructor
  · intro fits
    have framed : encodeAs .small chunk sequence = _ := encodeAs_eq_frameAs inRange fits
    exact ⟨_, framed, measured_smallFrame sequence fits⟩
  · intro fits
    have framed : encodeAs .large chunk sequence = _ := encodeAs_eq_frameAs inRange fits
    exact ⟨_, framed, measured_largeFrame sequence fits⟩

/-- Chunks of nothing but bytes to be quoted reach the bounds of both forms. -/
theorem frames_measured_allQuoted :
    (∃ frame, encodeSmall (List.replicate 100 0x01) 127 = .ok frame ∧
      MeasuredSmall (List.replicate 100 0x01) frame ∧ frame.length = 206 ∧
        fieldAt frame 1 = 203) ∧
    ∃ frame, encodeLarge (List.replicate 500 0x01) 127 = .ok frame ∧
      MeasuredLarge (List.replicate 500 0x01) frame ∧ frame.length = 1009 ∧
        fieldAt frame 4 = 10 ∧ fieldAt frame 5 = 51 := by
  have quoted : ∀ count, Quoting.quotedLength (List.replicate count 0x01) = 2 * count := by
    intro count
    have marked : Quoting.mustQuote 0x01 = true := by
      decide
    rw [Quoting.quotedLength, List.length_replicate, List.countP_replicate, if_pos marked]
    omega
  have fits : ∀ count, (List.replicate count (0x01 : UInt8)).length ≤ count :=
    fun count => Nat.le_of_eq List.length_replicate
  have last : (127 : UInt8).toNat ≤ 127 := by
    decide
  obtain ⟨short, shortFramed, shortMeasured⟩ :=
    (frames_measured (List.replicate 100 0x01) last).1 (fits 100)
  obtain ⟨long, longFramed, longMeasured⟩ :=
    (frames_measured (List.replicate 500 0x01) last).2 (fits 500)
  have shortRoom := shortMeasured.room
  have shortCounted := shortMeasured.counted
  have longRoom := longMeasured.room
  have longCounted := longMeasured.counted
  have lowDigit := longMeasured.low
  rw [frameLength, quoted] at shortRoom longRoom
  rw [quoted] at shortCounted longCounted
  exact ⟨⟨short, shortFramed, shortMeasured, shortRoom, shortCounted⟩,
    long, longFramed, longMeasured, longRoom, by omega, by omega⟩

end KermitSend.Packet

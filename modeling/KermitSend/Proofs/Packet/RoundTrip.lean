import KermitSend.Proofs.Packet.Grammar
import KermitSend.Proofs.Quoting.RoundTrip

/-!
Contract: reading undoes framing, in both forms.

Owns:
- both layouts as sealed frames, and the packets they carry;
- exactly which chunks and sequence numbers are framed, and the refusal of the others;
- the law that a frame is read back as the sequence number and the chunk it was built for.

Does not own: frames that no sender built.
-/

set_option autoImplicit false

namespace KermitSend.Packet

/-- The packet that is to be read from a frame around a chunk. -/
def packetOf (mode : Mode) (chunk : List UInt8) (sequence : UInt8) : DataPacket :=
  { sequence, payload := (Quoting.quote chunk).bytes, mode }

theorem data_packetOf (mode : Mode) (chunk : List UInt8) (sequence : UInt8) :
    (packetOf mode chunk sequence).data = .ok chunk := by
  rw [DataPacket.data, packetOf, Quoting.unquote_quote]

/-! ## The short form -/

/-- What the check of a short frame covers. -/
def smallCovered (chunk : List UInt8) (sequence : UInt8) : List UInt8 :=
  let payload := (Quoting.quote chunk).bytes
  Printable.encode (UInt8.ofNat (payload.length + 3)) :: Printable.encode sequence ::
    Wire.dataKind :: payload

theorem smallFrame_eq_sealed (chunk : List UInt8) (sequence : UInt8) :
    smallFrame chunk sequence = sealed (smallCovered chunk sequence) := by
  simp [smallFrame, sealed, smallCovered, Quoting.quote_sum, Nat.add_assoc]

/-- A chunk within the limit fills a short frame that its length field still counts. -/
theorem carries_smallCovered
    {chunk : List UInt8}
    {sequence : UInt8}
    (inRange : sequence ≤ Wire.lastSequence)
    (fits : chunk.length ≤ Mode.small.limit) :
    Carries (smallCovered chunk sequence) (packetOf .small chunk sequence) := by
  have doubled := Quoting.quotedLength_le chunk
  rw [← Quoting.length_quote] at doubled
  rw [Mode.limit] at fits
  -- a hundred bytes quoted are at most two hundred, and the field leaves room for 252
  have counted : (Quoting.quote chunk).bytes.length ≤ 252 := by
    omega
  exact carries_smallFields inRange counted

/-! ## The long form -/

/-- What the header check of a long frame covers. -/
def largeHeader (chunk : List UInt8) (sequence : UInt8) : List UInt8 :=
  let extended := (Quoting.quote chunk).bytes.length + 1
  [Printable.encode 0, Printable.encode sequence, Wire.dataKind,
    Printable.encode (UInt8.ofNat (extended / lengthRadix)),
    Printable.encode (UInt8.ofNat (extended % lengthRadix))]

def largeCovered (chunk : List UInt8) (sequence : UInt8) : List UInt8 :=
  let header := largeHeader chunk sequence
  header ++ checksum (byteSum header) :: (Quoting.quote chunk).bytes

theorem largeFrame_eq_sealed (chunk : List UInt8) (sequence : UInt8) :
    largeFrame chunk sequence = sealed (largeCovered chunk sequence) := by
  have sum : (Quoting.quote chunk).sum + byteSum (largeHeader chunk sequence) +
      (checksum (byteSum (largeHeader chunk sequence))).toNat =
        byteSum (largeCovered chunk sequence) := by
    rw [largeCovered, byteSum_append, byteSum_cons, Quoting.quote_sum]
    omega
  rw [sealed, ← sum]
  simp [largeFrame, largeCovered, largeHeader]

private theorem extendedLength_largeCovered
    {chunk : List UInt8}
    {sequence : UInt8}
    (fits : chunk.length ≤ Mode.large.limit) :
    extendedLength (sealed (largeCovered chunk sequence)) =
      (Quoting.quote chunk).bytes.length + 1 := by
  have doubled := Quoting.quotedLength_le chunk
  rw [← Quoting.length_quote] at doubled
  rw [Mode.limit] at fits
  have high : byteAt (sealed (largeCovered chunk sequence)) 4 =
      Printable.encode (UInt8.ofNat (((Quoting.quote chunk).bytes.length + 1) / lengthRadix)) :=
    rfl
  have low : byteAt (sealed (largeCovered chunk sequence)) 5 =
      Printable.encode (UInt8.ofNat (((Quoting.quote chunk).bytes.length + 1) % lengthRadix)) :=
    rfl
  -- five hundred bytes quoted are at most a thousand: the high digit stays below 11
  unfold extendedLength
  rw [high, low, Printable.decode_encode, Printable.decode_encode, UInt8.toNat_ofNat',
    UInt8.toNat_ofNat', lengthRadix]
  omega

/-- A chunk within the limit fills a long frame that its digits still count. -/
theorem carries_largeCovered
    {chunk : List UInt8}
    {sequence : UInt8}
    (inRange : sequence ≤ Wire.lastSequence)
    (fits : chunk.length ≤ Mode.large.limit) :
    Carries (largeCovered chunk sequence) (packetOf .large chunk sequence) := by
  have counted : extendedLength (sealed (largeCovered chunk sequence)) =
      (Quoting.quote chunk).bytes.length + 1 := extendedLength_largeCovered fits
  exact carries_largeFields inRange counted

/-! ## Either form -/

/-- The form in which a mode sends a chunk. -/
def formOf (mode : Mode) (chunk : List UInt8) : Mode :=
  match mode with
  | .small => .small
  | .large => if chunk.length ≥ largeThreshold then .large else .small

def encodeAs (form : Mode) (chunk : List UInt8) (sequence : UInt8) : Except Error (List UInt8) :=
  match form with
  | .small => encodeSmall chunk sequence
  | .large => encodeLarge chunk sequence

def frameAs (form : Mode) (chunk : List UInt8) (sequence : UInt8) : List UInt8 :=
  match form with
  | .small => smallFrame chunk sequence
  | .large => largeFrame chunk sequence

section Forms

variable
  (mode form : Mode)
  (chunk : List UInt8)
  (sequence : UInt8)

/-- A form refuses sequence numbers first and chunks second, and frames everything else. -/
theorem encodeAs_eq :
    encodeAs form chunk sequence =
      if Wire.lastSequence < sequence then .error (.sequenceOutOfRange sequence)
      else if form.limit < chunk.length then .error (.chunkTooLarge chunk.length form.limit)
      else .ok (frameAs form chunk sequence) := by
  by_cases late : Wire.lastSequence < sequence <;>
    by_cases long : form.limit < chunk.length <;>
      cases form <;>
        simp [encodeAs, encodeSmall, encodeLarge, checkSequence, checkChunk, frameAs, late, long,
          bind, Except.bind, pure, Except.pure]

theorem formOf_eq_large_iff :
    formOf mode chunk = .large ↔ mode = .large ∧ largeThreshold ≤ chunk.length := by
  cases mode with
  | small => simp [formOf]
  | large => simp [formOf]

/-- A mode refuses what the form it chooses refuses, in the words of its own limit. -/
theorem encode_eq :
    encode mode chunk sequence =
      if Wire.lastSequence < sequence then .error (.sequenceOutOfRange sequence)
      else if mode.limit < chunk.length then .error (.chunkTooLarge chunk.length mode.limit)
      else .ok (frameAs (formOf mode chunk) chunk sequence) := by
  cases mode with
  | small => exact encodeAs_eq .small chunk sequence
  | large =>
      rw [encode, formOf]
      by_cases long : chunk.length ≥ largeThreshold
      · rw [if_pos long, if_pos long]
        exact encodeAs_eq .large chunk sequence
      · have small := encodeAs_eq .small chunk sequence
        have withinSmall : ¬ Mode.small.limit < chunk.length := by
          rw [largeThreshold] at long
          rw [Mode.limit]
          omega
        have withinLarge : ¬ Mode.large.limit < chunk.length := by
          rw [largeThreshold] at long
          rw [Mode.limit]
          omega
        rw [if_neg withinSmall] at small
        rw [if_neg long, if_neg long, if_neg withinLarge]
        exact small

end Forms

theorem length_le_limit_formOf
    {mode : Mode}
    {chunk : List UInt8}
    (fits : chunk.length ≤ mode.limit) :
    chunk.length ≤ (formOf mode chunk).limit := by
  cases mode with
  | small => exact fits
  | large =>
      rw [formOf]
      by_cases long : chunk.length ≥ largeThreshold
      · rw [if_pos long]
        exact fits
      · rw [if_neg long, Mode.limit]
        rw [largeThreshold] at long
        omega

theorem parse_frameAs
    {form : Mode}
    {chunk : List UInt8}
    {sequence : UInt8}
    (inRange : sequence ≤ Wire.lastSequence)
    (fits : chunk.length ≤ form.limit) :
    parse (frameAs form chunk sequence) = .ok (packetOf form chunk sequence) := by
  cases form with
  | small =>
      rw [frameAs, smallFrame_eq_sealed, parse_sealed_eq_ok_iff]
      exact carries_smallCovered inRange fits
  | large =>
      rw [frameAs, largeFrame_eq_sealed, parse_sealed_eq_ok_iff]
      exact carries_largeCovered inRange fits

theorem eq_frameAs_of_encodeAs
    {form : Mode}
    {chunk frame : List UInt8}
    {sequence : UInt8}
    (encoded : encodeAs form chunk sequence = .ok frame) :
    sequence ≤ Wire.lastSequence ∧ chunk.length ≤ form.limit ∧
      frame = frameAs form chunk sequence := by
  rw [encodeAs_eq] at encoded
  by_cases late : Wire.lastSequence < sequence
  · simp [late] at encoded
  · by_cases long : form.limit < chunk.length
    · simp [late, long] at encoded
    · rw [if_neg late, if_neg long, Except.ok.injEq] at encoded
      exact ⟨UInt8.not_lt.1 late, Nat.not_lt.1 long, encoded.symm⟩

theorem encode_eq_encodeAs
    (mode : Mode)
    (chunk : List UInt8)
    (sequence : UInt8) :
    encode mode chunk sequence = encodeAs (formOf mode chunk) chunk sequence := by
  cases mode with
  | small => rfl
  | large =>
      unfold encode formOf
      by_cases long : chunk.length ≥ largeThreshold
      · rw [if_pos long, if_pos long]
        rfl
      · rw [if_neg long, if_neg long]
        rfl

theorem parse_of_encode
    {mode : Mode}
    {chunk frame : List UInt8}
    {sequence : UInt8}
    (encoded : encode mode chunk sequence = .ok frame) :
    parse frame = .ok (packetOf (formOf mode chunk) chunk sequence) := by
  rw [encode_eq_encodeAs] at encoded
  obtain ⟨inRange, fits, rfl⟩ := eq_frameAs_of_encodeAs encoded
  exact parse_frameAs inRange fits

/-- The domain of framing is exact, and reading undoes framing on all of it. -/
theorem encode_exact
    (mode : Mode)
    (chunk : List UInt8)
    (sequence : UInt8) :
    (127 < sequence.toNat →
      encode mode chunk sequence = .error (.sequenceOutOfRange sequence)) ∧
    (sequence.toNat ≤ 127 → mode.limit < chunk.length →
      encode mode chunk sequence = .error (.chunkTooLarge chunk.length mode.limit)) ∧
    (sequence.toNat ≤ 127 → chunk.length ≤ mode.limit →
      ∃ frame packet, encode mode chunk sequence = .ok frame ∧ parse frame = .ok packet ∧
        packet.sequence = sequence ∧ packet.payload = (Quoting.quote chunk).bytes ∧
          (packet.mode = .large ↔ mode = .large ∧ 95 ≤ chunk.length) ∧
            packet.data = .ok chunk) ∧
    (sequence.toNat ≤ 127 → chunk.length ≤ 500 →
      ∃ frame packet, encodeLarge chunk sequence = .ok frame ∧ parse frame = .ok packet ∧
        packet.sequence = sequence ∧ packet.payload = (Quoting.quote chunk).bytes ∧
          packet.mode = .large ∧ packet.data = .ok chunk) := by
  have late : 127 < sequence.toNat ↔ Wire.lastSequence < sequence := by
    rw [UInt8.lt_iff_toNat_lt]
    rfl
  have inRange : sequence.toNat ≤ 127 ↔ ¬ Wire.lastSequence < sequence := by
    rw [← late, Nat.not_lt]
  rw [encode_eq]
  refine ⟨?outOfRange, ?tooLong, ?either, ?long⟩
  case outOfRange =>
    intro past
    rw [if_pos (late.1 past)]
  case tooLong =>
    intro within long
    rw [if_neg (inRange.1 within), if_pos long]
  case either =>
    intro within fits
    rw [if_neg (inRange.1 within), if_neg (Nat.not_lt.2 fits)]
    have read := parse_frameAs (UInt8.not_lt.1 (inRange.1 within)) (length_le_limit_formOf fits)
    exact ⟨_, _, rfl, read, rfl, rfl, formOf_eq_large_iff mode chunk,
      data_packetOf _ chunk sequence⟩
  case long =>
    intro within fits
    have fitsLarge : chunk.length ≤ Mode.large.limit := fits
    have framed := encodeAs_eq .large chunk sequence
    rw [if_neg (inRange.1 within), if_neg (Nat.not_lt.2 fitsLarge)] at framed
    have read := parse_frameAs (UInt8.not_lt.1 (inRange.1 within)) fitsLarge
    exact ⟨_, _, framed, read, rfl, rfl, rfl, data_packetOf .large chunk sequence⟩

theorem encode_exact_at_bounds :
    encode .small [] 128 = .error (.sequenceOutOfRange 128) ∧
    encode .small (List.replicate 101 0) 127 = .error (.chunkTooLarge 101 100) ∧
    (∃ frame packet, encode .small [0x00, 0x23, 0xFF] 127 = .ok frame ∧
      parse frame = .ok packet ∧ packet.sequence = 127 ∧
        packet.payload = (Quoting.quote [0x00, 0x23, 0xFF]).bytes ∧
          (packet.mode = .large ↔ Mode.small = .large ∧ 95 ≤ [0x00, 0x23, 0xFF].length) ∧
            packet.data = .ok [0x00, 0x23, 0xFF]) ∧
    ∃ frame packet, encodeLarge [] 0 = .ok frame ∧ parse frame = .ok packet ∧
      packet.sequence = 0 ∧ packet.payload = (Quoting.quote []).bytes ∧
        packet.mode = .large ∧ packet.data = .ok [] := by
  have late := (encode_exact .small [] 128).1 (by decide)
  have tooLong := (encode_exact .small (List.replicate 101 0) 127).2.1 (by decide) (by decide)
  have short := (encode_exact .small [0x00, 0x23, 0xFF] 127).2.2.1 (by decide) (by decide)
  have long := (encode_exact .large [] 0).2.2.2 (by decide) (by decide)
  exact ⟨late, tooLong, short, long⟩

end KermitSend.Packet

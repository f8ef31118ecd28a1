import KermitSend.Proofs.Packet.RoundTrip

/-!
Contract: the frames that framing emits, among those that the reader accepts.

The reader accepts more than senders write: a low digit past its base, a payload quoted where it
need not be or not quoted where it must be, and more file bytes than one packet may carry.

Owns:
- canonical frames: accepted ones whose digit, chunk and payload are as a sender writes them;
- the law that each form emits exactly its canonical frames, and each of them for one chunk and one
  sequence number.

Does not own: which payloads are as a sender writes them.
-/

set_option autoImplicit false

namespace KermitSend.Packet

/-- A frame is read as a packet of this form with this chunk in it, and is written as a sender
writes it: quoting the chunk gives the payload, the chunk keeps to the limit of the form, and the
low digit of a long frame is below the base. -/
structure Canonical
    (form : Mode)
    (frame : List UInt8)
    (packet : DataPacket)
    (chunk : List UInt8) : Prop where
  accepted : parse frame = .ok packet
  mode : packet.mode = form
  digit : form = .large → ∃ low, frame[5]? = some low ∧ (Printable.decode low).toNat < 95
  data : packet.data = .ok chunk
  fits : chunk.length ≤ form.limit
  quoted : (Quoting.quote chunk).bytes = packet.payload

theorem Canonical.unique
    {form : Mode}
    {frame chunk other : List UInt8}
    {packet another : DataPacket}
    (canonical : Canonical form frame packet chunk)
    (same : Canonical form frame another other) :
    packet = another ∧ chunk = other := by
  have read := canonical.accepted.symm.trans same.accepted
  rw [Except.ok.injEq] at read
  subst read
  have data := canonical.data.symm.trans same.data
  rw [Except.ok.injEq] at data
  exact ⟨rfl, data⟩

/-! ## What senders write is canonical -/

/-- The low digit of a long frame is a remainder by the base. -/
theorem digit_largeFrame (chunk : List UInt8) (sequence : UInt8) :
    ∃ low, (largeFrame chunk sequence)[5]? = some low ∧ (Printable.decode low).toNat < 95 := by
  refine ⟨Printable.encode (UInt8.ofNat
    (((Quoting.quote chunk).bytes.length + 1) % lengthRadix)), ?_, ?_⟩
  · rw [largeFrame_eq_sealed]
    rfl
  · rw [Printable.decode_encode, UInt8.toNat_ofNat', lengthRadix]
    omega

theorem canonical_frameAs
    {form : Mode}
    {chunk : List UInt8}
    {sequence : UInt8}
    (inRange : sequence ≤ Wire.lastSequence)
    (fits : chunk.length ≤ form.limit) :
    Canonical form (frameAs form chunk sequence) (packetOf form chunk sequence) chunk where
  accepted := parse_frameAs inRange fits
  mode := rfl
  digit := by
    rintro rfl
    exact digit_largeFrame chunk sequence
  data := data_packetOf form chunk sequence
  fits := fits
  quoted := rfl

/-! ## What is canonical is written by senders -/

/-- Two digits of which the low one is below the base are the quotient and the remainder of what
they count. -/
theorem digits_eq
    {high low : UInt8}
    {count : Nat}
    (counted : (Printable.decode high).toNat * lengthRadix + (Printable.decode low).toNat = count)
    (digit : (Printable.decode low).toNat < 95) :
    high = Printable.encode (UInt8.ofNat (count / lengthRadix)) ∧
      low = Printable.encode (UInt8.ofNat (count % lengthRadix)) := by
  rw [lengthRadix] at counted ⊢
  have quotient : count / 95 = (Printable.decode high).toNat := by
    omega
  have remainder : count % 95 = (Printable.decode low).toNat := by
    omega
  rw [quotient, remainder, UInt8.ofNat_toNat, UInt8.ofNat_toNat, Printable.encode_decode,
    Printable.encode_decode]
  exact ⟨rfl, rfl⟩

private theorem Canonical.eq_frameAs
    {form : Mode}
    {frame chunk : List UInt8}
    {packet : DataPacket}
    (canonical : Canonical form frame packet chunk) :
    frame = frameAs form chunk packet.sequence := by
  obtain ⟨covered, rfl, carries⟩ := (parse_eq_ok_iff frame packet).1 canonical.accepted
  cases form with
  | small =>
      obtain ⟨rfl, -⟩ := carries.eq_smallFields canonical.mode
      rw [frameAs, smallFrame_eq_sealed, ← canonical.quoted]
      rfl
  | large =>
      obtain ⟨high, low, rfl, counted⟩ := carries.eq_largeFields canonical.mode
      obtain ⟨fifth, found, digit⟩ := canonical.digit rfl
      obtain rfl : low = fifth := Option.some.inj found
      obtain ⟨rfl, rfl⟩ := digits_eq counted digit
      rw [frameAs, largeFrame_eq_sealed, ← canonical.quoted, List.append_assoc]
      rfl

/-! ## Exact images -/

/-- A form emits a frame for a chunk and a sequence number exactly when the frame is canonical and
carries both. -/
theorem encodeAs_eq_ok_iff_canonical
    (form : Mode)
    (frame chunk : List UInt8)
    (sequence : UInt8) :
    encodeAs form chunk sequence = .ok frame ↔
      ∃ packet, Canonical form frame packet chunk ∧ packet.sequence = sequence := by
  constructor
  · intro encoded
    obtain ⟨inRange, fits, rfl⟩ := eq_frameAs_of_encodeAs encoded
    exact ⟨_, canonical_frameAs inRange fits, rfl⟩
  · rintro ⟨packet, canonical, rfl⟩
    obtain ⟨covered, -, carries⟩ := (parse_eq_ok_iff frame packet).1 canonical.accepted
    rw [encodeAs_eq, if_neg (UInt8.not_lt.2 carries.inRange),
      if_neg (Nat.not_lt.2 canonical.fits), ← canonical.eq_frameAs]

theorem exists_encodeAs_iff (form : Mode) (frame : List UInt8) :
    (∃ chunk sequence, encodeAs form chunk sequence = .ok frame) ↔
      ∃ packet chunk, Canonical form frame packet chunk := by
  constructor
  · rintro ⟨chunk, sequence, encoded⟩
    obtain ⟨packet, canonical, -⟩ :=
      (encodeAs_eq_ok_iff_canonical form frame chunk sequence).1 encoded
    exact ⟨packet, chunk, canonical⟩
  · rintro ⟨packet, chunk, canonical⟩
    have encoded := (encodeAs_eq_ok_iff_canonical form frame chunk packet.sequence).2
      ⟨packet, canonical, rfl⟩
    exact ⟨chunk, packet.sequence, encoded⟩

theorem Canonical.encodeAs_eq_ok_iff
    {form : Mode}
    {frame data : List UInt8}
    {packet : DataPacket}
    (canonical : Canonical form frame packet data)
    (chunk : List UInt8)
    (sequence : UInt8) :
    encodeAs form chunk sequence = .ok frame ↔ chunk = data ∧ sequence = packet.sequence := by
  rw [encodeAs_eq_ok_iff_canonical]
  constructor
  · rintro ⟨another, same, rfl⟩
    obtain ⟨rfl, rfl⟩ := canonical.unique same
    exact ⟨rfl, rfl⟩
  · rintro ⟨rfl, rfl⟩
    exact ⟨packet, canonical, rfl⟩

/-- Each form emits exactly its canonical frames, and emits each of them for the chunk and the
sequence number that are read from it and for no others. -/
theorem encode_image (frame : List UInt8) :
    ((∃ chunk sequence, encodeSmall chunk sequence = .ok frame) ↔
      ∃ packet data, Canonical .small frame packet data) ∧
    ((∃ chunk sequence, encodeLarge chunk sequence = .ok frame) ↔
      ∃ packet data, Canonical .large frame packet data) ∧
    (∀ packet data, Canonical .small frame packet data → ∀ chunk sequence,
      encodeSmall chunk sequence = .ok frame ↔ chunk = data ∧ sequence = packet.sequence) ∧
    ∀ packet data, Canonical .large frame packet data → ∀ chunk sequence,
      encodeLarge chunk sequence = .ok frame ↔ chunk = data ∧ sequence = packet.sequence := by
  refine ⟨exists_encodeAs_iff .small frame, exists_encodeAs_iff .large frame, ?_, ?_⟩
  · intro packet data canonical
    exact canonical.encodeAs_eq_ok_iff
  · intro packet data canonical
    exact canonical.encodeAs_eq_ok_iff

/-- A long frame that counts 95 bytes and their check in its low digit alone. -/
def carriedIntoLow : List UInt8 :=
  let header := largeFields 7 (Printable.encode 0) (Printable.encode 96)
  sealed (header ++ [checksum (byteSum header)] ++ List.replicate 95 0x41)

/-- The short frame around a single mark is emitted for that chunk alone; the reader accepts a long
frame whose digit runs past the base, and no sender emits it. -/
theorem encode_image_mark :
    Canonical .small (smallFrame [0x23] 7) (packetOf .small [0x23] 7) [0x23] ∧
    (∀ chunk sequence, encodeSmall chunk sequence = .ok (smallFrame [0x23] 7) ↔
      chunk = [0x23] ∧ sequence = 7) ∧
    (∃ packet, parse carriedIntoLow = .ok packet ∧ packet.data = .ok (List.replicate 95 0x41)) ∧
    ¬ ∃ chunk sequence, encodeLarge chunk sequence = .ok carriedIntoLow := by
  have canonical : Canonical .small (smallFrame [0x23] 7) (packetOf .small [0x23] 7) [0x23] :=
    canonical_frameAs (by decide) (by decide)
  have accepted : parse carriedIntoLow =
      .ok { sequence := 7, payload := List.replicate 95 0x41, mode := .large } := by
    rw [carriedIntoLow, parse_sealed_eq_ok_iff]
    exact carries_largeFields (by decide) (by decide)
  refine ⟨canonical, (encode_image _).2.2.1 _ _ canonical, ⟨_, accepted, by decide⟩, ?_⟩
  intro emitted
  obtain ⟨packet, data, other⟩ := (encode_image carriedIntoLow).2.1.1 emitted
  obtain ⟨low, found, digit⟩ := other.digit rfl
  obtain rfl : Printable.encode 96 = low := Option.some.inj found
  exact absurd digit (by decide)

end KermitSend.Packet

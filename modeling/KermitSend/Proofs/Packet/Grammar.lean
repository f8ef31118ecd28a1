import KermitSend.Proofs.Packet.Sealed

/-!
Contract: the grammar of data packets, and that the reader accepts it and nothing else.

Owns:
- the two layouts as a grammar over any payload bytes, with no reference to the reader;
- a reader that is undefined as soon as it looks at a position outside the frame;
- the law that the reader never does so, whatever it is given, and accepts exactly the grammar.

Does not own: which payloads a sender emits.
-/

set_option autoImplicit false

namespace KermitSend.Packet

/-! ## The layouts -/

/-- What the check of a short frame covers: LENGTH, SEQUENCE, kind and payload. -/
def smallFields (sequence : UInt8) (payload : List UInt8) : List UInt8 :=
  [Printable.encode (UInt8.ofNat (payload.length + 3)), Printable.encode sequence,
    Wire.dataKind] ++ payload

/-- What the header check of a long frame covers: the mark of the long form, SEQUENCE, kind and
the two digits. -/
def largeFields (sequence high low : UInt8) : List UInt8 :=
  [Printable.encode 0, Printable.encode sequence, Wire.dataKind, high, low]

/-- The frames of both layouts, each with the packet that it stands for. -/
inductive Grammar : List UInt8 → DataPacket → Prop where
  | small {sequence payload check}
      (inRange : sequence.toNat ≤ 127)
      (fits : payload.length ≤ 252)
      (checked : check = checksum (byteSum (smallFields sequence payload))) :
      Grammar
        ([Wire.start] ++ smallFields sequence payload ++ [check, Wire.terminator])
        { sequence, payload, mode := .small }
  | large {sequence high low headerCheck payload check}
      (inRange : sequence.toNat ≤ 127)
      (counted : 95 * (Printable.decode high).toNat + (Printable.decode low).toNat =
        payload.length + 1)
      (headerChecked : headerCheck = checksum (byteSum (largeFields sequence high low)))
      (checked : check =
        checksum (byteSum (largeFields sequence high low ++ [headerCheck] ++ payload))) :
      Grammar
        ([Wire.start] ++ largeFields sequence high low ++ [headerCheck] ++ payload ++
          [check, Wire.terminator])
        { sequence, payload, mode := .large }

theorem le_lastSequence_iff (sequence : UInt8) :
    sequence ≤ Wire.lastSequence ↔ sequence.toNat ≤ 127 := by
  rw [UInt8.le_iff_toNat_le]
  rfl

private theorem eq_encode_iff (byte value : UInt8) :
    byte = Printable.encode value ↔ Printable.decode byte = value := by
  constructor
  · rintro rfl
    exact Printable.decode_encode value
  · rintro rfl
    exact (Printable.encode_decode byte).symm

section Layouts

variable
  {sequence : UInt8}
  {payload : List UInt8}

/-- A payload of at most 252 bytes fits a short frame: its LENGTH is at most 255 and not zero. -/
theorem carries_smallFields
    (inRange : sequence ≤ Wire.lastSequence)
    (fits : payload.length ≤ 252) :
    Carries (smallFields sequence payload) { sequence, payload, mode := .small } := by
  have counted : (Printable.decode (byteAt (sealed (smallFields sequence payload)) 1)).toNat =
      payload.length + 3 := by
    show (Printable.decode (Printable.encode (UInt8.ofNat (payload.length + 3)))).toNat = _
    rw [Printable.decode_encode, UInt8.toNat_ofNat', Nat.mod_eq_of_lt]
    omega
  refine
    { long := by simp [smallFields]
      length := ?_
      sequence := (Printable.decode_encode sequence).symm
      inRange := inRange
      kind := rfl
      payload := rfl }
  rw [checkLength_eq_small_iff, counted, length_sealed]
  simp [smallFields]

theorem carries_largeFields
    {high low : UInt8}
    (inRange : sequence ≤ Wire.lastSequence)
    (counted : (Printable.decode high).toNat * lengthRadix + (Printable.decode low).toNat =
      payload.length + 1) :
    Carries
      (largeFields sequence high low ++
        [checksum (byteSum (largeFields sequence high low))] ++ payload)
      { sequence, payload, mode := .large } := by
  refine
    { long := by simp [largeFields]
      length := ?_
      sequence := (Printable.decode_encode sequence).symm
      inRange := inRange
      kind := rfl
      payload := rfl }
  rw [checkLength_eq_large_iff, length_sealed]
  refine ⟨?marked, ?room, rfl, ?length⟩
  case marked =>
    show (Printable.decode (Printable.encode 0)).toNat = 0
    rw [Printable.decode_encode]
    rfl
  case room => simp [largeFields]
  case length =>
    show _ = (Printable.decode high).toNat * lengthRadix + (Printable.decode low).toNat + 8
    rw [counted]
    simp [largeFields]

end Layouts

/-! ## What accepted frames cover -/

section Covered

variable
  {covered : List UInt8}
  {packet : DataPacket}

/-- What is covered begins with LENGTH, SEQUENCE and the kind. -/
theorem Carries.fields
    (carries : Carries covered packet) :
    ∃ length rest,
      covered = [length, Printable.encode packet.sequence, Wire.dataKind] ++ rest := by
  have sequence := carries.sequence
  have kind := carries.kind
  rcases covered with _ | ⟨length, _ | ⟨label, _ | ⟨third, rest⟩⟩⟩
  · exact absurd carries.long (by simp)
  · exact absurd carries.long (by simp)
  · exact absurd carries.long (by simp)
  · have labelled : label = Printable.encode packet.sequence := by
      rw [eq_encode_iff]
      exact sequence.symm
    have isData : third = Wire.dataKind := kind
    subst labelled isData
    exact ⟨length, rest, rfl⟩

theorem Carries.eq_smallFields
    (carries : Carries covered packet)
    (short : packet.mode = .small) :
    covered = smallFields packet.sequence packet.payload ∧ packet.payload.length ≤ 252 := by
  obtain ⟨length, rest, rfl⟩ := carries.fields
  have payload := carries.payload
  rw [short] at payload
  have whole : packet.payload = rest := payload
  have counted := carries.length
  rw [short, checkLength_eq_small_iff, length_sealed] at counted
  have field : byteAt (sealed ([length, Printable.encode packet.sequence, Wire.dataKind] ++ rest))
      1 = length := rfl
  rw [field] at counted
  have count : (Printable.decode length).toNat = rest.length + 3 := by
    have covered := counted.2
    simp only [List.length_append, List.length_cons, List.length_nil] at covered
    omega
  have most := (Printable.decode length).toNat_lt
  have written : length = Printable.encode (UInt8.ofNat (rest.length + 3)) := by
    rw [eq_encode_iff, ← count, UInt8.ofNat_toNat]
  rw [whole]
  refine ⟨?_, by omega⟩
  unfold smallFields
  rw [← written]

theorem Carries.eq_largeFields
    (carries : Carries covered packet)
    (long : packet.mode = .large) :
    ∃ high low,
      covered = largeFields packet.sequence high low ++
        [checksum (byteSum (largeFields packet.sequence high low))] ++ packet.payload ∧
      (Printable.decode high).toNat * lengthRadix + (Printable.decode low).toNat =
        packet.payload.length + 1 := by
  obtain ⟨length, rest, rfl⟩ := carries.fields
  have payload := carries.payload
  have counted := carries.length
  rw [long] at payload
  rw [long, checkLength_eq_large_iff, length_sealed] at counted
  obtain ⟨marked, room, headerCheck, digits⟩ := counted
  rcases rest with _ | ⟨high, _ | ⟨low, _ | ⟨check, rest⟩⟩⟩
  · simp at room
  · simp at room
  · simp at room
  · have whole : packet.payload = rest := payload
    have mark : length = Printable.encode 0 := by
      rw [eq_encode_iff, ← UInt8.toNat_inj]
      exact marked
    subst mark
    have checked :
        check = checksum (byteSum (largeFields packet.sequence high low)) := headerCheck
    have count : rest.length + 9 =
        (Printable.decode high).toNat * lengthRadix + (Printable.decode low).toNat + 8 := digits
    refine ⟨high, low, ?_, ?_⟩
    · rw [whole, ← checked]
      rfl
    · rw [whole]
      omega

end Covered

theorem grammar_iff_carries (frame : List UInt8) (packet : DataPacket) :
    Grammar frame packet ↔ ∃ covered, frame = sealed covered ∧ Carries covered packet := by
  constructor
  · intro derived
    cases derived with
    | small inRange fits checked =>
        subst checked
        exact ⟨_, rfl, carries_smallFields ((le_lastSequence_iff _).2 inRange) fits⟩
    | large inRange counted headerChecked checked =>
        subst headerChecked checked
        rw [Nat.mul_comm] at counted
        refine ⟨_, ?_, carries_largeFields ((le_lastSequence_iff _).2 inRange) counted⟩
        simp [sealed]
  · rintro ⟨covered, rfl, carries⟩
    have inRange := (le_lastSequence_iff _).1 carries.inRange
    obtain ⟨sequence, payload, mode⟩ := packet
    cases mode with
    | small =>
        obtain ⟨rfl, fits⟩ := carries.eq_smallFields rfl
        exact .small inRange fits rfl
    | large =>
        obtain ⟨high, low, rfl, counted⟩ := carries.eq_largeFields rfl
        rw [lengthRadix, Nat.mul_comm] at counted
        have derived := Grammar.large inRange counted rfl rfl
        simpa [sealed] using derived

/-! ## Reading within the frame -/

/-- A reading that may refuse a frame, and that is `none` once it looks outside of the frame. -/
abbrev Within :=
  ExceptT Error Option

/-- A reading that has stayed within the frame. -/
def stayed {α : Type} (result : Except Error α) : Within α :=
  ExceptT.mk (some result)

def byteWithin (frame : List UInt8) (position : Nat) : Within UInt8 :=
  ExceptT.lift frame[position]?

/-- The position that lies the given number of bytes before the end. -/
def positionFromEnd (frame : List UInt8) (count : Nat) : Within Nat :=
  ExceptT.lift (if count ≤ frame.length then some (frame.length - count) else none)

def sliceWithin (frame : List UInt8) (first last : Nat) : Within (List UInt8) :=
  ExceptT.lift (if first ≤ last ∧ last ≤ frame.length then some (slice frame first last) else none)

def shapeWithin (frame : List UInt8) : Within Unit :=
  if frame.length < smallHeaderLength + trailerLength then throw (.malformed .tooShort)
  else do
    let mark ← byteWithin frame 0
    if mark ≠ Wire.start then throw (.malformed .missingStart)
    else do
      let last ← byteWithin frame (← positionFromEnd frame 1)
      if last ≠ Wire.terminator then throw (.malformed .missingTerminator)
      else do
        let kind ← byteWithin frame 3
        if kind ≠ Wire.dataKind then throw (.malformed .notData) else return ()

def lengthWithin (frame : List UInt8) : Within Mode := do
  let length := (Printable.decode (← byteWithin frame 1)).toNat
  if length = 0 then
    if frame.length < largeHeaderLength + trailerLength then throw (.malformed .tooShort)
    else do
      let header ← sliceWithin frame 1 6
      let headerCheck ← byteWithin frame 6
      stayed (verify header headerCheck)
      let high ← byteWithin frame 4
      let low ← byteWithin frame 5
      let extended := (Printable.decode high).toNat * lengthRadix + (Printable.decode low).toNat
      if frame.length ≠ largeHeaderLength + extended + 1 then
        throw (.malformed .lengthMismatch)
      else return .large
  else if frame.length ≠ length + 3 then throw (.malformed .lengthMismatch)
  else return .small

/-- Read one complete frame, with every byte and every slice looked up within it. -/
def parseWithin (frame : List UInt8) : Within DataPacket := do
  shapeWithin frame
  let mode ← lengthWithin frame
  let checkPosition ← positionFromEnd frame 2
  let covered ← sliceWithin frame 1 checkPosition
  let check ← byteWithin frame checkPosition
  stayed (verify covered check)
  let sequence := Printable.decode (← byteWithin frame 2)
  stayed (checkSequence sequence)
  let payload ← sliceWithin frame mode.headerLength checkPosition
  return { sequence, payload, mode }

section Lookups

variable
  {frame : List UInt8}

private theorem stayed_bind
    {α β : Type}
    (check : Except Error α)
    (rest : α → Except Error β) :
    stayed (check >>= rest) = stayed check >>= fun value => stayed (rest value) := by
  cases check with
  | error error => rfl
  | ok value => rfl

private theorem byteWithin_eq
    {position : Nat}
    (inside : position < frame.length) :
    byteWithin frame position = pure (byteAt frame position) := by
  unfold byteWithin byteAt
  rw [List.getD_eq_getElem?_getD, List.getElem?_eq_getElem inside]
  rfl

private theorem positionFromEnd_eq
    {count : Nat}
    (inside : count ≤ frame.length) :
    positionFromEnd frame count = pure (frame.length - count) := by
  unfold positionFromEnd
  rw [if_pos inside]
  rfl

private theorem sliceWithin_eq
    {first last : Nat}
    (ordered : first ≤ last)
    (inside : last ≤ frame.length) :
    sliceWithin frame first last = pure (slice frame first last) := by
  unfold sliceWithin
  rw [if_pos ⟨ordered, inside⟩]
  rfl

private theorem shapeWithin_eq (frame : List UInt8) : shapeWithin frame = stayed (checkShape frame) := by
  unfold shapeWithin checkShape
  by_cases short : frame.length < smallHeaderLength + trailerLength
  · rw [if_pos short, if_pos short]
    rfl
  · rw [if_neg short, if_neg short]
    rw [smallHeaderLength, trailerLength] at short
    have mark := byteWithin_eq (show 0 < frame.length by omega)
    have last := positionFromEnd_eq (show 1 ≤ frame.length by omega)
    have terminator := byteWithin_eq (show frame.length - 1 < frame.length by omega)
    have kind := byteWithin_eq (show 3 < frame.length by omega)
    simp only [mark, last, terminator, kind, pure_bind, apply_ite stayed]
    rfl

/-- Past the check of the shape a frame has at least six bytes, and in the long form the header is
looked at only if there are nine. -/
theorem lengthWithin_eq
    (room : 6 ≤ frame.length) :
    lengthWithin frame = stayed (checkLength frame) := by
  unfold lengthWithin checkLength
  have length := byteWithin_eq (show 1 < frame.length by omega)
  simp only [length, pure_bind]
  by_cases marked : (Printable.decode (byteAt frame 1)).toNat = 0
  · rw [if_pos marked, if_pos marked]
    by_cases short : frame.length < largeHeaderLength + trailerLength
    · rw [if_pos short, if_pos short]
      rfl
    · rw [if_neg short, if_neg short]
      rw [largeHeaderLength, trailerLength] at short
      have header := sliceWithin_eq (show 1 ≤ 6 by omega) (show 6 ≤ frame.length by omega)
      have headerCheck := byteWithin_eq (show 6 < frame.length by omega)
      have high := byteWithin_eq (show 4 < frame.length by omega)
      have low := byteWithin_eq (show 5 < frame.length by omega)
      simp only [header, headerCheck, high, low, pure_bind, stayed_bind, apply_ite stayed]
      rfl
  · rw [if_neg marked, if_neg marked, apply_ite stayed]
    rfl

end Lookups

/-- The header that the length field announces ends in front of the check. -/
theorem headerLength_le
    {frame : List UInt8}
    {mode : Mode}
    (room : 6 ≤ frame.length)
    (read : checkLength frame = .ok mode) :
    mode.headerLength ≤ frame.length - 2 := by
  cases mode with
  | small =>
      show smallHeaderLength ≤ frame.length - 2
      rw [smallHeaderLength]
      omega
  | large =>
      have long := ((checkLength_eq_large_iff frame).1 read).2.1
      show largeHeaderLength ≤ frame.length - 2
      rw [largeHeaderLength]
      omega

/-- Looking only inside of a frame comes to what `parse` says of it. -/
theorem parseWithin_eq (frame : List UInt8) : parseWithin frame = stayed (parse frame) := by
  unfold parseWithin parse
  rw [shapeWithin_eq]
  cases shape : checkShape frame with
  | error error => rfl
  | ok =>
      have room := ((checkShape_eq_ok_iff frame).1 shape).1
      show lengthWithin frame >>= _ = stayed (checkLength frame >>= _)
      rw [lengthWithin_eq room]
      cases read : checkLength frame with
      | error error => rfl
      | ok mode =>
          have checkPosition := positionFromEnd_eq (show 2 ≤ frame.length by omega)
          have covered := sliceWithin_eq (show 1 ≤ frame.length - 2 by omega)
            (show frame.length - 2 ≤ frame.length by omega)
          have check := byteWithin_eq (show frame.length - 2 < frame.length by omega)
          have sequence := byteWithin_eq (show 2 < frame.length by omega)
          have payload := sliceWithin_eq (headerLength_le room read)
            (show frame.length - 2 ≤ frame.length by omega)
          show (positionFromEnd frame 2 >>= _ : Within DataPacket) = stayed (_ >>= _)
          simp only [checkPosition, covered, check, sequence, payload, pure_bind, stayed_bind]
          rfl

/-- Whatever it is given, the reader looks at no position outside of it, and it accepts exactly the
frames of the grammar, each as the packet that it stands for. -/
theorem parse_exact (frame : List UInt8) :
    (parseWithin frame).run = some (parse frame) ∧
      ∀ packet, parse frame = .ok packet ↔ Grammar frame packet := by
  constructor
  · rw [parseWithin_eq]
    rfl
  · intro packet
    rw [parse_eq_ok_iff, grammar_iff_carries]

end KermitSend.Packet

import KermitSend.Proofs.Checksum.BitFlip
import KermitSend.Reply

/-!
Contract: what the bytes of a reply decide about its verdict.

Owns:
- replies that pass their check, and the one verdict on those that do not;
- what it takes to be acknowledged;
- the bytes that the verdict hangs on, which the mark and the ending are not among;
- the law that one flipped bit in any of these bytes is noticed, and changes elsewhere are not.

Does not own: what the sender does after a verdict.
-/

set_option autoImplicit false

namespace KermitSend.Reply

/-- A reply carries the check that its length, sequence number and kind call for. -/
def Checked (reply : Reply) : Prop :=
  reply.check = reply.requiredCheck

instance (reply : Reply) : Decidable reply.Checked :=
  inferInstanceAs (Decidable (_ = _))

/-! ## Verdicts -/

section Verdicts

variable {reply other : Reply}

/-- Without its check a reply has one verdict, whatever sequence number is expected. -/
theorem judge_of_not_checked
    (unchecked : ¬ reply.Checked)
    (expected : UInt8) :
    reply.judge expected = .checksumInvalid reply.requiredCheck reply.check := by
  have other : reply.check ≠ reply.requiredCheck := unchecked
  rw [judge, if_pos other]

theorem Checked.judge_eq
    (checked : reply.Checked)
    (expected : UInt8) :
    reply.judge expected =
      if Printable.decode reply.label ≠ expected then
        .sequenceInvalid expected (Printable.decode reply.label)
      else if reply.kind = Wire.acceptKind then .acknowledged
      else if reply.kind = Wire.refuseKind then .refused
      else .unexpectedKind reply.kind := by
  have same : reply.check = reply.requiredCheck := checked
  rw [judge, if_neg (not_not_intro same)]

theorem checked_iff (reply : Reply) (expected : UInt8) :
    reply.Checked ↔
      ∀ required received, reply.judge expected ≠ .checksumInvalid required received := by
  constructor
  · intro checked required received
    rw [checked.judge_eq]
    split
    · simp
    · split
      · simp
      · split <;> simp
  · intro valid
    apply Decidable.byContradiction
    intro unchecked
    exact valid _ _ (judge_of_not_checked unchecked expected)

/-- A reply is acknowledged when it passes its check, carries the expected sequence number and is
of the kind that accepts. -/
theorem isAcknowledged_judge_iff (reply : Reply) (expected : UInt8) :
    (reply.judge expected).isAcknowledged = true ↔
      reply.Checked ∧ Printable.decode reply.label = expected ∧ reply.kind = Wire.acceptKind := by
  by_cases checked : reply.Checked
  · rw [checked.judge_eq]
    by_cases same : Printable.decode reply.label = expected
    · rw [if_neg (not_not_intro same)]
      by_cases accepts : reply.kind = Wire.acceptKind
      · simp [accepts, checked, same, Verdict.isAcknowledged]
      · rw [if_neg accepts]
        split <;> simp [accepts, Verdict.isAcknowledged]
    · simp [same, Verdict.isAcknowledged]
  · simp [judge_of_not_checked checked, checked, Verdict.isAcknowledged]

/-- The mark and the ending of a reply do not count. -/
theorem judge_congr
    (length : other.length = reply.length)
    (label : other.label = reply.label)
    (kind : other.kind = reply.kind)
    (check : other.check = reply.check)
    (expected : UInt8) :
    other.judge expected = reply.judge expected := by
  rw [judge, judge, requiredCheck, requiredCheck, length, label, kind, check]

end Verdicts

/-! ## Damage -/

section Damage

variable {reply : Reply}

private theorem exists_toBytes
    {bytes : List UInt8}
    (whole : bytes.length = Wire.replyLength) :
    ∃ reply : Reply, bytes = reply.toBytes := by
  rcases bytes with
    _ | ⟨mark, _ | ⟨length, _ | ⟨label, _ | ⟨kind, _ | ⟨check, _ | ⟨ending, rest⟩⟩⟩⟩⟩⟩
  case cons.cons.cons.cons.cons.cons =>
    obtain rfl : rest = [] := by
      simpa [Wire.replyLength] using whole
    exact ⟨⟨mark, length, label, kind, check, ending⟩, rfl⟩
  all_goals simp [Wire.replyLength] at whole

/-- A flipped bit among the bytes under the check calls for another check, and one in the check
itself is not the check that is called for. -/
theorem Checked.not_checked_flipAt
    (checked : reply.Checked)
    {position bit : Nat}
    (first : 1 ≤ position)
    (last : position ≤ 4)
    (low : bit < 8) :
    ¬ (ofBytes (flipAt reply.toBytes position bit)).Checked := by
  intro still
  have covered : ∀ place, place < 3 →
      checksum (byteSum (flipAt [reply.length, reply.label, reply.kind] place bit)) ≠
        reply.check := by
    intro place inside
    rw [checked, requiredCheck]
    exact checksum_flipAt_ne inside low
  have places : position = 1 ∨ position = 2 ∨ position = 3 ∨ position = 4 := by
    omega
  rcases places with rfl | rfl | rfl | rfl
  · exact covered 0 (by decide) still.symm
  · exact covered 1 (by decide) still.symm
  · exact covered 2 (by decide) still.symm
  · have same : flipBit reply.check bit = reply.requiredCheck := still
    exact flipBit_ne reply.check low (same.trans checked.symm)

end Damage

/-- One flipped bit in the length, the sequence number, the kind or the check of a reply that passed
its check fails it, whatever sequence number is expected.  The verdict hangs on these four bytes
alone, so that no flipped bit at all makes an acknowledgement of a packet out of anything else. -/
theorem flipped_bit_noticed
    {frame : List UInt8}
    {sequence : UInt8}
    (whole : frame.length = Wire.replyLength)
    (valid : ∀ required received,
      (ofBytes frame).judge sequence ≠ .checksumInvalid required received) :
    (∀ position bit, 1 ≤ position → position ≤ 4 → bit < 8 → ∀ expected,
      ∃ required received,
        (ofBytes (flipAt frame position bit)).judge expected =
          .checksumInvalid required received) ∧
    (∀ changed : List UInt8,
      (∀ position, 1 ≤ position → position ≤ 4 →
        changed.getD position 0 = frame.getD position 0) →
      ∀ expected, (ofBytes changed).judge expected = (ofBytes frame).judge expected) ∧
    ∀ position bit, position < Wire.replyLength → bit < 8 → ∀ expected,
      ((ofBytes (flipAt frame position bit)).judge expected).isAcknowledged = true →
        ((ofBytes frame).judge expected).isAcknowledged = true := by
  have checked : (ofBytes frame).Checked := (checked_iff _ sequence).2 valid
  obtain ⟨reply, rfl⟩ := exists_toBytes whole
  rw [ofBytes_toBytes] at checked
  have noticed : ∀ position bit, 1 ≤ position → position ≤ 4 → bit < 8 → ∀ expected,
      ∃ required received,
        (ofBytes (flipAt reply.toBytes position bit)).judge expected =
          .checksumInvalid required received := by
    intro position bit first last low expected
    exact ⟨_, _, judge_of_not_checked (checked.not_checked_flipAt first last low) expected⟩
  refine ⟨noticed, ?_, ?_⟩
  · intro changed same expected
    exact judge_congr (same 1 (by decide) (by decide)) (same 2 (by decide) (by decide))
      (same 3 (by decide) (by decide)) (same 4 (by decide) (by decide)) expected
  · intro position bit inside low expected good
    have places : position = 0 ∨ position = 5 ∨ 1 ≤ position ∧ position ≤ 4 := by
      rw [Wire.replyLength] at inside
      omega
    rcases places with rfl | rfl | ⟨first, last⟩
    · exact good
    · exact good
    · obtain ⟨required, received, failed⟩ := noticed position bit first last low expected
      rw [failed] at good
      cases good

/-- A bit of the sequence number makes the acknowledgement of packet 4 that of packet 5, but for
its check. -/
theorem flipped_bit_noticed_nextLabel :
    ((ofBytes (answer 4 Wire.acceptKind).toBytes).judge 4 = .acknowledged) ∧
    Printable.decode (ofBytes (flipAt (answer 4 Wire.acceptKind).toBytes 2 0)).label = 5 ∧
    ∃ required received,
      (ofBytes (flipAt (answer 4 Wire.acceptKind).toBytes 2 0)).judge 5 =
        .checksumInvalid required received := by
  have accepted : (ofBytes (answer 4 Wire.acceptKind).toBytes).judge 4 = .acknowledged := by
    decide
  have valid : ∀ required received,
      (ofBytes (answer 4 Wire.acceptKind).toBytes).judge 4 ≠
        .checksumInvalid required received := by
    simp [accepted]
  exact ⟨accepted, by decide,
    (flipped_bit_noticed rfl valid).1 2 0 (by decide) (by decide) (by decide) 5⟩

end KermitSend.Reply

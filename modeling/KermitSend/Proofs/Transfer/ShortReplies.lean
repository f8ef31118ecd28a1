import KermitSend.Proofs.Packet.Transparency
import KermitSend.Proofs.Transfer.ReplyIndifference
import KermitSend.Proofs.Transfer.Supply

/-!
Contract: replies that stop arriving before they are whole.

Owns:
- the one kind of short reply that passes its check, and why the others cannot: a check is never
  zero, as the bytes that did not arrive are;
- what a step makes of each kind, whatever sequence number it expects;
- a packet credited to five bytes.

Does not own: bytes that arrive after the step, which the next reply begins with.
-/

set_option autoImplicit false

namespace KermitSend

variable {φ π : Type}

namespace Reply

/-- All of a reply but its ending: the mark, the three bytes under the check, and their check. -/
def LacksEnding (bytes : List UInt8) : Prop :=
  ∃ mark length label kind,
    bytes = [mark, length, label, kind, checksum (byteSum [length, label, kind])]

/-! ## Verdicts on short replies -/

section Verdicts

variable {bytes : List UInt8}

private theorem LacksEnding.length_eq (lacks : LacksEnding bytes) :
    bytes.length + 1 = Wire.replyLength := by
  obtain ⟨mark, length, label, kind, rfl⟩ := lacks
  rfl

private theorem LacksEnding.checked (lacks : LacksEnding bytes) : (ofBytes bytes).Checked := by
  obtain ⟨mark, length, label, kind, rfl⟩ := lacks
  rfl

/-- Without its ending a reply is judged as with any ending. -/
theorem LacksEnding.judge_eq
    (lacks : LacksEnding bytes)
    (ending expected : UInt8) :
    (ofBytes bytes).judge expected = (ofBytes (bytes ++ [ending])).judge expected := by
  obtain ⟨mark, length, label, kind, rfl⟩ := lacks
  rfl

private theorem checksum_ne_zero (sum : Nat) : checksum sum ≠ 0 := by
  intro zero
  have printable := (checksum_range sum).1
  rw [zero] at printable
  exact absurd printable (by decide)

private theorem check_ne_zero_of_checked
    {reply : Reply}
    (checked : reply.Checked) :
    reply.check ≠ 0 := by
  rw [checked]
  exact checksum_ne_zero _

/-- What passes its check before it is whole lacks nothing but its ending. -/
theorem lacksEnding_of_checked
    (short : bytes.length < Wire.replyLength)
    (checked : (ofBytes bytes).Checked) :
    LacksEnding bytes := by
  have received := check_ne_zero_of_checked checked
  rcases bytes with
    _ | ⟨mark, _ | ⟨length, _ | ⟨label, _ | ⟨kind, _ | ⟨check, _ | ⟨ending, rest⟩⟩⟩⟩⟩⟩
  -- with fewer than five bytes the place of the check holds zero
  case cons.cons.cons.cons.cons.nil =>
    have same : check = checksum (byteSum [length, label, kind]) := checked
    exact ⟨mark, length, label, kind, by rw [same]⟩
  case cons.cons.cons.cons.cons.cons =>
    simp [Wire.replyLength] at short
    omega
  all_goals exact absurd rfl received

theorem checked_iff_lacksEnding (short : bytes.length < Wire.replyLength) :
    (ofBytes bytes).Checked ↔ LacksEnding bytes :=
  ⟨lacksEnding_of_checked short, LacksEnding.checked⟩

end Verdicts

end Reply

/-! ## Steps -/

section Steps

variable
  {settings : Settings}
  {port : SerialPort π}
  {machine : Machine}
  {devices : Devices φ π}
  {reply : Answer}

/-- A step whose frame is sent goes on after a forgiven reply, and the bytes heard decide how. -/
theorem Machine.outcome_of_received
    (file : FileSource φ)
    (phase : machine.phase = .sending)
    (sent : (port.write devices.port machine.frame).1 = .ok ())
    (received : (port.receive (port.write devices.port machine.frame).2
      Wire.replyLength settings.replyTimeout).1 = reply)
    (forgiven : Forgiven reply) :
    (machine.step settings file port devices).outcome = .entered { machine with
      phase := if acknowledges machine.session.sequence reply then .advance else .retry } := by
  subst received
  have written := machine.step_of_call settings file port devices
  simp only [call, act, phase, sending, Action.perform, sent] at written
  have answered := step_of_call settings file port { machine with phase := .receiving }
    ⟨devices.file, (port.write devices.port machine.frame).2⟩
  rw [next_of_forgiven rfl forgiven] at answered
  rw [written.2, answered.2]

end Steps

/-- A short reply fails its check, and the step turns to another attempt, unless the reply lacks
nothing but its ending.  Such a reply is judged as the whole one would be, whatever its ending, so
that it can acknowledge a packet while a byte of it is still to come. -/
theorem short_reply_judged
    (settings : Settings)
    (file : FileSource φ)
    (port : SerialPort π)
    (machine : Machine)
    (devices : Devices φ π)
    {reply : Answer}
    (phase : machine.phase = .sending)
    (sent : (port.write devices.port machine.frame).1 = .ok ())
    (received : (port.receive (port.write devices.port machine.frame).2
      Wire.replyLength settings.replyTimeout).1 = reply)
    (forgiven : Forgiven reply)
    (short : (heard reply).length < Wire.replyLength) :
    (¬ Reply.LacksEnding (heard reply) ↔
      (∀ expected, ∃ required received,
        (Reply.ofBytes (heard reply)).judge expected = .checksumInvalid required received) ∧
      (machine.step settings file port devices).outcome =
        .entered { machine with phase := .retry }) ∧
    (Reply.LacksEnding (heard reply) → ∀ ending,
      (∀ expected, (Reply.ofBytes (heard reply)).judge expected =
        (Reply.ofBytes (heard reply ++ [ending])).judge expected) ∧
      (machine.step settings file port devices).outcome = .entered { machine with
        phase :=
          if acknowledges machine.session.sequence (.ok (heard reply ++ [ending])) then .advance
          else .retry }) := by
  have outcome := Machine.outcome_of_received file phase sent received forgiven
  refine ⟨⟨?_, ?_⟩, ?_⟩
  · intro lacksMore
    have unchecked : ¬ (Reply.ofBytes (heard reply)).Checked := by
      rw [Reply.checked_iff_lacksEnding short]
      exact lacksMore
    refine ⟨fun expected => ⟨_, _, Reply.judge_of_not_checked unchecked expected⟩, ?_⟩
    have refused : acknowledges machine.session.sequence reply = false := by
      rw [acknowledges, Reply.judge_of_not_checked unchecked]
      rfl
    rw [outcome, refused]
    rfl
  · rintro ⟨failed, -⟩ lacks
    obtain ⟨required, received, verdict⟩ := failed 0
    exact (Reply.checked_iff _ 0).1 lacks.checked required received verdict
  · intro lacks ending
    have same := lacks.judge_eq ending
    refine ⟨same, ?_⟩
    rw [outcome, acknowledges, acknowledges, same]
    rfl

/-- A port that delivers this much of one reply and nothing after it. -/
def Scripted.Port.deliversOnly (bytes : List UInt8) : Scripted.Port :=
  { writes := 0
    writeFaults := []
    arrived := 0
    leftover := []
    responses := [.literal bytes]
    afterwards := none }

/-- Four bytes of an acknowledgement lead to another attempt. -/
theorem short_reply_judged_fourBytes :
    (Machine.step .inPairs Scripted.File.device Scripted.Port.device
      { Machine.initial with phase := .sending }
      ⟨.threeBytes, .deliversOnly [0x01, 0x23, 0x20, 0x59]⟩).outcome =
        .entered { Machine.initial with phase := .retry } := by
  have received : (Scripted.Port.device.receive (Scripted.Port.device.write
      (.deliversOnly [0x01, 0x23, 0x20, 0x59]) Machine.initial.frame).2
        Wire.replyLength Settings.inPairs.replyTimeout).1 = .ok [0x01, 0x23, 0x20, 0x59] := by
    decide
  have judged := short_reply_judged .inPairs Scripted.File.device Scripted.Port.device
    { Machine.initial with phase := .sending }
    ⟨.threeBytes, .deliversOnly [0x01, 0x23, 0x20, 0x59]⟩
    rfl (by decide) received (by simp [Forgiven]) (by decide)
  have lacksMore : ¬ Reply.LacksEnding [0x01, 0x23, 0x20, 0x59] := by
    intro lacks
    exact absurd lacks.length_eq (by decide)
  exact (judged.1.1 lacksMore).2

/-- Five bytes of an acknowledgement end a transfer well. -/
theorem short_reply_acknowledges :
    [0x01, 0x23, 0x20, 0x59, 0x3E].length < Wire.replyLength ∧
    (Reply.ofBytes [0x01, 0x23, 0x20, 0x59, 0x3E]).judge 0 = .acknowledged ∧
    replies (send .inPairs Scripted.File.device Scripted.Port.device
      ⟨.plain 1 [0x41], .deliversOnly [0x01, 0x23, 0x20, 0x59, 0x3E]⟩).exchanges =
        [.ok [0x01, 0x23, 0x20, 0x59, 0x3E]] ∧
    (send .inPairs Scripted.File.device Scripted.Port.device
      ⟨.plain 1 [0x41], .deliversOnly [0x01, 0x23, 0x20, 0x59, 0x3E]⟩).ending =
        .completed { bytesSent := 1, packets := 1, retransmits := 0 } := by
  have followed : (Machine.initial.follow .inPairs Scripted.File.device Scripted.Port.device
      20 ⟨.plain 1 [0x41], .deliversOnly [0x01, 0x23, 0x20, 0x59, 0x3E]⟩).map
        (fun result => (replies result.1, result.2)) =
      some ([.ok [0x01, 0x23, 0x20, 0x59, 0x3E]],
        .completed { bytesSent := 1, packets := 1, retransmits := 0 }) := by
    decide
  obtain ⟨result, found, read⟩ := Option.map_eq_some_iff.1 followed
  obtain ⟨exchanges, ending⟩ := send_of_follow found
  rw [Prod.mk.injEq, ← exchanges, ← ending] at read
  exact ⟨by decide, by decide, read⟩

end KermitSend

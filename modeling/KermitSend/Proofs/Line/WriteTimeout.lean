import Mathlib.Data.List.Permutation
import KermitSend.Proofs.CallLog
import KermitSend.Proofs.Line.Reception
import KermitSend.Proofs.Transfer.Supply

/-!
Contract: the timeout that writes on a line run under.

A line has one timeout setting.  A reception sets it for each of its reads and leaves it at that.

Owns:
- the calls on a line, and logs of them;
- the law that a write runs under the timeout the line was opened with as long as nothing was read,
  and under what the last reception had left for its last read from then on;
- a write that fails for it after a late reply, and the transfer that ends with it.

Does not own: how long a write takes.
-/

set_option autoImplicit false

namespace KermitSend.Line

variable {σ : Type}

/-! ## Logs of calls -/

/-- A call on a line. -/
inductive LineCall where
  | write (bytes : List UInt8)
  | receive (buffer : List UInt8) (span : Nat)

/-- What a call on a line came to: a write with the timeout it ran under, a reception with its
reads. -/
inductive LineEvent where
  | written (bytes : List UInt8) (timeout : Nat) (answer : Except Fault Unit)
  | received (span : Nat) (reads : List ReadRecord) (outcome : Except Fault Nat)

/-- The reads that a call made. -/
def LineEvent.reads : LineEvent → List ReadRecord
  | .written .. => []
  | .received _ reads _ => reads

/-- Make one call on a line. -/
def Port.make (system : RawPort σ) (line : Port σ) : LineCall → LineEvent × Port σ
  | .write bytes =>
      (.written bytes line.timeout (line.writeAll system bytes).1, (line.writeAll system bytes).2)
  | .receive buffer span =>
      (.received span (line.receive system buffer span).reads
          (line.receive system buffer span).outcome,
        (line.receive system buffer span).line)

/-- No call of a log has read anything. -/
def Unread (log : List LineEvent) : Prop :=
  ∀ event ∈ log, event.reads = []

/-- In this log, the last read is the last one of a reception within `span`, after the reads
`front` of the same reception. -/
def EndsReading
    (log : List LineEvent)
    (span : Nat)
    (front : List ReadRecord)
    (last : ReadRecord) : Prop :=
  ∃ before outcome after,
    log = before ++ .received span (front ++ [last]) outcome :: after ∧ Unread after

private theorem unread_append_singleton_iff (log : List LineEvent) (event : LineEvent) :
    Unread (log ++ [event]) ↔ Unread log ∧ event.reads = [] := by
  simp [Unread, or_imp, forall_and]

/-- Either nothing was read in a log, or some read of it is the last. -/
theorem unread_or_endsReading (log : List LineEvent) :
    Unread log ∨ ∃ span front last, EndsReading log span front last := by
  induction log using List.reverseRecOn with
  | nil => exact .inl (List.forall_mem_nil _)
  | append_singleton log event inductionHypothesis =>
      by_cases unread : event.reads = []
      · rcases inductionHypothesis with silent |
          ⟨span, front, last, before, outcome, after, rfl, quiet⟩
        · exact .inl ((unread_append_singleton_iff log event).2 ⟨silent, unread⟩)
        · refine .inr ⟨span, front, last, before, outcome, after ++ [event], ?_, ?_⟩
          · rw [List.append_assoc, List.cons_append]
          · exact (unread_append_singleton_iff after event).2 ⟨quiet, unread⟩
      · cases event with
        | written bytes timeout answer => exact absurd rfl unread
        | received span reads outcome =>
            obtain ⟨front, last, rfl⟩ := (List.eq_nil_or_concat reads).resolve_left unread
            exact .inr ⟨span, front, last, log, outcome, [], by rw [List.concat_eq_append],
              List.forall_mem_nil _⟩

/-! ## What is left set -/

/-- The timeout that a log leaves on the line: that of its last read, or else the one it was opened
with. -/
def leftSet (log : List LineEvent) : Nat :=
  ((log.flatMap LineEvent.reads).getLast?.map ReadRecord.timeout).getD openTimeout

private theorem leftSet_append_singleton (log : List LineEvent) (event : LineEvent) :
    leftSet (log ++ [event]) =
      (event.reads.getLast?.map ReadRecord.timeout).getD (leftSet log) := by
  rw [leftSet, leftSet, List.flatMap_append, List.flatMap_singleton, List.getLast?_append]
  cases event.reads.getLast? <;> rfl

private theorem Unread.leftSet_eq
    {log : List LineEvent}
    (unread : Unread log) :
    leftSet log = openTimeout := by
  rw [leftSet, List.flatMap_eq_nil_iff.2 unread]
  rfl

private theorem EndsReading.leftSet_eq
    {log : List LineEvent}
    {span : Nat}
    {front : List ReadRecord}
    {last : ReadRecord}
    (ends : EndsReading log span front last) :
    leftSet log = last.timeout := by
  obtain ⟨before, outcome, after, rfl, unread⟩ := ends
  rw [leftSet, List.flatMap_append, List.flatMap_cons, List.flatMap_eq_nil_iff.2 unread,
    List.append_nil, LineEvent.reads, ← List.append_assoc, List.getLast?_concat]
  rfl

/-- A line that was not read from is set as it was, and after reads as for the last of them. -/
theorem Readings.timeout_eq
    {system : RawPort σ}
    {line last : Port σ}
    {records : List ReadRecord}
    (readings : Readings system line records last) :
    last.timeout = (records.getLast?.map ReadRecord.timeout).getD line.timeout := by
  induction readings with
  | none line => rfl
  | next rest inductionHypothesis =>
      rw [inductionHypothesis, List.getLast?_cons]
      cases (_ : List ReadRecord).getLast? <;> rfl

/-- What a log says of the line after it: it is set as the log leaves it, and each reception gave
its last read what the others had left of the span. -/
structure Sets (log : List LineEvent) (line : Port σ) : Prop where
  timeout_eq : line.timeout = leftSet log
  rest : ∀ span front last outcome, .received span (front ++ [last]) outcome ∈ log →
    elapsed front + last.timeout = span

/-- A call leaves the line set as its event says. -/
theorem Sets.make
    {log : List LineEvent}
    {line : Port σ}
    (sets : Sets log line)
    (system : RawPort σ)
    (call : LineCall) :
    Sets (log ++ [(line.make system call).1]) (line.make system call).2 := by
  cases call with
  | write bytes =>
      refine { timeout_eq := ?_, rest := ?_ }
      · rw [leftSet_append_singleton]
        exact sets.timeout_eq
      · intro span front last outcome member
        rcases List.mem_append.1 member with earlier | written
        · exact sets.rest span front last outcome earlier
        · cases List.mem_singleton.1 written
  | receive buffer span =>
      have fills := fills_fill system (line.now + span) line buffer 0 true
      refine { timeout_eq := ?_, rest := ?_ }
      · rw [leftSet_append_singleton, ← sets.timeout_eq]
        exact fills.readings.timeout_eq
      · intro other front last outcome member
        rcases List.mem_append.1 member with earlier | received
        · exact sets.rest other front last outcome earlier
        · obtain ⟨rfl, reads, -⟩ := LineEvent.received.inj (List.mem_singleton.1 received)
          exact fills.timed reads.symm

/-! ## Writes -/

/-- How a write runs after some calls on a line: under the timeout that they have left set.  That is
the timeout of opening when none of them read, and what is left of the span for the last read
otherwise; it is the timeout of opening exactly when nothing was read or the last read was left just
as much. -/
structure RunsUnder
    (system : RawPort σ)
    (earlier : List LineEvent)
    (bytes : List UInt8)
    (timeout : Nat)
    (answer : Except Fault Unit) : Prop where
  answered : ∃ state, answer = (system.write state bytes timeout).1
  unread : Unread earlier → timeout = openTimeout
  rest : ∀ span front last, EndsReading earlier span front last →
    timeout = last.timeout ∧ elapsed front + timeout = span
  opened_iff : timeout = openTimeout ↔
    Unread earlier ∨ ∃ span front last, EndsReading earlier span front last ∧
      elapsed front + openTimeout = span

private theorem Sets.runsUnder
    {log : List LineEvent}
    {line : Port σ}
    (sets : Sets log line)
    (system : RawPort σ)
    (bytes : List UInt8) :
    RunsUnder system log bytes line.timeout (line.writeAll system bytes).1 := by
  have rest : ∀ span front last, EndsReading log span front last →
      line.timeout = last.timeout ∧ elapsed front + line.timeout = span := by
    intro span front last ends
    have left : line.timeout = last.timeout := sets.timeout_eq.trans ends.leftSet_eq
    obtain ⟨before, outcome, after, rfl, -⟩ := ends
    exact ⟨left, left ▸ sets.rest span front last outcome (List.mem_append_right _ (.head _))⟩
  have unread : Unread log → line.timeout = openTimeout :=
    fun unread => sets.timeout_eq.trans unread.leftSet_eq
  refine { answered := ⟨line.raw, rfl⟩, unread, rest, opened_iff := ⟨?_, ?_⟩ }
  · intro opened
    refine (unread_or_endsReading log).imp_right ?_
    rintro ⟨span, front, last, ends⟩
    exact ⟨span, front, last, ends, opened ▸ (rest span front last ends).2⟩
  · rintro (silent | ⟨span, front, last, ends, exact⟩)
    · exact unread silent
    · have left := (rest span front last ends).2
      omega

/-- Whatever is called on a line since it was opened, every write runs under the timeout that the
calls before it have left set. -/
theorem write_runsUnder
    (system : RawPort σ)
    (raw : σ)
    (now : Nat)
    (calls : List LineCall)
    {earlier later : List LineEvent}
    {bytes : List UInt8}
    {timeout : Nat}
    {answer : Except Fault Unit}
    (split : callLog (Port.make system) (.opened raw now) calls =
      earlier ++ .written bytes timeout answer :: later) :
    RunsUnder system earlier bytes timeout answer := by
  have opened : Sets [] (Port.opened raw now) :=
    { timeout_eq := rfl, rest := fun _ _ _ _ member => absurd member List.not_mem_nil }
  obtain ⟨line, call, sets, came⟩ :=
    exists_holds_of_event (fun sets call => sets.make system call) opened split
  cases call with
  | write written =>
      obtain ⟨rfl, rfl, rfl⟩ := LineEvent.written.inj came
      exact sets.runsUnder system bytes
  | receive buffer span => cases came

/-! ## A late reply -/

/-- Two replies, the last byte of the first one late and by itself; writes take 300 milliseconds. -/
def lateReply : Scripted.Cable where
  turns :=
    [{ answer := .ok [0x01, 0x23, 0x20, 0x59, 0x3E], elapsed := 4900 },
      { answer := .ok [0x0D], elapsed := 50 },
      { answer := .ok [0x01, 0x23, 0x21, 0x59, 0x3F, 0x0D], elapsed := 10 }]
  writing := 300

/-- The same replies at the same times, each in one piece. -/
def wholeReply : Scripted.Cable where
  turns :=
    [{ answer := .ok [0x01, 0x23, 0x20, 0x59, 0x3E, 0x0D], elapsed := 4950 },
      { answer := .ok [0x01, 0x23, 0x21, 0x59, 0x3F, 0x0D], elapsed := 10 }]
  writing := 300

/-- A packet, its reply and the next packet. -/
def twoPackets : List LineCall :=
  [.write [0x01, 0x24, 0x20, 0x44, 0x41, 0x2C, 0x0D], .receive [0, 0, 0, 0, 0, 0] 5000,
    .write [0x01, 0x24, 0x21, 0x44, 0x42, 0x2E, 0x0D]]

/-- What the late reply makes of the calls up to the second packet. -/
def untilSecond : List LineEvent :=
  [.written [0x01, 0x24, 0x20, 0x44, 0x41, 0x2C, 0x0D] openTimeout (.ok ()),
    .received 5000
      [{ room := 6
         timeout := 5000
         read := { answer := .ok [0x01, 0x23, 0x20, 0x59, 0x3E], elapsed := 4900 } },
        { room := 1, timeout := 100, read := { answer := .ok [0x0D], elapsed := 50 } }]
      (.ok 6)]

-- Filling recurses on a measure, so `decide` does not evaluate it.
theorem callLog_twoPackets :
    callLog (Port.make Scripted.Cable.system) (.opened lateReply 0) twoPackets =
      untilSecond ++
        .written [0x01, 0x24, 0x21, 0x44, 0x42, 0x2E, 0x0D] 100 (.error Peer.silence) :: [] := by
  cbv

theorem write_runsUnder_lateReply :
    callLog (Port.make Scripted.Cable.system) (.opened lateReply 0) twoPackets =
        untilSecond ++
          .written [0x01, 0x24, 0x21, 0x44, 0x42, 0x2E, 0x0D] 100 (.error Peer.silence) :: [] ∧
      RunsUnder Scripted.Cable.system untilSecond [0x01, 0x24, 0x21, 0x44, 0x42, 0x2E, 0x0D] 100
        (.error Peer.silence) :=
  ⟨callLog_twoPackets, write_runsUnder _ _ _ _ callLog_twoPackets⟩

/-- One byte of the file in each packet. -/
def oneByOne : KermitSend.Settings :=
  { KermitSend.Settings.forMode .small with chunkLimit := 1 }

/-- A receiver that accepts every packet, on a line whose second write runs out of time. -/
def stallsOnce : Scripted.Port :=
  { writes := 0
    writeFaults := [(1, Peer.silence)]
    arrived := 0
    leftover := []
    responses := []
    afterwards := some (.answer Wire.acceptKind) }

/-- After a reply that ends late the next packet is written under what was left for the reply's last
byte, which does not suffice where the timeout of opening would.  A transfer fails with it that goes
through when the same reply comes in one piece. -/
theorem late_reply_fails_write :
    callLog (Port.make Scripted.Cable.system) (.opened lateReply 0) twoPackets =
        untilSecond ++
          .written [0x01, 0x24, 0x21, 0x44, 0x42, 0x2E, 0x0D] 100 (.error Peer.silence) :: [] ∧
      100 ≠ openTimeout ∧
      lateReply.write openTimeout = .ok () ∧
      (send oneByOne Scripted.File.device (Port.device Scripted.Cable.system)
        ⟨.plain 2 [0x41, 0x42], .opened wholeReply 0⟩).ending = .completed ⟨2, 2, 0⟩ ∧
      (send oneByOne Scripted.File.device (Port.device Scripted.Cable.system)
        ⟨.plain 2 [0x41, 0x42], .opened lateReply 0⟩).ending =
          .failed (.write 1 1 Peer.silence) ∧
      (send oneByOne Scripted.File.device (Port.device Scripted.Cable.system)
        ⟨.plain 2 [0x41, 0x42], .opened lateReply 0⟩).exchanges =
          (send oneByOne Scripted.File.device Scripted.Port.device
            ⟨.plain 2 [0x41, 0x42], stallsOnce⟩).exchanges := by
  have whole : Machine.initial.follow oneByOne Scripted.File.device
      (Port.device Scripted.Cable.system) 20 ⟨.plain 2 [0x41, 0x42], .opened wholeReply 0⟩ =
        Machine.initial.follow oneByOne Scripted.File.device Scripted.Port.device 20
          ⟨.plain 2 [0x41, 0x42], { stallsOnce with writeFaults := [] }⟩ := by
    cbv
  have same : Machine.initial.follow oneByOne Scripted.File.device
      (Port.device Scripted.Cable.system) 20 ⟨.plain 2 [0x41, 0x42], .opened lateReply 0⟩ =
        Machine.initial.follow oneByOne Scripted.File.device Scripted.Port.device 20
          ⟨.plain 2 [0x41, 0x42], stallsOnce⟩ := by
    cbv
  have completed : (Machine.initial.follow oneByOne Scripted.File.device
      (Port.device Scripted.Cable.system) 20
      ⟨.plain 2 [0x41, 0x42], .opened wholeReply 0⟩).map Prod.snd =
        some (.completed ⟨2, 2, 0⟩) := by
    rw [whole]
    decide
  have failed : (Machine.initial.follow oneByOne Scripted.File.device
      (Port.device Scripted.Cable.system) 20
      ⟨.plain 2 [0x41, 0x42], .opened lateReply 0⟩).map Prod.snd =
        some (.failed (.write 1 1 Peer.silence)) := by
    rw [same]
    decide
  obtain ⟨result, late, -⟩ := Option.map_eq_some_iff.1 failed
  have scripted := same.symm.trans late
  exact ⟨callLog_twoPackets, by decide, by decide, ending_of_follow completed,
    ending_of_follow failed,
    (send_of_follow late).1.trans (send_of_follow scripted).1.symm⟩

end KermitSend.Line

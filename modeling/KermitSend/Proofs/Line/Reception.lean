import KermitSend.Scripted.Cable

/-!
Contract: filling a buffer from a line, read by read.

Owns:
- the reads of a reception as calls of the system, with what they delivered and the time they took;
- every way in which filling goes on and ends;
- the law that a reception keeps its deadline and that no delivered byte is lost, and when it brings
  less than there was room for.

Does not own: what the sender makes of a reply.
-/

set_option autoImplicit false

namespace KermitSend.Line

variable {σ : Type}

/-! ## Reads -/

/-- The bytes that a read delivered. -/
def ReadRecord.delivered (record : ReadRecord) : List UInt8 :=
  match record.read.answer with
  | .ok bytes => bytes
  | .error _ => []

/-- The bytes that a list of reads delivered. -/
def delivered (records : List ReadRecord) : List UInt8 :=
  records.flatMap ReadRecord.delivered

/-- The time that a list of reads took. -/
def elapsed : List ReadRecord → Nat
  | [] => 0
  | record :: records => record.read.elapsed + elapsed records

private theorem delivered_cons (record : ReadRecord) (records : List ReadRecord) :
    delivered (record :: records) = record.delivered ++ delivered records :=
  rfl

private theorem elapsed_append (left right : List ReadRecord) :
    elapsed (left ++ right) = elapsed left + elapsed right := by
  induction left with
  | nil => exact (Nat.zero_add _).symm
  | cons record left inductionHypothesis =>
      rw [List.cons_append, elapsed, elapsed, inductionHypothesis, Nat.add_assoc]

/-- A read that says that nothing more is coming: it is empty or its time ran out. -/
def ReadRecord.Dry (record : ReadRecord) : Prop :=
  record.read.answer = .ok [] ∨
    ∃ fault, record.read.answer = .error fault ∧ fault.kind = .timedOut

/-- A read that was interrupted. -/
def ReadRecord.Interrupted (record : ReadRecord) : Prop :=
  ∃ fault, record.read.answer = .error fault ∧ fault.kind = .interrupted

/-- A read that failed in a way that the line does not get over. -/
def ReadRecord.FailsFor (fault : Fault) (record : ReadRecord) : Prop :=
  record.read.answer = .error fault ∧ fault.kind ≠ .timedOut ∧ fault.kind ≠ .interrupted

section Kinds

variable
  {record : ReadRecord}
  {fault : Fault}
  {bytes : List UInt8}

private theorem ReadRecord.delivered_of_ok (answer : record.read.answer = .ok bytes) :
    record.delivered = bytes := by
  rw [delivered, answer]

private theorem ReadRecord.delivered_of_error (answer : record.read.answer = .error fault) :
    record.delivered = [] := by
  rw [delivered, answer]

private theorem ReadRecord.Dry.delivered_eq (dry : record.Dry) : record.delivered = [] := by
  rcases dry with empty | ⟨fault, failed, -⟩
  · exact delivered_of_ok empty
  · exact delivered_of_error failed

private theorem ReadRecord.not_interrupted_of_ok (answer : record.read.answer = .ok bytes) :
    ¬ record.Interrupted := by
  rintro ⟨fault, failed, -⟩
  cases answer.symm.trans failed

private theorem ReadRecord.not_failsFor_of_ok (answer : record.read.answer = .ok bytes) :
    ¬ record.FailsFor fault := by
  rintro ⟨failed, -⟩
  cases answer.symm.trans failed

private theorem ReadRecord.Dry.not_interrupted (dry : record.Dry) : ¬ record.Interrupted := by
  rcases dry with empty | ⟨fault, failed, timedOut⟩
  · exact not_interrupted_of_ok empty
  · rintro ⟨other, again, interrupted⟩
    obtain rfl := Except.error.inj (failed.symm.trans again)
    cases timedOut.symm.trans interrupted

private theorem ReadRecord.Dry.not_failsFor (dry : record.Dry) : ¬ record.FailsFor fault := by
  rcases dry with empty | ⟨other, failed, timedOut⟩
  · exact not_failsFor_of_ok empty
  · rintro ⟨again, notTimedOut, -⟩
    obtain rfl := Except.error.inj (failed.symm.trans again)
    exact notTimedOut timedOut

private theorem ReadRecord.FailsFor.not_interrupted (fails : record.FailsFor fault) :
    ¬ record.Interrupted := by
  rintro ⟨other, again, interrupted⟩
  obtain rfl := Except.error.inj (fails.1.symm.trans again)
  exact fails.2.2 interrupted

private theorem ReadRecord.FailsFor.unique
    {other : Fault}
    (fails : record.FailsFor fault)
    (again : record.FailsFor other) :
    fault = other :=
  Except.error.inj (fails.1.symm.trans again.1)

end Kinds

/-- One read of the system in the time left until a deadline. -/
def Port.attempt (system : RawPort σ) (deadline : Nat) (line : Port σ) (room : Nat) : ReadRecord :=
  { room
    timeout := deadline - line.now
    read := (system.read line.raw room (deadline - line.now)).1 }

/-- The line after a read. -/
def Port.afterAttempt
    (system : RawPort σ)
    (deadline : Nat)
    (line : Port σ)
    (room : Nat) :
    Port σ :=
  let result := system.read line.raw room (deadline - line.now)
  line.afterRead (deadline - line.now) result.1 result.2

/-- These reads of the system, each under the timeout set for it, lead from one state of a line to
another. -/
inductive Readings (system : RawPort σ) : Port σ → List ReadRecord → Port σ → Prop where
  | none (line : Port σ) : Readings system line [] line
  | next {line last : Port σ} {room timeout : Nat} {records : List ReadRecord}
      (rest : Readings system
        (line.afterRead timeout (system.read line.raw room timeout).1
          (system.read line.raw room timeout).2) records last) :
      Readings system line
        ({ room, timeout, read := (system.read line.raw room timeout).1 } :: records) last

/-! ## Ways of filling -/

/-- What filling a buffer from position `filled` on comes to, way by way. -/
inductive Fills (system : RawPort σ) (deadline : Nat) :
    Port σ → List UInt8 → Nat → Bool → Reception σ → Prop where
  | full {line buffer filled first}
      (whole : buffer.length ≤ filled) :
      Fills system deadline line buffer filled first
        { outcome := .ok filled, buffer, reads := [], line }
  | late {line buffer filled}
      (past : deadline ≤ line.now) :
      Fills system deadline line buffer filled false
        { outcome := .ok filled, buffer, reads := [], line }
  | dry {line buffer filled first}
      (more : filled < buffer.length)
      (dry : (line.attempt system deadline (buffer.length - filled)).Dry) :
      Fills system deadline line buffer filled first
        { outcome := .ok filled
          buffer
          reads := [line.attempt system deadline (buffer.length - filled)]
          line := line.afterAttempt system deadline (buffer.length - filled) }
  | failed {line buffer filled first fault}
      (more : filled < buffer.length)
      (fails : (line.attempt system deadline (buffer.length - filled)).FailsFor fault) :
      Fills system deadline line buffer filled first
        { outcome := .error fault
          buffer
          reads := [line.attempt system deadline (buffer.length - filled)]
          line := line.afterAttempt system deadline (buffer.length - filled) }
  | stored {line buffer filled first bytes reception}
      (more : filled < buffer.length)
      (answer : (line.attempt system deadline (buffer.length - filled)).read.answer = .ok bytes)
      (some : bytes ≠ [])
      (rest : Fills system deadline
        (line.afterAttempt system deadline (buffer.length - filled))
        (overwrite buffer filled bytes) (filled + bytes.length) false reception) :
      Fills system deadline line buffer filled first
        { reception with
          reads := line.attempt system deadline (buffer.length - filled) :: reception.reads }
  | interrupted {line buffer filled first reception}
      (more : filled < buffer.length)
      (interrupted : (line.attempt system deadline (buffer.length - filled)).Interrupted)
      (rest : Fills system deadline
        (line.afterAttempt system deadline (buffer.length - filled)) buffer filled false
        reception) :
      Fills system deadline line buffer filled first
        { reception with
          reads := line.attempt system deadline (buffer.length - filled) :: reception.reads }

theorem fills_fill
    (system : RawPort σ)
    (deadline : Nat)
    (line : Port σ)
    (buffer : List UInt8)
    (filled : Nat)
    (first : Bool) :
    Fills system deadline line buffer filled first
      (line.fill system deadline buffer filled first) := by
  fun_induction Port.fill system deadline line buffer filled first with
  | case1 line buffer filled first room timeout closed =>
      rcases closed with whole | ⟨past, rfl⟩
      · exact .full (Nat.le_of_sub_eq_zero whole)
      · exact .late (Nat.le_of_sub_eq_zero past)
  | case2 line buffer filled first room timeout more result after record answer =>
      exact .dry (by omega) (.inl answer)
  | case3 line buffer filled first room timeout more result after record byte bytes answer rest
      inductionHypothesis =>
      exact .stored (by omega) answer (List.cons_ne_nil byte bytes) inductionHypothesis
  | case4 line buffer filled first room timeout more result after record fault answer timedOut =>
      exact .dry (by omega) (.inr ⟨fault, answer, timedOut⟩)
  | case5 line buffer filled first room timeout more result after record fault answer notTimedOut
      interrupted rest inductionHypothesis =>
      exact .interrupted (by omega) ⟨fault, answer, interrupted⟩ inductionHypothesis
  | case6 line buffer filled first room timeout more result after record fault answer notTimedOut
      notInterrupted =>
      exact .failed (by omega) ⟨answer, notTimedOut, notInterrupted⟩

/-! ## Laws of filling -/

section Attempts

variable
  {system : RawPort σ}
  {deadline room : Nat}
  {line : Port σ}

/-- A read that is offered the rest of a buffer does not deliver more. -/
theorem fits_of_attempt
    {buffer bytes : List UInt8}
    {filled : Nat}
    (more : filled < buffer.length)
    (answer : (line.attempt system deadline (buffer.length - filled)).read.answer = .ok bytes) :
    filled + bytes.length ≤ buffer.length := by
  have short : bytes.length ≤ buffer.length - filled := system.read_length_le _ _ _ bytes answer
  omega

/-- A read in the time left until a deadline keeps the deadline. -/
theorem now_afterAttempt_le (early : line.now ≤ deadline) :
    (line.afterAttempt system deadline room).now ≤ deadline := by
  have brief := system.elapsed_le line.raw room (deadline - line.now)
  show line.now + (system.read line.raw room (deadline - line.now)).1.elapsed ≤ deadline
  omega

end Attempts

section Laws

variable
  {system : RawPort σ}
  {deadline : Nat}
  {line : Port σ}
  {buffer : List UInt8}
  {filled : Nat}
  {first : Bool}
  {reception : Reception σ}

theorem Fills.readings (fills : Fills system deadline line buffer filled first reception) :
    Readings system line reception.reads reception.line := by
  induction fills with
  | full whole => exact .none _
  | late past => exact .none _
  | dry more dry => exact .next (.none _)
  | failed more fails => exact .next (.none _)
  | stored more answer some rest inductionHypothesis => exact .next inductionHypothesis
  | interrupted more interrupted rest inductionHypothesis => exact .next inductionHypothesis

private theorem Readings.now_eq
    {last : Port σ}
    {records : List ReadRecord}
    (readings : Readings system line records last) :
    last.now = line.now + elapsed records := by
  induction readings with
  | none line => rfl
  | next rest inductionHypothesis => exact inductionHypothesis.trans (Nat.add_assoc _ _ _)

/-- Filling keeps its deadline. -/
theorem Fills.now_le
    (fills : Fills system deadline line buffer filled first reception)
    (early : line.now ≤ deadline) :
    reception.line.now ≤ deadline := by
  induction fills with
  | full whole => exact early
  | late past => exact early
  | dry more dry => exact now_afterAttempt_le early
  | failed more fails => exact now_afterAttempt_le early
  | stored more answer some rest inductionHypothesis =>
      exact inductionHypothesis (now_afterAttempt_le early)
  | interrupted more interrupted rest inductionHypothesis =>
      exact inductionHypothesis (now_afterAttempt_le early)

/-- What was delivered fits and stands in the buffer in order; nothing else has changed in it. -/
theorem Fills.buffer_eq
    (fills : Fills system deadline line buffer filled first reception)
    (within : filled ≤ buffer.length) :
    filled + (delivered reception.reads).length ≤ buffer.length ∧
      reception.buffer = overwrite buffer filled (delivered reception.reads) := by
  induction fills with
  | full whole => exact ⟨within, (overwrite_nil _ _).symm⟩
  | late past => exact ⟨within, (overwrite_nil _ _).symm⟩
  | dry more dry =>
      rw [delivered_cons, dry.delivered_eq]
      exact ⟨within, (overwrite_nil _ _).symm⟩
  | failed more fails =>
      rw [delivered_cons, ReadRecord.delivered_of_error fails.1]
      exact ⟨within, (overwrite_nil _ _).symm⟩
  | @stored line buffer filled first bytes reception more answer some rest inductionHypothesis =>
      have fits := fits_of_attempt more answer
      rw [length_overwrite fits] at inductionHypothesis
      obtain ⟨room, stands⟩ := inductionHypothesis fits
      rw [delivered_cons, ReadRecord.delivered_of_ok answer, List.length_append, ← Nat.add_assoc,
        ← overwrite_overwrite fits]
      exact ⟨room, stands⟩
  | interrupted more interrupted rest inductionHypothesis =>
      obtain ⟨fault, failed, -⟩ := interrupted
      rw [delivered_cons, ReadRecord.delivered_of_error failed]
      exact inductionHypothesis within

/-- What is counted as filled is what was delivered. -/
theorem Fills.count_eq
    (fills : Fills system deadline line buffer filled first reception)
    {count : Nat}
    (outcome : reception.outcome = .ok count) :
    count = filled + (delivered reception.reads).length := by
  induction fills with
  | full whole => exact (Except.ok.inj outcome).symm
  | late past => exact (Except.ok.inj outcome).symm
  | dry more dry =>
      rw [delivered_cons, dry.delivered_eq]
      exact (Except.ok.inj outcome).symm
  | failed more fails => cases outcome
  | stored more answer some rest inductionHypothesis =>
      rw [inductionHypothesis outcome, delivered_cons, ReadRecord.delivered_of_ok answer,
        List.length_append, Nat.add_assoc]
  | interrupted more interrupted rest inductionHypothesis =>
      obtain ⟨fault, failed, -⟩ := interrupted
      rw [delivered_cons, ReadRecord.delivered_of_error failed]
      exact inductionHypothesis outcome

/-- How a reception into a buffer of this size ends. -/
inductive Ends (deadline size : Nat) (reception : Reception σ) : Prop where
  | full {count : Nat}
      (outcome : reception.outcome = .ok count)
      (whole : size ≤ count)
  | late {count : Nat}
      (outcome : reception.outcome = .ok count)
      (past : deadline ≤ reception.line.now)
  | dry {count : Nat} {earlier : List ReadRecord} {last : ReadRecord}
      (outcome : reception.outcome = .ok count)
      (split : reception.reads = earlier ++ [last])
      (dry : last.Dry)
  | failed {fault : Fault} {earlier : List ReadRecord} {last : ReadRecord}
      (outcome : reception.outcome = .error fault)
      (split : reception.reads = earlier ++ [last])
      (fails : last.FailsFor fault)

private theorem Ends.cons
    {size : Nat}
    (ends : Ends deadline size reception)
    (record : ReadRecord) :
    Ends deadline size { reception with reads := record :: reception.reads } := by
  have longer : ∀ {earlier : List ReadRecord} {last : ReadRecord},
      reception.reads = earlier ++ [last] →
        record :: reception.reads = (record :: earlier) ++ [last] :=
    fun split => congrArg (record :: ·) split
  cases ends with
  | full outcome whole => exact .full outcome whole
  | late outcome past => exact .late outcome past
  | dry outcome split dry => exact .dry outcome (longer split) dry
  | failed outcome split fails => exact .failed outcome (longer split) fails

private theorem Fills.ends
    (fills : Fills system deadline line buffer filled first reception)
    (within : filled ≤ buffer.length) :
    Ends deadline buffer.length reception := by
  induction fills with
  | full whole => exact .full rfl whole
  | late past => exact .late rfl past
  | dry more dry => exact .dry rfl (List.nil_append _).symm dry
  | failed more fails => exact .failed rfl (List.nil_append _).symm fails
  | @stored line buffer filled first bytes reception more answer some rest inductionHypothesis =>
      have fits := fits_of_attempt more answer
      rw [length_overwrite fits] at inductionHypothesis
      exact (inductionHypothesis fits).cons _
  | interrupted more interrupted rest inductionHypothesis =>
      exact (inductionHypothesis within).cons _

/-- Filling that makes no read with room left has missed its deadline, after an earlier read. -/
theorem Fills.late_of_unread
    (fills : Fills system deadline line buffer filled first reception)
    (more : filled < buffer.length)
    (unread : reception.reads = []) :
    first = false ∧ deadline ≤ reception.line.now := by
  cases fills with
  | full whole => omega
  | late past => exact ⟨rfl, past⟩
  | _ => cases unread

/-- What holds of a read among those of a reception: it is offered the rest of the buffer and the
rest of the time; when it was interrupted, nothing but the deadline keeps the next read from being
made; and a failure that the line does not get over is the last read and the outcome. -/
structure Moment
    (deadline : Nat)
    (line : Port σ)
    (size filled : Nat)
    (reception : Reception σ)
    (earlier : List ReadRecord)
    (record : ReadRecord)
    (later : List ReadRecord) : Prop where
  offered : filled + (delivered earlier).length + record.room = size
  room : 0 < record.room
  timed : record.timeout = deadline - (line.now + elapsed earlier)
  resumed : record.Interrupted → later = [] → deadline ≤ reception.line.now
  fatal : ∀ fault, record.FailsFor fault → later = [] ∧ reception.outcome = .error fault

/-- The first read of a reception. -/
theorem moment_attempt
    (later : List ReadRecord)
    (more : filled < buffer.length)
    (resumed : (line.attempt system deadline (buffer.length - filled)).Interrupted → later = [] →
      deadline ≤ reception.line.now)
    (fatal : ∀ fault, (line.attempt system deadline (buffer.length - filled)).FailsFor fault →
      later = [] ∧ reception.outcome = .error fault) :
    Moment deadline line buffer.length filled reception []
      (line.attempt system deadline (buffer.length - filled)) later where
  offered := by
    show filled + 0 + (buffer.length - filled) = buffer.length
    omega
  room := Nat.sub_pos_of_lt more
  timed := rfl
  resumed := resumed
  fatal := fatal

/-- A read after another one. -/
theorem Moment.cons
    {size room : Nat}
    {earlier later : List ReadRecord}
    {record : ReadRecord}
    (moment : Moment deadline (line.afterAttempt system deadline room) size
      (filled + (line.attempt system deadline room).delivered.length) reception earlier record
      later) :
    Moment deadline line size filled
      { reception with reads := line.attempt system deadline room :: reception.reads }
      (line.attempt system deadline room :: earlier) record later where
  offered := by
    rw [delivered_cons, List.length_append, ← Nat.add_assoc]
    exact moment.offered
  room := moment.room
  timed := by
    rw [elapsed, ← Nat.add_assoc]
    exact moment.timed
  resumed := moment.resumed
  fatal := moment.fatal

private theorem Fills.moment
    (fills : Fills system deadline line buffer filled first reception)
    (within : filled ≤ buffer.length)
    {earlier later : List ReadRecord}
    {record : ReadRecord}
    (split : reception.reads = earlier ++ record :: later) :
    Moment deadline line buffer.length filled reception earlier record later := by
  induction fills generalizing earlier with
  | full whole => simp at split
  | late past => simp at split
  | dry more dry =>
      cases earlier with
      | nil =>
          obtain ⟨rfl, rfl⟩ := List.cons.inj split
          exact moment_attempt [] more (fun interrupted => absurd interrupted dry.not_interrupted)
            (fun fault fails => absurd fails dry.not_failsFor)
      | cons other earlier => simp at split
  | failed more fails =>
      cases earlier with
      | nil =>
          obtain ⟨rfl, rfl⟩ := List.cons.inj split
          exact moment_attempt [] more
            (fun interrupted => absurd interrupted fails.not_interrupted)
            (fun fault again => ⟨rfl, congrArg _ (fails.unique again)⟩)
      | cons other earlier => simp at split
  | @stored line buffer filled first bytes reception more answer some rest inductionHypothesis =>
      cases earlier with
      | nil =>
          obtain ⟨rfl, rfl⟩ := List.cons.inj split
          exact moment_attempt _ more
            (fun interrupted => absurd interrupted (ReadRecord.not_interrupted_of_ok answer))
            (fun fault fails => absurd fails (ReadRecord.not_failsFor_of_ok answer))
      | cons other earlier =>
          obtain ⟨rfl, behind⟩ := List.cons.inj split
          have fits := fits_of_attempt more answer
          rw [length_overwrite fits, ← ReadRecord.delivered_of_ok answer] at inductionHypothesis
          rw [← ReadRecord.delivered_of_ok answer] at fits
          exact (inductionHypothesis fits behind).cons
  | interrupted more interrupted rest inductionHypothesis =>
      obtain ⟨fault, failed, kind⟩ := interrupted
      cases earlier with
      | nil =>
          obtain ⟨rfl, rfl⟩ := List.cons.inj split
          refine moment_attempt _ more ?_ ?_
          -- The room is as it was, so only the deadline can have kept the next read from being made.
          · exact fun _ unread => (rest.late_of_unread more unread).2
          · exact fun other fails => absurd ⟨fault, failed, kind⟩ fails.not_interrupted
      | cons other earlier =>
          obtain ⟨rfl, behind⟩ := List.cons.inj split
          have nothing := ReadRecord.delivered_of_error failed
          refine Moment.cons ?_
          rw [nothing]
          exact inductionHypothesis within behind

end Laws

/-! ## Receptions -/

/-- What a reception into a buffer within a span of time comes to.  It makes at least one read, and
each read is offered the rest of the buffer and set to what is left of the span.  The bytes counted
are those delivered, in order, with the rest of the buffer as it was; they are fewer than there was
room for only when nothing more is coming or the span is over.  An interruption does not end it
while time is left; any other failure does, and is passed on. -/
structure Received
    (system : RawPort σ)
    (line : Port σ)
    (buffer : List UInt8)
    (span : Nat)
    (reception : Reception σ) : Prop where
  readings : Readings system line reception.reads reception.line
  attempted : reception.reads ≠ []
  timed : ∀ earlier record later, reception.reads = earlier ++ record :: later →
    elapsed earlier + record.timeout = span
  offered : ∀ earlier record later, reception.reads = earlier ++ record :: later →
    (delivered earlier).length + record.room = buffer.length ∧ 0 < record.room
  inTime : reception.line.now ≤ line.now + span
  stored : ∀ count, reception.outcome = .ok count →
    count ≤ buffer.length ∧ reception.buffer.take count = delivered reception.reads ∧
      reception.buffer.drop count = buffer.drop count
  cutShort : ∀ count, reception.outcome = .ok count → count < buffer.length →
    (∃ earlier last, reception.reads = earlier ++ [last] ∧ last.Dry) ∨
      reception.line.now = line.now + span
  resumed : ∀ earlier record later, reception.reads = earlier ++ record :: later →
    record.Interrupted → elapsed (earlier ++ [record]) < span → later ≠ []
  fatal : ∀ earlier record later fault, reception.reads = earlier ++ record :: later →
    record.FailsFor fault → later = [] ∧ reception.outcome = .error fault
  failed : ∀ fault, reception.outcome = .error fault →
    ∃ earlier last, reception.reads = earlier ++ [last] ∧ last.FailsFor fault

section Receptions

variable
  {system : RawPort σ}
  {line : Port σ}
  {buffer : List UInt8}
  {span : Nat}
  {reception : Reception σ}

/-- Filling from the front puts what was delivered in front of the rest of the buffer. -/
theorem Fills.stored_eq
    (fills : Fills system (line.now + span) line buffer 0 true reception)
    {count : Nat}
    (outcome : reception.outcome = .ok count) :
    count ≤ buffer.length ∧ reception.buffer.take count = delivered reception.reads ∧
      reception.buffer.drop count = buffer.drop count := by
  obtain ⟨fits, stands⟩ := fills.buffer_eq (Nat.zero_le _)
  have counted := fills.count_eq outcome
  rw [Nat.zero_add] at fits counted
  rw [overwrite, List.take_zero, List.nil_append, Nat.zero_add] at stands
  rw [stands, counted]
  exact ⟨fits, List.take_left' rfl, List.drop_left' rfl⟩

private theorem Fills.elapsed_le
    (fills : Fills system (line.now + span) line buffer 0 true reception) :
    elapsed reception.reads ≤ span ∧ reception.line.now = line.now + elapsed reception.reads := by
  have early := fills.now_le (Nat.le_add_right _ _)
  have passed := fills.readings.now_eq
  omega

/-- Each read is given what the reads before it have left of the span. -/
theorem Fills.timed
    (fills : Fills system (line.now + span) line buffer 0 true reception)
    {earlier later : List ReadRecord}
    {record : ReadRecord}
    (split : reception.reads = earlier ++ record :: later) :
    elapsed earlier + record.timeout = span := by
  have timed := (fills.moment (Nat.zero_le _) split).timed
  have brief := fills.elapsed_le.1
  rw [split, elapsed_append] at brief
  omega

/-- Filling from the front of a buffer that has room, within a span from now on. -/
theorem Fills.received
    (fills : Fills system (line.now + span) line buffer 0 true reception)
    (offered : buffer ≠ []) :
    Received system line buffer span reception := by
  obtain ⟨brief, passed⟩ := fills.elapsed_le
  have more : 0 < buffer.length := List.length_pos_iff.2 offered
  have moments : ∀ {earlier record later}, reception.reads = earlier ++ record :: later →
      Moment (line.now + span) line buffer.length 0 reception earlier record later :=
    fun split => fills.moment (Nat.zero_le _) split
  refine
    { readings := fills.readings
      attempted := ?attempted
      timed := fun earlier record later split => fills.timed split
      offered := ?offered
      inTime := fills.now_le (Nat.le_add_right _ _)
      stored := fun count outcome => fills.stored_eq outcome
      cutShort := ?cutShort
      resumed := ?resumed
      fatal := fun earlier record later fault split => (moments split).fatal fault
      failed := ?failed }
  case attempted =>
    intro unread
    cases (fills.late_of_unread more unread).1
  case offered =>
    intro earlier record later split
    have offered := (moments split).offered
    rw [Nat.zero_add] at offered
    exact ⟨offered, (moments split).room⟩
  case cutShort =>
    intro count outcome short
    cases fills.ends (Nat.zero_le _) with
    | full counted whole =>
        obtain rfl := Except.ok.inj (outcome.symm.trans counted)
        omega
    | late counted past => exact .inr (by omega)
    | dry counted split dry => exact .inl ⟨_, _, split, dry⟩
    | failed failed split fails => cases outcome.symm.trans failed
  case resumed =>
    intro earlier record later split interrupted early last
    have past := (moments split).resumed interrupted last
    rw [passed, split, last] at past
    omega
  case failed =>
    intro fault outcome
    cases fills.ends (Nat.zero_le _) with
    | failed failed split fails =>
        obtain rfl := Except.error.inj (outcome.symm.trans failed)
        exact ⟨_, _, split, fails⟩
    | _ counted => cases outcome.symm.trans counted

end Receptions

end KermitSend.Line

import KermitSend.Proofs.Transfer.RetryBudget
import KermitSend.Proofs.Transfer.Schedule

/-!
Contract: what the order of its calls says of every transfer.

Owns:
- what can follow a write, the end of the transfer, the closing of the file and a call that fails;
- what has been said when the file is read, the end is told and the file is closed;
- the law that every transfer stops and waits: it keeps to a schedule, waits for a reply between two
  writes, and reads on only when the packet in flight is acknowledged;
- the law that closing the file decides nothing.

Does not own: what the calls carry.
-/

set_option autoImplicit false

namespace KermitSend

variable {φ π : Type}

/-! ## What follows a call -/

/-- An item that is not the first comes after the first. -/
theorem exists_cons_of_ne
    {first item : Exchange}
    {later before after : List Exchange}
    (other : first ≠ item)
    (split : first :: later = before ++ item :: after) :
    ∃ rest, before = first :: rest ∧ later = rest ++ item :: after := by
  cases before with
  | nil => exact absurd (List.cons.inj split).1 other
  | cons head rest =>
      obtain ⟨rfl, same⟩ := List.cons.inj split
      exact ⟨rest, rfl, same⟩

/-- Whether a frame is on its way, or about to be, that no reply has acknowledged. -/
def Phase.unanswered : Phase → Bool
  | .sending | .receiving | .retry => true
  | _ => false

namespace Machine

variable
  {settings : Settings}
  {machine next : Machine}
  {exchange : Exchange}
  {exchanges later : List Exchange}
  {ending : Ending}

/-- A wait that the sender goes on after is not a failure. -/
theorem undisturbed_of_forgiven
    {answer : Answer}
    (forgiven : Forgiven answer)
    (room timeout : Nat) :
    (Exchange.receive room timeout answer).Undisturbed := by
  cases answer with
  | ok bytes => exact trivial
  | error fault => exact forgiven fault rfl

private theorem Moves.undisturbed (move : machine.Moves settings [exchange] next) :
    exchange.Undisturbed := by
  cases move with
  | opened _ _ => exact trivial
  | interrupted _ _ kind => exact kind
  | stored _ _ nonempty _ => exact nonempty
  | sent _ => exact trivial
  | acknowledged _ forgiven _ => exact undisturbed_of_forgiven forgiven _ _
  | refused _ forgiven _ => exact undisturbed_of_forgiven forgiven _ _
  | ended _ => exact trivial

/-- Nothing follows a call that fails for good. -/
theorem Calls.failed
    (calls : machine.Calls settings exchange later ending)
    (disturbed : ¬ exchange.Undisturbed) :
    later = [] ∧ ∃ error, ending = .failed error := by
  cases calls with
  | moved move _ => exact absurd move.undisturbed disturbed
  | stopped stops =>
      refine ⟨rfl, ?_⟩
      cases stops with
      | closed _ => exact absurd trivial disturbed
      | _ => exact ⟨_, rfl⟩

/-- Nothing follows the closing of the file. -/
theorem Calls.close
    {answer : Except Fault Unit}
    (calls : machine.Calls settings (.close answer) later ending) :
    machine.phase = .closing ∧ later = [] ∧ ∃ report, ending = .completed report := by
  cases calls with
  | moved move _ => cases move
  | stopped stops =>
      cases stops with
      | closed phase => exact ⟨phase, rfl, _, rfl⟩

/-- After the end of the transfer only the file is closed. -/
theorem Concludes.of_closing
    (concludes : machine.Concludes settings exchanges ending)
    (closing : machine.phase = .closing) :
    ∃ answer, exchanges = [.close answer] := by
  cases concludes with
  | moved move _ => cases move <;> simp_all
  | stopped stops =>
      cases stops with
      | closed _ => exact ⟨_, rfl⟩
      | _ => simp_all

/-- After a frame is sent, a reply is waited for. -/
theorem Concludes.of_receiving
    (concludes : machine.Concludes settings exchanges ending)
    (receiving : machine.phase = .receiving) :
    ∃ reply rest, exchanges =
      .receive Wire.replyLength settings.replyTimeout reply :: rest := by
  cases concludes with
  | moved move _ =>
      cases move with
      | acknowledged _ _ _ => exact ⟨_, _, rfl⟩
      | refused _ _ _ => exact ⟨_, _, rfl⟩
      | _ => simp_all
  | stopped stops =>
      cases stops with
      | unheard _ _ => exact ⟨_, [], rfl⟩
      | _ => simp_all

/-- A write is that of the frame in flight, after which a reply is waited for, or that of the end of
the transfer, after which the file is closed; nothing follows it if it fails. -/
theorem Calls.write
    {bytes : List UInt8}
    {answer : Except Fault Unit}
    (calls : machine.Calls settings (.write bytes answer) later ending) :
    (machine.phase = .sending ∧ bytes = machine.frame ∧
      (later = [] ∨ Concludes settings { machine with phase := .receiving } later ending)) ∨
    (machine.phase = .finishing ∧ bytes = [Wire.endOfTransfer] ∧
      (later = [] ∨ ∃ closing, later = [.close closing])) := by
  cases calls with
  | moved move rest =>
      cases move with
      | sent phase => exact .inl ⟨phase, rfl, .inr rest⟩
      | ended phase => exact .inr ⟨phase, rfl, .inr (rest.of_closing rfl)⟩
  | stopped stops =>
      cases stops with
      | unsent phase => exact .inl ⟨phase, rfl, .inl rfl⟩
      | unended phase => exact .inr ⟨phase, rfl, .inl rfl⟩

/-- After a write the next call, if there is one, is the wait for a reply or the closing. -/
theorem Calls.waits
    {bytes other : List UInt8}
    {answer otherAnswer : Except Fault Unit}
    {between after : List Exchange}
    (calls : machine.Calls settings (.write bytes answer)
      (between ++ .write other otherAnswer :: after) ending) :
    ∃ reply, .receive Wire.replyLength settings.replyTimeout reply ∈ between := by
  rcases calls.write with ⟨-, -, none | concludes⟩ | ⟨-, -, none | ⟨closing, last⟩⟩
  · simp at none
  · obtain ⟨reply, rest, split⟩ := concludes.of_receiving rfl
    obtain ⟨earlier, rfl, -⟩ := exists_cons_of_ne (by simp) split.symm
    exact ⟨reply, List.mem_cons_self⟩
  · simp at none
  · obtain ⟨earlier, -, nothing⟩ := exists_cons_of_ne (by simp) last.symm
    simp at nothing

/-- A read of the file comes only after a reply that acknowledges the packet in flight. -/
theorem Concludes.acknowledged
    (concludes : machine.Concludes settings exchanges ending)
    (unanswered : machine.phase.unanswered = true)
    {between after : List Exchange}
    {room : Nat}
    {answer : Except Fault (List UInt8)}
    (split : exchanges = between ++ .fileRead room answer :: after) :
    ∃ reply ∈ replies between, acknowledges machine.session.sequence reply = true := by
  -- the phases without an acknowledgement lead only to one another, until a reply acknowledges
  induction concludes generalizing between with
  | stopped stops =>
      subst split
      obtain ⟨rfl, rfl⟩ := stops.eq_nil_of_append_cons
      cases stops <;> simp_all [Phase.unanswered]
  | moved move rest inductionHypothesis =>
      cases move with
      | sent _ =>
          obtain ⟨others, rfl, onward⟩ := exists_cons_of_ne (by simp) split
          have found := inductionHypothesis rfl onward
          exact found
      | @acknowledged reply _ _ good =>
          obtain ⟨others, rfl, -⟩ := exists_cons_of_ne (by simp) split
          exact ⟨reply, List.mem_cons_self, good⟩
      | @refused reply _ _ _ =>
          obtain ⟨others, rfl, onward⟩ := exists_cons_of_ne (by simp) split
          obtain ⟨later, among, good⟩ := inductionHypothesis rfl onward
          exact ⟨later, List.mem_cons_of_mem reply among, good⟩
      | retried _ _ => exact inductionHypothesis rfl split
      | _ => simp_all [Phase.unanswered]

theorem Calls.fileRead
    {room : Nat}
    {answer : Except Fault (List UInt8)}
    (calls : machine.Calls settings (.fileRead room answer) later ending) :
    ∃ filled, machine.phase = .chunking filled ∧ filled < machine.wanted settings ∧
      room = machine.wanted settings - filled := by
  cases calls with
  | moved move _ =>
      cases move with
      | interrupted phase incomplete _ => exact ⟨_, phase, incomplete, rfl⟩
      | stored phase incomplete _ _ => exact ⟨_, phase, incomplete, rfl⟩
  | stopped stops =>
      cases stops with
      | truncated phase incomplete => exact ⟨_, phase, incomplete, rfl⟩
      | unreadable phase incomplete _ => exact ⟨_, phase, incomplete, rfl⟩

end Machine

/-! ## What a call finds -/

namespace Conversation

variable
  {settings : Settings}
  {history : List Exchange}
  {machine : Machine}

/-- Once a transfer has begun, it counts on the size that its schedule is for. -/
theorem total_eq
    (conversation : Conversation settings history machine)
    (started : machine.phase ≠ .idle)
    {total : Nat}
    {exchanges later : List Exchange}
    (scheduled : Scheduled settings total exchanges)
    (split : exchanges = history ++ later) :
    machine.session.total = total := by
  obtain ⟨settled, pending, -, -, -, rfl⟩ := conversation.recorded.elim started
  apply scheduled.announced
  rw [split]
  rfl

private theorem frame_ne_endOfTransfer
    (conversation : Conversation settings history machine)
    (sending : machine.phase = .sending) :
    machine.frame ≠ [Wire.endOfTransfer] := by
  have started : machine.phase ≠ .idle := by
    rw [sending]
    decide
  obtain ⟨settled, pending, -, -, standing, -⟩ := conversation.recorded.elim started
  unfold Standing at standing
  rw [sending] at standing
  obtain ⟨delivery, flying, -⟩ := standing
  rw [flying.frame]
  exact flying.framed.frame_ne_endOfTransfer

/-- The bytes of the chunk in hand that are missing are those up to the end of the packet. -/
theorem missing_eq
    (conversation : Conversation settings history machine)
    {filled : Nat}
    (phase : machine.phase = .chunking filled) :
    (served history).length + (machine.wanted settings - filled) =
      bytesBefore settings machine.session.total (inFlightAfter 0 (replies history) + 1) := by
  have started : machine.phase ≠ .idle := by
    rw [phase]
    simp
  obtain ⟨settled, pending, -, books, standing, split⟩ := conversation.recorded.elim started
  unfold Standing at standing
  rw [phase] at standing
  obtain ⟨reads, filling, rfl⟩ := standing
  have index : inFlightAfter 0 (replies history) = settled.length := by
    rw [split]
    apply books.inFlightAfter_append_refused
    rw [replies_reads]
    simp
  have taken : (served history).length = machine.session.bytesSent + filled := by
    rw [split, served_append, List.length_append, books.served_settledExchanges, books.carried,
      filling.gathered.served_eq, filling.length_take]
  have within := filling.within
  have bytesSent := books.bytesSent
  have next := Nat.add_one_mul settled.length settings.chunkLimit
  rw [index, taken]
  rw [books.wanted_eq, pieceLength] at within ⊢
  unfold bytesBefore
  omega

/-- The end of the transfer is told when every packet is acknowledged and every byte was read. -/
theorem covered_of_finishing
    (conversation : Conversation settings history machine)
    (finishing : machine.phase = .finishing) :
    inFlightAfter 0 (replies history) =
        (machine.session.total + settings.chunkLimit - 1) / settings.chunkLimit ∧
      (served history).length = machine.session.total := by
  have started : machine.phase ≠ .idle := by
    rw [finishing]
    decide
  obtain ⟨settled, pending, accepted, books, standing, split⟩ :=
    conversation.recorded.elim started
  unfold Standing at standing
  rw [finishing] at standing
  obtain ⟨nothing, -, rfl⟩ := standing
  have positive := ((settings.validate_eq_ok_iff).1 accepted).1
  rw [List.append_nil] at split
  constructor
  · rw [split, replies_settledExchanges, books.inFlightAfter_eq]
    exact books.length_eq positive nothing
  · rw [split, books.served_settledExchanges, books.carried]
    exact books.bytesSent_eq_total nothing

private theorem ended_of_closing
    (conversation : Conversation settings history machine)
    (closing : machine.phase = .closing) :
    ∃ earlier, history = earlier ++ [.write [Wire.endOfTransfer] (.ok ())] := by
  have started : machine.phase ≠ .idle := by
    rw [closing]
    decide
  obtain ⟨settled, pending, -, -, standing, split⟩ := conversation.recorded.elim started
  unfold Standing at standing
  rw [closing] at standing
  obtain ⟨-, -, rfl⟩ := standing
  exact ⟨_, split⟩

end Conversation

/-- Between a write and a later read of the file, the packet written is acknowledged. -/
theorem Machine.Calls.settles
    {settings : Settings}
    {machine : Machine}
    {bytes : List UInt8}
    {answer : Except Fault Unit}
    {before between after : List Exchange}
    {room : Nat}
    {read : Except Fault (List UInt8)}
    {ending : Ending}
    (calls : machine.Calls settings (.write bytes answer)
      (between ++ .fileRead room read :: after) ending)
    (conversation : Conversation settings before machine) :
    ∃ reply ∈ replies between,
      acknowledges (sequenceAt (inFlightAfter 0 (replies before))) reply = true := by
  rcases calls.write with ⟨sending, -, none | concludes⟩ | ⟨-, -, none | ⟨closing, last⟩⟩
  · simp at none
  · obtain ⟨sequence, index⟩ := conversation.inFlight_of_sending sending
    rw [index, ← sequence]
    exact concludes.acknowledged rfl rfl
  · simp at none
  · obtain ⟨earlier, -, nothing⟩ := exists_cons_of_ne (by simp) last.symm
    simp at nothing

/-! ## The closing of the file -/

section Closing

variable
  {settings : Settings}
  {file : FileSource φ}
  {port : SerialPort π}
  {machine : Machine}
  {devices : Devices φ π}

/-- Only the last phase closes the file. -/
theorem Machine.phase_eq_closing
    {react : Except Fault Unit → Turn}
    (acts : machine.act settings = .close react) :
    machine.phase = .closing := by
  have asks := machine.asks_act settings
  rwa [acts] at asks

private theorem Machine.call_of_ne_closing
    (closing : φ → Except Fault Unit × φ)
    (before : machine.phase ≠ .closing) :
    machine.call settings { file with close := closing } port devices =
      machine.call settings file port devices := by
  unfold call
  cases acts : machine.act settings with
  | close react => exact absurd (phase_eq_closing acts) before
  | _ => rfl

theorem Machine.next_of_closing
    (last : machine.phase = .closing) :
    (machine.call settings file port devices).turn.next =
      .stop (.completed machine.session.report) := by
  simp only [call, act, last, Machine.closing, Action.perform]

/-- Two courses that differ in how the file is closed end in the same way. -/
theorem Machine.Course.ending_eq
    {exchanges : List Exchange}
    {ending : Ending}
    (course : machine.Course settings file port devices exchanges ending)
    {closing : φ → Except Fault Unit × φ}
    {otherExchanges : List Exchange}
    {otherEnding : Ending}
    (other : machine.Course settings { file with close := closing } port devices otherExchanges
      otherEnding) :
    otherEnding = ending := by
  induction course generalizing otherExchanges otherEnding with
  | @last machine devices ending stops =>
      have same : (machine.call settings { file with close := closing } port devices).turn.next =
          .stop ending := by
        -- the call that closes the file may differ, but not what the transfer makes of it
        by_cases last : machine.phase = .closing
        · rw [next_of_closing last, ← stops, next_of_closing last]
        · rw [call_of_ne_closing closing last, stops]
      exact (other.of_stop same).2
  | @more machine devices next exchanges ending goes rest inductionHypothesis =>
      have before : machine.phase ≠ .closing := by
        intro last
        rw [next_of_closing last] at goes
        cases goes
      have same : machine.call settings { file with close := closing } port devices =
          machine.call settings file port devices := call_of_ne_closing closing before
      have onward := goes
      rw [← same] at onward
      obtain ⟨later, -, otherRest⟩ := other.of_onward onward
      rw [same] at otherRest
      exact inductionHypothesis otherRest

/-- However the file is closed, and whether or not it can be, the transfer ends in the same way. -/
theorem ending_of_closing
    (settings : Settings)
    (file : FileSource φ)
    (port : SerialPort π)
    (devices : Devices φ π)
    (closing : φ → Except Fault Unit × φ) :
    (send settings { file with close := closing } port devices).ending =
      (send settings file port devices).ending :=
  (Machine.course_of_run settings file port Machine.initial
    (Machine.initial_progressing settings) devices).ending_eq
      (Machine.course_of_run settings { file with close := closing } port Machine.initial
        (Machine.initial_progressing settings) devices)

end Closing

/-! ## Stop and wait -/

/-- The calls of a transfer of `total` bytes, in the order in which they are made, stop and wait.

They keep to a schedule.  Between two writes there is a wait for a reply, and between a write and a
later read of the file a reply that acknowledges the packet in flight at that write.  Each read asks
for exactly the bytes of its packet that are missing.  The end of the transfer is told when every
packet is acknowledged, and only the closing of the file follows, once and at the very end.  A call
that fails for good is the last. -/
structure StopsAndWaits
    (settings : Settings)
    (total : Nat)
    (exchanges : List Exchange)
    (ending : Ending) : Prop where
  scheduled : Scheduled settings total exchanges
  waits : ∀ before bytes answer between other otherAnswer after,
    exchanges = before ++ .write bytes answer :: between ++ .write other otherAnswer :: after →
      ∃ reply, .receive Wire.replyLength settings.replyTimeout reply ∈ between
  settles : ∀ before bytes answer between room read after,
    exchanges = before ++ .write bytes answer :: between ++ .fileRead room read :: after →
      ∃ reply ∈ replies between,
        acknowledges (sequenceAt (inFlightAfter 0 (replies before))) reply = true
  reads : ∀ before room answer after,
    exchanges = before ++ .fileRead room answer :: after →
      0 < room ∧ (served before).length + room =
        bytesBefore settings total (inFlightAfter 0 (replies before) + 1)
  ends : ∀ before answer after,
    exchanges = before ++ .write [Wire.endOfTransfer] answer :: after →
      inFlightAfter 0 (replies before) =
          (total + settings.chunkLimit - 1) / settings.chunkLimit ∧
        (served before).length = total ∧
          (after = [] ∨ ∃ closing, after = [.close closing])
  closes : ∀ before answer after,
    exchanges = before ++ .close answer :: after →
      after = [] ∧ (∃ earlier, before = earlier ++ [.write [Wire.endOfTransfer] (.ok ())]) ∧
        ∃ report, ending = .completed report
  breaks : ∀ before exchange after,
    exchanges = before ++ exchange :: after → ¬ exchange.Undisturbed →
      after = [] ∧ ∃ error, ending = .failed error

section Send

variable
  {settings : Settings}
  {file : FileSource φ}
  {port : SerialPort π}
  {devices : Devices φ π}

theorem stopsAndWaits_of_scheduled
    {total : Nat}
    (scheduled : Scheduled settings total (send settings file port devices).exchanges) :
    StopsAndWaits settings total (send settings file port devices).exchanges
      (send settings file port devices).ending := by
  constructor
  case scheduled => exact scheduled
  case waits =>
    intro before bytes answer between other otherAnswer after split
    rw [List.append_assoc, List.cons_append] at split
    obtain ⟨machine, -, calls⟩ := exists_calls_of_send split
    exact calls.waits
  case settles =>
    intro before bytes answer between room read after split
    rw [List.append_assoc, List.cons_append] at split
    obtain ⟨machine, conversation, calls⟩ := exists_calls_of_send split
    exact calls.settles conversation
  case reads =>
    intro before room answer after split
    obtain ⟨machine, conversation, calls⟩ := exists_calls_of_send split
    obtain ⟨filled, phase, incomplete, rfl⟩ := calls.fileRead
    have started : machine.phase ≠ .idle := by
      rw [phase]
      simp
    rw [← conversation.total_eq started scheduled split]
    exact ⟨Nat.sub_pos_of_lt incomplete, conversation.missing_eq phase⟩
  case ends =>
    intro before answer after split
    obtain ⟨machine, conversation, calls⟩ := exists_calls_of_send split
    rcases calls.write with ⟨sending, same, -⟩ | ⟨finishing, -, last⟩
    · exact absurd same.symm (conversation.frame_ne_endOfTransfer sending)
    · have started : machine.phase ≠ .idle := by
        rw [finishing]
        decide
      obtain ⟨acknowledged, taken⟩ := conversation.covered_of_finishing finishing
      rw [conversation.total_eq started scheduled split] at acknowledged taken
      exact ⟨acknowledged, taken, last⟩
  case closes =>
    intro before answer after split
    obtain ⟨machine, conversation, calls⟩ := exists_calls_of_send split
    obtain ⟨closing, last, completed⟩ := calls.close
    exact ⟨last, conversation.ended_of_closing closing, completed⟩
  case breaks =>
    intro before exchange after split disturbed
    obtain ⟨machine, -, calls⟩ := exists_calls_of_send split
    exact calls.failed disturbed

end Send

/-- Every transfer stops and waits, whatever its settings and whatever the devices answer, and how
the file is closed at the end decides nothing. -/
theorem stop_and_wait
    (settings : Settings)
    (file : FileSource φ)
    (port : SerialPort π)
    (devices : Devices φ π) :
    (∃ total,
      StopsAndWaits settings total (send settings file port devices).exchanges
        (send settings file port devices).ending) ∧
    ∀ closing,
      (send settings { file with close := closing } port devices).ending =
        (send settings file port devices).ending := by
  constructor
  · obtain ⟨total, scheduled⟩ := exists_scheduled settings file port devices
    exact ⟨total, stopsAndWaits_of_scheduled scheduled⟩
  · intro closing
    exact ending_of_closing settings file port devices closing

/-- A file that serves its three bytes and then cannot be closed. -/
def Scripted.File.unclosable : Scripted.File :=
  { Scripted.File.threeBytes with
    closing := .error { kind := .other, message := "stale handle" } }

theorem stop_and_wait_unclosable :
    (send .inPairs Scripted.File.device Scripted.Port.device
      ⟨.unclosable, .refusesOnce⟩).ending = .completed ⟨3, 2, 1⟩ ∧
    ∃ total,
      StopsAndWaits .inPairs total
        (send .inPairs Scripted.File.device Scripted.Port.device
          ⟨.unclosable, .refusesOnce⟩).exchanges (.completed ⟨3, 2, 1⟩) := by
  have followed : (Machine.initial.follow .inPairs Scripted.File.device Scripted.Port.device
      40 ⟨.unclosable, .refusesOnce⟩).map Prod.snd = some (.completed ⟨3, 2, 1⟩) := by
    decide
  have completed := ending_of_follow followed
  obtain ⟨⟨total, waits⟩, -⟩ := stop_and_wait .inPairs Scripted.File.device
    Scripted.Port.device ⟨.unclosable, .refusesOnce⟩
  rw [completed] at waits
  exact ⟨completed, total, waits⟩

end KermitSend

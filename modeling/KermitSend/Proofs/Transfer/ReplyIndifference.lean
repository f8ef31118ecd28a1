import KermitSend.Proofs.Transfer.Credit

/-!
Contract: what a transfer can tell of the replies it is given.

Owns:
- answers of the port that come to the same while a packet is in flight;
- when two records of calls have such replies, and writes that go the same way;
- a record of calls without the replies;
- the law that two ports between which a transfer cannot tell are called alike, and that it ends
  alike on both.

Does not own: which replies are acknowledgements.
-/

set_option autoImplicit false

namespace KermitSend

variable {φ π ρ : Type}

/-! ## Alike answers -/

/-- Answers of the port that come to the same while the packet with this sequence number is in
flight: the same failure for good, or two answers that the sender goes on after, both or neither of
which acknowledge the packet. -/
inductive Alike (sequence : UInt8) : Answer → Answer → Prop where
  | failed {fault}
      (kind : fault.kind ≠ .timedOut) :
      Alike sequence (.error fault) (.error fault)
  | forgiven {left right}
      (leftForgiven : Forgiven left)
      (rightForgiven : Forgiven right)
      (same : acknowledges sequence left = acknowledges sequence right) :
      Alike sequence left right

/-- A write with its answer. -/
abbrev Writing := List UInt8 × Except Fault Unit

def Exchange.writing? : Exchange → Option Writing
  | .write bytes answer => some (bytes, answer)
  | _ => none

/-- The writes, one after the other. -/
def writings (exchanges : List Exchange) : List Writing :=
  exchanges.filterMap Exchange.writing?

/-- Two records of calls in which writes of the same bytes go the same way, and each reply comes to
the same for the packet in flight. -/
structure Indistinct (left right : List Exchange) : Prop where
  writesAgree : ∀ (index : Nat) bytes answer otherAnswer,
    (writings left)[index]? = some (bytes, answer) →
      (writings right)[index]? = some (bytes, otherAnswer) → answer = otherAnswer
  repliesAgree : ∀ (index : Nat) reply otherReply,
    (replies left)[index]? = some reply → (replies right)[index]? = some otherReply →
      Alike (sequenceAt (inFlightAfter 0 ((replies left).take index))) reply otherReply

@[simp]
theorem writings_append (left right : List Exchange) :
    writings (left ++ right) = writings left ++ writings right := by
  simp [writings]

/-! ## Calls without their replies -/

/-- A call without the reply that it waited for, if it did. -/
def Exchange.muted : Exchange → Exchange
  | .receive room timeout _ => .receive room timeout (.ok [])
  | exchange => exchange

private theorem writings_map_muted (exchanges : List Exchange) :
    writings (exchanges.map Exchange.muted) = writings exchanges := by
  rw [writings, List.filterMap_map]
  apply List.filterMap_congr
  intro exchange _
  cases exchange <;> rfl

private theorem replies_map_muted (exchanges : List Exchange) :
    replies (exchanges.map Exchange.muted) = (replies exchanges).map fun _ => .ok [] := by
  rw [replies, replies, List.filterMap_map, List.map_filterMap]
  apply List.filterMap_congr
  intro exchange _
  cases exchange <;> rfl

section Histories

variable
  {history otherHistory : List Exchange}
  (said : history.map Exchange.muted = otherHistory.map Exchange.muted)

include said

private theorem length_writings_eq : (writings history).length = (writings otherHistory).length := by
  rw [← writings_map_muted, said, writings_map_muted]

private theorem length_replies_eq : (replies history).length = (replies otherHistory).length := by
  have same := congrArg (fun exchanges => (replies exchanges).length) said
  rwa [replies_map_muted, replies_map_muted, List.length_map, List.length_map] at same

variable {later otherLater : List Exchange}

/-- After the same calls, the same write goes the same way. -/
theorem Indistinct.write
    {bytes : List UInt8}
    {answer otherAnswer : Except Fault Unit}
    (indistinct : Indistinct
      (history ++ .write bytes answer :: later)
      (otherHistory ++ .write bytes otherAnswer :: otherLater)) :
    answer = otherAnswer := by
  apply indistinct.writesAgree (writings history).length bytes
  · rw [writings_append]
    exact getElem?_length_append_cons _ _ (writings later)
  · rw [length_writings_eq said, writings_append]
    exact getElem?_length_append_cons _ _ (writings otherLater)

/-- After the same calls, the reply comes to the same. -/
theorem Indistinct.reply
    {room timeout : Nat}
    {reply otherReply : Answer}
    (indistinct : Indistinct
      (history ++ .receive room timeout reply :: later)
      (otherHistory ++ .receive room timeout otherReply :: otherLater)) :
    Alike (sequenceAt (inFlightAfter 0 (replies history))) reply otherReply := by
  have alike := indistinct.repliesAgree (replies history).length reply otherReply
  rw [replies_append, List.take_left, replies_append] at alike
  apply alike
  · exact getElem?_length_append_cons _ _ (replies later)
  · rw [length_replies_eq said]
    exact getElem?_length_append_cons _ _ (replies otherLater)

end Histories

/-! ## One call -/

/-- While a reply is waited for, the counters and the replies agree on the packet in flight. -/
theorem Conversation.sequence_of_receiving
    {settings : Settings}
    {history : List Exchange}
    {machine : Machine}
    (conversation : Conversation settings history machine)
    (receiving : machine.phase = .receiving) :
    machine.session.sequence = sequenceAt (inFlightAfter 0 (replies history)) := by
  cases conversation with
  | begun => cases receiving
  | continued earlier move =>
      -- only the sending of the frame leads to the wait
      cases move with
      | sent sending =>
          obtain ⟨sequence, index⟩ := earlier.inFlight_of_sending sending
          rw [replies_append, show replies [Exchange.write _ (.ok ())] = [] from rfl,
            List.append_nil, index]
          exact sequence
      | interrupted phase _ _ =>
          rw [phase] at receiving
          cases receiving
      | _ => cases receiving

namespace Machine

variable
  {settings : Settings}
  {file : FileSource φ}
  {port : SerialPort π}
  {otherPort : SerialPort ρ}
  {machine : Machine}

/-- A transfer makes nothing of a reply but whether it acknowledges the packet in flight. -/
theorem next_of_forgiven
    {devices : Devices φ π}
    (receiving : machine.phase = .receiving)
    (forgiven : Forgiven
      (port.receive devices.port Wire.replyLength settings.replyTimeout).1) :
    (machine.call settings file port devices).turn.next = .enter { machine with
      phase := if acknowledges machine.session.sequence
          (port.receive devices.port Wire.replyLength settings.replyTimeout).1
        then .advance else .retry } := by
  rw [← machine.next_judge]
  simp only [call, act, receiving, Machine.receiving, Action.perform]
  cases answer : (port.receive devices.port Wire.replyLength settings.replyTimeout).1 with
  | ok bytes => rfl
  | error fault =>
      simp only [forgiven fault answer, if_true]
      rfl

private theorem next_of_alike
    {devices : Devices φ π}
    {otherDevices : Devices φ ρ}
    (receiving : machine.phase = .receiving)
    (alike : Alike machine.session.sequence
      (port.receive devices.port Wire.replyLength settings.replyTimeout).1
      (otherPort.receive otherDevices.port Wire.replyLength settings.replyTimeout).1) :
    (machine.call settings file port devices).turn.next =
      (machine.call settings file otherPort otherDevices).turn.next := by
  generalize answered : (port.receive devices.port Wire.replyLength settings.replyTimeout).1 =
    reply at alike
  generalize otherAnswered :
    (otherPort.receive otherDevices.port Wire.replyLength settings.replyTimeout).1 =
      otherReply at alike
  cases alike with
  | failed kind =>
      simp only [call, act, receiving, Machine.receiving, Action.perform, answered,
        otherAnswered]
  | forgiven leftForgiven rightForgiven same =>
      subst answered otherAnswered
      rw [next_of_forgiven receiving leftForgiven, next_of_forgiven receiving rightForgiven, same]

/-- A call of the same state on the same file, and on ports between which it cannot tell, goes on in
the same way and leaves the same file. -/
theorem call_alike
    {devices : Devices φ π}
    {otherDevices : Devices φ ρ}
    (sameFile : devices.file = otherDevices.file)
    {history otherHistory later otherLater : List Exchange}
    (said : history.map Exchange.muted = otherHistory.map Exchange.muted)
    (conversation : Conversation settings history machine)
    (indistinct : Indistinct
      (history ++ ((machine.call settings file port devices).exchanges ++ later))
      (otherHistory ++
        ((machine.call settings file otherPort otherDevices).exchanges ++ otherLater))) :
    (machine.call settings file port devices).turn.next =
        (machine.call settings file otherPort otherDevices).turn.next ∧
      (machine.call settings file port devices).exchanges.map Exchange.muted =
        (machine.call settings file otherPort otherDevices).exchanges.map Exchange.muted ∧
      (machine.call settings file port devices).devices.file =
        (machine.call settings file otherPort otherDevices).devices.file := by
  have asks := machine.asks_act settings
  unfold call at indistinct
  -- the file is the same and writes go the same way: only a wait can be answered differently
  cases acts : machine.act settings with
  | askSize react => simp only [call, acts, Action.perform, sameFile, and_self]
  | fileRead room react => simp only [call, acts, Action.perform, sameFile, and_self]
  | close react => simp only [call, acts, Action.perform, sameFile, and_self]
  | settle turn => simp only [call, acts, Action.perform, sameFile, and_self]
  | write bytes react =>
      rw [acts] at indistinct
      have same := indistinct.write said
      simp only [call, acts, Action.perform, same, sameFile, and_self]
  | receive delay timeout react =>
      rw [acts] at asks indistinct
      obtain ⟨receiving, -, rfl⟩ := asks
      have alike := indistinct.reply said
      rw [← conversation.sequence_of_receiving receiving] at alike
      refine ⟨next_of_alike receiving alike, ?_⟩
      simp only [call, acts, Action.perform, sameFile, List.map_singleton, Exchange.muted,
        and_self]

/-! ## Whole transfers -/

/-- Two courses from the same state with the same file, on ports between which the transfer cannot
tell, make the same calls and end in the same way. -/
theorem Course.alike
    {devices : Devices φ π}
    {otherDevices : Devices φ ρ}
    {history otherHistory exchanges otherExchanges : List Exchange}
    {ending otherEnding : Ending}
    (course : Course settings file port machine devices exchanges ending)
    (other : Course settings file otherPort machine otherDevices otherExchanges otherEnding)
    (sameFile : devices.file = otherDevices.file)
    (said : history.map Exchange.muted = otherHistory.map Exchange.muted)
    (conversation : Conversation settings history machine)
    (indistinct : Indistinct (history ++ exchanges) (otherHistory ++ otherExchanges)) :
    exchanges.map Exchange.muted = otherExchanges.map Exchange.muted ∧
      ending = otherEnding := by
  induction course generalizing history otherHistory otherDevices otherExchanges with
  | @last machine devices ending stops =>
      obtain ⟨otherLater, split⟩ := other.call_prefix
      rw [← split, ← List.append_nil (call ..).exchanges] at indistinct
      obtain ⟨next, calls, -⟩ := call_alike sameFile said conversation indistinct
      obtain ⟨rfl, rfl⟩ := other.of_stop (next.symm.trans stops)
      exact ⟨calls, rfl⟩
  | @more machine devices following exchanges ending goes rest inductionHypothesis =>
      obtain ⟨otherLater, split⟩ := other.call_prefix
      have front := indistinct
      rw [← split] at front
      obtain ⟨next, calls, kept⟩ := call_alike sameFile said conversation front
      have otherGoes := goes
      rw [next] at otherGoes
      obtain ⟨otherExchanges, rfl, otherRest⟩ := other.of_onward otherGoes
      have continued := conversation.continued (moves_of_call goes)
      have saidMore := congrArg₂ (· ++ ·) said calls
      rw [← List.map_append, ← List.map_append] at saidMore
      rw [← List.append_assoc, ← List.append_assoc] at indistinct
      obtain ⟨laterCalls, sameEnding⟩ :=
        inductionHypothesis otherRest kept saidMore continued indistinct
      rw [List.map_append, List.map_append, calls, laterCalls]
      exact ⟨rfl, sameEnding⟩

end Machine

/-- A transfer depends on each reply only through whether it acknowledges the packet in flight: on
ports between which it cannot tell, it makes the same calls in the same order, with the same answers
but for the replies, and it ends in the same way. -/
theorem send_of_indistinct
    {settings : Settings}
    {file : FileSource φ}
    {port : SerialPort π}
    {otherPort : SerialPort ρ}
    {state : φ}
    {line : π}
    {otherLine : ρ}
    (indistinct : Indistinct
      (send settings file port ⟨state, line⟩).exchanges
      (send settings file otherPort ⟨state, otherLine⟩).exchanges) :
    (send settings file port ⟨state, line⟩).exchanges.map Exchange.muted =
        (send settings file otherPort ⟨state, otherLine⟩).exchanges.map Exchange.muted ∧
      (send settings file port ⟨state, line⟩).ending =
        (send settings file otherPort ⟨state, otherLine⟩).ending := by
  have progressing := Machine.initial_progressing settings
  have course := Machine.course_of_run settings file port Machine.initial progressing
    ⟨state, line⟩
  have other := Machine.course_of_run settings file otherPort Machine.initial progressing
    ⟨state, otherLine⟩
  have none : ([] : List Exchange).map Exchange.muted = [].map Exchange.muted := rfl
  exact course.alike other rfl none .begun indistinct

/-- A receiver that says nothing to the first copy it gets and accepts everything after it. -/
def Scripted.Port.silentOnce : Scripted.Port :=
  { Scripted.Port.refusesOnce with responses := [.failure exhausted] }

/-- A refusal and a timeout come to the same. -/
theorem send_silentOnce :
    Indistinct
      (send .inPairs Scripted.File.device Scripted.Port.device
        ⟨.threeBytes, .refusesOnce⟩).exchanges
      (send .inPairs Scripted.File.device Scripted.Port.device
        ⟨.threeBytes, .silentOnce⟩).exchanges ∧
    (send .inPairs Scripted.File.device Scripted.Port.device
      ⟨.threeBytes, .silentOnce⟩).ending = .completed ⟨3, 2, 1⟩ := by
  have followed : (Machine.initial.follow .inPairs Scripted.File.device Scripted.Port.device
      40 ⟨.threeBytes, .refusesOnce⟩).map (fun result => (replies result.1, result.2)) =
        some ([.ok (Reply.answer 0 Wire.refuseKind).toBytes,
            .ok (Reply.answer 0 Wire.acceptKind).toBytes,
            .ok (Reply.answer 1 Wire.acceptKind).toBytes],
          .completed ⟨3, 2, 1⟩) := by
    decide
  have otherFollowed : (Machine.initial.follow .inPairs Scripted.File.device Scripted.Port.device
      40 ⟨.threeBytes, .silentOnce⟩).map (fun result => replies result.1) =
        some [.error Scripted.Port.exhausted,
          .ok (Reply.answer 0 Wire.acceptKind).toBytes,
          .ok (Reply.answer 1 Wire.acceptKind).toBytes] := by
    decide
  have sameWrites : (Machine.initial.follow .inPairs Scripted.File.device Scripted.Port.device
      40 ⟨.threeBytes, .refusesOnce⟩).map (fun result => writings result.1) =
        (Machine.initial.follow .inPairs Scripted.File.device Scripted.Port.device
          40 ⟨.threeBytes, .silentOnce⟩).map (fun result => writings result.1) := by
    decide
  obtain ⟨result, found, read⟩ := Option.map_eq_some_iff.1 followed
  obtain ⟨otherResult, otherFound, otherReplies⟩ := Option.map_eq_some_iff.1 otherFollowed
  obtain ⟨replies, completed⟩ := Prod.mk.inj read
  rw [found, otherFound, Option.map_some, Option.map_some, Option.some.injEq] at sameWrites
  have indistinct : Indistinct result.1 otherResult.1 := by
    constructor
    case writesAgree =>
      intro index bytes answer otherAnswer wrote otherWrote
      rw [sameWrites, otherWrote, Option.some.injEq, Prod.mk.injEq] at wrote
      exact wrote.2.symm
    case repliesAgree =>
      rw [replies, otherReplies]
      intro index reply otherReply heard otherHeard
      match index, heard, otherHeard with
      | 0, rfl, rfl => exact .forgiven nofun (by rintro _ ⟨⟩; rfl) (by decide)
      | 1, rfl, rfl => exact .forgiven nofun nofun rfl
      | 2, rfl, rfl => exact .forgiven nofun nofun rfl
  obtain ⟨exchanges, ending⟩ := send_of_follow found
  obtain ⟨otherExchanges, -⟩ := send_of_follow otherFound
  rw [← exchanges, ← otherExchanges] at indistinct
  refine ⟨indistinct, ?_⟩
  rw [← (send_of_indistinct indistinct).2, ending, completed]

end KermitSend

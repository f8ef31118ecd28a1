import KermitSend.Proofs.Transfer.Reached
import KermitSend.Proofs.Transfer.Replies

/-!
Contract: the packets that acknowledgements are credited to.

Owns:
- replies that a receiver issued to accept a packet, and when such a reply is taken for an
  acknowledgement;
- where the replies of a transfer come from, whatever their order, repetition and delay, as long as
  none is older than 127 packets;
- everything that a wait for a reply can come to;
- the law that the packet in flight is credited with nothing but its own acknowledgement.

Does not own: receivers, and the line that delays their replies.
-/

set_option autoImplicit false

namespace KermitSend

variable {φ π : Type}

/-- The buffer of a reply holds what a receiver sends to accept the packet of the given index. -/
def Accepts (index : Nat) (reply : Answer) : Prop :=
  Reply.ofBytes (heard reply) = Reply.answer (sequenceAt index) Wire.acceptKind

instance (index : Nat) (reply : Answer) : Decidable (Accepts index reply) :=
  inferInstanceAs (Decidable (_ = _))

/-- Where a reply comes from that is heard while the packet of the given index is in flight: from
nowhere if it acknowledges no packet at all, and otherwise from a receiver that accepted a packet
written before, at most 127 packets ago. -/
inductive ComesFrom (inFlight : Nat) (reply : Answer) : Option Nat → Prop where
  | nowhere
      (noise : ∀ sequence, acknowledges sequence reply = false) :
      ComesFrom inFlight reply none
  | receiver {index}
      (written : index ≤ inFlight)
      (recent : inFlight - index ≤ 127)
      (accepts : Accepts index reply) :
      ComesFrom inFlight reply (some index)

/-- Each of the replies, counted from zero, comes from where `origins` says, when it is heard for
the packet that the replies before it have left in flight. -/
def Traced (origins : Nat → Option Nat) (replies : List Answer) : Prop :=
  ∀ position reply, replies[position]? = some reply →
    ComesFrom (inFlightAfter 0 (replies.take position)) reply (origins position)

/-! ## Issued acknowledgements -/

section Issued

variable
  {index inFlight : Nat}
  {reply : Answer}

theorem Accepts.acknowledges_iff (accepts : Accepts index reply) (sequence : UInt8) :
    acknowledges sequence reply = true ↔ sequenceAt index = sequence := by
  rw [acknowledges, accepts]
  exact Reply.isAcknowledged_judge_answer (sequenceAt index) sequence

/-- The sequence numbers of 128 packets in a row tell them apart. -/
theorem eq_of_sequenceAt_eq
    (written : index ≤ inFlight)
    (recent : inFlight - index ≤ 127)
    (same : sequenceAt index = sequenceAt inFlight) :
    index = inFlight := by
  have remainders := congrArg UInt8.toNat same
  rw [toNat_sequenceAt, toNat_sequenceAt] at remainders
  omega

/-- A read that accepts a packet has not failed. -/
theorem Accepts.forgiven (accepts : Accepts index reply) : Forgiven reply := by
  intro fault failed
  have acknowledged := (accepts.acknowledges_iff (sequenceAt index)).2 rfl
  rw [failed, acknowledges_error] at acknowledged
  cases acknowledged

namespace ComesFrom

variable {origin : Option Nat}

private theorem eq_of_acknowledges
    (comes : ComesFrom inFlight reply origin)
    (good : acknowledges (sequenceAt inFlight) reply = true) :
    origin = some inFlight := by
  cases comes with
  | nowhere noise =>
      rw [noise] at good
      cases good
  | receiver written recent accepts =>
      rw [eq_of_sequenceAt_eq written recent ((accepts.acknowledges_iff _).1 good)]

private theorem accepts
    (comes : ComesFrom inFlight reply (some index)) :
    Accepts index reply := by
  cases comes with
  | receiver _ _ accepts => exact accepts

/-- An issued acknowledgement is taken for that of the packet in flight exactly when it is. -/
theorem acknowledges_eq
    (comes : ComesFrom inFlight reply (some index)) :
    acknowledges (sequenceAt inFlight) reply = decide (index = inFlight) := by
  by_cases own : index = inFlight
  · rw [decide_eq_true own, ← own, comes.accepts.acknowledges_iff]
  · rw [decide_eq_false own, ← Bool.not_eq_true]
    intro acknowledged
    exact own (Option.some.inj (comes.eq_of_acknowledges acknowledged))

end ComesFrom

private theorem Traced.comesFrom
    {origins : Nat → Option Nat}
    {replies earlier later : List Answer}
    (traced : Traced origins replies)
    (split : replies = earlier ++ reply :: later) :
    ComesFrom (inFlightAfter 0 earlier) reply (origins earlier.length) := by
  have found : replies[earlier.length]? = some reply := by
    rw [split]
    exact getElem?_length_append_cons earlier reply later
  have comes := traced earlier.length reply found
  rw [split, List.take_left] at comes
  exact comes

end Issued

/-! ## Waiting for a reply -/

/-- Everything that a step can come to which sends the frame in flight and waits for a reply. -/
inductive Machine.Awaits (settings : Settings) (machine : Machine) :
    List Exchange → Outcome → Prop where
  | unsent {fault} :
      Awaits settings machine [.write machine.frame (.error fault)]
        (.stopped (.failed (.write machine.session.sequence machine.session.bytesSent fault)))
  | unheard {fault}
      (kind : fault.kind ≠ .timedOut) :
      Awaits settings machine (attempt settings machine.frame (.error fault))
        (.stopped (.failed (.read machine.session.sequence machine.session.bytesSent fault)))
  | acknowledged {reply}
      (forgiven : Forgiven reply)
      (good : acknowledges machine.session.sequence reply = true) :
      Awaits settings machine (attempt settings machine.frame reply)
        (.entered { machine with phase := .advance })
  | refused {reply}
      (forgiven : Forgiven reply)
      (bad : acknowledges machine.session.sequence reply = false) :
      Awaits settings machine (attempt settings machine.frame reply)
        (.entered { machine with phase := .retry })

section Waiting

variable
  (settings : Settings)
  (file : FileSource φ)
  (port : SerialPort π)
  (machine : Machine)
  (now : Devices φ π)

theorem Machine.next_judge (reply : Answer) :
    (machine.judge (heard reply)).next = .enter { machine with
      phase := if acknowledges machine.session.sequence reply then .advance else .retry } := by
  rw [judge, acknowledges]
  split <;> rfl

private theorem Machine.awaits_of_forgiven
    {reply : Answer}
    (forgiven : Forgiven reply) :
    Awaits settings machine (attempt settings machine.frame reply)
      (.entered { machine with
        phase := if acknowledges machine.session.sequence reply then .advance else .retry }) := by
  cases verdict : acknowledges machine.session.sequence reply with
  | true => exact .acknowledged forgiven verdict
  | false => exact .refused forgiven verdict

/-- Once the frame is sent, the step ends with the reply. -/
theorem Machine.awaits_of_sent :
    ∃ reply, (step settings file port { machine with phase := .receiving } now).exchanges =
        [.receive Wire.replyLength settings.replyTimeout reply] ∧
      Awaits settings machine (attempt settings machine.frame reply)
        (step settings file port { machine with phase := .receiving } now).outcome := by
  have called := step_of_call settings file port { machine with phase := .receiving } now
  simp only [call, act, receiving, Action.perform] at called
  generalize port.receive now.port Wire.replyLength settings.replyTimeout = answered at called
  obtain ⟨reply, after⟩ := answered
  refine ⟨reply, ?_⟩
  -- a timeout is judged like a reply of zeros, and every other failure ends the transfer
  cases reply with
  | ok bytes =>
      have judged := next_judge { machine with phase := .receiving } (.ok bytes)
      rw [heard] at judged
      simp only [judged] at called
      rw [called.2]
      exact ⟨called.1, awaits_of_forgiven settings machine (by simp [Forgiven])⟩
  | error fault =>
      by_cases kind : fault.kind = .timedOut
      · have judged := next_judge { machine with phase := .receiving } (.error fault)
        rw [heard] at judged
        simp only [kind, if_true, judged] at called
        rw [called.2]
        exact ⟨called.1, awaits_of_forgiven settings machine (by simp [Forgiven, kind])⟩
      · simp only [kind, if_false, Turn.fail] at called
        rw [called.2]
        exact ⟨called.1, .unheard kind⟩

private theorem Machine.awaits_of_sending (phase : machine.phase = .sending) :
    Awaits settings machine (machine.step settings file port now).exchanges
      (machine.step settings file port now).outcome := by
  have called := machine.step_of_call settings file port now
  simp only [call, act, phase, sending, Action.perform] at called
  generalize port.write now.port machine.frame = answered at called
  obtain ⟨answer, after⟩ := answered
  cases answer with
  | error fault =>
      simp only [Turn.fail] at called
      rw [called.1, called.2]
      exact .unsent
  | ok done =>
      simp only at called
      obtain ⟨reply, said, awaits⟩ :=
        machine.awaits_of_sent settings file port ⟨now.file, after⟩
      rw [called.1, called.2, said]
      exact awaits

end Waiting

/-! ## Credit -/

/-- What the origin of a reply decides about a step that waits for one: the packet in flight is
advanced past on its own acknowledgement and on no other reply, and the acknowledgement of another
packet, when it is heard, leads to another attempt with everything as it was. -/
structure Credits (origin : Option Nat) (machine : Machine) (step : Step φ π) : Prop where
  own : ∀ next, step.outcome = .entered next → next.phase.stage = .advance →
    origin = some machine.session.packets ∧
      ∃ reply, replies step.exchanges = [reply] ∧ Accepts machine.session.packets reply
  taken : origin = some machine.session.packets → replies step.exchanges ≠ [] →
    step.outcome = .entered { machine with phase := .advance }
  stale : ∀ index, origin = some index → index ≠ machine.session.packets →
    replies step.exchanges ≠ [] → step.outcome = .entered { machine with phase := .retry }

section Send

variable
  {settings : Settings}
  {file : FileSource φ}
  {port : SerialPort π}
  {devices now : Devices φ π}
  {history : List Exchange}
  {machine : Machine}
  {origins : Nat → Option Nat}

/-- While a reply is awaited, the counters and the replies agree on the packet in flight. -/
theorem Reached.inFlight_of_awaitAck
    (reached : Reached settings file port devices history machine now)
    (waiting : machine.phase.stage = .awaitAck) :
    machine.phase = .sending ∧
      machine.session.sequence = sequenceAt machine.session.packets ∧
        inFlightAfter 0 (replies history) = machine.session.packets := by
  have sending : machine.phase = .sending := by
    rw [reached.phase_eq_opening, waiting]
    rfl
  exact ⟨sending, reached.conversation.inFlight_of_sending sending⟩

/-- The reply that a step hears comes from where its place among all replies says. -/
theorem Traced.comesFrom_step
    (traced : Traced origins (replies (send settings file port devices).exchanges))
    (reached : Reached settings file port devices history machine now)
    (waiting : machine.phase.stage = .awaitAck)
    {reply : Answer}
    (heard : replies (machine.step settings file port now).exchanges = [reply]) :
    ComesFrom machine.session.packets reply (origins (replies history).length) := by
  obtain ⟨later, split⟩ := reached.step_prefix_send
  have place : replies (send settings file port devices).exchanges =
      replies history ++ reply :: replies later := by
    rw [← split, replies_append, replies_append, heard, List.append_assoc]
    rfl
  have comes := traced.comesFrom place
  rw [(reached.inFlight_of_awaitAck waiting).2.2] at comes
  exact comes

private theorem Traced.own
    (traced : Traced origins (replies (send settings file port devices).exchanges))
    (reached : Reached settings file port devices history machine now)
    (waiting : machine.phase.stage = .awaitAck)
    {next : Machine}
    (entered : (machine.step settings file port now).outcome = .entered next)
    (advanced : next.phase.stage = .advance) :
    origins (replies history).length = some machine.session.packets ∧
      ∃ reply, replies (machine.step settings file port now).exchanges = [reply] ∧
        Accepts machine.session.packets reply := by
  obtain ⟨sending, sequence, -⟩ := reached.inFlight_of_awaitAck waiting
  have awaits := machine.awaits_of_sending settings file port now sending
  generalize said : (machine.step settings file port now).exchanges = exchanges at awaits
  rw [entered] at awaits
  cases awaits with
  | acknowledged _ good =>
      have comes := traced.comesFrom_step reached waiting (congrArg replies said)
      rw [sequence] at good
      have own := comes.eq_of_acknowledges good
      rw [own] at comes
      exact ⟨own, _, rfl, comes.accepts⟩
  | refused _ _ => cases advanced

/-- A step that hears an issued acknowledgement goes on, and how depends on the packet that it was
issued for. -/
theorem Traced.judged
    (traced : Traced origins (replies (send settings file port devices).exchanges))
    (reached : Reached settings file port devices history machine now)
    (waiting : machine.phase.stage = .awaitAck)
    {index : Nat}
    (issued : origins (replies history).length = some index)
    (heard : replies (machine.step settings file port now).exchanges ≠ []) :
    (machine.step settings file port now).outcome = .entered { machine with
      phase := if index = machine.session.packets then .advance else .retry } := by
  obtain ⟨sending, sequence, -⟩ := reached.inFlight_of_awaitAck waiting
  have awaits := machine.awaits_of_sending settings file port now sending
  generalize said : (machine.step settings file port now).exchanges = exchanges at awaits heard
  generalize (machine.step settings file port now).outcome = outcome at awaits
  cases awaits with
  | unsent => exact absurd rfl heard
  | unheard kind =>
      have comes := traced.comesFrom_step reached waiting (congrArg replies said)
      rw [issued] at comes
      exact absurd (comes.accepts.forgiven _ rfl) kind
  | acknowledged _ good =>
      have comes := traced.comesFrom_step reached waiting (congrArg replies said)
      rw [issued] at comes
      rw [sequence, comes.acknowledges_eq, decide_eq_true_eq] at good
      rw [if_pos good]
  | refused _ bad =>
      have comes := traced.comesFrom_step reached waiting (congrArg replies said)
      rw [issued] at comes
      rw [sequence, comes.acknowledges_eq, decide_eq_false_iff_not] at bad
      rw [if_neg bad]

/-- Every packet of a completed transfer was accepted by a reply of its own. -/
theorem Traced.issued_of_closed
    {session : Session}
    {settled : List Delivery}
    {exchanges : List Exchange}
    (traced : Traced origins (replies exchanges))
    (closed : Closed settings session settled exchanges)
    {index : Nat}
    (below : index < settled.length) :
    ∃ position reply, (replies exchanges)[position]? = some reply ∧
      origins position = some index ∧ Accepts index reply := by
  have entry := closed.books.entries index settled[index] (List.getElem?_eq_getElem below)
  obtain ⟨refused, last, replied, none, good⟩ := entry.acknowledged
  have front : ∀ earlier (delivery : Delivery), (settled.take index)[earlier]? = some delivery →
      delivery.Settled settings session.total (0 + earlier) := by
    intro earlier delivery found
    rw [List.getElem?_take, Option.ite_none_right_eq_some] at found
    exact closed.books.entries_from_zero earlier delivery found.2
  have inFlight : inFlightAfter 0 ((settled.take index).flatMap Delivery.replies ++ refused) =
      index := by
    rw [inFlightAfter_append, inFlightAfter_settled _ front,
      List.length_take_of_le (Nat.le_of_lt below), Nat.zero_add]
    exact inFlightAfter_refused none
  have cut : settled = settled.take index ++ settled[index] :: settled.drop (index + 1) := by
    rw [List.getElem_cons_drop, List.take_append_drop]
  -- only the last reply to a packet acknowledges it, so that is the one to look at
  have place : replies exchanges =
      ((settled.take index).flatMap Delivery.replies ++ refused) ++
        last :: (settled.drop (index + 1)).flatMap Delivery.replies := by
    rw [closed.replies_eq]
    conv_lhs => rw [cut]
    rw [List.flatMap_append, List.flatMap_cons, replied, List.append_assoc, List.append_assoc]
    rfl
  have comes := traced.comesFrom place
  rw [inFlight] at comes
  have own := comes.eq_of_acknowledges good
  rw [own] at comes
  refine ⟨_, last, ?_, own, comes.accepts⟩
  rw [place]
  exact getElem?_length_append_cons _ last _

end Send

/-- When every reply either acknowledges nothing or was issued to accept a packet written before,
at most 127 packets ago, no packet is credited with the acknowledgement of another, however often,
late and out of order the replies come. -/
theorem credits_of_traced
    {settings : Settings}
    {file : FileSource φ}
    {port : SerialPort π}
    {devices : Devices φ π}
    {origins : Nat → Option Nat}
    (traced : Traced origins (replies (send settings file port devices).exchanges)) :
    (∀ history machine now, Reached settings file port devices history machine now →
      machine.phase.stage = .awaitAck →
        history ++ (machine.step settings file port now).exchanges <+:
            (send settings file port devices).exchanges ∧
          inFlightAfter 0 (replies history) = machine.session.packets ∧
            Credits (origins (replies history).length) machine
              (machine.step settings file port now)) ∧
    ∀ report, (send settings file port devices).ending = .completed report →
      ∃ total, (file.size devices.file).1 = .ok total ∧
        ∀ index, index < (total + settings.chunkLimit - 1) / settings.chunkLimit →
          ∃ position reply,
            (replies (send settings file port devices).exchanges)[position]? = some reply ∧
              origins position = some index ∧ Accepts index reply := by
  constructor
  · intro history machine now reached waiting
    refine ⟨reached.step_prefix_send, (reached.inFlight_of_awaitAck waiting).2.2, ?_⟩
    constructor
    case own =>
      intro next entered advanced
      exact traced.own reached waiting entered advanced
    case taken =>
      intro issued heard
      rw [traced.judged reached waiting issued heard, if_pos rfl]
    case stale =>
      intro index issued other heard
      rw [traced.judged reached waiting issued heard, if_neg other]
  · intro report completed
    obtain ⟨session, settled, -, closed⟩ := closed_of_completed completed
    have announced := size_eq_total closed.accepted closed.split.choose_spec
    have positive := ((settings.validate_eq_ok_iff).1 closed.accepted).1
    refine ⟨session.total, announced, ?_⟩
    intro index below
    rw [← closed.books.length_eq positive closed.nothing] at below
    exact traced.issued_of_closed closed below

/-- A receiver whose acknowledgement of the first packet comes twice, and whose acknowledgement of
the second is late. -/
def Scripted.Port.repeatsItself : Scripted.Port :=
  { writes := 0
    writeFaults := []
    arrived := 0
    leftover := []
    responses :=
      [.answerFor 0 Wire.acceptKind, .answerFor 0 Wire.acceptKind, .failure exhausted,
        .answerFor 1 Wire.acceptKind]
    afterwards := none }

theorem credits_repeatsItself :
    (send .inPairs Scripted.File.device Scripted.Port.device
      ⟨.threeBytes, .repeatsItself⟩).ending =
        .completed { bytesSent := 3, packets := 2, retransmits := 2 } ∧
    ∃ origins,
      Traced origins (replies (send .inPairs Scripted.File.device Scripted.Port.device
        ⟨.threeBytes, .repeatsItself⟩).exchanges) ∧
      ∀ index, index < 2 → ∃ position reply,
        (replies (send .inPairs Scripted.File.device Scripted.Port.device
          ⟨.threeBytes, .repeatsItself⟩).exchanges)[position]? = some reply ∧
          origins position = some index ∧ Accepts index reply := by
  have followed : (Machine.initial.follow .inPairs Scripted.File.device Scripted.Port.device
      60 ⟨.threeBytes, .repeatsItself⟩).map (fun result => (replies result.1, result.2)) =
        some ([.ok (Reply.answer 0 Wire.acceptKind).toBytes,
            .ok (Reply.answer 0 Wire.acceptKind).toBytes, .error Scripted.Port.exhausted,
            .ok (Reply.answer 1 Wire.acceptKind).toBytes],
          .completed { bytesSent := 3, packets := 2, retransmits := 2 }) := by
    decide
  obtain ⟨result, found, read⟩ := Option.map_eq_some_iff.1 followed
  obtain ⟨exchanges, ending⟩ := send_of_follow found
  rw [Prod.mk.injEq, ← exchanges, ← ending] at read
  obtain ⟨heard, completed⟩ := read
  have traced : Traced (fun position => [some 0, some 0, none, some 1].getD position none)
      (replies (send .inPairs Scripted.File.device Scripted.Port.device
        ⟨.threeBytes, .repeatsItself⟩).exchanges) := by
    rw [heard]
    intro position reply found
    match position, found with
    | 0, rfl => exact .receiver (by decide) (by decide) (by decide)
    | 1, rfl => exact .receiver (by decide) (by decide) (by decide)
    | 2, rfl => exact .nowhere fun sequence => acknowledges_error sequence _
    | 3, rfl => exact .receiver (by decide) (by decide) (by decide)
  obtain ⟨total, announced, issued⟩ := (credits_of_traced traced).2 _ completed
  cases announced
  exact ⟨completed, _, traced, issued⟩

end KermitSend

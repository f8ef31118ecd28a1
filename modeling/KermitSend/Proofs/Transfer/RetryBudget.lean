import KermitSend.Proofs.Transfer.Failure
import KermitSend.Proofs.Transfer.Reached

/-!
Contract: the attempts that a transfer spends, packet by packet.

Owns:
- calls that leave a transfer undisturbed: nothing but missing or bad replies can then stop it;
- replies that run out of attempts at a packet, told from the replies alone;
- the law that an undisturbed transfer fails exactly when its replies run out, and completes
  otherwise;
- how many copies of each frame it writes.

Does not own: transfers on devices that fail.
-/

set_option autoImplicit false

namespace KermitSend

variable {φ π : Type}

/-- The file is there and delivers bytes whenever it is read, writes succeed, and a wait for a
reply ends with bytes or by running out of time. -/
def Exchange.Undisturbed : Exchange → Prop
  | .size (.ok _) => True
  | .size (.error _) => False
  | .fileRead _ (.ok bytes) => bytes ≠ []
  | .fileRead _ (.error fault) => fault.kind = .interrupted
  | .write _ (.ok ()) => True
  | .write _ (.error _) => False
  | .receive _ _ (.ok _) => True
  | .receive _ _ (.error fault) => fault.kind = .timedOut
  | .close _ => True

instance : DecidablePred Exchange.Undisturbed
  | .size (.ok _) => inferInstanceAs (Decidable True)
  | .size (.error _) => inferInstanceAs (Decidable False)
  | .fileRead _ (.ok bytes) => inferInstanceAs (Decidable (bytes ≠ []))
  | .fileRead _ (.error fault) => inferInstanceAs (Decidable (fault.kind = .interrupted))
  | .write _ (.ok ()) => inferInstanceAs (Decidable True)
  | .write _ (.error _) => inferInstanceAs (Decidable False)
  | .receive _ _ (.ok _) => inferInstanceAs (Decidable True)
  | .receive _ _ (.error fault) => inferInstanceAs (Decidable (fault.kind = .timedOut))
  | .close _ => inferInstanceAs (Decidable True)

/-- Replies that begin with the packet of the first index in flight run out of attempts at the
packet of the second: every packet before it is acknowledged within the limit, and then as many
replies in a row as the limit allows do not acknowledge it. -/
inductive RunsOut (limit : Nat) : Nat → List Answer → Nat → Prop where
  | here {index unanswered later}
      (used : unanswered.length = limit)
      (refused : ∀ reply ∈ unanswered, acknowledges (sequenceAt index) reply = false) :
      RunsOut limit index (unanswered ++ later) index
  | later {index target refused last later}
      (within : refused.length + 1 ≤ limit)
      (none : ∀ reply ∈ refused, acknowledges (sequenceAt index) reply = false)
      (good : acknowledges (sequenceAt index) last = true)
      (rest : RunsOut limit (index + 1) later target) :
      RunsOut limit index (refused ++ last :: later) target

/-! ## Replies to settled deliveries -/

/-- The first of the replies that has a property ends the front of those that do not have it. -/
theorem eq_of_append_cons_eq
    {good : Answer → Bool}
    {left right leftLater rightLater : List Answer}
    {leftLast rightLast : Answer}
    (leftNone : ∀ reply ∈ left, good reply = false)
    (rightNone : ∀ reply ∈ right, good reply = false)
    (leftGood : good leftLast = true)
    (rightGood : good rightLast = true)
    (same : left ++ leftLast :: leftLater = right ++ rightLast :: rightLater) :
    leftLater = rightLater := by
  induction left generalizing right with
  | nil =>
      cases right with
      | nil => exact (List.cons.inj same).2
      | cons reply right =>
          have bad := rightNone reply List.mem_cons_self
          rw [← (List.cons.inj same).1, leftGood] at bad
          cases bad
  | cons reply left inductionHypothesis =>
      cases right with
      | nil =>
          have bad := leftNone reply List.mem_cons_self
          rw [(List.cons.inj same).1, rightGood] at bad
          cases bad
      | cons other right =>
          apply inductionHypothesis
          · intro reply member
            exact leftNone reply (List.mem_cons_of_mem _ member)
          · intro reply member
            exact rightNone reply (List.mem_cons_of_mem _ member)
          · exact (List.cons.inj same).2

namespace RunsOut

variable
  {limit index target : Nat}
  {later : List Answer}

/-- Past a packet that was acknowledged within the limit, replies run out at a later one. -/
theorem of_acknowledged
    {refused : List Answer}
    {last : Answer}
    (within : refused.length + 1 ≤ limit)
    (none : ∀ reply ∈ refused, acknowledges (sequenceAt index) reply = false)
    (good : acknowledges (sequenceAt index) last = true)
    (out : RunsOut limit index (refused ++ last :: later) target) :
    RunsOut limit (index + 1) later target := by
  generalize split : refused ++ last :: later = all at out
  cases out with
  | @here _ unanswered after used bad =>
      -- the acknowledgement would be among the replies that acknowledge nothing
      have inside : (unanswered ++ after)[refused.length]? = some last := by
        rw [← split]
        exact getElem?_length_append_cons refused last later
      rw [List.getElem?_append_left (by omega)] at inside
      have contrary := bad last (List.mem_of_getElem? inside)
      rw [good] at contrary
      cases contrary
  | later _ otherNone otherGood rest =>
      rw [eq_of_append_cons_eq none otherNone good otherGood split]
      exact rest

private theorem settled_append_iff
    {settings : Settings}
    {total : Nat}
    (settled : List Delivery)
    {first : Nat}
    (entries : ∀ index (delivery : Delivery), settled[index]? = some delivery →
      delivery.Settled settings total (first + index)) :
    RunsOut settings.retryLimit.toNat first (settled.flatMap Delivery.replies ++ later) target ↔
      RunsOut settings.retryLimit.toNat (first + settled.length) later target := by
  induction settled generalizing first with
  | nil => exact Iff.rfl
  | cons delivery settled inductionHypothesis =>
      have entry : delivery.Settled settings total first := entries 0 delivery rfl
      have allowed := entry.allowed
      obtain ⟨refused, last, split, none, good⟩ := entry.acknowledged
      rw [split, List.length_append, List.length_singleton] at allowed
      have rest := inductionHypothesis (Delivery.settled_tail entries)
      have count : first + (settled.length + 1) = first + 1 + settled.length := by
        omega
      rw [List.flatMap_cons, split, List.append_assoc, List.append_assoc, List.length_cons, count,
        ← rest]
      constructor
      · intro out
        exact out.of_acknowledged allowed none good
      · intro out
        exact .later allowed none good out

private theorem not_nil (positive : 0 < limit) : ¬ RunsOut limit index [] target := by
  intro out
  generalize empty : ([] : List Answer) = all at out
  cases out with
  | here used _ =>
      rw [(List.append_eq_nil_iff.1 empty.symm).1] at used
      exact absurd used (Nat.ne_of_lt positive)
  | later _ _ _ _ => exact absurd (List.append_eq_nil_iff.1 empty.symm).2 (List.cons_ne_nil _ _)

/-- Replies none of which acknowledges the packet can run out at no other. -/
theorem eq_of_refused
    {unanswered : List Answer}
    (refused : ∀ reply ∈ unanswered, acknowledges (sequenceAt index) reply = false)
    (out : RunsOut limit index unanswered target) :
    target = index := by
  cases out with
  | here _ _ => rfl
  | @later _ _ earlier last _ _ _ good _ =>
      have bad := refused last (List.mem_append_right earlier List.mem_cons_self)
      rw [good] at bad
      cases bad

end RunsOut

/-! ## Undisturbed transfers -/

/-- In an undisturbed transfer only a packet that is not acknowledged can break it off. -/
theorem BreaksOff.exhausted_of_undisturbed
    {settings : Settings}
    {total index : Nat}
    {tail : List Exchange}
    {error : TransferError}
    (breaks : BreaksOff settings total index tail error)
    (undisturbed : ∀ exchange ∈ tail, exchange.Undisturbed) :
    ∃ delivery : Delivery, delivery.Framed settings total index ∧ delivery.Unanswered index ∧
      delivery.replies.length = settings.retryLimit.toNat ∧
        tail = delivery.exchanges settings ∧
          error = .retriesExhausted settings.retryLimit (sequenceAt index)
            (bytesBefore settings total index) := by
  cases breaks with
  | truncated _ _ =>
      have last := undisturbed _ (List.mem_append_right _ List.mem_cons_self)
      exact absurd rfl last
  | unreadable _ _ kind =>
      have last := undisturbed _ (List.mem_append_right _ List.mem_cons_self)
      exact absurd last kind
  | unsent _ _ _ =>
      have last := undisturbed _ (List.mem_append_right _ List.mem_cons_self)
      exact last.elim
  | unheard _ _ _ kind =>
      have last := undisturbed _
        (List.mem_append_right _ (List.mem_cons_of_mem _ List.mem_cons_self))
      exact absurd last kind
  | exhausted framed unanswered used => exact ⟨_, framed, unanswered, used, rfl, rfl⟩
  | unended _ =>
      have last := undisturbed _ List.mem_cons_self
      exact last.elim

/-- The deliveries of a transfer, each with its attempts: one for every packet whose frame was
written, the last of them perhaps not settled. -/
structure Spends
    (settings : Settings)
    (total : Nat)
    (exchanges : List Exchange)
    (ending : Ending)
    (deliveries : List Delivery) : Prop where
  framed : ∀ index (delivery : Delivery), deliveries[index]? = some delivery →
    delivery.Framed settings total index
  attempts : ∀ delivery ∈ deliveries,
    1 ≤ delivery.replies.length ∧ delivery.replies.length ≤ settings.retryLimit.toNat
  replies : replies exchanges = deliveries.flatMap Delivery.replies
  written : written exchanges = deliveries.flatMap Delivery.copies ++
    match ending with
    | .completed _ => [[Wire.endOfTransfer]]
    | .failed _ => []

/-- A transfer has used up its attempts on the packet after the settled ones. -/
structure Spent
    (settings : Settings)
    (session : Session)
    (settled : List Delivery)
    (delivery : Delivery)
    (exchanges : List Exchange) : Prop where
  books : Books settings session settled
  framed : delivery.Framed settings session.total settled.length
  unanswered : delivery.Unanswered settled.length
  used : delivery.replies.length = settings.retryLimit.toNat
  split : exchanges =
    settledExchanges settings session.total settled ++ delivery.exchanges settings

/-- A transfer of `total` bytes keeps to its budget: it fails for want of an acknowledgement exactly
when its replies run out of attempts at some packet, of which it has then written as many copies as
the limit allows and none of a later packet, and otherwise it completes. -/
structure KeepsBudget
    (settings : Settings)
    (total : Nat)
    (exchanges : List Exchange)
    (ending : Ending)
    (deliveries : List Delivery) : Prop where
  spends : Spends settings total exchanges ending deliveries
  exhausted_iff :
    (∃ retries sequence bytesSent,
        ending = .failed (.retriesExhausted retries sequence bytesSent)) ↔
      ∃ index, RunsOut settings.retryLimit.toNat 0 (replies exchanges) index
  exhausted : ∀ index, RunsOut settings.retryLimit.toNat 0 (replies exchanges) index →
    ending = .failed (.retriesExhausted settings.retryLimit (sequenceAt index)
        (index * settings.chunkLimit)) ∧
      deliveries.length = index + 1 ∧
        ∃ delivery, deliveries[index]? = some delivery ∧
          delivery.copies = List.replicate settings.retryLimit.toNat delivery.frame
  completed : (¬ ∃ index, RunsOut settings.retryLimit.toNat 0 (replies exchanges) index) →
    ∃ report, ending = .completed report

section Send

variable
  {settings : Settings}
  {file : FileSource φ}
  {port : SerialPort π}
  {devices : Devices φ π}

/-- With accepted settings and a known size, an error always counts bytes. -/
theorem counted_of_undisturbed
    {error : TransferError}
    (accepted : settings.validate = .ok ())
    (undisturbed : ∀ exchange ∈ (send settings file port devices).exchanges,
      exchange.Undisturbed)
    (failed : (send settings file port devices).ending = .failed error) :
    ∃ count, error.bytesSent? = some count := by
  obtain ⟨history, machine, final, conversation, stops, split⟩ :=
    exists_conversation_of_send settings file port devices
  rw [failed] at stops
  by_cases idle : machine.phase = .idle
  · rw [split] at undisturbed
    cases stops with
    | invalid _ rejected =>
        rw [accepted] at rejected
        cases rejected
    | unsized _ _ =>
        have last := undisturbed _ (List.mem_append_right _ List.mem_cons_self)
        exact last.elim
    | _ => simp_all
  · exact ⟨_, stops.bytesSent?_eq idle⟩

/-- An undisturbed transfer completes, or uses up its attempts on one packet. -/
theorem closed_or_spent_of_undisturbed
    (accepted : settings.validate = .ok ())
    (undisturbed : ∀ exchange ∈ (send settings file port devices).exchanges,
      exchange.Undisturbed) :
    (∃ session settled, (send settings file port devices).ending = .completed session.report ∧
      Closed settings session settled (send settings file port devices).exchanges) ∨
    ∃ session settled delivery,
      (send settings file port devices).ending =
          .failed (.retriesExhausted settings.retryLimit (sequenceAt settled.length)
            (bytesBefore settings session.total settled.length)) ∧
        Spent settings session settled delivery (send settings file port devices).exchanges := by
  cases ending : (send settings file port devices).ending with
  | completed report =>
      obtain ⟨session, settled, reported, closed⟩ := closed_of_completed ending
      left
      exact ⟨session, settled, by rw [reported], closed⟩
  | failed error =>
      obtain ⟨count, counted⟩ := counted_of_undisturbed accepted undisturbed ending
      obtain ⟨session, settled, tail, -, -, -, books, split, breaks⟩ :=
        breaksOff_of_counted ending counted
      have undisturbedTail : ∀ exchange ∈ tail, exchange.Undisturbed := by
        intro exchange member
        apply undisturbed
        rw [split]
        exact List.mem_append_right _ member
      obtain ⟨delivery, framed, unanswered, used, rfl, rfl⟩ :=
        breaks.exhausted_of_undisturbed undisturbedTail
      right
      exact ⟨session, settled, delivery, rfl, books, framed, unanswered, used, split⟩

end Send

section Outcomes

variable
  {settings : Settings}
  {session : Session}
  {settled : List Delivery}
  {delivery : Delivery}
  {exchanges : List Exchange}

theorem Books.attempts
    (books : Books settings session settled)
    {entry : Delivery}
    (member : entry ∈ settled) :
    1 ≤ entry.replies.length ∧ entry.replies.length ≤ settings.retryLimit.toNat := by
  obtain ⟨index, found⟩ := List.getElem?_of_mem member
  have settles := books.entries index entry found
  exact ⟨settles.attempted, settles.allowed⟩

private theorem Closed.spends
    (closed : Closed settings session settled exchanges)
    (report : Report) :
    Spends settings session.total exchanges (.completed report) settled where
  framed := by
    intro index entry found
    exact (closed.books.entries index entry found).framed
  attempts := by
    intro entry member
    exact closed.books.attempts member
  replies := closed.replies_eq
  written := closed.written_eq

/-- The replies of a completed transfer run out at no packet. -/
theorem Closed.not_runsOut
    (closed : Closed settings session settled exchanges)
    (index : Nat) :
    ¬ RunsOut settings.retryLimit.toNat 0 (replies exchanges) index := by
  have positive := ((settings.validate_eq_ok_iff).1 closed.accepted).2.2.1
  rw [closed.replies_eq, ← List.append_nil (settled.flatMap Delivery.replies),
    RunsOut.settled_append_iff settled closed.books.entries_from_zero]
  exact RunsOut.not_nil positive

private theorem Spent.replies_eq (spent : Spent settings session settled delivery exchanges) :
    replies exchanges = settled.flatMap Delivery.replies ++ delivery.replies := by
  rw [spent.split, replies_append, replies_settledExchanges, Delivery.replies_exchanges]

private theorem Spent.spends
    (spent : Spent settings session settled delivery exchanges)
    (positive : 0 < settings.retryLimit.toNat)
    (error : TransferError) :
    Spends settings session.total exchanges (.failed error) (settled ++ [delivery]) where
  framed := by
    apply forall_index_concat ?_ spent.framed
    intro index entry found
    exact (spent.books.entries index entry found).framed
  attempts := by
    intro entry member
    rcases List.mem_append.1 member with among | last
    · exact spent.books.attempts among
    · rw [List.mem_singleton.1 last, spent.used]
      exact ⟨positive, Nat.le_refl _⟩
  replies := by
    rw [spent.replies_eq, List.flatMap_append, List.flatMap_singleton]
  written := by
    rw [spent.split, written_append, written_settledExchanges, Delivery.written_exchanges,
      List.flatMap_append, List.flatMap_singleton, List.append_nil]

/-- Replies that use up the attempts on a packet run out at that packet and at no other. -/
theorem Spent.runsOut_iff
    (spent : Spent settings session settled delivery exchanges)
    (index : Nat) :
    RunsOut settings.retryLimit.toNat 0 (replies exchanges) index ↔ index = settled.length := by
  rw [spent.replies_eq, RunsOut.settled_append_iff settled spent.books.entries_from_zero,
    Nat.zero_add]
  constructor
  · intro out
    exact out.eq_of_refused spent.unanswered.refused
  · rintro rfl
    rw [← List.append_nil delivery.replies]
    exact .here spent.used spent.unanswered.refused

/-- Before a packet that exists, all chunks are of full length. -/
theorem Delivery.Framed.bytesBefore_eq
    {total index : Nat}
    (framed : delivery.Framed settings total index) :
    bytesBefore settings total index = index * settings.chunkLimit := by
  exact Nat.min_eq_right (Nat.le_of_lt framed.index_mul_lt)

private theorem Closed.keepsBudget
    (closed : Closed settings session settled exchanges)
    (report : Report) :
    KeepsBudget settings session.total exchanges (.completed report) settled where
  spends := closed.spends report
  exhausted_iff := by
    constructor
    · rintro ⟨_, _, _, same⟩
      cases same
    · rintro ⟨index, out⟩
      exact absurd out (closed.not_runsOut index)
  exhausted := by
    intro index out
    exact absurd out (closed.not_runsOut index)
  completed := by
    intro _
    exact ⟨report, rfl⟩

private theorem Spent.keepsBudget
    (spent : Spent settings session settled delivery exchanges)
    (positive : 0 < settings.retryLimit.toNat) :
    KeepsBudget settings session.total exchanges
      (.failed (.retriesExhausted settings.retryLimit (sequenceAt settled.length)
        (settled.length * settings.chunkLimit))) (settled ++ [delivery]) where
  spends := spent.spends positive _
  exhausted_iff := by
    constructor
    · intro _
      exact ⟨settled.length, (spent.runsOut_iff _).2 rfl⟩
    · intro _
      exact ⟨_, _, _, rfl⟩
  exhausted := by
    intro index out
    obtain rfl := (spent.runsOut_iff index).1 out
    refine ⟨rfl, List.length_append, delivery, List.getElem?_concat_length, ?_⟩
    rw [Delivery.copies, spent.used]
  completed := by
    intro never
    exact absurd ⟨settled.length, (spent.runsOut_iff _).2 rfl⟩ never

end Outcomes

/-- Counting a failed attempt does not wrap. -/
theorem Reached.toNat_retries_succ
    {settings : Settings}
    {file : FileSource φ}
    {port : SerialPort π}
    {devices now : Devices φ π}
    {history : List Exchange}
    {machine : Machine}
    (accepted : settings.validate = .ok ())
    (reached : Reached settings file port devices history machine now)
    (phase : machine.phase = .retry) :
    (machine.session.retries + 1).toNat = machine.session.retries.toNat + 1 := by
  have started : machine.phase ≠ .idle := by
    rw [phase]
    decide
  obtain ⟨settled, pending, -, -, standing, -⟩ := reached.conversation.recorded.elim started
  exact toNat_succ_of_lt (standing.retries_lt accepted)

/-- Every packet of an undisturbed transfer has as many attempts as the limit says, whatever befell
the packets before it, and no count of attempts wraps. -/
theorem retry_budget
    {settings : Settings}
    (accepted : settings.validate = .ok ())
    {file : FileSource φ}
    {port : SerialPort π}
    {devices : Devices φ π}
    (undisturbed : ∀ exchange ∈ (send settings file port devices).exchanges,
      exchange.Undisturbed) :
    (∃ total deliveries, (file.size devices.file).1 = .ok total ∧
      KeepsBudget settings total (send settings file port devices).exchanges
        (send settings file port devices).ending deliveries) ∧
    ∀ history machine now, Reached settings file port devices history machine now →
      machine.phase = .retry →
        (machine.session.retries + 1).toNat = machine.session.retries.toNat + 1 := by
  constructor
  · rcases closed_or_spent_of_undisturbed accepted undisturbed with
      ⟨session, settled, ending, closed⟩ | ⟨session, settled, delivery, ending, spent⟩
    · have announced := size_eq_total accepted closed.split.choose_spec
      rw [ending]
      exact ⟨session.total, settled, announced, closed.keepsBudget session.report⟩
    · have announced := size_eq_total accepted spent.split
      have positive := ((settings.validate_eq_ok_iff).1 accepted).2.2.1
      rw [spent.framed.bytesBefore_eq] at ending
      rw [ending]
      exact ⟨session.total, settled ++ [delivery], announced, spent.keepsBudget positive⟩
  · intro history machine now reached phase
    exact reached.toNat_retries_succ accepted phase

/-- A receiver that accepts one packet at the last attempt, and is not heard of again. -/
def Scripted.Port.acceptsLate : Scripted.Port :=
  { writes := 0
    writeFaults := []
    arrived := 0
    leftover := []
    responses :=
      [.answer Wire.refuseKind, .literal [], .answer Wire.refuseKind, .answer Wire.acceptKind]
    afterwards := none }

theorem retry_budget_acceptsLate :
    Settings.inPairs.validate = .ok () ∧
      (∀ exchange ∈ (send .inPairs Scripted.File.device Scripted.Port.device
        ⟨.threeBytes, .acceptsLate⟩).exchanges, exchange.Undisturbed) ∧
        RunsOut 4 0 (replies (send .inPairs Scripted.File.device Scripted.Port.device
          ⟨.threeBytes, .acceptsLate⟩).exchanges) 1 ∧
        ∃ total deliveries, (Scripted.File.device.size .threeBytes).1 = .ok total ∧
          KeepsBudget .inPairs total
            (send .inPairs Scripted.File.device Scripted.Port.device
              ⟨.threeBytes, .acceptsLate⟩).exchanges
            (.failed (.retriesExhausted 4 1 2)) deliveries := by
  have accepted : Settings.inPairs.validate = .ok () := by
    decide
  have followed : (Machine.initial.follow .inPairs Scripted.File.device Scripted.Port.device
      60 ⟨.threeBytes, .acceptsLate⟩).map (fun result =>
        (decide (∀ exchange ∈ result.1, exchange.Undisturbed), result.2)) =
          some (true, .failed (.retriesExhausted 4 1 2)) := by
    decide
  obtain ⟨result, found, checked⟩ := Option.map_eq_some_iff.1 followed
  obtain ⟨exchanges, ending⟩ := send_of_follow found
  rw [Prod.mk.injEq, decide_eq_true_eq, ← exchanges, ← ending] at checked
  obtain ⟨undisturbed, failed⟩ := checked
  obtain ⟨⟨total, deliveries, announced, budget⟩, -⟩ := retry_budget accepted undisturbed
  rw [failed] at budget
  obtain ⟨index, runsOut⟩ := budget.exhausted_iff.1 ⟨4, 1, 2, rfl⟩
  have stated := (budget.exhausted index runsOut).1
  rw [Ending.failed.injEq, TransferError.retriesExhausted.injEq] at stated
  have second : index = 1 := by
    have bytes : 2 = index * 2 := stated.2.2
    omega
  rw [second] at runsOut
  exact ⟨accepted, undisturbed, runsOut, total, deliveries, announced, budget⟩

end KermitSend

import KermitSend.Proofs.Reply.Judgement
import KermitSend.Proofs.Transfer.Exactness

/-!
Contract: the replies that a transfer was given, and the packets that they acknowledge.

Owns:
- the replies in a list of exchanges;
- the packet in flight after replies, told from the replies alone;
- what the replies of settled deliveries, and of those not answered, come to;
- the law that the packet in flight after a history is the one that the counters say;
- the replies that a receiver issues, and when they acknowledge a packet.

Does not own: what a transfer does about a reply.
-/

set_option autoImplicit false

namespace KermitSend

/-- An answer of the port to the wait for a reply. -/
abbrev Answer := Except Fault (List UInt8)

theorem getElem?_length_append_cons {α : Type} (earlier : List α) (item : α) (later : List α) :
    (earlier ++ item :: later)[earlier.length]? = some item := by
  rw [List.getElem?_append_right (Nat.le_refl _), Nat.sub_self]
  rfl

def Exchange.reply? : Exchange → Option Answer
  | .receive _ _ answer => some answer
  | _ => none

/-- The replies, wait after wait. -/
def replies (exchanges : List Exchange) : List Answer :=
  exchanges.filterMap Exchange.reply?

@[simp]
theorem replies_append (left right : List Exchange) :
    replies (left ++ right) = replies left ++ replies right := by
  simp [replies]

theorem replies_reads (reads : List FileRead) :
    replies (reads.map Exchange.ofFileRead) = [] := by
  simp [replies, List.filterMap_map, Function.comp_def, Exchange.ofFileRead, Exchange.reply?]

theorem Delivery.replies_attempts (settings : Settings) (delivery : Delivery) :
    KermitSend.replies (delivery.attempts settings) = delivery.replies := by
  rw [attempts]
  induction delivery.replies with
  | nil => rfl
  | cons reply replies inductionHypothesis =>
      rw [List.flatMap_cons, replies_append, inductionHypothesis]
      rfl

theorem Delivery.replies_exchanges (settings : Settings) (delivery : Delivery) :
    KermitSend.replies (delivery.exchanges settings) = delivery.replies := by
  rw [exchanges, replies_append, replies_reads, replies_attempts, List.nil_append]

theorem replies_settledExchanges
    (settings : Settings)
    (total : Nat)
    (settled : List Delivery) :
    replies (settledExchanges settings total settled) = settled.flatMap Delivery.replies := by
  rw [settledExchanges, replies, List.filterMap_cons_none rfl, List.filterMap_flatMap]
  exact List.flatMap_congr fun delivery _ => delivery.replies_exchanges settings

theorem Closed.replies_eq
    {settings : Settings}
    {session : Session}
    {settled : List Delivery}
    {exchanges : List Exchange}
    (closed : Closed settings session settled exchanges) :
    replies exchanges = settled.flatMap Delivery.replies := by
  obtain ⟨answer, split⟩ := closed.split
  have silent : replies [.write [Wire.endOfTransfer] (.ok ()), .close answer] = [] := rfl
  rw [split, replies_append, replies_settledExchanges, silent, List.append_nil]

/-! ## The packet in flight -/

/-- A reply that acknowledges the packet in flight brings on the next packet. -/
def inFlightAfterReply (index : Nat) (reply : Answer) : Nat :=
  if acknowledges (sequenceAt index) reply then index + 1 else index

/-- The index of the packet in flight after replies, the first of which found the packet of the
given index in flight.  From the packet of index 0 on, this is the number of packets that had a
reply which acknowledged them. -/
def inFlightAfter (first : Nat) (replies : List Answer) : Nat :=
  replies.foldl inFlightAfterReply first

theorem inFlightAfter_append (first : Nat) (earlier later : List Answer) :
    inFlightAfter first (earlier ++ later) =
      inFlightAfter (inFlightAfter first earlier) later :=
  List.foldl_append

theorem inFlightAfter_refused
    {index : Nat}
    {replies : List Answer}
    (refused : ∀ reply ∈ replies, acknowledges (sequenceAt index) reply = false) :
    inFlightAfter index replies = index := by
  induction replies with
  | nil => rfl
  | cons reply replies inductionHypothesis =>
      have stays : inFlightAfterReply index reply = index := by
        rw [inFlightAfterReply, refused reply List.mem_cons_self]
        rfl
      show inFlightAfter (inFlightAfterReply index reply) replies = index
      rw [stays]
      apply inductionHypothesis
      intro other member
      exact refused other (List.mem_cons_of_mem reply member)

private theorem inFlightAfter_acknowledged
    {index : Nat}
    {refused : List Answer}
    {last : Answer}
    (none : ∀ reply ∈ refused, acknowledges (sequenceAt index) reply = false)
    (good : acknowledges (sequenceAt index) last = true) :
    inFlightAfter index (refused ++ [last]) = index + 1 := by
  rw [inFlightAfter_append, inFlightAfter_refused none]
  show inFlightAfterReply index last = index + 1
  rw [inFlightAfterReply, good]
  rfl

/-- Settled deliveries bring on one packet each. -/
theorem inFlightAfter_settled
    {settings : Settings}
    {total : Nat}
    (settled : List Delivery)
    {first : Nat}
    (entries : ∀ index (delivery : Delivery), settled[index]? = some delivery →
      delivery.Settled settings total (first + index)) :
    inFlightAfter first (settled.flatMap Delivery.replies) = first + settled.length := by
  induction settled generalizing first with
  | nil => rfl
  | cons delivery settled inductionHypothesis =>
      have entry : delivery.Settled settings total first := entries 0 delivery rfl
      obtain ⟨refused, last, split, none, good⟩ := entry.acknowledged
      rw [List.flatMap_cons, inFlightAfter_append, split, inFlightAfter_acknowledged none good,
        inductionHypothesis (Delivery.settled_tail entries), List.length_cons]
      omega

section Books

variable
  {settings : Settings}
  {session : Session}
  {settled : List Delivery}

theorem Books.inFlightAfter_eq (books : Books settings session settled) :
    inFlightAfter 0 (settled.flatMap Delivery.replies) = settled.length := by
  rw [inFlightAfter_settled settled books.entries_from_zero, Nat.zero_add]

/-- Replies after the settled ones that acknowledge nothing leave the packet in flight. -/
theorem Books.inFlightAfter_append_refused
    (books : Books settings session settled)
    {tail : List Exchange}
    (refused : ∀ reply ∈ replies tail, acknowledges (sequenceAt settled.length) reply = false) :
    inFlightAfter 0 (replies (settledExchanges settings session.total settled ++ tail)) =
      settled.length := by
  rw [replies_append, replies_settledExchanges, inFlightAfter_append, books.inFlightAfter_eq]
  exact inFlightAfter_refused refused

end Books

/-- When a frame is to be sent, the counters and the replies agree on the packet in flight. -/
theorem Conversation.inFlight_of_sending
    {settings : Settings}
    {history : List Exchange}
    {machine : Machine}
    (conversation : Conversation settings history machine)
    (sending : machine.phase = .sending) :
    machine.session.sequence = sequenceAt machine.session.packets ∧
      inFlightAfter 0 (replies history) = machine.session.packets := by
  have started : machine.phase ≠ .idle := by
    rw [sending]
    decide
  obtain ⟨settled, pending, -, books, standing, split⟩ := conversation.recorded.elim started
  unfold Standing at standing
  rw [sending] at standing
  obtain ⟨delivery, -, unanswered, -, -, rfl⟩ := standing
  rw [split, books.packets]
  refine ⟨books.sequence, books.inFlightAfter_append_refused ?_⟩
  rw [Delivery.replies_exchanges]
  exact unanswered.refused

/-! ## What acknowledges -/

theorem Reply.isAcknowledged_judge_answer (sequence expected : UInt8) :
    ((Reply.answer sequence Wire.acceptKind).judge expected).isAcknowledged = true ↔
      sequence = expected := by
  have checked : (Reply.answer sequence Wire.acceptKind).Checked := rfl
  have received : Printable.decode (Reply.answer sequence Wire.acceptKind).label = sequence :=
    Printable.decode_encode sequence
  rw [Reply.isAcknowledged_judge_iff, received]
  constructor
  · rintro ⟨-, same, -⟩
    exact same
  · intro same
    exact ⟨checked, same, rfl⟩

/-- A receiver can acknowledge every packet. -/
theorem exists_acknowledges (sequence : UInt8) :
    ∃ reply, Forgiven reply ∧ acknowledges sequence reply = true := by
  refine ⟨.ok (Reply.answer sequence Wire.acceptKind).toBytes, ?_, ?_⟩
  · intro fault failed
    cases failed
  · exact (Reply.isAcknowledged_judge_answer sequence sequence).2 rfl

/-- A failed wait acknowledges nothing: a reply of zeros does not pass its check. -/
theorem acknowledges_error (sequence : UInt8) (fault : Fault) :
    acknowledges sequence (.error fault) = false := by
  have unchecked : ¬ (Reply.ofBytes []).Checked := by
    decide
  rw [acknowledges, heard, Reply.judge_of_not_checked unchecked]
  rfl

end KermitSend

import KermitSend.Proofs.Transfer.FileOrder

/-!
Contract: what it takes to bring one packet across.

Owns:
- the sequence number and the chunk length that the packet of an index has;
- reads that gather a chunk, whatever their lengths and interruptions;
- a delivery: the reads, the chunk, its frame and one reply for each attempt;
- when a delivery is framed, and when it is settled by an acknowledgement;
- facts about each of a list of deliveries and its index;
- the parts of its exchanges: bytes served, frames written, calls on the line.

Does not own: how deliveries follow one another.
-/

set_option autoImplicit false

namespace KermitSend

/-- The sequence number of the packet with the given index. -/
def sequenceAt (index : Nat) : UInt8 :=
  UInt8.ofNat (index % 128)

theorem toNat_sequenceAt (index : Nat) : (sequenceAt index).toNat = index % 128 := by
  have small : index % 128 < 2 ^ 8 := by omega
  rw [sequenceAt, UInt8.toNat_ofNat', Nat.mod_eq_of_lt small]

theorem sequenceAt_succ (index : Nat) :
    (sequenceAt index + 1) % Wire.sequenceModulus = sequenceAt (index + 1) := by
  apply UInt8.toNat_inj.1
  rw [UInt8.toNat_mod, UInt8.toNat_add, toNat_sequenceAt, toNat_sequenceAt]
  simp only [Wire.sequenceModulus, UInt8.toNat_one, UInt8.reduceToNat]
  omega

theorem sequenceAt_succ_ne (index : Nat) : sequenceAt (index + 1) ≠ sequenceAt index := by
  intro same
  have equal := congrArg UInt8.toNat same
  rw [toNat_sequenceAt, toNat_sequenceAt] at equal
  omega

/-- The number of file bytes in the packet with the given index. -/
def pieceLength (settings : Settings) (total index : Nat) : Nat :=
  min (total - index * settings.chunkLimit) settings.chunkLimit

/-! ## Gathering a chunk -/

/-- A read of the file: the room offered and the answer. -/
abbrev FileRead := Nat × Except Fault (List UInt8)

/-- Reads that gather the given bytes on the way to `want` of them: each asks for exactly what
is missing, and stores some of it or is interrupted. -/
inductive Gathers (want : Nat) : List FileRead → List UInt8 → Prop where
  | none : Gathers want [] []
  | interrupted {reads bytes fault}
      (earlier : Gathers want reads bytes)
      (incomplete : bytes.length < want)
      (kind : fault.kind = .interrupted) :
      Gathers want (reads ++ [(want - bytes.length, .error fault)]) bytes
  | stored {reads bytes more}
      (earlier : Gathers want reads bytes)
      (incomplete : bytes.length < want)
      (nonempty : more ≠ [])
      (fits : more.length ≤ want - bytes.length) :
      Gathers want (reads ++ [(want - bytes.length, .ok more)]) (bytes ++ more)

theorem Gathers.of_zero
    {reads : List FileRead}
    {bytes : List UInt8}
    (gathered : Gathers 0 reads bytes) :
    reads = [] ∧ bytes = [] := by
  cases gathered with
  | none => exact ⟨rfl, rfl⟩
  | interrupted _ incomplete _ => exact absurd incomplete (Nat.not_lt_zero _)
  | stored _ incomplete _ _ => exact absurd incomplete (Nat.not_lt_zero _)

def Exchange.ofFileRead (read : FileRead) : Exchange :=
  .fileRead read.1 read.2

theorem Gathers.served_eq
    {want : Nat}
    {reads : List FileRead}
    {bytes : List UInt8}
    (gathered : Gathers want reads bytes) :
    served (reads.map Exchange.ofFileRead) = bytes := by
  induction gathered with
  | none => rfl
  | interrupted _ _ _ inductionHypothesis =>
      rw [List.map_append, served_append, inductionHypothesis]
      exact List.append_nil _
  | @stored _ _ more _ _ _ _ inductionHypothesis =>
      rw [List.map_append, served_append, inductionHypothesis]
      simp [served, Exchange.ofFileRead, Exchange.served]

/-! ## Deliveries -/

/-- What is done for one packet: the reads that gather its chunk, the frame around the chunk,
and the answer of the port to every copy of the frame. -/
structure Delivery where
  reads : List FileRead
  chunk : List UInt8
  frame : List UInt8
  replies : List (Except Fault (List UInt8))

/-- One attempt: a frame goes out, and a reply is waited for. -/
def attempt
    (settings : Settings)
    (frame : List UInt8)
    (reply : Except Fault (List UInt8)) :
    List Exchange :=
  [.write frame (.ok ()), .receive Wire.replyLength settings.replyTimeout reply]

namespace Delivery

def attempts (settings : Settings) (delivery : Delivery) : List Exchange :=
  delivery.replies.flatMap (attempt settings delivery.frame)

def exchanges (settings : Settings) (delivery : Delivery) : List Exchange :=
  delivery.reads.map Exchange.ofFileRead ++ delivery.attempts settings

/-- The copies of the frame that the attempts put on the line. -/
def copies (delivery : Delivery) : List (List UInt8) :=
  List.replicate delivery.replies.length delivery.frame

def retransmits (delivery : Delivery) : Nat :=
  delivery.replies.length - 1

def answered (delivery : Delivery) (reply : Except Fault (List UInt8)) : Delivery :=
  { delivery with replies := delivery.replies ++ [reply] }

/-- The chunk of a delivery is gathered and framed as the packet of the given index. -/
structure Framed (settings : Settings) (total index : Nat) (delivery : Delivery) : Prop where
  gathered : Gathers (pieceLength settings total index) delivery.reads delivery.chunk
  whole : delivery.chunk.length = pieceLength settings total index
  nonempty : delivery.chunk ≠ []
  encoded :
    Packet.encode settings.mode delivery.chunk (sequenceAt index) = .ok delivery.frame

/-- The replies so far do not acknowledge the packet of the given index. -/
structure Unanswered (index : Nat) (delivery : Delivery) : Prop where
  forgiven : ∀ reply ∈ delivery.replies, Forgiven reply
  refused : ∀ reply ∈ delivery.replies, acknowledges (sequenceAt index) reply = false

/-- A delivery is settled: among at most as many attempts as are allowed, the last, and only
the last, is acknowledged. -/
structure Settled (settings : Settings) (total index : Nat) (delivery : Delivery) : Prop where
  framed : delivery.Framed settings total index
  attempted : 1 ≤ delivery.replies.length
  allowed : delivery.replies.length ≤ settings.retryLimit.toNat
  forgiven : ∀ reply ∈ delivery.replies, Forgiven reply
  acknowledged : ∃ refused last, delivery.replies = refused ++ [last] ∧
    (∀ reply ∈ refused, acknowledges (sequenceAt index) reply = false) ∧
      acknowledges (sequenceAt index) last = true

theorem forall_answered
    {motive : Except Fault (List UInt8) → Prop}
    {delivery : Delivery}
    {reply : Except Fault (List UInt8)}
    (earlier : ∀ other ∈ delivery.replies, motive other)
    (last : motive reply) :
    ∀ other ∈ (delivery.answered reply).replies, motive other := by
  intro other member
  rcases List.mem_append.1 member with before | now
  · exact earlier other before
  · rw [List.mem_singleton.1 now]
    exact last

theorem Framed.answered
    {settings : Settings}
    {total index : Nat}
    {delivery : Delivery}
    (framed : delivery.Framed settings total index)
    (reply : Except Fault (List UInt8)) :
    (delivery.answered reply).Framed settings total index :=
  ⟨framed.gathered, framed.whole, framed.nonempty, framed.encoded⟩

/-- An acknowledgement settles a delivery that has an attempt left. -/
theorem Unanswered.settled_answered
    {settings : Settings}
    {total index : Nat}
    {delivery : Delivery}
    {reply : Except Fault (List UInt8)}
    (unanswered : delivery.Unanswered index)
    (framed : delivery.Framed settings total index)
    (left : delivery.replies.length < settings.retryLimit.toNat)
    (forgiven : Forgiven reply)
    (good : acknowledges (sequenceAt index) reply = true) :
    (delivery.answered reply).Settled settings total index := by
  have length : (delivery.answered reply).replies.length = delivery.replies.length + 1 := by
    rw [answered, List.length_append]
    rfl
  refine ⟨framed.answered reply, ?_, ?_, forall_answered unanswered.forgiven forgiven,
    ⟨delivery.replies, reply, rfl, unanswered.refused, good⟩⟩
  · omega
  · omega

theorem Framed.index_mul_lt
    {settings : Settings}
    {total index : Nat}
    {delivery : Delivery}
    (framed : delivery.Framed settings total index) :
    index * settings.chunkLimit < total := by
  have positive := List.length_pos_iff.2 framed.nonempty
  rw [framed.whole, pieceLength] at positive
  omega

theorem exchanges_answered
    (settings : Settings)
    (delivery : Delivery)
    (reply : Except Fault (List UInt8)) :
    (delivery.answered reply).exchanges settings =
      delivery.exchanges settings ++ attempt settings delivery.frame reply := by
  simp [exchanges, attempts, answered]

end Delivery

/-! ## Parts of a list of exchanges -/

/-- Whether a call is one on the line. -/
def Exchange.onLine : Exchange → Bool
  | .write .. => true
  | .receive .. => true
  | _ => false

/-- The calls on the line, in order. -/
def traffic (exchanges : List Exchange) : List Exchange :=
  exchanges.filter Exchange.onLine

def Exchange.written? : Exchange → Option (List UInt8)
  | .write bytes (.ok ()) => some bytes
  | _ => none

/-- What was written successfully, write after write. -/
def written (exchanges : List Exchange) : List (List UInt8) :=
  exchanges.filterMap Exchange.written?

@[simp]
theorem traffic_append (left right : List Exchange) :
    traffic (left ++ right) = traffic left ++ traffic right := by
  simp [traffic]

@[simp]
theorem written_append (left right : List Exchange) :
    written (left ++ right) = written left ++ written right := by
  simp [written]

private theorem traffic_reads (reads : List FileRead) :
    traffic (reads.map Exchange.ofFileRead) = [] := by
  rw [traffic, List.filter_eq_nil_iff]
  intro exchange member
  obtain ⟨read, _, rfl⟩ := List.mem_map.1 member
  simp [Exchange.ofFileRead, Exchange.onLine]

theorem written_reads (reads : List FileRead) :
    written (reads.map Exchange.ofFileRead) = [] := by
  simp [written, List.filterMap_map, Function.comp_def, Exchange.ofFileRead, Exchange.written?]

namespace Delivery

variable (settings : Settings) (delivery : Delivery)

private theorem served_attempts : served (delivery.attempts settings) = [] := by
  rw [attempts]
  induction delivery.replies with
  | nil => rfl
  | cons reply replies inductionHypothesis =>
      rw [List.flatMap_cons, served_append, inductionHypothesis]
      rfl

private theorem traffic_attempts :
    traffic (delivery.attempts settings) = delivery.attempts settings := by
  rw [traffic, List.filter_eq_self]
  intro exchange member
  obtain ⟨reply, _, among⟩ := List.mem_flatMap.1 member
  simp only [attempt, List.mem_cons, List.not_mem_nil, or_false] at among
  rcases among with rfl | rfl <;> rfl

private theorem written_attempts : written (delivery.attempts settings) = delivery.copies := by
  rw [attempts, copies]
  induction delivery.replies with
  | nil => rfl
  | cons reply replies inductionHypothesis =>
      rw [List.flatMap_cons, written_append, inductionHypothesis]
      rfl

theorem traffic_exchanges :
    traffic (delivery.exchanges settings) = delivery.attempts settings := by
  rw [exchanges, traffic_append, traffic_reads, traffic_attempts, List.nil_append]

theorem written_exchanges : written (delivery.exchanges settings) = delivery.copies := by
  rw [exchanges, written_append, written_reads, written_attempts, List.nil_append]

variable {settings delivery}

theorem Framed.served_exchanges
    {total index : Nat}
    (framed : delivery.Framed settings total index) :
    served (delivery.exchanges settings) = delivery.chunk := by
  rw [exchanges, served_append, framed.gathered.served_eq, served_attempts, List.append_nil]

/-- A chunk that is not empty takes at least one read. -/
theorem Framed.reads_ne_nil
    {total index : Nat}
    (framed : delivery.Framed settings total index) :
    delivery.reads ≠ [] := by
  intro none
  have gathered := framed.gathered.served_eq
  rw [none] at gathered
  exact framed.nonempty gathered.symm

end Delivery

/-! ## Deliveries one after another -/

/-- What holds of each delivery with its index, and of one more with the next index, holds with that
one at the end. -/
theorem forall_index_concat
    {motive : Nat → Delivery → Prop}
    {deliveries : List Delivery}
    {last : Delivery}
    (earlier : ∀ index (delivery : Delivery), deliveries[index]? = some delivery →
      motive index delivery)
    (next : motive deliveries.length last) :
    ∀ index (delivery : Delivery), (deliveries ++ [last])[index]? = some delivery →
      motive index delivery := by
  intro index delivery found
  rw [List.getElem?_append] at found
  split at found
  · exact earlier index delivery found
  · rw [List.getElem?_singleton, Option.ite_none_right_eq_some, Option.some.injEq] at found
    obtain ⟨final, rfl⟩ := found
    have same : index = deliveries.length := by
      omega
    rw [same]
    exact next

end KermitSend

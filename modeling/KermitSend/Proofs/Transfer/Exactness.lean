import KermitSend.Proofs.Transfer.Ledger
import KermitSend.Scripted.Port

/-!
Contract: a completed transfer has sent exactly the file.

Owns:
- a content cut into consecutive pieces, and how many pieces there are;
- what it means that a transfer sent exactly the first bytes of a content;
- the law that every completed transfer did.

Does not own: what a receiver makes of the frames, and transfers that stop short.
-/

set_option autoImplicit false

namespace KermitSend

variable {φ π : Type}

/-! ## Pieces of a content -/

/-- A content cut into consecutive pieces of `limit` bytes, the last possibly shorter. -/
def pieces (limit : Nat) (content : List UInt8) : List (List UInt8) :=
  if limit = 0 ∨ content = [] then []
  else content.take limit :: pieces limit (content.drop limit)
termination_by content.length
decreasing_by
  rename_i more
  have present : content.length ≠ 0 := fun empty => more (.inr (List.length_eq_zero_iff.1 empty))
  rw [List.length_drop]
  omega

private theorem pieces_nil (limit : Nat) : pieces limit [] = [] := by
  rw [pieces, if_pos (.inr rfl)]

theorem pieces_of_ne_nil
    {limit : Nat}
    {content : List UInt8}
    (positive : 0 < limit)
    (nonempty : content ≠ []) :
    pieces limit content = content.take limit :: pieces limit (content.drop limit) := by
  rw [pieces, if_neg]
  rintro (zero | empty)
  · omega
  · exact nonempty empty

/-- Something to cut takes one piece more than what is left behind its first. -/
theorem ceil_div_of_ne_zero
    {limit size : Nat}
    (positive : 0 < limit)
    (something : size ≠ 0) :
    (size + limit - 1) / limit = (size - limit + limit - 1) / limit + 1 := by
  by_cases short : size ≤ limit
  · have one : (size + limit - 1) / limit = 1 :=
      Nat.div_eq_of_lt_le (by omega) (by omega)
    rw [one, Nat.div_eq_of_lt (by omega)]
  · rw [← Nat.add_div_right _ positive]
    congr 1
    omega

theorem length_pieces
    {limit : Nat}
    (positive : 0 < limit)
    (content : List UInt8) :
    (pieces limit content).length = (content.length + limit - 1) / limit := by
  fun_induction pieces limit content with
  | case1 content exhausted =>
      have empty : content = [] := exhausted.resolve_left (by omega)
      rw [empty, List.length_nil, List.length_nil, Nat.div_eq_of_lt (by omega)]
  | case2 content more inductionHypothesis =>
      have present : content.length ≠ 0 := fun empty =>
        more (.inr (List.length_eq_zero_iff.1 empty))
      rw [List.length_cons, inductionHypothesis, List.length_drop,
        ceil_div_of_ne_zero positive present]

/-- Chunks that are as long as the pieces of their whole are those pieces. -/
theorem eq_pieces
    {limit : Nat}
    (positive : 0 < limit)
    (chunks : List (List UInt8))
    (nonempty : ∀ chunk ∈ chunks, chunk ≠ [])
    (lengths : ∀ index (chunk : List UInt8), chunks[index]? = some chunk →
      chunk.length = min (chunks.flatten.length - index * limit) limit) :
    chunks = pieces limit chunks.flatten := by
  induction chunks with
  | nil => rw [List.flatten_nil, pieces_nil]
  | cons chunk chunks inductionHypothesis =>
      have first : chunk.length = min (chunk.length + chunks.flatten.length) limit := by
        have length := lengths 0 chunk rfl
        rwa [Nat.zero_mul, Nat.sub_zero, List.flatten_cons, List.length_append] at length
      have present : chunk ++ chunks.flatten ≠ [] := by
        intro empty
        exact nonempty chunk List.mem_cons_self (List.append_eq_nil_iff.1 empty).1
      rw [List.flatten_cons, pieces_of_ne_nil positive present]
      -- only the last chunk can be below the limit
      by_cases full : chunk.length = limit
      · rw [← full, List.take_left, List.drop_left, full]
        congr 1
        apply inductionHypothesis
        · intro other member
          exact nonempty other (List.mem_cons_of_mem chunk member)
        · intro index other found
          have length := lengths (index + 1) other found
          rw [List.flatten_cons, List.length_append, Nat.succ_mul] at length
          rw [length]
          omega
      · have nothing : chunks.flatten = [] := by
          rw [← List.length_eq_zero_iff]
          omega
        have last : chunks = [] := by
          rw [List.eq_nil_iff_forall_not_mem]
          intro other member
          have empty := List.flatten_eq_nil_iff.1 nothing other member
          exact nonempty other (List.mem_cons_of_mem chunk member) empty
        rw [last, List.flatten_nil, List.append_nil, List.take_of_length_le (by omega),
          List.drop_of_length_le (by omega), pieces_nil]

/-! ## What the books say at the end -/

section Books

variable
  {settings : Settings}
  {session : Session}
  {settled : List Delivery}

/-- The settled chunks are the pieces of what they add up to. -/
theorem Books.chunks_eq_pieces
    (books : Books settings session settled)
    (positive : 0 < settings.chunkLimit) :
    settled.map Delivery.chunk =
      pieces settings.chunkLimit (settled.flatMap Delivery.chunk) := by
  rw [List.flatMap_def]
  apply eq_pieces positive
  · intro chunk member
    obtain ⟨delivery, among, rfl⟩ := List.mem_map.1 member
    obtain ⟨index, found⟩ := List.getElem?_of_mem among
    exact (books.entries index delivery found).framed.nonempty
  · intro index chunk found
    rw [List.getElem?_map, Option.map_eq_some_iff] at found
    obtain ⟨delivery, found, rfl⟩ := found
    obtain ⟨inside, _⟩ := List.getElem?_eq_some_iff.1 found
    have covered : (index + 1) * settings.chunkLimit ≤ settled.length * settings.chunkLimit :=
      Nat.mul_le_mul_right _ inside
    have carried := books.carried
    rw [books.bytesSent, List.flatMap_def] at carried
    rw [(books.entries index delivery found).framed.whole, carried, pieceLength]
    rw [Nat.succ_mul] at covered
    omega

theorem Books.bytesSent_eq_total
    (books : Books settings session settled)
    (nothing : session.remaining = 0) :
    session.bytesSent = session.total := by
  have bytesSent := books.bytesSent
  have remaining := books.remaining
  omega

/-- With nothing left to send, there is one settled delivery for each piece of the file. -/
theorem Books.length_eq
    (books : Books settings session settled)
    (positive : 0 < settings.chunkLimit)
    (nothing : session.remaining = 0) :
    settled.length = (session.total + settings.chunkLimit - 1) / settings.chunkLimit := by
  rw [← List.length_map Delivery.chunk, books.chunks_eq_pieces positive, length_pieces positive,
    books.carried, books.bytesSent_eq_total nothing]

end Books

/-! ## Completed transfers -/

/-- The exchanges of a completed transfer and its report say that the first `total` bytes of a
content, and nothing else, went across: piece after piece, each acknowledged by the reply to the
last copy of its frame, and then the end of the transfer. -/
structure SentExactly
    (settings : Settings)
    (content : List UInt8)
    (total : Nat)
    (settled : List Delivery)
    (exchanges : List Exchange)
    (report : Report) : Prop where
  enough : total ≤ content.length
  cut : settled.map Delivery.chunk = pieces settings.chunkLimit (content.take total)
  count : settled.length = (total + settings.chunkLimit - 1) / settings.chunkLimit
  entries : ∀ index (delivery : Delivery), settled[index]? = some delivery →
    delivery.Settled settings total index
  traffic : traffic exchanges =
    settled.flatMap (Delivery.attempts settings) ++ [.write [Wire.endOfTransfer] (.ok ())]
  written : written exchanges = settled.flatMap Delivery.copies ++ [[Wire.endOfTransfer]]
  report : report =
    { bytesSent := total
      packets := settled.length
      retransmits := (settled.map Delivery.retransmits).sum }

theorem size_of_send
    (settings : Settings)
    (accepted : settings.validate = .ok ())
    (file : FileSource φ)
    (port : SerialPort π)
    (devices : Devices φ π) :
    [.size (file.size devices.file).1] <+: (send settings file port devices).exchanges := by
  have course := Machine.course_of_run settings file port Machine.initial
    (Machine.initial_progressing settings) devices
  have asked : (Machine.initial.call settings file port devices).exchanges =
      [.size (file.size devices.file).1] := by
    simp [Machine.call, Machine.act, Machine.initial, Machine.opening, accepted, Action.perform]
  rw [← asked]
  exact course.call_prefix

/-- The size that the exchanges begin with is the one that the file announced. -/
theorem size_eq_total
    {settings : Settings}
    (accepted : settings.validate = .ok ())
    {file : FileSource φ}
    {port : SerialPort π}
    {devices : Devices φ π}
    {total : Nat}
    {settled : List Delivery}
    {later : List Exchange}
    (split : (send settings file port devices).exchanges =
      settledExchanges settings total settled ++ later) :
    (file.size devices.file).1 = .ok total := by
  have asked := size_of_send settings accepted file port devices
  rw [split, settledExchanges, List.cons_append, List.prefix_cons_iff] at asked
  simpa using asked

/-- The books are closed: nothing remains, and after the last delivery the transfer has only been
ended and the file closed. -/
structure Closed
    (settings : Settings)
    (session : Session)
    (settled : List Delivery)
    (exchanges : List Exchange) : Prop where
  accepted : settings.validate = .ok ()
  books : Books settings session settled
  nothing : session.remaining = 0
  fresh : session.retries = 0
  split : ∃ answer, exchanges = settledExchanges settings session.total settled ++
    [.write [Wire.endOfTransfer] (.ok ()), .close answer]

namespace Closed

variable
  {settings : Settings}
  {session : Session}
  {settled : List Delivery}
  {exchanges : List Exchange}

private theorem traffic_eq (closed : Closed settings session settled exchanges) :
    traffic exchanges =
      settled.flatMap (Delivery.attempts settings) ++ [.write [Wire.endOfTransfer] (.ok ())] := by
  obtain ⟨answer, split⟩ := closed.split
  rw [split, traffic_append, traffic_settledExchanges]
  rfl

theorem written_eq (closed : Closed settings session settled exchanges) :
    written exchanges = settled.flatMap Delivery.copies ++ [[Wire.endOfTransfer]] := by
  obtain ⟨answer, split⟩ := closed.split
  rw [split, written_append, written_settledExchanges]
  rfl

/-- The settled chunks are the announced bytes of a content that was served in order. -/
theorem chunks_eq_take
    {content : List UInt8}
    (closed : Closed settings session settled exchanges)
    (inOrder : served exchanges <+: content) :
    session.total ≤ content.length ∧
      settled.flatMap Delivery.chunk = content.take session.total := by
  obtain ⟨answer, split⟩ := closed.split
  have nothingMore : served [.write [Wire.endOfTransfer] (.ok ()), .close answer] = [] := rfl
  rw [split, served_append, closed.books.served_settledExchanges, nothingMore,
    List.append_nil] at inOrder
  have whole := closed.books.bytesSent_eq_total closed.nothing
  have long := inOrder.length_le
  have front := List.prefix_iff_eq_take.1 inOrder
  rw [closed.books.carried, whole] at long front
  exact ⟨long, front⟩

theorem report_eq (closed : Closed settings session settled exchanges) :
    session.report =
      { bytesSent := session.total
        packets := settled.length
        retransmits := (settled.map Delivery.retransmits).sum } := by
  have whole := closed.books.bytesSent_eq_total closed.nothing
  rw [Session.report, whole, closed.books.packets, closed.books.retransmits, closed.fresh]
  rfl

end Closed

/-- A completed transfer reports from closed books. -/
theorem closed_of_completed
    {settings : Settings}
    {file : FileSource φ}
    {port : SerialPort π}
    {devices : Devices φ π}
    {report : Report}
    (completed : (send settings file port devices).ending = .completed report) :
    ∃ session settled, session.report = report ∧
      Closed settings session settled (send settings file port devices).exchanges := by
  obtain ⟨history, machine, final, conversation, stops, split⟩ :=
    exists_conversation_of_send settings file port devices
  rw [completed] at stops
  cases stops with
  | @closed answer phase =>
      have started : machine.phase ≠ .idle := by
        rw [phase]
        decide
      obtain ⟨settled, pending, accepted, books, standing, rfl⟩ :=
        conversation.recorded.elim started
      unfold Standing at standing
      rw [phase] at standing
      obtain ⟨nothing, fresh, rfl⟩ := standing
      rw [List.append_assoc] at split
      exact ⟨machine.session, settled, rfl, accepted, books, nothing, fresh, answer, split⟩

/-- A completed transfer has sent exactly the bytes that the file announced. -/
theorem sentExactly_of_completed
    {file : FileSource φ}
    {rest : φ → List UInt8}
    (serves : file.Serves rest)
    {settings : Settings}
    {port : SerialPort π}
    {devices : Devices φ π}
    {report : Report}
    (completed : (send settings file port devices).ending = .completed report) :
    ∃ total settled, (file.size devices.file).1 = .ok total ∧
      SentExactly settings (rest devices.file) total settled
        (send settings file port devices).exchanges report := by
  obtain ⟨session, settled, rfl, closed⟩ := closed_of_completed completed
  obtain ⟨answer, split⟩ := closed.split
  have announced := size_eq_total closed.accepted split
  have inOrder := served_send_prefix serves settings port devices
  obtain ⟨enough, front⟩ := closed.chunks_eq_take inOrder
  have positive := ((Settings.validate_eq_ok_iff settings).1 closed.accepted).1
  have cut : settled.map Delivery.chunk =
      pieces settings.chunkLimit ((rest devices.file).take session.total) := by
    rw [← front]
    exact closed.books.chunks_eq_pieces positive
  refine ⟨session.total, settled, announced, ?_⟩
  exact
    { enough := enough
      cut := cut
      count := closed.books.length_eq positive closed.nothing
      entries := closed.books.entries
      traffic := closed.traffic_eq
      written := closed.written_eq
      report := closed.report_eq }

def Settings.inPairs : Settings :=
  { mode := .small, chunkLimit := 2, retryLimit := 4, replyDelay := 0, replyTimeout := 10 }

/-- A file of three bytes that serves one byte, is interrupted, and then serves the rest. -/
def Scripted.File.threeBytes : Scripted.File :=
  { size := .ok 3
    data := [1, 2, 3]
    turns := [.atMost 1, .fault { kind := .interrupted, message := "signal" }]
    closing := .ok () }

/-- A receiver that refuses the first copy it gets and accepts everything after it. -/
def Scripted.Port.refusesOnce : Scripted.Port :=
  { writes := 0
    writeFaults := []
    arrived := 0
    leftover := []
    responses := [.answer Wire.refuseKind]
    afterwards := some (.answer Wire.acceptKind) }

theorem threeBytes_sentExactly :
    (send .inPairs Scripted.File.device Scripted.Port.device
      ⟨.threeBytes, .refusesOnce⟩).ending = .completed ⟨3, 2, 1⟩ ∧
    ∃ total settled,
      (Scripted.File.device.size .threeBytes).1 = .ok total ∧
        SentExactly .inPairs [1, 2, 3] total settled
          (send .inPairs Scripted.File.device Scripted.Port.device
            ⟨.threeBytes, .refusesOnce⟩).exchanges ⟨3, 2, 1⟩ := by
  have followed : (Machine.initial.follow .inPairs Scripted.File.device Scripted.Port.device
      40 ⟨.threeBytes, .refusesOnce⟩).map Prod.snd = some (.completed ⟨3, 2, 1⟩) := by
    decide
  have completed := ending_of_follow followed
  exact ⟨completed, sentExactly_of_completed Scripted.File.serves completed⟩

end KermitSend

import KermitSend.Proofs.Transfer.FrameContent
import KermitSend.Proofs.Transfer.Supply

/-!
Contract: how a file splits its reads does not show.

Owns:
- the state that a state becomes when the rest of its chunk is read;
- states that a supplying source feeds, and what a read does in them;
- two transfers that stand at the same place but for how much of a chunk they have read;
- the law that a transfer has the same traffic and the same end whatever the splitting, as with a
  file that serves all there is room for.

Does not own: which bytes the frames carry, and which sources supply a content.
-/

set_option autoImplicit false

namespace KermitSend

variable {φ ψ π : Type}

/-! ## The chunk read to its end -/

namespace Machine

/-- The state that a state becomes when the rest of its chunk is read from the front of what is
unread. -/
def whole (settings : Settings) (unread : List UInt8) (machine : Machine) : Machine :=
  match machine.phase with
  | .chunking filled =>
      let bytes := unread.take (machine.room settings)
      { machine with
        phase := .chunking (filled + bytes.length)
        buffer := overwrite machine.buffer filled bytes }
  | _ => machine

section Whole

variable
  {settings : Settings}
  {machine : Machine}
  {filled : Nat}

private theorem room_of_chunking (phase : machine.phase = .chunking filled) :
    machine.room settings = machine.wanted settings - filled := by
  rw [room, phase]

private theorem exists_chunking (reading : 0 < machine.room settings) :
    ∃ filled, machine.phase = .chunking filled ∧ filled < machine.wanted settings := by
  unfold room at reading
  split at reading
  · exact ⟨_, ‹_›, by omega⟩
  · exact absurd reading (Nat.lt_irrefl 0)

/-- With no byte missing, the chunk is whole. -/
theorem whole_of_complete
    (complete : machine.room settings = 0)
    (unread : List UInt8) :
    machine.whole settings unread = machine := by
  unfold whole
  split
  · rename_i filled phase
    simp only [complete, List.take_zero, overwrite_nil, List.length_nil, Nat.add_zero, ← phase]
  · rfl

/-- The bytes that a read has brought are those that the rest of the chunk begins with. -/
theorem whole_stored
    {bytes : List UInt8}
    (phase : machine.phase = .chunking filled)
    (fits : bytes.length ≤ machine.wanted settings - filled)
    (inside : filled + bytes.length ≤ machine.buffer.length)
    (unread : List UInt8) :
    whole settings unread
        { machine with
          phase := .chunking (filled + bytes.length)
          buffer := overwrite machine.buffer filled bytes } =
      machine.whole settings (bytes ++ unread) := by
  have split : (bytes ++ unread).take (machine.wanted settings - filled) =
      bytes ++ unread.take (machine.wanted settings - filled - bytes.length) := by
    rw [List.take_append, List.take_of_length_le fits]
  simp only [whole, phase, room, wanted] at split ⊢
  rw [split, overwrite_overwrite inside, List.length_append, Nat.add_assoc, Nat.sub_add_eq]

/-- The call of a state that lacks bytes asks the file for them. -/
theorem act_of_reading
    (phase : machine.phase = .chunking filled)
    (incomplete : filled < machine.wanted settings) :
    machine.act settings = .fileRead (machine.room settings) (machine.absorb filled) := by
  have something : machine.session.remaining ≠ 0 := by
    simp only [wanted] at incomplete
    omega
  simp only [act, phase, chunking, something, incomplete, if_true, if_false, room]

/-- A read leads towards the same whole, with less of the chunk missing. -/
theorem Moves.whole_eq
    {next : Machine}
    {exchanges : List Exchange}
    (move : machine.Moves settings exchanges next)
    (reading : 0 < machine.room settings)
    (size : machine.buffer.length = settings.chunkLimit)
    (unread : List UInt8) :
    next.whole settings unread = machine.whole settings (served exchanges ++ unread) ∧
      unread.drop (next.room settings) =
        (served exchanges ++ unread).drop (machine.room settings) := by
  obtain ⟨filled, phase, incomplete⟩ := exists_chunking reading
  cases move with
  | interrupted _ _ _ => exact ⟨rfl, rfl⟩
  | @stored _ bytes stored _ _ fits =>
      obtain rfl : filled = _ := Phase.chunking.inj (phase.symm.trans stored)
      have inside : filled + bytes.length ≤ machine.buffer.length := by
        simp only [wanted] at fits incomplete
        omega
      have brought : ∀ room, served [.fileRead room (.ok bytes)] = bytes :=
        fun _ => List.append_nil bytes
      have missing : room settings
          { machine with
            phase := .chunking (filled + bytes.length)
            buffer := overwrite machine.buffer filled bytes } =
          machine.wanted settings - filled - bytes.length :=
        Nat.sub_add_eq ..
      rw [brought, missing, room_of_chunking phase, List.drop_append, List.drop_of_length_le fits]
      exact ⟨whole_stored phase fits inside unread, rfl⟩
  | finished _ nothing =>
      simp only [wanted] at incomplete
      omega
  | framed framed _ complete _ =>
      obtain rfl : filled = _ := Phase.chunking.inj (phase.symm.trans framed)
      omega
  | _ => simp_all

end Whole

/-! ## States that a source feeds -/

/-- What a transfer has come to with a source that supplies at least the announced size. -/
structure Fed
    (settings : Settings)
    (supply : Supply φ)
    (content : List UInt8)
    (total : Nat)
    (machine : Machine)
    (state : φ) : Prop where
  enough : total ≤ content.length
  ready : supply.ready state
  said : ∃ history,
    Conversation settings history machine ∧ content = served history ++ supply.rest state
  announced : machine.phase = .idle → (supply.file.size state).1 = .ok total
  counted : machine.phase ≠ .idle → machine.session.total = total

section Feeding

variable
  {settings : Settings}
  {supply : Supply φ}
  {port : SerialPort π}
  {content : List UInt8}
  {total : Nat}
  {machine next : Machine}
  {devices : Devices φ π}

private theorem Fed.begun
    (supply : Supply φ)
    {state : φ}
    (enough : total ≤ content.length)
    (ready : supply.ready state)
    (given : supply.rest state = content)
    (announced : (supply.file.size state).1 = .ok total) :
    initial.Fed settings supply content total state where
  enough := enough
  ready := ready
  said := ⟨[], .begun, given.symm⟩
  announced := fun _ => announced
  counted := fun started => absurd rfl started

/-- The call that asks for the size goes on with the one that is announced. -/
theorem exchanges_of_idle
    {file : FileSource φ}
    (idle : machine.phase = .idle)
    (announced : (file.size devices.file).1 = .ok total)
    (goes : (machine.call settings file port devices).turn.next.onward? = some next) :
    (machine.call settings file port devices).exchanges = [.size (.ok total)] := by
  cases accepted : settings.validate with
  | error fault =>
      simp only [call, act, idle, opening, accepted, Action.perform, Turn.fail, Next.onward?]
        at goes
      cases goes
  | ok => simp only [call, act, idle, opening, accepted, Action.perform, announced]

/-- A call that goes on keeps a state fed. -/
theorem Fed.continued
    (fed : machine.Fed settings supply content total devices.file)
    (goes : (machine.call settings supply.file port devices).turn.next.onward? = some next) :
    next.Fed settings supply content total
      (machine.call settings supply.file port devices).devices.file := by
  have move := moves_of_call goes
  obtain ⟨history, conversation, split⟩ := fed.said
  constructor
  case enough => exact fed.enough
  case ready =>
    exact supply.supplies.ready_perform port fed.ready _ move.keeps_reading.1
  case said =>
    refine ⟨_, conversation.continued move, ?_⟩
    rw [split, rest_eq_of_onward supply.supplies.serves goes, served_append, List.append_assoc]
  case announced => exact fun idle => absurd idle move.phase_ne_idle
  case counted =>
    intro _
    by_cases idle : machine.phase = .idle
    · rw [exchanges_of_idle idle (fed.announced idle) goes] at move
      exact move.total_of_size
    · rw [move.total_eq idle, fed.counted idle]

/-- There is always enough left for the chunk that is being read. -/
theorem Fed.room_le
    {state : φ}
    (fed : machine.Fed settings supply content total state) :
    machine.room settings ≤ (supply.rest state).length := by
  by_cases reading : 0 < machine.room settings
  · obtain ⟨filled, phase, -⟩ := exists_chunking reading
    obtain ⟨history, conversation, split⟩ := fed.said
    have enough := fed.enough
    have counted := fed.counted (by simp [phase])
    have missing := conversation.missing_eq phase
    rw [split, List.length_append] at enough
    rw [bytesBefore, counted] at missing
    rw [room_of_chunking phase]
    omega
  · omega

/-- A state that lacks bytes does not stop the transfer: the source still has them. -/
theorem Fed.complete_of_stop
    (fed : machine.Fed settings supply content total devices.file)
    {ending : Ending}
    (stops : (machine.call settings supply.file port devices).turn.next = .stop ending) :
    machine.room settings = 0 := by
  by_contra lacking
  have reading := Nat.pos_of_ne_zero lacking
  have present : supply.rest devices.file ≠ [] := by
    have left := fed.room_le
    exact List.ne_nil_of_length_pos (by omega)
  have brings := supply.supplies.brings devices.file _ fed.ready reading present
  obtain ⟨filled, phase, incomplete⟩ := exists_chunking reading
  simp only [call, act_of_reading phase incomplete, Action.perform] at stops
  generalize (supply.file.read devices.file (machine.room settings)).1 = answer at brings stops
  cases answer with
  | error fault =>
      simp only [absorb, show fault.kind = .interrupted from brings, if_true, reduceCtorEq] at stops
  | ok bytes =>
      cases bytes with
      | nil => exact brings rfl
      | cons byte bytes => simp only [absorb, reduceCtorEq] at stops

end Feeding

/-! ## Two sources -/

/-- Two transfers that stand at the same place, but for how much of a chunk they have read: reading
it to its end they come to the same state, with the same left unread. -/
structure Matched
    (settings : Settings)
    (left : Supply φ)
    (right : Supply ψ)
    (content : List UInt8)
    (total : Nat)
    (machine : Machine)
    (devices : Devices φ π)
    (otherMachine : Machine)
    (otherDevices : Devices ψ π) : Prop where
  fed : machine.Fed settings left content total devices.file
  otherFed : otherMachine.Fed settings right content total otherDevices.file
  whole : machine.whole settings (left.rest devices.file) =
    otherMachine.whole settings (right.rest otherDevices.file)
  unread : (left.rest devices.file).drop (machine.room settings) =
    (right.rest otherDevices.file).drop (otherMachine.room settings)
  line : devices.port = otherDevices.port

section Sources

variable
  {settings : Settings}
  {left : Supply φ}
  {right : Supply ψ}
  {port : SerialPort π}
  {content : List UInt8}
  {total : Nat}
  {machine otherMachine next : Machine}
  {devices : Devices φ π}
  {otherDevices : Devices ψ π}

theorem Matched.symm
    (matched : Matched settings left right content total machine devices otherMachine
      otherDevices) :
    Matched settings right left content total otherMachine otherDevices machine devices :=
  ⟨matched.otherFed, matched.fed, matched.whole.symm, matched.unread.symm, matched.line.symm⟩

/-- Where no byte is missing on either side, the states are the same. -/
theorem Matched.eq_of_complete
    (matched : Matched settings left right content total machine devices otherMachine
      otherDevices)
    (complete : machine.room settings = 0)
    (otherComplete : otherMachine.room settings = 0) :
    machine = otherMachine ∧ left.rest devices.file = right.rest otherDevices.file := by
  have whole := matched.whole
  have unread := matched.unread
  rw [whole_of_complete complete, whole_of_complete otherComplete] at whole
  rw [complete, otherComplete] at unread
  exact ⟨whole, unread⟩

/-- A read on one side keeps the two matched, without a word on the line. -/
theorem Matched.read
    (matched : Matched settings left right content total machine devices otherMachine
      otherDevices)
    (reading : 0 < machine.room settings)
    (goes : (machine.call settings left.file port devices).turn.next.onward? = some next) :
    Matched settings left right content total next
        (machine.call settings left.file port devices).devices otherMachine otherDevices ∧
      traffic (machine.call settings left.file port devices).exchanges = [] := by
  have move := moves_of_call goes
  obtain ⟨filled, phase, incomplete⟩ := exists_chunking reading
  obtain ⟨history, conversation, -⟩ := matched.fed.said
  have size := conversation.length_buffer (by simp [phase])
  obtain ⟨whole, unread⟩ := move.whole_eq reading size
    (left.rest (machine.call settings left.file port devices).devices.file)
  rw [← rest_eq_of_onward left.supplies.serves goes] at whole unread
  constructor
  · exact
      { fed := matched.fed.continued goes
        otherFed := matched.otherFed
        whole := whole.trans matched.whole
        unread := unread.trans matched.unread
        line := by
          rw [← matched.line]
          simp only [call, act_of_reading phase incomplete, Action.perform] }
  · simp only [call, act_of_reading phase incomplete, Action.perform]
    rfl

/-- One side can always be followed, silently, to where no byte is missing. -/
theorem Matched.exists_complete
    {otherExchanges : List Exchange}
    {otherEnding : Ending}
    (other : Course settings right.file port otherMachine otherDevices otherExchanges otherEnding)
    (matched : Matched settings left right content total machine devices otherMachine
      otherDevices) :
    ∃ reached now later, reached.room settings = 0 ∧
      Course settings right.file port reached now later otherEnding ∧
        traffic otherExchanges = traffic later ∧
          Matched settings left right content total machine devices reached now := by
  induction other with
  | @last otherMachine otherDevices otherEnding stops =>
      have complete := matched.otherFed.complete_of_stop stops
      exact ⟨otherMachine, otherDevices, _, complete, .last stops, rfl, matched⟩
  | @more otherMachine otherDevices next otherExchanges otherEnding goes rest =>
      rename_i inductionHypothesis
      by_cases reading : 0 < otherMachine.room settings
      · obtain ⟨later, silent⟩ := matched.symm.read reading goes
        rw [traffic_append, silent, List.nil_append]
        exact inductionHypothesis later.symm
      · have complete : otherMachine.room settings = 0 := by
          omega
        exact ⟨otherMachine, otherDevices, _, complete, .more goes rest, rfl, matched⟩

/-- Where no byte is missing, a call depends on the file only through the size that it announces. -/
theorem call_of_complete
    (matched : Matched settings left right content total machine devices machine otherDevices)
    (complete : machine.room settings = 0)
    (port : SerialPort π) :
    (machine.call settings left.file port devices).turn.next =
        (machine.call settings right.file port otherDevices).turn.next ∧
      traffic (machine.call settings left.file port devices).exchanges =
          traffic (machine.call settings right.file port otherDevices).exchanges ∧
        served (machine.call settings left.file port devices).exchanges =
            served (machine.call settings right.file port otherDevices).exchanges ∧
          (machine.call settings left.file port devices).devices.port =
            (machine.call settings right.file port otherDevices).devices.port := by
  have asks := machine.asks_act settings
  have line := matched.line
  cases acts : machine.act settings with
  | askSize react =>
      rw [acts] at asks
      simp only [call, acts, Action.perform, matched.fed.announced asks,
        matched.otherFed.announced asks, line, and_self]
  | fileRead room react =>
      rw [acts] at asks
      obtain ⟨filled, phase, incomplete, -⟩ := asks
      rw [room_of_chunking phase] at complete
      omega
  | write bytes react => simp only [call, acts, Action.perform, line, and_self]
  | receive delay timeout react => simp only [call, acts, Action.perform, line, and_self]
  | close react =>
      rw [acts] at asks
      refine ⟨(next_of_closing asks).trans (next_of_closing asks).symm, ?_⟩
      simp only [call, acts, Action.perform, line]
      exact ⟨rfl, rfl, trivial⟩
  | settle turn => simp only [call, acts, Action.perform, line, and_self]

/-- Matched transfers have the same traffic and the same end. -/
theorem Course.same_of_matched
    {exchanges otherExchanges : List Exchange}
    {ending otherEnding : Ending}
    (course : Course settings left.file port machine devices exchanges ending)
    (other : Course settings right.file port otherMachine otherDevices otherExchanges otherEnding)
    (matched : Matched settings left right content total machine devices otherMachine
      otherDevices) :
    traffic exchanges = traffic otherExchanges ∧ ending = otherEnding := by
  induction course generalizing otherMachine otherDevices otherExchanges with
  | @last machine devices ending stops =>
      have complete := matched.fed.complete_of_stop stops
      obtain ⟨reached, now, later, otherComplete, taken, same, met⟩ :=
        matched.exists_complete other
      obtain ⟨rfl, -⟩ := met.eq_of_complete complete otherComplete
      obtain ⟨onward, calls, -, -⟩ := call_of_complete met complete port
      obtain ⟨rfl, rfl⟩ := taken.of_stop (onward.symm.trans stops)
      exact ⟨calls.trans same.symm, rfl⟩
  | @more machine devices next exchanges ending goes rest inductionHypothesis =>
      by_cases reading : 0 < machine.room settings
      · -- the other course waits while this one reads on
        obtain ⟨later, silent⟩ := matched.read reading goes
        rw [traffic_append, silent, List.nil_append]
        exact inductionHypothesis other later
      · have complete : machine.room settings = 0 := by
          omega
        obtain ⟨reached, now, later, otherComplete, taken, same, met⟩ :=
          matched.exists_complete other
        obtain ⟨rfl, unread⟩ := met.eq_of_complete complete otherComplete
        obtain ⟨onward, calls, brought, line⟩ := call_of_complete met complete port
        have otherGoes := goes
        rw [onward] at otherGoes
        obtain ⟨otherLater, rfl, otherRest⟩ := taken.of_onward otherGoes
        rw [rest_eq_of_onward left.supplies.serves goes,
          rest_eq_of_onward right.supplies.serves otherGoes, brought] at unread
        have kept := List.append_cancel_left unread
        obtain ⟨sameLater, sameEnding⟩ := inductionHypothesis otherRest
          ⟨met.fed.continued goes, met.otherFed.continued otherGoes, by rw [kept], by rw [kept],
            line⟩
        rw [same, traffic_append, traffic_append, calls, sameLater]
        exact ⟨rfl, sameEnding⟩

end Sources

end Machine

/-! ## Whole transfers -/

section Send

variable
  {file : FileSource φ}
  {otherFile : FileSource ψ}
  {state : φ}
  {otherState : ψ}
  {total : Nat}
  {content : List UInt8}

private theorem same_of_handsOut
    (enough : total ≤ content.length)
    (handsOut : file.HandsOut state total content)
    (otherHandsOut : otherFile.HandsOut otherState total content)
    (settings : Settings)
    (port : SerialPort π)
    (line : π) :
    traffic (send settings file port ⟨state, line⟩).exchanges =
        traffic (send settings otherFile port ⟨otherState, line⟩).exchanges ∧
      (send settings file port ⟨state, line⟩).ending =
        (send settings otherFile port ⟨otherState, line⟩).ending := by
  obtain ⟨left, rfl, ready, given⟩ := handsOut.supplied
  obtain ⟨right, rfl, otherReady, otherGiven⟩ := otherHandsOut.supplied
  have progressing := Machine.initial_progressing settings
  have course := Machine.course_of_run settings left.file port Machine.initial progressing
    ⟨state, line⟩
  have other := Machine.course_of_run settings right.file port Machine.initial progressing
    ⟨otherState, line⟩
  have matched : Machine.Matched settings left right content total Machine.initial
      ⟨state, line⟩ Machine.initial ⟨otherState, line⟩ :=
    { fed := .begun left enough ready given handsOut.announced
      otherFed := .begun right enough otherReady otherGiven otherHandsOut.announced
      whole := rfl
      unread := by rw [given, otherGiven]
      line := rfl }
  exact course.same_of_matched other matched

/-- However two sources split what they serve of a content, a transfer has the same traffic and the
same end on both, as with a file that serves all that there is room for.  Its frames carry the
pieces of the content and nothing else, and it asks for nothing beyond the announced size. -/
theorem send_of_handsOut
    (enough : total ≤ content.length)
    (handsOut : file.HandsOut state total content)
    (otherHandsOut : otherFile.HandsOut otherState total content)
    (settings : Settings)
    (port : SerialPort π)
    (line : π) :
    (traffic (send settings file port ⟨state, line⟩).exchanges =
          traffic (send settings otherFile port ⟨otherState, line⟩).exchanges ∧
        (send settings file port ⟨state, line⟩).ending =
          (send settings otherFile port ⟨otherState, line⟩).ending) ∧
      (traffic (send settings file port ⟨state, line⟩).exchanges =
          traffic (send settings Scripted.File.device port
            ⟨.plain total content, line⟩).exchanges ∧
        (send settings file port ⟨state, line⟩).ending =
          (send settings Scripted.File.device port ⟨.plain total content, line⟩).ending) ∧
      StaysWithin settings content total (send settings file port ⟨state, line⟩).exchanges := by
  refine ⟨?_, ?_, ?_⟩
  · exact same_of_handsOut enough handsOut otherHandsOut settings port line
  · exact same_of_handsOut enough handsOut (Scripted.File.plain_handsOut total content) settings
      port line
  · obtain ⟨supply, rfl, -, rfl⟩ := handsOut.supplied
    exact staysWithin_send supply.supplies.serves settings port ⟨state, line⟩ handsOut.announced

end Send

/-- The same three bytes, one at a time and with interruptions. -/
def Scripted.File.hesitant : Scripted.File :=
  { Scripted.File.threeBytes with
    turns :=
      [.fault { kind := .interrupted, message := "signal" }, .atMost 1,
        .fault { kind := .interrupted, message := "signal" }, .atMost 1] }

theorem send_hesitant :
    Scripted.File.device.HandsOut .threeBytes 3 [1, 2, 3] ∧
    Scripted.File.device.HandsOut .hesitant 3 [1, 2, 3] ∧
    traffic (send .inPairs Scripted.File.device Scripted.Port.device
        ⟨.hesitant, .refusesOnce⟩).exchanges =
      traffic (send .inPairs Scripted.File.device Scripted.Port.device
        ⟨.plain 3 [1, 2, 3], .refusesOnce⟩).exchanges ∧
    (send .inPairs Scripted.File.device Scripted.Port.device
      ⟨.hesitant, .refusesOnce⟩).ending = .completed ⟨3, 2, 1⟩ := by
  have handsOut : Scripted.File.device.HandsOut .threeBytes 3 [1, 2, 3] :=
    Scripted.File.threeBytes.handsOut rfl (by decide)
  have hesitates : Scripted.File.device.HandsOut .hesitant 3 [1, 2, 3] :=
    Scripted.File.hesitant.handsOut rfl (by decide)
  have followed : (Machine.initial.follow .inPairs Scripted.File.device Scripted.Port.device
      40 ⟨.threeBytes, .refusesOnce⟩).map Prod.snd = some (.completed ⟨3, 2, 1⟩) := by
    decide
  obtain ⟨⟨-, ending⟩, ⟨calls, -⟩, -⟩ := send_of_handsOut (by decide) hesitates handsOut .inPairs
    Scripted.Port.device .refusesOnce
  exact ⟨handsOut, hesitates, calls, ending.trans (ending_of_follow followed)⟩

end KermitSend

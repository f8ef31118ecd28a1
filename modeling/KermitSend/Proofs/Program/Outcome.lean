import Mathlib.Algebra.Ring.Nat
import KermitSend.Proofs.Program.Preparation
import KermitSend.Proofs.Transfer.Boundaries
import KermitSend.Proofs.Transfer.RetryBudget

/-!
Contract: what a run of the program comes to.

Owns:
- the data packets among what a transfer wrote, and their number in a completed transfer;
- every way in which the program can end;
- the law that the exit status is zero when everything went well and one in every other case;
- what the program says of a regular file that it has sent.

Does not own: how the transfer comes to its end.
-/

set_option autoImplicit false

namespace KermitSend

variable {φ π : Type}

/-! ## Data packets on the line -/

/-- What was written and reads as a data packet. -/
def dataFrames (exchanges : List Exchange) : List (List UInt8) :=
  (written exchanges).filter fun bytes => (Packet.parse bytes).isOk

section Frames

variable
  {settings : Settings}
  {session : Session}
  {settled : List Delivery}
  {exchanges : List Exchange}

private theorem Framing.isOk_parse
    {frame : List UInt8}
    (framing : Framing settings frame) :
    (Packet.parse frame).isOk = true := by
  obtain ⟨chunk, sequence, encoded⟩ := framing
  rw [Packet.parse_of_encode encoded]
  rfl

private theorem length_flatMap_copies
    (attempted : ∀ delivery ∈ settled, 1 ≤ delivery.replies.length) :
    (settled.flatMap Delivery.copies).length =
      settled.length + (settled.map Delivery.retransmits).sum := by
  induction settled with
  | nil => rfl
  | cons delivery settled inductionHypothesis =>
      have first := attempted delivery List.mem_cons_self
      have rest := inductionHypothesis fun other member =>
        attempted other (List.mem_cons_of_mem delivery member)
      rw [List.flatMap_cons, List.length_append, rest, Delivery.copies, List.length_replicate,
        List.map_cons, List.sum_cons, Delivery.retransmits, List.length_cons]
      omega

/-- The data packets on the line are the copies of settled packets. -/
theorem Closed.dataFrames_eq (closed : Closed settings session settled exchanges) :
    dataFrames exchanges = settled.flatMap Delivery.copies := by
  have packets : (settled.flatMap Delivery.copies).filter
      (fun bytes => (Packet.parse bytes).isOk) = settled.flatMap Delivery.copies := by
    rw [List.filter_eq_self]
    intro frame member
    exact (closed.books.framing_copies frame member).isOk_parse
  have farewell : [[Wire.endOfTransfer]].filter (fun bytes => (Packet.parse bytes).isOk) = [] := by
    decide
  rw [dataFrames, closed.written_eq, List.filter_append, packets, farewell, List.append_nil]

private theorem Closed.length_dataFrames (closed : Closed settings session settled exchanges) :
    (dataFrames exchanges).length =
      settled.length + (settled.map Delivery.retransmits).sum := by
  rw [closed.dataFrames_eq]
  apply length_flatMap_copies
  intro delivery member
  exact (closed.books.attempts member).1

end Frames

namespace Program

open CommandLine (Options)
open Storage (LocalFile PathError)

/-! ## Ways to end -/

/-- Every way in which the program can end, with all that it leaves behind and prints. -/
inductive Ends (surroundings : Surroundings π) (options : Options) : Outcome π → Prop where
  | refused {words later}
      (found : complaints surroundings.files options = words :: later) :
      Ends surroundings options
        { status := 1
          output := ""
          errors := "Error: " ++ words ++ "\n"
          port := none
          transfer := none }
  | unopened {line file reason}
      (prepared : Prepared surroundings.files options line file)
      (closed : surroundings.openPort options.port line = .error reason) :
      Ends surroundings options
        { status := 1
          output := openingText options.port line
          errors := "Failed to open serial port: " ++ reason.description ++ "\n"
          port := none
          transfer := none }
  | failed {line file port error}
      (prepared : Prepared surroundings.files options line file)
      (opened : surroundings.openPort options.port line = .ok port)
      (ending : (surroundings.transfer options file port).ending = .failed error) :
      Ends surroundings options
        { status := 1
          output := openingText options.port line ++ sendingText options.file
          errors := "Data transmit failed: " ++ error.message ++ "\n"
            ++ if error.advisesRestart then
                "The target is left mid-transfer; restart loadb before retrying\n"
              else ""
          port := some (surroundings.transfer options file port).devices.port
          transfer := some (surroundings.transfer options file port) }
  | completed {line file port report}
      (prepared : Prepared surroundings.files options line file)
      (opened : surroundings.openPort options.port line = .ok port)
      (ending : (surroundings.transfer options file port).ending = .completed report) :
      Ends surroundings options
        { status := 0
          output := openingText options.port line ++ sendingText options.file
            ++ ("\nFile Download completed: " ++ toString report.bytesSent ++ " bytes in "
              ++ toString report.packets ++ " packets (" ++ toString report.retransmits
              ++ " retransmits)\n")
          errors := ""
          port := some (surroundings.transfer options file port).devices.port
          transfer := some (surroundings.transfer options file port) }

section Ends

variable
  {surroundings : Surroundings π}
  {options : Options}
  {line : Line.Settings}
  {file : LocalFile}

private theorem completionText_eq (report : Report) :
    completionText report =
      "\nFile Download completed: " ++ toString report.bytesSent ++ " bytes in "
        ++ toString report.packets ++ " packets (" ++ toString report.retransmits
        ++ " retransmits)\n" := by
  have joined : " packets (" = " packets " ++ "(" := rfl
  unfold completionText
  rw [joined]
  simp only [String.append_assoc]
  rfl

private theorem Prepared.ends_run (prepared : Prepared surroundings.files options line file) :
    Ends surroundings options (run surroundings options) := by
  cases opened : surroundings.openPort options.port line with
  | error reason =>
      rw [prepared.run_of_unopened opened]
      exact .unopened prepared opened
  | ok port =>
      cases ending : (surroundings.transfer options file port).ending with
      | completed report =>
          have concluded : conclude (surroundings.transfer options file port).ending =
              (completionText report, "", 0) := by
            rw [ending]
            rfl
          rw [prepared.run_of_opened opened concluded, completionText_eq]
          exact .completed prepared opened ending
      | failed error =>
          have concluded : conclude (surroundings.transfer options file port).ending =
              ("", failureReport error, 1) := by
            rw [ending]
            rfl
          rw [prepared.run_of_opened opened concluded, String.append_empty]
          exact .failed prepared opened ending

theorem ends_run (surroundings : Surroundings π) (options : Options) :
    Ends surroundings options (run surroundings options) := by
  cases found : complaints surroundings.files options with
  | nil =>
      obtain ⟨line, file, prepared⟩ := complaints_eq_nil_iff.1 found
      exact prepared.ends_run
  | cons words later =>
      rw [run_of_complaint found]
      exact .refused found

end Ends

/-! ## Exit status -/

section Status

variable
  (surroundings : Surroundings π)
  (options : Options)

theorem status_eq_zero_or_one :
    (run surroundings options).status = 0 ∨ (run surroundings options).status = 1 := by
  have ends := ends_run surroundings options
  generalize run surroundings options = outcome at ends
  cases ends with
  | refused found => exact .inr rfl
  | unopened prepared closed => exact .inr rfl
  | failed prepared opened ending => exact .inr rfl
  | completed prepared opened ending => exact .inl rfl

theorem status_eq_zero_iff :
    (run surroundings options).status = 0 ↔
      ∃ line file port report, Prepared surroundings.files options line file ∧
        surroundings.openPort options.port line = .ok port ∧
          (surroundings.transfer options file port).ending = .completed report := by
  have ends := ends_run surroundings options
  generalize run surroundings options = outcome at ends
  constructor
  · intro zero
    cases ends with
    | completed prepared opened ending => exact ⟨_, _, _, _, prepared, opened, ending⟩
    | _ => cases zero
  · rintro ⟨line, file, port, report, prepared, opened, ending⟩
    cases ends with
    | refused found =>
        rw [complaints_eq_nil_iff.2 ⟨line, file, prepared⟩] at found
        cases found
    | unopened other closed =>
        obtain ⟨rfl, rfl⟩ := prepared.unique other
        rw [opened] at closed
        cases closed
    | failed other otherOpened failed =>
        obtain ⟨rfl, rfl⟩ := prepared.unique other
        rw [opened, Except.ok.injEq] at otherOpened
        subst otherOpened
        rw [ending] at failed
        cases failed
    | completed _ _ _ => rfl

end Status

/-! ## Regular files -/

section Regular

variable
  {surroundings : Surroundings π}
  {options : Options}
  {content : List UInt8}

private theorem Prepared.size_of_regular
    {line : Line.Settings}
    {file : LocalFile}
    (prepared : Prepared surroundings.files options line file)
    (regular : surroundings.files.resolve options.file = .ok (.file content)) :
    (LocalFile.device.size file).1 = .ok content.length := by
  have opened := prepared.opened
  rw [LocalFile.openPath, regular, Except.ok.injEq] at opened
  rw [← opened]
  rfl

/-- What a completed transfer of a regular file reports: all bytes of the file, in as many packets
as it takes, and the data packets on the line beyond these. -/
theorem Prepared.report_of_regular
    {line : Line.Settings}
    {file : LocalFile}
    {port : π}
    {report : Report}
    (prepared : Prepared surroundings.files options line file)
    (regular : surroundings.files.resolve options.file = .ok (.file content))
    (ending : (surroundings.transfer options file port).ending = .completed report) :
    report.bytesSent = content.length ∧
      report.packets = (content.length + options.settings.chunkLimit - 1) /
        options.settings.chunkLimit ∧
      (dataFrames (surroundings.transfer options file port).exchanges).length =
        report.packets + report.retransmits := by
  obtain ⟨session, settled, rfl, closed⟩ := closed_of_completed ending
  have positive := ((Settings.validate_eq_ok_iff _).1 prepared.accepted).1
  have total : session.total = content.length := by
    have announced := size_eq_total closed.accepted closed.split.choose_spec
    rw [prepared.size_of_regular regular, Except.ok.injEq] at announced
    exact announced.symm
  have count := closed.books.length_eq positive closed.nothing
  rw [total] at count
  have frames := closed.length_dataFrames
  rw [closed.report_eq]
  exact ⟨total, count, frames⟩

end Regular

/-- The program ends in one of four ways.  It exits with status zero exactly when every check
passes, the port opens and the transfer completes, and with status one in every other case.  When
a check fails the program reports the first one that does, whatever its port would have done, and
nothing else; and after sending a regular file it says how long the file is, in how many packets it
went, and how many more were on the line. -/
theorem run_outcome (surroundings : Surroundings π) (options : Options) :
    Ends surroundings options (run surroundings options) ∧
    ((run surroundings options).status = 0 ↔
      ∃ line file port report, Prepared surroundings.files options line file ∧
        surroundings.openPort options.port line = .ok port ∧
          (surroundings.transfer options file port).ending = .completed report) ∧
    ((run surroundings options).status ≠ 0 → (run surroundings options).status = 1) ∧
    (complaints surroundings.files options = [] ↔
      ∃ line file, Prepared surroundings.files options line file) ∧
    (∀ words later, complaints surroundings.files options = words :: later →
      run surroundings options =
        { status := 1
          output := ""
          errors := "Error: " ++ words ++ "\n"
          port := none
          transfer := none } ∧
        ∀ others : Surroundings π, others.files = surroundings.files →
          run others options = run surroundings options) ∧
    ∀ content, surroundings.files.resolve options.file = .ok (.file content) →
      (run surroundings options).status = 0 →
        ∃ line file transfer packets retransmits,
          Prepared surroundings.files options line file ∧
          (run surroundings options).transfer = some transfer ∧
          (run surroundings options).errors = "" ∧
          (run surroundings options).output =
            "Opening serial port: " ++ options.port ++ "\nSettings: " ++ line.describe ++ "\n"
              ++ ("\nSending file: " ++ options.file ++ "\n")
              ++ ("\nFile Download completed: " ++ toString content.length ++ " bytes in "
                ++ toString packets ++ " packets (" ++ toString retransmits
                ++ " retransmits)\n") ∧
          packets = (content.length + options.chunkSize.getD options.mode.limit - 1) /
            options.chunkSize.getD options.mode.limit ∧
          (dataFrames transfer.exchanges).length = packets + retransmits := by
  refine ⟨ends_run surroundings options, status_eq_zero_iff surroundings options, ?_,
    complaints_eq_nil_iff, ?_, ?_⟩
  · intro nonzero
    exact (status_eq_zero_or_one surroundings options).resolve_left nonzero
  · intro words later found
    have refused := run_of_complaint found
    refine ⟨refused, ?_⟩
    intro others same
    rw [← same] at found
    rw [refused, run_of_complaint found]
  · intro content regular zero
    have ends := ends_run surroundings options
    generalize run surroundings options = outcome at ends zero
    cases ends with
    | @completed line file port report prepared opened ending =>
        obtain ⟨bytesSent, packets, frames⟩ := prepared.report_of_regular regular ending
        refine ⟨line, file, _, report.packets, report.retransmits, prepared, rfl, rfl, ?_, packets,
          frames⟩
        rw [← bytesSent]
        rfl
    | _ => cases zero

/-- A directory with a file of three bytes in it, and a receiver that refuses one packet. -/
def Surroundings.threeBytes : Surroundings Scripted.Port :=
  { files := { working := .directory 0 [("f", .file [1, 2, 3])], ancestors := [] }
    openPort := fun _ _ => .ok .refusesOnce
    port := Scripted.Port.device }

/-- Options that send a file two bytes at a time. -/
def twoAtATime (file : String) (dataBits stopBits : Nat) : Options :=
  { port := "p"
    file
    delay := 0
    baud := 115200
    dataBits
    parity := "none"
    stopBits
    timeout := 10
    largePackets := false
    chunkSize := some 2
    debug := false }

/-- Two of three checks that fail go unmentioned; with none that fails, three data packets bring two
chunks across. -/
theorem run_outcome_threeBytes :
    (∃ later, complaints Surroundings.threeBytes.files (twoAtATime "g" 9 3) =
      "Invalid data bits: 9. Must be 5, 6, 7, or 8" :: later) ∧
    run .threeBytes (twoAtATime "g" 9 3) =
      { status := 1
        output := ""
        errors := "Error: Invalid data bits: 9. Must be 5, 6, 7, or 8\n"
        port := none
        transfer := none } ∧
    (run .threeBytes (twoAtATime "f" 8 1)).status = 0 ∧
    (run .threeBytes (twoAtATime "f" 8 1)).output =
      "Opening serial port: p\nSettings: 115200 baud, Eight, None, One\n"
        ++ "\nSending file: f\n"
        ++ "\nFile Download completed: 3 bytes in 2 packets (1 retransmits)\n" := by
  have lowered : "none".map Char.toLower = "none" := by
    decide +kernel
  have parity : Line.Parity.ofWord "none" = .ok .none := by
    rw [Line.Parity.ofWord, lowered]
    rfl
  have names : "f".splitOn "/" = ["f"] := by
    unfold String.splitOn
    rw [if_neg (by decide), String.splitOnAux, if_neg (by decide), if_neg (by decide),
      String.splitOnAux, if_pos (by decide)]
    decide +kernel
  have clean : "f".contains '\x00' = false := by
    rw [String.contains_char_eq]
    decide
  have relative : "f".startsWith "/" = false := by
    simp
  have regular : Surroundings.threeBytes.files.resolve "f" = .ok (.file [1, 2, 3]) := by
    rw [Storage.FileTree.resolve, names, clean, relative]
    rfl
  have found : complaints Surroundings.threeBytes.files (twoAtATime "g" 9 3) =
      "Invalid data bits: 9. Must be 5, 6, 7, or 8" ::
        complaints Surroundings.threeBytes.files (twoAtATime "g" 8 3) := by
    rfl
  have prepared : Prepared Surroundings.threeBytes.files (twoAtATime "f" 8 1)
      ⟨115200, .eight, .none, .one⟩ (.ofEntry (.file [1, 2, 3])) := by
    refine ⟨rfl, rfl, parity, rfl, by decide, ?_⟩
    simp only [LocalFile.openPath, twoAtATime, regular]
  have followed : (Machine.initial.follow (twoAtATime "f" 8 1).settings LocalFile.device
      Scripted.Port.device 40 ⟨.ofEntry (.file [1, 2, 3]), .refusesOnce⟩).map
        (fun result => ((dataFrames result.1).length, result.2)) =
      some (3, .completed ⟨3, 2, 1⟩) := by
    decide
  obtain ⟨result, stopped, read⟩ := Option.map_eq_some_iff.1 followed
  obtain ⟨exchanges, ending⟩ := send_of_follow stopped
  rw [Prod.mk.injEq, ← exchanges, ← ending] at read
  obtain ⟨three, completed⟩ := read
  have zero := (run_outcome .threeBytes (twoAtATime "f" 8 1)).2.1.2
    ⟨_, _, _, _, prepared, rfl, completed⟩
  obtain ⟨line, file, transfer, packets, retransmits, again, begun, -, shown, count, frames⟩ :=
    (run_outcome .threeBytes (twoAtATime "f" 8 1)).2.2.2.2.2 _ regular zero
  obtain ⟨rfl, rfl⟩ := prepared.unique again
  rw [prepared.run_of_opened rfl (congrArg conclude completed), Option.some.injEq] at begun
  have two : packets = 2 := count
  have one : retransmits = 1 := by
    rw [← begun, two] at frames
    have all := three.symm.trans frames
    omega
  rw [two, one] at shown
  exact ⟨⟨_, found⟩, ((run_outcome .threeBytes (twoAtATime "g" 9 3)).2.2.2.2.1 _ _ found).1, zero,
    shown⟩

end Program

end KermitSend

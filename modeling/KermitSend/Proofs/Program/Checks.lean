import KermitSend.Program

/-!
Contract: the checks that the program makes before it touches the port, in words.

Owns:
- what each check has to complain of on its own, spelled out from the options and the files, and
  all complaints in the order of the checks;
- the words of every fault that a check can stop with;
- the law that checks made one after the other, and so all of them, stop at the first complaint.

Does not own: what the program prints of a complaint.
-/

set_option autoImplicit false

namespace KermitSend.Program

open CommandLine (Options)
open Storage (FileTree LocalFile PathError)

/-! ## Checks in words -/

section Checks

variable {ε ω α β : Type}

/-- What a check has to complain of. -/
def complaint (passes : Prop) [Decidable passes] (words : String) : List String :=
  if passes then [] else [words]

/-- Checks made one after the other pass when there is no complaint, and otherwise fail with the
first, whose words are those of the fault. -/
def StopsAtFirst
    (wording : ε → String)
    (complaints : List String)
    (result : Except ε α) : Prop :=
  match result with
  | .ok _ => complaints = []
  | .error fault => ∃ later, complaints = wording fault :: later

section Complaints

variable
  {wording : ε → String}
  {complaints later : List String}

private theorem stopsAtFirst_of_passes
    {passes : Prop}
    [Decidable passes]
    {words : String}
    {value : α}
    (holds : passes) :
    StopsAtFirst wording (complaint passes words) (.ok value) :=
  if_pos holds

private theorem stopsAtFirst_of_fails
    {passes : Prop}
    [Decidable passes]
    {words : String}
    {fault : ε}
    (fails : ¬ passes)
    (worded : wording fault = words) :
    StopsAtFirst wording (complaint passes words) (.error fault : Except ε α) := by
  refine ⟨[], ?_⟩
  rw [complaint, if_neg fails, worded]

theorem StopsAtFirst.eq_nil_iff
    {result : Except ε α}
    (stops : StopsAtFirst wording complaints result) :
    complaints = [] ↔ ∃ value, result = .ok value := by
  cases result with
  | ok value => exact iff_of_true stops ⟨value, rfl⟩
  | error fault =>
      obtain ⟨later, rfl⟩ := stops
      simp

private theorem StopsAtFirst.bind
    {first : Except ε α}
    {next : α → Except ε β}
    (stops : StopsAtFirst wording complaints first)
    (onward : ∀ value, StopsAtFirst wording later (next value)) :
    StopsAtFirst wording (complaints ++ later) (first >>= next) := by
  cases first with
  | ok value =>
      obtain rfl : complaints = [] := stops
      exact onward value
  | error fault =>
      obtain ⟨others, rfl⟩ := stops
      exact ⟨others ++ later, rfl⟩

/-- A last step that cannot fail has nothing to complain of. -/
private theorem StopsAtFirst.bind_pure
    {first : Except ε α}
    {last : α → β}
    (stops : StopsAtFirst wording complaints first) :
    StopsAtFirst wording complaints (first >>= fun value => pure (last value)) := by
  rw [← List.append_nil complaints]
  exact stops.bind fun value => rfl

private theorem stopsAtFirst_ite
    {passes fails : Prop}
    [Decidable passes]
    [Decidable fails]
    {words : String}
    {fault : ε}
    {rest : Except ε α}
    (opposite : fails ↔ ¬ passes)
    (worded : wording fault = words)
    (stops : StopsAtFirst wording later rest) :
    StopsAtFirst wording (complaint passes words ++ later)
      (if fails then .error fault else rest) := by
  split
  · rename_i fails
    refine ⟨later, ?_⟩
    rw [complaint, if_neg (opposite.1 fails), worded]
    rfl
  · rename_i holds
    rw [opposite, Decidable.not_not] at holds
    rw [complaint, if_pos holds]
    exact stops

/-- A fault may be wrapped as long as its words stay the same. -/
private theorem StopsAtFirst.mapError
    {result : Except ε α}
    {wrap : ε → ω}
    {wrapped : ω → String}
    (stops : StopsAtFirst wording complaints result)
    (same : ∀ fault, wrapped (wrap fault) = wording fault) :
    StopsAtFirst wrapped complaints (result.mapError wrap) := by
  cases result with
  | ok value => exact stops
  | error fault =>
      obtain ⟨later, rfl⟩ := stops
      exact ⟨later, congrArg (· :: later) (same fault).symm⟩

end Complaints

end Checks

/-! ## Line settings -/

theorem stopsAtFirst_dataBits (given : Nat) :
    StopsAtFirst Line.SettingFault.message
      (complaint (given ∈ [5, 6, 7, 8])
        ("Invalid data bits: " ++ toString given ++ ". Must be 5, 6, 7, or 8"))
      (Line.DataBits.ofNumber given) := by
  unfold Line.DataBits.ofNumber
  split
  case h_5 =>
    exact stopsAtFirst_of_fails (by simp_all) rfl
  all_goals exact stopsAtFirst_of_passes (by decide)

theorem stopsAtFirst_parity (given : String) :
    StopsAtFirst Line.SettingFault.message
      (complaint (given.map Char.toLower ∈ ["none", "odd", "even"])
        ("Invalid parity: " ++ given ++ ". Must be 'none', 'odd', or 'even'"))
      (Line.Parity.ofWord given) := by
  unfold Line.Parity.ofWord
  generalize given.map Char.toLower = word
  by_cases accepted : word ∈ ["none", "odd", "even"]
  · simp only [List.mem_cons, List.not_mem_nil, or_false] at accepted
    obtain rfl | rfl | rfl := accepted
    all_goals exact stopsAtFirst_of_passes (by decide)
  · have others := accepted
    simp only [List.mem_cons, List.not_mem_nil, or_false, not_or] at others
    obtain ⟨notNone, notOdd, notEven⟩ := others
    simp only [if_neg notNone, if_neg notOdd, if_neg notEven]
    exact stopsAtFirst_of_fails accepted rfl

theorem stopsAtFirst_stopBits (given : Nat) :
    StopsAtFirst Line.SettingFault.message
      (complaint (given ∈ [1, 2])
        ("Invalid stop bits: " ++ toString given ++ ". Must be 1 or 2"))
      (Line.StopBits.ofNumber given) := by
  unfold Line.StopBits.ofNumber
  split
  case h_3 =>
    exact stopsAtFirst_of_fails (by simp_all) rfl
  all_goals exact stopsAtFirst_of_passes (by decide)

/-- What the checks of the line settings have to complain of. -/
def lineComplaints (options : Options) : List String :=
  complaint (options.dataBits ∈ [5, 6, 7, 8])
      ("Invalid data bits: " ++ toString options.dataBits ++ ". Must be 5, 6, 7, or 8")
    ++ (complaint (options.parity.map Char.toLower ∈ ["none", "odd", "even"])
        ("Invalid parity: " ++ options.parity ++ ". Must be 'none', 'odd', or 'even'")
      ++ complaint (options.stopBits ∈ [1, 2])
        ("Invalid stop bits: " ++ toString options.stopBits ++ ". Must be 1 or 2"))

private theorem stopsAtFirst_lineSettings (options : Options) :
    StopsAtFirst Line.SettingFault.message (lineComplaints options) options.lineSettings := by
  apply (stopsAtFirst_dataBits options.dataBits).bind
  intro dataBits
  apply (stopsAtFirst_parity options.parity).bind
  intro parity
  exact (stopsAtFirst_stopBits options.stopBits).bind_pure

/-- What the check of the transfer settings has to complain of. -/
def transferComplaints (options : Options) : List String :=
  let limit := if options.largePackets then 500 else 100
  let form := if options.largePackets then "Large" else "Small"
  let chunk := options.chunkSize.getD limit
  complaint (0 < chunk ∧ chunk ≤ limit)
      ("invalid configuration: chunk size " ++ toString chunk ++ " must be between 1 and "
        ++ toString limit ++ " for " ++ form ++ " packets")
    ++ complaint (0 < options.timeout) "invalid configuration: ack timeout must be non-zero"

theorem stopsAtFirst_validate (options : Options) :
    StopsAtFirst (fun fault => "invalid configuration: " ++ fault.message)
      (transferComplaints options) options.settings.validate := by
  have limit : options.mode.limit = if options.largePackets then 500 else 100 := by
    unfold Options.mode
    split <;> rfl
  have form : options.mode.name = if options.largePackets then "Large" else "Small" := by
    unfold Options.mode
    split <;> rfl
  have refused : options.settings.retryLimit ≠ 0 := by
    show (4 : UInt8) ≠ 0
    decide
  unfold transferComplaints Settings.validate
  rw [← limit, ← form, if_neg refused]
  apply stopsAtFirst_ite
  · show options.chunkSize.getD options.mode.limit = 0 ∨
      options.mode.limit < options.chunkSize.getD options.mode.limit ↔ _
    omega
  · show "invalid configuration: " ++ ("chunk size " ++ _ ++ _ ++ _ ++ _ ++ _ ++ _) = _
    simp only [String.append_assoc]
    rw [show "invalid configuration: chunk size " =
      "invalid configuration: " ++ "chunk size " from rfl, String.append_assoc]
    rfl
  · rw [← List.append_nil (complaint _ _)]
    apply stopsAtFirst_ite
    · show options.timeout = 0 ↔ _
      omega
    · rfl
    · rfl

private theorem stopsAtFirst_check (options : Options) :
    StopsAtFirst StartError.message (lineComplaints options ++ transferComplaints options)
      (check options) := by
  have split : check options =
      options.lineSettings.mapError StartError.line >>= fun line =>
        (options.settings.validate.mapError fun fault =>
          StartError.transfer (.invalidSettings fault)) >>= fun _ =>
            pure { line, transfer := options.settings } := by
    unfold check
    cases options.lineSettings with
    | error fault => rfl
    | ok line => cases options.settings.validate <;> rfl
  have line : StopsAtFirst StartError.message (lineComplaints options)
      (options.lineSettings.mapError StartError.line) :=
    (stopsAtFirst_lineSettings options).mapError fun _ => rfl
  have transfer : StopsAtFirst StartError.message (transferComplaints options)
      (options.settings.validate.mapError fun fault => .transfer (.invalidSettings fault)) :=
    (stopsAtFirst_validate options).mapError fun _ => rfl
  rw [split]
  exact line.bind fun settings => transfer.bind_pure

/-! ## The file -/

/-- What the system says of a path that does not open, with its number where it has one. -/
def pathWords : PathError → String
  | .noEntry => "No such file or directory (os error 2)"
  | .notDirectory => "Not a directory (os error 20)"
  | .isDirectory => "Is a directory (os error 21)"
  | .nameTooLong => "File name too long (os error 36)"
  | .notTerminal => "Not a typewriter (os error 25)"
  | .noDevice => "No such device or address (os error 6)"
  | .zeroCharacter => "file name contained an unexpected NUL byte"
  | .refused _ code description => description ++ " (os error " ++ toString code ++ ")"

private theorem message_fault (error : PathError) : error.fault.message = pathWords error := by
  cases error <;> rfl

/-- What the opening of a file has to complain of. -/
def fileComplaints (files : FileTree) (path : String) : List String :=
  match files.resolve path with
  | .ok _ => []
  | .error reason => ["failed to open " ++ path ++ ": " ++ pathWords reason]

theorem stopsAtFirst_openPath (files : FileTree) (path : String) :
    StopsAtFirst TransferError.message (fileComplaints files path)
      (LocalFile.openPath files path) := by
  unfold fileComplaints LocalFile.openPath
  cases files.resolve path with
  | ok entry => rfl
  | error reason =>
      have words := message_fault reason
      refine ⟨[], ?_⟩
      show ["failed to open " ++ path ++ ": " ++ pathWords reason] =
        ["failed to open " ++ path ++ ": " ++ reason.fault.message]
      rw [words]

/-! ## All checks -/

/-- What the checks have to complain of, each on its own and in its own words, in the order of the
checks: data bits, parity, stop bits, chunk size, reply timeout, file. -/
def complaints (files : FileTree) (options : Options) : List String :=
  lineComplaints options ++ transferComplaints options ++ fileComplaints files options.file

/-- All checks, made one after the other. -/
def prepare (files : FileTree) (options : Options) : Except StartError (Plan × LocalFile) := do
  let plan ← check options
  let file ← (LocalFile.openPath files options.file).mapError .transfer
  return (plan, file)

theorem stopsAtFirst_prepare (files : FileTree) (options : Options) :
    StopsAtFirst StartError.message (complaints files options) (prepare files options) := by
  apply (stopsAtFirst_check options).bind
  intro plan
  have opening : StopsAtFirst StartError.message (fileComplaints files options.file)
      ((LocalFile.openPath files options.file).mapError .transfer) :=
    (stopsAtFirst_openPath files options.file).mapError fun _ => rfl
  exact opening.bind_pure

end KermitSend.Program

import KermitSend.Proofs.Program.Checks

/-!
Contract: how the program begins.

Owns:
- command lines that no check complains of, and the one preparation that they lead to;
- the law that the program prints the first complaint, whatever its port would do, and does nothing
  else.

Does not own: the complaints, and what becomes of a program that is prepared.
-/

set_option autoImplicit false

namespace KermitSend.Program

open CommandLine (Options)
open Storage (FileTree LocalFile PathError)

variable {π : Type}

/-! ## Preparation -/

/-- Every check passes: the options amount to this line, and their file is open. -/
structure Prepared
    (files : FileTree)
    (options : Options)
    (line : Line.Settings)
    (file : LocalFile) : Prop where
  baud : line.baud = options.baud
  dataBits : Line.DataBits.ofNumber options.dataBits = .ok line.dataBits
  parity : Line.Parity.ofWord options.parity = .ok line.parity
  stopBits : Line.StopBits.ofNumber options.stopBits = .ok line.stopBits
  accepted : options.settings.validate = .ok ()
  opened : LocalFile.openPath files options.file = .ok file

section Prepared

variable
  {files : FileTree}
  {options : Options}
  {line otherLine : Line.Settings}
  {file otherFile : LocalFile}

private theorem Prepared.check_eq (prepared : Prepared files options line file) :
    check options = .ok { line, transfer := options.settings } := by
  have settings : options.lineSettings = .ok line := by
    simp only [Options.lineSettings, prepared.dataBits, prepared.parity, prepared.stopBits,
      ← prepared.baud]
    rfl
  simp only [check, settings, prepared.accepted]

private theorem Prepared.prepare_eq (prepared : Prepared files options line file) :
    prepare files options = .ok ({ line, transfer := options.settings }, file) := by
  rw [prepare, prepared.check_eq, prepared.opened]
  rfl

theorem Prepared.unique
    (prepared : Prepared files options line file)
    (other : Prepared files options otherLine otherFile) :
    otherLine = line ∧ otherFile = file := by
  have same := other.prepare_eq.symm.trans prepared.prepare_eq
  rw [Except.ok.injEq, Prod.mk.injEq, Plan.mk.injEq] at same
  exact ⟨same.1.1, same.2⟩

theorem complaints_eq_nil_iff :
    complaints files options = [] ↔ ∃ line file, Prepared files options line file := by
  have dataBits := (stopsAtFirst_dataBits options.dataBits).eq_nil_iff
  have parity := (stopsAtFirst_parity options.parity).eq_nil_iff
  have stopBits := (stopsAtFirst_stopBits options.stopBits).eq_nil_iff
  have settings := (stopsAtFirst_validate options).eq_nil_iff
  have opening := (stopsAtFirst_openPath files options.file).eq_nil_iff
  simp only [complaints, lineComplaints, List.append_eq_nil_iff, dataBits, parity, stopBits,
    settings, opening]
  constructor
  · rintro ⟨⟨⟨⟨bits, dataBits⟩, ⟨word, parity⟩, stops, stopBits⟩, ⟨⟩, accepted⟩, file, opened⟩
    exact ⟨⟨options.baud, bits, word, stops⟩, file, rfl, dataBits, parity, stopBits, accepted,
      opened⟩
  · rintro ⟨line, file, prepared⟩
    exact ⟨⟨⟨⟨_, prepared.dataBits⟩, ⟨_, prepared.parity⟩, _, prepared.stopBits⟩, _,
      prepared.accepted⟩, _, prepared.opened⟩

end Prepared

/-! ## From the first check to the transfer -/

/-- The transfer that the program begins on an open file and an open port. -/
def Surroundings.transfer
    (surroundings : Surroundings π)
    (options : Options)
    (file : LocalFile)
    (port : π) :
    Run LocalFile π :=
  send options.settings LocalFile.device surroundings.port { file, port }

section Run

variable
  {surroundings : Surroundings π}
  {options : Options}

private theorem system_openFile (path : String) :
    surroundings.system.openFile path = pure (LocalFile.openPath surroundings.files path) :=
  rfl

private theorem system_openPort (name : String) (line : Line.Settings) :
    surroundings.system.openPort name line =
      pure ((surroundings.openPort name line).mapError PathError.description) :=
  rfl

private theorem run_of_unprepared
    {error : StartError}
    (failed : prepare surroundings.files options = .error error) :
    run surroundings options =
      { status := 1
        output := ""
        errors := "Error: " ++ error.message ++ "\n"
        port := none
        transfer := none } := by
  have printed : "" ++ error.report = "Error: " ++ error.message ++ "\n" := String.empty_append
  unfold prepare at failed
  unfold run execute
  rw [← printed]
  cases checked : check options with
  | error fault =>
      rw [checked] at failed
      cases failed
      rfl
  | ok plan =>
      simp only [system_openFile, pure_bind]
      cases opened : LocalFile.openPath surroundings.files options.file with
      | error fault =>
          rw [checked, opened] at failed
          cases failed
          rfl
      | ok file =>
          rw [checked, opened] at failed
          cases failed

/-- The program stops with the first complaint. -/
theorem run_of_complaint
    {words : String}
    {later : List String}
    (found : complaints surroundings.files options = words :: later) :
    run surroundings options =
      { status := 1
        output := ""
        errors := "Error: " ++ words ++ "\n"
        port := none
        transfer := none } := by
  have stops := stopsAtFirst_prepare surroundings.files options
  rw [found] at stops
  cases failed : prepare surroundings.files options with
  | ok prepared =>
      rw [failed] at stops
      cases stops
  | error error =>
      rw [failed] at stops
      obtain ⟨others, first⟩ := stops
      rw [List.cons.injEq] at first
      rw [run_of_unprepared failed, first.1]

variable
  {line : Line.Settings}
  {file : LocalFile}

theorem Prepared.run_of_unopened
    {reason : PathError}
    (prepared : Prepared surroundings.files options line file)
    (failed : surroundings.openPort options.port line = .error reason) :
    run surroundings options =
      { status := 1
        output := openingText options.port line
        errors := portReport reason.description
        port := none
        transfer := none } := by
  unfold run execute
  simp only [prepared.check_eq, system_openFile, prepared.opened, system_openPort, failed,
    pure_bind]
  show ({
    status := 1
    output := "" ++ openingText options.port line
    errors := "" ++ portReport reason.description
    port := none
    transfer := none } : Outcome π) = _
  rw [String.empty_append, String.empty_append]

theorem Prepared.run_of_opened
    {port : π}
    {text errors : String}
    {status : UInt32}
    (prepared : Prepared surroundings.files options line file)
    (opened : surroundings.openPort options.port line = .ok port)
    (concluded : conclude (surroundings.transfer options file port).ending =
      (text, errors, status)) :
    run surroundings options =
      { status
        output := openingText options.port line ++ sendingText options.file ++ text
        errors
        port := some (surroundings.transfer options file port).devices.port
        transfer := some (surroundings.transfer options file port) } := by
  unfold run execute
  simp only [prepared.check_eq, system_openFile, prepared.opened, system_openPort, opened,
    pure_bind]
  show ({
    status := (conclude (surroundings.transfer options file port).ending).2.2
    output := "" ++ openingText options.port line ++ sendingText options.file
      ++ (conclude (surroundings.transfer options file port).ending).1
    errors := "" ++ (conclude (surroundings.transfer options file port).ending).2.1
    port := some (surroundings.transfer options file port).devices.port
    transfer := some (surroundings.transfer options file port) } : Outcome π) = _
  rw [concluded, String.empty_append, String.empty_append]

end Run

end KermitSend.Program

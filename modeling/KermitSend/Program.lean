import KermitSend.CommandLine.Parse
import KermitSend.Line.Port
import KermitSend.Storage.LocalFile
import KermitSend.Text.Lines
import KermitSend.Transfer.Run

/-!
Contract: the program as a whole, from a command line to an exit status.

Owns:
- the checks before the port is touched, in their order: data bits, parity, stop bits,
  transfer settings, file;
- the order of everything that the program calls for, whatever system answers;
- everything that is printed, notices apart, and on which of the two outputs;
- which lines of the error output report a failure;
- the exit status: zero for a finished transfer alone.

Does not own: the surroundings, which are a file tree, ports by name and what a port does.
-/

namespace KermitSend.Program

open CommandLine (Options)
open Storage (FileTree LocalFile PathError)

/-- What a command line amounts to once its settings are accepted. -/
structure Plan where
  line : Line.Settings
  transfer : Settings
deriving DecidableEq, Repr

/-- Why the program stops before it has a port. -/
inductive StartError where
  | line (fault : Line.SettingFault)
  | transfer (error : TransferError)
deriving DecidableEq, Repr

/-- The wording of a start error. -/
def StartError.message : StartError → String
  | .line fault => fault.message
  | .transfer error => error.message

/-- Check all settings of a command line. -/
def check (options : Options) : Except StartError Plan :=
  match options.lineSettings with
  | .error fault => .error (.line fault)
  | .ok line =>
      match options.settings.validate with
      | .error fault => .error (.transfer (.invalidSettings fault))
      | .ok () => .ok { line, transfer := options.settings }

/-- What is printed on the error output for a start error. -/
def StartError.report (error : StartError) : String :=
  "Error: " ++ error.message ++ "\n"

/-- What is printed before the port is opened. -/
def openingText (port : String) (line : Line.Settings) : String :=
  "Opening serial port: " ++ port ++ "\nSettings: " ++ line.describe ++ "\n"

/-- What is printed on the error output when the port does not open, for the reason in these
words. -/
def portReport (reason : String) : String :=
  "Failed to open serial port: " ++ reason ++ "\n"

/-- What is printed before the transfer. -/
def sendingText (file : String) : String :=
  "\nSending file: " ++ file ++ "\n"

/-- What is printed after a finished transfer. -/
def completionText (report : Report) : String :=
  s!"\nFile Download completed: {report.bytesSent} bytes in {report.packets} packets "
    ++ s!"({report.retransmits} retransmits)\n"

/-- What tells the user that the receiver still waits for packets. -/
def restartAdvice : String :=
  "The target is left mid-transfer; restart loadb before retrying\n"

/-- What is printed on the error output after a failed transfer. -/
def failureReport (error : TransferError) : String :=
  "Data transmit failed: " ++ error.message ++ "\n"
    ++ if error.advisesRestart then restartAdvice else ""

/-- What is printed at the end of a transfer, on either output, and the exit status. -/
def conclude : Ending → String × String × UInt32
  | .completed report => (completionText report, "", 0)
  | .failed error => ("", failureReport error, 1)

/-- What the program calls for from the system that it runs on, whatever effects a call has. -/
structure System (m : Type → Type) (φ π : Type) where
  print : String → m Unit
  /-- Print on the error output. -/
  printError : String → m Unit
  openFile : String → m (Except TransferError φ)
  /-- A port does not open for a reason in words. -/
  openPort : String → Line.Settings → m (Except String π)
  transfer : Settings → φ → π → m Ending

/-- The program on a command line that has been read.  It gives the exit status. -/
def execute
    {m : Type → Type}
    [Monad m]
    {φ π : Type}
    (system : System m φ π)
    (options : Options) :
    m UInt32 := do
  match check options with
  | .error error =>
      system.printError error.report
      return 1
  | .ok plan =>
      match ← system.openFile options.file with
      | .error error =>
          system.printError (StartError.transfer error).report
          return 1
      | .ok file =>
          system.print (openingText options.port plan.line)
          match ← system.openPort options.port plan.line with
          | .error reason =>
              system.printError (portReport reason)
              return 1
          | .ok port =>
              system.print (sendingText options.file)
              let ending ← system.transfer plan.transfer file port
              let (text, errors, status) := conclude ending
              system.print text
              system.printError errors
              return status

/-- What the program finds around it.  Opening a port by name gives the port in its first
state. -/
structure Surroundings (π : Type) where
  files : FileTree
  openPort : String → Line.Settings → Except PathError π
  port : SerialPort π

/-- What a run of the program leaves behind. -/
structure Outcome (π : Type) where
  status : UInt32
  output : String
  /-- The error output, without the notices of the transfer. -/
  errors : String
  /-- The port, if it was opened, as the program left it. -/
  port : Option π
  /-- The transfer, if one was begun. -/
  transfer : Option (Run LocalFile π)

variable {π : Type}

/-- The outcome before anything is done. -/
def Outcome.blank : Outcome π :=
  { status := 0, output := "", errors := "", port := none, transfer := none }

/-- How the lines that report a failure begin. -/
def reportOpenings : List String :=
  ["Error:", "Failed to open", "Data transmit failed", "The target is left"]

/-- Whether a line of the error output reports a failure, as far as its beginning tells. -/
def isReportLine (line : String) : Bool :=
  reportOpenings.any fun opening => opening.toList.isPrefixOf line.toList

/-- The lines of the error output that report a failure.  A report takes several lines when it
quotes a name that does. -/
def Outcome.reportLines (outcome : Outcome π) : List String :=
  (Text.lines outcome.errors).filter isReportLine

/-- Surroundings as a system, in which each call adds to what the program leaves behind. -/
def Surroundings.system (surroundings : Surroundings π) :
    System (StateM (Outcome π)) LocalFile π where
  print text := modify fun outcome => { outcome with output := outcome.output ++ text }
  printError text := modify fun outcome => { outcome with errors := outcome.errors ++ text }
  openFile path := return LocalFile.openPath surroundings.files path
  openPort name line := return (surroundings.openPort name line).mapError PathError.description
  transfer settings file port := do
    let run := send settings LocalFile.device surroundings.port { file, port }
    modify fun outcome =>
      { outcome with port := some run.devices.port, transfer := some run }
    return run.ending

/-- Run the program on a command line that has been read. -/
def run (surroundings : Surroundings π) (options : Options) : Outcome π :=
  let (status, outcome) := (execute surroundings.system options).run .blank
  { outcome with status }

end KermitSend.Program

import KermitSend.CommandLine.Help
import KermitSend.Program

/-!
Contract: the program on a real terminal.

The settings of the line itself are those that the terminal has been given; they are only
checked and printed here.

Owns:
- answering the calls of the machine from a file and a terminal;
- files, terminals and the two outputs as a system that the program runs on.

Does not own: any decision, all of which are the library's.
-/

namespace KermitSend.Console

open Storage (Entry LocalFile PathError)

/-- A terminal in use: where bytes are written, and the bytes that have come in.  They are
collected beside the transfer, because a read may last as long as nothing comes; the program
ends when the last read does. -/
structure Terminal where
  output : IO.FS.Handle
  arrived : IO.Ref ByteArray
  finished : IO.Ref Bool

/-- Print a text and see it on its way. -/
def printText (text : String) : IO Unit := do
  IO.print text
  (← IO.getStdout).flush

/-- The number that the system gives to a failure, and its words for it. -/
def systemReason : IO.Error → UInt32 × String
  | .alreadyExists _ number words
  | .interrupted _ number words
  | .noFileOrDirectory _ number words
  | .invalidArgument _ number words
  | .permissionDenied _ number words
  | .resourceExhausted _ number words
  | .inappropriateType _ number words
  | .noSuchThing _ number words
  | .otherError number words
  | .resourceBusy number words
  | .resourceVanished number words
  | .unsupportedOperation number words
  | .hardwareFault number words
  | .unsatisfiedConstraints number words
  | .illegalOperation number words
  | .protocolError number words
  | .timeExpired number words => (number, words)
  | .unexpectedEof => (0, "end of file")
  | .userError words => (0, words)

/-- The kind of a failure of the system. -/
def kindOf : IO.Error → FaultKind
  | .noFileOrDirectory .. => .notFound
  | .permissionDenied .. => .permissionDenied
  | .interrupted .. => .interrupted
  | .timeExpired .. => .timedOut
  | _ => .other

/-- A failure of the system as a fault: its words with its number. -/
def faultOf (error : IO.Error) : Fault :=
  let (number, words) := systemReason error
  { kind := kindOf error, message := s!"{words} (os error {number})" }

/-- The answer of a call that may fail. -/
def answerOf {α : Type} (call : IO α) : IO (Except Fault α) := do
  return (← call.toBaseIO).mapError faultOf

/-- What a path leads to, read as a whole.  A directory opens and only fails when it is read;
the size that stands for it is any but zero. -/
def readEntry (path : String) : IO Entry := do
  let handle ← IO.FS.Handle.mk path .read
  match ← handle.readBinToEnd.toBaseIO with
  | .ok content => return .file content.toList
  | .error (.inappropriateType ..) => return .directory 4096 []
  | .error error => throw error

/-- Collect bytes as they come in, until the transfer is over.  A read that gave up because
nothing came is made again. -/
partial def pump (input : IO.FS.Handle) (terminal : Terminal) : IO Unit := do
  let bytes ← input.read 1
  if ← terminal.finished.get then return
  if bytes.isEmpty then IO.sleep 1
  terminal.arrived.modify (· ++ bytes)
  pump input terminal

/-- The failure of opening something else in place of a terminal. -/
def notTerminal : IO.Error :=
  .otherError PathError.notTerminal.code.toUInt32 PathError.notTerminal.description

/-- Open a terminal and begin to collect what comes in. -/
def Terminal.openPath (path : String) : IO Terminal := do
  let output ← IO.FS.Handle.mk path .readWrite
  unless ← output.isTty do throw notTerminal
  let input ← IO.FS.Handle.mk path .read
  let terminal : Terminal := ⟨output, ← IO.mkRef .empty, ← IO.mkRef false⟩
  discard <| IO.asTask (pump input terminal) .dedicated
  return terminal

/-- Write bytes and see them on their way. -/
def Terminal.write (terminal : Terminal) (bytes : List UInt8) : IO Unit := do
  terminal.output.write (ByteArray.mk bytes.toArray)
  terminal.output.flush

/-- Take at most `room` bytes, once that many have come in or the deadline has passed. -/
partial def Terminal.receive (terminal : Terminal) (room deadline : Nat) : IO (List UInt8) := do
  let arrived ← terminal.arrived.get
  if arrived.size < room && (← IO.monoMsNow) < deadline then
    IO.sleep 1
    terminal.receive room deadline
  else
    terminal.arrived.modifyGet fun bytes =>
      ((bytes.extract 0 room).toList, bytes.extract room bytes.size)

/-- One line of the error output for a notice. -/
def noticeLine (notice : Notice) : String :=
  let fields := notice.fields.map fun (name, value) =>
    let text := match value with
      | .number value => toString value
      | .text value => value
    " " ++ name ++ "=" ++ text
  notice.level.name ++ " " ++ notice.message ++ String.join fields

/-- Answer the calls of a machine until the transfer ends. -/
partial def drive
    (settings : Settings)
    (wanted : Level)
    (terminal : Terminal)
    (file : LocalFile)
    (machine : Machine) :
    IO Ending := do
  let (turn, next) ← match machine.act settings with
    | .askSize react => pure (react file.size, file)
    | .fileRead room react =>
        let (answer, next) := file.read room
        pure (react answer, next)
    | .write bytes react => pure (react (← answerOf (terminal.write bytes)), file)
    | .receive delay timeout react =>
        IO.sleep delay.toUInt32
        let deadline := (← IO.monoMsNow) + timeout
        pure (react (← answerOf (terminal.receive Wire.replyLength deadline)), file)
    | .close react =>
        let (answer, next) := file.close
        pure (react answer, next)
    | .settle turn => pure (turn, file)
  for notice in turn.notices do
    if notice.isTold wanted then IO.eprintln (noticeLine notice)
  match turn.next with
  | .within machine | .enter machine => drive settings wanted terminal next machine
  | .stop ending => return ending

/-- Files and terminals as a system.  A file is read as a whole when it is opened, and a terminal
keeps the settings that it has been given. -/
def system (wanted : Level) : Program.System IO LocalFile Terminal where
  print := printText
  printError := IO.eprint
  openFile path := do
    let entry ← answerOf (readEntry path)
    return (entry.mapError (.fileOpen path)).map .ofEntry
  openPort path _ := do
    let terminal ← (Terminal.openPath path).toBaseIO
    return terminal.mapError fun error => (systemReason error).2
  transfer settings file terminal := do
    let ending ← drive settings wanted terminal file Machine.initial
    terminal.finished.set true
    return ending

/-- Run the program on options that have been read. -/
def run (options : CommandLine.Options) : IO UInt32 :=
  Program.execute (system (if options.debug then .debug else .info)) options

end KermitSend.Console

/-- Read the command line and run the program. -/
def main (arguments : List String) : IO UInt32 := do
  match KermitSend.CommandLine.parse arguments with
  | .error .helpRequested =>
      IO.print KermitSend.CommandLine.helpText
      return 0
  | .error error =>
      IO.eprintln ("error: " ++ error.message)
      return 2
  | .ok options => KermitSend.Console.run options

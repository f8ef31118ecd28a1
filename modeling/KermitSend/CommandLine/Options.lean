import KermitSend.CommandLine.Numeral
import KermitSend.Line.Settings
import KermitSend.Settings

/-!
Contract: the options of the program.

Owns:
- the options by name, and which of them take a value;
- the values of a whole command line, with those that stand where none is given;
- the reasons for which a command line is refused;
- the transfer settings that options call for.

Does not own: how arguments are split into options and values.
-/

namespace KermitSend.CommandLine

/-- The options by name. -/
inductive OptionName where
  | port
  | file
  | delay
  | baud
  | dataBits
  | parity
  | stopBits
  | timeout
  | largePackets
  | chunkSize
  | debug
  | help
deriving DecidableEq, Repr

namespace OptionName

/-- Every option, in the order of the help text. -/
def all : List OptionName :=
  [.port, .file, .delay, .baud, .dataBits, .parity, .stopBits, .timeout, .largePackets,
    .chunkSize, .debug, .help]

/-- The long name, without its two dashes. -/
def long : OptionName → String
  | .port => "port"
  | .file => "file"
  | .delay => "delay"
  | .baud => "baud"
  | .dataBits => "data-bits"
  | .parity => "parity"
  | .stopBits => "stop-bits"
  | .timeout => "timeout"
  | .largePackets => "large-packets"
  | .chunkSize => "chunk-size"
  | .debug => "debug"
  | .help => "help"

/-- The one-letter name, for those options that have one. -/
def short? : OptionName → Option Char
  | .port => some 'p'
  | .file => some 'f'
  | .delay => some 'd'
  | .baud => some 'b'
  | .help => some 'h'
  | _ => none

/-- Whether an option is followed by a value. -/
def takesValue : OptionName → Bool
  | .largePackets | .debug | .help => false
  | _ => true

/-- The option of a long name, which has to be complete. -/
def ofLong? (name : String) : Option OptionName :=
  all.find? fun option => option.long == name

/-- The option of a one-letter name. -/
def ofShort? (letter : Char) : Option OptionName :=
  all.find? fun option => option.short? == some letter

end OptionName

/-- Why a command line is refused, or set aside for the help text. -/
inductive UsageError where
  | missingRequired
  | unknownArgument (argument : String)
  | repeatedOption (option : OptionName)
  | badValue (option : OptionName) (text : String)
  | missingValue (option : OptionName)
  | unneededValue (option : OptionName)
  | helpRequested
deriving DecidableEq, Repr

/-- The values of a whole command line. -/
structure Options where
  port : String
  file : String
  delay : Nat
  baud : Nat
  dataBits : Nat
  parity : String
  stopBits : Nat
  timeout : Nat
  largePackets : Bool
  chunkSize : Option Nat
  debug : Bool
deriving DecidableEq, Repr

/-- The values given so far; what is not given is `none`. -/
structure Draft where
  port : Option String
  file : Option String
  delay : Option Nat
  baud : Option Nat
  dataBits : Option Nat
  parity : Option String
  stopBits : Option Nat
  timeout : Option Nat
  largePackets : Bool
  chunkSize : Option Nat
  debug : Bool
deriving DecidableEq, Repr

namespace Draft

/-- Nothing given. -/
def empty : Draft :=
  { port := none
    file := none
    delay := none
    baud := none
    dataBits := none
    parity := none
    stopBits := none
    timeout := none
    largePackets := false
    chunkSize := none
    debug := false }

/-- Whether an option has been given. -/
def has (draft : Draft) : OptionName → Bool
  | .port => draft.port.isSome
  | .file => draft.file.isSome
  | .delay => draft.delay.isSome
  | .baud => draft.baud.isSome
  | .dataBits => draft.dataBits.isSome
  | .parity => draft.parity.isSome
  | .stopBits => draft.stopBits.isSome
  | .timeout => draft.timeout.isSome
  | .largePackets => draft.largePackets
  | .chunkSize => draft.chunkSize.isSome
  | .debug => draft.debug
  | .help => false

/-- The largest value of an option that takes times or sizes. -/
def wordBound : Nat := Nat.pow 2 64 - 1

/-- Read the text of a number, or say which option it is wrong for. -/
def number (option : OptionName) (text : String) : Except UsageError Nat :=
  let read : Option Nat := match option with
    | .baud => signedNumeral (Nat.pow 2 32 - 1) text
    | .dataBits | .stopBits => signedNumeral (Nat.pow 2 8 - 1) text
    | _ => plainNumeral wordBound text
  match read with
  | some value => .ok value
  | none => .error (.badValue option text)

/-- Give an option its value.  A file needs a name; a port's name may be empty. -/
def put (draft : Draft) (option : OptionName) (text : String) : Except UsageError Draft :=
  match option with
  | .port => .ok { draft with port := some text }
  | .file =>
      if text = "" then .error (.missingValue .file)
      else .ok { draft with file := some text }
  | .delay => (number .delay text).map fun value => { draft with delay := some value }
  | .baud => (number .baud text).map fun value => { draft with baud := some value }
  | .dataBits =>
      (number .dataBits text).map fun value => { draft with dataBits := some value }
  | .parity => .ok { draft with parity := some text }
  | .stopBits =>
      (number .stopBits text).map fun value => { draft with stopBits := some value }
  | .timeout =>
      (number .timeout text).map fun value => { draft with timeout := some value }
  | .chunkSize =>
      (number .chunkSize text).map fun value => { draft with chunkSize := some value }
  | .largePackets | .debug | .help => .error (.unneededValue option)

/-- Raise an option that takes no value. -/
def raise (draft : Draft) (option : OptionName) : Except UsageError Draft :=
  match option with
  | .largePackets => .ok { draft with largePackets := true }
  | .debug => .ok { draft with debug := true }
  | .help => .error .helpRequested
  | _ => .error (.missingValue option)

/-- The options that a draft amounts to: port and file have to be given, the others have values
of their own. -/
def complete (draft : Draft) : Except UsageError Options :=
  match draft.port, draft.file with
  | some port, some file =>
      .ok
        { port
          file
          delay := draft.delay.getD 0
          baud := draft.baud.getD 115200
          dataBits := draft.dataBits.getD 8
          parity := draft.parity.getD "none"
          stopBits := draft.stopBits.getD 1
          timeout := draft.timeout.getD 5000
          largePackets := draft.largePackets
          chunkSize := draft.chunkSize
          debug := draft.debug }
  | _, _ => .error .missingRequired

end Draft

namespace Options

/-- The packet mode that options call for. -/
def mode (options : Options) : Packet.Mode :=
  if options.largePackets then .large else .small

/-- The transfer settings that options call for: chunks as large as the mode allows, unless a
size is given. -/
def settings (options : Options) : Settings :=
  let base := Settings.forMode options.mode
  { base with
    chunkLimit := options.chunkSize.getD base.chunkLimit
    replyDelay := options.delay
    replyTimeout := options.timeout }

/-- The line settings that options call for: data bits are looked at first, then parity, then
stop bits. -/
def lineSettings (options : Options) : Except Line.SettingFault Line.Settings := do
  let dataBits ← Line.DataBits.ofNumber options.dataBits
  let parity ← Line.Parity.ofWord options.parity
  let stopBits ← Line.StopBits.ofNumber options.stopBits
  return { baud := options.baud, dataBits, parity, stopBits }

end Options

end KermitSend.CommandLine

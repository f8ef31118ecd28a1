import KermitSend.CommandLine.Options

/-!
Contract: what the program tells about its own options.

Owns:
- the help text, one line per option;
- the wording of a refused command line.

Does not own: the order in which faults are found.
-/

namespace KermitSend.CommandLine

namespace OptionName

/-- What stands for the value of an option in the help text. -/
def placeholder? : OptionName → Option String
  | .port => some "PORT"
  | .file => some "FILE"
  | .delay | .timeout => some "MS"
  | .baud => some "BAUD"
  | .dataBits | .stopBits => some "BITS"
  | .parity => some "PARITY"
  | .chunkSize => some "BYTES"
  | .largePackets | .debug | .help => none

/-- What an option is for. -/
def purpose : OptionName → String
  | .port => "Serial port to use (e.g., /dev/ttyS0 or COM1)"
  | .file => "File to download"
  | .delay => "Delay in milliseconds before reading each acknowledgment [default: 0]"
  | .baud => "Baud rate [default: 115200]"
  | .dataBits => "Data bits (5, 6, 7, or 8) [default: 8]"
  | .parity => "Parity (none, odd, or even) [default: none]"
  | .stopBits => "Stop bits (1 or 2) [default: 1]"
  | .timeout => "Time in milliseconds to wait for a complete acknowledgment [default: 5000]"
  | .largePackets => "Use large packets for chunks of 95 bytes or more"
  | .chunkSize => "Bytes of the file carried per packet (defaults to the packet limit)"
  | .debug => "Enable debug output"
  | .help => "Print help"

/-- An option as it is written, with what stands for its value. -/
def usage (option : OptionName) : String :=
  match option.placeholder? with
  | some placeholder => "--" ++ option.long ++ " <" ++ placeholder ++ ">"
  | none => "--" ++ option.long

/-- The line of the help text for an option. -/
def helpLine (option : OptionName) : String :=
  let short := match option.short? with
    | some letter => String.ofList ['-', letter, ',', ' ']
    | none => "    "
  let usage := option.usage
  "  " ++ short ++ usage ++ "".pushn ' ' (25 - usage.length) ++ option.purpose ++ "\n"

end OptionName

/-- The help text. -/
def helpText : String :=
  "Download a file to U-Boot's loadb command using Kermit over a serial port\n\n"
    ++ "Usage: [OPTIONS] --port <PORT> --file <FILE>\n\nOptions:\n"
    ++ String.join (OptionName.all.map OptionName.helpLine)

/-- The wording of a refused command line. -/
def UsageError.message : UsageError → String
  | .missingRequired => "the required arguments --port <PORT> and --file <FILE> were not provided"
  | .unknownArgument argument => "unexpected argument '" ++ argument ++ "' found"
  | .repeatedOption option =>
      "the argument '" ++ option.usage ++ "' cannot be used multiple times"
  | .badValue option text => "invalid value '" ++ text ++ "' for '" ++ option.usage ++ "'"
  | .missingValue option => "a value is required for '" ++ option.usage ++ "' but none was supplied"
  | .unneededValue option => "no value is allowed for '" ++ option.usage ++ "'"
  | .helpRequested => "help was asked for"

end KermitSend.CommandLine

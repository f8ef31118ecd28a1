import KermitSend.CommandLine.Options

/-!
Contract: arguments read into options.

An option that takes a value finds it attached (`--port=x`, `-px`, `-p=x`) or in the next
argument, provided that one does not look like an option; a single dash does not.  After `--`
nothing is an option, and nothing that is not an option is accepted.

A value found in the next argument is looked at only when the option after it is reached, or the
end: an unknown argument, or a value attached to an option that takes none, is reported first.

Owns:
- the shapes of an argument;
- the option that still waits for its value or for its value to be looked at;
- the order in which faults are reported.

Does not own: the options and their values.
-/

namespace KermitSend.CommandLine

/-- The shapes of an argument. -/
inductive Argument where
  /-- Two dashes alone. -/
  | separator
  /-- Two dashes and a name, with what follows an equals sign. -/
  | long (name : String) (value : Option String)
  /-- One dash and letters. -/
  | short (letters : List Char)
  | plain (text : String)
deriving DecidableEq, Repr

/-- Split a long argument at its first equals sign. -/
def splitLong (body : List Char) : Argument :=
  match body.dropWhile (· != '=') with
  | [] => .long (String.ofList body) none
  | _ :: value =>
      .long (String.ofList (body.takeWhile (· != '='))) (some (String.ofList value))

/-- The shape of an argument. -/
def Argument.ofString (text : String) : Argument :=
  match text.toList with
  | '-' :: '-' :: [] => .separator
  | '-' :: '-' :: body => splitLong body
  | '-' :: letter :: letters => .short (letter :: letters)
  | _ => .plain text

/-- The reading of a command line so far. -/
structure Reading where
  draft : Draft
  /-- The last option that takes a value, with its value if that has been found but not yet
  looked at. -/
  pending : Option (OptionName × Option String)
  /-- Whether the separator has been passed. -/
  separated : Bool
deriving DecidableEq, Repr

namespace Reading

/-- Nothing read. -/
def empty : Reading :=
  { draft := .empty, pending := none, separated := false }

/-- Give an option its value, once. -/
def store (reading : Reading) (option : OptionName) (text : String) :
    Except UsageError Reading :=
  if reading.draft.has option then .error (.repeatedOption option)
  else (reading.draft.put option text).map fun draft => { reading with draft }

/-- Look at the value that is pending. -/
def settle (reading : Reading) : Except UsageError Reading :=
  match reading.pending with
  | none => .ok reading
  | some (option, none) => .error (.missingValue option)
  | some (option, some text) => { reading with pending := none }.store option text

/-- Meet an option that takes a value, which may be attached. -/
def meet (reading : Reading) (option : OptionName) (attached : Option String) :
    Except UsageError Reading := do
  let settled ← reading.settle
  match attached with
  | some text => settled.store option text
  | none => return { settled with pending := some (option, none) }

/-- Meet an option that takes no value. -/
def meetFlag (reading : Reading) (option : OptionName) : Except UsageError Reading := do
  let settled ← reading.settle
  if settled.draft.has option then .error (.repeatedOption option)
  else (settled.draft.raise option).map fun draft => { settled with draft }

/-- Meet the letters after a single dash: options without a value may be followed by others,
an option with a value takes the rest, an equals sign in front of it set aside. -/
def meetLetters (reading : Reading) : List Char → Except UsageError Reading
  | [] => .ok reading
  | letter :: rest =>
      match OptionName.ofShort? letter with
      | none => .error (.unknownArgument (String.ofList ['-', letter]))
      | some option =>
          if option.takesValue then
            match rest with
            | [] => reading.meet option none
            | '=' :: value => reading.meet option (some (String.ofList value))
            | value => reading.meet option (some (String.ofList value))
          else do
            let next ← reading.meetFlag option
            next.meetLetters rest

/-- Read one argument. -/
def take (reading : Reading) (argument : String) : Except UsageError Reading :=
  if reading.separated then .error (.unknownArgument argument)
  else
    match Argument.ofString argument with
    | .separator => .ok { reading with separated := true }
    | .long name value =>
        match OptionName.ofLong? name with
        | none => .error (.unknownArgument argument)
        | some option =>
            if option.takesValue then reading.meet option value
            else if value.isSome then .error (.unneededValue option)
            else reading.meetFlag option
    | .short letters => reading.meetLetters letters
    | .plain text =>
        match reading.pending with
        | some (option, none) => .ok { reading with pending := some (option, some text) }
        | _ => .error (.unknownArgument argument)

/-- Read the arguments one after another. -/
def takeAll (reading : Reading) : List String → Except UsageError Reading
  | [] => .ok reading
  | argument :: rest => do
      let next ← reading.take argument
      next.takeAll rest

end Reading

/-- Read a whole command line, the program's name left out. -/
def parse (arguments : List String) : Except UsageError Options := do
  let reading ← Reading.empty.takeAll arguments
  let settled ← reading.settle
  settled.draft.complete

end KermitSend.CommandLine

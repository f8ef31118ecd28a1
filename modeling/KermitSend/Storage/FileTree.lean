import KermitSend.Fault

/-!
Contract: directories, files and devices, and what a path leads to.

A path is a list of names between slashes, followed from the root when it begins with a slash
and from the working directory otherwise.

Owns:
- the entries of a tree and the reasons why a path leads to none;
- following a path: which of several reasons is met first;
- the wording of each reason for files and for serial ports.

Does not own: reading what a path leads to.
-/

namespace KermitSend.Storage

/-- Why a path leads nowhere, or to something that cannot be used. -/
inductive PathError where
  | noEntry
  | notDirectory
  | isDirectory
  | nameTooLong
  | notTerminal
  /-- The path leads to a device that is not there. -/
  | noDevice
  /-- The path holds a zero character, which no name may hold. -/
  | zeroCharacter
  /-- Whatever else the system may have against it. -/
  | refused (kind : FaultKind) (code : Nat) (description : String)
deriving DecidableEq, Repr

namespace PathError

/-- The number by which the system knows a reason. -/
def code : PathError → Nat
  | .noEntry => 2
  | .noDevice => 6
  | .notDirectory => 20
  | .isDirectory => 21
  | .nameTooLong => 36
  | .notTerminal => 25
  | .zeroCharacter => 22
  | .refused _ code _ => code

/-- The system's words for a reason. -/
def description : PathError → String
  | .noEntry => "No such file or directory"
  | .notDirectory => "Not a directory"
  | .isDirectory => "Is a directory"
  | .nameTooLong => "File name too long"
  | .notTerminal => "Not a typewriter"
  | .noDevice => "No such device or address"
  | .zeroCharacter => "file name contained an unexpected NUL byte"
  | .refused _ _ description => description

/-- The kind of a reason among all faults. -/
def kind : PathError → FaultKind
  | .noEntry => .notFound
  | .notDirectory => .notADirectory
  | .isDirectory => .isADirectory
  | .nameTooLong => .invalidFilename
  | .notTerminal | .noDevice => .other
  | .zeroCharacter => .invalidInput
  | .refused kind _ _ => kind

/-- A reason as a fault of a file: the system's words with its number.  A zero character is
noticed before the system is asked and has no number. -/
def fault (error : PathError) : Fault :=
  { kind := error.kind
    message := match error with
      | .zeroCharacter => error.description
      | _ => s!"{error.description} (os error {error.code})" }

end PathError

/-- What a directory holds. -/
inductive Entry where
  | file (content : List UInt8)
  | terminal
  | device
  /-- It is there and does not open, for this reason. -/
  | unopenable (reason : PathError)
  | directory (size : Nat) (children : List (String × Entry))

/-- An entry that a path has led to, if it opens. -/
def Entry.opened : Entry → Except PathError Entry
  | .unopenable reason => .error reason
  | entry => .ok entry

/-- The longest name of an entry, in bytes. -/
def longestName : Nat := 255

/-- The longest path, in bytes. -/
def longestPath : Nat := 4095

/-- A tree with a working directory; `ancestors` are the directories around it, nearest
first, and end with the root. -/
structure FileTree where
  working : Entry
  ancestors : List Entry

namespace FileTree

/-- The outermost directory. -/
def root (tree : FileTree) : Entry :=
  tree.ancestors.getLast?.getD tree.working

/-- Follow names from an entry; `around` are the directories it lies in, nearest first.  Empty
names and `.` stay where they are but still need a directory. -/
def follow (here : Entry) (around : List Entry) : List String → Except PathError Entry
  | [] => here.opened
  | name :: names =>
      match here with
      | .directory _ children =>
          if name = "" ∨ name = "." then follow here around names
          else if name = ".." then
            match around with
            | [] => follow here [] names
            | outer :: others => follow outer others names
          else if name.utf8ByteSize > longestName then .error .nameTooLong
          else
            match children.lookup name with
            | none => .error .noEntry
            | some child => follow child (here :: around) names
      | _ => .error .notDirectory

/-- What a path leads to. -/
def resolve (tree : FileTree) (path : String) : Except PathError Entry :=
  if path.contains '\x00' then .error .zeroCharacter
  else if path = "" then .error .noEntry
  else if path.utf8ByteSize > longestPath then .error .nameTooLong
  else if path.startsWith "/" then follow tree.root [] (path.splitOn "/")
  else follow tree.working tree.ancestors (path.splitOn "/")

end FileTree

end KermitSend.Storage

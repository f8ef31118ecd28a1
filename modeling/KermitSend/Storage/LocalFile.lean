import KermitSend.Storage.FileTree
import KermitSend.Transfer.Device
import KermitSend.Transfer.Error

/-!
Contract: an opened file of the local system.

Owns:
- opening by path;
- size, successive reads and closing, all of which fail once the file is closed;
- the file as a device of a transfer.

Does not own: files that change while they are open.
-/

namespace KermitSend.Storage

/-- An opened file: what it is, how far it has been read, and whether it is still open. -/
structure LocalFile where
  entry : Entry
  position : Nat
  isOpen : Bool

namespace LocalFile

/-- The failure of every call on a closed file. -/
def closedFault : Fault :=
  { kind := .other, message := "file already closed" }

/-- A file just opened. -/
def ofEntry (entry : Entry) : LocalFile :=
  { entry, position := 0, isOpen := true }

/-- Open the file that a path leads to. -/
def openPath (tree : FileTree) (path : String) : Except TransferError LocalFile :=
  match tree.resolve path with
  | .ok entry => .ok (ofEntry entry)
  | .error error => .error (.fileOpen path error.fault)

/-- The length of what was opened. -/
def size (file : LocalFile) : Except Fault Nat :=
  if file.isOpen then
    match file.entry with
    | .file content => .ok content.length
    | .directory size _ => .ok size
    | .terminal | .device | .unopenable _ => .ok 0
  else .error closedFault

/-- Read the next bytes, at most `room`; a directory cannot be read. -/
def read (file : LocalFile) (room : Nat) : Except Fault (List UInt8) × LocalFile :=
  if file.isOpen then
    match file.entry with
    | .file content =>
        let bytes := (content.drop file.position).take room
        (.ok bytes, { file with position := file.position + bytes.length })
    | .directory .. => (.error PathError.isDirectory.fault, file)
    | .terminal | .device | .unopenable _ => (.ok [], file)
  else (.error closedFault, file)

/-- Close the file, once. -/
def close (file : LocalFile) : Except Fault Unit × LocalFile :=
  if file.isOpen then (.ok (), { file with isOpen := false })
  else (.error closedFault, file)

theorem length_le_of_read
    (file : LocalFile)
    (room : Nat)
    {bytes : List UInt8}
    (served : (file.read room).1 = .ok bytes) :
    bytes.length ≤ room := by
  unfold read at served
  split at served
  · split at served <;> simp only [Except.ok.injEq, reduceCtorEq] at served <;> subst served
    · exact List.length_take_le ..
    all_goals exact Nat.zero_le _
  · simp at served

/-- Reads of a local file are never interrupted. -/
theorem not_interrupted_of_read
    (file : LocalFile)
    (room : Nat)
    {fault : Fault}
    (failed : (file.read room).1 = .error fault) :
    fault.kind ≠ .interrupted := by
  unfold read at failed
  split at failed
  · split at failed <;> simp only [Except.error.injEq, reduceCtorEq] at failed
    subst failed
    simp [PathError.fault, PathError.kind]
  · simp only [Except.error.injEq] at failed
    subst failed
    simp [closedFault]

/-- A local file as a device. -/
def device : FileSource LocalFile where
  size := fun file => (file.size, file)
  read := read
  close := close
  patience := fun _ _ => 0
  read_length_le := fun file room _ served => length_le_of_read file room served
  patience_lt := fun file room _ failed interrupted =>
    absurd interrupted (not_interrupted_of_read file room failed)

end LocalFile

end KermitSend.Storage

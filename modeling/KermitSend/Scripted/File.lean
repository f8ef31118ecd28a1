import KermitSend.Transfer.Device

/-!
Contract: a file that follows a script.

Owns:
- reads that are cut short, interrupted or failed as the script says, and afterwards limited
  only by the data;
- a claimed size and a closing that need not agree with the data;
- the file as a device of a transfer.

Does not own: what a transfer makes of such a file.
-/

namespace KermitSend.Scripted

/-- What a script says about one read. -/
inductive ReadTurn where
  /-- Serve at most this many bytes. -/
  | atMost (count : Nat)
  | fault (fault : Fault)
deriving DecidableEq, Repr

/-- A file at some point of its script. -/
structure File where
  size : Except Fault Nat
  /-- The data not yet served. -/
  data : List UInt8
  turns : List ReadTurn
  closing : Except Fault Unit

namespace File

/-- Serve at most `count` bytes of the data. -/
def serve (file : File) (count : Nat) : Except Fault (List UInt8) × File :=
  (.ok (file.data.take count), { file with data := file.data.drop count })

/-- Read for a buffer of the given size. -/
def read (file : File) (room : Nat) : Except Fault (List UInt8) × File :=
  match file.turns with
  | .atMost count :: rest => { file with turns := rest }.serve (min count room)
  | .fault fault :: rest => (.error fault, { file with turns := rest })
  | [] => file.serve room

theorem length_le_of_read
    (file : File)
    (room : Nat)
    {bytes : List UInt8}
    (served : (file.read room).1 = .ok bytes) :
    bytes.length ≤ room := by
  unfold read at served
  split at served
  · simp only [serve, Except.ok.injEq] at served
    subst served
    exact Nat.le_trans (List.length_take_le ..) (Nat.min_le_right ..)
  · simp at served
  · simp only [serve, Except.ok.injEq] at served
    subst served
    exact List.length_take_le ..

/-- A failing read uses up a turn of the script. -/
theorem turns_lt_of_read
    (file : File)
    (room : Nat)
    {fault : Fault}
    (failed : (file.read room).1 = .error fault) :
    (file.read room).2.turns.length < file.turns.length := by
  unfold read at failed ⊢
  split at failed
  · simp [serve] at failed
  · rename_i fault rest script
    simp [script]
  · simp [serve] at failed

/-- A scripted file as a device. -/
def device : FileSource File where
  size := fun file => (file.size, file)
  read := read
  close := fun file => (file.closing, file)
  patience := fun file _ => file.turns.length
  read_length_le := fun file room _ served => length_le_of_read file room served
  patience_lt := fun file room _ failed _ => turns_lt_of_read file room failed

end File

end KermitSend.Scripted

import KermitSend.Line.Peer

/-!
Contract: the system's side of a line that follows a script.

Owns:
- reads that bring bytes or failures when their time has come, and nothing before it;
- writes that all take the same time;
- the script as the system's side of a line.

Does not own: the timeouts that reads and writes run under.
-/

namespace KermitSend.Scripted

open Line (RawRead RawPort)

/-- A line at some point of its script. -/
structure Cable where
  /-- What the next reads bring, each with the time until it is there; after them nothing comes. -/
  turns : List RawRead
  /-- The time that a write takes. -/
  writing : Nat

namespace Cable

/-- Wait for the next turn, at most as long as the timeout says. -/
def read (cable : Cable) (room timeout : Nat) : RawRead × Cable :=
  match cable.turns with
  | [] => ({ answer := .error Line.Peer.silence, elapsed := timeout }, cable)
  | turn :: rest =>
      if turn.elapsed ≤ timeout then
        ({ turn with answer := turn.answer.map (List.take room) }, { cable with turns := rest })
      else
        ({ answer := .error Line.Peer.silence, elapsed := timeout },
          { cable with turns := { turn with elapsed := turn.elapsed - timeout } :: rest })

/-- Write, or fail when the time does not suffice. -/
def write (cable : Cable) (timeout : Nat) : Except Fault Unit :=
  if cable.writing ≤ timeout then .ok () else .error Line.Peer.silence

/-- A script as the system's side of a line. -/
def system : RawPort Cable where
  write := fun cable _ timeout => (cable.write timeout, cable)
  read := read
  patience := fun cable _ _ => cable.turns.length
  read_length_le := by
    intro cable room timeout bytes served
    simp only [read] at served
    split at served
    · cases served
    · rename_i turn rest script
      split at served
      · cases answer : turn.answer with
        | error fault =>
            rw [answer] at served
            cases served
        | ok given =>
            rw [answer] at served
            obtain rfl := Except.ok.inj served
            exact List.length_take_le ..
      · cases served
  elapsed_le := by
    intro cable room timeout
    simp only [read]
    split
    · exact Nat.le_refl _
    · split
      · assumption
      · exact Nat.le_refl _
  patience_lt := by
    intro cable room timeout fault failed interrupted
    simp only [read] at failed ⊢
    split at failed
    · obtain rfl := Except.error.inj failed
      cases interrupted
    · rename_i turn rest script
      split at failed
      · rename_i ready
        simp [script, ready]
      · obtain rfl := Except.error.inj failed
        cases interrupted

end Cable

end KermitSend.Scripted

import KermitSend.Line.Port
import KermitSend.Packet.Stream
import KermitSend.Scripted.Response

/-!
Contract: a receiver at the far end of a line, which answers every packet by a script.

Owns:
- cutting what arrives into frames and answering each data packet;
- the bytes under way to the sender, which wait until they are read;
- the far end as the system's side of a line.

Does not own: how long anything takes, save that waiting in vain takes the whole timeout.
-/

namespace KermitSend.Line

/-- The far end of a line at some point. -/
structure Peer where
  /-- Bytes that have arrived and make no whole frame yet. -/
  arriving : List UInt8
  /-- The frames that have arrived, last first. -/
  arrived : List (List UInt8)
  /-- Bytes under way to the sender. -/
  underWay : List UInt8
  /-- What is done about the next packets; `none` is to stay silent. -/
  responses : List (Option Scripted.Response)
  /-- What is done about every packet after those. -/
  afterwards : Option Scripted.Response
deriving DecidableEq, Repr

namespace Peer

/-- A far end that nothing has reached yet. -/
def waiting
    (responses : List (Option Scripted.Response))
    (afterwards : Option Scripted.Response) :
    Peer :=
  { arriving := [], arrived := [], underWay := [], responses, afterwards }

/-- The frames that have arrived, in order. -/
def frames (peer : Peer) : List (List UInt8) :=
  peer.arrived.reverse

/-- The bytes a response puts under way; one that fails puts none. -/
def bytesOf (frame : List UInt8) (response : Option Scripted.Response) : List UInt8 :=
  match response with
  | none => []
  | some response =>
      match response.deliver (Printable.decode (Packet.byteAt frame 2)) with
      | .ok bytes => bytes
      | .error _ => []

/-- Take one frame: the end of a transfer is noted, a data packet is answered. -/
def take (peer : Peer) (frame : List UInt8) : Peer :=
  let noted := { peer with arrived := frame :: peer.arrived }
  if frame = [Wire.endOfTransfer] then noted
  else
    match peer.responses with
    | response :: rest =>
        { noted with
          responses := rest
          underWay := peer.underWay ++ bytesOf frame response }
    | [] => { noted with underWay := peer.underWay ++ bytesOf frame peer.afterwards }

/-- Take in bytes from the sender. -/
def accept (peer : Peer) (bytes : List UInt8) : Peer :=
  let cut := Packet.cutFrames (peer.arriving ++ bytes)
  cut.1.foldl take { peer with arriving := cut.2 }

/-- The failure of a read that nothing came for. -/
def silence : Fault :=
  { kind := .timedOut, message := "Operation timed out" }

/-- Hand over what is under way, or let the timeout pass. -/
def read (peer : Peer) (room timeout : Nat) : RawRead × Peer :=
  if peer.underWay = [] then ({ answer := .error silence, elapsed := timeout }, peer)
  else
    ({ answer := .ok (peer.underWay.take room), elapsed := 0 },
      { peer with underWay := peer.underWay.drop room })

/-- The far end as the system's side of a line. -/
def system : RawPort Peer where
  write := fun peer bytes _ => (.ok (), peer.accept bytes)
  read := read
  patience := fun _ _ _ => 0
  read_length_le := by
    intro peer room timeout bytes served
    simp only [read] at served
    split at served
    · simp at served
    · simp only [Except.ok.injEq] at served
      subst served
      exact List.length_take_le ..
  elapsed_le := by
    intro peer room timeout
    simp only [read]
    split
    · exact Nat.le_refl _
    · exact Nat.zero_le _
  patience_lt := by
    intro peer room timeout fault failed interrupted
    simp only [read] at failed
    split at failed
    · simp only [Except.error.injEq] at failed
      subst failed
      simp [silence] at interrupted
    · simp at failed

end Peer

end KermitSend.Line

import KermitSend.Packet.Parse
import KermitSend.Scripted.Response
import KermitSend.Transfer.Device

/-!
Contract: a serial port that follows a script.

Owns:
- writes that fail at chosen numbers and otherwise succeed;
- reads that serve one response after another, each to its last byte before the next;
- the port as a device of a transfer.

Does not own: the responses themselves.
-/

namespace KermitSend.Scripted

/-- A port at some point of its script. -/
structure Port where
  /-- The writes so far, failed ones included. -/
  writes : Nat
  /-- The writes that fail, by number from zero. -/
  writeFaults : List (Nat × Fault)
  /-- The sequence number of the last frame written. -/
  arrived : UInt8
  /-- What is left of the response being served. -/
  leftover : List UInt8
  responses : List Response
  /-- The response once the others are used up; with none, reads time out. -/
  afterwards : Option Response
deriving DecidableEq, Repr

namespace Port

/-- The failure of a read that no response is left for. -/
def exhausted : Fault :=
  { kind := .timedOut, message := "no more replies" }

/-- Take a frame, or fail where the script says so. -/
def write (port : Port) (bytes : List UInt8) : Except Fault Unit × Port :=
  let written := { port with writes := port.writes + 1 }
  match port.writeFaults.find? fun fails => fails.1 == port.writes with
  | some (_, fault) => (.error fault, written)
  | none =>
      (.ok (), { written with arrived := Printable.decode (Packet.byteAt bytes 2) })

/-- Serve the front of `bytes` and keep the rest. -/
def serve (port : Port) (bytes : List UInt8) (room : Nat) :
    Except Fault (List UInt8) × Port :=
  (.ok (bytes.take room), { port with leftover := bytes.drop room })

/-- Serve the whole of one response. -/
def respond (port : Port) (response : Response) (room : Nat) :
    Except Fault (List UInt8) × Port :=
  match response.deliver port.arrived with
  | .error fault => (.error fault, port)
  | .ok bytes => port.serve bytes room

/-- Serve what is left of the present response, or else begin the next. -/
def receive (port : Port) (room : Nat) : Except Fault (List UInt8) × Port :=
  if port.leftover ≠ [] then port.serve port.leftover room
  else
    match port.responses with
    | response :: rest => { port with responses := rest }.respond response room
    | [] =>
        match port.afterwards with
        | some response => port.respond response room
        | none => (.error exhausted, port)

theorem length_le_of_respond
    (port : Port)
    (response : Response)
    (room : Nat)
    {bytes : List UInt8}
    (served : (port.respond response room).1 = .ok bytes) :
    bytes.length ≤ room := by
  unfold respond at served
  split at served
  · simp at served
  · simp only [serve, Except.ok.injEq] at served
    subst served
    exact List.length_take_le ..

theorem length_le_of_receive
    (port : Port)
    (room : Nat)
    {bytes : List UInt8}
    (served : (port.receive room).1 = .ok bytes) :
    bytes.length ≤ room := by
  unfold receive at served
  split at served
  · simp only [serve, Except.ok.injEq] at served
    subst served
    exact List.length_take_le ..
  · split at served
    · exact length_le_of_respond _ _ _ served
    · split at served
      · exact length_le_of_respond _ _ _ served
      · simp at served

/-- A scripted port as a device. -/
def device : SerialPort Port where
  write := write
  receive := fun port room _ => port.receive room
  receive_length_le := fun port room _ _ served => length_le_of_receive port room served

end Port

end KermitSend.Scripted

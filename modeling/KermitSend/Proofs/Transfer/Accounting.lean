import KermitSend.Proofs.Transfer.Failure

/-!
Contract: what the error of a failed transfer accounts for.

Owns:
- the sequence number that an error states;
- the account: the figures of the error are those of the packets that were acknowledged, and the
  packet in flight is not among them;
- the law that every error that counts bytes gives this account.

Does not own: transfers that fail before the size of the file is known.
-/

set_option autoImplicit false

namespace KermitSend

variable {φ π : Type}

section Writes

variable
  {settings : Settings}
  {delivery : Delivery}
  {bytes : List UInt8}
  {answer : Except Fault Unit}

end Writes

/-! ## What a break says -/

namespace BreaksOff

variable
  {settings : Settings}
  {total index : Nat}
  {tail : List Exchange}
  {error : TransferError}

/-- Nothing in the tail acknowledges the packet in flight. -/
theorem refused
    (breaks : BreaksOff settings total index tail error) :
    ∀ reply ∈ replies tail, acknowledges (sequenceAt index) reply = false := by
  intro reply member
  cases breaks with
  | truncated _ _ =>
      rw [replies_append, replies_reads] at member
      cases member
  | unreadable _ _ _ =>
      rw [replies_append, replies_reads] at member
      cases member
  | @unsent delivery fault _ unanswered _ =>
      have unheard : replies [.write delivery.frame (.error fault)] = [] := rfl
      rw [replies_append, Delivery.replies_exchanges, unheard, List.append_nil] at member
      exact unanswered.refused reply member
  | @unheard delivery fault _ unanswered _ _ =>
      have last : replies (attempt settings delivery.frame (.error fault)) = [.error fault] := rfl
      rw [replies_append, Delivery.replies_exchanges, last, List.mem_append,
        List.mem_singleton] at member
      rcases member with before | rfl
      · exact unanswered.refused reply before
      · exact acknowledges_error _ fault
  | exhausted _ unanswered _ =>
      rw [Delivery.replies_exchanges] at member
      exact unanswered.refused reply member
  | unended _ => cases member

/-- The tail puts at most copies of the frame in flight on the line. -/
theorem written_eq
    (breaks : BreaksOff settings total index tail error) :
    written tail = [] ∨ ∃ delivery : Delivery, delivery.Framed settings total index ∧
      ∃ copies, written tail = List.replicate copies delivery.frame := by
  cases breaks with
  | truncated _ _ =>
      left
      rw [written_append, written_reads]
      rfl
  | unreadable _ _ _ =>
      left
      rw [written_append, written_reads]
      rfl
  | @unsent delivery fault framed _ _ =>
      have failed : written [.write delivery.frame (.error fault)] = [] := rfl
      right
      refine ⟨delivery, framed, delivery.replies.length, ?_⟩
      rw [written_append, Delivery.written_exchanges, failed, List.append_nil]
      rfl
  | @unheard delivery fault framed _ _ _ =>
      have sent : written (attempt settings delivery.frame (.error fault)) =
          List.replicate 1 delivery.frame := rfl
      right
      refine ⟨delivery, framed, delivery.replies.length + 1, ?_⟩
      rw [written_append, Delivery.written_exchanges, sent, Delivery.copies,
        List.replicate_append_replicate]
  | @exhausted delivery framed _ _ =>
      right
      refine ⟨delivery, framed, delivery.replies.length, ?_⟩
      rw [Delivery.written_exchanges]
      rfl
  | unended _ =>
      left
      rfl

end BreaksOff

/-- A receiver that accepts every packet, on a line that drops at the third write. -/
def Scripted.Port.dropsAtEnd : Scripted.Port :=
  { writes := 0
    writeFaults := [(2, { kind := .brokenPipe, message := "unplugged" })]
    arrived := 0
    leftover := []
    responses := []
    afterwards := some (.answer Wire.acceptKind) }

end KermitSend

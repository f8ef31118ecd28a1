import KermitSend.Proofs.Transfer.Moves

/-!
Contract: the conversations that a transfer can have with its devices.

Owns:
- the exchanges of a transfer up to a state, for every order of answers;
- what can still be said from a state on, and the law that the calls of a run are such;
- the law that a transfer is a conversation followed by one stop;
- the length of the buffer, which no conversation changes;
- the state in which each call of a transfer is made, between what was said before and what follows.

Does not own: what is in a conversation.
-/

set_option autoImplicit false

namespace KermitSend

variable {φ π : Type}

/-- What has been said when a transfer is in a state. -/
inductive Conversation (settings : Settings) : List Exchange → Machine → Prop where
  | begun : Conversation settings [] Machine.initial
  | continued {history exchanges machine next}
      (earlier : Conversation settings history machine)
      (move : machine.Moves settings exchanges next) :
      Conversation settings (history ++ exchanges) next

namespace Machine

/-- From a state on, a transfer can make these calls, with these answers, and end in this way. -/
inductive Concludes (settings : Settings) : Machine → List Exchange → Ending → Prop where
  | stopped {machine exchanges ending}
      (stops : machine.Stops settings exchanges ending) :
      Concludes settings machine exchanges ending
  | moved {machine next exchanges later ending}
      (move : machine.Moves settings exchanges next)
      (rest : Concludes settings next later ending) :
      Concludes settings machine (exchanges ++ later) ending

/-- On given devices a transfer does what it can do on some. -/
theorem Course.concludes
    {settings : Settings}
    {file : FileSource φ}
    {port : SerialPort π}
    {machine : Machine}
    {devices : Devices φ π}
    {exchanges : List Exchange}
    {ending : Ending}
    (course : machine.Course settings file port devices exchanges ending) :
    machine.Concludes settings exchanges ending := by
  induction course with
  | @last machine devices ending stops =>
      exact .stopped (stops_of_call stops)
  | @more machine devices next exchanges ending goes rest inductionHypothesis =>
      exact .moved (moves_of_call goes) inductionHypothesis

theorem concludes_send
    (settings : Settings)
    (file : FileSource φ)
    (port : SerialPort π)
    (devices : Devices φ π) :
    initial.Concludes settings (send settings file port devices).exchanges
      (send settings file port devices).ending :=
  (course_of_run settings file port initial (initial_progressing settings) devices).concludes

end Machine

/-! ## The buffer -/

/-- The buffer keeps the length it was given at the opening. -/
theorem Conversation.length_buffer
    {settings : Settings}
    {history : List Exchange}
    {machine : Machine}
    (conversation : Conversation settings history machine)
    (started : machine.phase ≠ .idle) :
    machine.buffer.length = settings.chunkLimit := by
  induction conversation with
  | begun => exact absurd rfl started
  | @continued history exchanges machine next earlier move inductionHypothesis =>
      cases move with
      | opened _ _ => exact List.length_replicate
      | @stored filled bytes phase incomplete nonempty fits =>
          have room := inductionHypothesis (by simp [phase])
          have inside : filled + bytes.length ≤ machine.buffer.length := by
            simp only [Machine.wanted] at fits incomplete
            omega
          exact (length_overwrite inside).trans room
      | interrupted phase _ _ => exact inductionHypothesis started
      | finished phase _ => exact inductionHypothesis (by simp [phase])
      | framed phase _ _ _ => exact inductionHypothesis (by simp [phase])
      | sent phase => exact inductionHypothesis (by simp [phase])
      | acknowledged phase _ _ => exact inductionHypothesis (by simp [phase])
      | refused phase _ _ => exact inductionHypothesis (by simp [phase])
      | advanced phase => exact inductionHypothesis (by simp [phase])
      | retried phase _ => exact inductionHypothesis (by simp [phase])
      | ended phase => exact inductionHypothesis (by simp [phase])

/-! ## Up to the end -/

/-- A conversation goes on up to the stop that ends it. -/
theorem Conversation.follow
    {settings : Settings}
    {machine : Machine}
    {exchanges : List Exchange}
    {ending : Ending}
    (concludes : machine.Concludes settings exchanges ending)
    {history : List Exchange}
    (earlier : Conversation settings history machine) :
    ∃ said last final,
      Conversation settings said last ∧ last.Stops settings final ending ∧
        history ++ exchanges = said ++ final := by
  induction concludes generalizing history with
  | stopped stops => exact ⟨history, _, _, earlier, stops, rfl⟩
  | moved move rest inductionHypothesis =>
      obtain ⟨said, last, final, conversation, stops, split⟩ :=
        inductionHypothesis (earlier.continued move)
      exact ⟨said, last, final, conversation, stops, by rw [← split, List.append_assoc]⟩

theorem exists_conversation_of_send
    (settings : Settings)
    (file : FileSource φ)
    (port : SerialPort π)
    (devices : Devices φ π) :
    ∃ history machine final,
      Conversation settings history machine ∧
        machine.Stops settings final (send settings file port devices).ending ∧
          (send settings file port devices).exchanges = history ++ final :=
  Conversation.follow (Machine.concludes_send settings file port devices) .begun

/-! ## The state of each call -/

namespace Machine

/-- A state makes a call, and then these exchanges follow up to the end. -/
inductive Calls
    (settings : Settings)
    (machine : Machine)
    (exchange : Exchange) :
    List Exchange → Ending → Prop where
  | moved {next later ending}
      (move : machine.Moves settings [exchange] next)
      (rest : next.Concludes settings later ending) :
      Calls settings machine exchange later ending
  | stopped {ending}
      (stops : machine.Stops settings [exchange] ending) :
      Calls settings machine exchange [] ending

variable
  {settings : Settings}
  {machine : Machine}
  {exchanges : List Exchange}
  {ending : Ending}

private theorem Moves.length_le
    {next : Machine}
    (move : machine.Moves settings exchanges next) :
    exchanges.length ≤ 1 := by
  cases move <;> simp

private theorem Stops.length_le (stops : machine.Stops settings exchanges ending) :
    exchanges.length ≤ 1 := by
  cases stops <;> simp

/-- The call of a stop is the only one. -/
theorem Stops.eq_nil_of_append_cons
    {before after : List Exchange}
    {exchange : Exchange}
    (stops : machine.Stops settings (before ++ exchange :: after) ending) :
    before = [] ∧ after = [] := by
  have single := stops.length_le
  rw [List.length_append, List.length_cons] at single
  rw [← List.length_eq_zero_iff, ← List.length_eq_zero_iff]
  omega

/-- Each call is made by some state, to which the conversation has come by then. -/
theorem Concludes.exists_calls
    (concludes : machine.Concludes settings exchanges ending)
    {history : List Exchange}
    (conversation : Conversation settings history machine)
    {before after : List Exchange}
    {exchange : Exchange}
    (split : exchanges = before ++ exchange :: after) :
    ∃ state, Conversation settings (history ++ before) state ∧
      state.Calls settings exchange after ending := by
  induction concludes generalizing history before with
  | @stopped machine exchanges ending stops =>
      subst split
      obtain ⟨rfl, rfl⟩ := stops.eq_nil_of_append_cons
      rw [List.append_nil]
      exact ⟨machine, conversation, .stopped stops⟩
  | @moved machine next exchanges later ending move rest inductionHypothesis =>
      have continued := conversation.continued move
      -- a move makes at most one call: it is the one looked for, or that is made later
      cases exchanges with
      | nil =>
          rw [List.append_nil] at continued
          exact inductionHypothesis continued split
      | cons first others =>
          obtain rfl : others = [] := List.length_eq_zero_iff.1
            (Nat.le_zero.1 (Nat.le_of_succ_le_succ move.length_le))
          cases before with
          | nil =>
              obtain ⟨rfl, rfl⟩ := List.cons.inj split
              rw [List.append_nil]
              exact ⟨machine, conversation, .moved move rest⟩
          | cons other before =>
              obtain ⟨rfl, same⟩ := List.cons.inj split
              have made := inductionHypothesis continued same
              rw [List.append_assoc] at made
              exact made

end Machine

theorem exists_calls_of_send
    {settings : Settings}
    {file : FileSource φ}
    {port : SerialPort π}
    {devices : Devices φ π}
    {before after : List Exchange}
    {exchange : Exchange}
    (split : (send settings file port devices).exchanges = before ++ exchange :: after) :
    ∃ machine, Conversation settings before machine ∧
      machine.Calls settings exchange after (send settings file port devices).ending :=
  (Machine.concludes_send settings file port devices).exists_calls .begun split

end KermitSend

import KermitSend.Proofs.Transfer.Reached

/-!
Contract: what one step of a transfer can come to, as far as stages and counters go.

Owns:
- the passages from stage to stage, with what each does to the counters;
- which moves enter another stage;
- the law that every step is one of these passages or ends the transfer.

Does not own: how passages follow one another.
-/

set_option autoImplicit false

namespace KermitSend

variable {φ π : Type}

/-- What a step can come to that begins in a stage, with these counters and this chunk length. -/
inductive Passes (settings : Settings) : Stage → Session → Nat → Outcome → Prop where
  | opened {session length total next}
      (target : next.phase.stage = .chunking)
      (begun : next.session = .start total) :
      Passes settings .idle session length (.entered next)
  | finished {session length next}
      (target : next.phase.stage = .finish)
      (nothing : session.remaining = 0)
      (kept : next.session = session) :
      Passes settings .chunking session length (.entered next)
  | framed {session length next}
      (target : next.phase.stage = .awaitAck)
      (something : session.remaining ≠ 0)
      (fresh : next.session = { session with retries := 0 })
      (chunkLength : next.chunkLength = min session.remaining settings.chunkLimit) :
      Passes settings .chunking session length (.entered next)
  | acknowledged {session length next}
      (target : next.phase.stage = .advance)
      (kept : next.session = session)
      (chunkLength : next.chunkLength = length) :
      Passes settings .awaitAck session length (.entered next)
  | refused {session length next}
      (target : next.phase.stage = .retry)
      (kept : next.session = session)
      (chunkLength : next.chunkLength = length) :
      Passes settings .awaitAck session length (.entered next)
  | advanced {session length next}
      (target : next.phase.stage = .chunking)
      (counted : next.session = session.advance length) :
      Passes settings .advance session length (.entered next)
  | retried {session length next}
      (target : next.phase.stage = .awaitAck)
      (another : session.retries + 1 < settings.retryLimit)
      (counted : next.session =
        { session with
          retries := session.retries + 1
          retransmits := session.retransmits + 1 })
      (chunkLength : next.chunkLength = length) :
      Passes settings .retry session length (.entered next)
  | completed {session length} :
      Passes settings .finish session length (.stopped (.completed session.report))
  | failed {stage session length error} :
      Passes settings stage session length (.stopped (.failed error))

namespace Machine

section Moves

variable
  {settings : Settings}
  {machine next : Machine}
  {exchanges : List Exchange}

/-- A move that leaves less work enters another stage. -/
theorem Moves.passes
    (move : machine.Moves settings exchanges next)
    (less : Prod.Lex (· < ·) (· < ·) (next.workLeft settings) (machine.workLeft settings)) :
    Passes settings machine.phase.stage machine.session machine.chunkLength (.entered next) := by
  -- the moves within a stage leave the same work
  have elsewhere : next.workLeft settings ≠ machine.workLeft settings := by
    intro same
    rw [same, Prod.lex_def] at less
    omega
  cases move with
  | opened phase _ =>
      rw [phase]
      exact .opened rfl rfl
  | interrupted phase _ _ => exact absurd rfl elsewhere
  | stored phase _ _ _ => exact absurd (by simp [workLeft, phase]) elsewhere
  | finished phase nothing =>
      rw [phase]
      exact .finished rfl nothing rfl
  | framed phase something _ _ =>
      rw [phase]
      exact .framed rfl something rfl rfl
  | sent phase => exact absurd (by simp [workLeft, phase]) elsewhere
  | acknowledged phase _ _ =>
      rw [phase]
      exact .acknowledged rfl rfl rfl
  | refused phase _ _ =>
      rw [phase]
      exact .refused rfl rfl rfl
  | advanced phase =>
      rw [phase]
      exact .advanced rfl rfl
  | retried phase another =>
      rw [phase]
      exact .retried rfl another rfl rfl
  | ended phase => exact absurd (by simp [workLeft, phase]) elsewhere

private theorem Stops.passes
    {ending : Ending}
    (stops : machine.Stops settings exchanges ending) :
    Passes settings machine.phase.stage machine.session machine.chunkLength (.stopped ending) := by
  cases stops with
  | closed phase =>
      rw [phase]
      exact .completed
  | _ => exact .failed

end Moves

/-- Every step is a passage to another stage or ends the transfer. -/
theorem passes_of_step
    {settings : Settings}
    {file : FileSource φ}
    {port : SerialPort π}
    {machine : Machine}
    {devices : Devices φ π}
    {outcome : Outcome}
    (progressing : machine.Progressing settings)
    (comes : (machine.step settings file port devices).outcome = outcome) :
    Passes settings machine.phase.stage machine.session machine.chunkLength outcome := by
  subst comes
  fun_induction step settings file port machine devices with
  | case1 machine devices performed next enters =>
      have yields := Action.yields_perform file port devices (machine.act settings)
      have move := moves_of_call (congrArg Next.onward? enters)
      exact move.passes (progressing_of_enter progressing yields enters).2
  | case2 machine devices performed ending stops =>
      exact (stops_of_call stops).passes
  | case3 machine devices performed next stays rest inductionHypothesis =>
      have yields := Action.yields_perform file port devices (machine.act settings)
      have same := (within_cases yields stays).1
      have later := inductionHypothesis (same.progressing progressing)
      rw [same.stage, same.session, same.chunkLength] at later
      exact later

end Machine

end KermitSend

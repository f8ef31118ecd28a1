import KermitSend.Transfer.Exchange

/-!
Contract: one step of a transfer, that is, all calls of one stage.

Owns:
- the step with its record of calls and notices;
- what a call within a stage leaves as it was, and which turns enter another stage;
- why a step ends: each call brings the chunk or the stage forward, save an interrupted read,
  and of those a file allows only finitely many in a row.

Does not own: the sequence of steps.
-/

namespace KermitSend

variable {φ π : Type}

/-- How a step ends: in another stage or with the transfer. -/
inductive Outcome where
  | entered (machine : Machine)
  | stopped (ending : Ending)
deriving DecidableEq, Repr

/-- What one step did. -/
structure Step (φ π : Type) where
  /-- The state that the step began in. -/
  origin : Machine
  exchanges : List Exchange
  notices : List Notice
  outcome : Outcome
  devices : Devices φ π

namespace Machine

/-- The bytes of the chunk that a state still has to read. -/
def room (settings : Settings) (machine : Machine) : Nat :=
  match machine.phase with
  | .chunking filled => machine.wanted settings - filled
  | _ => 0

/-- The calls left in the present stage at most, interrupted reads apart. -/
def callsLeft (settings : Settings) (machine : Machine) : Nat :=
  match machine.phase with
  | .chunking filled => machine.wanted settings - filled
  | .sending | .finishing => 1
  | _ => 0

/-- Two states of one stage, with the same counters and the same chunk length. -/
structure SameStage (machine next : Machine) : Prop where
  stage : next.phase.stage = machine.phase.stage
  session : next.session = machine.session
  chunkLength : next.chunkLength = machine.chunkLength

/-- Within a stage the counters stay, and either a call is done with, or a read was interrupted
and nothing has changed. -/
theorem within_cases
    {settings : Settings}
    {machine next : Machine}
    {exchanges : List Exchange}
    {turn : Turn}
    (yields : (machine.act settings).Yields exchanges turn)
    (stays : turn.next = .within next) :
    SameStage machine next ∧
      (next.callsLeft settings < machine.callsLeft settings ∨
        next = machine ∧ ∃ fault,
          fault.kind = .interrupted ∧
            exchanges = [.fileRead (machine.room settings) (.error fault)]) := by
  obtain ⟨phase, session, buffer, chunkLength, frame⟩ := machine
  cases phase with
  | idle =>
      simp only [act, opening] at yields
      split at yields
      · cases yields
        simp [Turn.fail] at stays
      · cases yields with
        | askSize _ answer => cases answer <;> simp [Turn.fail, begin, Turn.enter] at stays
  | chunking filled =>
      simp only [act, chunking] at yields
      split at yields
      · cases yields
        simp [Turn.enter] at stays
      · split at yields
        · rename_i more
          cases yields with
          | fileRead _ _ answer =>
              rcases answer with fault | bytes
              · by_cases interrupted : fault.kind = .interrupted
                · simp only [absorb, interrupted, if_true, Next.within.injEq] at stays
                  subst stays
                  exact ⟨⟨rfl, rfl, rfl⟩, .inr ⟨rfl, fault, interrupted, rfl⟩⟩
                · simp [absorb, interrupted, Turn.fail] at stays
              · cases bytes with
                | nil => simp [absorb, Turn.fail] at stays
                | cons byte bytes =>
                    simp only [absorb, Next.within.injEq] at stays
                    subst stays
                    refine ⟨⟨rfl, rfl, rfl⟩, .inl ?_⟩
                    simp only [callsLeft, wanted, List.length_cons] at more ⊢
                    omega
        · cases yields
          simp only [dispatch] at stays
          split at stays <;> simp [Turn.fail, Turn.enter] at stays
  | sending =>
      simp only [act, sending] at yields
      cases yields with
      | write _ _ answer =>
          cases answer with
          | error fault => simp [Turn.fail] at stays
          | ok done =>
              simp only [Next.within.injEq] at stays
              subst stays
              exact ⟨⟨rfl, rfl, rfl⟩, .inl (by simp [callsLeft])⟩
  | receiving =>
      simp only [act, receiving] at yields
      cases yields with
      | receive _ _ _ answer =>
          cases answer with
          | error fault =>
              simp only at stays
              split at stays
              · simp only [judge] at stays
                split at stays <;> simp [Turn.enter] at stays
              · simp [Turn.fail] at stays
          | ok bytes =>
              simp only [judge] at stays
              split at stays <;> simp [Turn.enter] at stays
  | advance =>
      cases yields
      simp [accept, Turn.enter] at stays
  | retry =>
      cases yields
      simp only [tryAgain] at stays
      split at stays <;> simp [Turn.fail, Turn.enter] at stays
  | finishing =>
      simp only [act, finishing] at yields
      cases yields with
      | write _ _ answer =>
          cases answer with
          | error fault => simp [Turn.fail] at stays
          | ok done =>
              simp only [Next.within.injEq] at stays
              subst stays
              exact ⟨⟨rfl, rfl, rfl⟩, .inl (by simp [callsLeft])⟩
  | closing =>
      simp only [act, closing] at yields
      cases yields
      simp at stays

/-- The turns that enter another stage, one constructor for each, with what is known before. -/
inductive Enters (settings : Settings) (machine next : Machine) : Prop where
  | begun {size}
      (phase : machine.phase = .idle)
      (accepted : settings.validate = .ok ())
      (enters : (machine.begin settings size).next = .enter next)
  | finished {filled}
      (phase : machine.phase = .chunking filled)
      (nothing : machine.session.remaining = 0)
      (enters : (Turn.enter [] machine .finishing).next = .enter next)
  | framed {filled}
      (phase : machine.phase = .chunking filled)
      (something : machine.session.remaining ≠ 0)
      (enters : (machine.dispatch settings).next = .enter next)
  | judged {bytes}
      (phase : machine.phase = .receiving)
      (enters : (machine.judge bytes).next = .enter next)
  | advanced
      (phase : machine.phase = .advance)
      (enters : machine.accept.next = .enter next)
  | retried
      (phase : machine.phase = .retry)
      (enters : (machine.tryAgain settings).next = .enter next)

/-- No other answer to any call enters a stage. -/
theorem enters_of_yields
    {settings : Settings}
    {machine next : Machine}
    {exchanges : List Exchange}
    {turn : Turn}
    (yields : (machine.act settings).Yields exchanges turn)
    (enters : turn.next = .enter next) :
    Enters settings machine next := by
  cases phase : machine.phase with
  | idle =>
      simp only [act, phase, opening] at yields
      split at yields
      · cases yields
        simp [Turn.fail] at enters
      · rename_i accepted
        cases yields with
        | askSize _ answer =>
            cases answer with
            | error fault => simp [Turn.fail] at enters
            | ok size => exact .begun phase accepted enters
  | chunking filled =>
      simp only [act, phase, chunking] at yields
      split at yields
      · rename_i nothing
        cases yields
        exact .finished phase nothing enters
      · rename_i something
        split at yields
        · cases yields with
          | fileRead _ _ answer =>
              rcases answer with fault | bytes
              · by_cases interrupted : fault.kind = .interrupted
                · simp [absorb, interrupted] at enters
                · simp [absorb, interrupted, Turn.fail] at enters
              · cases bytes <;> simp [absorb, Turn.fail] at enters
        · cases yields
          exact .framed phase something enters
  | sending =>
      simp only [act, phase, sending] at yields
      cases yields with
      | write _ _ answer => cases answer <;> simp [Turn.fail] at enters
  | receiving =>
      simp only [act, phase, receiving] at yields
      cases yields with
      | receive _ _ _ answer =>
          cases answer with
          | error fault =>
              simp only at enters
              split at enters
              · exact .judged phase enters
              · simp [Turn.fail] at enters
          | ok bytes => exact .judged phase enters
  | advance =>
      simp only [act, phase] at yields
      cases yields
      exact .advanced phase enters
  | retry =>
      simp only [act, phase] at yields
      cases yields
      exact .retried phase enters
  | finishing =>
      simp only [act, phase, finishing] at yields
      cases yields with
      | write _ _ answer => cases answer <;> simp [Turn.fail] at enters
  | closing =>
      simp only [act, phase, closing] at yields
      cases yields
      simp at enters

set_option linter.unusedVariables false in
/-- Make all calls of the present stage. -/
def step
    (settings : Settings)
    (file : FileSource φ)
    (port : SerialPort π)
    (machine : Machine)
    (devices : Devices φ π) :
    Step φ π :=
  let performed := (machine.act settings).perform file port devices
  match stays : performed.turn.next with
  | .enter next =>
      { origin := machine
        exchanges := performed.exchanges
        notices := performed.turn.notices
        outcome := .entered next
        devices := performed.devices }
  | .stop ending =>
      { origin := machine
        exchanges := performed.exchanges
        notices := performed.turn.notices
        outcome := .stopped ending
        devices := performed.devices }
  | .within next =>
      let rest := next.step settings file port performed.devices
      { rest with
        origin := machine
        exchanges := performed.exchanges ++ rest.exchanges
        notices := performed.turn.notices ++ rest.notices }
termination_by (machine.callsLeft settings, file.patience devices.file (machine.room settings))
decreasing_by
  have yields := Action.yields_perform file port devices (machine.act settings)
  rcases (within_cases yields stays).2 with fewer | ⟨same, fault, interrupted, exchanged⟩
  · exact Prod.Lex.left _ _ fewer
  · subst same
    exact Prod.Lex.right _ (Action.patience_perform file port devices _ exchanged interrupted)

/-- A property that every call within a stage keeps holds before the call that ends the
step. -/
theorem last_call_of_step
    {settings : Settings}
    {file : FileSource φ}
    {port : SerialPort π}
    (kept : Machine → Prop)
    (keeps : ∀ machine next exchanges turn,
      kept machine → (machine.act settings).Yields exchanges turn →
        turn.next = .within next → kept next)
    (machine : Machine)
    (devices : Devices φ π)
    (holds : kept machine) :
    ∃ last exchanges turn,
      kept last ∧ (last.act settings).Yields exchanges turn ∧
        ((∃ next, turn.next = .enter next ∧
            (machine.step settings file port devices).outcome = .entered next) ∨
          ∃ ending, turn.next = .stop ending ∧
            (machine.step settings file port devices).outcome = .stopped ending) := by
  fun_induction step settings file port machine devices with
  | case1 machine devices performed next stays =>
      exact ⟨machine, _, _, holds, Action.yields_perform file port devices _,
        Or.inl ⟨next, stays, rfl⟩⟩
  | case2 machine devices performed ending stays =>
      exact ⟨machine, _, _, holds, Action.yields_perform file port devices _,
        Or.inr ⟨ending, stays, rfl⟩⟩
  | case3 machine devices performed next stays rest inductionHypothesis =>
      exact inductionHypothesis
        (keeps machine next _ _ holds (Action.yields_perform file port devices _) stays)

end Machine

end KermitSend

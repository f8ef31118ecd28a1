import KermitSend.Transfer.Step

/-!
Contract: a whole transfer, step after step.

Owns:
- what holds in every stage after the first: settings in order, a chunk that is not empty, an
  attempt left;
- why a transfer ends: with every step the bytes left, the attempts left or the stage go down;
- the run of all steps and the record it leaves.

Does not own: what a run achieves.
-/

namespace KermitSend

variable {φ π : Type}

namespace Machine

/-- What the steps of a transfer rely on to come to an end. -/
structure Progressing (settings : Settings) (machine : Machine) : Prop where
  accepted : machine.phase ≠ .idle → settings.validate = .ok ()
  carries : machine.phase.inFlight = true →
    0 < machine.chunkLength ∧ machine.chunkLength ≤ machine.session.remaining ∧
      machine.session.retries.toNat < settings.retryLimit.toNat

theorem initial_progressing (settings : Settings) : initial.Progressing settings :=
  { accepted := fun notIdle => absurd rfl notIdle
    carries := fun flying => by simp [initial, Phase.inFlight] at flying }

/-- The work left: first whether the size is still to be asked for, then bytes, attempts and
stage in one number. -/
def workLeft (settings : Settings) (machine : Machine) : Nat × Nat :=
  let remaining := machine.session.remaining * 1024
  let attempts := (settings.retryLimit.toNat - machine.session.retries.toNat) * 3
  match machine.phase with
  | .idle => (1, 0)
  | .chunking _ => (0, remaining + 768)
  | .sending | .receiving => (0, remaining + attempts + 2)
  | .advance | .retry => (0, remaining + attempts + 1)
  | .finishing | .closing => (0, remaining)

/-- The work left hangs on the stage and the counters alone. -/
theorem workLeft_eq (settings : Settings) (machine : Machine) :
    machine.workLeft settings =
      match machine.phase.stage with
      | .idle => (1, 0)
      | .chunking => (0, machine.session.remaining * 1024 + 768)
      | .awaitAck =>
          (0, machine.session.remaining * 1024
            + (settings.retryLimit.toNat - machine.session.retries.toNat) * 3 + 2)
      | .advance | .retry =>
          (0, machine.session.remaining * 1024
            + (settings.retryLimit.toNat - machine.session.retries.toNat) * 3 + 1)
      | .finish => (0, machine.session.remaining * 1024) := by
  obtain ⟨phase, session, buffer, chunkLength, frame⟩ := machine
  cases phase <;> rfl

/-! ## Calls within a stage -/

section Within

variable
  {settings : Settings}
  {machine next : Machine}

theorem SameStage.progressing
    (same : SameStage machine next)
    (progressing : machine.Progressing settings) :
    next.Progressing settings := by
  constructor
  · intro notIdle
    apply progressing.accepted
    intro idle
    apply notIdle
    rw [Phase.eq_idle_iff, same.stage, ← Phase.eq_idle_iff]
    exact idle
  · intro flying
    rw [same.session, same.chunkLength]
    apply progressing.carries
    rw [Phase.inFlight_iff, ← same.stage, ← Phase.inFlight_iff]
    exact flying

theorem SameStage.workLeft_eq (same : SameStage machine next) :
    next.workLeft settings = machine.workLeft settings := by
  rw [Machine.workLeft_eq, Machine.workLeft_eq, same.stage, same.session]

/-- A call within a stage keeps a transfer progressing and leaves the same work. -/
theorem progressing_of_within
    {exchanges : List Exchange}
    {turn : Turn}
    (progressing : machine.Progressing settings)
    (yields : (machine.act settings).Yields exchanges turn)
    (stays : turn.next = .within next) :
    next.Progressing settings ∧ next.workLeft settings = machine.workLeft settings := by
  have same := (within_cases yields stays).1
  exact ⟨same.progressing progressing, same.workLeft_eq⟩

end Within

/-! ## Calls that enter a stage -/

section Entering

variable
  {settings : Settings}
  {machine next : Machine}

theorem progressing_of_begin
    {size : Nat}
    (phase : machine.phase = .idle)
    (valid : settings.validate = .ok ())
    (enters : (machine.begin settings size).next = .enter next) :
    next.Progressing settings ∧
      Prod.Lex (· < ·) (· < ·) (next.workLeft settings) (machine.workLeft settings) := by
  simp only [begin, Turn.enter, Next.enter.injEq] at enters
  subst enters
  refine ⟨⟨fun _ => valid, by simp [Phase.inFlight]⟩, ?_⟩
  simp only [workLeft, phase]
  exact Prod.Lex.left _ _ (by decide)

theorem progressing_of_finish
    {filled : Nat}
    (phase : machine.phase = .chunking filled)
    (progressing : machine.Progressing settings)
    (enters : (Turn.enter [] machine .finishing).next = .enter next) :
    next.Progressing settings ∧
      Prod.Lex (· < ·) (· < ·) (next.workLeft settings) (machine.workLeft settings) := by
  have valid := progressing.accepted (by simp [phase])
  simp only [Turn.enter, Next.enter.injEq] at enters
  subst enters
  refine ⟨⟨fun _ => valid, by simp [Phase.inFlight]⟩, ?_⟩
  simp only [workLeft, phase]
  exact Prod.Lex.right _ (by omega)

/-- A chunk that is framed takes the place of its bytes in the work left: the attempts for it count
for less than any byte. -/
theorem progressing_of_dispatch
    {filled : Nat}
    (phase : machine.phase = .chunking filled)
    (progressing : machine.Progressing settings)
    (something : machine.session.remaining ≠ 0)
    (enters : (machine.dispatch settings).next = .enter next) :
    next.Progressing settings ∧
      Prod.Lex (· < ·) (· < ·) (next.workLeft settings) (machine.workLeft settings) := by
  have valid := progressing.accepted (by simp [phase])
  obtain ⟨chunkPositive, _, retryPositive, _⟩ := (settings.validate_eq_ok_iff).1 valid
  have limit := settings.retryLimit.toNat_lt
  simp only [dispatch] at enters
  split at enters
  · simp [Turn.fail] at enters
  · simp only [Turn.enter, Next.enter.injEq] at enters
    subst enters
    constructor
    · refine ⟨fun _ => valid, fun _ => ?_⟩
      simp only [wanted]
      refine ⟨by omega, by omega, ?_⟩
      simpa using retryPositive
    · simp only [workLeft, phase, UInt8.toNat_zero] at limit ⊢
      exact Prod.Lex.right _ (by omega)

theorem progressing_of_judge
    (phase : machine.phase = .receiving)
    (progressing : machine.Progressing settings)
    {bytes : List UInt8}
    (enters : (machine.judge bytes).next = .enter next) :
    next.Progressing settings ∧
      Prod.Lex (· < ·) (· < ·) (next.workLeft settings) (machine.workLeft settings) := by
  have valid := progressing.accepted (by simp [phase])
  have carries := progressing.carries (by simp [phase, Phase.inFlight])
  simp only [judge] at enters
  split at enters <;>
    · simp only [Turn.enter, Next.enter.injEq] at enters
      subst enters
      refine ⟨⟨fun _ => valid, fun _ => carries⟩, ?_⟩
      simp only [workLeft, phase]
      exact Prod.Lex.right _ (Nat.lt_succ_self _)

/-- The acknowledged bytes are work done: they are some, and they were left. -/
theorem progressing_of_accept
    (phase : machine.phase = .advance)
    (progressing : machine.Progressing settings)
    (enters : machine.accept.next = .enter next) :
    next.Progressing settings ∧
      Prod.Lex (· < ·) (· < ·) (next.workLeft settings) (machine.workLeft settings) := by
  have valid := progressing.accepted (by simp [phase])
  obtain ⟨chunkPositive, chunkFits, -⟩ := progressing.carries (by simp [phase, Phase.inFlight])
  simp only [accept, Turn.enter, Next.enter.injEq] at enters
  subst enters
  refine ⟨⟨fun _ => valid, by simp [Phase.inFlight]⟩, ?_⟩
  simp only [workLeft, phase, Session.advance]
  exact Prod.Lex.right _ (by omega)

theorem progressing_of_tryAgain
    (phase : machine.phase = .retry)
    (progressing : machine.Progressing settings)
    (enters : (machine.tryAgain settings).next = .enter next) :
    next.Progressing settings ∧
      Prod.Lex (· < ·) (· < ·) (next.workLeft settings) (machine.workLeft settings) := by
  have valid := progressing.accepted (by simp [phase])
  obtain ⟨chunkPositive, chunkFits, attemptsLeft⟩ :=
    progressing.carries (by simp [phase, Phase.inFlight])
  have limit := settings.retryLimit.toNat_lt
  simp only [tryAgain] at enters
  split at enters
  · simp [Turn.fail] at enters
  · rename_i another
    simp only [Turn.enter, Next.enter.injEq] at enters
    subst enters
    have raised : (machine.session.retries + 1).toNat = machine.session.retries.toNat + 1 := by
      simp only [UInt8.toNat_add, UInt8.toNat_one] at limit attemptsLeft ⊢
      omega
    have below : (machine.session.retries + 1).toNat < settings.retryLimit.toNat := by
      simpa [UInt8.le_iff_toNat_le] using another
    refine ⟨⟨fun _ => valid, fun _ => ⟨chunkPositive, chunkFits, below⟩⟩, ?_⟩
    simp only [workLeft, phase, raised] at below ⊢
    exact Prod.Lex.right _ (by omega)

/-- Entering a stage keeps a transfer progressing and leaves less work. -/
theorem progressing_of_enter
    {exchanges : List Exchange}
    {turn : Turn}
    (progressing : machine.Progressing settings)
    (yields : (machine.act settings).Yields exchanges turn)
    (enters : turn.next = .enter next) :
    next.Progressing settings ∧
      Prod.Lex (· < ·) (· < ·) (next.workLeft settings) (machine.workLeft settings) := by
  cases enters_of_yields yields enters with
  | begun phase accepted entered => exact progressing_of_begin phase accepted entered
  | finished phase nothing entered => exact progressing_of_finish phase progressing entered
  | framed phase something entered =>
      exact progressing_of_dispatch phase progressing something entered
  | judged phase entered => exact progressing_of_judge phase progressing entered
  | advanced phase entered => exact progressing_of_accept phase progressing entered
  | retried phase entered => exact progressing_of_tryAgain phase progressing entered

end Entering

/-- A step that enters a stage keeps a transfer progressing and leaves less work. -/
theorem progressing_of_step
    {settings : Settings}
    {file : FileSource φ}
    {port : SerialPort π}
    {machine next : Machine}
    {devices : Devices φ π}
    (progressing : machine.Progressing settings)
    (entered : (machine.step settings file port devices).outcome = .entered next) :
    next.Progressing settings ∧
      Prod.Lex (· < ·) (· < ·) (next.workLeft settings) (machine.workLeft settings) := by
  obtain ⟨last, exchanges, turn, ⟨lastProgressing, sameWork⟩, yields, ends⟩ :=
    last_call_of_step
      (fun reached => reached.Progressing settings ∧
        reached.workLeft settings = machine.workLeft settings)
      (fun _ _ _ _ kept yields stays =>
        have moved := progressing_of_within kept.1 yields stays
        ⟨moved.1, moved.2.trans kept.2⟩)
      machine devices ⟨progressing, rfl⟩
  rcases ends with ⟨reached, enters, outcome⟩ | ⟨ending, _, outcome⟩
  · rw [outcome, Outcome.entered.injEq] at entered
    subst entered
    rw [← sameWork]
    exact progressing_of_enter lastProgressing yields enters
  · rw [outcome] at entered
    simp at entered

end Machine

/-- The record of a run: its steps in order, how it ended, and the devices at the end. -/
structure Run (φ π : Type) where
  steps : List (Step φ π)
  ending : Ending
  devices : Devices φ π

namespace Run

/-- All calls of a run, in order. -/
def exchanges (run : Run φ π) : List Exchange :=
  run.steps.flatMap Step.exchanges

/-- All notices of a run, in order. -/
def notices (run : Run φ π) : List Notice :=
  run.steps.flatMap Step.notices

end Run

/-- Take step after step until the transfer ends. -/
def Machine.run
    (settings : Settings)
    (file : FileSource φ)
    (port : SerialPort π)
    (machine : Machine)
    (progressing : machine.Progressing settings)
    (devices : Devices φ π) :
    Run φ π :=
  let step := machine.step settings file port devices
  match ends : step.outcome with
  | .stopped ending => { steps := [step], ending, devices := step.devices }
  | .entered next =>
      let rest :=
        next.run settings file port (Machine.progressing_of_step progressing ends).1 step.devices
      { rest with steps := step :: rest.steps }
termination_by machine.workLeft settings
decreasing_by exact (Machine.progressing_of_step progressing ends).2

/-- Take at most `count` steps, stopping early when the transfer ends. -/
def Machine.steps
    (settings : Settings)
    (file : FileSource φ)
    (port : SerialPort π) :
    Nat → Machine → Devices φ π → List (Step φ π)
  | 0, _, _ => []
  | count + 1, machine, devices =>
      let step := machine.step settings file port devices
      match step.outcome with
      | .stopped _ => [step]
      | .entered next => step :: next.steps settings file port count step.devices

/-- Send the whole file: the run ends when every packet is acknowledged and the end of the
transfer is told, or with the first failure that cannot be retried. -/
def send
    (settings : Settings)
    (file : FileSource φ)
    (port : SerialPort π)
    (devices : Devices φ π) :
    Run φ π :=
  Machine.initial.run settings file port (Machine.initial_progressing settings) devices

end KermitSend

import KermitSend.Proofs.Transfer.Failure
import KermitSend.Proofs.Transfer.Stages

/-!
Contract: the stages that a transfer goes through, and how many steps that takes.

Owns:
- the itineraries of completed transfers, one lap a packet;
- the steps that lie behind a state and those that can lie ahead of it;
- the law that every transfer visits the stages of an itinerary, as far as it goes, and that its
  report tells the number of its steps;
- the law that no transfer takes more steps than its packets and attempts allow, so that a loop of
  that many steps takes all of them.

Does not own: what the steps do.
-/

set_option autoImplicit false

namespace KermitSend

variable {φ π : Type}

/-- The stages in which the steps of a run began. -/
def Run.stages (run : Run φ π) : List Stage :=
  run.steps.map fun step => step.origin.phase.stage

/-! ## Itineraries -/

/-- The stages for one packet that is sent again so often, up to the reading of the next. -/
def lap (again : Nat) : List Stage :=
  .awaitAck :: (List.replicate again [.retry, .awaitAck]).flatten ++ [.advance, .chunking]

/-- The stages of a transfer whose packets are sent again so often each. -/
def itinerary (laps : List Nat) : List Stage :=
  [.idle, .chunking] ++ laps.flatMap lap ++ [.finish]

example : itinerary [1, 0] =
    [.idle, .chunking, .awaitAck, .retry, .awaitAck, .advance, .chunking,
      .awaitAck, .advance, .chunking, .finish] := by
  decide

/-- The part of an itinerary that comes after the reading of a chunk, or of the end of the file. -/
def homeward (laps : List Nat) : List Stage :=
  laps.flatMap lap ++ [.finish]

/-- From a stage on, these are the stages of some itinerary up to its end. -/
def Onward (stage : Stage) (stages : List Stage) : Prop :=
  match stage with
  | .idle => ∃ laps, stages = itinerary laps
  | .chunking => ∃ laps, stages = .chunking :: homeward laps
  | .awaitAck => ∃ again laps, stages = lap again ++ homeward laps
  | .advance => ∃ laps, stages = .advance :: .chunking :: homeward laps
  | .retry => ∃ again laps, stages = .retry :: lap again ++ homeward laps
  | .finish => stages = [.finish]

private theorem lap_succ (again : Nat) : lap (again + 1) = .awaitAck :: .retry :: lap again := by
  simp [lap, List.replicate_succ]

/-- From every stage on, there is a way to the end. -/
theorem exists_onward (stage : Stage) : ∃ later, Onward stage (stage :: later) := by
  cases stage with
  | idle => exact ⟨_, [], rfl⟩
  | chunking => exact ⟨_, [], rfl⟩
  | awaitAck => exact ⟨_, 0, [], rfl⟩
  | advance => exact ⟨_, [], rfl⟩
  | retry => exact ⟨_, 0, [], rfl⟩
  | finish => exact ⟨[], rfl⟩

/-- A passage goes one stage ahead on an itinerary. -/
theorem Passes.onward
    {settings : Settings}
    {stage : Stage}
    {session : Session}
    {length : Nat}
    {next : Machine}
    (passes : Passes settings stage session length (.entered next))
    {stages : List Stage}
    (onward : Onward next.phase.stage stages) :
    Onward stage (stage :: stages) := by
  cases passes with
  | opened target _ =>
      rw [target] at onward
      obtain ⟨laps, rfl⟩ := onward
      exact ⟨laps, rfl⟩
  | finished target _ _ =>
      rw [target] at onward
      obtain rfl := onward
      exact ⟨[], rfl⟩
  | framed target _ _ _ =>
      rw [target] at onward
      obtain ⟨again, laps, rfl⟩ := onward
      exact ⟨again :: laps, by rw [homeward, homeward, List.flatMap_cons, List.append_assoc]⟩
  | acknowledged target _ _ =>
      rw [target] at onward
      obtain ⟨laps, rfl⟩ := onward
      exact ⟨0, laps, rfl⟩
  | refused target _ _ =>
      rw [target] at onward
      obtain ⟨again, laps, rfl⟩ := onward
      exact ⟨again + 1, laps, by rw [lap_succ]; rfl⟩
  | advanced target _ =>
      rw [target] at onward
      obtain ⟨laps, rfl⟩ := onward
      exact ⟨laps, rfl⟩
  | retried target _ _ _ =>
      rw [target] at onward
      obtain ⟨again, laps, rfl⟩ := onward
      exact ⟨again, laps, rfl⟩

/-! ## Steps behind and steps ahead -/

/-- The steps that lie behind a state of this stage with these counters. -/
def stepsBehind (session : Session) : Stage → Nat
  | .idle => 0
  | .chunking => 1 + 3 * session.packets + 2 * session.retransmits
  | .awaitAck | .finish => 2 + 3 * session.packets + 2 * session.retransmits
  | .advance | .retry => 3 + 3 * session.packets + 2 * session.retransmits

private theorem Passes.stepsBehind_succ
    {settings : Settings}
    {stage : Stage}
    {session : Session}
    {length : Nat}
    {next : Machine}
    (passes : Passes settings stage session length (.entered next)) :
    stepsBehind next.session next.phase.stage = stepsBehind session stage + 1 := by
  cases passes with
  | opened target begun =>
      rw [target, begun]
      rfl
  | finished target _ kept =>
      rw [target, kept]
      simp only [stepsBehind]
      omega
  | framed target _ fresh _ =>
      rw [target, fresh]
      simp only [stepsBehind]
      omega
  | acknowledged target kept _ =>
      rw [target, kept]
      simp only [stepsBehind]
      omega
  | refused target kept _ =>
      rw [target, kept]
      simp only [stepsBehind]
      omega
  | advanced target counted =>
      rw [target, counted]
      simp only [stepsBehind, Session.advance]
      omega
  | retried target _ counted _ =>
      rw [target, counted]
      simp only [stepsBehind]
      omega

/-- The packets that so many bytes make. -/
def packetCount (settings : Settings) (bytes : Nat) : Nat :=
  (bytes + settings.chunkLimit - 1) / settings.chunkLimit

private theorem packetCount_of_ne_zero
    {settings : Settings}
    {bytes : Nat}
    (positive : 0 < settings.chunkLimit)
    (something : bytes ≠ 0) :
    packetCount settings bytes =
      packetCount settings (bytes - min bytes settings.chunkLimit) + 1 := by
  have left : bytes - min bytes settings.chunkLimit = bytes - settings.chunkLimit := by
    omega
  rw [packetCount, packetCount, left]
  exact ceil_div_of_ne_zero positive something

/-- The steps that one packet can take. -/
def lapLimit (settings : Settings) : Nat :=
  2 * settings.retryLimit.toNat + 1

/-- The steps that can lie ahead of a state of this stage, with these counters and a chunk of this
length in flight: after what is left of the present packet, a whole lap for each later one. -/
def stepsAhead (settings : Settings) (session : Session) (length : Nat) : Stage → Nat
  | .idle => 0
  | .chunking => packetCount settings session.remaining * lapLimit settings + 2
  | .awaitAck => packetCount settings (session.remaining - length) * lapLimit settings +
      2 * (settings.retryLimit.toNat - session.retries.toNat) + 2
  | .retry => packetCount settings (session.remaining - length) * lapLimit settings +
      2 * (settings.retryLimit.toNat - session.retries.toNat) + 1
  | .advance => packetCount settings (session.remaining - length) * lapLimit settings + 3
  | .finish => 1

private theorem stepsAhead_pos
    {settings : Settings}
    {session : Session}
    {length : Nat}
    {stage : Stage}
    (started : stage ≠ .idle) :
    0 < stepsAhead settings session length stage := by
  cases stage with
  | idle => exact absurd rfl started
  | _ =>
      simp only [stepsAhead]
      omega

/-- A passage leaves at least one step less ahead. -/
theorem Passes.stepsAhead_lt
    {settings : Settings}
    {stage : Stage}
    {session : Session}
    {length : Nat}
    {next : Machine}
    (passes : Passes settings stage session length (.entered next))
    (started : stage ≠ .idle)
    (positive : 0 < settings.chunkLimit)
    (left : stage = .awaitAck ∨ stage = .retry → session.retries < settings.retryLimit) :
    stepsAhead settings next.session next.chunkLength next.phase.stage <
      stepsAhead settings session length stage := by
  cases passes with
  | opened _ _ => exact absurd rfl started
  | finished target _ _ =>
      rw [target]
      simp only [stepsAhead]
      omega
  | framed target something fresh chunkLength =>
      -- the lap of this packet is the wait now entered and two steps for every other attempt
      rw [target, fresh, chunkLength]
      simp only [stepsAhead, UInt8.toNat_zero, packetCount_of_ne_zero positive something,
        Nat.add_one_mul, lapLimit]
      omega
  | acknowledged target kept chunkLength =>
      have attempts := UInt8.lt_iff_toNat_lt.1 (left (.inl rfl))
      rw [target, kept, chunkLength]
      simp only [stepsAhead]
      omega
  | refused target kept chunkLength =>
      rw [target, kept, chunkLength]
      simp only [stepsAhead]
      omega
  | advanced target counted =>
      rw [target, counted]
      simp only [stepsAhead, Session.advance]
      omega
  | retried target _ counted chunkLength =>
      have attempts := left (.inr rfl)
      have raised := toNat_succ_of_lt attempts
      rw [UInt8.lt_iff_toNat_lt] at attempts
      rw [target, counted, chunkLength]
      simp only [stepsAhead, raised]
      omega

/-! ## Whole runs -/

theorem Passes.target_ne_idle
    {settings : Settings}
    {stage : Stage}
    {session : Session}
    {length : Nat}
    {next : Machine}
    (passes : Passes settings stage session length (.entered next)) :
    next.phase.stage ≠ .idle := by
  cases passes <;> simp_all

private theorem Passes.target_of_idle
    {settings : Settings}
    {session : Session}
    {length : Nat}
    {next : Machine}
    (passes : Passes settings .idle session length (.entered next)) :
    next.phase.stage = .chunking := by
  cases passes with
  | opened target _ => exact target

private theorem Machine.Progressing.retries_lt
    {settings : Settings}
    {machine : Machine}
    (progressing : machine.Progressing settings)
    (waiting : machine.phase.stage = .awaitAck ∨ machine.phase.stage = .retry) :
    machine.session.retries < settings.retryLimit := by
  have flying : machine.phase.inFlight = true := by
    cases phase : machine.phase <;> simp_all [Phase.stage, Phase.inFlight]
  exact UInt8.lt_iff_toNat_lt.2 (progressing.carries flying).2.2

section Runs

variable
  {settings : Settings}
  (file : FileSource φ)
  (port : SerialPort π)
  {machine : Machine}
  (devices : Devices φ π)

private theorem Machine.origin_step : (machine.step settings file port devices).origin = machine := by
  fun_cases step settings file port machine devices <;> rfl

/-- A run visits the stages of an itinerary from its first stage on, all of them if it completes. -/
theorem Machine.onward_run (progressing : machine.Progressing settings) :
    ∃ stages, Onward machine.phase.stage stages ∧
      (machine.run settings file port progressing devices).stages <+: stages ∧
        ∀ report, (machine.run settings file port progressing devices).ending =
            .completed report →
          (machine.run settings file port progressing devices).stages = stages := by
  fun_induction Machine.run settings file port machine progressing devices with
  | case1 machine progressing devices step ending stopped =>
      have passes := passes_of_step progressing stopped
      have visited : Run.stages ⟨[step], ending, step.devices⟩ = [machine.phase.stage] := by
        rw [Run.stages, List.map_singleton, origin_step]
      rw [visited]
      generalize machine.phase.stage = stage at passes ⊢
      cases passes with
      | completed => exact ⟨[.finish], rfl, List.prefix_refl _, fun _ _ => rfl⟩
      | failed =>
          obtain ⟨later, onward⟩ := exists_onward stage
          refine ⟨stage :: later, onward, List.prefix_append [stage] later, ?_⟩
          intro report completed
          cases completed
  | case2 machine progressing devices step next entered rest inductionHypothesis =>
      have passes := passes_of_step progressing entered
      have visited : Run.stages { rest with steps := step :: rest.steps } =
          machine.phase.stage :: rest.stages := by
        rw [Run.stages, List.map_cons, origin_step, Run.stages]
      rw [visited]
      obtain ⟨stages, onward, ahead, whole⟩ := inductionHypothesis
      refine ⟨machine.phase.stage :: stages, passes.onward onward,
        (List.prefix_cons_inj _).2 ahead, ?_⟩
      intro report completed
      exact congrArg (machine.phase.stage :: ·) (whole report completed)

/-- The report of a run that completes tells the steps behind its beginning and its own. -/
theorem Machine.length_steps_of_completed
    {file : FileSource φ}
    {port : SerialPort π}
    {devices : Devices φ π}
    (progressing : machine.Progressing settings)
    {report : Report}
    (completed : (machine.run settings file port progressing devices).ending =
      .completed report) :
    stepsBehind machine.session machine.phase.stage +
        (machine.run settings file port progressing devices).steps.length =
      3 + 3 * report.packets + 2 * report.retransmits := by
  fun_induction Machine.run settings file port machine progressing devices with
  | case1 machine progressing devices step ending stopped =>
      have passes := passes_of_step progressing stopped
      rw [show ending = .completed report from completed] at passes
      generalize machine.phase.stage = stage at passes ⊢
      cases passes with
      | completed =>
          simp only [stepsBehind, Session.report, List.length_singleton]
          omega
  | case2 machine progressing devices step next entered rest inductionHypothesis =>
      have passes := passes_of_step progressing entered
      have counted := inductionHypothesis completed
      rw [passes.stepsBehind_succ, Nat.add_assoc, Nat.add_comm 1] at counted
      exact counted

/-- A run takes no more steps than lie ahead of its beginning. -/
theorem Machine.length_steps_le
    (progressing : machine.Progressing settings)
    (started : machine.phase.stage ≠ .idle) :
    (machine.run settings file port progressing devices).steps.length ≤
      stepsAhead settings machine.session machine.chunkLength machine.phase.stage := by
  fun_induction Machine.run settings file port machine progressing devices with
  | case1 machine progressing devices step ending stopped => exact stepsAhead_pos started
  | case2 machine progressing devices step next entered rest inductionHypothesis =>
      have passes := passes_of_step progressing entered
      have accepted := progressing.accepted fun idle => started (congrArg Phase.stage idle)
      have positive := ((settings.validate_eq_ok_iff).1 accepted).1
      have fewer := passes.stepsAhead_lt started positive progressing.retries_lt
      have later := inductionHypothesis passes.target_ne_idle
      exact Nat.lt_of_le_of_lt later fewer

/-- A loop that is allowed as many steps as the run takes, or more, takes the same steps. -/
theorem Machine.steps_eq_run
    {file : FileSource φ}
    {port : SerialPort π}
    {devices : Devices φ π}
    (progressing : machine.Progressing settings)
    {count : Nat}
    (enough : (machine.run settings file port progressing devices).steps.length ≤ count) :
    machine.steps settings file port count devices =
      (machine.run settings file port progressing devices).steps := by
  fun_induction Machine.run settings file port machine progressing devices generalizing count with
  | case1 machine progressing devices step ending =>
      rename_i stopped
      cases count with
      | zero => exact absurd enough (Nat.not_succ_le_zero _)
      | succ count =>
          simp only [Machine.steps,
            show (machine.step settings file port devices).outcome = .stopped ending from stopped]
          rfl
  | case2 machine progressing devices step next entered rest =>
      rename_i inductionHypothesis
      cases count with
      | zero => exact absurd enough (Nat.not_succ_le_zero _)
      | succ count =>
          have later := inductionHypothesis (Nat.le_of_succ_le_succ enough)
          simp only [Machine.steps,
            show (machine.step settings file port devices).outcome = .entered next from entered]
          exact congrArg (step :: ·) later

end Runs

/-! ## Whole transfers -/

/-- The size that a file announces; a file that cannot tell announces nothing to send. -/
def FileSource.announced (file : FileSource φ) (state : φ) : Nat :=
  match (file.size state).1 with
  | .ok total => total
  | .error _ => 0

/-- The first step of a transfer goes on only with the size that the file announced. -/
theorem Machine.session_of_opened
    {settings : Settings}
    {file : FileSource φ}
    {port : SerialPort π}
    {devices : Devices φ π}
    {next : Machine}
    (entered : (initial.step settings file port devices).outcome = .entered next) :
    next.session = .start (file.announced devices.file) := by
  have stepped := step_of_call settings file port initial devices
  cases accepted : settings.validate with
  | error fault =>
      simp only [call, act, initial, opening, accepted, Action.perform, Turn.fail] at stepped
      rw [initial, stepped.2] at entered
      cases entered
  | ok =>
      cases announced : (file.size devices.file).1 with
      | error fault =>
          simp only [call, act, initial, opening, accepted, Action.perform, announced, Turn.fail]
            at stepped
          rw [initial, stepped.2] at entered
          cases entered
      | ok total =>
          simp only [call, act, initial, opening, accepted, Action.perform, announced, begin,
            Turn.enter] at stepped
          rw [initial, stepped.2, Outcome.entered.injEq] at entered
          rw [← entered, FileSource.announced, announced]

/-- The most steps that a transfer of so many bytes can take: three, and for each packet one lap
with every attempt used. -/
def stepLimit (settings : Settings) (total : Nat) : Nat :=
  3 + packetCount settings total * lapLimit settings

theorem length_steps_send_le
    (settings : Settings)
    (file : FileSource φ)
    (port : SerialPort π)
    (devices : Devices φ π) :
    (send settings file port devices).steps.length ≤
      stepLimit settings (file.announced devices.file) := by
  rw [send, Machine.run]
  split
  · simp only [List.length_singleton, stepLimit]
    omega
  · rename_i next entered
    have progressing := Machine.initial_progressing settings
    have passes := Machine.passes_of_step progressing entered
    have onward := (Machine.progressing_of_step progressing entered).1
    have later := Machine.length_steps_le file port
      (Machine.initial.step settings file port devices).devices onward passes.target_ne_idle
    have counters := Machine.session_of_opened entered
    rw [passes.target_of_idle, counters] at later
    simp only [stepsAhead, Session.start] at later
    simp only [List.length_cons, stepLimit]
    omega

/-- How a run of a transfer of so many bytes goes, stage after stage: it visits the stages of an
itinerary in order, up to the end if it completes; its report then tells the number of its steps;
and it takes no more steps than its packets and their attempts allow. -/
structure Charted (settings : Settings) (total : Nat) (run : Run φ π) : Prop where
  path : ∃ laps, run.stages <+: itinerary laps ∧
    ∀ report, run.ending = .completed report → run.stages = itinerary laps
  count : ∀ report, run.ending = .completed report →
    run.steps.length = 3 + 3 * report.packets + 2 * report.retransmits
  limit : run.steps.length ≤ stepLimit settings total

theorem charted_run_send
    (settings : Settings)
    (file : FileSource φ)
    (port : SerialPort π)
    (devices : Devices φ π) :
    Charted settings (file.announced devices.file) (send settings file port devices) := by
  have progressing := Machine.initial_progressing settings
  constructor
  case path =>
    obtain ⟨stages, ⟨laps, rfl⟩, visited, whole⟩ :=
      Machine.onward_run file port devices progressing
    exact ⟨laps, visited, whole⟩
  case count =>
    intro report completed
    have counted := Machine.length_steps_of_completed progressing completed
    rwa [show stepsBehind Machine.initial.session Machine.initial.phase.stage = 0 from rfl,
      Nat.zero_add] at counted
  case limit => exact length_steps_send_le settings file port devices

/-- Every transfer keeps to an itinerary and to its limit, whatever its settings and whatever the
devices answer.  A loop that takes no more steps than the limit takes all of them. -/
theorem send_keeps_itinerary
    (settings : Settings)
    (file : FileSource φ)
    (port : SerialPort π)
    (devices : Devices φ π) :
    Charted settings (file.announced devices.file) (send settings file port devices) ∧
      Machine.initial.steps settings file port
          (stepLimit settings (file.announced devices.file)) devices =
        (send settings file port devices).steps := by
  have charted := charted_run_send settings file port devices
  exact ⟨charted, Machine.steps_eq_run (Machine.initial_progressing settings) charted.limit⟩

/-- Two packets, one of them sent twice, take eleven steps. -/
theorem length_steps_refusesOnce :
    (send .inPairs Scripted.File.device Scripted.Port.device
      ⟨.threeBytes, .refusesOnce⟩).ending = .completed ⟨3, 2, 1⟩ ∧
    (send .inPairs Scripted.File.device Scripted.Port.device
      ⟨.threeBytes, .refusesOnce⟩).steps.length = 11 := by
  have followed : (Machine.initial.follow .inPairs Scripted.File.device Scripted.Port.device
      40 ⟨.threeBytes, .refusesOnce⟩).map Prod.snd = some (.completed ⟨3, 2, 1⟩) := by
    decide
  have completed := ending_of_follow followed
  obtain ⟨charted, -⟩ := send_keeps_itinerary .inPairs Scripted.File.device
    Scripted.Port.device ⟨.threeBytes, .refusesOnce⟩
  exact ⟨completed, charted.count _ completed⟩

end KermitSend

import KermitSend.Proofs.Transfer.Conversation
import KermitSend.Proofs.Transfer.FileOrder

/-!
Contract: the states that a transfer is in between two steps.

Owns:
- the states reached by steps on given devices, with the exchanges until then;
- a step as its first call and what the stage does after that;
- the principle that what every call keeps holds of the states reached;
- three facts about them: their history is a conversation, the file has served exactly what the
  history says, and each stands at the opening of its stage;
- the law that a whole transfer begins with the history of a state reached, and goes on with the
  step from there.

Does not own: what the counters say in these states.
-/

set_option autoImplicit false

namespace KermitSend

variable {φ π : Type}

/-- The phase with which a stage begins. -/
def Stage.opening : Stage → Phase
  | .idle => .idle
  | .chunking => .chunking 0
  | .awaitAck => .sending
  | .advance => .advance
  | .retry => .retry
  | .finish => .finishing

/-- Steps on the given devices reach a state: the exchanges until then, the state, and the
devices as they have become. -/
inductive Reached
    (settings : Settings)
    (file : FileSource φ)
    (port : SerialPort π)
    (devices : Devices φ π) :
    List Exchange → Machine → Devices φ π → Prop where
  | begun : Reached settings file port devices [] Machine.initial devices
  | stepped {history machine now next}
      (earlier : Reached settings file port devices history machine now)
      (entered : (machine.step settings file port now).outcome = .entered next) :
      Reached settings file port devices
        (history ++ (machine.step settings file port now).exchanges) next
        (machine.step settings file port now).devices

/-! ## What calls keep -/

/-- What each call keeps is kept by a step that enters a stage. -/
theorem Machine.keeps_of_step
    {settings : Settings}
    {file : FileSource φ}
    {port : SerialPort π}
    {motive : List Exchange → Machine → Devices φ π → Prop}
    (keeps : ∀ history machine now next, motive history machine now →
      (machine.call settings file port now).turn.next.onward? = some next →
        motive (history ++ (machine.call settings file port now).exchanges) next
          (machine.call settings file port now).devices)
    {history : List Exchange}
    {machine next : Machine}
    {now : Devices φ π}
    (holds : motive history machine now)
    (entered : (machine.step settings file port now).outcome = .entered next) :
    motive (history ++ (machine.step settings file port now).exchanges) next
      (machine.step settings file port now).devices := by
  fun_induction step settings file port machine now generalizing history with
  | case1 machine now performed reached =>
      rename_i enters
      rw [Outcome.entered.injEq] at entered
      subst entered
      exact keeps history machine now reached holds (congrArg Next.onward? enters)
  | case2 machine now performed ending => cases entered
  | case3 machine now performed reached stays rest =>
      rename_i inductionHypothesis
      have moved := keeps history machine now reached holds (congrArg Next.onward? stays)
      have later := inductionHypothesis moved entered
      rw [List.append_assoc] at later
      exact later

/-- What holds at the beginning and is kept by each call holds of every state reached. -/
theorem Reached.induct
    {settings : Settings}
    {file : FileSource φ}
    {port : SerialPort π}
    {devices : Devices φ π}
    {motive : List Exchange → Machine → Devices φ π → Prop}
    (begun : motive [] Machine.initial devices)
    (keeps : ∀ history machine now next, motive history machine now →
      (machine.call settings file port now).turn.next.onward? = some next →
        motive (history ++ (machine.call settings file port now).exchanges) next
          (machine.call settings file port now).devices)
    {history : List Exchange}
    {machine : Machine}
    {now : Devices φ π}
    (reached : Reached settings file port devices history machine now) :
    motive history machine now := by
  induction reached with
  | begun => exact begun
  | stepped _ entered inductionHypothesis =>
      exact Machine.keeps_of_step keeps inductionHypothesis entered

/-- A step is its first call, and the step from there on unless the call ends the stage. -/
theorem Machine.step_of_call
    (settings : Settings)
    (file : FileSource φ)
    (port : SerialPort π)
    (machine : Machine)
    (now : Devices φ π) :
    match (machine.call settings file port now).turn.next with
    | .within next =>
        (machine.step settings file port now).exchanges =
            (machine.call settings file port now).exchanges ++
              (next.step settings file port
                (machine.call settings file port now).devices).exchanges ∧
          (machine.step settings file port now).outcome =
            (next.step settings file port (machine.call settings file port now).devices).outcome
    | .enter next =>
        (machine.step settings file port now).exchanges =
            (machine.call settings file port now).exchanges ∧
          (machine.step settings file port now).outcome = .entered next
    | .stop ending =>
        (machine.step settings file port now).exchanges =
            (machine.call settings file port now).exchanges ∧
          (machine.step settings file port now).outcome = .stopped ending := by
  fun_cases step settings file port machine now with
  | case1 performed next enters =>
      rw [show (machine.call settings file port now).turn.next = .enter next from enters]
      exact ⟨rfl, rfl⟩
  | case2 performed ending stops =>
      rw [show (machine.call settings file port now).turn.next = .stop ending from stops]
      exact ⟨rfl, rfl⟩
  | case3 performed next stays rest =>
      rw [show (machine.call settings file port now).turn.next = .within next from stays]
      exact ⟨rfl, rfl⟩

section Facts

variable
  {settings : Settings}
  {file : FileSource φ}
  {port : SerialPort π}
  {devices now : Devices φ π}
  {history : List Exchange}
  {machine : Machine}

theorem Reached.conversation
    (reached : Reached settings file port devices history machine now) :
    Conversation settings history machine := by
  apply Reached.induct (motive := fun history machine _ => Conversation settings history machine)
    .begun ?_ reached
  intro history machine now next earlier goes
  exact earlier.continued (Machine.moves_of_call goes)

/-- The file has served the front of its content, and still has all the rest. -/
theorem Reached.content_eq
    {rest : φ → List UInt8}
    (serves : file.Serves rest)
    (reached : Reached settings file port devices history machine now) :
    rest devices.file = served history ++ rest now.file := by
  apply Reached.induct
    (motive := fun history _ now => rest devices.file = served history ++ rest now.file)
    rfl ?_ reached
  intro history machine now next earlier goes
  rw [earlier, Machine.rest_eq_of_onward serves goes, served_append, List.append_assoc]

/-! ## Openings -/

private theorem Turn.opening_of_enter
    {notices : List Notice}
    {phase : Phase}
    {next : Machine}
    (opens : phase = phase.stage.opening)
    (enters : (Turn.enter notices machine phase).next = .enter next) :
    next.phase = next.phase.stage.opening := by
  rw [Turn.enter, Next.enter.injEq] at enters
  rw [← enters]
  exact opens

private theorem Machine.opening_of_judge
    {next : Machine}
    (bytes : List UInt8)
    (enters : (machine.judge bytes).next = .enter next) :
    next.phase = next.phase.stage.opening := by
  simp only [judge] at enters
  split at enters
  · exact Turn.opening_of_enter rfl enters
  · exact Turn.opening_of_enter rfl enters

/-- Whatever the answer, a call that enters a stage enters it at its opening. -/
theorem Machine.opening_of_call
    {next : Machine}
    {exchanges : List Exchange}
    {turn : Turn}
    (yields : (machine.act settings).Yields exchanges turn)
    (enters : turn.next = .enter next) :
    next.phase = next.phase.stage.opening := by
  cases enters_of_yields yields enters with
  | begun _ _ entered => exact Turn.opening_of_enter rfl entered
  | finished _ _ entered => exact Turn.opening_of_enter rfl entered
  | framed _ _ entered =>
      simp only [dispatch] at entered
      split at entered
      · simp [Turn.fail] at entered
      · exact Turn.opening_of_enter rfl entered
  | judged _ entered => exact opening_of_judge _ entered
  | advanced _ entered => exact Turn.opening_of_enter rfl entered
  | retried _ entered =>
      simp only [tryAgain] at entered
      split at entered
      · simp [Turn.fail] at entered
      · exact Turn.opening_of_enter rfl entered

private theorem Machine.opening_of_step
    {next : Machine}
    (entered : (machine.step settings file port now).outcome = .entered next) :
    next.phase = next.phase.stage.opening := by
  obtain ⟨last, exchanges, turn, -, yields, ends⟩ :=
    @last_call_of_step _ _ settings file port (fun _ => True) (fun _ _ _ _ _ _ _ => trivial)
      machine now trivial
  rcases ends with ⟨reached, enters, outcome⟩ | ⟨ending, -, outcome⟩
  · rw [outcome, Outcome.entered.injEq] at entered
    subst entered
    exact opening_of_call yields enters
  · rw [outcome] at entered
    cases entered

/-- Between two steps a transfer stands at the opening of a stage. -/
theorem Reached.phase_eq_opening
    (reached : Reached settings file port devices history machine now) :
    machine.phase = machine.phase.stage.opening := by
  cases reached with
  | begun => rfl
  | stepped _ entered => exact Machine.opening_of_step entered

/-! ## Recorded steps -/

/-- The states that a list of steps records are reached. -/
theorem Reached.of_steps
    (reached : Reached settings file port devices history machine now)
    {count index : Nat}
    {step : Step φ π}
    {next : Machine}
    (found : (machine.steps settings file port count now)[index]? = some step)
    (entered : step.outcome = .entered next) :
    ∃ later, Reached settings file port devices later next step.devices := by
  induction count generalizing history machine now index with
  | zero => simp [Machine.steps] at found
  | succ count inductionHypothesis =>
      rw [Machine.steps] at found
      cases outcome : (machine.step settings file port now).outcome with
      | stopped ending =>
          simp only [outcome, List.getElem?_singleton, Option.ite_none_right_eq_some,
            Option.some.injEq] at found
          rw [← found.2, outcome] at entered
          cases entered
      | entered following =>
          simp only [outcome] at found
          cases index with
          | zero =>
              rw [List.getElem?_cons_zero, Option.some.injEq] at found
              subst found
              exact ⟨_, reached.stepped entered⟩
          | succ index =>
              rw [List.getElem?_cons_succ] at found
              exact inductionHypothesis (reached.stepped outcome) found

/-! ## Whole transfers -/

private theorem Machine.run_of_entered
    {next : Machine}
    (progressing : machine.Progressing settings)
    (onward : next.Progressing settings)
    (entered : (machine.step settings file port now).outcome = .entered next) :
    (machine.run settings file port progressing now).exchanges =
        (machine.step settings file port now).exchanges ++
          (next.run settings file port onward
            (machine.step settings file port now).devices).exchanges ∧
      (machine.run settings file port progressing now).ending =
        (next.run settings file port onward
          (machine.step settings file port now).devices).ending := by
  rw [Machine.run]
  split
  · rename_i stopped
    rw [entered] at stopped
    cases stopped
  · rename_i reached ends
    rw [entered, Outcome.entered.injEq] at ends
    subst ends
    exact ⟨rfl, rfl⟩

theorem Machine.step_prefix_run
    (progressing : machine.Progressing settings)
    (now : Devices φ π) :
    (machine.step settings file port now).exchanges <+:
      (machine.run settings file port progressing now).exchanges := by
  rw [Machine.run]
  split
  · exact List.prefix_append _ _
  · exact List.prefix_append _ _

/-- A whole transfer says what has been said, and then goes on from the state reached. -/
theorem Reached.send_eq
    (reached : Reached settings file port devices history machine now) :
    ∃ progressing : machine.Progressing settings,
      (send settings file port devices).exchanges =
          history ++ (machine.run settings file port progressing now).exchanges ∧
        (send settings file port devices).ending =
          (machine.run settings file port progressing now).ending := by
  induction reached with
  | begun => exact ⟨Machine.initial_progressing settings, rfl, rfl⟩
  | @stepped history machine now next _ entered inductionHypothesis =>
      obtain ⟨progressing, exchanges, ending⟩ := inductionHypothesis
      have onward := (Machine.progressing_of_step progressing entered).1
      have rest := Machine.run_of_entered progressing onward entered
      refine ⟨onward, ?_, ?_⟩
      · rw [exchanges, rest.1, List.append_assoc]
      · rw [ending, rest.2]

theorem Reached.step_prefix_send
    (reached : Reached settings file port devices history machine now) :
    history ++ (machine.step settings file port now).exchanges <+:
      (send settings file port devices).exchanges := by
  obtain ⟨progressing, exchanges, -⟩ := reached.send_eq
  rw [exchanges, List.prefix_append_right_inj]
  exact Machine.step_prefix_run progressing now

end Facts

end KermitSend

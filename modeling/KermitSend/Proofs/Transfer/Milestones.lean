import KermitSend.Proofs.Session.Progress
import KermitSend.Proofs.Transfer.Itinerary

/-!
Contract: what a transfer tells of its progress.

Owns:
- the progress notices among what is told, and the one stage in which a step tells of progress;
- the law that a completed transfer tells of the milestones of its chunk lengths and of nothing
  else, as far as bytes go;
- the law that these are at most one for each packet and a hundred in all, and that the last of them
  tells that everything is sent.

Does not own: the counters of attempts, which a notice carries too.
-/

set_option autoImplicit false

namespace KermitSend

variable {φ π : Type}

/-! ## Progress notices -/

/-- The counters that a notice tells of, if it is one of progress. -/
def Notice.progress? : Notice → Option Session
  | .progress session => some session
  | _ => none

/-- The counters that notices of progress tell of, in order. -/
def progressTold (notices : List Notice) : List Session :=
  notices.filterMap Notice.progress?

private theorem progressTold_append (left right : List Notice) :
    progressTold (left ++ right) = progressTold left ++ progressTold right :=
  List.filterMap_append

private theorem Turn.progressTold_enter (notices : List Notice) (machine : Machine) (phase : Phase) :
    progressTold (Turn.enter notices machine phase).notices = progressTold notices := by
  rw [Turn.enter, progressTold_append]
  exact List.append_nil _

namespace Machine

/-- What a step from a state tells of progress. -/
def tells (machine : Machine) : List Session :=
  match machine.phase.stage with
  | .advance =>
      if machine.session.crossesPercent machine.chunkLength then
        [machine.session.advance machine.chunkLength]
      else []
  | _ => []

private theorem tells_of_ne_advance
    {machine : Machine}
    (elsewhere : machine.phase.stage ≠ .advance) :
    machine.tells = [] := by
  unfold tells
  split
  · rename_i advancing
    exact absurd advancing elsewhere
  · rfl

private theorem tells_of_advance
    {machine : Machine}
    (advancing : machine.phase.stage = .advance) :
    machine.tells =
      if machine.session.crossesPercent machine.chunkLength then
        [machine.session.advance machine.chunkLength]
      else [] := by
  unfold tells
  rw [advancing]

section Calls

variable
  (settings : Settings)
  (file : FileSource φ)
  (port : SerialPort π)
  (machine : Machine)
  (devices : Devices φ π)

/-- Only advancing tells of progress, and only when it moves into a new whole percent. -/
theorem progressTold_call :
    progressTold (machine.call settings file port devices).turn.notices = machine.tells := by
  have judged : ∀ bytes, progressTold (machine.judge bytes).notices = [] := by
    intro bytes
    simp only [judge]
    split <;> rw [Turn.progressTold_enter] <;> rfl
  cases phase : machine.phase with
  | idle =>
      rw [tells_of_ne_advance (by simp [phase, Phase.stage])]
      simp only [call, act, phase, opening]
      split
      · rfl
      · simp only [Action.perform]
        cases (file.size devices.file).1 with
        | error fault => rfl
        | ok size => rfl
  | chunking filled =>
      rw [tells_of_ne_advance (by simp [phase, Phase.stage])]
      simp only [call, act, phase, chunking]
      split
      · rfl
      · split
        · simp only [Action.perform, absorb]
          split
          · rfl
          · rfl
          · split <;> rfl
        · simp only [Action.perform, dispatch]
          split <;> rfl
  | sending =>
      rw [tells_of_ne_advance (by simp [phase, Phase.stage])]
      simp only [call, act, phase, sending, Action.perform]
      split <;> rfl
  | receiving =>
      rw [tells_of_ne_advance (by simp [phase, Phase.stage])]
      simp only [call, act, phase, receiving, Action.perform]
      split
      · exact judged _
      · split
        · exact judged []
        · rfl
  | advance =>
      simp only [call, act, phase, Action.perform, accept, Turn.progressTold_enter, tells,
        Phase.stage]
      split <;> rfl
  | retry =>
      rw [tells_of_ne_advance (by simp [phase, Phase.stage])]
      simp only [call, act, phase, Action.perform, tryAgain]
      split <;> rfl
  | finishing =>
      rw [tells_of_ne_advance (by simp [phase, Phase.stage])]
      simp only [call, act, phase, finishing, Action.perform]
      split <;> rfl
  | closing =>
      rw [tells_of_ne_advance (by simp [phase, Phase.stage])]
      simp only [call, act, phase, closing, Action.perform]
      split <;> rfl

/-- The calls of a step tell of progress what its first call does: advancing makes one call. -/
theorem progressTold_step :
    progressTold (machine.step settings file port devices).notices = machine.tells := by
  fun_induction step settings file port machine devices with
  | case1 machine devices performed next enters =>
      exact progressTold_call settings file port machine devices
  | case2 machine devices performed ending stops =>
      exact progressTold_call settings file port machine devices
  | case3 machine devices performed next stays rest inductionHypothesis =>
      have yields := Action.yields_perform file port devices (machine.act settings)
      have stage := (within_cases yields stays).1.stage
      have elsewhere : machine.phase.stage ≠ .advance := by
        intro advancing
        have alone : machine.phase = .advance := by
          cases phase : machine.phase <;> simp_all [Phase.stage]
        simp [performed, act, alone, Action.perform, accept, Turn.enter] at stays
      have silent : next.tells = [] := tells_of_ne_advance (by rw [stage]; exact elsewhere)
      have first : progressTold performed.turn.notices = machine.tells :=
        progressTold_call settings file port machine devices
      show progressTold (performed.turn.notices ++ rest.notices) = _
      rw [progressTold_append, first, inductionHypothesis, silent, List.append_nil]

end Calls

end Machine

/-! ## Completed transfers -/

/-- From a state on, a run that comes to this report gets packets of these lengths across, the one
in flight first, and tells of their milestones. -/
structure Outstanding
    (machine : Machine)
    (report : Report)
    (told : List Session)
    (lengths : List Nat) : Prop where
  positive : ∀ length ∈ lengths, 0 < length
  whole : lengths.sum = machine.session.remaining
  packets : machine.session.packets + lengths.length = report.packets
  first : machine.phase.inFlight = true → ∃ later, lengths = machine.chunkLength :: later
  told : told.map Session.figures =
    (machine.session.milestones lengths).map Session.figures

section Outstanding

variable
  {settings : Settings}
  {machine next : Machine}
  {report : Report}
  {told : List Session}
  {lengths : List Nat}

/-- A state with the same figures and the same packet in flight has the same outstanding. -/
theorem Outstanding.congr
    (outstanding : Outstanding next report told lengths)
    (figures : next.session.figures = machine.session.figures)
    (remaining : next.session.remaining = machine.session.remaining)
    (packets : next.session.packets = machine.session.packets)
    (first : machine.phase.inFlight = true →
      next.phase.inFlight = true ∧ next.chunkLength = machine.chunkLength) :
    Outstanding machine report told lengths where
  positive := outstanding.positive
  whole := outstanding.whole.trans remaining
  packets := by
    rw [← packets]
    exact outstanding.packets
  first := by
    intro flying
    obtain ⟨nextFlying, chunkLength⟩ := first flying
    rw [← chunkLength]
    exact outstanding.first nextFlying
  told := outstanding.told.trans (Session.figures_milestones_congr figures lengths)

private theorem Outstanding.of_kept
    (outstanding : Outstanding next report told lengths)
    (kept : next.session = machine.session)
    (first : machine.phase.inFlight = true →
      next.phase.inFlight = true ∧ next.chunkLength = machine.chunkLength) :
    Outstanding machine report told lengths := by
  apply outstanding.congr _ _ _ first
  all_goals rw [kept]

/-- Advancing gets the packet in flight across. -/
theorem Outstanding.advanced
    (outstanding : Outstanding next report told lengths)
    (counted : next.session = machine.session.advance machine.chunkLength)
    (positive : 0 < machine.chunkLength)
    (fits : machine.chunkLength ≤ machine.session.remaining)
    (advancing : machine.phase.stage = .advance) :
    Outstanding machine report (machine.tells ++ told) (machine.chunkLength :: lengths) where
  positive := by
    intro length member
    rcases List.mem_cons.1 member with rfl | later
    · exact positive
    · exact outstanding.positive length later
  whole := by
    have whole := outstanding.whole
    rw [counted] at whole
    rw [List.sum_cons, whole]
    exact Nat.add_sub_cancel' fits
  packets := by
    have packets := outstanding.packets
    rw [counted] at packets
    rw [List.length_cons, ← packets, ← Nat.add_assoc, Nat.add_right_comm]
    rfl
  first := fun _ => ⟨lengths, rfl⟩
  told := by
    have later := outstanding.told
    rw [counted] at later
    rw [Machine.tells_of_advance advancing, Session.milestones, List.map_append, later]
    split <;> rfl

/-- A passage hands on what is outstanding, save for the packet that advancing gets across. -/
theorem Passes.exists_outstanding
    (passes : Passes settings machine.phase.stage machine.session machine.chunkLength
      (.entered next))
    (progressing : machine.Progressing settings)
    (started : machine.phase.stage ≠ .idle)
    (outstanding : Outstanding next report told lengths) :
    ∃ all, Outstanding machine report (machine.tells ++ told) all := by
  have flying := machine.phase.inFlight_iff
  have nextFlying := next.phase.inFlight_iff
  have silent := machine.tells_of_ne_advance
  generalize origin : machine.phase.stage = stage at passes started flying silent
  cases passes with
  | opened _ _ => exact absurd rfl started
  | finished target nothing kept =>
      rw [silent (by decide)]
      exact ⟨lengths, outstanding.of_kept kept (by simp [flying])⟩
  | framed target something fresh chunkLength =>
      rw [silent (by decide)]
      refine ⟨lengths, outstanding.congr ?_ ?_ ?_ ?_⟩
      · rw [fresh]
        rfl
      · rw [fresh]
      · rw [fresh]
      · simp [flying]
  | acknowledged target kept chunkLength =>
      rw [silent (by decide)]
      exact ⟨lengths, outstanding.of_kept kept fun _ =>
        ⟨nextFlying.2 (.inr (.inl target)), chunkLength⟩⟩
  | refused target kept chunkLength =>
      rw [silent (by decide)]
      exact ⟨lengths, outstanding.of_kept kept fun _ =>
        ⟨nextFlying.2 (.inr (.inr target)), chunkLength⟩⟩
  | advanced target counted =>
      obtain ⟨positive, fits, -⟩ := progressing.carries (flying.2 (.inr (.inl rfl)))
      exact ⟨_, outstanding.advanced counted positive fits origin⟩
  | retried target another counted chunkLength =>
      rw [silent (by decide)]
      refine ⟨lengths, outstanding.congr ?_ ?_ ?_ ?_⟩
      · rw [counted]
        rfl
      · rw [counted]
      · rw [counted]
      · exact fun _ => ⟨nextFlying.2 (.inl target), chunkLength⟩

/-- Nothing is left to send when a transfer comes to its last stage. -/
theorem Passes.remaining_of_finish
    {stage : Stage}
    {session : Session}
    {length : Nat}
    (passes : Passes settings stage session length (.entered next))
    (target : next.phase.stage = .finish) :
    next.session.remaining = 0 := by
  cases passes with
  | finished _ nothing kept =>
      rw [kept]
      exact nothing
  | _ => simp_all

/-- A run that completes has had packets outstanding at its beginning, and tells of their
milestones. -/
theorem Machine.exists_outstanding
    {file : FileSource φ}
    {port : SerialPort π}
    {devices : Devices φ π}
    (progressing : machine.Progressing settings)
    (started : machine.phase.stage ≠ .idle)
    (ready : machine.phase.stage = .finish → machine.session.remaining = 0)
    (completed : (machine.run settings file port progressing devices).ending =
      .completed report) :
    ∃ lengths, Outstanding machine report
      (progressTold (machine.run settings file port progressing devices).notices) lengths := by
  fun_induction Machine.run settings file port machine progressing devices with
  | case1 machine progressing devices step ending stopped =>
      have told : progressTold (Run.notices ⟨[step], ending, step.devices⟩) = machine.tells := by
        rw [Run.notices, List.flatMap_singleton]
        exact progressTold_step settings file port machine devices
      have passes := passes_of_step progressing stopped
      have silent := machine.tells_of_ne_advance
      have flying := machine.phase.inFlight_iff
      rw [told]
      rw [show ending = .completed report from completed] at passes
      generalize machine.phase.stage = stage at passes ready silent flying
      cases passes with
      | completed =>
          rw [silent (by decide)]
          exact ⟨[], by simp, (ready rfl).symm, rfl, by simp [flying], rfl⟩
  | case2 machine progressing devices step next entered rest inductionHypothesis =>
      have told : progressTold (Run.notices { rest with steps := step :: rest.steps }) =
          machine.tells ++ progressTold rest.notices := by
        rw [Run.notices, List.flatMap_cons, progressTold_append]
        congr 1
        exact progressTold_step settings file port machine devices
      have passes := passes_of_step progressing entered
      obtain ⟨lengths, outstanding⟩ :=
        inductionHypothesis passes.target_ne_idle passes.remaining_of_finish completed
      rw [told]
      exact passes.exists_outstanding progressing started outstanding

end Outstanding

/-- What a completed transfer of `total` bytes in so many packets tells of its progress, in percents
that words of 64 bits hold.  The last notice says that everything is sent. -/
structure ToldOf (total packets : Nat) (told : List Session) : Prop where
  count : told.length ≤ min packets 100
  rising : told.Pairwise fun earlier later => earlier.wholePercent < later.wholePercent
  last : ∃ earlier final, told = earlier ++ [final] ∧
    final.bytesSent = total ∧ final.total = total ∧
    (Notice.progress final).level = .info ∧
    (Notice.progress final).fields = [("sent", .number total), ("total", .number total)]
  words : ∀ session ∈ told, session.wordPercent.toNat = session.wholePercent

section Told

variable
  {total packets : Nat}
  {told : List Session}
  {lengths : List Nat}

/-- What is told with the figures of the milestones of a whole is what there is to tell. -/
theorem toldOf_of_milestones
    (nonempty : 0 < total)
    (fits : 100 * total < 2 ^ 64)
    (positive : ∀ length ∈ lengths, 0 < length)
    (whole : lengths.sum = total)
    (counted : lengths.length = packets)
    (same : told.map Session.figures =
      ((Session.start total).milestones lengths).map Session.figures) :
    ToldOf total packets told where
  count := by
    have length := congrArg List.length same
    rw [List.length_map, List.length_map] at length
    rw [length, ← counted]
    exact Session.length_milestones_le_min (Nat.le_of_eq whole)
  rising := by
    have rising := Session.rising_milestones (.start total) lengths
    rw [← List.pairwise_map] at rising ⊢
    rwa [Session.map_wholePercent_congr same]
  last := by
    obtain ⟨earlier, split⟩ := Session.exists_last_milestone nonempty positive whole
    have figures := Session.counted_afterAll total lengths
    rw [split, List.map_append, List.map_singleton, List.map_eq_append_iff] at same
    obtain ⟨front, final, rfl, -, final_eq⟩ := same
    obtain ⟨session, rfl, sameFigures⟩ := List.map_eq_singleton_iff.1 final_eq
    obtain ⟨sent, all⟩ := Prod.mk.inj sameFigures
    rw [figures.bytesSent, whole] at sent
    rw [figures.announced] at all
    refine ⟨front, session, rfl, sent, all, rfl, ?_⟩
    show [("sent", NoticeValue.number session.bytesSent), ("total", .number session.total)] = _
    rw [sent, all]
  words := by
    intro session member
    have among : session.figures ∈ told.map Session.figures := List.mem_map_of_mem member
    rw [same] at among
    obtain ⟨milestone, found, figures⟩ := List.mem_map.1 among
    obtain ⟨all, sent⟩ := Session.figures_of_mem_milestones (.start total) found
    obtain ⟨sameSent, sameTotal⟩ := Prod.mk.inj figures
    rw [sameTotal] at all
    rw [sameSent, whole] at sent
    have announced : session.total = total := all
    have within : session.bytesSent ≤ total := by
      rwa [show (Session.start total).bytesSent = 0 from rfl, Nat.zero_add] at sent
    rw [← announced] at fits within
    exact Session.toNat_wordPercent fits within

end Told

/-- A transfer that completes tells of its progress from the size that the file announced. -/
theorem toldOf_send
    {settings : Settings}
    {file : FileSource φ}
    {port : SerialPort π}
    {devices : Devices φ π}
    {total : Nat}
    {report : Report}
    (announced : (file.size devices.file).1 = .ok total)
    (nonempty : 0 < total)
    (fits : 100 * total < 2 ^ 64)
    (completed : (send settings file port devices).ending = .completed report) :
    ToldOf total report.packets (progressTold (send settings file port devices).notices) := by
  have progressing := Machine.initial_progressing settings
  rw [send, Machine.run] at completed ⊢
  split at completed
  · rename_i ending stopped
    have passes := Machine.passes_of_step progressing stopped
    rw [show ending = .completed report from completed] at passes
    cases passes
  · rename_i next entered
    have passes := Machine.passes_of_step progressing entered
    have onward := (Machine.progressing_of_step progressing entered).1
    have begun := Machine.session_of_opened entered
    rw [FileSource.announced, announced] at begun
    obtain ⟨lengths, outstanding⟩ :=
      Machine.exists_outstanding onward passes.target_ne_idle passes.remaining_of_finish completed
    have whole := outstanding.whole
    have counted := outstanding.packets
    have told := outstanding.told
    rw [begun] at whole counted told
    rw [Run.notices, List.flatMap_cons, progressTold_append, Machine.progressTold_step]
    exact toldOf_of_milestones nonempty fits outstanding.positive whole
      ((Nat.zero_add _).symm.trans counted) told

/-- Progress goes steadily to a hundred percent as packets that are not empty are acknowledged,
whatever their lengths; and a transfer that completes tells of it at most once for each packet and a
hundred times in all, in rising percents, and at last that everything is sent. -/
theorem progress_steady
    (settings : Settings)
    (file : FileSource φ)
    (port : SerialPort π)
    (devices : Devices φ π) :
    (∀ total lengths, 0 < total → 100 * total < 2 ^ 64 → (∀ length ∈ lengths, 0 < length) →
      lengths.sum ≤ total → Session.SteadyProgress total lengths) ∧
    ∀ total report, (file.size devices.file).1 = .ok total → 0 < total → 100 * total < 2 ^ 64 →
      (send settings file port devices).ending = .completed report →
        ToldOf total report.packets
          (progressTold (send settings file port devices).notices) := by
  constructor
  · intro total lengths nonempty fits positive within
    exact Session.steadyProgress nonempty fits positive within
  · intro total report announced nonempty fits completed
    exact toldOf_send announced nonempty fits completed

/-- Of four packets of a thousand bytes, the second brings the first whole percent and the last one
all the others; and a file of three bytes, sent in two packets and three attempts, is told of so. -/
theorem progress_steady_refusesOnce :
    Session.SteadyProgress 1000 [5, 5, 9, 981] ∧
    (send .inPairs Scripted.File.device Scripted.Port.device
      ⟨.threeBytes, .refusesOnce⟩).ending = .completed ⟨3, 2, 1⟩ ∧
    ToldOf 3 2 (progressTold (send .inPairs Scripted.File.device Scripted.Port.device
      ⟨.threeBytes, .refusesOnce⟩).notices) := by
  have followed : (Machine.initial.follow .inPairs Scripted.File.device Scripted.Port.device
      40 ⟨.threeBytes, .refusesOnce⟩).map Prod.snd = some (.completed ⟨3, 2, 1⟩) := by
    decide
  have completed := ending_of_follow followed
  obtain ⟨steady, told⟩ := progress_steady .inPairs Scripted.File.device Scripted.Port.device
    ⟨.threeBytes, .refusesOnce⟩
  refine ⟨?_, completed, told 3 ⟨3, 2, 1⟩ rfl (by decide) (by decide) completed⟩
  exact steady 1000 [5, 5, 9, 981] (by decide) (by decide) (by decide) (by decide)

end KermitSend

import KermitSend.Transfer.Run

/-!
Contract: a transfer as one course of calls.

Owns:
- the course that a state takes on given devices, call after call until the end, and what is left
  of it after its first call;
- the law that a run makes the calls of its course, stages or no stages;
- following a course for a bounded number of calls, by which runs on given devices compute.

Does not own: what a call can lead to.
-/

set_option autoImplicit false

namespace KermitSend

variable {φ π : Type}

/-- The state that a turn goes on with, be it within the stage or in another. -/
def Next.onward? : Next → Option Machine
  | .within machine => some machine
  | .enter machine => some machine
  | .stop _ => none

namespace Machine

/-- What the call of a state comes to on the given devices. -/
def call
    (settings : Settings)
    (file : FileSource φ)
    (port : SerialPort π)
    (machine : Machine)
    (devices : Devices φ π) :
    Performed φ π :=
  (machine.act settings).perform file port devices

/-- From a state on, a transfer makes these calls and ends in this way. -/
inductive Course
    (settings : Settings)
    (file : FileSource φ)
    (port : SerialPort π) :
    Machine → Devices φ π → List Exchange → Ending → Prop where
  | last {machine devices ending}
      (stops : (machine.call settings file port devices).turn.next = .stop ending) :
      Course settings file port machine devices
        (machine.call settings file port devices).exchanges ending
  | more {machine devices next exchanges ending}
      (goes : (machine.call settings file port devices).turn.next.onward? = some next)
      (rest : Course settings file port next
        (machine.call settings file port devices).devices exchanges ending) :
      Course settings file port machine devices
        ((machine.call settings file port devices).exchanges ++ exchanges) ending

theorem Course.call_prefix
    {settings : Settings}
    {file : FileSource φ}
    {port : SerialPort π}
    {machine : Machine}
    {devices : Devices φ π}
    {exchanges : List Exchange}
    {ending : Ending}
    (course : Course settings file port machine devices exchanges ending) :
    (machine.call settings file port devices).exchanges <+: exchanges := by
  cases course with
  | last _ => exact List.prefix_refl _
  | more _ _ => exact List.prefix_append _ _

/-- A course whose first call is a stop is that call. -/
theorem Course.of_stop
    {settings : Settings}
    {file : FileSource φ}
    {port : SerialPort π}
    {machine : Machine}
    {devices : Devices φ π}
    {exchanges : List Exchange}
    {ending last : Ending}
    (course : Course settings file port machine devices exchanges ending)
    (stops : (machine.call settings file port devices).turn.next = .stop last) :
    exchanges = (machine.call settings file port devices).exchanges ∧ ending = last := by
  cases course with
  | last ends =>
      rw [stops, Next.stop.injEq] at ends
      exact ⟨rfl, ends.symm⟩
  | more goes _ =>
      rw [stops] at goes
      cases goes

/-- A course whose first call goes on is that call and a course from there. -/
theorem Course.of_onward
    {settings : Settings}
    {file : FileSource φ}
    {port : SerialPort π}
    {machine next : Machine}
    {devices : Devices φ π}
    {exchanges : List Exchange}
    {ending : Ending}
    (course : Course settings file port machine devices exchanges ending)
    (onward : (machine.call settings file port devices).turn.next.onward? = some next) :
    ∃ later, exchanges = (machine.call settings file port devices).exchanges ++ later ∧
      Course settings file port next (machine.call settings file port devices).devices later
        ending := by
  cases course with
  | last ends =>
      rw [ends] at onward
      cases onward
  | more goes rest =>
      rw [goes, Option.some.injEq] at onward
      subst onward
      exact ⟨_, rfl, rest⟩

/-- A step that ends the transfer is a course; one that enters a stage begins the courses of
that stage. -/
theorem course_of_step
    (settings : Settings)
    (file : FileSource φ)
    (port : SerialPort π)
    (machine : Machine)
    (devices : Devices φ π) :
    match (machine.step settings file port devices).outcome with
    | .stopped ending =>
        Course settings file port machine devices
          (machine.step settings file port devices).exchanges ending
    | .entered next =>
        ∀ exchanges ending,
          Course settings file port next (machine.step settings file port devices).devices
            exchanges ending →
          Course settings file port machine devices
            ((machine.step settings file port devices).exchanges ++ exchanges) ending := by
  fun_induction step settings file port machine devices with
  | case1 machine devices performed next enters =>
      intro exchanges ending rest
      exact .more (congrArg Next.onward? enters) rest
  | case2 machine devices performed ending stops => exact .last stops
  | case3 machine devices performed next stays rest inductionHypothesis =>
      have goes : (machine.call settings file port devices).turn.next.onward? = some next :=
        congrArg Next.onward? stays
      show match rest.outcome with
        | .stopped ending =>
            Course settings file port machine devices
              (performed.exchanges ++ rest.exchanges) ending
        | .entered reached =>
            ∀ exchanges ending,
              Course settings file port reached rest.devices exchanges ending →
              Course settings file port machine devices
                (performed.exchanges ++ rest.exchanges ++ exchanges) ending
      cases outcome : rest.outcome with
      | stopped ending =>
          rw [outcome] at inductionHypothesis
          exact .more goes inductionHypothesis
      | entered reached =>
          rw [outcome] at inductionHypothesis
          intro exchanges ending later
          rw [List.append_assoc]
          exact .more goes (inductionHypothesis exchanges ending later)

/-- A run makes the calls of its course and ends as its course does. -/
theorem course_of_run
    (settings : Settings)
    (file : FileSource φ)
    (port : SerialPort π)
    (machine : Machine)
    (progressing : machine.Progressing settings)
    (devices : Devices φ π) :
    Course settings file port machine devices
      (machine.run settings file port progressing devices).exchanges
      (machine.run settings file port progressing devices).ending := by
  fun_induction Machine.run settings file port machine progressing devices with
  | case1 machine progressing devices step ending stopped =>
      have ended := course_of_step settings file port machine devices
      rw [show (machine.step settings file port devices).outcome = .stopped ending from stopped]
        at ended
      simpa [Run.exchanges, step] using ended
  | case2 machine progressing devices step next entered rest inductionHypothesis =>
      have begun := course_of_step settings file port machine devices
      rw [show (machine.step settings file port devices).outcome = .entered next from entered]
        at begun
      exact begun _ _ inductionHypothesis

/-- Follow a course for at most the given number of calls. -/
def follow
    (settings : Settings)
    (file : FileSource φ)
    (port : SerialPort π) :
    Nat → Machine → Devices φ π → Option (List Exchange × Ending)
  | 0, _, _ => none
  | calls + 1, machine, devices =>
      let performed := machine.call settings file port devices
      match performed.turn.next with
      | .stop ending => some (performed.exchanges, ending)
      | .within next | .enter next =>
          (next.follow settings file port calls performed.devices).map fun rest =>
            (performed.exchanges ++ rest.1, rest.2)

/-- A course that can be followed to its end is the only one. -/
theorem eq_of_follow
    {settings : Settings}
    {file : FileSource φ}
    {port : SerialPort π}
    {calls : Nat}
    {machine : Machine}
    {devices : Devices φ π}
    {exchanges : List Exchange}
    {ending : Ending}
    {result : List Exchange × Ending}
    (course : Course settings file port machine devices exchanges ending)
    (followed : machine.follow settings file port calls devices = some result) :
    result = (exchanges, ending) := by
  induction course generalizing calls result with
  | @last machine devices ending stops =>
      cases calls with
      | zero => simp [follow] at followed
      | succ calls =>
          simp only [follow, stops, Option.some.injEq] at followed
          exact followed.symm
  | @more machine devices next exchanges ending goes rest inductionHypothesis =>
      cases calls with
      | zero => simp [follow] at followed
      | succ calls =>
          have onward : ((next.follow settings file port calls
              (machine.call settings file port devices).devices).map fun rest =>
                ((machine.call settings file port devices).exchanges ++ rest.1, rest.2)) =
              some result := by
            rw [← followed, follow]
            cases turned : (machine.call settings file port devices).turn.next <;>
              simp_all [Next.onward?]
          obtain ⟨later, laterFollowed, rfl⟩ := Option.map_eq_some_iff.1 onward
          rw [inductionHypothesis laterFollowed]

end Machine

theorem send_of_follow
    {settings : Settings}
    {file : FileSource φ}
    {port : SerialPort π}
    {devices : Devices φ π}
    {calls : Nat}
    {result : List Exchange × Ending}
    (followed : Machine.initial.follow settings file port calls devices = some result) :
    (send settings file port devices).exchanges = result.1 ∧
      (send settings file port devices).ending = result.2 := by
  have course := Machine.course_of_run settings file port Machine.initial
    (Machine.initial_progressing settings) devices
  rw [Machine.eq_of_follow course followed]
  exact ⟨rfl, rfl⟩

theorem ending_of_follow
    {settings : Settings}
    {file : FileSource φ}
    {port : SerialPort π}
    {devices : Devices φ π}
    {calls : Nat}
    {ending : Ending}
    (followed :
      (Machine.initial.follow settings file port calls devices).map Prod.snd = some ending) :
    (send settings file port devices).ending = ending := by
  obtain ⟨result, found, ended⟩ := Option.map_eq_some_iff.1 followed
  rw [(send_of_follow found).2, ended]

end KermitSend

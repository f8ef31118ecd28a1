import KermitSend.Proofs.Transfer.Moves
import KermitSend.Scripted.File
import KermitSend.Storage.LocalFile

/-!
Contract: file sources that serve a content in order.

Owns:
- what "in order" asks of a source: its reads take the content from the front, and neither its
  size nor an interruption moves it;
- the bytes that a list of calls was served, and the law that a transfer is served the front of
  the content;
- the sources of this library that serve in order.

Does not own: what the sender makes of the bytes.
-/

set_option autoImplicit false

namespace KermitSend

variable {φ π : Type}

/-- A source whose reads take `rest`, the content not yet served, from the front.  It may serve
as little as it likes, be interrupted and fail. -/
structure FileSource.Serves (file : FileSource φ) (rest : φ → List UInt8) : Prop where
  size : ∀ state, rest (file.size state).2 = rest state
  read : ∀ state room bytes, (file.read state room).1 = .ok bytes →
    rest state = bytes ++ rest (file.read state room).2
  interrupted : ∀ state room fault, (file.read state room).1 = .error fault →
    fault.kind = .interrupted → rest (file.read state room).2 = rest state

def Exchange.served : Exchange → List UInt8
  | .fileRead _ (.ok bytes) => bytes
  | _ => []

/-- The file bytes that came with a list of exchanges. -/
def served (exchanges : List Exchange) : List UInt8 :=
  exchanges.flatMap Exchange.served

@[simp]
theorem served_append (left right : List Exchange) :
    served (left ++ right) = served left ++ served right := by
  simp [served]

/-- An action takes exactly the bytes it was served from the front of the content, unless it
closes the file or a read fails for good. -/
theorem Action.rest_eq_served_append
    {file : FileSource φ}
    (port : SerialPort π)
    {rest : φ → List UInt8}
    (serves : file.Serves rest)
    (devices : Devices φ π)
    (action : Action)
    (notClosing : ∀ answer,
      (action.perform file port devices).exchanges ≠ [.close answer])
    (notFailing : ∀ room fault,
      (action.perform file port devices).exchanges = [.fileRead room (.error fault)] →
        fault.kind = .interrupted) :
    rest devices.file =
      served (action.perform file port devices).exchanges ++
        rest (action.perform file port devices).devices.file := by
  cases action with
  | askSize react => exact (serves.size devices.file).symm
  | fileRead room react =>
      simp only [perform, served, List.flatMap_singleton] at notFailing ⊢
      cases answer : (file.read devices.file room).1 with
      | ok bytes => exact serves.read devices.file room bytes answer
      | error fault =>
          rw [answer] at notFailing
          exact (serves.interrupted devices.file room fault answer (notFailing room fault rfl)).symm
  | write bytes react => rfl
  | receive delay timeout react => rfl
  | close react => exact absurd rfl (notClosing _)
  | settle turn => rfl

private theorem Action.served_prefix
    {file : FileSource φ}
    (port : SerialPort π)
    {rest : φ → List UInt8}
    (serves : file.Serves rest)
    (devices : Devices φ π)
    (action : Action) :
    served (action.perform file port devices).exchanges <+: rest devices.file := by
  cases action with
  | fileRead room react =>
      simp only [perform, served, List.flatMap_singleton]
      cases answer : (file.read devices.file room).1 with
      | ok bytes => exact ⟨_, (serves.read devices.file room bytes answer).symm⟩
      | error fault => exact List.nil_prefix
  | _ => exact List.nil_prefix

namespace Machine

/-- A move does not close the file, and the only failure of a read it gets over is an
interruption. -/
theorem Moves.keeps_reading
    {settings : Settings}
    {machine next : Machine}
    {exchanges : List Exchange}
    (move : machine.Moves settings exchanges next) :
    (∀ answer, exchanges ≠ [.close answer]) ∧
      ∀ room fault, exchanges = [.fileRead room (.error fault)] →
        fault.kind = .interrupted := by
  cases move <;> simp_all

/-- What a call that goes on is served comes from the front of what was left. -/
theorem rest_eq_of_onward
    {settings : Settings}
    {file : FileSource φ}
    {port : SerialPort π}
    {rest : φ → List UInt8}
    (serves : file.Serves rest)
    {machine next : Machine}
    {devices : Devices φ π}
    (goes : (machine.call settings file port devices).turn.next.onward? = some next) :
    rest devices.file =
      served (machine.call settings file port devices).exchanges ++
        rest (machine.call settings file port devices).devices.file := by
  obtain ⟨notClosing, notFailing⟩ := (moves_of_call goes).keeps_reading
  exact Action.rest_eq_served_append port serves devices _ notClosing notFailing

private theorem served_course_prefix
    {settings : Settings}
    {file : FileSource φ}
    {port : SerialPort π}
    {rest : φ → List UInt8}
    (serves : file.Serves rest)
    {machine : Machine}
    {devices : Devices φ π}
    {exchanges : List Exchange}
    {ending : Ending}
    (course : machine.Course settings file port devices exchanges ending) :
    served exchanges <+: rest devices.file := by
  induction course with
  | @last machine devices ending stops => exact Action.served_prefix port serves devices _
  | @more machine devices next exchanges ending goes later inductionHypothesis =>
      rw [served_append, rest_eq_of_onward serves goes]
      exact (List.prefix_append_right_inj _).2 inductionHypothesis

end Machine

theorem served_send_prefix
    {file : FileSource φ}
    {rest : φ → List UInt8}
    (serves : file.Serves rest)
    (settings : Settings)
    (port : SerialPort π)
    (devices : Devices φ π) :
    served (send settings file port devices).exchanges <+: rest devices.file :=
  Machine.served_course_prefix serves
    (Machine.course_of_run settings file port Machine.initial
      (Machine.initial_progressing settings) devices)

/-! ## The sources of this library -/

/-- A scripted file serves its data in order, whatever its script and its claimed size. -/
theorem Scripted.File.serves : Scripted.File.device.Serves Scripted.File.data where
  size := fun _ => rfl
  read := by
    intro file room bytes answered
    simp only [device, File.read] at answered ⊢
    split at answered <;>
      simp only [serve, Except.ok.injEq, reduceCtorEq] at answered ⊢ <;>
      rw [← answered, List.take_append_drop]
  interrupted := by
    intro file room fault failed _
    simp only [device, File.read] at failed ⊢
    split at failed <;> simp_all [serve]

def Storage.LocalFile.rest (file : LocalFile) : List UInt8 :=
  match file.entry with
  | .file content => content.drop file.position
  | _ => []

theorem Storage.LocalFile.serves : Storage.LocalFile.device.Serves Storage.LocalFile.rest where
  size := fun _ => rfl
  read := by
    intro file room bytes answered
    obtain ⟨entry, position, isOpen⟩ := file
    cases isOpen <;> cases entry <;>
      simp only [device, LocalFile.read, rest, if_true, Bool.false_eq_true, if_false,
        Except.ok.injEq, reduceCtorEq] at answered ⊢
    · subst answered
      rw [← List.drop_drop]
      exact (List.prefix_iff_eq_append.1 (List.take_prefix room (_ : List UInt8))).symm
    all_goals simp_all
  interrupted := fun file room fault failed kind =>
    absurd kind (not_interrupted_of_read file room failed)

end KermitSend

import KermitSend.Proofs.CallLog
import KermitSend.Proofs.Transfer.FileOrder

/-!
Contract: an opened file under any sequence of calls.

Owns:
- the calls on a file source, and logs of them;
- where an opened file stands after what has been asked of it so far: how far it has been read, or
  that it is closed;
- the law that the content is served in consecutive pieces until the file is closed, once, and that
  every call fails from then on.

Does not own: how a path leads to a file.
-/

set_option autoImplicit false

namespace KermitSend

variable {φ : Type}

/-! ## Logs of calls -/

/-- A call on a file, before it is answered. -/
inductive FileCall where
  | size
  | read (room : Nat)
  | close
deriving DecidableEq, Repr

/-- The call that an exchange with a file began with. -/
def Exchange.fileCall? : Exchange → Option FileCall
  | .size _ => some .size
  | .fileRead room _ => some (.read room)
  | .close _ => some .close
  | .write .. | .receive .. => none

/-- The bytes that an exchange had room for. -/
def Exchange.asked : Exchange → Nat
  | .fileRead room _ => room
  | _ => 0

/-- The bytes that the reads among a list of exchanges had room for, all together. -/
def asked : List Exchange → Nat
  | [] => 0
  | exchange :: exchanges => exchange.asked + asked exchanges

/-- Nobody has tried to close the file yet. -/
def Unclosed (exchanges : List Exchange) : Prop :=
  ∀ exchange ∈ exchanges, exchange.fileCall? ≠ some .close

/-- A call on a file that failed in this way. -/
def Exchange.FailsWith (fault : Fault) : Exchange → Prop
  | .size answer => answer = .error fault
  | .fileRead _ answer => answer = .error fault
  | .close answer => answer = .error fault
  | .write .. | .receive .. => False

@[simp]
theorem asked_append (left right : List Exchange) :
    asked (left ++ right) = asked left + asked right := by
  induction left with
  | nil => exact (Nat.zero_add _).symm
  | cons exchange left inductionHypothesis =>
      rw [List.cons_append, asked, asked, inductionHypothesis, Nat.add_assoc]

private theorem unclosed_append_singleton_iff (exchanges : List Exchange) (exchange : Exchange) :
    Unclosed (exchanges ++ [exchange]) ↔
      Unclosed exchanges ∧ exchange.fileCall? ≠ some .close := by
  simp [Unclosed, or_imp, forall_and]

namespace FileSource

/-- Make one call. -/
def make (file : FileSource φ) (state : φ) : FileCall → Exchange × φ
  | .size => (.size (file.size state).1, (file.size state).2)
  | .read room => (.fileRead room (file.read state room).1, (file.read state room).2)
  | .close => (.close (file.close state).1, (file.close state).2)

/-- The answers to a sequence of calls. -/
def log (file : FileSource φ) (state : φ) (calls : List FileCall) : List Exchange :=
  callLog file.make state calls

variable (file : FileSource φ)

private theorem fileCall?_make (state : φ) (call : FileCall) :
    (file.make state call).1.fileCall? = some call := by
  cases call <;> rfl

private theorem log_cons (state : φ) (call : FileCall) (calls : List FileCall) :
    file.log state (call :: calls) =
      (file.make state call).1 :: file.log (file.make state call).2 calls :=
  rfl

/-- Every call is recorded, in order. -/
theorem map_fileCall?_log (state : φ) (calls : List FileCall) :
    (file.log state calls).map Exchange.fileCall? = calls.map some := by
  induction calls generalizing state with
  | nil => rfl
  | cons call calls inductionHypothesis =>
      rw [log_cons, List.map_cons, fileCall?_make, inductionHypothesis, List.map_cons]

end FileSource

namespace Storage.LocalFile

variable
  {content : List UInt8}
  {history : List Exchange}
  {file : LocalFile}

/-! ## Where an opened file stands -/

/-- Where a file with this content stands after what was asked of it: behind the bytes it has
served, which are as many as there was room for, or closed. -/
inductive Whereabouts (content : List UInt8) : List Exchange → LocalFile → Prop where
  | opened {history : List Exchange} {position : Nat}
      (unclosed : Unclosed history)
      (front : served history = content.take (asked history))
      (reached : position = (served history).length) :
      Whereabouts content history { entry := .file content, position, isOpen := true }
  | closed {history : List Exchange} {file : LocalFile}
      (ended : ¬ Unclosed history)
      (shut : file.isOpen = false) :
      Whereabouts content history file

/-- A read takes up where the front that was served ends. -/
theorem append_take_drop
    {front : List UInt8}
    {count : Nat}
    (served : front = content.take count)
    (room : Nat) :
    front ++ (content.drop front.length).take room = content.take (count + room) := by
  have reached : content.drop front.length = content.drop count := by
    rw [served, List.length_take]
    rcases Nat.le_total count content.length with within | past
    · rw [Nat.min_eq_left within]
    · rw [Nat.min_eq_right past, List.drop_length, List.drop_eq_nil_of_le past]
  rw [reached, served, List.take_add]

/-- A closed file fails every call and stays closed. -/
theorem make_of_closed (shut : file.isOpen = false) (call : FileCall) :
    (device.make file call).1.FailsWith closedFault ∧
      (device.make file call).2.isOpen = false := by
  cases call <;>
    simp [FileSource.make, device, size, read, close, Exchange.FailsWith, shut]

/-- Every call leads from where a file stands to where it stands after the call. -/
theorem Whereabouts.make (whereabouts : Whereabouts content history file) (call : FileCall) :
    Whereabouts content (history ++ [(device.make file call).1]) (device.make file call).2 := by
  cases whereabouts with
  | opened unclosed front reached =>
      subst reached
      cases call with
      | size =>
          have same : served (history ++ [.size (.ok content.length)]) = served history := by
            simp [served, Exchange.served]
          refine .opened ?unclosed ?front (congrArg List.length same.symm)
          case unclosed =>
            rw [unclosed_append_singleton_iff]
            exact ⟨unclosed, by simp [FileSource.fileCall?_make]⟩
          case front =>
            rw [asked_append]
            exact same.trans front
      | read room =>
          let bytes := (content.drop (served history).length).take room
          have grown : served (history ++ [.fileRead room (.ok bytes)]) =
              served history ++ bytes := by
            simp [served, Exchange.served]
          refine .opened ?unclosed ?front ?reached
          case unclosed =>
            rw [unclosed_append_singleton_iff]
            exact ⟨unclosed, by simp [FileSource.fileCall?_make]⟩
          case front =>
            rw [asked_append]
            exact grown.trans (append_take_drop front room)
          case reached => exact (grown ▸ List.length_append).symm
      | close =>
          refine .closed ?_ rfl
          rw [unclosed_append_singleton_iff]
          exact fun still => still.2 rfl
  | closed ended shut =>
      refine .closed ?_ (make_of_closed shut call).2
      rw [unclosed_append_singleton_iff]
      exact fun still => ended still.1

private theorem whereabouts_ofEntry (content : List UInt8) :
    Whereabouts content [] (ofEntry (.file content)) :=
  .opened (fun _ member => by cases member) rfl rfl

/-- A file that nobody tried to close is open and stands behind what it has served. -/
theorem Whereabouts.of_unclosed
    (whereabouts : Whereabouts content history file)
    (unclosed : Unclosed history) :
    file = { entry := .file content, position := (served history).length, isOpen := true } ∧
      served history = content.take (asked history) := by
  cases whereabouts with
  | opened _ front reached => exact ⟨by rw [reached], front⟩
  | closed ended _ => exact absurd unclosed ended

private theorem Whereabouts.isOpen_of_ended
    (whereabouts : Whereabouts content history file)
    (ended : ¬ Unclosed history) :
    file.isOpen = false := by
  cases whereabouts with
  | opened unclosed _ _ => exact absurd unclosed ended
  | closed _ shut => exact shut

/-! ## What a log of calls shows -/

/-- A log shows a file that serves its content in consecutive pieces, as much as there is room for,
and announces its length, until it is closed; that can be closed once; and that fails every call
afterwards. -/
structure Faithful (content : List UInt8) (log : List Exchange) : Prop where
  front : ∀ earlier later, log = earlier ++ later → Unclosed earlier →
    served earlier = content.take (asked earlier) ∧
      (served earlier).length = min content.length (asked earlier)
  read : ∀ earlier room answer later, log = earlier ++ .fileRead room answer :: later →
    Unclosed earlier →
      ∃ bytes, answer = .ok bytes ∧ (bytes = [] → room = 0 ∨ served earlier = content)
  size : ∀ earlier answer later, log = earlier ++ .size answer :: later →
    Unclosed earlier → answer = .ok content.length
  close : ∀ earlier answer later, log = earlier ++ .close answer :: later →
    Unclosed earlier → answer = .ok ()
  closed : ∀ earlier exchange later, log = earlier ++ exchange :: later →
    ¬ Unclosed earlier → exchange.FailsWith closedFault

/-- An exchange in a log is a call on the file as it stands after the earlier ones. -/
theorem exists_make_of_log
    {calls : List FileCall}
    {earlier later : List Exchange}
    {exchange : Exchange}
    (split : device.log (ofEntry (.file content)) calls = earlier ++ exchange :: later) :
    ∃ file call, Whereabouts content earlier file ∧ exchange = (device.make file call).1 :=
  exists_holds_of_event Whereabouts.make (whereabouts_ofEntry content) split

/-- A read of a file that has served a front of its content brings nothing only when there is no
room or nothing left. -/
theorem eq_nil_or_whole
    {rest : List UInt8}
    {room : Nat}
    (front : rest = content.take rest.length)
    (nothing : (content.drop rest.length).take room = []) :
    room = 0 ∨ rest = content := by
  rcases List.take_eq_nil_iff.1 nothing with none | finished
  · exact .inl none
  · right
    rw [front]
    exact List.take_of_length_le (List.drop_eq_nil_iff.1 finished)

theorem faithful_log (content : List UInt8) (calls : List FileCall) :
    Faithful content (device.log (ofEntry (.file content)) calls) where
  front := by
    intro earlier later split unclosed
    obtain ⟨file, whereabouts⟩ :=
      exists_holds_of_front Whereabouts.make (whereabouts_ofEntry content) split
    obtain ⟨-, front⟩ := whereabouts.of_unclosed unclosed
    refine ⟨front, ?_⟩
    rw [front, List.length_take, Nat.min_comm]
  read := by
    intro earlier room answer later split unclosed
    obtain ⟨file, call, whereabouts, made⟩ := exists_make_of_log split
    obtain ⟨rfl, front⟩ := whereabouts.of_unclosed unclosed
    cases call with
    | read count =>
        obtain ⟨rfl, rfl⟩ := Exchange.fileRead.inj made
        refine ⟨_, rfl, fun nothing => ?_⟩
        refine eq_nil_or_whole ?_ nothing
        rw [front, List.length_take, List.take_eq_take_iff]
        omega
    | _ => cases made
  size := by
    intro earlier answer later split unclosed
    obtain ⟨file, call, whereabouts, made⟩ := exists_make_of_log split
    obtain ⟨rfl, -⟩ := whereabouts.of_unclosed unclosed
    cases call with
    | size => exact Exchange.size.inj made
    | _ => cases made
  close := by
    intro earlier answer later split unclosed
    obtain ⟨file, call, whereabouts, made⟩ := exists_make_of_log split
    obtain ⟨rfl, -⟩ := whereabouts.of_unclosed unclosed
    cases call with
    | close => exact Exchange.close.inj made
    | _ => cases made
  closed := by
    intro earlier exchange later split ended
    obtain ⟨file, call, whereabouts, rfl⟩ := exists_make_of_log split
    exact (make_of_closed (whereabouts.isOpen_of_ended ended) call).1

/-- Asking for the size changes no other answer. -/
theorem filter_log (file : LocalFile) (calls : List FileCall) :
    (device.log file calls).filter (fun exchange => exchange.fileCall? ≠ some .size) =
      device.log file (calls.filter (· ≠ .size)) := by
  induction calls generalizing file with
  | nil => rfl
  | cons call calls inductionHypothesis =>
      rw [FileSource.log_cons, List.filter_cons, FileSource.fileCall?_make, List.filter_cons]
      cases call with
      | size => exact inductionHypothesis file
      | _ => rw [if_pos (by simp), if_pos (by simp), FileSource.log_cons, inductionHypothesis]

/-- Whatever is called on an opened file: each call is answered, in order; the content comes in
consecutive pieces and its length is announced until the file is closed, which goes well once;
every later call fails; and asking for the size changes no other answer. -/
theorem serves_until_closed (content : List UInt8) (calls : List FileCall) :
    (device.log (ofEntry (.file content)) calls).map Exchange.fileCall? = calls.map some ∧
    Faithful content (device.log (ofEntry (.file content)) calls) ∧
    (device.log (ofEntry (.file content)) calls).filter
        (fun exchange => exchange.fileCall? ≠ some .size) =
      device.log (ofEntry (.file content)) (calls.filter (· ≠ .size)) :=
  ⟨device.map_fileCall?_log _ calls, faithful_log content calls, filter_log _ calls⟩

example :
    device.log (ofEntry (.file [1, 2, 3])) [.read 2, .size, .read 2, .close, .read 2] =
      [.fileRead 2 (.ok [1, 2]), .size (.ok 3), .fileRead 2 (.ok [3]), .close (.ok ()),
        .fileRead 2 (.error closedFault)] :=
  rfl

end Storage.LocalFile

end KermitSend

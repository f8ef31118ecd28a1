/-!
Contract: calls made one after the other on something that has a state.

Owns:
- the log of a sequence of calls, what each call was and came to, and the state after them;
- the law that a property of a log so far and the state it has led to, once it is kept by a call,
  holds at every call of every log.

Does not own: what a call does.
-/

set_option autoImplicit false

namespace KermitSend

variable {State Call Event : Type}

/-- Make calls one after the other, each recorded as an event. -/
def callLog (make : State → Call → Event × State) (state : State) : List Call → List Event
  | [] => []
  | call :: calls => (make state call).1 :: callLog make (make state call).2 calls

/-- The state after a sequence of calls. -/
def stateAfter (make : State → Call → Event × State) (state : State) : List Call → State
  | [] => state
  | call :: calls => stateAfter make (make state call).2 calls

variable
  {make : State → Call → Event × State}
  {state : State}
  {calls : List Call}

/-- A front of a log is the log of a front of the calls, and the rest that of the other calls. -/
theorem exists_of_callLog_eq_append
    {earlier later : List Event}
    (split : callLog make state calls = earlier ++ later) :
    ∃ before others, calls = before ++ others ∧ earlier = callLog make state before ∧
      later = callLog make (stateAfter make state before) others := by
  induction earlier generalizing state calls with
  | nil => exact ⟨[], calls, rfl, rfl, split.symm⟩
  | cons event earlier inductionHypothesis =>
      cases calls with
      | nil => cases split
      | cons call calls =>
          rw [callLog, List.cons_append, List.cons.injEq] at split
          obtain ⟨before, others, rfl, rfl, rfl⟩ := inductionHypothesis split.2
          exact ⟨call :: before, others, rfl, by rw [callLog, split.1], rfl⟩

section Kept

variable
  {Holds : List Event → State → Prop}
  (kept : ∀ {history state}, Holds history state → ∀ call,
    Holds (history ++ [(make state call).1]) (make state call).2)

include kept

/-- What every call keeps is kept by a sequence of calls. -/
theorem holds_stateAfter
    {history : List Event}
    (holds : Holds history state)
    (calls : List Call) :
    Holds (history ++ callLog make state calls) (stateAfter make state calls) := by
  induction calls generalizing history state with
  | nil =>
      rw [callLog, List.append_nil]
      exact holds
  | cons call calls inductionHypothesis =>
      rw [callLog, List.append_cons]
      exact inductionHypothesis (kept holds call)

variable (holds : Holds [] state)

include holds

/-- At every front of a log, some state has been reached that is as kept. -/
theorem exists_holds_of_front
    {earlier later : List Event}
    (split : callLog make state calls = earlier ++ later) :
    ∃ reached, Holds earlier reached := by
  obtain ⟨before, others, -, rfl, -⟩ := exists_of_callLog_eq_append split
  exact ⟨_, holds_stateAfter kept holds before⟩

/-- Every event of a log is what a call came to in a state that is as kept. -/
theorem exists_holds_of_event
    {earlier later : List Event}
    {event : Event}
    (split : callLog make state calls = earlier ++ event :: later) :
    ∃ reached call, Holds earlier reached ∧ event = (make reached call).1 := by
  obtain ⟨before, others, -, rfl, rest⟩ := exists_of_callLog_eq_append split
  cases others with
  | nil => cases rest
  | cons call others =>
      rw [callLog, List.cons.injEq] at rest
      exact ⟨_, call, holds_stateAfter kept holds before, rest.1⟩

end Kept

end KermitSend

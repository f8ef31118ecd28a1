import Mathlib.Algebra.Ring.Nat
import Mathlib.Data.List.Induction
import KermitSend.Proofs.Transfer.Delivery

/-!
Contract: how the counters and the whole percents move as packets are acknowledged.

Owns:
- the counters after packets of given lengths;
- whole percents, which never go down, stay within a hundred, and come to a hundred with the last
  byte and not before;
- the milestones, that is, the counters after each packet that moved progress into a new whole
  percent, and the law that there are at most a hundred of them;
- percents counted in machine words, as long as a hundred times the total fits one.

Does not own: when a packet is acknowledged, and what is told of a milestone.
-/

set_option autoImplicit false

namespace KermitSend.Session

/-- The counters after acknowledged packets of these lengths. -/
def afterAll (session : Session) (lengths : List Nat) : Session :=
  lengths.foldl advance session

/-- The counters after each packet, of these lengths, that moved progress into a new whole
percent. -/
def milestones : Session → List Nat → List Session
  | _, [] => []
  | session, length :: lengths =>
      let next := session.advance length
      if session.crossesPercent length then next :: next.milestones lengths
      else next.milestones lengths

example : ((start 1000).milestones [5, 5, 9, 981]).map wholePercent = [1, 100] := by
  decide

/-- What progress is measured by: the bytes sent and the bytes there are. -/
def figures (session : Session) : Nat × Nat :=
  (session.bytesSent, session.total)

/-- Whole percents counted in words of 64 bits. -/
def wordPercent (session : Session) : UInt64 :=
  if session.total = 0 then 100
  else UInt64.ofNat session.bytesSent * 100 / UInt64.ofNat session.total

/-! ## Counters -/

/-- The counters of a transfer of `total` bytes after packets of these lengths. -/
structure Counted (total : Nat) (lengths : List Nat) (session : Session) : Prop where
  announced : session.total = total
  sequence : session.sequence.toNat = lengths.length % 128
  packets : session.packets = lengths.length
  retries : session.retries = 0
  bytesSent : session.bytesSent = lengths.sum
  remaining : session.remaining = total - session.bytesSent

private theorem counted_start (total : Nat) : Counted total [] (start total) where
  announced := rfl
  sequence := rfl
  packets := rfl
  retries := rfl
  bytesSent := rfl
  remaining := rfl

private theorem Counted.advance
    {total : Nat}
    {lengths : List Nat}
    {session : Session}
    (counted : Counted total lengths session)
    (length : Nat) :
    Counted total (lengths ++ [length]) (session.advance length) where
  announced := counted.announced
  sequence := by
    have current : session.sequence = sequenceAt lengths.length := by
      rw [← UInt8.toNat_inj, counted.sequence, toNat_sequenceAt]
    show ((session.sequence + 1) % Wire.sequenceModulus).toNat = _
    rw [current, sequenceAt_succ, toNat_sequenceAt, List.length_append, List.length_singleton]
  packets := by
    rw [List.length_append, ← counted.packets]
    rfl
  retries := rfl
  bytesSent := by
    rw [List.sum_append, ← counted.bytesSent, List.sum_singleton]
    rfl
  remaining := by
    have remaining := counted.remaining
    show session.remaining - length = total - (session.bytesSent + length)
    omega

theorem afterAll_concat (session : Session) (lengths : List Nat) (length : Nat) :
    session.afterAll (lengths ++ [length]) = (session.afterAll lengths).advance length := by
  rw [afterAll, List.foldl_append]
  rfl

theorem afterAll_append (session : Session) (front later : List Nat) :
    session.afterAll (front ++ later) = (session.afterAll front).afterAll later :=
  List.foldl_append

theorem counted_afterAll (total : Nat) (lengths : List Nat) :
    Counted total lengths ((start total).afterAll lengths) := by
  induction lengths using List.reverseRecOn with
  | nil => exact counted_start total
  | append_singleton lengths length inductionHypothesis =>
      rw [afterAll_concat]
      exact inductionHypothesis.advance length

/-! ## Whole percents -/

section Percents

variable
  (session : Session)
  (length : Nat)

theorem wholePercent_le_advance :
    session.wholePercent ≤ (session.advance length).wholePercent := by
  have more : session.bytesSent * 100 ≤ (session.bytesSent + length) * 100 :=
    Nat.mul_le_mul_right 100 (Nat.le_add_right _ _)
  unfold wholePercent
  rw [advance]
  split
  · exact Nat.le_refl 100
  · exact Nat.div_le_div_right more

theorem crossesPercent_iff :
    session.crossesPercent length = true ↔
      session.wholePercent < (session.advance length).wholePercent := by
  have risen := wholePercent_le_advance session length
  rw [crossesPercent, bne_iff_ne]
  omega

variable {session}

theorem wholePercent_le (within : session.bytesSent ≤ session.total) :
    session.wholePercent ≤ 100 := by
  unfold wholePercent
  split
  · exact Nat.le_refl 100
  · apply Nat.div_le_of_le_mul
    exact Nat.mul_le_mul_right 100 within

theorem wholePercent_of_whole (whole : session.bytesSent = session.total) :
    session.wholePercent = 100 := by
  unfold wholePercent
  split
  · rfl
  · rename_i nonempty
    rw [whole]
    exact Nat.mul_div_cancel_left 100 (Nat.pos_of_ne_zero nonempty)

/-- Up to the last byte, what is sent is less than a hundred whole percents. -/
theorem wholePercent_lt (part : session.bytesSent < session.total) :
    session.wholePercent < 100 := by
  have nonempty : session.total ≠ 0 := by
    omega
  unfold wholePercent
  rw [if_neg nonempty, Nat.div_lt_iff_lt_mul (Nat.pos_of_ne_zero nonempty), Nat.mul_comm 100]
  exact Nat.mul_lt_mul_of_pos_right part (by decide)

theorem toNat_wordPercent
    (fits : 100 * session.total < 2 ^ 64)
    (within : session.bytesSent ≤ session.total) :
    session.wordPercent.toNat = session.wholePercent := by
  unfold wordPercent wholePercent
  split
  · rfl
  · have sent : session.bytesSent < 2 ^ 64 := by
      omega
    have total : session.total < 2 ^ 64 := by
      omega
    have product : session.bytesSent * 100 < 2 ^ 64 := by
      omega
    rw [UInt64.toNat_div, UInt64.toNat_mul, UInt64.toNat_ofNat', UInt64.toNat_ofNat',
      Nat.mod_eq_of_lt sent, Nat.mod_eq_of_lt total]
    show session.bytesSent * 100 % 2 ^ 64 / session.total = _
    rw [Nat.mod_eq_of_lt product]

end Percents

/-! ## Milestones -/

section Milestones

variable (session : Session)

private theorem wholePercent_le_afterAll (lengths : List Nat) :
    session.wholePercent ≤ (session.afterAll lengths).wholePercent := by
  induction lengths generalizing session with
  | nil => exact Nat.le_refl _
  | cons length lengths inductionHypothesis =>
      exact Nat.le_trans (wholePercent_le_advance session length)
        (inductionHypothesis (session.advance length))

theorem milestones_append (front later : List Nat) :
    session.milestones (front ++ later) =
      session.milestones front ++ (session.afterAll front).milestones later := by
  induction front generalizing session with
  | nil => rfl
  | cons length front inductionHypothesis =>
      rw [List.cons_append, milestones, milestones, inductionHypothesis]
      split <;> rfl

private theorem length_milestones_le (lengths : List Nat) :
    (session.milestones lengths).length ≤ lengths.length := by
  induction lengths generalizing session with
  | nil => exact Nat.le_refl _
  | cons length lengths inductionHypothesis =>
      have later := inductionHypothesis (session.advance length)
      rw [milestones, List.length_cons]
      split
      · exact Nat.succ_le_succ later
      · exact Nat.le_succ_of_le later

/-- Every milestone takes at least one percent more. -/
theorem length_milestones_add_le (lengths : List Nat) :
    (session.milestones lengths).length + session.wholePercent ≤
      (session.afterAll lengths).wholePercent := by
  induction lengths generalizing session with
  | nil => exact Nat.le_of_eq (Nat.zero_add _)
  | cons length lengths inductionHypothesis =>
      have later := inductionHypothesis (session.advance length)
      show _ ≤ ((session.advance length).afterAll lengths).wholePercent
      rw [milestones]
      split
      · rename_i crosses
        have risen := (crossesPercent_iff session length).1 crosses
        rw [List.length_cons]
        omega
      · have risen := wholePercent_le_advance session length
        omega

private theorem wholePercent_lt_of_mem_milestones
    {lengths : List Nat}
    {milestone : Session}
    (member : milestone ∈ session.milestones lengths) :
    session.wholePercent < milestone.wholePercent := by
  induction lengths generalizing session with
  | nil => cases member
  | cons length lengths inductionHypothesis =>
      have risen := wholePercent_le_advance session length
      rw [milestones] at member
      split at member
      · rename_i crosses
        have crossed := (crossesPercent_iff session length).1 crosses
        rcases List.mem_cons.1 member with rfl | later
        · exact crossed
        · exact Nat.lt_trans crossed (inductionHypothesis _ later)
      · exact Nat.lt_of_le_of_lt risen (inductionHypothesis _ member)

theorem rising_milestones (lengths : List Nat) :
    (session.milestones lengths).Pairwise fun earlier later =>
      earlier.wholePercent < later.wholePercent := by
  induction lengths generalizing session with
  | nil => exact List.Pairwise.nil
  | cons length lengths inductionHypothesis =>
      rw [milestones]
      split
      · refine List.Pairwise.cons ?_ (inductionHypothesis (session.advance length))
        intro later member
        exact wholePercent_lt_of_mem_milestones (session.advance length) member
      · exact inductionHypothesis (session.advance length)

theorem figures_of_mem_milestones
    {lengths : List Nat}
    {milestone : Session}
    (member : milestone ∈ session.milestones lengths) :
    milestone.total = session.total ∧
      milestone.bytesSent ≤ session.bytesSent + lengths.sum := by
  induction lengths generalizing session with
  | nil => cases member
  | cons length lengths inductionHypothesis =>
      rw [milestones] at member
      rw [List.sum_cons]
      split at member
      · rcases List.mem_cons.1 member with rfl | later
        · exact ⟨rfl, Nat.add_le_add_left (Nat.le_add_right _ _) _⟩
        · obtain ⟨total, sent⟩ := inductionHypothesis _ later
          exact ⟨total, Nat.le_trans sent (Nat.le_of_eq (Nat.add_assoc _ _ _))⟩
      · obtain ⟨total, sent⟩ := inductionHypothesis _ member
        exact ⟨total, Nat.le_trans sent (Nat.le_of_eq (Nat.add_assoc _ _ _))⟩

end Milestones

section Figures

variable {left right : Session}

private theorem wholePercent_congr (same : left.figures = right.figures) :
    left.wholePercent = right.wholePercent := by
  obtain ⟨sent, total⟩ := Prod.mk.inj same
  unfold wholePercent
  rw [sent, total]

theorem map_wholePercent_congr
    {left right : List Session}
    (same : left.map figures = right.map figures) :
    left.map wholePercent = right.map wholePercent := by
  have ofFigures : wholePercent =
      (fun shown => if shown.2 = 0 then 100 else shown.1 * 100 / shown.2) ∘ figures := rfl
  rw [ofFigures, ← List.map_map, same, List.map_map]

private theorem figures_advance_congr (same : left.figures = right.figures) (length : Nat) :
    (left.advance length).figures = (right.advance length).figures := by
  obtain ⟨sent, total⟩ := Prod.mk.inj same
  show (left.bytesSent + length, left.total) = (right.bytesSent + length, right.total)
  rw [sent, total]

/-- The attempts on a packet have no part in its milestones. -/
theorem figures_milestones_congr (same : left.figures = right.figures) (lengths : List Nat) :
    (left.milestones lengths).map figures = (right.milestones lengths).map figures := by
  induction lengths generalizing left right with
  | nil => rfl
  | cons length lengths inductionHypothesis =>
      have next := figures_advance_congr same length
      have crosses : left.crossesPercent length = right.crossesPercent length := by
        rw [crossesPercent, crossesPercent, wholePercent_congr same, wholePercent_congr next]
      rw [milestones, milestones, crosses]
      split
      · rw [List.map_cons, List.map_cons, next, inductionHypothesis next]
      · exact inductionHypothesis next

end Figures

/-! ## Transfers of a known size -/

/-- How progress goes as packets of these lengths are acknowledged, out of `total` bytes: the
counters after each front of them, what they come to in whole percents, and the milestones. -/
structure SteadyProgress (total : Nat) (lengths : List Nat) : Prop where
  counted : ∀ front, front <+: lengths → Counted total front ((start total).afterAll front)
  percent : ∀ front, front <+: lengths →
    ((start total).afterAll front).wholePercent = 100 * front.sum / total
  words : ∀ front, front <+: lengths →
    ((start total).afterAll front).wordPercent.toNat = 100 * front.sum / total
  bounded : ∀ front, front <+: lengths → ((start total).afterAll front).wholePercent ≤ 100
  monotone : ∀ front longer, front <+: longer → longer <+: lengths →
    ((start total).afterAll front).wholePercent ≤ ((start total).afterAll longer).wholePercent
  crossing : ∀ front length, front ++ [length] <+: lengths →
    (((start total).afterAll front).crossesPercent length = true ↔
      100 * front.sum / total < 100 * (front ++ [length]).sum / total)
  rising : ((start total).milestones lengths).Pairwise fun earlier later =>
    earlier.wholePercent < later.wholePercent
  count : ((start total).milestones lengths).length ≤ min lengths.length 100
  complete : lengths.sum = total → ∃ front last, lengths = front ++ [last] ∧
    ((start total).afterAll front).crossesPercent last = true ∧
    ((start total).afterAll lengths).wholePercent = 100 ∧
    ∀ shorter, shorter <+: front → ((start total).afterAll shorter).wholePercent < 100

private theorem sum_le_of_front
    {front lengths : List Nat}
    (inFront : front <+: lengths) :
    front.sum ≤ lengths.sum := by
  obtain ⟨later, rfl⟩ := inFront
  rw [List.sum_append]
  exact Nat.le_add_right _ _

section Steady

variable
  {total : Nat}
  {lengths : List Nat}

theorem percent_afterAll (nonempty : 0 < total) (front : List Nat) :
    ((start total).afterAll front).wholePercent = 100 * front.sum / total := by
  have counted := counted_afterAll total front
  unfold wholePercent
  rw [counted.announced, counted.bytesSent, if_neg (Nat.ne_of_gt nonempty), Nat.mul_comm]

private theorem afterAll_within
    (within : lengths.sum ≤ total)
    {front : List Nat}
    (inFront : front <+: lengths) :
    ((start total).afterAll front).bytesSent ≤ ((start total).afterAll front).total := by
  have counted := counted_afterAll total front
  rw [counted.bytesSent, counted.announced]
  exact Nat.le_trans (sum_le_of_front inFront) within

/-- When packets that are not empty make up the whole, the last one and no earlier one brings
progress to a hundred percent. -/
theorem exists_last_of_whole
    (nonempty : 0 < total)
    (positive : ∀ length ∈ lengths, 0 < length)
    (whole : lengths.sum = total) :
    ∃ front last, lengths = front ++ [last] ∧
      ((start total).afterAll front).crossesPercent last = true ∧
      ((start total).afterAll lengths).wholePercent = 100 ∧
      ∀ shorter, shorter <+: front → ((start total).afterAll shorter).wholePercent < 100 := by
  induction lengths using List.reverseRecOn with
  | nil =>
      rw [← whole] at nonempty
      cases nonempty
  | append_singleton front last _ =>
      have lastPositive := positive last (by simp)
      rw [List.sum_append, List.sum_singleton] at whole
      have below : ∀ shorter, shorter <+: front →
          ((start total).afterAll shorter).wholePercent < 100 := by
        intro shorter inFront
        have counted := counted_afterAll total shorter
        have sum := sum_le_of_front inFront
        apply wholePercent_lt
        rw [counted.bytesSent, counted.announced]
        omega
      have counted := counted_afterAll total (front ++ [last])
      have full : ((start total).afterAll (front ++ [last])).wholePercent = 100 := by
        apply wholePercent_of_whole
        rw [counted.bytesSent, counted.announced, List.sum_append, List.sum_singleton, whole]
      refine ⟨front, last, rfl, ?_, full, below⟩
      rw [crossesPercent_iff, ← afterAll_concat, full]
      exact below front (List.prefix_refl front)

/-- Milestones are as many as there are packets, or as there are percents, at most. -/
theorem length_milestones_le_min (within : lengths.sum ≤ total) :
    ((start total).milestones lengths).length ≤ min lengths.length 100 := by
  have percents := length_milestones_add_le (start total) lengths
  have most := wholePercent_le (afterAll_within within (List.prefix_refl lengths))
  have packets := length_milestones_le (start total) lengths
  omega

theorem steadyProgress
    (nonempty : 0 < total)
    (fits : 100 * total < 2 ^ 64)
    (positive : ∀ length ∈ lengths, 0 < length)
    (within : lengths.sum ≤ total) :
    SteadyProgress total lengths where
  counted front _ := counted_afterAll total front
  percent front _ := percent_afterAll nonempty front
  words front inFront := by
    rw [toNat_wordPercent _ (afterAll_within within inFront), percent_afterAll nonempty]
    rw [(counted_afterAll total front).announced]
    exact fits
  bounded front inFront := wholePercent_le (afterAll_within within inFront)
  monotone := by
    rintro front _ ⟨later, rfl⟩ -
    rw [afterAll_append]
    exact wholePercent_le_afterAll _ later
  crossing front length _ := by
    rw [crossesPercent_iff, ← afterAll_concat, percent_afterAll nonempty,
      percent_afterAll nonempty]
  rising := rising_milestones _ lengths
  count := length_milestones_le_min within
  complete := exists_last_of_whole nonempty positive

/-- The last milestone is the one at which everything is sent. -/
theorem exists_last_milestone
    (nonempty : 0 < total)
    (positive : ∀ length ∈ lengths, 0 < length)
    (whole : lengths.sum = total) :
    ∃ earlier, (start total).milestones lengths =
      earlier ++ [(start total).afterAll lengths] := by
  obtain ⟨front, last, rfl, crosses, -, -⟩ := exists_last_of_whole nonempty positive whole
  refine ⟨(start total).milestones front, ?_⟩
  rw [milestones_append, afterAll_concat, milestones, if_pos crosses]
  rfl

end Steady

end KermitSend.Session

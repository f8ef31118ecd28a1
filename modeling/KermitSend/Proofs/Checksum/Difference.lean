import Mathlib.Algebra.Ring.Nat
import KermitSend.Checksum

/-!
Contract: what the check shows of a change to the bytes it covers.

Owns:
- when two sums have the same check, which hangs on their low eight bits;
- the only differences between two sums that the check may miss;
- a byte string with one byte replaced, and what a replacement that is missed has changed.

Does not own: replacements of several bytes, whose differences may cancel.
-/

set_option autoImplicit false

namespace KermitSend

/-! ## Sums with the same check -/

theorem checksum_eq_iff (left right : Nat) :
    checksum left = checksum right ↔
      (left + left / 64 % 4) % 64 = (right + right / 64 % 4) % 64 := by
  rw [← UInt8.toNat_inj, toNat_checksum, toNat_checksum]
  exact Nat.add_right_cancel_iff

/-- Folding looks at the low eight bits of a sum: six that are kept and two that are added. -/
theorem checksum_congr
    {left right : Nat}
    (same : left % 256 = right % 256) :
    checksum left = checksum right := by
  apply (checksum_eq_iff left right).2
  have carry : left / 64 % 4 = right / 64 % 4 := by
    omega
  rw [carry]
  omega

/-! ## Differences -/

/-- The differences below 256 that the check may miss: a row for each number of carries
into the bits above the low six, by which the fold rises as long as these bits do not wrap. -/
def missed : List Nat :=
  [3, 63, 67, 127,
    66, 126, 130, 190,
    129, 189, 193, 253]

/-- Where a difference is missed, its low six bits make up for the carries that are folded: to 64,
or only to 4 if bits 6 and 7 wrap. -/
theorem exists_carries
    {sum difference : Nat}
    (positive : 0 < difference)
    (small : difference ≤ 255)
    (same : checksum (sum + difference) = checksum sum) :
    ∃ carries, (carries = 1 ∨ carries = 2 ∨ carries = 3) ∧
      (difference / 64 = carries ∨ difference / 64 + 1 = carries) ∧
      (difference % 64 + carries = 64 ∨ difference % 64 + carries = 4) := by
  rw [checksum_eq_iff] at same
  obtain ⟨carries, up⟩ : ∃ carries, (sum + difference) / 64 = sum / 64 + carries :=
    ⟨(sum + difference) / 64 - sum / 64, by omega⟩
  have place : difference / 64 = carries ∨
      difference / 64 + 1 = carries ∧ 0 < difference % 64 := by
    omega
  have wrap : (sum / 64 + carries) % 4 = sum / 64 % 4 + carries ∨
      (sum / 64 + carries) % 4 + 4 = sum / 64 % 4 + carries := by
    omega
  have before : sum / 64 % 4 < 4 := Nat.mod_lt _ (by decide)
  have after : (sum / 64 + carries) % 4 < 4 := Nat.mod_lt _ (by decide)
  rw [up] at same
  generalize (sum / 64 + carries) % 4 = risen at same wrap after
  generalize sum / 64 % 4 = carried at same wrap before
  -- the sum itself cancels, and what is left is small
  have balance : difference % 64 + risen = carried ∨
      difference % 64 + risen = carried + 64 := by
    omega
  exact ⟨carries, by omega, by omega, by omega⟩

theorem mem_missed_of_same
    {sum difference : Nat}
    (positive : 0 < difference)
    (small : difference ≤ 255)
    (same : checksum (sum + difference) = checksum sum) :
    difference ∈ missed := by
  obtain ⟨carries, few, place, rest⟩ := exists_carries positive small same
  unfold missed
  simp only [List.mem_cons, List.not_mem_nil, or_false]
  rcases few with rfl | rfl | rfl <;> rcases place with within | above <;>
    rcases rest with next | wrapped <;> omega

/-- The check shows every difference that is a power of two, though 1 and 2 are among the residues
modulo 64 of those that it misses. -/
theorem two_pow_notMem_missed (bit : Nat) : 2 ^ bit ∉ missed := by
  by_cases low : bit < 8
  · have checked : ∀ bit < 8, 2 ^ bit ∉ missed := by
      decide
    exact checked bit low
  · intro member
    have least : 2 ^ 8 ≤ 2 ^ bit := Nat.pow_le_pow_right (by decide) (Nat.not_lt.1 low)
    have most : ∀ difference ∈ missed, difference < 2 ^ 8 := by
      decide
    exact absurd (most _ member) (Nat.not_lt.2 least)

/-! ## Replaced bytes -/

theorem byteSum_set
    {bytes : List UInt8}
    {position : Nat}
    (inside : position < bytes.length)
    (byte : UInt8) :
    byteSum (bytes.set position byte) + bytes[position].toNat = byteSum bytes + byte.toNat := by
  induction bytes generalizing position with
  | nil => exact absurd inside (Nat.not_lt_zero position)
  | cons first bytes inductionHypothesis =>
      cases position with
      | zero =>
          rw [List.set_cons_zero, byteSum_cons, byteSum_cons, List.getElem_cons_zero]
          omega
      | succ position =>
          have later := inductionHypothesis (Nat.lt_of_succ_lt_succ inside)
          rw [List.set_cons_succ, byteSum_cons, byteSum_cons, List.getElem_cons_succ]
          omega

/-- Another byte in the place of one moves the sum, by less than 256. -/
theorem moved_of_replaced
    {bytes : List UInt8}
    {position : Nat}
    (inside : position < bytes.length)
    {byte : UInt8}
    (other : byte ≠ bytes[position])
    {difference : Int}
    (sum : (byteSum (bytes.set position byte) : Int) = byteSum bytes + difference) :
    difference ≠ 0 ∧ difference.natAbs ≤ 255 := by
  have moved := byteSum_set inside byte
  have distinct : byte.toNat ≠ bytes[position].toNat := by
    intro same
    exact other (UInt8.toNat_inj.1 same)
  have new := byte.toNat_lt
  have old := bytes[position].toNat_lt
  omega

/-- A difference that leaves the check as it was is on the list, whether the sum rose or fell. -/
theorem natAbs_mem_missed
    {before after : Nat}
    {difference : Int}
    (moved : difference ≠ 0)
    (small : difference.natAbs ≤ 255)
    (sum : (after : Int) = before + difference)
    (kept : checksum after = checksum before) :
    difference.natAbs ∈ missed := by
  have sides : after = before + difference.natAbs ∨ before = after + difference.natAbs := by
    omega
  have positive : 0 < difference.natAbs := Int.natAbs_pos.2 moved
  rcases sides with raised | lowered
  · rw [raised] at kept
    exact mem_missed_of_same positive small kept
  · rw [lowered] at kept
    exact mem_missed_of_same positive small kept.symm

/-- Modulo 64, what is missed is at most three away from nothing, and never nothing. -/
theorem residue_of_missed
    {difference : Int}
    (member : difference.natAbs ∈ missed) :
    difference % 64 ∈ [1, 2, 3, 61, 62, 63] := by
  have bothWays : ∀ size ∈ missed,
      (size : Int) % 64 ∈ [1, 2, 3, 61, 62, 63] ∧
        (-(size : Int)) % 64 ∈ [1, 2, 3, 61, 62, 63] := by
    decide
  obtain ⟨up, down⟩ := bothWays _ member
  rcases Int.natAbs_eq difference with rises | falls
  · rw [rises]
    exact up
  · rw [falls]
    exact down

end KermitSend

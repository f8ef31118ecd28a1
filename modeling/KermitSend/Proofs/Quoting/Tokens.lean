import KermitSend.Packet.Parse
import KermitSend.Proofs.Quoting.Homomorphism

/-!
Contract: what unquoting makes of any payload, quoted by a sender or not.

Owns:
- the tokens of a payload: bytes that stand for themselves, and marks with the byte behind them;
- the law that a payload has tokens, and then only one sequence of them, unless it ends in an odd
  number of marks;
- which payloads quoting gives back once they are unquoted, and one that it does not, although the
  byte that it stands for has to be quoted.

Does not own: the frame around a payload.
-/

set_option autoImplicit false

namespace KermitSend.Quoting

/-! ## Tokens -/

inductive Token where
  /-- A byte that stands for itself. -/
  | literal (byte : UInt8) (plain : byte ≠ Wire.quoteMark)
  /-- A mark with the byte behind it, which may be another mark. -/
  | pair (next : UInt8)
deriving DecidableEq, Repr

namespace Token

def bytes : Token → List UInt8
  | .literal byte _ => [byte]
  | .pair next => [Wire.quoteMark, next]

/-- The byte that a token stands for. -/
def value : Token → UInt8
  | .literal byte _ => byte
  | .pair next => unflip next

def isPair : Token → Bool
  | .literal _ _ => false
  | .pair _ => true

/-- The token as which quoting writes a byte. -/
def ofByte (byte : UInt8) : Token :=
  if quoted : mustQuote byte = true then .pair (flip byte)
  else .literal byte fun mark => quoted (mark ▸ mustQuote_quoteMark)

/-- Quoting would write the token for the byte that it stands for.  It never writes `c` behind a
mark, with the eighth bit or without: that is the flipped mark, and the mark is not flipped. -/
def AsQuoted : Token → Prop
  | .literal byte _ => mustQuote byte = false
  | .pair next => mustQuote (unflip next) = true ∧ next &&& 0x7F ≠ 0x63

instance : DecidablePred AsQuoted
  | .literal byte _ => inferInstanceAs (Decidable (mustQuote byte = false))
  | .pair next =>
      inferInstanceAs (Decidable (mustQuote (unflip next) = true ∧ next &&& 0x7F ≠ 0x63))

private theorem length_bytes (token : Token) :
    token.bytes.length = if token.isPair then 2 else 1 := by
  cases token with
  | literal byte plain => rfl
  | pair next => rfl

end Token

def spell (tokens : List Token) : List UInt8 :=
  tokens.flatMap Token.bytes

theorem spell_cons (token : Token) (tokens : List Token) :
    spell (token :: tokens) = token.bytes ++ spell tokens :=
  List.flatMap_cons

/-- A payload has one token for each byte, save that a pair takes two. -/
theorem length_spell (tokens : List Token) :
    (spell tokens).length = tokens.length + tokens.countP Token.isPair := by
  induction tokens with
  | nil => rfl
  | cons token tokens inductionHypothesis =>
      rw [spell_cons, List.length_append, inductionHypothesis, token.length_bytes,
        List.length_cons, List.countP_cons]
      split <;> omega

theorem spell_injective
    {left right : List Token}
    (same : spell left = spell right) :
    left = right := by
  induction left generalizing right with
  | nil =>
      cases right with
      | nil => rfl
      | cons token right => cases token <;> cases same
  | cons first left inductionHypothesis =>
      cases right with
      | nil => cases first <;> cases same
      | cons second right =>
          rw [spell_cons, spell_cons] at same
          -- the first byte tells whether a token is a pair
          cases first with
          | literal byte plain =>
              cases second with
              | literal other otherPlain =>
                  obtain ⟨rfl, later⟩ := List.cons.inj same
                  rw [inductionHypothesis later]
              | pair next => exact absurd (List.cons.inj same).1 plain
          | pair next =>
              cases second with
              | literal other otherPlain => exact absurd (List.cons.inj same).1.symm otherPlain
              | pair other =>
                  obtain ⟨rfl, later⟩ := List.cons.inj (List.cons.inj same).2
                  rw [inductionHypothesis later]

theorem unquote_spell (tokens : List Token) :
    unquote (spell tokens) = some (tokens.map Token.value) := by
  induction tokens with
  | nil => rfl
  | cons token tokens inductionHypothesis =>
      rw [spell_cons, List.map_cons]
      cases token with
      | literal byte plain =>
          show unquote (byte :: spell tokens) = _
          rw [unquote_cons plain, inductionHypothesis]
          rfl
      | pair next =>
          show unquote (Wire.quoteMark :: next :: spell tokens) = _
          rw [unquote_quoteMark, inductionHypothesis]
          rfl

/-- What can be unquoted has tokens. -/
theorem exists_spell_of_unquote
    {payload chunk : List UInt8}
    (read : unquote payload = some chunk) :
    ∃ tokens, spell tokens = payload := by
  fun_induction unquote payload generalizing chunk with
  | case1 => exact ⟨[], rfl⟩
  | case2 byte mark => cases read
  | case3 byte plain => exact ⟨[.literal byte fun mark => plain (beq_iff_eq.2 mark)], rfl⟩
  | case4 byte next rest mark inductionHypothesis =>
      obtain ⟨later, found, -⟩ := Option.map_eq_some_iff.1 read
      obtain ⟨tokens, rfl⟩ := inductionHypothesis found
      rw [beq_iff_eq.1 mark]
      exact ⟨.pair next :: tokens, rfl⟩
  | case5 byte next rest plain inductionHypothesis =>
      obtain ⟨later, found, -⟩ := Option.map_eq_some_iff.1 read
      obtain ⟨tokens, same⟩ := inductionHypothesis found
      refine ⟨.literal byte (fun mark => plain (beq_iff_eq.2 mark)) :: tokens, ?_⟩
      rw [spell_cons, same]
      rfl

/-! ## Marks at the end -/

/-- The number of marks at the end of a payload, up to the last byte that is none. -/
def trailingMarks (payload : List UInt8) : Nat :=
  (payload.reverse.takeWhile (· == Wire.quoteMark)).length

private theorem trailingMarks_le (payload : List UInt8) : trailingMarks payload ≤ payload.length := by
  have front := (List.takeWhile_prefix (· == Wire.quoteMark) (l := payload.reverse)).length_le
  rwa [List.length_reverse] at front

/-- A byte in front makes the run at the end longer only if it is a mark and the run is all there
is. -/
theorem trailingMarks_cons (byte : UInt8) (payload : List UInt8) :
    trailingMarks (byte :: payload) =
      if trailingMarks payload = payload.length ∧ byte = Wire.quoteMark then payload.length + 1
      else trailingMarks payload := by
  unfold trailingMarks
  rw [List.reverse_cons, List.takeWhile_append, List.length_reverse]
  by_cases all : (payload.reverse.takeWhile (· == Wire.quoteMark)).length = payload.length
  · by_cases mark : byte = Wire.quoteMark
    · simp [all, mark]
    · simp [all, mark]
  · simp [all]

/-- A pair in front makes the run at the end longer by both of its bytes or not at all. -/
theorem trailingMarks_pair (next : UInt8) (payload : List UInt8) :
    trailingMarks (Wire.quoteMark :: next :: payload) % 2 = trailingMarks payload % 2 := by
  have within := trailingMarks_le payload
  rw [trailingMarks_cons, trailingMarks_cons next, List.length_cons]
  by_cases whole : trailingMarks payload = payload.length ∧ next = Wire.quoteMark
  · rw [if_pos whole, if_pos ⟨rfl, rfl⟩, whole.1]
    omega
  · rw [if_neg whole, if_neg]
    rintro ⟨longer, -⟩
    omega

/-- A payload cannot be unquoted exactly when the run of marks at its end is odd: its pairs leave a
last mark with nothing behind it. -/
theorem unquote_eq_none_iff (payload : List UInt8) :
    unquote payload = none ↔ trailingMarks payload % 2 = 1 := by
  fun_induction unquote payload with
  | case1 => simp [trailingMarks]
  | case2 byte mark => simp [trailingMarks, mark]
  | case3 byte plain => simp [trailingMarks, plain]
  | case4 byte next rest mark inductionHypothesis =>
      rw [Option.map_eq_none_iff, inductionHypothesis, beq_iff_eq.1 mark, trailingMarks_pair]
  | case5 byte next rest plain inductionHypothesis =>
      have other : byte ≠ Wire.quoteMark := fun mark => plain (beq_iff_eq.2 mark)
      rw [Option.map_eq_none_iff, inductionHypothesis, trailingMarks_cons byte,
        if_neg fun both => other both.2]

/-! ## Quoting what was unquoted -/

private theorem flip_unflip_iff (next : UInt8) :
    flip (unflip next) = next ↔ next &&& 0x7F ≠ 0x63 := by
  by_cases mark : next &&& 0x7F = Wire.quoteMark
  · have kept : flip (unflip next) = next := by
      simp [unflip, flip, mark]
    rw [mark]
    exact ⟨fun _ => by decide, fun _ => kept⟩
  · have flipped : unflip next = next ^^^ 0x40 := by
      simp [unflip, flip, mark]
    rw [flipped]
    by_cases becomes : (next ^^^ 0x40) &&& 0x7F = Wire.quoteMark
    · have low := low_xor_xor next
      rw [becomes] at low
      have kept : flip (next ^^^ 0x40) = next ^^^ 0x40 := by
        simp [flip, becomes]
      constructor
      · intro same
        rw [← kept, same] at becomes
        exact absurd becomes mark
      · intro other
        exact absurd low.symm other
    · have back : flip (next ^^^ 0x40) = next := by
        simp only [flip, beq_iff_eq, becomes, if_false]
        rw [UInt8.xor_assoc, UInt8.xor_self, UInt8.xor_zero]
      refine ⟨fun _ low => ?_, fun _ => back⟩
      rw [low_xor, low] at becomes
      exact becomes rfl

private theorem Token.ofByte_value_iff (token : Token) :
    Token.ofByte token.value = token ↔ token.AsQuoted := by
  unfold Token.ofByte
  cases token with
  | literal byte plain =>
      by_cases quoted : mustQuote byte = true
      · simp [Token.value, Token.AsQuoted, quoted]
      · simp [Token.value, Token.AsQuoted, quoted]
  | pair next =>
      by_cases quoted : mustQuote (unflip next) = true
      · simp [Token.value, Token.AsQuoted, quoted, flip_unflip_iff]
      · simp [Token.value, Token.AsQuoted, quoted]

/-- Quoting writes one token for each byte. -/
theorem bytes_quote_eq_spell (chunk : List UInt8) :
    (quote chunk).bytes = spell (chunk.map Token.ofByte) := by
  induction chunk with
  | nil => rfl
  | cons byte chunk inductionHypothesis =>
      have first : (quote [byte]).bytes = (Token.ofByte byte).bytes := by
        rw [quote_cons, Quoted.cons, Token.ofByte]
        split <;> rfl
      rw [bytes_quote_cons, inductionHypothesis, first, List.map_cons, spell_cons]

/-- Quoting gives a payload back exactly when it would have written each of its tokens. -/
theorem quote_values_iff (tokens : List Token) :
    (quote (tokens.map Token.value)).bytes = spell tokens ↔
      ∀ token ∈ tokens, token.AsQuoted := by
  have each : tokens.map (Token.ofByte ∘ Token.value) = tokens.map id ↔
      ∀ token ∈ tokens, Token.ofByte token.value = token := List.map_inj_left
  rw [List.map_id] at each
  rw [bytes_quote_eq_spell, List.map_map]
  constructor
  · intro same token member
    exact token.ofByte_value_iff.1 (each.1 (spell_injective same) token member)
  · intro asQuoted
    rw [each.2 fun token member => token.ofByte_value_iff.2 (asQuoted token member)]

/-! ## Any payload -/

/-- Unquoting fails on a payload that ends in an odd number of marks, which is then what is wrong
with a packet that carries it.  Every other payload is one sequence of tokens and no other;
unquoting gives the byte that each of them stands for, and quoting these gives back the payload
exactly when it would have written each token. -/
theorem unquote_exact (payload : List UInt8) :
    (unquote payload = none ↔ trailingMarks payload % 2 = 1) ∧
    (∀ packet : Packet.DataPacket, packet.payload = payload →
      (packet.data = .error .danglingQuote ↔ trailingMarks payload % 2 = 1)) ∧
    (trailingMarks payload % 2 = 0 → ∃ tokens,
      (∀ others, spell others = payload ↔ others = tokens) ∧
      unquote payload = some (tokens.map Token.value) ∧
      (tokens.map Token.value).length = payload.length - tokens.countP Token.isPair ∧
      ((quote (tokens.map Token.value)).bytes = payload ↔ ∀ token ∈ tokens, token.AsQuoted)) := by
  refine ⟨unquote_eq_none_iff payload, ?_, ?_⟩
  · rintro packet rfl
    rw [← unquote_eq_none_iff, Packet.DataPacket.data]
    cases unquote packet.payload <;> simp
  · intro even
    have readable : unquote payload ≠ none := by
      rw [Ne, unquote_eq_none_iff]
      omega
    obtain ⟨chunk, read⟩ := Option.ne_none_iff_exists'.1 readable
    obtain ⟨tokens, rfl⟩ := exists_spell_of_unquote read
    refine ⟨tokens, ?_, unquote_spell tokens, ?_, quote_values_iff tokens⟩
    · intro others
      exact ⟨spell_injective, fun same => same ▸ rfl⟩
    · rw [length_spell, List.length_map]
      omega

/-- Two pairs and a byte that stands for itself, as quoting writes them; and a mark at the end with
nothing behind it. -/
theorem unquote_exact_threeTokens :
    trailingMarks [0x23, 0x41, 0x23, 0x23, 0x5A] % 2 = 0 ∧
    unquote [0x23, 0x41, 0x23, 0x23, 0x5A] = some [0x01, 0x23, 0x5A] ∧
    (quote [0x01, 0x23, 0x5A]).bytes = [0x23, 0x41, 0x23, 0x23, 0x5A] ∧
    ∀ packet : Packet.DataPacket, packet.payload = [0x41, 0x23] →
      packet.data = .error .danglingQuote := by
  have even : trailingMarks [0x23, 0x41, 0x23, 0x23, 0x5A] % 2 = 0 := by
    decide
  obtain ⟨tokens, only, read, -, given⟩ :=
    (unquote_exact [0x23, 0x41, 0x23, 0x23, 0x5A]).2.2 even
  obtain rfl := (only [.pair 0x41, .pair 0x23, .literal 0x5A (by decide)]).1 rfl
  refine ⟨even, read, given.2 (by decide), ?_⟩
  intro packet carries
  exact ((unquote_exact [0x41, 0x23]).2.1 packet carries).2 (by decide)

/-- A payload that is a single pair, whose value has to be quoted, and that quoting does not give
back: the value is the mark, which is quoted unflipped. -/
theorem requoted_otherwise :
    spell [.pair 0x63] = [0x23, 0x63] ∧
    unquote [0x23, 0x63] = some [unflip 0x63] ∧
    mustQuote (unflip 0x63) = true ∧
    (quote [unflip 0x63]).bytes = [0x23, 0x23] ∧
    (quote [unflip 0x63]).bytes ≠ [0x23, 0x63] := by
  decide

end KermitSend.Quoting

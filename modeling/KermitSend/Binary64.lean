/-!
Contract: non-negative fractions in the 64-bit binary format.

A value is a whole number of at most 53 bits times a power of two.  The format's
extremes (subnormal numbers, overflow) are out of reach of the ratios computed here, which lie
between 2^-64 and 2^71.

Owns:
- rounding a ratio of whole numbers to the nearest value, a tie going to the even one;
- product and quotient, each rounded once;
- the 64 bits of a value and its text with a fixed number of decimals.

Does not own: negative numbers, infinities and values that are not numbers.
-/

namespace KermitSend

/-- Round `numerator / denominator` to a whole number; a tie goes to the even neighbour. -/
def roundHalfEven (numerator denominator : Nat) : Nat :=
  let quotient := numerator / denominator
  let twice := 2 * (numerator % denominator)
  if twice < denominator then quotient
  else if denominator < twice then quotient + 1
  else quotient + quotient % 2

/-- The value `mantissa * 2 ^ exponent`. -/
structure Binary64 where
  mantissa : Nat
  exponent : Int
deriving DecidableEq, Repr

namespace Binary64

/-- The numerator of the value as a ratio of whole numbers. -/
def numerator (value : Binary64) : Nat :=
  value.mantissa * Nat.pow 2 value.exponent.toNat

/-- The denominator of the value as a ratio of whole numbers. -/
def denominator (value : Binary64) : Nat :=
  Nat.pow 2 (-value.exponent).toNat

/-- The ratio in units of `2 ^ exponent`, again as a ratio. -/
def scaled (exponent : Int) (numerator denominator : Nat) : Nat × Nat :=
  (numerator * Nat.pow 2 (-exponent).toNat, denominator * Nat.pow 2 exponent.toNat)

/-- The exponent at which a positive ratio has a whole part of 53 bits. -/
def exponentOf (numerator denominator : Nat) : Int :=
  let guess : Int := (numerator.log2 : Int) - (denominator.log2 : Int) - 53
  let (top, bottom) := scaled guess numerator denominator
  if top / bottom < Nat.pow 2 53 then guess else guess + 1

/-- The value nearest to a ratio; of two nearest, the one with the even mantissa. -/
def ofRatio (numerator denominator : Nat) : Binary64 :=
  if numerator = 0 then ⟨0, 0⟩
  else
    let exponent := exponentOf numerator denominator
    let (top, bottom) := scaled exponent numerator denominator
    let mantissa := roundHalfEven top bottom
    if mantissa = Nat.pow 2 53 then ⟨Nat.pow 2 52, exponent + 1⟩ else ⟨mantissa, exponent⟩

/-- The value nearest to a whole number. -/
def ofNat (value : Nat) : Binary64 :=
  ofRatio value 1

/-- The rounded product. -/
def mul (left right : Binary64) : Binary64 :=
  ofRatio (left.numerator * right.numerator) (left.denominator * right.denominator)

/-- The rounded quotient. -/
def div (left right : Binary64) : Binary64 :=
  ofRatio (left.numerator * right.denominator) (left.denominator * right.numerator)

/-- The bits of the value: 11 bits of exponent over 52 bits of mantissa, whose leading one is
left out. -/
def bits (value : Binary64) : Nat :=
  if value.mantissa = 0 then 0
  else (value.exponent + 1075).toNat * Nat.pow 2 52 + (value.mantissa - Nat.pow 2 52)

/-- The text of a whole number of `places`-th decimals, with a decimal point. -/
def fixedText (places units : Nat) : String :=
  let fraction := toString (units % Nat.pow 10 places)
  toString (units / Nat.pow 10 places) ++ "." ++ "".pushn '0' (places - fraction.length) ++ fraction

/-- The value with `places` decimals, rounded from its exact worth, ties to even. -/
def toFixed (places : Nat) (value : Binary64) : String :=
  fixedText places (roundHalfEven (value.numerator * Nat.pow 10 places) value.denominator)

end Binary64

end KermitSend

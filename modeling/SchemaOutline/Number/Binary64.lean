/-!
# Finite binary64 numbers

Every finite binary64 number is a sign and a whole number of units of `2 ^ -1074`, the smallest
positive one. This module keeps them in that form, so that rounding to the nearest number is
arithmetic on natural numbers.

* `Binary64` — a finite number: sign, significand and scale, in the one form each number has.
* `Binary64.units` — its magnitude, counted in units of `2 ^ -1074`.
* `Binary64.nearest?` — the number nearest to a quotient of units, a tie going to the even
  significand; nothing when the quotient rounds past the largest finite number.
-/

namespace SchemaOutline

/-- **A finite binary64 number.** Its magnitude is `significand * 2 ^ scale` units of `2 ^ -1074`.
The significand has 53 bits, so it is below `2 ^ 53` and at least `2 ^ 52`; it may have fewer only
at the least scale, so no magnitude is written in two ways. The two zeros differ by their sign. -/
structure Binary64 where
  negative : Bool
  significand : Nat
  scale : Nat
  significand_lt : significand < 9007199254740992
  scale_le : scale ≤ 2045
  full : scale = 0 ∨ 4503599627370496 ≤ significand
  deriving DecidableEq

namespace Binary64

/-- The magnitude, counted in units of `2 ^ -1074`. -/
def units (x : Binary64) : Nat :=
  x.significand * Nat.pow 2 x.scale

/-- The units that make one. -/
def one : Nat := Nat.pow 2 1074

/-- The zero of the given sign. -/
def zero (negative : Bool) : Binary64 where
  negative
  significand := 0
  scale := 0
  significand_lt := by decide
  scale_le := by decide
  full := .inl rfl

instance : Inhabited Binary64 := ⟨zero false⟩

/-- The same number with the sign given. -/
def withSign (x : Binary64) (negative : Bool) : Binary64 :=
  { x with negative }

/-- The natural number nearest to `numerator / denominator`, a tie going to the even one. -/
def roundQuotient (numerator denominator : Nat) : Nat :=
  let whole := numerator / denominator
  let rest := numerator % denominator
  if 2 * rest < denominator ∨ (2 * rest = denominator ∧ whole % 2 = 0) then whole else whole + 1

/-- The least scale at which `whole` units leave a significand of at most 53 bits. -/
def scaleFor (whole : Nat) : Nat :=
  if whole < 9007199254740992 then 0 else whole.log2 - 52

/-- The number with this significand and scale, if it is one. A significand rounded up to
`2 ^ 53` is `2 ^ 52` at the next scale. -/
def ofParts? (negative : Bool) (significand scale : Nat) : Option Binary64 :=
  if h : significand < 9007199254740992 ∧ scale ≤ 2045 ∧
      (scale = 0 ∨ 4503599627370496 ≤ significand) then
    some ⟨negative, significand, scale, h.1, h.2.1, h.2.2⟩
  else if h : significand = 9007199254740992 ∧ scale + 1 ≤ 2045 then
    some ⟨negative, 4503599627370496, scale + 1, by decide, h.2, .inr (Nat.le_refl _)⟩
  else
    none

/-- **Rounding to nearest.** The number nearest to `numerator / denominator` units, with ties to
the even significand; nothing when that is past the largest finite number. -/
def nearest? (negative : Bool) (numerator denominator : Nat) : Option Binary64 :=
  let scale := scaleFor (numerator / denominator)
  ofParts? negative (roundQuotient numerator (denominator * Nat.pow 2 scale)) scale

end Binary64

end SchemaOutline

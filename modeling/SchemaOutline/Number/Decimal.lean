import SchemaOutline.Number.Binary64

/-!
# Decimal numerals

A decimal numeral is a coefficient with a power of ten. This module reads one as the nearest
binary64 number, finds the shortest one that reads back as a given number, and lays its digits out.

* `Decimal.toBinary64?` — the nearest binary64 number; nothing past the largest finite one.
* `Binary64.shortest` — the numeral with the fewest digits that reads back, and of those the
  nearest to the number; `Tie` says which of two that are equally near.
* `Decimal.positional` — the digits before and after the point.
* `Decimal.magnitude` — the power of ten of the first digit.
-/

namespace SchemaOutline

/-- The numeral `coefficient * 10 ^ exponent`. -/
structure Decimal where
  coefficient : Nat
  exponent : Int
  deriving DecidableEq, Inhabited

namespace Decimal

/-- The binary64 number nearest to the numeral, of the given sign; nothing when it rounds past the
largest finite number. Two cases need no power of ten: `10 ^ 342` is past every finite number, and
a coefficient below `2 ^ b` times `10 ^ -k` is below half a unit once `b + 1075 ≤ 3 * k`. -/
def toBinary64? (d : Decimal) (negative : Bool) : Option Binary64 :=
  if d.coefficient = 0 then
    some (.zero negative)
  else
    match d.exponent with
    | .ofNat k =>
      if 342 ≤ k then none
      else Binary64.nearest? negative (d.coefficient * Nat.pow 10 k * Binary64.one) 1
    | .negSucc k =>
      if d.coefficient.log2 + 1 + 1075 ≤ 3 * (k + 1) then some (.zero negative)
      else Binary64.nearest? negative (d.coefficient * Binary64.one) (Nat.pow 10 (k + 1))

/-- The decimal digits of the coefficient. -/
def digits (d : Decimal) : List Char :=
  Nat.toDigits 10 d.coefficient

/-- Drops zeros from the end of the coefficient, at most `limit` of them. -/
def dropZeros : Nat → Decimal → Decimal
  | 0, d => d
  | limit + 1, d =>
    if d.coefficient ≠ 0 ∧ d.coefficient % 10 = 0 then
      dropZeros limit ⟨d.coefficient / 10, d.exponent + 1⟩
    else
      d

/-- The digits before the point (at least one) and those after it. -/
def positional (d : Decimal) : List Char × List Char :=
  match d.exponent with
  | .ofNat k => (d.digits ++ List.replicate k '0', [])
  | .negSucc k =>
    let places := k + 1
    if places < d.digits.length then
      d.digits.splitAt (d.digits.length - places)
    else
      (['0'], List.replicate (places - d.digits.length) '0' ++ d.digits)

/-- The power of ten of the first digit. -/
def magnitude (d : Decimal) : Int :=
  d.digits.length - 1 + d.exponent

end Decimal

/-- Which of two numerals goes first that are equally near to a number: the one with an even last
digit, or the greater one. -/
inductive Tie where
  | toEven
  | up
  deriving DecidableEq

namespace Binary64

/-- All digits of the number: a unit is `5 ^ 1074 * 10 ^ -1074`. -/
def exactDecimal (x : Binary64) : Decimal :=
  ⟨x.units * Nat.pow 5 1074, -1074⟩

/-- The numeral reads back as `x`. -/
def ReadsBack (x : Binary64) (d : Decimal) : Prop :=
  d.toBinary64? x.negative = some x

instance (x : Binary64) (d : Decimal) : Decidable (x.ReadsBack d) :=
  inferInstanceAs (Decidable (_ = _))

/-- Whether the lower of two neighbours goes first: it is `lower` steps from zero, and the number
lies `rest` parts of a step behind it. -/
def prefersLower (tie : Tie) (lower rest step : Nat) : Bool :=
  2 * rest < step || (2 * rest == step && tie = .toEven && lower % 2 == 0)

/-- Of the two neighbours of `x` among the multiples of `10 ^ dropped` units of `10 ^ -1074`, the
nearer one that reads back. -/
def neighbour? (tie : Tie) (x : Binary64) (dropped : Nat) : Option Decimal :=
  let step := Nat.pow 10 dropped
  let below := x.exactDecimal.coefficient / step
  let rest := x.exactDecimal.coefficient % step
  let candidates :=
    if prefersLower tie below rest step then [below, below + 1] else [below + 1, below]
  (candidates.map fun c => Decimal.dropZeros 18 ⟨c, dropped - 1074⟩).find? fun d => x.ReadsBack d

/-- **The shortest numeral.** The numeral with the fewest digits that reads back as `x`, and of
those with as many digits the nearest to `x`. Seventeen digits are enough for every number; all
its digits stand in for a search that found none. -/
def shortest (tie : Tie) (x : Binary64) : Decimal :=
  if x.significand = 0 then
    ⟨0, 0⟩
  else
    let length := x.exactDecimal.digits.length
    ((List.range 17).findSome? fun n => x.neighbour? tie (length - (n + 1))).getD x.exactDecimal

end Binary64

end SchemaOutline

import SchemaOutline.Number.Decimal

/-!
# Numerals read in steps

A JSON numeral is not read as the binary64 number nearest to it. Its coefficient is rounded first,
and the result is multiplied or divided by a power of ten that has been rounded too, so the last
bit may differ from that of the nearest number. With at most 15 digits and a power of ten up to
`10 ^ 22` nothing is lost before the one step that rounds, and the two readings agree.

* `Binary64.ofNat?`, `Binary64.product?`, `Binary64.quotient?` — the operations, each of which
  rounds once.
* `Decimal.powerOfTen?` — a power of ten.
* `Decimal.scaled?` — the number a numeral is read as.
-/

namespace SchemaOutline

namespace Binary64

/-- The number nearest to a natural number. -/
def ofNat? (n : Nat) : Option Binary64 :=
  nearest? false (n * one) 1

/-- The number nearest to a product; nothing when it is past the largest finite one. -/
def product? (x y : Binary64) : Option Binary64 :=
  nearest? (x.negative != y.negative) (x.units * y.units) one

/-- The number nearest to a quotient by a number other than zero; nothing when it is past the
largest finite one. -/
def quotient? (x y : Binary64) : Option Binary64 :=
  nearest? (x.negative != y.negative) (x.units * one) y.units

end Binary64

namespace Decimal

/-- The number nearest to a power of ten. -/
def powerOfTen? (k : Nat) : Option Binary64 :=
  (⟨1, k⟩ : Decimal).toBinary64? false

/-- The exponent of the greatest power of ten among the finite numbers. -/
def greatestPower : Nat := 308

/-- A number times `10 ^ k`; nothing if that or the power itself is past the largest finite
number. -/
def raised? (x : Binary64) (k : Nat) : Option Binary64 :=
  if k ≤ greatestPower then do x.product? (← powerOfTen? k) else none

/-- A number times `10 ^ -k`. A power that is too great is divided by in two steps, and what has
been divided twice by the greatest power is zero, as the number is below `2 ^ 64`. -/
def lowered? (x : Binary64) (k : Nat) : Option Binary64 :=
  if k ≤ greatestPower then do x.quotient? (← powerOfTen? k)
  else if k ≤ 2 * greatestPower then do
    let once ← x.quotient? (← powerOfTen? greatestPower)
    once.quotient? (← powerOfTen? (k - greatestPower))
  else some (.zero false)

/-- **The number a numeral is read as**, of the given sign: its coefficient, which is below
`2 ^ 64`, and the power of ten rounded each, then their product or quotient. -/
def scaled? (d : Decimal) (negative : Bool) : Option Binary64 :=
  if d.coefficient = 0 then
    some (.zero negative)
  else do
    let coefficient ← Binary64.ofNat? d.coefficient
    let magnitude ←
      match d.exponent with
      | .ofNat k => raised? coefficient k
      | .negSucc k => lowered? coefficient (k + 1)
    return magnitude.withSign negative

end Decimal

end SchemaOutline

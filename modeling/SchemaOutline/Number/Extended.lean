import SchemaOutline.Number.Decimal

/-!
# Binary64 numbers with infinities

The numbers a settings file or an environment variable may give: besides the finite ones the two
infinities, and the value that is not a number.

* `Extended64` — the numbers.
* `Extended64.ofDecimal` — the nearest number to a numeral, infinite past the largest finite one.
* `Extended64.ofText?` — the number that a text spells.
* `Extended64.plain` — the shortest digits that read back, never with an exponent.
* `Extended64.toWord` — the nearest natural number of 64 bits.
-/

namespace SchemaOutline

/-- A binary64 number, finite or not. -/
inductive Extended64 where
  | finite (x : Binary64)
  | infinite (negative : Bool)
  | notNumber
  deriving DecidableEq

namespace Extended64

instance : Inhabited Extended64 := ⟨notNumber⟩

/-- The number nearest to a numeral of the given sign. -/
def ofDecimal (d : Decimal) (negative : Bool) : Extended64 :=
  match d.toBinary64? negative with
  | some x => finite x
  | none => infinite negative

/-- The digits at the beginning of a text, and the characters behind them. -/
def digitsOf (cs : List Char) : List Char × List Char :=
  cs.span Char.isDigit

/-- The number of decimal digits. -/
def valueOf (digits : List Char) : Nat :=
  Nat.ofDigitChars 10 digits 0

/-- The exponent at the end of a number: zero if there is none. -/
def exponentOf? (cs : List Char) : Option Int :=
  let digits? (ds : List Char) : Option Nat :=
    if ds ≠ [] ∧ ds.all Char.isDigit then some (valueOf ds) else none
  match cs with
  | [] => some 0
  | e :: rest =>
    if e = 'e' ∨ e = 'E' then
      match rest with
      | '-' :: ds => do return -(← digits? ds : Int)
      | '+' :: ds => do return (← digits? ds : Int)
      | ds => do return (← digits? ds : Int)
    else none

/-- The number that a text behind its sign spells: a word for an infinity or for no number, in
letters of either case, or digits with a point and an exponent, which may both be missing. -/
def ofUnsigned? (negative : Bool) (cs : List Char) : Option Extended64 :=
  let word := cs.map Char.toLower
  if word = ['i', 'n', 'f'] ∨ word = ['i', 'n', 'f', 'i', 'n', 'i', 't', 'y'] then
    some (infinite negative)
  else if word = ['n', 'a', 'n'] then some notNumber
  else
    let (whole, rest) := digitsOf cs
    let (fraction, rest) :=
      match rest with
      | '.' :: rest => digitsOf rest
      | rest => ([], rest)
    if whole = [] ∧ fraction = [] then none
    else do
      let exponent ← exponentOf? rest
      return ofDecimal ⟨valueOf (whole ++ fraction), exponent - fraction.length⟩ negative

/-- **The number that a text spells.** -/
def ofText? (s : String) : Option Extended64 :=
  match s.toList with
  | '-' :: cs => ofUnsigned? true cs
  | '+' :: cs => ofUnsigned? false cs
  | cs => ofUnsigned? false cs

/-- The shortest digits that read back, with a point only where digits stand after it. Of two
numerals equally near, the greater one is written. -/
def plain : Extended64 → List Char
  | finite x =>
    let (whole, fraction) := (x.shortest .up).positional
    (if x.negative then ['-'] else []) ++ whole ++
      (if fraction.isEmpty then [] else '.' :: fraction)
  | infinite true => ['-', 'i', 'n', 'f']
  | infinite false => ['i', 'n', 'f']
  | notNumber => ['N', 'a', 'N']

/-- The digits with a point in any case, where the number is finite. -/
def pointed (x : Extended64) : List Char :=
  match x with
  | finite _ => if x.plain.contains '.' then x.plain else x.plain ++ ['.', '0']
  | _ => x.plain

/-- The greatest natural number of 64 bits. -/
def greatestWord : Nat := 18446744073709551615

/-- The nearest natural number of 64 bits, a half being rounded up. A negative number gives
zero, and so does what is not a number. -/
def toWord : Extended64 → Nat
  | finite x =>
    if x.negative then 0 else min ((2 * x.units + Binary64.one) / (2 * Binary64.one)) greatestWord
  | infinite true => 0
  | infinite false => greatestWord
  | notNumber => 0

end Extended64

end SchemaOutline

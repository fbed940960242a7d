import SchemaOutline.Toml.Value

/-!
# Dates and times

A moment is a date, a time of day, or both, and then it may have an offset from universal time. It
is kept as its text in one spelling: `T` between date and time, `Z` for universal time, and no
zeros at the end of a fraction.

A moment stands in a document as such, or in a table: one whose first key is `Moment.key` stands
for the moment that the text under that key spells, whatever else is in it.

* `Moment.read?` — the moment at the beginning of some characters.
* `Moment.ofText?` — the moment that a text spells.
* `Value.withMoments?` — a value with the moments its tables stand for.
-/

namespace SchemaOutline.Toml

namespace Moment

/-! ## Parts of a moment -/

/-- A digit. -/
def isDigit (c : Char) : Bool :=
  '0' ≤ c && c ≤ '9'

/-- A character that has to stand next. -/
def expect? (c : Char) : List Char → Option (List Char)
  | d :: rest => if d = c then some rest else none
  | [] => none

/-- A number of exactly `count` digits. -/
def fixed? (count : Nat) (cs : List Char) : Option (Nat × List Char) :=
  let digits := cs.take count
  if digits.length = count ∧ digits.all isDigit then
    some (Nat.ofDigitChars 10 digits 0, cs.drop count)
  else none

/-- A natural number in decimal digits, with zeros in front up to a width. -/
def padded (width n : Nat) : List Char :=
  let digits := Nat.toDigits 10 n
  List.replicate (width - digits.length) '0' ++ digits

/-- The days of a month. -/
def daysOf (year month : Nat) : Nat :=
  if month = 2 then
    if year % 4 = 0 ∧ (year % 100 ≠ 0 ∨ year % 400 = 0) then 29 else 28
  else if month = 4 ∨ month = 6 ∨ month = 9 ∨ month = 11 then 30
  else 31

/-- A date. -/
def date? (cs : List Char) : Option (List Char × List Char) := do
  let (year, rest) ← fixed? 4 cs
  let rest ← expect? '-' rest
  let (month, rest) ← fixed? 2 rest
  let rest ← expect? '-' rest
  let (day, rest) ← fixed? 2 rest
  if 1 ≤ month ∧ month ≤ 12 ∧ 1 ≤ day ∧ day ≤ daysOf year month then
    return (padded 4 year ++ '-' :: padded 2 month ++ '-' :: padded 2 day, rest)
  else none

/-- The fraction of a second: nine digits count, and zeros at its end are not written. -/
def fraction? (cs : List Char) : Option (List Char × List Char) :=
  match cs with
  | '.' :: rest =>
    match rest.span isDigit with
    | ([], _) => none
    | (digits, rest) =>
      let kept := ((digits.take 9).reverse.dropWhile (· = '0')).reverse
      some (if kept.isEmpty then [] else '.' :: kept, rest)
  | _ => some ([], cs)

/-- Hours and minutes. -/
def hoursAndMinutes? (cs : List Char) : Option ((Nat × Nat) × List Char) := do
  let (hour, rest) ← fixed? 2 cs
  let (minute, rest) ← fixed? 2 (← expect? ':' rest)
  return ((hour, minute), rest)

/-- A time of day. The last second of a minute may be its 61st. -/
def time? (cs : List Char) : Option (List Char × List Char) := do
  let ((hour, minute), rest) ← hoursAndMinutes? cs
  let (second, rest) ← fixed? 2 (← expect? ':' rest)
  let (fraction, rest) ← fraction? rest
  if hour ≤ 23 ∧ minute ≤ 59 ∧ second ≤ 60 then
    return (padded 2 hour ++ ':' :: padded 2 minute ++ ':' :: padded 2 second ++ fraction, rest)
  else none

/-- An offset from universal time; there may be none. One of no minutes is written with a plus. -/
def offset? (cs : List Char) : Option (List Char × List Char) :=
  let signed (sign : Char) (rest : List Char) : Option (List Char × List Char) := do
    let ((hour, minute), rest) ← hoursAndMinutes? rest
    if hour ≤ 23 ∧ minute ≤ 59 then
      let sign := if hour = 0 ∧ minute = 0 then '+' else sign
      return (sign :: padded 2 hour ++ ':' :: padded 2 minute, rest)
    else none
  match cs with
  | 'Z' :: rest | 'z' :: rest => some (['Z'], rest)
  | '+' :: rest => signed '+' rest
  | '-' :: rest => signed '-' rest
  | _ => some ([], cs)

/-! ## Moments -/

/-- **The moment at the beginning of some characters.** A date that no time follows is a moment by
itself. -/
def read? (cs : List Char) : Option (String × List Char) :=
  match date? cs with
  | some (date, rest) =>
    let timed : Option (List Char × List Char) :=
      match rest with
      | mark :: rest =>
        if mark = 'T' ∨ mark = 't' ∨ mark = ' ' then do
          let (time, rest) ← time? rest
          let (offset, rest) ← offset? rest
          return (date ++ 'T' :: time ++ offset, rest)
        else none
      | [] => none
    let (chars, rest) := timed.getD (date, rest)
    some (String.ofList chars, rest)
  | none => do
    let (time, rest) ← time? cs
    return (String.ofList time, rest)

/-- **The moment that a text spells**, which ends where the text does. -/
def ofText? (s : String) : Option String :=
  match read? s.toList with
  | some (moment, []) => some moment
  | _ => none

/-- The first key of a table that stands for a moment. -/
def key : String := "$__toml_private_datetime"

end Moment

namespace Value

mutual

/-- **The value with the moments its tables stand for**; nothing if one of these is not spelled by
a text. -/
def withMoments? : Value → Option Value
  | .array elements => do return .array (← elementsWithMoments? elements)
  | .table [] => some (.table [])
  | .table ((first, v) :: rest) =>
    if first = Moment.key then
      match v with
      | .text s => (Moment.ofText? s).map .moment
      | _ => none
    else do
      let v ← v.withMoments?
      return .table ((first, v) :: (← entriesWithMoments? rest))
  | v => some v

/-- The elements of an array with the moments in them. -/
def elementsWithMoments? : List Value → Option (List Value)
  | [] => some []
  | v :: rest => do
    let v ← v.withMoments?
    return v :: (← elementsWithMoments? rest)

/-- The entries of a table with the moments in them. -/
def entriesWithMoments? : List (String × Value) → Option (List (String × Value))
  | [] => some []
  | (name, v) :: rest => do
    let v ← v.withMoments?
    return (name, v) :: (← entriesWithMoments? rest)

end

end Value

end SchemaOutline.Toml

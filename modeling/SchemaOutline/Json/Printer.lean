import SchemaOutline.Json.Basic

/-!
# Writing JSON text

One printer with two layouts. The compact layout has no blanks; the indented one puts every
element and entry on a line of its own, two blanks deeper than its container, and writes an empty
container as `[]` or as a pair of braces.

* `Json.compact`, `Json.indented` — the text of a value.
* `Json.literalText` — a text verbatim, any other value as compact JSON.
* `Binary64.jsonChars` — a number in the fewest digits that read back: from `1e-5` up to `1e16`
  positionally and with at least one digit after the point, otherwise with a signed exponent.
-/

namespace SchemaOutline

/-- The magnitude with its shortest digits: positional, and with at least one digit after the
point, where the first digit stands for a power of ten from `-5` to `15`; otherwise one digit, the
others after a point if there are any, and the exponent with its sign. -/
def Decimal.jsonChars (d : Decimal) : List Char :=
  if -5 ≤ d.magnitude ∧ d.magnitude ≤ 15 then
    let (whole, fraction) := d.positional
    whole ++ '.' :: (if fraction.isEmpty then ['0'] else fraction)
  else
    let sign := if d.magnitude < 0 then '-' else '+'
    let exponent := 'e' :: sign :: Nat.toDigits 10 d.magnitude.natAbs
    match d.digits with
    | first :: second :: rest => first :: '.' :: second :: rest ++ exponent
    | digits => digits ++ exponent

/-- A binary64 number as JSON text. Of two numerals equally near, the even one is written. -/
def Binary64.jsonChars (x : Binary64) : List Char :=
  if x.negative then '-' :: (x.shortest .toEven).jsonChars else (x.shortest .toEven).jsonChars

namespace Json

/-- How the text of a value is laid out. -/
inductive Layout where
  | compact
  | indented
  deriving DecidableEq

/-- What stands before an element, an entry or a closing bracket at the given depth. -/
def Layout.line : Layout → Nat → List Char
  | .compact, _ => []
  | .indented, depth => '\n' :: List.replicate (2 * depth) ' '

/-- What stands between a key and its value. -/
def Layout.colon : Layout → List Char
  | .compact => [':']
  | .indented => [':', ' ']

/-- A character of a text as it is written between quotes. -/
def escapeChar (c : Char) : List Char :=
  if c = '"' then ['\\', '"']
  else if c = '\\' then ['\\', '\\']
  else if c = '\n' then ['\\', 'n']
  else if c = '\r' then ['\\', 'r']
  else if c = '\t' then ['\\', 't']
  else if c = Char.ofNat 8 then ['\\', 'b']
  else if c = Char.ofNat 12 then ['\\', 'f']
  else if c.toNat < 32 then
    ['\\', 'u', '0', '0', Nat.digitChar (c.toNat / 16), Nat.digitChar (c.toNat % 16)]
  else [c]

/-- A text between quotes. -/
def quoted (s : String) : List Char :=
  '"' :: (s.toList.flatMap escapeChar ++ ['"'])

mutual

/-- The text of a value whose container stands at the given depth. -/
def chars (layout : Layout) (depth : Nat) : Json → List Char
  | null => ['n', 'u', 'l', 'l']
  | bool true => ['t', 'r', 'u', 'e']
  | bool false => ['f', 'a', 'l', 's', 'e']
  | whole n => n.chars
  | float x => x.jsonChars
  | text s => quoted s
  | list [] => ['[', ']']
  | list (first :: rest) =>
    '[' :: (layout.line (depth + 1) ++ (chars layout (depth + 1) first ++
      charsOfElements layout depth rest))
  | object [] => ['{', '}']
  | object ((key, value) :: rest) =>
    '{' :: (layout.line (depth + 1) ++ (quoted key ++ (layout.colon ++
      (chars layout (depth + 1) value ++ charsOfEntries layout depth rest))))

/-- The elements after the first, and the closing bracket. -/
def charsOfElements (layout : Layout) (depth : Nat) : List Json → List Char
  | [] => layout.line depth ++ [']']
  | element :: rest =>
    ',' :: (layout.line (depth + 1) ++ (chars layout (depth + 1) element ++
      charsOfElements layout depth rest))

/-- The entries after the first, and the closing brace. -/
def charsOfEntries (layout : Layout) (depth : Nat) : List (String × Json) → List Char
  | [] => layout.line depth ++ ['}']
  | (key, value) :: rest =>
    ',' :: (layout.line (depth + 1) ++ (quoted key ++ (layout.colon ++
      (chars layout (depth + 1) value ++ charsOfEntries layout depth rest))))

end

/-- The text of a value without blanks. -/
def compact (value : Json) : String :=
  String.ofList (value.chars .compact 0)

/-- The text of a value with one line for each element and entry. -/
def indented (value : Json) : String :=
  String.ofList (value.chars .indented 0)

/-- The text of an enumerated literal: a text verbatim, any other value as compact JSON. -/
def literalText : Json → String
  | text s => s
  | value => value.compact

end Json

end SchemaOutline

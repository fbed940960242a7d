/-!
# Writing TOML texts

A text is written in the plainest quotes that hold it: double quotes, single quotes, three double
quotes, three single quotes, and only where none of these hold it as it is, with escapes. A tab
between double quotes is always an escape.

* `Toml.Needs` — what about a text forbids some quotes.
* `Toml.quoted` — a text between its quotes.
-/

namespace SchemaOutline.Toml

/-- What about a text forbids some quotes: a line end, a backslash, a control character other than
tab and line end, and the longest runs of single and of double quotes. -/
structure Needs where
  lines : Bool
  backslash : Bool
  control : Bool
  singleRun : Nat
  doubleRun : Nat

/-- Whether a character can only be written as an escape. -/
def isControl (c : Char) : Bool :=
  (c.toNat < 32 && c ≠ '\t' && c ≠ '\n') || c.toNat = 127

/-- The longest run of a character, where one of the given length is at its beginning. -/
def longestRun (quote : Char) : Nat → List Char → Nat
  | run, [] => run
  | run, c :: rest =>
    if c = quote then longestRun quote (run + 1) rest
    else max run (longestRun quote 0 rest)

/-- What a text needs. -/
def Needs.ofText (cs : List Char) : Needs where
  lines := cs.contains '\n'
  backslash := cs.contains '\\'
  control := cs.any isControl
  singleRun := longestRun '\'' 0 cs
  doubleRun := longestRun '"' 0 cs

/-- The escape of a control character. -/
def controlEscape (c : Char) : List Char :=
  if c = Char.ofNat 8 then ['\\', 'b']
  else if c = '\t' then ['\\', 't']
  else if c = '\n' then ['\\', 'n']
  else if c = Char.ofNat 12 then ['\\', 'f']
  else if c = '\r' then ['\\', 'r']
  else
    ['\\', 'u', '0', '0', (Nat.digitChar (c.toNat / 16)).toUpper,
      (Nat.digitChar (c.toNat % 16)).toUpper]

/-- A text between double quotes: at most `quotes` of them stand next to each other without an
escape, `run` of which are just before the text, and line ends are escapes unless `lines` are
allowed. -/
def escaped (quotes : Nat) (lines : Bool) : Nat → List Char → List Char
  | _, [] => []
  | run, c :: rest =>
    if c = '"' then
      if run < quotes then c :: escaped quotes lines (run + 1) rest
      else '\\' :: '"' :: escaped quotes lines 0 rest
    else if c = '\\' then '\\' :: '\\' :: escaped quotes lines 0 rest
    else if c = '\n' ∧ lines then c :: escaped quotes lines 0 rest
    else if c.toNat < 32 ∨ c.toNat = 127 then controlEscape c ++ escaped quotes lines 0 rest
    else c :: escaped quotes lines 0 rest

/-- A text between three of its quotes, on a line of its own if it has a line end. -/
def betweenThree (quote : Char) (lines : Bool) (inner : List Char) : List Char :=
  [quote, quote, quote] ++ (if lines then ['\n'] else []) ++ inner ++ [quote, quote, quote]

/-- **A text between its quotes.** -/
def quoted (cs : List Char) : List Char :=
  let needs := Needs.ofText cs
  if !needs.control && !needs.backslash && needs.doubleRun = 0 && !needs.lines then
    '"' :: (escaped 0 false 0 cs ++ ['"'])
  else if !needs.control && needs.singleRun = 0 && !needs.lines then
    '\'' :: (cs ++ ['\''])
  else if !needs.control && !needs.backslash && needs.doubleRun ≤ 2 then
    betweenThree '"' needs.lines (escaped 2 true 0 cs)
  else if !needs.control && needs.singleRun ≤ 2 then
    betweenThree '\'' needs.lines cs
  else if needs.lines then
    betweenThree '"' true (escaped 2 true 0 cs)
  else
    '"' :: (escaped 0 false 0 cs ++ ['"'])

end SchemaOutline.Toml

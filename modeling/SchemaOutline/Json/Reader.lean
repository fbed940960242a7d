import SchemaOutline.Json.Basic
import SchemaOutline.Number.Scaled

/-!
# Reading JSON text

The reader goes through a text once, one character at a time, so of two faults the one further to
the left is found. Its state is the containers that are still open and what it is in the middle
of. Blanks are space, tab, line feed and carriage return, and stand only between tokens.

* `Json.TextFault` — why a text is not JSON.
* `Json.Reader.State` — the state; `State.step` takes one character, `State.finish` the end.
* `Json.parse` — the value of a text with at most 127 containers inside one another.
* `Json.parseWithin` — the same with another limit.
-/

namespace SchemaOutline.Json

/-- Why a text is not JSON: a character that cannot stand where it does (or a number past the
largest finite one), or an end where more is needed. -/
inductive TextFault where
  | malformed
  | truncated
  deriving DecidableEq

namespace Reader

/-- An open container in the middle of which another value is read: a list with its elements so
far, the latest first, or an object with its entries so far and the key of the value. -/
inductive Frame where
  | list (elements : List Json)
  | object (entries : List (String × Json)) (key : String)

/-- Where a number is being read. -/
inductive NumberPart where
  | minus
  | zero
  | whole
  | point
  | fraction
  | exponentMark
  | exponentSign
  | exponent
  deriving DecidableEq

/-- A number as read so far: the coefficient of the digits taken, the power of ten of the last of
them, whether a digit has been left out since the last point because the coefficient would have
passed 64 bits, and the exponent. -/
structure Number where
  part : NumberPart
  negative : Bool
  coefficient : Nat := 0
  power : Int := 0
  full : Bool := false
  exponentNegative : Bool := false
  exponent : Nat := 0

/-- Where a text between quotes is being read: among plain characters, after a backslash, in the
four digits after `\u` (behind a high surrogate, if there is one), or before the backslash or the
`u` of the low surrogate that must follow. -/
inductive TextPart where
  | plain
  | escape
  | digits (high : Option Nat) (value : Nat) (left : Nat)
  | lowBackslash (high : Nat)
  | lowLetter (high : Nat)

/-- What a text between quotes is: a value, or the key after the given entries. -/
inductive TextRole where
  | value
  | key (entries : List (String × Json))

/-- What the reader is in the middle of. Where that lies inside a list or an object, the elements
or entries read so far are here and not among the open containers. -/
inductive Mode where
  | value
  | firstElement
  | afterElement (elements : List Json)
  | firstKey
  | nextKey (entries : List (String × Json))
  | colon (entries : List (String × Json)) (key : String)
  | afterEntry (entries : List (String × Json))
  | word (left : List Char) (meaning : Json)
  | number (n : Number)
  | quoted (role : TextRole) (read : List Char) (part : TextPart)
  | done (value : Json)

/-- What the reader is in the middle of, and the open containers around it, innermost first. -/
structure State where
  mode : Mode
  frames : List Frame

/-- The blanks between tokens. -/
def isBlank (c : Char) : Bool :=
  c = ' ' || c = '\t' || c = '\n' || c = '\r'

/-- The value of a hexadecimal digit. -/
def hexValue? (c : Char) : Option Nat :=
  if '0' ≤ c ∧ c ≤ '9' then some (c.toNat - '0'.toNat)
  else if 'a' ≤ c ∧ c ≤ 'f' then some (c.toNat - 'a'.toNat + 10)
  else if 'A' ≤ c ∧ c ≤ 'F' then some (c.toNat - 'A'.toNat + 10)
  else none

/-- The value of a decimal digit. -/
def digitValue? (c : Char) : Option Nat :=
  if '0' ≤ c ∧ c ≤ '9' then some (c.toNat - '0'.toNat) else none

namespace Number

/-- Whether the coefficient still fits 64 bits with one more digit. -/
def takes (n : Number) (d : Nat) : Bool :=
  !n.full && 10 * n.coefficient + d < 18446744073709551616

/-- A digit before the point. From the first one on that does not fit, each only raises the power
of ten. -/
def wholeDigit (n : Number) (d : Nat) : Number :=
  if n.takes d then { n with part := .whole, coefficient := 10 * n.coefficient + d }
  else { n with part := .whole, full := true, power := n.power + 1 }

/-- A digit after the point. From the first one on that does not fit, they are all ignored. -/
def fractionDigit (n : Number) (d : Nat) : Number :=
  if n.takes d then
    { n with part := .fraction, coefficient := 10 * n.coefficient + d, power := n.power - 1 }
  else { n with part := .fraction, full := true }

/-- One more character of a number; nothing if the number does not go on with it. -/
def next? (n : Number) (c : Char) : Option Number :=
  match n.part, digitValue? c with
  | .minus, some 0 => some { n with part := .zero }
  | .minus, some d | .whole, some d => some (n.wholeDigit d)
  | .point, some d | .fraction, some d => some (n.fractionDigit d)
  | .exponentMark, some d | .exponentSign, some d | .exponent, some d =>
    some { n with part := .exponent, exponent := 10 * n.exponent + d }
  | .zero, none | .whole, none =>
    if c = '.' then some { n with part := .point, full := false }
    else if c = 'e' ∨ c = 'E' then some { n with part := .exponentMark }
    else none
  | .fraction, none =>
    if c = 'e' ∨ c = 'E' then some { n with part := .exponentMark } else none
  | .exponentMark, none =>
    if c = '+' then some { n with part := .exponentSign }
    else if c = '-' then some { n with part := .exponentSign, exponentNegative := true }
    else none
  | _, _ => none

/-- Whether the number may end here. -/
def complete (n : Number) : Bool :=
  n.part = .zero || n.part = .whole || n.part = .fraction || n.part = .exponent

/-- The number as a decimal numeral, its sign apart. -/
def decimal (n : Number) : Decimal :=
  ⟨n.coefficient, n.power + if n.exponentNegative then -(n.exponent : Int) else n.exponent⟩

/-- The value of a number that ends here. A numeral without point and exponent is a whole number
if 64 bits hold it, with the exception of minus zero; every other one is read in steps as a
binary64 number, and as nothing past the largest finite one. -/
def value? (n : Number) : Option Json :=
  let whole? :=
    if !n.full && (n.part = .zero || n.part = .whole) then
      if n.negative then
        if n.coefficient = 0 then none else Whole.ofInt? (-n.coefficient)
      else Whole.ofInt? n.coefficient
    else none
  match whole? with
  | some w => some (.whole w)
  | none => (n.decimal.scaled? n.negative).map .float

end Number

namespace State

/-- The state after a value: the innermost open container takes it. -/
def afterValue (frames : List Frame) (value : Json) : State :=
  match frames with
  | [] => ⟨.done value, []⟩
  | .list elements :: outer => ⟨.afterElement (value :: elements), outer⟩
  | .object entries key :: outer => ⟨.afterEntry (put key value entries), outer⟩

/-- The state after a text between quotes. -/
def afterText (frames : List Frame) (role : TextRole) (text : String) : State :=
  match role with
  | .value => afterValue frames (.text text)
  | .key entries => ⟨.colon entries text, frames⟩

/-- The first character of a value. A container is opened if fewer than `limit` are open. -/
def startValue (limit : Nat) (frames : List Frame) (c : Char) : Option State :=
  let number part coefficient : Option State :=
    some ⟨.number { part, negative := c = '-', coefficient }, frames⟩
  if c = '"' then some ⟨.quoted .value [] .plain, frames⟩
  else if c = '[' then
    if frames.length < limit then some ⟨.firstElement, frames⟩ else none
  else if c = '{' then
    if frames.length < limit then some ⟨.firstKey, frames⟩ else none
  else if c = 'n' then some ⟨.word ['u', 'l', 'l'] .null, frames⟩
  else if c = 't' then some ⟨.word ['r', 'u', 'e'] (.bool true), frames⟩
  else if c = 'f' then some ⟨.word ['a', 'l', 's', 'e'] (.bool false), frames⟩
  else if c = '-' then number .minus 0
  else if c = '0' then number .zero 0
  else match digitValue? c with
    | some d => number .whole d
    | none => none

/-- One character between quotes. -/
def stepText (frames : List Frame) (role : TextRole) (read : List Char) (c : Char) :
    TextPart → Option State
  | .plain =>
    if c = '"' then some (afterText frames role (String.ofList read.reverse))
    else if c = '\\' then some ⟨.quoted role read .escape, frames⟩
    else if c.toNat < 32 then none
    else some ⟨.quoted role (c :: read) .plain, frames⟩
  | .escape =>
    let plain (meant : Char) : Option State := some ⟨.quoted role (meant :: read) .plain, frames⟩
    if c = '"' ∨ c = '\\' ∨ c = '/' then plain c
    else if c = 'b' then plain (Char.ofNat 8)
    else if c = 'f' then plain (Char.ofNat 12)
    else if c = 'n' then plain '\n'
    else if c = 'r' then plain '\r'
    else if c = 't' then plain '\t'
    else if c = 'u' then some ⟨.quoted role read (.digits none 0 4), frames⟩
    else none
  | .digits high value left =>
    match hexValue? c with
    | none => none
    | some d =>
      let value := 16 * value + d
      if 1 < left then some ⟨.quoted role read (.digits high value (left - 1)), frames⟩
      else
        match high with
        | none =>
          if 0xD800 ≤ value ∧ value < 0xDC00 then
            some ⟨.quoted role read (.lowBackslash value), frames⟩
          else if 0xDC00 ≤ value ∧ value < 0xE000 then none
          else some ⟨.quoted role (Char.ofNat value :: read) .plain, frames⟩
        | some high =>
          if 0xDC00 ≤ value ∧ value < 0xE000 then
            let code := 0x10000 + (high - 0xD800) * 0x400 + (value - 0xDC00)
            some ⟨.quoted role (Char.ofNat code :: read) .plain, frames⟩
          else none
  | .lowBackslash high =>
    if c = '\\' then some ⟨.quoted role read (.lowLetter high), frames⟩ else none
  | .lowLetter high =>
    if c = 'u' then some ⟨.quoted role read (.digits (some high) 0 4), frames⟩ else none

/-- One character between tokens or at the start of one. -/
def stepToken (limit : Nat) (mode : Mode) (frames : List Frame) (c : Char) : Option State :=
  if isBlank c then some ⟨mode, frames⟩
  else
    match mode with
    | .value => startValue limit frames c
    | .firstElement =>
      if c = ']' then some (afterValue frames (.list []))
      else startValue limit (.list [] :: frames) c
    | .afterElement elements =>
      if c = ',' then some ⟨.value, .list elements :: frames⟩
      else if c = ']' then some (afterValue frames (.list elements.reverse))
      else none
    | .firstKey =>
      if c = '"' then some ⟨.quoted (.key []) [] .plain, frames⟩
      else if c = '}' then some (afterValue frames (.object []))
      else none
    | .nextKey entries =>
      if c = '"' then some ⟨.quoted (.key entries) [] .plain, frames⟩ else none
    | .colon entries key =>
      if c = ':' then some ⟨.value, .object entries key :: frames⟩ else none
    | .afterEntry entries =>
      if c = ',' then some ⟨.nextKey entries, frames⟩
      else if c = '}' then some (afterValue frames (.object entries))
      else none
    | _ => none

/-- **One character.** The state after it, if it may stand there. A number ends before the first
character that does not continue it. -/
def step (limit : Nat) (s : State) (c : Char) : Option State :=
  match s.mode with
  | .word (next :: left) meaning =>
    if c = next then
      if left.isEmpty then some (afterValue s.frames meaning)
      else some ⟨.word left meaning, s.frames⟩
    else none
  | .quoted role read part => stepText s.frames role read c part
  | .number n =>
    match n.next? c with
    | some n => some ⟨.number n, s.frames⟩
    | none =>
      if n.complete then
        match n.value? with
        | some value =>
          let after := afterValue s.frames value
          stepToken limit after.mode after.frames c
        | none => none
      else none
  | mode => stepToken limit mode s.frames c

/-- The end of the text. -/
def finish (s : State) : Except TextFault Json :=
  match s.mode with
  | .done value => .ok value
  | .number n =>
    if n.complete then
      match n.value? with
      | none => .error .malformed
      | some value => if s.frames.isEmpty then .ok value else .error .truncated
    else .error .truncated
  | _ => .error .truncated

/-- The fault of a text that goes on with characters the state does not take. The digits of a
`\u` escape are looked at only if the text has as many bytes left as digits are missing. -/
def fault (s : State) (left : List Char) : TextFault :=
  match s.mode with
  | .quoted _ _ (.digits _ _ missing) =>
    if (String.ofList left).utf8ByteSize < missing then .truncated else .malformed
  | _ => .malformed

/-- Takes the characters of a text one after another. -/
def run (limit : Nat) : State → List Char → Except TextFault Json
  | s, [] => s.finish
  | s, c :: rest =>
    match s.step limit c with
    | some next => run limit next rest
    | none => .error (s.fault (c :: rest))

end State

end Reader

/-- The value of a text in which at most `limit` containers stand inside one another. -/
def parseWithin (limit : Nat) (text : String) : Except TextFault Json :=
  Reader.State.run limit ⟨.value, []⟩ text.toList

/-- How many containers may stand inside one another. -/
def maxContainers : Nat := 127

/-- **The value of a JSON text.** -/
def parse (text : String) : Except TextFault Json :=
  parseWithin maxContainers text

end SchemaOutline.Json

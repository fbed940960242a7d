import SchemaOutline.Toml.Moment

/-!
# Reading TOML

A document is a sequence of lines: headers of tables, headers of array elements, and keys with
values. The lines are read first, then the tables are put together from them. Only whether a text
is a document is told, not what is wrong with one that is not.

Every reader takes characters and gives what it read with the characters left. Where a reader calls
itself, its first argument is a bound on how often it may; the number of characters is enough.

* `Toml.Reader.text?`, `Toml.Reader.value?` — texts and values.
* `Toml.Reader.lines?` — the lines of a document.
* `Toml.parse` — the entries of a document.
-/

namespace SchemaOutline.Toml

namespace Reader

open Moment (expect? isDigit)

/-! ## Blanks, comments and line ends -/

/-- The blanks within a line. -/
def isBlank (c : Char) : Bool :=
  c = ' ' || c = '\t'

/-- The characters that may stand in a comment, and for themselves between quotes. -/
def isPlain (c : Char) : Bool :=
  c = '\t' || (32 ≤ c.toNat && c.toNat ≠ 127)

/-- Passes over blanks. -/
def skipBlanks (cs : List Char) : List Char :=
  cs.dropWhile isBlank

/-- Passes over a comment, if there is one. -/
def skipComment : List Char → List Char
  | '#' :: rest => rest.dropWhile isPlain
  | cs => cs

/-- Passes over one line end. -/
def newline? : List Char → Option (List Char)
  | '\n' :: rest => some rest
  | '\r' :: '\n' :: rest => some rest
  | _ => none

/-- Passes over the rest of a line, which holds blanks and a comment at most. -/
def endLine? (cs : List Char) : Option (List Char) :=
  match skipComment (skipBlanks cs) with
  | [] => some []
  | rest => newline? rest

/-- Passes over blanks, comments and line ends. -/
def skipLines : Nat → List Char → List Char
  | 0, cs => cs
  | bound + 1, cs =>
    let rest := skipComment (skipBlanks cs)
    match newline? rest with
    | some rest => skipLines bound rest
    | none => rest

/-! ## Texts -/

/-- The value of a hexadecimal digit. -/
def hexValue? (c : Char) : Option Nat :=
  if '0' ≤ c ∧ c ≤ '9' then some (c.toNat - '0'.toNat)
  else if 'a' ≤ c ∧ c ≤ 'f' then some (c.toNat - 'a'.toNat + 10)
  else if 'A' ≤ c ∧ c ≤ 'F' then some (c.toNat - 'A'.toNat + 10)
  else none

/-- The character with a code point in hexadecimal digits. -/
def codePoint? (digits : List Char) : Option Char := do
  let code ← digits.foldlM (fun value c => do return 16 * value + (← hexValue? c)) 0
  if h : code.isValidChar then some (Char.ofNatAux code h) else none

/-- The character that an escape stands for, behind its backslash. -/
def escape? : List Char → Option (Char × List Char)
  | 'b' :: rest => some (Char.ofNat 8, rest)
  | 't' :: rest => some ('\t', rest)
  | 'n' :: rest => some ('\n', rest)
  | 'f' :: rest => some (Char.ofNat 12, rest)
  | 'r' :: rest => some ('\r', rest)
  | '"' :: rest => some ('"', rest)
  | '\\' :: rest => some ('\\', rest)
  | 'u' :: rest =>
    if 4 ≤ rest.length then do return (← codePoint? (rest.take 4), rest.drop 4) else none
  | 'U' :: rest =>
    if 8 ≤ rest.length then do return (← codePoint? (rest.take 8), rest.drop 8) else none
  | _ => none

/-- A text in one line up to its double quote. -/
def basic? : Nat → List Char → Option (List Char × List Char)
  | 0, _ => none
  | bound + 1, cs =>
    match cs with
    | [] => none
    | '"' :: rest => some ([], rest)
    | '\\' :: rest => do
      let (c, rest) ← escape? rest
      let (s, rest) ← basic? bound rest
      return (c :: s, rest)
    | c :: rest =>
      if isPlain c then do
        let (s, rest) ← basic? bound rest
        return (c :: s, rest)
      else none

/-- A text in one line up to its single quote. -/
def literal? : List Char → Option (List Char × List Char)
  | [] => none
  | c :: rest =>
    if c = '\'' then some ([], rest)
    else if isPlain c then do
      let (s, rest) ← literal? rest
      return (c :: s, rest)
    else none

/-- The end of a text of several lines behind three of its quotes: up to two more quotes belong to
the text. -/
def endQuotes (quote : Char) (cs : List Char) : List Char × List Char :=
  match cs with
  | a :: b :: rest =>
    if a = quote then
      if b = quote then ([a, b], rest) else ([a], b :: rest)
    else ([], cs)
  | [a] => if a = quote then ([a], []) else ([], cs)
  | [] => ([], cs)

/-- Whether three quotes stand at the beginning. -/
def threeQuotes (quote : Char) (cs : List Char) : Bool :=
  [quote, quote, quote].isPrefixOf cs

/-- What is left behind a line end that a backslash takes out of a text, with all blanks and line
ends that follow. -/
def joinLines? (bound : Nat) (cs : List Char) : Option (List Char) := do
  let rest ← newline? (skipBlanks cs)
  return skipAll bound rest
where
  /-- Passes over blanks and line ends. -/
  skipAll : Nat → List Char → List Char
    | 0, cs => cs
    | bound + 1, cs =>
      match newline? (skipBlanks cs) with
      | some rest => skipAll bound rest
      | none => skipBlanks cs

/-- A text of several lines up to its three double quotes. -/
def multilineBasic? : Nat → List Char → Option (List Char × List Char)
  | 0, _ => none
  | bound + 1, cs =>
    if threeQuotes '"' cs then some (endQuotes '"' (cs.drop 3))
    else
      match cs with
      | [] => none
      | '\\' :: rest =>
        match escape? rest with
        | some (c, rest) => do
          let (s, rest) ← multilineBasic? bound rest
          return (c :: s, rest)
        | none => do multilineBasic? bound (← joinLines? rest.length rest)
      | c :: rest =>
        match newline? cs with
        | some rest => do
          let (s, rest) ← multilineBasic? bound rest
          return ('\n' :: s, rest)
        | none =>
          if isPlain c then do
            let (s, rest) ← multilineBasic? bound rest
            return (c :: s, rest)
          else none

/-- A text of several lines up to its three single quotes. -/
def multilineLiteral? : Nat → List Char → Option (List Char × List Char)
  | 0, _ => none
  | bound + 1, cs =>
    if threeQuotes '\'' cs then some (endQuotes '\'' (cs.drop 3))
    else
      match newline? cs, cs with
      | some rest, _ => do
        let (s, rest) ← multilineLiteral? bound rest
        return ('\n' :: s, rest)
      | none, c :: rest =>
        if isPlain c then do
          let (s, rest) ← multilineLiteral? bound rest
          return (c :: s, rest)
        else none
      | none, [] => none

/-- Passes over a line end directly behind the opening quotes. -/
def skipFirstLineEnd (cs : List Char) : List Char :=
  (newline? cs).getD cs

/-- A text in one line, in quotes of either kind. -/
def lineText? : List Char → Option (List Char × List Char)
  | '"' :: rest => basic? (rest.length + 1) rest
  | '\'' :: rest => literal? rest
  | _ => none

/-- **A text**, in quotes of one of the four kinds. -/
def text? (cs : List Char) : Option (List Char × List Char) :=
  if threeQuotes '"' cs then
    let rest := skipFirstLineEnd (cs.drop 3)
    multilineBasic? (rest.length + 1) rest
  else if threeQuotes '\'' cs then
    let rest := skipFirstLineEnd (cs.drop 3)
    multilineLiteral? (rest.length + 1) rest
  else
    lineText? cs

/-! ## Keys -/

/-- The characters of a key without quotes. -/
def isBare (c : Char) : Bool :=
  c.isAlphanum || c = '_' || c = '-'

/-- One key. -/
def simpleKey? (cs : List Char) : Option (String × List Char) :=
  match cs.span isBare with
  | ([], _) => do
    let (s, rest) ← lineText? cs
    return (String.ofList s, rest)
  | (bare, rest) => some (String.ofList bare, rest)

/-- A key with dots: at most `bound` keys, with blanks around the dots. -/
def key? : Nat → List Char → Option (List String × List Char)
  | 0, _ => none
  | bound + 1, cs => do
    let (first, rest) ← simpleKey? (skipBlanks cs)
    match skipBlanks rest with
    | '.' :: rest => do
      let (others, rest) ← key? bound rest
      return (first :: others, rest)
    | rest => return ([first], rest)

/-- How many keys a key with dots may have. -/
def maxKeys : Nat := 79

/-! ## Numbers and words -/

/-- Digits with single underscores between them; the first character is a digit. -/
def digitGroups (isDigit : Char → Bool) : List Char → List Char × List Char
  | [] => ([], [])
  | c :: rest =>
    if isDigit c then
      let (digits, rest) := digitGroups isDigit rest
      (c :: digits, rest)
    else
      match c, rest with
      | '_', d :: _ => if isDigit d then digitGroups isDigit rest else ([], c :: rest)
      | _, _ => ([], c :: rest)

/-- At least one digit, with underscores between the digits. -/
def digits? (isDigit : Char → Bool) (cs : List Char) : Option (List Char × List Char) :=
  match cs with
  | c :: _ => if isDigit c then some (digitGroups isDigit cs) else none
  | [] => none

/-- The number with the given digits. -/
def number (base : Nat) (digits : List Char) : Nat :=
  digits.foldl (fun value c => base * value + (hexValue? c).getD 0) 0

/-- A whole number of 64 bits. -/
def word? (n : Int) (rest : List Char) : Option (Value × List Char) :=
  if -9223372036854775808 ≤ n ∧ n ≤ 9223372036854775807 then some (.integer n, rest) else none

/-- A whole number behind the mark of its base. -/
def based? (base : Nat) (isDigit : Char → Bool) (cs : List Char) : Option (Value × List Char) := do
  let (digits, rest) ← digits? isDigit cs
  word? (number base digits) rest

/-- The digits before the point of a decimal number: no zero stands before other digits. -/
def wholePart? (cs : List Char) : Option (List Char × List Char) := do
  let (digits, rest) ← digits? isDigit cs
  match digits with
  | '0' :: _ :: _ => none
  | _ => return (digits, rest)

/-- The point and the digits behind it; no digits if there is no point. -/
def fraction? (cs : List Char) : Option (List Char × List Char) :=
  match cs with
  | '.' :: rest => digits? isDigit rest
  | _ => some ([], cs)

/-- The exponent; nothing stands for one that is not there. -/
def exponent? (cs : List Char) : Option (Option Int × List Char) :=
  match cs with
  | e :: rest =>
    if e = 'e' ∨ e = 'E' then
      match rest with
      | '-' :: rest => do
        let (digits, rest) ← digits? isDigit rest
        return (some (-(number 10 digits : Int)), rest)
      | '+' :: rest => do
        let (digits, rest) ← digits? isDigit rest
        return (some (number 10 digits : Int), rest)
      | rest => do
        let (digits, rest) ← digits? isDigit rest
        return (some (number 10 digits : Int), rest)
    else some (none, cs)
  | [] => some (none, cs)

/-- The value of a floating number. One past the largest is no number, unless it is negative. -/
def floatValue? (negative : Bool) (d : Decimal) (rest : List Char) : Option (Value × List Char) :=
  match Extended64.ofDecimal d negative with
  | .infinite false => none
  | x => some (.float x, rest)

/-- A number behind its sign: a whole number, or a floating one if it has a point or an exponent. -/
def decimal? (negative : Bool) (cs : List Char) : Option (Value × List Char) :=
  match cs with
  | 'i' :: 'n' :: 'f' :: rest => some (.float (.infinite negative), rest)
  | 'n' :: 'a' :: 'n' :: rest => some (.float .notNumber, rest)
  | cs => do
    let (whole, rest) ← wholePart? cs
    let hasPoint := rest.head? = some '.'
    let (fraction, rest) ← fraction? rest
    let (exponent, rest) ← exponent? rest
    if hasPoint || exponent.isSome then
      floatValue? negative
        ⟨number 10 (whole ++ fraction), exponent.getD 0 - fraction.length⟩ rest
    else
      word? (if negative then -(number 10 whole : Int) else number 10 whole) rest

/-- A value that is neither a text nor holds other values. -/
def scalar? (cs : List Char) : Option (Value × List Char) :=
  match cs with
  | 't' :: 'r' :: 'u' :: 'e' :: rest => some (.bool true, rest)
  | 'f' :: 'a' :: 'l' :: 's' :: 'e' :: rest => some (.bool false, rest)
  | '0' :: 'x' :: rest => based? 16 (fun c => (hexValue? c).isSome) rest
  | '0' :: 'o' :: rest => based? 8 (fun c => '0' ≤ c && c ≤ '7') rest
  | '0' :: 'b' :: rest => based? 2 (fun c => c = '0' || c = '1') rest
  | '+' :: rest => decimal? false rest
  | '-' :: rest => decimal? true rest
  | cs =>
    match Moment.read? cs with
    | some (s, rest) => some (.moment s, rest)
    | none => decimal? false cs

/-! ## Values -/

mutual

/-- **A value.** Arrays and tables stand inside one another at most `room` deep. -/
def value? : Nat → (room : Nat) → List Char → Option (Value × List Char)
  | 0, _, _ => none
  | bound + 1, room, cs =>
    match cs with
    | '"' :: _ | '\'' :: _ => do
      let (s, rest) ← text? cs
      return (.text (String.ofList s), rest)
    | '[' :: rest =>
      match room with
      | 0 => none
      | room + 1 => do
        let (elements, rest) ← elements? bound room rest
        return (.array elements, rest)
    | '{' :: rest =>
      match room with
      | 0 => none
      | room + 1 =>
        match skipBlanks rest with
        | '}' :: rest => some (.table [], rest)
        | rest => do
          let (entries, rest) ← pairs? bound room [] rest
          return (.table (Builder.finishEntries entries), rest)
    | cs => scalar? cs

/-- The elements of an array up to its bracket. -/
def elements? : Nat → (room : Nat) → List Char → Option (List Value × List Char)
  | 0, _, _ => none
  | bound + 1, room, cs =>
    match skipLines cs.length cs with
    | ']' :: rest => some ([], rest)
    | cs => do
      let (v, rest) ← value? bound room cs
      match skipLines rest.length rest with
      | ',' :: rest => do
        let (others, rest) ← elements? bound room rest
        return (v :: others, rest)
      | ']' :: rest => some ([v], rest)
      | _ => none

/-- The entries of a table between braces, behind the given ones, up to its brace. -/
def pairs? : Nat → (room : Nat) → Builder.Entries → List Char → Option (Builder.Entries × List Char)
  | 0, _, _, _ => none
  | bound + 1, room, entries, cs => do
    let (path, rest) ← key? maxKeys cs
    let rest ← expect? '=' rest
    let (v, rest) ← value? bound room (skipBlanks rest)
    let entries ← Builder.enter v path entries
    match skipBlanks rest with
    | ',' :: rest => pairs? bound room entries rest
    | '}' :: rest => some (entries, rest)
    | _ => none

end

/-- How deep arrays and tables may stand inside one another within a line. -/
def maxDepth : Nat := 79

/-! ## Lines -/

/-- A line of a document that is not empty. -/
inductive Line where
  | table (path : List String)
  | element (path : List String)
  | pair (path : List String) (v : Value)

/-- A line that is not empty, without its end. -/
def line? (cs : List Char) : Option (Line × List Char) :=
  match cs with
  | '[' :: '[' :: rest => do
    let (path, rest) ← key? maxKeys rest
    let rest ← expect? ']' rest
    let rest ← expect? ']' rest
    return (.element path, rest)
  | '[' :: rest => do
    let (path, rest) ← key? maxKeys rest
    let rest ← expect? ']' rest
    return (.table path, rest)
  | cs => do
    let (path, rest) ← key? maxKeys cs
    let rest ← expect? '=' rest
    let (v, rest) ← value? (rest.length + 1) maxDepth (skipBlanks rest)
    return (.pair path v, rest)

/-- The lines of a document. -/
def lines? : Nat → List Char → Option (List Line)
  | 0, _ => none
  | bound + 1, cs =>
    match skipLines cs.length cs with
    | [] => some []
    | cs => do
      let (line, rest) ← line? cs
      let others ← lines? bound (← endLine? rest)
      return line :: others

/-! ## Documents -/

/-- What has been put together so far, and the path of the table that entries go to. -/
structure State where
  entries : Builder.Entries := []
  current : List String := []

/-- Takes one line. -/
def State.take (s : State) : Line → Option State
  | .pair path v => do
    return { s with entries := ← Builder.descend (Builder.enter v path) s.current s.entries }
  | .table path => do
    let key ← path.getLast?
    let entries ← Builder.descend (Builder.openTable key) path.dropLast s.entries
    return { entries, current := path }
  | .element path => do
    let key ← path.getLast?
    let entries ← Builder.descend (Builder.openElement key) path.dropLast s.entries
    return { entries, current := path }

/-- Passes over a mark of byte order at the beginning. -/
def skipMark : List Char → List Char
  | c :: rest => if c = Char.ofNat 0xFEFF then rest else c :: rest
  | [] => []

end Reader

/-- **The entries of a TOML document.** One that stands for a moment as a whole is refused. -/
def parse (text : String) : Option (List (String × Value)) := do
  let cs := Reader.skipMark text.toList
  let lines ← Reader.lines? (cs.length + 1) cs
  let s ← lines.foldlM Reader.State.take {}
  match ← (Value.table (Builder.finishEntries s.entries)).withMoments? with
  | .table entries => return entries
  | _ => none

end SchemaOutline.Toml

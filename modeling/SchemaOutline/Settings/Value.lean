import SchemaOutline.Text.Lower
import SchemaOutline.Toml.Value

/-!
# Values with their origin

The values that sources give, before it is known what they are for. Each keeps the name of the
source it came from, for messages. Keys are in lower case.

* `Setting` — the values.
* `Setting.ofToml` — a TOML value from a file.
* `Setting.merge` — a value put under a key of what earlier sources gave.
* `KeyPath`, `Setting.assign` — a key that leads to a place further down.
-/

namespace SchemaOutline

/-- A value that holds no other values. -/
inductive Scalar where
  | bool (b : Bool)
  | integer (n : Int)
  | float (x : Extended64)
  | text (s : String)
  deriving DecidableEq, Inhabited

/-- **A value of a source.** Tables that were put together from several sources have no origin. -/
inductive Setting where
  | nothing
  | scalar (origin : Option String) (value : Scalar)
  | list (origin : Option String) (elements : List Setting)
  | table (origin : Option String) (entries : List (String × Setting))
  deriving Inhabited

namespace Setting

/-- Where a value came from, if that is known. -/
def origin? : Setting → Option String
  | nothing => none
  | scalar origin _ => origin
  | list origin _ => origin
  | table origin _ => origin

/-- The entries of a table; other values have none. -/
def entries : Setting → List (String × Setting)
  | table _ entries => entries
  | _ => []

/-- The elements of a list; other values have none. -/
def elements : Setting → List Setting
  | list _ elements => elements
  | _ => []

/-- The origin of a table; other values are replaced by a table without one. -/
def tableOrigin : Setting → Option String
  | table origin _ => origin
  | _ => none

/-- The origin of a list; other values are replaced by a list without one. -/
def listOrigin : Setting → Option String
  | list origin _ => origin
  | _ => none

mutual

/-- A TOML value from the source of the given name. A date or time is a text. -/
def ofToml (origin : String) : Toml.Value → Setting
  | .text s => scalar (some origin) (.text s)
  | .integer n => scalar (some origin) (.integer n)
  | .float x => scalar (some origin) (.float x)
  | .bool b => scalar (some origin) (.bool b)
  | .moment s => scalar (some origin) (.text s)
  | .array elements => list (some origin) (ofTomlElements origin elements)
  | .table entries => table (some origin) (ofTomlEntries origin entries)

/-- The elements of an array. -/
def ofTomlElements (origin : String) : List Toml.Value → List Setting
  | [] => []
  | v :: rest => ofToml origin v :: ofTomlElements origin rest

/-- The entries of a table. -/
def ofTomlEntries (origin : String) : List (String × Toml.Value) → List (String × Setting)
  | [] => []
  | (key, v) :: rest => (key, ofToml origin v) :: ofTomlEntries origin rest

end

/-- Puts an entry in the place of the one with its key, or behind all others. -/
def put (key : String) (value : Setting) : List (String × Setting) → List (String × Setting)
  | [] => [(key, value)]
  | entry :: rest => if entry.1 = key then (key, value) :: rest else entry :: put key value rest

mutual

/-- **Merging.** Puts a value under a key of `root`, which becomes a table if it is none. A table
is merged entry by entry into what is there; any other value replaces it. -/
def merge (key : String) (value : Setting) (root : Setting) : Setting :=
  match value with
  | table _ incoming =>
    let target := (root.entries.lookup (Text.lower key)).getD (table none [])
    table root.tableOrigin (put (Text.lower key) (mergeAll incoming target) root.entries)
  | other => table root.tableOrigin (put (Text.lower key) other root.entries)

/-- Merges entries one after another. -/
def mergeAll (incoming : List (String × Setting)) (target : Setting) : Setting :=
  match incoming with
  | [] => target
  | (key, value) :: rest => mergeAll rest (merge key value target)

end

end Setting

/-- A step of a path: to a key of a table, or to an element of a list. -/
inductive KeyStep where
  | child (key : String)
  | element (index : Int)
  deriving DecidableEq

/-- **A path of keys**: a first key, and steps from there. -/
structure KeyPath where
  first : String
  steps : List KeyStep
  deriving DecidableEq

namespace KeyPath

/-- The characters of a key in a path. -/
def isKeyChar (c : Char) : Bool :=
  c.isAlphanum || c = ' ' || c = '_' || c = '-'

/-- The index between brackets: digits behind a minus sign, if there is one, with blanks around
them. An index has 64 bits. -/
def index? (cs : List Char) : Option Int :=
  let isBlank (c : Char) : Bool := c = ' ' || c = '\t'
  let inner := ((cs.dropWhile isBlank).reverse.dropWhile isBlank).reverse
  let digits? (ds : List Char) : Option Nat :=
    if ds ≠ [] ∧ ds.all Char.isDigit then some (Nat.ofDigitChars 10 ds 0) else none
  let n? : Option Int :=
    match inner with
    | '-' :: ds => do return -(← digits? ds : Int)
    | ds => do return (← digits? ds : Int)
  n?.filter fun n => -9223372036854775808 ≤ n ∧ n ≤ 9223372036854775807

/-- A key of a path, in lower case. -/
def keyOf (cs : List Char) : String :=
  Text.lower (String.ofList cs)

/-- The steps behind the first key: `.key` or `[index]`, at most `bound` of them. -/
def steps? : Nat → List Char → Option (List KeyStep)
  | _, [] => some []
  | 0, _ => none
  | bound + 1, '.' :: rest =>
    match rest.span isKeyChar with
    | ([], _) => none
    | (key, rest) => do return .child (keyOf key) :: (← steps? bound rest)
  | bound + 1, '[' :: rest =>
    match rest.span (· ≠ ']') with
    | (inner, ']' :: rest) => do
      let index ← index? inner
      return .element index :: (← steps? bound rest)
    | _ => none
  | _, _ => none

/-- The path that a text spells. A text that spells none is a key as a whole. -/
def ofText (text : String) : KeyPath :=
  match text.toList.span isKeyChar with
  | ([], _) => ⟨text, []⟩
  | (first, rest) =>
    match steps? rest.length rest with
    | some steps => ⟨keyOf first, steps⟩
    | none => ⟨text, []⟩

end KeyPath

namespace Setting

/-- The list in which an index has an element, and the place of that. A negative index counts from
the end. A list that is too short grows at the end the index counts towards. -/
def grown (index : Int) (elements : List Setting) : List Setting × Nat :=
  match index with
  | .ofNat at_ => (elements ++ List.replicate (at_ + 1 - elements.length) nothing, at_)
  | .negSucc before =>
    (List.replicate (before + 1 - elements.length) nothing ++ elements,
      elements.length - (before + 1))

/-- Puts a value where steps lead to. What is not of the right kind on the way is replaced by an
empty table or list. -/
def assignAt (value : Setting) : List KeyStep → Setting → Setting
  | [], _ => value
  | [.child key], root => merge key value root
  | .child key :: steps, root =>
    table root.tableOrigin
      (put key (assignAt value steps ((root.entries.lookup key).getD nothing)) root.entries)
  | .element index :: steps, root =>
    let (elements, at_) := grown index root.elements
    list root.listOrigin
      (elements.set at_ (assignAt value steps (elements[at_]?.getD nothing)))

/-- **Putting a value where a path leads to.** -/
def assign (root : Setting) (path : KeyPath) (value : Setting) : Setting :=
  match path.steps with
  | [] => merge path.first value root
  | steps =>
    table root.tableOrigin
      (put path.first (assignAt value steps ((root.entries.lookup path.first).getD nothing))
        root.entries)

end Setting

end SchemaOutline

import SchemaOutline.Number.Extended

/-!
# TOML values

* `Toml.Value` — the values of a TOML document. A date or time is kept as its text.
* `Toml.Builder` — a table while it is being put together, with what may still be added to it.
-/

namespace SchemaOutline.Toml

/-- **A TOML value.** -/
inductive Value where
  | text (s : String)
  | integer (n : Int)
  | float (x : Extended64)
  | bool (b : Bool)
  | moment (s : String)
  | array (elements : List Value)
  | table (entries : List (String × Value))
  deriving Inhabited

/-- How a table came to be: by a header further down, by a header of its own, or by a key with
dots. -/
inductive Origin where
  | implied
  | header
  | dotted
  deriving DecidableEq

/-- **What is being put together.** A value is complete. A table takes more entries, as far as its
origin allows it. An array of tables takes more tables; the latest is first. -/
inductive Builder where
  | value (v : Value)
  | table (origin : Origin) (entries : List (String × Builder))
  | tables (latestFirst : List (List (String × Builder)))
  deriving Inhabited

/-- The entries of a table that is being put together. -/
abbrev Builder.Entries := List (String × Builder)

namespace Builder

/-- Puts an entry in the place of the one with its key, or behind all others. -/
def put (key : String) (b : Builder) : Entries → Entries
  | [] => [(key, b)]
  | entry :: rest => if entry.1 = key then (key, b) :: rest else entry :: put key b rest

/-- Changes the entries of the table that a path of headers leads to. Tables on the way that are
not there are made. An array of tables stands for its latest table. -/
def descend (change : Entries → Option Entries) : List String → Entries → Option Entries
  | [], entries => change entries
  | key :: path, entries =>
    match entries.lookup key with
    | none => do return put key (table .implied (← descend change path [])) entries
    | some (table origin inner) => do
      return put key (table origin (← descend change path inner)) entries
    | some (tables (latest :: earlier)) => do
      return put key (tables ((← descend change path latest) :: earlier)) entries
    | some (tables []) | some (value _) => none

/-- Enters a value under a path of dotted keys. The last key has to be new, and the table it is put
into has to come from dotted keys; a table further up must not have a header of its own. -/
def enter (v : Value) : List String → Entries → Option Entries
  | [], _ => none
  | [key], entries =>
    match entries.lookup key with
    | none => some (put key (value v) entries)
    | some _ => none
  | [last, key], entries =>
    match entries.lookup last with
    | none => some (put last (table .dotted [(key, value v)]) entries)
    | some (table .dotted inner) => do
      return put last (table .dotted (← enter v [key] inner)) entries
    | some _ => none
  | key :: path, entries =>
    match entries.lookup key with
    | none => do return put key (table .dotted (← enter v path [])) entries
    | some (table .header _) => none
    | some (table origin inner) => do return put key (table origin (← enter v path inner)) entries
    | some (tables (latest :: earlier)) => do
      return put key (tables ((← enter v path latest) :: earlier)) entries
    | some (tables []) | some (value _) => none

/-- The header of a table: it must not have been made before, unless by headers below it. Then it
moves behind the tables that were made since. -/
def openTable (key : String) (entries : Entries) : Option Entries :=
  match entries.lookup key with
  | none => some (put key (table .header []) entries)
  | some (table .implied inner) =>
    some (put key (table .header inner) (entries.filter fun entry => entry.1 ≠ key))
  | some _ => none

/-- The header of one more table of an array. -/
def openElement (key : String) (entries : Entries) : Option Entries :=
  match entries.lookup key with
  | none => some (put key (tables [[]]) entries)
  | some (tables ts) => some (put key (tables ([] :: ts)) entries)
  | some _ => none

mutual

/-- The value that has been put together. -/
def finish : Builder → Value
  | value v => v
  | table _ entries => .table (finishEntries entries)
  | tables latestFirst => .array (finishTables latestFirst).reverse

/-- The entries that have been put together. -/
def finishEntries : List (String × Builder) → List (String × Value)
  | [] => []
  | (key, b) :: rest => (key, b.finish) :: finishEntries rest

/-- The tables that have been put together. -/
def finishTables : List (List (String × Builder)) → List Value
  | [] => []
  | entries :: rest => .table (finishEntries entries) :: finishTables rest

end

end Builder

end SchemaOutline.Toml

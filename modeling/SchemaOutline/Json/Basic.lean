import SchemaOutline.Number.Decimal

/-!
# JSON values

A JSON value with its object entries in declaration order. Numbers are of two kinds, told apart by
how they are written: whole numbers of 64 bits, and finite binary64 numbers.

* `Json` — the values. A reader puts no two entries of one key into an object.
* `Json.get?` — the value of a key.
* `Json.put` — adding an entry to a list of entries: the last value wins, at the place of the first.
* `Json.texts`, `Json.option` — values made from lists of texts and from optional values.
-/

namespace SchemaOutline

/-- A whole number that fits a signed or an unsigned word of 64 bits: at least `-2 ^ 63` and below
`2 ^ 64`. -/
structure Whole where
  value : Int
  inRange : -9223372036854775808 ≤ value ∧ value < 18446744073709551616
  deriving DecidableEq

namespace Whole

/-- The number, if it is in range. -/
def ofInt? (n : Int) : Option Whole :=
  if h : -9223372036854775808 ≤ n ∧ n < 18446744073709551616 then some ⟨n, h⟩ else none

/-- A natural number below `2 ^ 64`. -/
def ofNat (n : Nat) (h : n < 18446744073709551616) : Whole :=
  ⟨n, by omega, by omega⟩

instance : Inhabited Whole := ⟨⟨0, by decide⟩⟩

/-- The decimal digits, after a minus sign for a negative number. -/
def chars (n : Whole) : List Char :=
  match n.value with
  | .ofNat k => Nat.toDigits 10 k
  | .negSucc k => '-' :: Nat.toDigits 10 (k + 1)

end Whole

/-- **A JSON value.** -/
inductive Json where
  | null
  | bool (b : Bool)
  | whole (n : Whole)
  | float (x : Binary64)
  | text (s : String)
  | list (elements : List Json)
  | object (entries : List (String × Json))
  deriving Inhabited

namespace Json

/-- The value of a key of an object; other values have no keys. -/
def get? (key : String) : Json → Option Json
  | object entries => entries.lookup key
  | _ => none

/-- Whether the value is an object. -/
def isObject : Json → Bool
  | object _ => true
  | _ => false

/-- Adds an entry: a key that is there already keeps its place and takes the new value. -/
def put (key : String) (value : Json) : List (String × Json) → List (String × Json)
  | [] => [(key, value)]
  | entry :: rest =>
    if entry.1 = key then (key, value) :: rest else entry :: put key value rest

/-- A list of texts. -/
def texts (items : List String) : Json :=
  list (items.map text)

/-- A value that may be absent, absence being `null`. -/
def option {α : Type} (write : α → Json) : Option α → Json
  | some a => write a
  | none => null

/-! ## Equality -/

mutual

/-- Whether two values are equal. -/
def same : Json → Json → Bool
  | null, null => true
  | bool a, bool b => a == b
  | whole a, whole b => decide (a = b)
  | float a, float b => decide (a = b)
  | text a, text b => a == b
  | list a, list b => sameElements a b
  | object a, object b => sameEntries a b
  | _, _ => false

/-- Whether two lists of elements are equal. -/
def sameElements : List Json → List Json → Bool
  | [], [] => true
  | a :: as, b :: bs => same a b && sameElements as bs
  | _, _ => false

/-- Whether two lists of entries are equal, order included. -/
def sameEntries : List (String × Json) → List (String × Json) → Bool
  | [], [] => true
  | (k, a) :: as, (l, b) :: bs => k == l && (same a b && sameEntries as bs)
  | _, _ => false

end

mutual

/-- The test of equality is exact. -/
theorem same_iff : (a b : Json) → (same a b = true ↔ a = b)
  | null, b => by cases b <;> simp [same]
  | bool a, b => by cases b <;> simp [same]
  | whole a, b => by cases b <;> simp [same]
  | float a, b => by cases b <;> simp [same]
  | text a, b => by cases b <;> simp [same]
  | list as, b => by
    cases b with
    | list bs => simp [same, sameElements_iff as bs]
    | _ => simp [same]
  | object as, b => by
    cases b with
    | object bs => simp [same, sameEntries_iff as bs]
    | _ => simp [same]

/-- The test of equality is exact on lists of elements. -/
theorem sameElements_iff : (as bs : List Json) → (sameElements as bs = true ↔ as = bs)
  | [], bs => by cases bs <;> simp [sameElements]
  | a :: as, bs => by
    cases bs with
    | nil => simp [sameElements]
    | cons b bs => simp [sameElements, same_iff a b, sameElements_iff as bs]

/-- The test of equality is exact on lists of entries. -/
theorem sameEntries_iff : (as bs : List (String × Json)) → (sameEntries as bs = true ↔ as = bs)
  | [], bs => by cases bs <;> simp [sameEntries]
  | (k, a) :: as, bs => by
    cases bs with
    | nil => simp [sameEntries]
    | cons b bs =>
      obtain ⟨l, b⟩ := b
      simp [sameEntries, same_iff a b, sameEntries_iff as bs, and_assoc]

end

instance : DecidableEq Json := fun a b => decidable_of_iff _ (same_iff a b)

end Json

end SchemaOutline

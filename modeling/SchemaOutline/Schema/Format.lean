import SchemaOutline.Json.Basic

/-!
# Removing the keyword `format`

`format` says nothing about the shape of a value, so a document is loaded without it. The keys of
an object are keywords, or they are names: those of the object under `properties`, `definitions`
or `patternProperties` of an object whose own keys are keywords. A name `format` stays.

* `Keys` — what the keys of an object are.
* `Json.withoutFormat` — the value without the keyword.
-/

namespace SchemaOutline

/-- What the keys of an object are. -/
inductive Keys where
  | keywords
  | names
  deriving DecidableEq

namespace Keys

/-- The keywords whose values have names for keys. -/
def holdNames : List String :=
  ["properties", "definitions", "patternProperties"]

/-- What the keys of the value of a key are. -/
def under (key : String) : Keys → Keys
  | keywords => if holdNames.contains key then names else keywords
  | names => keywords

/-- Whether the entry of a key is removed. -/
def removes (key : String) : Keys → Bool
  | keywords => key == "format"
  | names => false

end Keys

namespace Json

mutual

/-- The value without `format`, its keys being as given. -/
def stripped (keys : Keys) : Json → Json
  | object entries => object (strippedEntries keys entries)
  | list elements => list (strippedElements elements)
  | other => other

/-- The elements of a list, whose keys are keywords. -/
def strippedElements : List Json → List Json
  | [] => []
  | element :: rest => stripped .keywords element :: strippedElements rest

/-- The entries that stay. -/
def strippedEntries (keys : Keys) : List (String × Json) → List (String × Json)
  | [] => []
  | (key, value) :: rest =>
    if keys.removes key then strippedEntries keys rest
    else (key, stripped (keys.under key) value) :: strippedEntries keys rest

end

/-- **The value without the keyword `format`.** -/
def withoutFormat (value : Json) : Json :=
  value.stripped .keywords

end Json

end SchemaOutline

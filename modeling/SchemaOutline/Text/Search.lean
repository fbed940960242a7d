/-!
# Texts within texts

* `Text.occursIn` — whether a text stands somewhere in another.
* `Text.segments` — the parts of a text between separators.
-/

namespace SchemaOutline.Text

/-- Whether the characters of `part` stand one after another somewhere in a text. -/
def occursIn (part : List Char) : List Char → Bool
  | [] => part.isEmpty
  | c :: rest => part.isPrefixOf (c :: rest) || occursIn part rest

/-- A text occurs in another iff the other one is something before it, the text, and something
after it. -/
theorem occursIn_iff (part text : List Char) : occursIn part text = true ↔ part <:+: text := by
  induction text with
  | nil => simp [occursIn]
  | cons c rest ih => simp [occursIn, ih, List.infix_cons_iff]

/-- The parts of a list of characters, or of bytes, between separators; a list without separators
is one part. -/
def segments {α : Type} [DecidableEq α] (separator : α) : List α → List (List α)
  | [] => [[]]
  | c :: rest =>
    if c = separator then [] :: segments separator rest
    else
      match segments separator rest with
      | first :: others => (c :: first) :: others
      | [] => [[c]]

end SchemaOutline.Text

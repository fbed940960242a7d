import SchemaOutline.Text.Invisible

/-!
# Texts shown in messages

A message shows a text between double quotes: quote and backslash behind a backslash, the common
control characters by their letters, and every other invisible character by its code point.

* `Text.shown` — the quoted text.
* `Text.natural` — a natural number in decimal digits.
-/

namespace SchemaOutline.Text

/-- A natural number in decimal digits. -/
def natural (n : Nat) : String :=
  String.ofList (Nat.toDigits 10 n)

/-- A character as a message shows it between quotes. -/
def shownChar (c : Char) : List Char :=
  if c = '"' then ['\\', '"']
  else if c = '\\' then ['\\', '\\']
  else if c = '\n' then ['\\', 'n']
  else if c = '\r' then ['\\', 'r']
  else if c = '\t' then ['\\', 't']
  else if c = Char.ofNat 0 then ['\\', '0']
  else if isInvisible c then ['\\', 'u', '{'] ++ Nat.toDigits 16 c.toNat ++ ['}']
  else [c]

/-- A text between double quotes, as a message shows it. -/
def shown (s : String) : String :=
  String.ofList ('"' :: (s.toList.flatMap shownChar ++ ['"']))

end SchemaOutline.Text

/-!
# Lower case

* `Text.lower` — a text in lower case, as far as letters of the ASCII range come out of it.
-/

namespace SchemaOutline.Text

/-- The lower case of a character, where that is an ASCII letter. The Kelvin sign is the only
character beyond the ASCII range whose lower case is one. -/
def lowerChar (c : Char) : Char :=
  if c = Char.ofNat 0x212A then 'k' else c.toLower

/-- A text in lower case. -/
def lower (s : String) : String :=
  String.ofList (s.toList.map lowerChar)

end SchemaOutline.Text

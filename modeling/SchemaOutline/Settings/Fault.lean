import SchemaOutline.Files.Basic
import SchemaOutline.Settings.Value
import SchemaOutline.Text.Shown

/-!
# Faults of settings

* `Settings.Fault` — why there are no settings.
* `Settings.Fault.message` — the wording.
-/

namespace SchemaOutline

namespace Setting

/-- The words for a value where a table is expected. -/
def words : Setting → String
  | nothing => "unit value"
  | scalar _ (.bool true) => "boolean `true`"
  | scalar _ (.bool false) => "boolean `false`"
  | scalar _ (.integer n) => "integer `" ++ String.ofList (integerChars n) ++ "`"
  | scalar _ (.float x) => "floating point `" ++ String.ofList x.pointed ++ "`"
  | scalar _ (.text s) => "string " ++ Text.shown s
  | list _ _ => "sequence"
  | table _ _ => "map"
where
  /-- The decimal digits of a whole number, behind a minus sign if it is negative. -/
  integerChars : Int → List Char
    | .ofNat n => Nat.toDigits 10 n
    | .negSucc n => '-' :: Nat.toDigits 10 (n + 1)

end Setting

namespace Settings

/-- **Why there are no settings**: the file asked for is not there, of no known kind or cannot be
read, a file is not TOML, a value is none of the kind its key needs, or a section is no table. -/
inductive Fault where
  | notFound (path : String)
  | unknownKind (path : String)
  | unreadable (fault : FileFault)
  | notToml (path : String)
  | notText (found : Setting) (key : String)
  | notInteger (found : Setting) (key : String)
  | negative (found : Int) (key : String) (origin : Option String)
  | tooLarge (found : Nat) (key : String)
  | notSection (found : Setting) (record : String)

/-- The wording of a value that is not of the kind its key needs. -/
def typeMessage (found expected key : String) (origin : Option String) : String :=
  "invalid type: " ++ found ++ ", expected " ++ expected ++ " for key `" ++ key ++ "`" ++
    (match origin with
      | some name => " in " ++ name
      | none => "")

/-- The wording of a fault. -/
def Fault.message : Fault → String
  | notFound path => "configuration file \"" ++ path ++ "\" not found"
  | unknownKind path => "configuration file \"" ++ path ++ "\" is not of a registered file format"
  | unreadable fault => fault.message
  | notToml path => "not a TOML document in " ++ path
  | notText found key => typeMessage found.words "a string" key found.origin?
  | notInteger found key => typeMessage found.words "an integer" key found.origin?
  | negative found key origin =>
    typeMessage ("64-bit integer `" ++ String.ofList (Setting.words.integerChars found) ++ "`")
      "an unsigned 64 bit or less integer" key origin
  | tooLarge found key =>
    typeMessage ("64-bit unsigned integer `" ++ Text.natural found ++ "`")
      "an unsigned 16 bit integer" key none
  | notSection found record => "invalid type: " ++ found.words ++ ", expected struct " ++ record

end Settings

end SchemaOutline

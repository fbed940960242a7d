/-!
# Arguments

The words of a command line, sorted into options and operands. An option has a name and may have a
letter. Its value is the next word, or stands in the same one: `-n x`, `-nx`, `-n=x`, `--name x`
and `--name=x` say the same. A value that is a word of its own does not begin with a dash, except
for the single dash. Behind the word `--` there are operands only.

* `OptionForm` — the options a command knows.
* `Word` — what a word says by itself.
* `Arguments.read` — the options and operands of a command line.
-/

namespace SchemaOutline

/-- **An option**: its name, its letter, and whether a value goes with it. -/
structure OptionForm where
  name : String
  letter : Option Char := none
  hasValue : Bool := true

/-- What a word says by itself: it is an operand, it ends the options, it names an option without
a value, with its value, or with the value in the next word, or it names none. -/
inductive Word where
  | operand (text : String)
  | terminator
  | flag (name : String)
  | valued (name value : String)
  | waiting (name : String)
  | unknown
  deriving DecidableEq

namespace Word

/-- A word that names an option in full, behind its two dashes. -/
def ofName (forms : List OptionForm) (rest : List Char) : Word :=
  let (name, attached) := rest.span (· ≠ '=')
  match forms.find? (·.name.toList = name), attached with
  | some form, [] => if form.hasValue then waiting form.name else flag form.name
  | some form, _ :: value =>
    if form.hasValue then valued form.name (String.ofList value) else unknown
  | none, _ => unknown

/-- A word that names an option by its letter, with what stands behind the letter. -/
def ofLetter (forms : List OptionForm) (letter : Char) (rest : List Char) : Word :=
  match forms.find? (·.letter = some letter), rest with
  | some form, [] => if form.hasValue then waiting form.name else flag form.name
  | some form, '=' :: value =>
    if form.hasValue then valued form.name (String.ofList value) else unknown
  | some form, value =>
    if form.hasValue then valued form.name (String.ofList value) else unknown
  | none, _ => unknown

/-- **What a word says by itself.** -/
def ofText (forms : List OptionForm) (text : String) : Word :=
  match text.toList with
  | ['-', '-'] => terminator
  | '-' :: '-' :: rest => ofName forms rest
  | '-' :: letter :: rest => ofLetter forms letter rest
  | _ => operand text

/-- Whether a word can be the value of the option before it. -/
def isValue (text : String) : Bool :=
  match text.toList with
  | '-' :: _ :: _ => false
  | _ => true

end Word

/-- **The options and operands of a command line**, each in the order they stand in. -/
structure Arguments where
  flags : List String := []
  values : List (String × String) := []
  operands : List String := []
  deriving DecidableEq, Inhabited

namespace Arguments

/-- The arguments with a flag before the others. -/
def withFlag (a : Arguments) (name : String) : Arguments :=
  { a with flags := name :: a.flags }

/-- The arguments with an option before the others. -/
def withValue (a : Arguments) (name value : String) : Arguments :=
  { a with values := (name, value) :: a.values }

/-- The arguments with an operand before the others. -/
def withOperand (a : Arguments) (text : String) : Arguments :=
  { a with operands := text :: a.operands }

/-- Sorts words into options and operands. There is nothing where a word is not understood. -/
def sort (forms : List OptionForm) : List String → Option Arguments
  | [] => some {}
  | text :: rest =>
    match Word.ofText forms text with
    | .operand text => do return (← sort forms rest).withOperand text
    | .terminator => some { operands := rest }
    | .flag name => do return (← sort forms rest).withFlag name
    | .valued name value => do return (← sort forms rest).withValue name value
    | .waiting name =>
      match rest with
      | [] => none
      | value :: rest =>
        if Word.isValue value then do return (← sort forms rest).withValue name value else none
    | .unknown => none

/-- Sorts words into options up to the first operand, which is left with all words behind it. -/
def sortLeading (forms : List OptionForm) : List String → Option Arguments
  | [] => some {}
  | text :: rest =>
    match Word.ofText forms text with
    | .operand text => some { operands := text :: rest }
    | .flag name => do return (← sortLeading forms rest).withFlag name
    | .valued name value => do return (← sortLeading forms rest).withValue name value
    | .waiting name =>
      match rest with
      | [] => none
      | value :: rest =>
        if Word.isValue value then do return (← sortLeading forms rest).withValue name value
        else none
    | .terminator | .unknown => none

/-- Whether no option is given twice. -/
def distinct (a : Arguments) : Bool :=
  decide (a.flags ++ a.values.map Prod.fst).Nodup

/-- **Reading a command line** whose options stand anywhere. -/
def read (forms : List OptionForm) (words : List String) : Option Arguments :=
  (sort forms words).filter distinct

/-- Reading a command line whose options stand before the first operand. -/
def readLeading (forms : List OptionForm) (words : List String) : Option Arguments :=
  (sortLeading forms words).filter distinct

/-- Whether a flag is given. -/
def has (a : Arguments) (name : String) : Bool :=
  a.flags.contains name

/-- The value of an option that is given. -/
def value? (a : Arguments) (name : String) : Option String :=
  a.values.lookup name

end Arguments

end SchemaOutline

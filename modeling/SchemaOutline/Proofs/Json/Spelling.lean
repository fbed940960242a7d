import SchemaOutline.Json.Printer
import SchemaOutline.Proofs.Json.DistinctKeys
import SchemaOutline.Proofs.Schema.Format

/-!
# Texts inside texts

The JSON text of a value has the texts of all its parts in it, however deep they are. A part that is
a text is spelled between quotes, where some characters have a backslash before them or are not
written at all but by a code. So the text itself need not stand in its spelling: it does if nothing
in the middle of it is spelled in another way.

* `Json.infix_chars_of_at?` — the text of a part stands in the text of the whole.
* `Json.spelled` — the characters of a text as they are written between quotes.
* `Json.WrittenAsIs`, `Json.infix_spelled_of_writtenAsIs` — texts that stand in their spelling.
-/

namespace SchemaOutline

namespace Json

/-! ## The texts of parts -/

section Parts

variable {layout : Layout} {level : Nat}

theorem infix_charsOfElements {elements : List Json} {element : Json} (mem : element ∈ elements) :
    element.chars layout (level + 1) <:+: charsOfElements layout level elements := by
  induction elements with
  | nil => cases mem
  | cons first rest ih =>
      unfold charsOfElements
      rcases List.mem_cons.mp mem with rfl | later
      · exact ⟨',' :: layout.line (level + 1), charsOfElements layout level rest, by simp⟩
      · refine (ih later).trans (List.IsSuffix.isInfix ?_)
        exact ⟨',' :: (layout.line (level + 1) ++ first.chars layout (level + 1)), by simp⟩

theorem infix_charsOfEntries {entries : List (String × Json)} {key : String} {value : Json}
    (mem : (key, value) ∈ entries) :
    quoted key ++ (layout.colon ++ value.chars layout (level + 1)) <:+:
      charsOfEntries layout level entries := by
  induction entries with
  | nil => cases mem
  | cons first rest ih =>
      obtain ⟨name, other⟩ := first
      unfold charsOfEntries
      rcases List.mem_cons.mp mem with same | later
      · obtain ⟨rfl, rfl⟩ := Prod.mk.inj same
        exact ⟨',' :: layout.line (level + 1), charsOfEntries layout level rest, by simp⟩
      · refine (ih later).trans (List.IsSuffix.isInfix ?_)
        exact ⟨',' :: (layout.line (level + 1) ++ quoted name ++ layout.colon ++
          other.chars layout (level + 1)), by simp⟩

/-- The text of an element stands in the text of the list. -/
theorem infix_chars_list {elements : List Json} {element : Json} (mem : element ∈ elements) :
    element.chars layout (level + 1) <:+: (list elements).chars layout level := by
  cases elements with
  | nil => cases mem
  | cons first rest =>
      show _ <:+: '[' :: (layout.line (level + 1) ++ (first.chars layout (level + 1) ++
        charsOfElements layout level rest))
      rcases List.mem_cons.mp mem with rfl | later
      · exact ⟨'[' :: layout.line (level + 1), charsOfElements layout level rest, by simp⟩
      · refine (infix_charsOfElements later).trans (List.IsSuffix.isInfix ?_)
        exact ⟨'[' :: (layout.line (level + 1) ++ first.chars layout (level + 1)), by simp⟩

/-- The text of an entry, with its key, stands in the text of the object. -/
theorem infix_chars_object {entries : List (String × Json)} {key : String} {value : Json}
    (mem : (key, value) ∈ entries) :
    quoted key ++ (layout.colon ++ value.chars layout (level + 1)) <:+:
      (object entries).chars layout level := by
  cases entries with
  | nil => cases mem
  | cons first rest =>
      obtain ⟨name, other⟩ := first
      show _ <:+: '{' :: (layout.line (level + 1) ++ (quoted name ++ (layout.colon ++
        (other.chars layout (level + 1) ++ charsOfEntries layout level rest))))
      rcases List.mem_cons.mp mem with same | later
      · obtain ⟨rfl, rfl⟩ := Prod.mk.inj same
        exact ⟨'{' :: layout.line (level + 1), charsOfEntries layout level rest, by simp⟩
      · refine (infix_charsOfEntries later).trans (List.IsSuffix.isInfix ?_)
        exact ⟨'{' :: (layout.line (level + 1) ++ quoted name ++ layout.colon ++
          other.chars layout (level + 1)), by simp⟩

/-- The text of what stands under a key stands in the text of the object. -/
theorem infix_chars_value {entries : List (String × Json)} {key : String} {value : Json}
    (mem : (key, value) ∈ entries) :
    value.chars layout (level + 1) <:+: (object entries).chars layout level := by
  refine List.IsInfix.trans (List.IsSuffix.isInfix ?_) (infix_chars_object mem)
  exact ⟨quoted key ++ layout.colon, List.append_assoc ..⟩

end Parts

/-- **The text of a part stands in the text of the whole**, at the depth the part has in it. -/
theorem infix_chars_of_at? {value part : Json} {place : Place} (layout : Layout) (level : Nat)
    (there : value.at? place = some part) :
    ∃ depth, part.chars layout depth <:+: value.chars layout level := by
  -- the way to the part is followed from the whole, one container after the other
  induction place generalizing part with
  | whole =>
      obtain rfl := Option.some.inj there
      exact ⟨level, List.infix_rfl⟩
  | key place name ih =>
      obtain ⟨outer, here, inside⟩ := Option.bind_eq_some_iff.mp there
      obtain ⟨depth, outerText⟩ := ih here
      cases outer with
      | object entries =>
          have mem : (name, part) ∈ entries := Json.mem_of_lookup inside
          exact ⟨depth + 1, (infix_chars_value mem).trans outerText⟩
      | _ => cases inside
  | index place i ih =>
      obtain ⟨outer, here, inside⟩ := Option.bind_eq_some_iff.mp there
      obtain ⟨depth, outerText⟩ := ih here
      cases outer with
      | list elements =>
          exact ⟨depth + 1, (infix_chars_list (List.mem_of_getElem? inside)).trans outerText⟩
      | _ => cases inside

/-! ## The spelling of a text -/

/-- The characters of a text as they are written between quotes. -/
def spelled (cs : List Char) : List Char :=
  cs.flatMap escapeChar

/-- Whether a character is written as itself between quotes. -/
def isPlainChar (c : Char) : Bool :=
  c ≠ '"' && c ≠ '\\' && 32 ≤ c.toNat

/-- **A text that stands in its spelling**: backslashes, at most one quote, characters that are
written as themselves, and backslashes again. -/
def WrittenAsIs (cs : List Char) : Prop :=
  ∃ before quote middle behind,
    cs = List.replicate before '\\' ++ (quote ++ middle) ++ List.replicate behind '\\' ∧
    (quote = [] ∨ quote = ['"']) ∧ ∀ c ∈ middle, isPlainChar c

theorem spelled_cons (c : Char) (rest : List Char) :
    spelled (c :: rest) = escapeChar c ++ spelled rest :=
  List.flatMap_cons

theorem spelled_append (first second : List Char) :
    spelled (first ++ second) = spelled first ++ spelled second :=
  List.flatMap_append

theorem escapeChar_of_isPlainChar {c : Char} (plain : isPlainChar c) : escapeChar c = [c] := by
  simp only [isPlainChar, Bool.and_eq_true, decide_eq_true_eq] at plain
  obtain ⟨⟨noQuote, noBackslash⟩, visible⟩ := plain
  have control {d : Char} (small : d.toNat < 32) : c ≠ d := by
    rintro rfl
    omega
  unfold escapeChar
  rw [if_neg noQuote, if_neg noBackslash, if_neg (control (by decide)),
    if_neg (control (by decide)), if_neg (control (by decide)), if_neg (control (by decide)),
    if_neg (control (by decide)), if_neg (Nat.not_lt.mpr visible)]

theorem spelled_eq_self {cs : List Char} (plain : ∀ c ∈ cs, isPlainChar c) : spelled cs = cs := by
  induction cs with
  | nil => rfl
  | cons c rest ih =>
      obtain ⟨first, others⟩ := List.forall_mem_cons.mp plain
      rw [spelled_cons, escapeChar_of_isPlainChar first, ih others, List.singleton_append]

theorem spelled_backslashes (n : Nat) :
    spelled (List.replicate n '\\') = List.replicate (2 * n) '\\' := by
  induction n with
  | zero => rfl
  | succ n ih =>
      rw [List.replicate_succ, spelled_cons, ih]
      rfl

/-- Such a text stands in its spelling: what comes before it there and behind it are more
backslashes. -/
theorem infix_spelled_of_writtenAsIs {cs : List Char} (shape : WrittenAsIs cs) :
    cs <:+: spelled cs := by
  obtain ⟨before, quote, middle, behind, rfl, opening, plain⟩ := shape
  obtain ⟨extra, written⟩ : ∃ extra, spelled quote = List.replicate extra '\\' ++ quote := by
    rcases opening with rfl | rfl
    · exact ⟨0, rfl⟩
    · exact ⟨1, rfl⟩
  refine ⟨List.replicate (before + extra) '\\', List.replicate behind '\\', ?_⟩
  rw [spelled_append, spelled_append, spelled_append, spelled_backslashes, spelled_backslashes,
    spelled_eq_self plain, written]
  have front : before + extra + before = 2 * before + extra := by omega
  have back : behind + behind = 2 * behind := by omega
  simp only [← List.append_assoc, List.replicate_append_replicate, front]
  simp only [List.append_assoc, List.replicate_append_replicate, back]

end Json

end SchemaOutline

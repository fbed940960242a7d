import SchemaOutline.Schema.Document

/-!
# References to definitions

A reference is cut at its slashes, and its third part names the definition. The usual reference to
a definition therefore finds it unless its name has a slash itself. Nothing else of a reference is
looked at: whatever its first two parts are, and whatever comes behind the third one, it finds the
same definition.

* `Text.segments_append` — a text is cut at its first separator.
* `Text.mem_tail_segments` — and at its last one.
* `Text.getElem?_segments_zero`, `Text.getElem?_segments_succ` — the parts of a text by position.
* `Document.reference`, `Schema.reference` — the usual reference to the definition of a name, and
  the schema that is only a reference.
* `Document.target?_reference` — what it finds.
* `Document.HasThirdPart` — a text whose third part is a given one.
* `Document.target?_thirdPart` — what every reference finds.
-/

namespace SchemaOutline

namespace Text

variable {α : Type} [DecidableEq α] {separator : α}

/-- A text without separators is one part. -/
theorem segments_of_not_mem {text : List α} (h : separator ∉ text) :
    segments separator text = [text] := by
  induction text with
  | nil => rfl
  | cons c rest ih =>
      rw [List.mem_cons, not_or] at h
      obtain ⟨hc, hrest⟩ := h
      rw [segments, if_neg (Ne.symm hc), ih hrest]

/-- The first part of a text is what stands before its first separator. -/
theorem segments_append {first : List α} (h : separator ∉ first) (rest : List α) :
    segments separator (first ++ separator :: rest) = first :: segments separator rest := by
  induction first with
  | nil => rw [List.nil_append, segments, if_pos rfl]
  | cons c first ih =>
      rw [List.mem_cons, not_or] at h
      obtain ⟨hc, hfirst⟩ := h
      rw [List.cons_append, segments, if_neg (Ne.symm hc), ih hfirst]

/-- What stands behind the last separator is one of the parts, and not the first one. -/
theorem mem_tail_segments (before : List α) {last : List α} (single : separator ∉ last) :
    last ∈ (segments separator (before ++ separator :: last)).tail := by
  induction before with
  | nil =>
      rw [List.nil_append, segments, if_pos rfl, segments_of_not_mem single]
      exact List.mem_singleton_self last
  | cons c rest ih =>
      rw [List.cons_append, segments]
      split
      · exact List.mem_of_mem_tail ih
      · cases parts : segments separator (rest ++ separator :: last) with
        | nil =>
            rw [parts] at ih
            cases ih
        | cons first others =>
            rw [parts] at ih
            exact ih

/-- A text either has no separator, or is cut at the first one. -/
theorem segments_cases (text : List α) :
    (separator ∉ text ∧ segments separator text = [text]) ∨
    ∃ first rest, separator ∉ first ∧ text = first ++ separator :: rest ∧
      segments separator text = first :: segments separator rest := by
  by_cases mem : separator ∈ text
  · obtain ⟨first, rest, cut, free⟩ := List.eq_append_cons_of_mem mem
    exact .inr ⟨first, rest, free, cut, by rw [cut, segments_append free]⟩
  · exact .inl ⟨mem, segments_of_not_mem mem⟩

/-- The first part of a text is all of it, or what stands before a separator. -/
theorem getElem?_segments_zero {text part : List α} :
    (segments separator text)[0]? = some part ↔
      separator ∉ part ∧ (text = part ∨ ∃ rest, text = part ++ separator :: rest) := by
  constructor
  · intro here
    rcases segments_cases text with ⟨free, parts⟩ | ⟨first, rest, free, cut, parts⟩
    · rw [parts] at here
      cases here
      exact ⟨free, .inl rfl⟩
    · rw [parts] at here
      cases here
      exact ⟨free, .inr ⟨rest, cut⟩⟩
  · rintro ⟨free, rfl | ⟨rest, rfl⟩⟩
    · rw [segments_of_not_mem free]
      rfl
    · rw [segments_append free]
      rfl

/-- A later part of a text is a part of what stands behind its first separator. -/
theorem getElem?_segments_succ {n : Nat} {text part : List α} :
    (segments separator text)[n + 1]? = some part ↔
      ∃ first rest, separator ∉ first ∧ text = first ++ separator :: rest ∧
        (segments separator rest)[n]? = some part := by
  constructor
  · intro here
    rcases segments_cases text with ⟨-, parts⟩ | ⟨first, rest, free, cut, parts⟩
    · rw [parts] at here
      cases here
    · rw [parts] at here
      exact ⟨first, rest, free, cut, here⟩
  · rintro ⟨first, rest, free, rfl, here⟩
    rw [segments_append free]
    exact here

end Text

/-- The schema that only refers to a definition. -/
def Schema.reference (ref : String) : Schema where
  ref := some ref

namespace Document

/-- The reference to the definition of a name. -/
def reference (name : String) : String :=
  "#/definitions/" ++ name

/-- **A text whose third part is the given one**: two parts without slashes stand before it, and
behind it the text ends or goes on with a slash. -/
def HasThirdPart (part text : String) : Prop :=
  ∃ first second rest : String, '/' ∉ first.toList ∧ '/' ∉ second.toList ∧ '/' ∉ part.toList ∧
    (text = first ++ "/" ++ second ++ "/" ++ part ∨
      text = first ++ "/" ++ second ++ "/" ++ part ++ "/" ++ rest)

/-- A reference points to its third part. -/
theorem targetName?_eq_some_iff {text name : String} :
    targetName? text = some name ↔ HasThirdPart name text := by
  have third : targetName? text = some name ↔
      (Text.segments '/' text.toList)[2]? = some name.toList := by
    rw [targetName?, Option.map_eq_some_iff]
    constructor
    · rintro ⟨part, here, rfl⟩
      rw [String.toList_ofList]
      exact here
    · intro here
      exact ⟨name.toList, here, String.ofList_toList⟩
  -- the text is cut at its first slash, and again at the next one
  rw [third, Text.getElem?_segments_succ]
  simp only [Text.getElem?_segments_succ, Text.getElem?_segments_zero]
  constructor
  · rintro ⟨first, -, firstFree, cut, second, -, secondFree, rfl, free, rfl | ⟨rest, rfl⟩⟩
    · refine ⟨.ofList first, .ofList second, "", by simpa, by simpa, free, .inl ?_⟩
      rw [← String.toList_inj, cut]
      simp
    · refine ⟨.ofList first, .ofList second, .ofList rest, by simpa, by simpa, free, .inr ?_⟩
      rw [← String.toList_inj, cut]
      simp
  · rintro ⟨first, second, rest, firstFree, secondFree, free, rfl | rfl⟩
    · refine ⟨first.toList, second.toList ++ '/' :: name.toList, firstFree, by simp, second.toList,
        name.toList, secondFree, rfl, free, .inl rfl⟩
    · refine ⟨first.toList, second.toList ++ '/' :: (name.toList ++ '/' :: rest.toList), firstFree,
        by simp, second.toList, _, secondFree, rfl, free, .inr ⟨rest.toList, rfl⟩⟩

theorem targetName?_reference {name : String} (plain : '/' ∉ name.toList) :
    targetName? (reference name) = some name :=
  targetName?_eq_some_iff.mpr
    ⟨"#", "definitions", "", by decide, by decide, plain, .inl (by simp [reference])⟩

theorem target?_reference (document : Document) {name : String} (plain : '/' ∉ name.toList) :
    document.target? (reference name) = document.definition? name := by
  rw [target?, targetName?_reference plain]
  rfl

/-- A schema with the reference to a definition points to that definition. -/
theorem referenced?_of_ref {document : Document} {s : Schema} {name : String}
    (plain : '/' ∉ name.toList) (ref : s.ref = some (reference name)) :
    document.referenced? s = document.definition? name := by
  rw [referenced?, ref]
  exact document.target?_reference plain

/-- Of a name with a slash, the usual reference has the part before the first slash. -/
theorem hasThirdPart_reference {first : String} (free : '/' ∉ first.toList) (rest : String) :
    HasThirdPart first (reference (first ++ "/" ++ rest)) :=
  ⟨"#", "definitions", rest, by decide, by decide, free,
    .inr (by simp [reference, String.append_assoc])⟩

/-- A text has two slashes before its third part. -/
theorem HasThirdPart.two_le_count {part text : String} (third : HasThirdPart part text) :
    2 ≤ text.toList.count '/' := by
  obtain ⟨first, second, rest, -, -, -, rfl | rfl⟩ := third <;> simp <;> omega

theorem target?_eq_some_iff (document : Document) {text : String} {s : Schema} :
    document.target? text = some s ↔
      ∃ name, HasThirdPart name text ∧ document.definition? name = some s := by
  simp [target?, Option.bind_eq_some_iff, targetName?_eq_some_iff]

/-- **What every reference finds**: the definition whose name is its third part, and nothing if
there is no such definition. So the usual reference to a name finds its definition if the name has
no slash, and otherwise that of the part before the first one. A text with fewer than two slashes
finds nothing. -/
theorem target?_thirdPart (document : Document) :
    (∀ text s, document.target? text = some s ↔
      ∃ name, HasThirdPart name text ∧ document.definition? name = some s) ∧
    (∀ name, '/' ∉ name.toList → document.target? (reference name) = document.definition? name) ∧
    (∀ first rest, '/' ∉ first.toList →
      document.target? (reference (first ++ "/" ++ rest)) = document.definition? first) ∧
    ∀ text, text.toList.count '/' < 2 → document.target? text = none := by
  refine ⟨fun _ _ => document.target?_eq_some_iff, fun _ => document.target?_reference, ?_, ?_⟩
  · intro first rest free
    have third := targetName?_eq_some_iff.mpr (hasThirdPart_reference free rest)
    rw [target?, third]
    rfl
  · intro text few
    rw [Option.eq_none_iff_forall_ne_some]
    intro s found
    obtain ⟨name, third, -⟩ := document.target?_eq_some_iff.mp found
    have := third.two_le_count
    omega

end Document

namespace Atlas

def harbor : Schema where
  types := some (.single "object")

def bay : Schema where
  types := some (.single "string")

def json : Json :=
  .object
    [("properties", .object [("Harbor", .object [])]),
      ("definitions", .object
        [("Harbor", .object [("type", .text "object")]),
          ("Bay/North", .object [("type", .text "string")])])]

/-- An atlas with a property of the name of a definition, and a definition with a slash in its
name. -/
def document : Document where
  raw := json
  root := { properties := some [("Harbor", {})] }
  definitions := [("Harbor", harbor), ("Bay/North", bay)]

theorem ofJson_json : Document.ofJson json = .ok document := rfl

end Atlas

/-- References into an atlas. -/
theorem Document.target?_thirdPart_atlas :
    HasThirdPart "Harbor" "#/properties/Harbor" ∧
    Atlas.document.target? "#/properties/Harbor" = some Atlas.harbor ∧
    '/' ∉ "Harbor".toList ∧
    Atlas.document.target? (reference "Harbor") = Atlas.document.definition? "Harbor" ∧
    '/' ∉ "Bay".toList ∧
    Atlas.document.target? (reference "Bay/North") = Atlas.document.definition? "Bay" ∧
    "Harbor".toList.count '/' < 2 ∧ Atlas.document.target? "Harbor" = none := by
  have third : HasThirdPart "Harbor" "#/properties/Harbor" :=
    ⟨"#", "properties", "", by decide, by decide, by decide, .inl (by decide)⟩
  obtain ⟨found, usual, cut, nothing⟩ := target?_thirdPart Atlas.document
  exact ⟨third, (found _ _).mpr ⟨"Harbor", third, rfl⟩, by decide, usual "Harbor" (by decide),
    by decide, cut "Bay" "North" (by decide), by decide, nothing "Harbor" (by decide)⟩

/-- A reference to a property of an atlas finds a definition, although it is no reference to one,
and the reference to a definition of an atlas does not find it. -/
theorem Document.target?_ne_atlas :
    ofJson Atlas.json = .ok Atlas.document ∧
    (∀ name, "#/properties/Harbor" ≠ reference name) ∧
    Atlas.document.target? "#/properties/Harbor" = some Atlas.harbor ∧
    Atlas.document.definition? "Bay/North" = some Atlas.bay ∧
    Atlas.document.target? (reference "Bay/North") = none := by
  refine ⟨Atlas.ofJson_json, ?_, rfl, rfl, rfl⟩
  intro name same
  have letters := congrArg (fun text => text.toList[2]?) same
  simp [reference] at letters

end SchemaOutline

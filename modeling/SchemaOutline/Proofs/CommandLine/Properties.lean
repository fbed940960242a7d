import SchemaOutline.CommandLine.Answer
import SchemaOutline.Proofs.Outline.Printed

/-!
# Reading the properties that are printed

The program prints the properties of a document in one line of JSON. The line is read as the same
properties unless it is too deep, or a floating number among the literals comes back as another.
How deep it is depends on the longest way down the properties alone, if the literals are flat: a
forest of 62 levels is never too deep, and one of 64 levels always is, which is what a circle of
definitions unfolds to.

* `Outline.propertiesOfText?` — the properties that a text is read as.
* `Outline.ReadableAs` — when a text is read as the properties of a forest, and when it is refused.
* `Request.run_properties` — the line that is printed for a document is such a text.
* `Mirror`, `Grain` — a document whose line is refused, and one whose line is read as another.
-/

namespace SchemaOutline

open PropertyTree (Chain HeightLe)

namespace Outline

/-- The properties that a text is read as. -/
def propertiesOfText? (text : String) : Option (List PropertyTree) := do
  let value ← (Json.parse text).toOption
  (Json.readList PropertyTree.read value).toOption

/-- **When a text is read as the properties of a forest**: exactly if the value of the forest is not
too deep and each floating number in a literal is read from its own text as it is. The text of a
value that is too deep is refused. A forest of 64 levels is always too deep, and one of 62 levels
never is, if no literal is deeper than a list of lists. -/
structure ReadableAs (forest : List PropertyTree) (text : String) : Prop where
  read_iff : propertiesOfText? text = some forest ↔
    (propertiesJson forest).depth ≤ Json.maxContainers ∧
      ∀ p ∈ forest, p.DrawsFrom fun literal => literal.floatsReadBack
  refused : Json.maxContainers < (propertiesJson forest).depth →
    Json.parse text = .error .malformed
  high : ∀ chain, Chain forest chain → 64 ≤ chain.length →
    Json.maxContainers < (propertiesJson forest).depth
  low : HeightLe forest 62 → (∀ p ∈ forest, p.DrawsFrom fun literal => literal.depth ≤ 2) →
    (propertiesJson forest).depth ≤ Json.maxContainers

/-- The text of a forest without repeated keys is readable, with blanks behind it or without. -/
theorem readableAs {forest : List PropertyTree}
    (distinct : ∀ p ∈ forest, p.DrawsFrom fun literal => literal.keysDistinct) (behind : String)
    (blank : ∀ c ∈ behind.toList, Json.Reader.isBlank c) :
    ReadableAs forest ((propertiesJson forest).compact ++ behind) where
  read_iff := by
    have parsed := Json.parse_compact (keysDistinct_propertiesJson distinct) behind blank
    rw [← floatsReadBack_propertiesJson_iff, ← Json.readBack?_eq_self_iff, propertiesOfText?,
      parsed]
    cases back : (propertiesJson forest).readBack? Json.maxContainers with
    | none => exact ⟨nofun, nofun⟩
    | some v =>
        rw [Option.some.injEq, ← readList_of_readBack? back]
        show (Json.readList PropertyTree.read v).toOption = some forest ↔ _
        cases Json.readList PropertyTree.read v <;> simp [Except.toOption]
  refused := by
    intro deep
    rw [Json.parse_compact (keysDistinct_propertiesJson distinct) behind blank]
    cases back : (propertiesJson forest).readBack? Json.maxContainers with
    | none => rfl
    | some v =>
        have fits := Json.depth_le_of_readBack? _ (Option.isSome_of_eq_some back)
        exact absurd fits (Nat.not_le_of_lt deep)
  high := by
    intro chain down long
    have deep := length_le_depth_propertiesJson down
    have limit : Json.maxContainers = 127 := rfl
    omega
  low height flat := depth_propertiesJson_le height flat

/-- A text is read as another forest if that is what is read back of the value of the forest. -/
theorem propertiesOfText?_compact {forest others : List PropertyTree}
    (distinct : ∀ p ∈ forest, p.DrawsFrom fun literal => literal.keysDistinct)
    (back : (propertiesJson forest).readBack? Json.maxContainers = some (propertiesJson others)) :
    propertiesOfText? (propertiesJson forest).compact = some others := by
  have parsed := Json.parse_compact (keysDistinct_propertiesJson distinct) "" (by simp)
  rw [String.append_empty, back] at parsed
  rw [propertiesOfText?, parsed]
  exact congrArg Except.toOption (readList_propertiesJson others)

theorem readableAs_compact {forest : List PropertyTree}
    (distinct : ∀ p ∈ forest, p.DrawsFrom fun literal => literal.keysDistinct) :
    ReadableAs forest (propertiesJson forest).compact := by
  have alone := readableAs distinct "" (by simp)
  rwa [String.append_empty] at alone

end Outline

/-! ## Documents -/

namespace Document

theorem keysDistinct_bundled : Bundled.json.keysDistinct := by decide +kernel

/-- The literals in the forest of a document that the settings name repeat no key. -/
theorem keysDistinct_of_document {s : Settings} {files : Files} {document : Document}
    (loaded : s.document files = .ok document) :
    ∀ p ∈ document.outlineProperties, p.DrawsFrom fun literal => literal.keysDistinct := by
  obtain ⟨value, distinct, made⟩ :
      ∃ value : Json, value.keysDistinct ∧ ofJson value = .ok document := by
    obtain ⟨path?, panel⟩ := s
    cases path? with
    | none =>
        have same : bundled = document := Except.ok.inj loaded
        exact ⟨Bundled.json, keysDistinct_bundled, same ▸ ofJson_bundled⟩
    | some path =>
        obtain ⟨text, -, fromText⟩ := load_eq_ok loaded
        obtain ⟨value, parsed, made⟩ := ofText_eq_ok fromText
        exact ⟨value, Json.keysDistinct_of_parse parsed, made⟩
  have stripped := Json.keysDistinct_stripped .keywords value distinct
  exact drawsFrom_of_loadedFrom Json.hereditary_keysDistinct stripped (loadedFrom_of_ofJson made)

end Document

namespace Request

variable {r : Request} {around : Settings.Surroundings} {s : Settings} {document : Document}

/-- What is printed for a document in one line. -/
theorem run_compact (compact : r.compact) (all : r.command = .properties none)
    (settings : r.settings around = .ok s) (loaded : s.document around.files = .ok document) :
    r.run around =
      { code := 0
        output := (Outline.propertiesJson document.outlineProperties).compact ++ "\n" } := by
  have answer : r.answer around =
      .ok ((Outline.propertiesJson document.outlineProperties).compact ++ "\n") := by
    rw [answer, settings]
    simp only [all, outline, loaded]
    show Except.ok (r.jsonLine (Outline.propertiesJson document.outlineProperties)) = _
    rw [jsonLine, if_pos compact]
  rw [run, answer]

/-- **The line that is printed for a document** is read as its properties exactly if their value is
not too deep and the numbers of their literals are read back, with or without its end. -/
theorem run_properties (compact : r.compact) (all : r.command = .properties none)
    (settings : r.settings around = .ok s) (loaded : s.document around.files = .ok document) :
    ∃ text, r.run around = { code := 0, output := text ++ "\n" } ∧
      Outline.ReadableAs document.outlineProperties text ∧
      Outline.ReadableAs document.outlineProperties (text ++ "\n") := by
  have distinct := Document.keysDistinct_of_document loaded
  exact ⟨_, run_compact compact all settings loaded, Outline.readableAs_compact distinct,
    Outline.readableAs distinct "\n" (List.forall_mem_singleton.mpr rfl)⟩

end Request

/-! ## Schemas in files -/

/-- A schema that is written in one line loads from its file as what its text is read as. -/
theorem Document.load_compact {files : Files} {path : String} {value back : Json}
    {document : Document} (content : files path = .ok value.compact.toUTF8)
    (distinct : value.keysDistinct) (read : value.readBack? Json.maxContainers = some back)
    (made : ofJson back = .ok document) : load files path = .ok document := by
  rw [load, Files.text_of_toUTF8 content]
  dsimp only
  rw [ofText_compact distinct read, made]

namespace SchemaFile

/-- The files around a program: a schema in one line. -/
def around (value : Json) : Settings.Surroundings where
  files := Files.ofList [("schema.json", .ok value.compact.toUTF8)]

/-- Asking for its properties in one line. -/
def request : Request where
  schemaPath := some "schema.json"
  compact := true
  command := .properties none

def settings : Settings where
  schemaPath := some "schema.json"

theorem settings_request (value : Json) : request.settings (around value) = .ok settings := rfl

theorem document_settings {value back : Json} {document : Document} (distinct : value.keysDistinct)
    (read : value.readBack? Json.maxContainers = some back)
    (made : Document.ofJson back = .ok document) :
    settings.document (around value).files = .ok document :=
  Document.load_compact rfl distinct read made

end SchemaFile

namespace Grain

/-- A schema with the size of a grain as its only literal. -/
def json (size : Binary64) : Json :=
  .object [("properties", .object [("size", .object [("enum", .list [.float size])])])]

def document (size : Binary64) : Document where
  raw := json size
  root := { properties := some [("size", { literals := some [.float size] })] }
  definitions := []

theorem loaded {size back : Binary64} (read : size.readBack? = some (.float back)) :
    SchemaFile.settings.document (SchemaFile.around (json size)).files = .ok (document back) := by
  have whole : (json size).readBack? Json.maxContainers = some (json back) := by
    simp [json, Json.readBack?, Json.entriesReadBack?, Json.elementsReadBack?, read,
      Json.maxContainers]
  exact SchemaFile.document_settings rfl whole rfl

/-- Three quarters. -/
def coarse : Binary64 where
  negative := false
  significand := 6755399441055744
  scale := 1021
  significand_lt := by decide
  scale_le := by decide
  full := .inr (by decide)

/-- The number nearest to `10 ^ -30`. -/
def fine : Binary64 where
  negative := false
  significand := 5708990770823840
  scale := 922
  significand_lt := by decide
  scale_le := by decide
  full := .inr (by decide)

/-- The number below it. -/
def finer : Binary64 where
  negative := false
  significand := 5708990770823839
  scale := 922
  significand_lt := by decide
  scale_le := by decide
  full := .inr (by decide)

theorem outlineProperties_document (size : Binary64) :
    (document size).outlineProperties = [{ name := "size", literals := [.float size] }] := rfl

/-- What is read back of the size is read back of the forest. -/
theorem readBack?_forest {size back : Binary64} (read : size.readBack? = some (.float back)) :
    (Outline.propertiesJson (document size).outlineProperties).readBack? Json.maxContainers =
      some (Outline.propertiesJson (document back).outlineProperties) := by
  rw [outlineProperties_document, outlineProperties_document]
  simp [Outline.propertiesJson, PropertyTree.toJson, PropertyTree.toJsons, Json.entryOf, Json.texts,
    Json.readBack?, Json.entriesReadBack?, Json.elementsReadBack?, Json.maxContainers, read]

theorem readBack?_coarse : coarse.readBack? = some (.float coarse) := by decide +kernel

/-- The two numbers are read as each other, since the power of ten is rounded first. -/
theorem readBack?_fine :
    fine.readBack? = some (.float finer) ∧ finer.readBack? = some (.float fine) := by
  decide +kernel

end Grain

/-- The line that is printed for a coarse grain is read back. -/
theorem Request.run_properties_grain :
    SchemaFile.request.compact ∧ SchemaFile.request.command = .properties none ∧
    SchemaFile.request.settings (SchemaFile.around (Grain.json Grain.coarse)) =
      .ok SchemaFile.settings ∧
    SchemaFile.settings.document (SchemaFile.around (Grain.json Grain.coarse)).files =
      .ok (Grain.document Grain.coarse) ∧
    ∃ text, SchemaFile.request.run (SchemaFile.around (Grain.json Grain.coarse)) =
        { code := 0, output := text ++ "\n" } ∧
      Outline.propertiesOfText? text = some (Grain.document Grain.coarse).outlineProperties := by
  have settings := SchemaFile.settings_request (Grain.json Grain.coarse)
  have loaded := Grain.loaded Grain.readBack?_coarse
  obtain ⟨text, printed, readable, -⟩ := run_properties rfl rfl settings loaded
  have back := Json.readBack?_eq_self_iff _ |>.mp (Grain.readBack?_forest Grain.readBack?_coarse)
  refine ⟨rfl, rfl, settings, loaded, text, printed, readable.read_iff.mpr ⟨back.1, ?_⟩⟩
  exact Outline.floatsReadBack_propertiesJson_iff.mp back.2

namespace Mirror

def toMirror : Schema where
  ref := some "#/definitions/Mirror"

def reflection : Schema where
  allOf := some [toMirror]

/-- A mirror that shows a mirror. -/
def mirror : Schema where
  properties := some [("mirror", reflection)]

def mirrorEntry : String × Json :=
  ("properties", .object [("mirror", .object
    [("allOf", .list [.object [("$ref", .text "#/definitions/Mirror")]])])])

def json : Json :=
  .object [mirrorEntry, ("definitions", .object [("Mirror", .object [mirrorEntry])])]

def document : Document where
  raw := json
  root := mirror
  definitions := [("Mirror", mirror)]

theorem loaded : SchemaFile.settings.document (SchemaFile.around json).files = .ok document :=
  SchemaFile.document_settings rfl ((Json.readBack?_eq_self_iff json).mpr (by decide)) rfl

/-- Every level shows one mirror. -/
theorem exists_chain (room : Nat) :
    ∃ chain, Chain (document.propertiesWithin room mirror) chain ∧ chain.length = room := by
  induction room with
  | zero => exact ⟨[], .nil _, rfl⟩
  | succ room ih =>
      obtain ⟨rest, down, length⟩ := ih
      -- a reflection has the properties of a mirror with one level less
      let below := Steps.ofRoom .plain document.referenced? room
      let tree := (below.resolveAllOf document.referenced? "mirror" reflection).run
      have inner : Chain tree.inner rest :=
        down.subset fun _ mem => List.mem_append_left _ (List.mem_append_left _ mem)
      exact ⟨tree :: rest, .cons List.mem_cons_self inner, by rw [List.length_cons, length]⟩

end Mirror

/-- The line that is printed for a mirror is refused, and that for a fine grain is read as another
one. -/
theorem Request.run_properties_unread :
    (SchemaFile.request.settings (SchemaFile.around Mirror.json) = .ok SchemaFile.settings ∧
      SchemaFile.settings.document (SchemaFile.around Mirror.json).files = .ok Mirror.document ∧
      ∃ text, SchemaFile.request.run (SchemaFile.around Mirror.json) =
          { code := 0, output := text ++ "\n" } ∧
        Json.parse text = .error .malformed) ∧
    (SchemaFile.request.settings (SchemaFile.around (Grain.json Grain.fine)) =
        .ok SchemaFile.settings ∧
      SchemaFile.settings.document (SchemaFile.around (Grain.json Grain.fine)).files =
        .ok (Grain.document Grain.finer) ∧
      ∃ text, SchemaFile.request.run (SchemaFile.around (Grain.json Grain.fine)) =
          { code := 0, output := text ++ "\n" } ∧
        Outline.propertiesOfText? text = some (Grain.document Grain.fine).outlineProperties ∧
        Outline.propertiesOfText? text ≠ some (Grain.document Grain.finer).outlineProperties) := by
  have settings := SchemaFile.settings_request
  refine ⟨⟨settings _, Mirror.loaded, _, run_compact rfl rfl (settings _) Mirror.loaded, ?_⟩, ?_⟩
  · have readable := Outline.readableAs_compact (Document.keysDistinct_of_document Mirror.loaded)
    obtain ⟨chain, down, length⟩ := Mirror.exists_chain maxLevels
    exact readable.refused (readable.high chain down (Nat.le_of_eq length.symm))
  · have loaded := Grain.loaded Grain.readBack?_fine.1
    have readable := Outline.readableAs_compact (Document.keysDistinct_of_document loaded)
    refine ⟨settings _, loaded, _, run_compact rfl rfl (settings _) loaded, ?_, ?_⟩
    · exact Outline.propertiesOfText?_compact (Document.keysDistinct_of_document loaded)
        (Grain.readBack?_forest Grain.readBack?_fine.2)
    · -- the line would only be read as it was if the number in it were
      intro same
      have floats := (readable.read_iff.mp same).2
      rw [Grain.outlineProperties_document, List.forall_mem_singleton] at floats
      have own := floats.literals (.float Grain.finer) List.mem_cons_self
      rw [Json.floatsReadBack, decide_eq_true_eq, Grain.readBack?_fine.2] at own
      cases own

end SchemaOutline

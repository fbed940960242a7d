import Mathlib
import SchemaOutline.Proofs.Settings.Order

/-!
# Later sources override earlier ones

Each setting is what the last value stands for that any source gives for its key, or the default
where none gives one. So a value that is overridden does not matter, even one that stands for
nothing, and no setting depends on the values of other keys.

The key of an entry in a file is a path, and a quoted key may spell one that leads into a section.
As long as each of these leads to a key of the section, that is one more way to give its value.
Otherwise the section may become a list, which gives the settings by their places.

* `StandsFor` — the settings that a value for each of their keys stands for.
* `ofValues_eq_ok_iff` — settings are what the values of their keys stand for.
* `Layers.last?` — the value that the last source gives for a key.
* `load_iff_standsFor` — loading gives the settings that the last values stand for, and no others.
-/

namespace SchemaOutline.Settings

open Schema (bind_eq_ok_iff)
open Setting (SectionsKept)

/-! ## Settings -/

/-- The setting that the value of a key stands for, or its default where there is no value. -/
def converted {α : Type} (key : String) (convert : String → Setting → Except Fault α)
    (default : α) : Option Setting → Except Fault α
  | some v => convert key v
  | none => .ok default

theorem read_eq_converted {α : Type} (p : Place) (convert : String → Setting → Except Fault α)
    (default : α) : p.read convert default = converted p.key convert default p.value := by
  unfold Place.read
  cases p.value with
  | none => rfl
  | some v => rfl

/-- The place of a setting has the value of its key, as long as sections are tables. -/
theorem exists_place {values : Setting} (kept : SectionsKept values) {sectionName : String}
    (known : sectionName ∈ sectionNames) (record name : String) (index : Nat) :
    ∃ p, placeOf values sectionName record name index = .ok p ∧
      ∀ {α : Type} (convert : String → Setting → Except Fault α) (default : α),
        p.read convert default =
          converted (sectionName ++ "." ++ name) convert default (values.at? sectionName name) := by
  unfold placeOf Setting.at?
  cases there : values.entries.lookup sectionName with
  | none => exact ⟨_, rfl, fun _ _ => rfl⟩
  | some inner =>
      have isTable := kept sectionName known inner there
      cases inner with
      | table origin entries =>
          exact ⟨_, rfl, fun convert default => read_eq_converted _ convert default⟩
      | _ => cases isTable

/-- The settings that a value for each of their keys stands for. -/
structure StandsFor (valueOf : String → String → Option Setting) (s : Settings) : Prop where
  schemaPath :
    converted "schema.path" toOptionalPath none (valueOf "schema" "path") = .ok s.schemaPath
  port : converted "candid_ui.port" toPort 8080 (valueOf "candid_ui" "port") = .ok s.panel.port
  workspaceRoot :
    converted "candid_ui.workspace_root" toPath "." (valueOf "candid_ui" "workspace_root") =
      .ok s.panel.workspaceRoot
  extensionPath :
    converted "candid_ui.extension_path" toOptionalPath none
      (valueOf "candid_ui" "extension_path") = .ok s.panel.extensionPath

/-- Only the values of keys in sections matter. -/
theorem StandsFor.congr {valueOf valueOf' : String → String → Option Setting} {s : Settings}
    (settled : StandsFor valueOf s)
    (same : ∀ sectionName ∈ sectionNames, ∀ name, valueOf sectionName name =
      valueOf' sectionName name) : StandsFor valueOf' s := by
  have schema := same "schema" (by decide)
  have panel := same "candid_ui" (by decide)
  obtain ⟨isPath, isPort, isRoot, isExtension⟩ := settled
  rw [schema] at isPath
  rw [panel] at isPort isRoot isExtension
  exact ⟨isPath, isPort, isRoot, isExtension⟩

/-- **Settings are what the values of their keys stand for**, as long as sections are tables. -/
theorem ofValues_eq_ok_iff {values : Setting} (kept : SectionsKept values) {s : Settings} :
    ofValues values = .ok s ↔ StandsFor values.at? s := by
  have schema : "schema" ∈ sectionNames := by decide
  have panel : "candid_ui" ∈ sectionNames := by decide
  obtain ⟨first, atFirst, readFirst⟩ := exists_place kept schema "SchemaSourceConfig" "path" 0
  obtain ⟨second, atSecond, readSecond⟩ := exists_place kept panel "CandidUiConfig" "port" 0
  obtain ⟨third, atThird, readThird⟩ :=
    exists_place kept panel "CandidUiConfig" "workspace_root" 1
  obtain ⟨fourth, atFourth, readFourth⟩ :=
    exists_place kept panel "CandidUiConfig" "extension_path" 2
  unfold ofValues
  simp only [bind_eq_ok_iff, atFirst, atSecond, atThird, atFourth, Except.ok.injEq,
    exists_eq_left', readFirst, readSecond, readThird, readFourth]
  constructor
  · rintro ⟨schemaPath, isPath, port, isPort, root, isRoot, extension, isExtension, made⟩
    cases made
    exact ⟨isPath, isPort, isRoot, isExtension⟩
  · intro settled
    exact ⟨_, settled.schemaPath, _, settled.port, _, settled.workspaceRoot, _,
      settled.extensionPath, rfl⟩

/-! ## Loading -/

namespace Layers

/-- The value that the last source gives for a key of a section, of those that give one. -/
def last? (l : Layers) (sectionName name : String) : Option Setting :=
  lastGiven sectionName name l.all

end Layers

/-- In whatever order the entries of each source are put together, each key has the last value
given for it. -/
theorem ofValues_combine_iff {l : Layers} (keeps : l.KeepsSections) (once : l.NoKeyTwice)
    {taken : List (List (String × Setting))}
    (same : List.Forall₂ Setting.EntriesReordered l.all taken) {s : Settings} :
    ofValues (combine taken) = .ok s ↔ StandsFor l.last? s := by
  have values : ∀ sectionName ∈ sectionNames, ∀ name,
      (combine taken).at? sectionName name = l.last? sectionName name := fun _ known name =>
    at?_combine_of_reordered same keeps known fun entries mem => once entries mem _ known name
  rw [ofValues_eq_ok_iff (sectionsKept_combine (keepsSections_of_reordered same keeps))]
  constructor
  · exact fun settled => settled.congr values
  · exact fun settled => settled.congr fun _ known name => (values _ known name).symm

/-- **Later sources override earlier ones, key by key.** If settings load, each source can be read.
And as long as the sources add to the sections and none gives a key twice, exactly those settings
load for which each key has the last value given for it, whatever was given before and for other
keys, and in whatever order the entries of a source are put together. -/
theorem load_iff_standsFor (around : Surroundings) (explicit : Option String) :
    (∀ s, load around explicit = .ok s → ∃ l : Layers, l.ReadFrom around explicit) ∧
    ∀ l : Layers, l.ReadFrom around explicit → l.KeepsSections → l.NoKeyTwice →
      ∀ s, (load around explicit = .ok s ↔ StandsFor l.last? s) ∧
        (MayLoad around explicit s ↔ StandsFor l.last? s) := by
  constructor
  · intro s loaded
    obtain ⟨given, read, -⟩ := bind_eq_ok_iff.mp loaded
    obtain ⟨l, readFrom, -⟩ := sources_eq_ok_iff.mp read
    exact ⟨l, readFrom⟩
  · intro l read keeps once s
    have all : sources around explicit = .ok l.all := sources_eq_ok_iff.mpr ⟨l, read, rfl⟩
    have loads : load around explicit = ofValues (combine l.all) := by
      unfold load
      rw [all]
      rfl
    have asWritten := ofValues_combine_iff keeps once (s := s)
      (List.forall₂_same.mpr fun entries _ => .self entries)
    rw [← loads] at asWritten
    refine ⟨asWritten, ?_, fun settled => mayLoad_of_load (asWritten.mpr settled)⟩
    rintro ⟨given, taken, same, orders, values⟩
    rw [all] at same
    cases same
    exact (ofValues_combine_iff keeps once orders).mp values

/-! ## Two files and a variable -/

theorem ok_of_toOption {ε α : Type} {x : Except ε α} {a : α} (same : x.toOption = some a) :
    x = .ok a := by
  cases x with
  | ok b => exact congrArg Except.ok (Option.some.inj same)
  | error fault => cases same

namespace Bench

def plainText : String :=
  "[candid_ui]\nport = \"many\"\nworkspace_root = \"w\"\n"

def askedText : String :=
  "[Candid_UI]\nPORT = 9000\n"

/-- A port that is none, overridden by the file that is asked for. -/
def around : Surroundings where
  files := Files.ofList
    [("dfx-schemas.toml", .ok plainText.toUTF8), ("x.toml", .ok askedText.toUTF8)]
  environment := [("DFX_SCHEMAS__SCHEMA__PATH", "s.json")]

def plain : List (String × Toml.Value) :=
  [("candid_ui", .table [("port", .text "many"), ("workspace_root", .text "w")])]

def asked : List (String × Toml.Value) :=
  [("Candid_UI", .table [("PORT", .integer 9000)])]

def layers : Layers where
  plain := Setting.ofTomlEntries "dfx-schemas.toml" plain
  hidden := []
  inConfig := []
  user := []
  asked := Setting.ofTomlEntries "x.toml" asked
  environment := ofEnvironment around.environment

theorem givesToml_plain : GivesToml around "dfx-schemas.toml" layers.plain := by
  refine ⟨"dfx-schemas.toml", plainText, plain, ⟨?_, ?_, ?_⟩, ?_, ?_⟩
  · decide +kernel
  · decide +kernel
  · rfl
  · cbv
  · rfl

theorem givesToml_asked : GivesToml around "x.toml" layers.asked := by
  refine ⟨"x.toml", askedText, asked, ⟨?_, ?_, ?_⟩, ?_, ?_⟩
  · decide +kernel
  · decide +kernel
  · rfl
  · cbv
  · rfl

theorem readFrom : layers.ReadFrom around (some "x.toml") where
  plain := .inl givesToml_plain
  hidden := fileGives_nothing (by decide +kernel)
  inConfig := fileGives_nothing (by decide +kernel)
  user _ known := nomatch known
  noUser _ := rfl
  asked name known := by
    cases known
    exact givesToml_asked
  notAsked none := nomatch none
  environment := rfl

theorem variableKeys?_path : variableKeys? "DFX_SCHEMAS__SCHEMA__PATH" = some "schema.path" := by
  decide +kernel

theorem keepsSections : layers.KeepsSections := by
  rw [Layers.keepsSections_iff]
  intro entries source entry mem
  simp only [Layers.all, List.mem_cons, List.not_mem_nil, or_false] at source
  rcases source with rfl | rfl | rfl | rfl | rfl | rfl
  · obtain rfl := List.mem_singleton.mp mem
    refine keepsSections_table (by decide +kernel) ?_
    simp [Setting.ofTomlEntries, Setting.ofToml, Setting.isTable]
  · cases mem
  · cases mem
  · cases mem
  · obtain rfl := List.mem_singleton.mp mem
    refine keepsSections_table (by decide +kernel) ?_
    simp [Setting.ofTomlEntries, Setting.ofToml, Setting.isTable]
  · refine keepsSections_ofEnvironment ?_ entry mem
    intro setting here keys known
    obtain rfl := List.mem_singleton.mp here
    rw [variableKeys?_path] at known
    cases known
    exact List.mem_cons_self

theorem noKeyTwice : layers.NoKeyTwice := by
  intro entries source sectionName _ name
  simp only [Layers.all, List.mem_cons, List.not_mem_nil, or_false] at source
  unfold givenBy
  rcases source with rfl | rfl | rfl | rfl | rfl | rfl
  · refine (congrArg List.length (List.append_nil _)).trans_le ?_
    exact length_given_table_le_one (by decide +kernel) (by decide +kernel) sectionName name
  · exact Nat.zero_le 1
  · exact Nat.zero_le 1
  · exact Nat.zero_le 1
  · refine (congrArg List.length (List.append_nil _)).trans_le ?_
    exact length_given_table_le_one (by decide +kernel) (by decide +kernel) sectionName name
  · have leads : (KeyPath.ofText "schema.path").steps = [.child "path"] := by decide +kernel
    refine (congrArg List.length (List.append_nil _)).trans_le ?_
    exact length_given_child_le_one leads _ sectionName name

/-- The port of the file that is asked for, the root of the other file, and the path of the
variable. -/
def settings : Settings where
  schemaPath := some "s.json"
  panel := { port := 9000, workspaceRoot := "w" }

theorem standsFor : StandsFor layers.last? settings where
  schemaPath := ok_of_toOption (by decide +kernel)
  port := ok_of_toOption (by decide +kernel)
  workspaceRoot := ok_of_toOption (by decide +kernel)
  extensionPath := ok_of_toOption (by decide +kernel)

end Bench

/-- The settings at the bench: what is overridden is no port, and does not matter. -/
theorem load_iff_standsFor_bench :
    Bench.layers.ReadFrom Bench.around (some "x.toml") ∧ Bench.layers.KeepsSections ∧
    Bench.layers.NoKeyTwice ∧ StandsFor Bench.layers.last? Bench.settings ∧
    load Bench.around (some "x.toml") = .ok Bench.settings := by
  obtain ⟨-, loads⟩ := load_iff_standsFor Bench.around (some "x.toml")
  obtain ⟨exactly, -⟩ :=
    loads Bench.layers Bench.readFrom Bench.keepsSections Bench.noKeyTwice Bench.settings
  exact ⟨Bench.readFrom, Bench.keepsSections, Bench.noKeyTwice, Bench.standsFor,
    exactly.mpr Bench.standsFor⟩

namespace Bracket

def plainText : String :=
  "[candid_ui]\nworkspace_root = \"w\"\n"

def askedText : String :=
  "\"candid_ui[0]\" = 5\n"

/-- A key that is no name of a section and spells a path into one. -/
def around : Surroundings where
  files := Files.ofList
    [("dfx-schemas.toml", .ok plainText.toUTF8), ("x.toml", .ok askedText.toUTF8)]

end Bracket

/-- The section becomes a list, whose first element is the port, and what was in it is lost. -/
theorem load_bracket :
    Toml.parse Bracket.plainText = some [("candid_ui", .table [("workspace_root", .text "w")])] ∧
    Toml.parse Bracket.askedText = some [("candid_ui[0]", .integer 5)] ∧
    Text.lower "candid_ui[0]" ∉ sectionNames ∧ Bracket.around.environment = [] ∧
    ∃ s, load Bracket.around (some "x.toml") = .ok s ∧ s.panel.workspaceRoot = "." ∧
      s.panel.workspaceRoot ≠ "w" ∧ s.panel.port = 5 ∧ s.panel.port ≠ 8080 := by
  have loaded : load Bracket.around (some "x.toml") = .ok { panel := { port := 5 } } :=
    ok_of_toOption (by decide +kernel)
  exact ⟨by cbv, by cbv, by decide, rfl, _, loaded, rfl, by decide, rfl, by decide⟩

end SchemaOutline.Settings

import SchemaOutline.Proofs.Schema.Keyword
import SchemaOutline.Proofs.Settings.Combine

/-!
# What the sources give

Six sources give values: three files in the working directory, the file of the user, the file that
is asked for, and the environment. A file that is there gives the entries of its TOML text. The one
that is asked for has to be there, and any other one gives nothing where it is not.

* `GivesToml`, `FileGives`, `UserGives` — what a file gives.
* `Layers`, `Layers.ReadFrom` — what each source gives.
* `sources_eq_ok_iff` — the sources can be read if each of them can.
* `Layers.KeepsSections` — the sources add to the sections of the settings.
* `keepsSections_table`, `keepsSections_ofEnvironment` — tables without tables in them do, and so do
  variables that name settings.
-/

namespace SchemaOutline.Settings

open Schema (bind_eq_ok_iff)

/-! ## Sources -/

section Sources

variable {around : Surroundings} {name : String} {entries : List (String × Setting)}

/-- There is a TOML file of a name, and it has a text. -/
def HasText (around : Surroundings) (name path text : String) : Prop :=
  find? around.files name = some path ∧ isToml path ∧ around.files.text path = .ok text

/-- Entries are those of the TOML file of a name. -/
def GivesToml (around : Surroundings) (name : String) (entries : List (String × Setting)) : Prop :=
  ∃ path text tree, HasText around name path text ∧ Toml.parse text = some tree ∧
    entries = Setting.ofTomlEntries (originOf around.directory path) tree

/-- **What a file gives that need not be there**: its entries, or nothing where there is no text. -/
def FileGives (around : Surroundings) (name : String) (entries : List (String × Setting)) : Prop :=
  GivesToml around name entries ∨
    (¬ ∃ path text, HasText around name path text) ∧ entries = []

theorem ofText_eq_ok_iff {origin text : String} :
    ofText origin text = .ok entries ↔
      ∃ tree, Toml.parse text = some tree ∧ entries = Setting.ofTomlEntries origin tree := by
  unfold ofText
  cases Toml.parse text with
  | none => simp
  | some tree => simp [eq_comm]

/-- The file of a name has one text. -/
theorem HasText.unique {path text path' text' : String} (here : HasText around name path text)
    (there : HasText around name path' text') : path' = path ∧ text' = text := by
  obtain ⟨found, -, content⟩ := here
  obtain ⟨found', -, content'⟩ := there
  rw [found] at found'
  cases found'
  rw [content] at content'
  cases content'
  exact ⟨rfl, rfl⟩

theorem givesToml_iff {path text : String} (here : HasText around name path text) :
    GivesToml around name entries ↔
      ofText (originOf around.directory path) text = .ok entries := by
  rw [ofText_eq_ok_iff]
  constructor
  · rintro ⟨path', text', tree, there, parsed, rfl⟩
    obtain ⟨rfl, rfl⟩ := here.unique there
    exact ⟨tree, parsed, rfl⟩
  · rintro ⟨tree, parsed, rfl⟩
    exact ⟨path, text, tree, here, parsed, rfl⟩

theorem not_givesToml (none : ¬ ∃ path text, HasText around name path text) :
    ¬ GivesToml around name entries := by
  rintro ⟨path, text, tree, here, -, -⟩
  exact none ⟨path, text, here⟩

theorem requiredFile_of_hasText {path text : String} (here : HasText around name path text) :
    requiredFile around name = ofText (originOf around.directory path) text := by
  obtain ⟨found, named, content⟩ := here
  simp only [requiredFile, found, named, content, if_true]

theorem optionalFile_of_hasText {path text : String} (here : HasText around name path text) :
    optionalFile around name = ofText (originOf around.directory path) text := by
  obtain ⟨found, named, content⟩ := here
  simp only [optionalFile, found, named, content, if_true]

/-- Without a text a file that has to be there is at fault, and another one gives nothing. -/
theorem files_of_noText (noText : ¬ ∃ path text, HasText around name path text) :
    (∃ fault, requiredFile around name = .error fault) ∧ optionalFile around name = .ok [] := by
  unfold requiredFile optionalFile
  cases found : find? around.files name with
  | none => exact ⟨⟨_, rfl⟩, rfl⟩
  | some path =>
      dsimp only
      by_cases named : isToml path
      · rw [if_pos named, if_pos named]
        cases content : around.files.text path with
        | error fault => exact ⟨⟨_, rfl⟩, rfl⟩
        | ok text => exact absurd ⟨path, text, found, named, content⟩ noText
      · rw [if_neg named, if_neg named]
        exact ⟨⟨_, rfl⟩, rfl⟩

theorem requiredFile_eq_ok_iff :
    requiredFile around name = .ok entries ↔ GivesToml around name entries := by
  by_cases present : ∃ path text, HasText around name path text
  · obtain ⟨path, text, here⟩ := present
    rw [requiredFile_of_hasText here, givesToml_iff here]
  · obtain ⟨⟨fault, failed⟩, -⟩ := files_of_noText present
    rw [failed]
    exact iff_of_false (fun same => nomatch same) (not_givesToml present)

theorem optionalFile_eq_ok_iff :
    optionalFile around name = .ok entries ↔ FileGives around name entries := by
  unfold FileGives
  by_cases present : ∃ path text, HasText around name path text
  · obtain ⟨path, text, here⟩ := present
    rw [optionalFile_of_hasText here, ← givesToml_iff here]
    constructor
    · exact .inl
    · rintro (gives | ⟨noText, -⟩)
      · exact gives
      · exact absurd ⟨path, text, here⟩ noText
  · obtain ⟨-, nothing⟩ := files_of_noText present
    rw [nothing]
    simp [not_givesToml present, present, eq_comm]

theorem fileGives_nothing (nowhere : find? around.files name = none) :
    FileGives around name [] := by
  refine .inr ⟨?_, rfl⟩
  rintro ⟨path, text, found, -⟩
  rw [nowhere] at found
  cases found

/-- Whether nothing stands where the file of the user is looked for. -/
def noUserFile (files : Files) (home : String) : Bool :=
  match files (userFile home) with
  | .error .missing | .error .notDirectory => true
  | _ => false

/-- What the file of the user gives: nothing where it is not, whatever else there is. -/
def UserGives (around : Surroundings) (home : String) (entries : List (String × Setting)) : Prop :=
  if noUserFile around.files home then entries = []
  else FileGives around (userFile home) entries

theorem userEntries_eq_ok_iff {home : String} :
    userEntries around home = .ok entries ↔ UserGives around home entries := by
  have cases_file : userEntries around home =
      if noUserFile around.files home then .ok [] else optionalFile around (userFile home) := by
    unfold userEntries noUserFile
    cases around.files (userFile home) with
    | ok bytes => rfl
    | error fault => cases fault <;> rfl
  rw [cases_file, UserGives]
  by_cases missing : noUserFile around.files home
  · simp [missing, eq_comm]
  · rw [if_neg missing, if_neg missing, optionalFile_eq_ok_iff]

end Sources

/-- **What each source gives**: the three files in the working directory, the file of the user, the
file that is asked for, and the environment. -/
structure Layers where
  plain : List (String × Setting)
  hidden : List (String × Setting)
  inConfig : List (String × Setting)
  user : List (String × Setting)
  asked : List (String × Setting)
  environment : List (String × Setting)

namespace Layers

/-- All sources, in the order in which later ones override. -/
def all (l : Layers) : List (List (String × Setting)) :=
  [l.plain, l.hidden, l.inConfig, l.user, l.asked, l.environment]

/-- **What the sources give, read from what is around.** -/
structure ReadFrom (around : Surroundings) (explicit : Option String) (l : Layers) : Prop where
  plain : FileGives around "dfx-schemas.toml" l.plain
  hidden : FileGives around ".dfx-schemas.toml" l.hidden
  inConfig : FileGives around "config/dfx-schemas.toml" l.inConfig
  user : ∀ home, around.configHome = some home → UserGives around home l.user
  noUser : around.configHome = none → l.user = []
  asked : ∀ name, explicit = some name → GivesToml around name l.asked
  notAsked : explicit = none → l.asked = []
  environment : l.environment = ofEnvironment around.environment

end Layers

section Reading

variable {around : Surroundings} {explicit : Option String}

theorem defaults_eq_ok_iff {given : List (List (String × Setting))} :
    defaultFiles.mapM (optionalFile around) = .ok given ↔
      ∃ plain hidden inConfig, FileGives around "dfx-schemas.toml" plain ∧
        FileGives around ".dfx-schemas.toml" hidden ∧
        FileGives around "config/dfx-schemas.toml" inConfig ∧
        given = [plain, hidden, inConfig] := by
  simp only [defaultFiles, List.mapM_cons, List.mapM_nil, bind_eq_ok_iff, optionalFile_eq_ok_iff]
  constructor
  · rintro ⟨plain, first, _, ⟨hidden, second, _, ⟨inConfig, third, _, none, last⟩, more⟩, made⟩
    cases none
    cases last
    cases more
    cases made
    exact ⟨plain, hidden, inConfig, first, second, third, rfl⟩
  · rintro ⟨plain, hidden, inConfig, first, second, third, rfl⟩
    exact ⟨plain, first, _, ⟨hidden, second, _, ⟨inConfig, third, [], rfl, rfl⟩, rfl⟩, rfl⟩

/-- What the file of the user gives, if it is known where to look for one. -/
def userLayer (around : Surroundings) : Except Fault (List (String × Setting)) :=
  match around.configHome with
  | some home => userEntries around home
  | none => .ok []

/-- What the file gives that is asked for, if one is. -/
def askedLayer (around : Surroundings) (explicit : Option String) :
    Except Fault (List (String × Setting)) :=
  match explicit with
  | some name => requiredFile around name
  | none => .ok []

theorem sources_eq :
    sources around explicit = (do
      let defaults ← defaultFiles.mapM (optionalFile around)
      let user ← userLayer around
      let asked ← askedLayer around explicit
      return defaults ++ [user, asked, ofEnvironment around.environment]) := by
  unfold sources userLayer askedLayer
  cases around.configHome <;> cases explicit <;> rfl

theorem userLayer_eq_ok_iff {user : List (String × Setting)} :
    userLayer around = .ok user ↔
      (∀ home, around.configHome = some home → UserGives around home user) ∧
      (around.configHome = none → user = []) := by
  unfold userLayer
  cases around.configHome with
  | none => simp [eq_comm]
  | some home => simp [userEntries_eq_ok_iff]

theorem askedLayer_eq_ok_iff {asked : List (String × Setting)} :
    askedLayer around explicit = .ok asked ↔
      (∀ name, explicit = some name → GivesToml around name asked) ∧
      (explicit = none → asked = []) := by
  unfold askedLayer
  cases explicit with
  | none => simp [eq_comm]
  | some name => simp [requiredFile_eq_ok_iff]

/-- **The sources can be read** if each of them can, and give what each of them gives. -/
theorem sources_eq_ok_iff {given : List (List (String × Setting))} :
    sources around explicit = .ok given ↔
      ∃ l : Layers, l.ReadFrom around explicit ∧ given = l.all := by
  simp only [sources_eq, bind_eq_ok_iff, defaults_eq_ok_iff, userLayer_eq_ok_iff,
    askedLayer_eq_ok_iff]
  constructor
  · rintro ⟨_, ⟨plain, hidden, inConfig, first, second, third, rfl⟩, user, ⟨fourth, noUser⟩, asked,
      ⟨fifth, notAsked⟩, made⟩
    cases made
    exact ⟨⟨plain, hidden, inConfig, user, asked, _⟩,
      ⟨first, second, third, fourth, noUser, fifth, notAsked, rfl⟩, rfl⟩
  · rintro ⟨⟨plain, hidden, inConfig, user, asked, environment⟩, read, rfl⟩
    obtain ⟨first, second, third, fourth, noUser, fifth, notAsked, same⟩ := read
    cases same
    exact ⟨_, ⟨plain, hidden, inConfig, first, second, third, rfl⟩, user, ⟨fourth, noUser⟩, asked,
      ⟨fifth, notAsked⟩, rfl⟩

end Reading

/-! ## Sources that add to the sections -/

/-- Every source adds to the sections. -/
def Layers.KeepsSections (l : Layers) : Prop :=
  ∀ entry ∈ l.all.flatten, Settings.KeepsSections entry

theorem Layers.keepsSections_iff {l : Layers} :
    l.KeepsSections ↔ ∀ entries ∈ l.all, ∀ entry ∈ entries, Settings.KeepsSections entry := by
  unfold Layers.KeepsSections
  simp only [List.mem_flatten]
  constructor
  · exact fun keeps entries source entry mem => keeps entry ⟨entries, source, mem⟩
  · exact fun keeps entry ⟨entries, source, mem⟩ => keeps entries source entry mem

/-- A table without tables in it adds to its section. -/
theorem keepsSections_table {key : String} {origin : Option String}
    {entries : List (String × Setting)} (bare : (KeyPath.ofText key).steps = [])
    (flat : ∀ entry ∈ entries, entry.2.isTable = false) :
    KeepsSections (key, .table origin entries) := by
  unfold KeepsSections Setting.KeepsSections
  rw [bare]
  exact fun _ => ⟨rfl, flat⟩

/-- The keys of the settings, as variables name them. -/
def settingKeys : List String :=
  ["schema.path", "candid_ui.port", "candid_ui.workspace_root", "candid_ui.extension_path"]

/-- The key of a setting leads to a key of a section. -/
theorem exists_child_of_mem_settingKeys {keys : String} (known : keys ∈ settingKeys) :
    ∃ sectionName name, KeyPath.ofText keys = ⟨sectionName, [.child name]⟩ := by
  simp only [settingKeys, List.mem_cons, List.not_mem_nil, or_false] at known
  rcases known with rfl | rfl | rfl | rfl
  · exact ⟨"schema", "path", rfl⟩
  · exact ⟨"candid_ui", "port", rfl⟩
  · exact ⟨"candid_ui", "workspace_root", rfl⟩
  · exact ⟨"candid_ui", "extension_path", rfl⟩

/-- Variables that name settings and nothing else add to the sections. -/
theorem keepsSections_ofEnvironment {environment : List (String × String)}
    (named : ∀ entry ∈ environment, ∀ keys, variableKeys? entry.1 = some keys →
      keys ∈ settingKeys) : ∀ entry ∈ ofEnvironment environment, KeepsSections entry := by
  intro entry mem
  obtain ⟨setting, here, made⟩ := List.mem_filterMap.mp mem
  obtain ⟨keys, known, rfl⟩ := Option.map_eq_some_iff.mp made
  obtain ⟨sectionName, name, path⟩ := exists_child_of_mem_settingKeys (named _ here keys known)
  unfold KeepsSections Setting.KeepsSections
  rw [path]
  intro _
  rfl

end SchemaOutline.Settings

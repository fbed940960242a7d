import SchemaOutline.Proofs.Files.Tree
import SchemaOutline.Proofs.Json.Record
import SchemaOutline.Proofs.Schema.Reference
import SchemaOutline.Proofs.Settings.Override
import SchemaOutline.Proofs.Toml.Lines
import SchemaOutline.Settings.Save

/-!
# Saved settings load again

Settings that are saved and loaded are the settings they were, whatever texts are in them, where no
other source gives any. The settings of the panel are also read back from the JSON that is written
of them.

* `PanelSettings.read_toJson` — reading the JSON of the settings of the panel.
* `saved_readAs` — the lines of the file of settings.
* `parse_saved` — its entries.
* `NoOtherSource` — no other source gives anything.
* `load_saved` — what loads where a file of settings stands.
* `load_overwritten` — what loads after settings have been written over a file.
* `load_saving` — what loads after saving.
-/

namespace SchemaOutline

namespace Json

theorem readPort_portJson (s : PanelSettings) : readPort s.portJson = .ok s.port := by
  have small : (s.port.toNat : Int) < 65536 := by
    have := s.port.toNat_lt
    omega
  simp only [PanelSettings.portJson, readPort, Whole.ofNat, Int.natCast_nonneg, small, and_self,
    if_true, Int.toNat_natCast, UInt16.ofNat_toNat]

theorem readOption_option_path (path? : Option String) :
    readOption readPath (.option .text path?) = .ok path? := by
  cases path? <;> rfl

end Json

/-- **Reading the settings of the panel from the JSON of them** loses nothing. -/
theorem PanelSettings.read_toJson (s : PanelSettings) : read s.toJson = .ok s := by
  have port := Json.readPort_portJson s
  have extension := Json.readOption_option_path s.extensionPath
  refine Json.RecordRule.read_object rfl ?_
  refine Json.RecordRule.readEntries_cons (by decide) (Json.map_read port _) ?_
  refine Json.RecordRule.readEntries_cons (by decide) (Json.map_read rfl _) ?_
  exact Json.RecordRule.readEntries_cons (by decide) (Json.map_read extension _) rfl

namespace Settings

open Toml (Value quoted)
open Toml.Reader (IsBareKey Line ReadAs isBlank isBlank_of_isDigit quoted_eq_cons readAs_newline
  readAs_nil readAs_pair readAs_table value?_quoted value?_toDigits)

/-! ## The text of a file -/

section Lines

variable {key : String} {r : List Char} {lines : List Line}

theorem textLine_readAs (bare : IsBareKey key) (value : String) (others : ReadAs r lines) :
    ReadAs (textLine key value ++ r) (.pair [key] (.text value) :: lines) := by
  obtain ⟨quote, inner, made, either⟩ := quoted_eq_cons value.toList
  have open_ : isBlank quote = false := by
    obtain rfl | rfl := either <;> rfl
  have read := readAs_pair bare made open_ (fun bound => value?_quoted value.toList bound _) others
  rw [String.ofList_toList] at read
  simpa [textLine] using read

/-- The line of a text that may be absent. -/
def optionalPair (key : String) : Option String → List Line
  | some value => [.pair [key] (.text value)]
  | none => []

theorem optionalLine_readAs (bare : IsBareKey key) (value : Option String)
    (others : ReadAs r lines) :
    ReadAs (optionalLine key value ++ r) (optionalPair key value ++ lines) := by
  cases value with
  | none => exact others
  | some value => exact textLine_readAs bare value others

end Lines

/-- The lines of a file of settings. -/
def savedLines (s : Settings) : List Line :=
  .table ["schema"] :: (optionalPair "path" s.schemaPath ++
    .table ["candid_ui"] :: .pair ["port"] (.integer s.panel.port.toNat) ::
      .pair ["workspace_root"] (.text s.panel.workspaceRoot) ::
        optionalPair "extension_path" s.panel.extensionPath)

theorem saved_readAs (s : Settings) : ReadAs s.savedChars s.savedLines := by
  obtain ⟨c, x, made⟩ := List.exists_cons_of_ne_nil
    (Nat.toDigits_ne_nil (n := s.panel.port.toNat) (b := 10))
  have digit : Toml.Moment.isDigit c :=
    Toml.Moment.isDigit_of_mem_toDigits (n := s.panel.port.toNat) (made ▸ List.mem_cons_self)
  have small : s.panel.port.toNat ≤ 9223372036854775807 := by
    have := s.panel.port.toNat_lt
    omega
  -- each line is put in front of those behind it
  have extension := optionalLine_readAs (show IsBareKey "extension_path" by decide)
    s.panel.extensionPath readAs_nil
  have root := textLine_readAs (show IsBareKey "workspace_root" by decide)
    s.panel.workspaceRoot extension
  have panel := readAs_pair (show IsBareKey "port" by decide) made (isBlank_of_isDigit digit)
    (fun bound => value?_toDigits small bound _) root
  have header := readAs_newline (readAs_table (show IsBareKey "candid_ui" by decide) panel)
  have path := optionalLine_readAs (show IsBareKey "path" by decide) s.schemaPath header
  have all := readAs_table (show IsBareKey "schema" by decide) path
  have first : "[schema]\n".toList = '[' :: ("schema".toList ++ [']', '\n']) := rfl
  have second : "\n[candid_ui]\nport = ".toList =
      '\n' :: '[' :: ("candid_ui".toList ++ ']' :: '\n' :: ("port".toList ++ " = ".toList)) := rfl
  simp only [List.append_nil] at all
  unfold savedChars
  rewrite [first, second]
  simp only [List.append_assoc, List.cons_append, List.nil_append]
  exact all

/-! ## The entries of a file -/

/-- The entry of a text that may be absent. -/
def optionalEntry (key : String) : Option String → List (String × Value)
  | some value => [(key, .text value)]
  | none => []

/-- The entries of a file of settings. -/
def savedEntries (s : Settings) : List (String × Value) :=
  [("schema", .table (optionalEntry "path" s.schemaPath)),
    ("candid_ui", .table (("port", .integer s.panel.port.toNat) ::
      ("workspace_root", .text s.panel.workspaceRoot) ::
        optionalEntry "extension_path" s.panel.extensionPath))]

theorem parse_saved (s : Settings) : Toml.parse s.saved = some s.savedEntries := by
  have chars : Toml.Reader.skipMark s.saved.toList = s.savedChars := by
    rw [saved, String.toList_ofList]
    rfl
  unfold Toml.parse
  rw [chars]
  simp only [Option.bind_eq_bind]
  rw [saved_readAs s _ (Nat.lt_succ_self _)]
  unfold savedLines savedEntries
  cases s.schemaPath <;> cases s.panel.extensionPath <;> rfl

/-! ## The settings of a file -/

/-- The source that the file of settings is. -/
def savedSource (s : Settings) (origin : String) : List (String × Setting) :=
  Setting.ofTomlEntries origin s.savedEntries

/-- A text that may be absent, as a value of a source. -/
def textSetting (origin : String) (value : Option String) : Option Setting :=
  value.map fun text => .scalar (some origin) (.text text)

theorem keepsSections_savedSource (s : Settings) (origin : String) :
    ∀ entry ∈ s.savedSource origin, KeepsSections entry := by
  have schema : (KeyPath.ofText "schema").steps = [] := by decide +kernel
  have panel : (KeyPath.ofText "candid_ui").steps = [] := by decide +kernel
  intro entry mem
  simp only [savedSource, savedEntries, Setting.ofTomlEntries, List.mem_cons, List.not_mem_nil,
    or_false] at mem
  obtain rfl | rfl := mem
  · refine keepsSections_table schema ?_
    cases s.schemaPath <;> simp [optionalEntry, Setting.ofTomlEntries, Setting.ofToml,
      Setting.isTable]
  · refine keepsSections_table panel ?_
    cases s.panel.extensionPath <;> simp [optionalEntry, Setting.ofTomlEntries, Setting.ofToml,
      Setting.isTable]

/-- A table under a bare key gives the values of its entries to the section of that name. -/
theorem given_table {text : String} (bare : KeyPath.ofText text = ⟨text, []⟩)
    (lower : Text.lower text = text) (sectionName name : String) (origin : Option String)
    (entries : List (String × Setting)) :
    Setting.given sectionName name (KeyPath.ofText text) (.table origin entries) =
      if text = sectionName then Setting.valuesOf name entries else [] := by
  rw [bare, Setting.given, KeyPath.top]
  dsimp only
  rw [lower]
  rfl

/-- The values that a file of settings gives. -/
theorem givenBy_savedSource (s : Settings) (origin sectionName name : String) :
    givenBy sectionName name (s.savedSource origin) =
      (if "schema" = sectionName then
        Setting.valuesOf name (Setting.ofTomlEntries origin (optionalEntry "path" s.schemaPath))
        else []) ++
      if "candid_ui" = sectionName then
        Setting.valuesOf name (("port", .scalar (some origin) (.integer s.panel.port.toNat)) ::
          ("workspace_root", .scalar (some origin) (.text s.panel.workspaceRoot)) ::
            Setting.ofTomlEntries origin (optionalEntry "extension_path" s.panel.extensionPath))
        else [] := by
  have schema : KeyPath.ofText "schema" = ⟨"schema", []⟩ := by decide +kernel
  have panel : KeyPath.ofText "candid_ui" = ⟨"candid_ui", []⟩ := by decide +kernel
  simp only [givenBy, savedSource, savedEntries, Setting.ofTomlEntries, Setting.ofToml,
    List.flatMap_cons, List.flatMap_nil, List.append_nil]
  rw [given_table schema (by decide +kernel), given_table panel (by decide +kernel)]

theorem valuesOf_optionalEntry (origin key name : String) (value : Option String) :
    Setting.valuesOf name (Setting.ofTomlEntries origin (optionalEntry key value)) =
      if Text.lower key = name then (textSetting origin value).toList else [] := by
  cases value with
  | none => exact (ite_self _).symm
  | some text => exact Setting.valuesOf_cons name (key, .scalar (some origin) (.text text)) []

/-- A text that may be absent is what its value stands for. -/
theorem converted_textSetting (key origin : String) (value : Option String) :
    converted key toOptionalPath none (textSetting origin value).toList.getLast? = .ok value := by
  cases value <;> rfl

theorem converted_integer (key : String) (origin : Option String) (port : UInt16) :
    converted key toPort 8080 (some (.scalar origin (.integer port.toNat))) = .ok port := by
  have small : port.toNat < 65536 := port.toNat_lt
  simp only [converted, toPort, toNumber, Int.natCast_nonneg, if_true, Int.toNat_natCast]
  show (if port.toNat < 65536 then _ else _) = _
  rw [if_pos small]
  exact congrArg Except.ok UInt16.ofNat_toNat

/-- **What a file of settings says** stands for the settings. -/
theorem standsFor_savedSource (s : Settings) (origin : String) :
    StandsFor (fun sectionName name => (givenBy sectionName name (s.savedSource origin)).getLast?)
      s := by
  have path : Text.lower "path" = "path" := by decide +kernel
  have port : Text.lower "port" = "port" := by decide +kernel
  have root : Text.lower "workspace_root" = "workspace_root" := by decide +kernel
  have extension : Text.lower "extension_path" = "extension_path" := by decide +kernel
  refine ⟨?schemaPath, ?port, ?workspaceRoot, ?extensionPath⟩
  all_goals
    rw [givenBy_savedSource]
    simp only [Setting.valuesOf_cons, valuesOf_optionalEntry, path, port, root, extension,
      String.reduceEq, if_true, if_false, List.append_nil, List.nil_append]
  case schemaPath => exact converted_textSetting _ _ _
  case port => exact converted_integer _ _ _
  case workspaceRoot => rfl
  case extensionPath => exact converted_textSetting _ _ _

/-! ## Loading what was saved -/

/-- **No other source gives anything**: there is no file in the working directory, no file of the
user, and no variable that names a setting. -/
structure NoOtherSource (around : Surroundings) : Prop where
  defaults : ∀ name ∈ defaultFiles, find? around.files name = none
  user : ∀ home, around.configHome = some home →
    noUserFile around.files home ∨ find? around.files (userFile home) = none
  environment : ∀ entry ∈ around.environment, variableKeys? entry.1 = none

/-- What the sources give where only a file of settings gives any. -/
def savedLayers (s : Settings) (origin : String) : Layers where
  plain := []
  hidden := []
  inConfig := []
  user := []
  asked := s.savedSource origin
  environment := []

theorem keepsSections_savedLayers (s : Settings) (origin : String) :
    (s.savedLayers origin).KeepsSections := by
  intro entry mem
  refine keepsSections_savedSource s origin entry ?_
  simpa [Layers.all, savedLayers] using mem

theorem lastGiven_savedLayers (s : Settings) (origin sectionName name : String) :
    lastGiven sectionName name (s.savedLayers origin).all =
      (givenBy sectionName name (s.savedSource origin)).getLast? := by
  show List.findSome? _ [[], s.savedSource origin, [], [], [], []] = _
  rw [List.findSome?_cons_of_isNone rfl, List.findSome?_cons]
  cases (givenBy sectionName name (s.savedSource origin)).getLast? <;> rfl

theorem standsFor_savedLayers (s : Settings) (origin : String) :
    StandsFor (s.savedLayers origin).last? s :=
  (standsFor_savedSource s origin).congr fun sectionName _ name =>
    (lastGiven_savedLayers s origin sectionName name).symm

/-- A file of settings gives each key once. -/
theorem length_givenBy_savedSource_le_one (s : Settings) (origin : String) {sectionName : String}
    (known : sectionName ∈ sectionNames) (name : String) :
    (givenBy sectionName name (s.savedSource origin)).length ≤ 1 := by
  rw [givenBy_savedSource]
  simp only [sectionNames, List.mem_cons, List.not_mem_nil, or_false] at known
  obtain rfl | rfl := known
  · rw [if_pos rfl, if_neg (by decide), List.append_nil]
    refine length_valuesOf_le_one ?_ name
    cases s.schemaPath <;> simp [optionalEntry, Setting.ofTomlEntries]
  · have names : (["port", "workspace_root", "extension_path"].map Text.lower).Nodup := by
      decide +kernel
    rw [if_neg (by decide), if_pos rfl, List.nil_append]
    refine length_valuesOf_le_one ?_ name
    cases s.panel.extensionPath with
    | none =>
        have firstNames := names.sublist (List.take_sublist 2 _)
        simp only [optionalEntry, Setting.ofTomlEntries, List.map_cons, List.map_nil]
        exact firstNames
    | some path =>
        simp only [optionalEntry, Setting.ofTomlEntries, List.map_cons, List.map_nil]
        exact names

theorem noKeyTwice_savedLayers (s : Settings) (origin : String) :
    (s.savedLayers origin).NoKeyTwice := by
  intro entries source sectionName known name
  have source : entries = [] ∨ entries = s.savedSource origin ∨ entries = [] := by
    simpa [Layers.all, savedLayers] using source
  obtain rfl | rfl | rfl := source
  · exact Nat.zero_le 1
  · exact length_givenBy_savedSource_le_one s origin known name
  · exact Nat.zero_le 1

section Alone

variable {around : Surroundings} (alone : NoOtherSource around)

include alone

section Saved

variable (s : Settings) {path : String} (here : HasText around path path s.saved)

include here

/-- A file of settings is all that the sources give. -/
theorem readFrom_saved :
    Layers.ReadFrom around (some path) (s.savedLayers (originOf around.directory path)) := by
  have defaults : ∀ name ∈ defaultFiles, FileGives around name [] := fun name mem =>
    fileGives_nothing (alone.defaults name mem)
  have user : ∀ home, around.configHome = some home → UserGives around home [] := by
    intro home known
    rw [UserGives]
    split
    · rfl
    · next there =>
        obtain nothing | nowhere := alone.user home known
        · exact absurd nothing there
        · exact fileGives_nothing nowhere
  have silent : ofEnvironment around.environment = [] :=
    List.filterMap_eq_nil_iff.mpr fun entry mem =>
      Option.map_eq_none_iff.mpr (alone.environment entry mem)
  exact {
    plain := defaults _ (by simp [defaultFiles])
    hidden := defaults _ (by simp [defaultFiles])
    inConfig := defaults _ (by simp [defaultFiles])
    user
    noUser := fun _ => rfl
    asked := fun name asked => by
      cases asked
      exact ⟨_, _, _, here, parse_saved s, rfl⟩
    notAsked := fun none => absurd none (Option.some_ne_none path)
    environment := silent.symm }

/-- **Saved settings load again** where their file stands and no other source gives any, and in
whatever order its entries are put together no others do. -/
theorem load_saved :
    load around (some path) = .ok s ∧ ∀ s', MayLoad around (some path) s' → s' = s := by
  have read := sources_eq_ok_iff.mpr ⟨_, readFrom_saved alone s here, rfl⟩
  have keeps := keepsSections_savedLayers s (originOf around.directory path)
  have once := noKeyTwice_savedLayers s (originOf around.directory path)
  have loads : load around (some path) =
      ofValues (combine (s.savedLayers (originOf around.directory path)).all) := by
    unfold load
    rw [read]
    rfl
  have asWritten (s' : Settings) := ofValues_combine_iff keeps once (s := s')
    (List.forall₂_same.mpr fun entries _ => .self entries)
  rw [← loads] at asWritten
  have loaded := (asWritten s).mpr (standsFor_savedLayers s _)
  refine ⟨loaded, ?_⟩
  rintro s' ⟨given, taken, same, orders, values⟩
  rw [read] at same
  cases same
  have other := (asWritten s').mpr ((ofValues_combine_iff keeps once orders).mp values)
  exact Except.ok.inj (other.symm.trans loaded)

end Saved

/-- What other sources give does not change with files that are looked for nowhere else. -/
theorem noOtherSource_of_agree {files : Files}
    (isFile : ∀ place ∈ paths around.configHome none,
      files.isFile place = around.files.isFile place)
    (absent : ∀ home, around.configHome = some home → noUserFile around.files home →
      noUserFile files home) : NoOtherSource { around with files } := by
  have nowhere : ∀ name ∈ defaultFiles ++ (around.configHome.map userFile).toList,
      find? around.files name = none → find? files name = none := by
    intro name mem none
    rw [find?, List.find?_eq_none] at none ⊢
    intro place here
    rw [isFile place (List.mem_flatMap.mpr ⟨name, by simpa using mem, here⟩)]
    exact none place here
  refine ⟨fun name mem => ?_, fun home known => ?_, alone.environment⟩
  · exact nowhere name (List.mem_append_left _ mem) (alone.defaults name mem)
  · refine (alone.user home known).imp (absent home known) (nowhere _ ?_)
    rw [show around.configHome = some home from known]
    exact List.mem_append_right _ List.mem_cons_self

end Alone

/-! ### Files by their paths -/

/-- The surroundings after settings have been saved to a file. -/
def Surroundings.saving (around : Surroundings) (s : Settings) (path : String) : Surroundings :=
  { around with files := s.save around.files path }

theorem text_save (s : Settings) (files : Files) (path : String) :
    (s.save files path).text path = .ok s.saved :=
  Files.text_of_toUTF8 (if_pos rfl)

/-- A file that has a text is found where it is. -/
theorem hasText_of_text {around : Surroundings} {path text : String} (named : isToml path)
    (content : around.files.text path = .ok text) : HasText around path path text := by
  obtain ⟨bytes, there, -⟩ := Files.text_eq_ok_iff.mp content
  exact ⟨List.find?_cons_of_pos (Files.isFile_iff.mpr ⟨bytes, there⟩), named, content⟩

/-- The path of the file of the user is one of those that are looked at. -/
theorem mem_paths_userFile {configHome : Option String} {home : String}
    (known : configHome = some home) : userFile home ∈ paths configHome none := by
  refine List.mem_flatMap.mpr ⟨userFile home, ?_, List.mem_cons_self⟩
  simp [known]

/-- Saved settings load again and no others do, from any TOML file that is not looked for
elsewhere. -/
theorem load_saving_of_apart {around : Surroundings} (alone : NoOtherSource around) (s : Settings)
    {path : String} (named : isToml path) (apart : path ∉ paths around.configHome none) :
    load (around.saving s path) (some path) = .ok s ∧
      ∀ s', MayLoad (around.saving s path) (some path) s' → s' = s := by
  have elsewhere : ∀ place ∈ paths around.configHome none,
      s.save around.files path place = around.files place := by
    intro place mem
    refine if_neg ?_
    rintro rfl
    exact apart mem
  refine load_saved (noOtherSource_of_agree alone ?_ ?_) s
    (hasText_of_text named (text_save s around.files path))
  · intro place mem
    rw [Files.isFile, Files.isFile, elsewhere place mem]
  · intro home known nothing
    rw [noUserFile, elsewhere _ (mem_paths_userFile known)]
    exact nothing

/-! ### Files of a tree -/

theorem noUserFile_iff_absent {files : Files} {home : String} :
    noUserFile files home ↔ FileTree.Absent (files (userFile home)) := by
  unfold noUserFile FileTree.Absent
  cases files (userFile home) with
  | ok bytes => simp
  | error fault => cases fault <;> simp

/-- **Settings that are written over a file of a tree load again** and no others do, if none of the
paths that are looked at leads to that file. -/
theorem load_overwritten {around : Surroundings} {tree after : FileTree}
    (files : around.files = tree.view) (alone : NoOtherSource around) (s : Settings) {path : String}
    (named : isToml path)
    (apart : ∀ place ∈ paths around.configHome none, after.find place ≠ after.find path)
    (written : tree.overwrite? path s.saved.toUTF8 = .ok after) :
    load { around with files := after.view } (some path) = .ok s ∧
      ∀ s', MayLoad { around with files := after.view } (some path) s' → s' = s := by
  obtain ⟨read, file, found, same⟩ := FileTree.view_overwrite? written
  have elsewhere : ∀ place ∈ paths around.configHome none, tree.find place ≠ .ok file := by
    intro place mem leads
    exact apart place mem ((same.find_eq_ok_iff.mp leads).trans found.symm)
  refine load_saved (noOtherSource_of_agree alone ?_ ?_) s
    (hasText_of_text named (Files.text_of_toUTF8 read))
  · intro place mem
    rw [files]
    exact Files.isFile_congr fun bytes => same.view_eq_ok_iff (elsewhere place mem)
  · intro home known nothing
    rw [files, noUserFile_iff_absent] at nothing
    rw [noUserFile_iff_absent, same.absent_iff (elsewhere _ (mem_paths_userFile known))]
    exact nothing

/-! ## A file apart from all others -/

/-- The path of the file of the user ends with its name. -/
theorem userFile_eq_append (home : String) :
    ∃ before, (userFile home).toList = before ++ '/' :: "dfx-schemas.toml".toList := by
  have below : "dfx-schemas/dfx-schemas.toml".toList =
      "dfx-schemas".toList ++ '/' :: "dfx-schemas.toml".toList := rfl
  unfold userFile joinPath
  split
  · exact ⟨_, below⟩
  · refine ⟨home.toList ++ "dfx-schemas".toList, ?_⟩
    rw [String.toList_append, below, List.append_assoc]
  · refine ⟨(home ++ "/").toList ++ "dfx-schemas".toList, ?_⟩
    rw [String.toList_append, below, List.append_assoc]

theorem mem_segments_userFile (home : String) :
    "dfx-schemas.toml" ∈ segments (userFile home) := by
  obtain ⟨before, chars⟩ := userFile_eq_append home
  have last : "dfx-schemas.toml".toList ∈ (Text.segments '/' (userFile home).toList).tail := by
    rw [chars]
    exact Text.mem_tail_segments before (by decide)
  refine List.mem_filter.mpr ⟨?_, by decide⟩
  exact List.mem_map.mpr ⟨_, List.mem_of_mem_tail last, String.ofList_toList⟩

theorem length_le_intercalate (separator : String) {part : String} {parts : List String}
    (mem : part ∈ parts) : part.length ≤ (separator.intercalate parts).length := by
  induction parts with
  | nil => cases mem
  | cons first rest ih =>
      cases rest with
      | nil =>
          obtain rfl := List.mem_singleton.mp mem
          exact Nat.le_of_eq (congrArg String.length String.intercalate_singleton.symm)
      | cons second others =>
          rw [String.intercalate_cons_cons, String.length_append, String.length_append]
          obtain rfl | there := List.mem_cons.mp mem
          · omega
          · have := ih there
            omega

theorem length_le_originOf {path part : String} (mem : part ∈ segments path) :
    part.length ≤ (originOf none path).length := by
  have within := length_le_intercalate "/" mem
  unfold originOf
  split
  · exact within
  · rw [String.length_append]
    omega
  · next same => cases same

/-- The file of the user is not looked for where a file of a short name is. -/
theorem length_of_mem_places {home place : String} (mem : place ∈ places (userFile home)) :
    16 ≤ place.length := by
  obtain rfl | mem := List.mem_cons.mp mem
  · obtain ⟨before, chars⟩ := userFile_eq_append home
    rw [← String.length_toList, chars, List.length_append]
    show 16 ≤ before.length + 17
    omega
  · have within := length_le_originOf (mem_segments_userFile home)
    rw [Option.mem_toList, withToml?] at mem
    split at mem
    · cases mem
    · cases mem
    · obtain rfl := Option.some.inj mem
      rw [String.length_append]
      exact Nat.le_add_right_of_le within

theorem not_mem_paths (configHome : Option String) : "x.toml" ∉ paths configHome none := by
  intro mem
  obtain ⟨name, known, here⟩ := List.mem_flatMap.mp mem
  rw [Option.toList_none, List.append_nil] at known
  obtain default | user := List.mem_append.mp known
  · have apart : ∀ name ∈ defaultFiles, "x.toml" ∉ places name := by decide +kernel
    exact apart name default here
  · -- whatever directory it is in, the file of the user has a longer name
    obtain ⟨home, -, rfl⟩ := Option.map_eq_some_iff.mp (Option.mem_toList.mp user)
    have long := length_of_mem_places here
    revert long
    decide

/-- **Saving and loading is lossless**: whatever the settings are, they are the same once they have
been saved and loaded, where no other source gives any. -/
theorem load_saving {around : Surroundings} (alone : NoOtherSource around) (s : Settings) :
    load (around.saving s "x.toml") (some "x.toml") = .ok s :=
  (load_saving_of_apart alone s (by decide +kernel) (not_mem_paths around.configHome)).1

namespace Notebook

/-- A file that is overwritten, a directory for the settings of users without any, and variables
that name no setting. -/
def around : Surroundings where
  files := Files.ofList [("x.toml", .ok "port = ".toUTF8), ("schema.json", .ok "0".toUTF8)]
  environment := [("HOME", "/home/user"), ("DFX_SCHEMAS", "s.json")]
  configHome := some "/home/user/.config"

/-- Texts that need each kind of quotes. -/
def settings : Settings where
  schemaPath := some "C:\\new\tline\n'''\"\"\""
  panel := { port := 0, workspaceRoot := "", extensionPath := some "1979-05-27" }

theorem noOtherSource : NoOtherSource around where
  defaults := by decide +kernel
  user home known := by
    cases known
    exact .inl (by decide +kernel)
  environment := by decide +kernel

end Notebook

/-- What was in the file is gone, and the texts are texts. -/
theorem load_saving_notebook :
    NoOtherSource Notebook.around ∧
    load (Notebook.around.saving Notebook.settings "x.toml") (some "x.toml") =
      .ok Notebook.settings :=
  ⟨Notebook.noOtherSource, load_saving Notebook.noOtherSource Notebook.settings⟩

end Settings

end SchemaOutline

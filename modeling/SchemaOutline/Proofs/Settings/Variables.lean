import Mathlib
import SchemaOutline.Proofs.Number.Digits
import SchemaOutline.Proofs.Settings.RoundTrip

/-!
# Paths from variables

The text of a variable is read before it is known what it is for: as a truth value, as a whole
number, as any other number, and only then as a text. A path is printed from what it was read as, so
it need not be the text: a file of the name `007` becomes one of the name `7`. It stays as it is if
the text is what its value is printed as. The same text in a file stays as it is in any case, since
a TOML string is a text from the start.

* `Scalar.printed` — a value that is printed as a path.
* `StaysAsIs`, `printed_environmentValue_eq_iff` — the texts that are printed as they are.
* `KeyPath.Avoids` — paths that leave a key of a section alone.
* `at?_combine_of_only` — a key that one entry of the last source leads to.
* `PathSetting` — the settings that are paths.
* `pathSetting_of_variable` — what a variable and what a file gives for a path.
-/

namespace SchemaOutline

/-- A value as a path. -/
def Scalar.printed : Scalar → String
  | .bool b => if b then "true" else "false"
  | .integer n => String.ofList (Setting.words.integerChars n)
  | .float x => String.ofList x.plain
  | .text s => s

namespace Settings

theorem toPath_scalar (key : String) (origin : Option String) (x : Scalar) :
    toPath key (.scalar origin x) = .ok x.printed := by
  cases x with
  | bool b => cases b <;> rfl
  | _ => rfl

/-! ## Texts that stay as they are -/

/-- A whole number as it is printed: digits with no zero before another, or a minus sign before
digits of which the first is not zero. -/
def IsPrintedWhole (cs : List Char) : Prop :=
  ∃ digits, (∀ c ∈ digits, c.isDigit) ∧
    (cs = digits ∧ NoNeedlessZero digits ∨ cs = '-' :: digits ∧ digits.head? ≠ some '0')

/-- **A text stays as it is** if it is a truth value in small letters, a whole number without a plus
sign and without needless zeros, another number in the digits that are printed for it, or none of
these. -/
def StaysAsIs (t : String) : Prop :=
  match environmentValue t with
  | .bool b => t = if b then "true" else "false"
  | .integer _ => IsPrintedWhole t.toList
  | .float x => t.toList = x.plain
  | .text _ => True

/-- A text that spells a whole number is digits behind a sign, if it has one. -/
theorem exists_digits_of_integer? {t : String} {n : Int} (spells : integer? t = some n) :
    ∃ digits, digits ≠ [] ∧ (∀ c ∈ digits, c.isDigit) ∧
      (t.toList = digits ∧ n = Nat.ofDigitChars 10 digits 0 ∨
        t.toList = '+' :: digits ∧ n = Nat.ofDigitChars 10 digits 0 ∨
        t.toList = '-' :: digits ∧ n = -Nat.ofDigitChars 10 digits 0) := by
  have value {digits : List Char} {m : Nat} (read : (if digits ≠ [] ∧ digits.all Char.isDigit then
      some (Nat.ofDigitChars 10 digits 0) else none) = some m) :
      digits ≠ [] ∧ (∀ c ∈ digits, c.isDigit) ∧ m = Nat.ofDigitChars 10 digits 0 := by
    obtain ⟨⟨nonempty, all⟩, made⟩ := Option.ite_none_right_eq_some.mp read
    exact ⟨nonempty, List.all_eq_true.mp all, (Option.some.inj made).symm⟩
  unfold integer? at spells
  obtain ⟨spelled, -⟩ := Option.filter_eq_some_iff.mp spells
  -- the three cases: a minus sign, a plus sign, and no sign
  split at spelled
  all_goals
    obtain ⟨m, read, made⟩ := Option.bind_eq_some_iff.mp spelled
    obtain ⟨nonempty, all, rfl⟩ := value read
    refine ⟨_, nonempty, all, ?_⟩
    cases made
  · exact .inr (.inr ⟨by assumption, rfl⟩)
  · exact .inr (.inl ⟨by assumption, rfl⟩)
  · exact .inl ⟨rfl, rfl⟩

theorem integerChars_neg {m : Nat} (positive : 0 < m) :
    Setting.words.integerChars (-(m : Int)) = '-' :: Nat.toDigits 10 m := by
  obtain ⟨k, rfl⟩ := Nat.exists_eq_add_one_of_ne_zero positive.ne'
  rfl

section Digits

variable {digits : List Char} (all : ∀ c ∈ digits, c.isDigit)

include all

theorem isPrintedWhole_digits : IsPrintedWhole digits ↔ NoNeedlessZero digits := by
  constructor
  · rintro ⟨_, -, ⟨rfl, noZero⟩ | ⟨rfl, -⟩⟩
    · exact noZero
    · cases all '-' List.mem_cons_self
  · exact fun noZero => ⟨digits, all, .inl ⟨rfl, noZero⟩⟩

theorem isPrintedWhole_minus : IsPrintedWhole ('-' :: digits) ↔ digits.head? ≠ some '0' := by
  constructor
  · rintro ⟨_, others, ⟨rfl, -⟩ | ⟨same, noZero⟩⟩
    · cases others '-' List.mem_cons_self
    · rwa [(List.cons.inj same).2]
  · exact fun noZero => ⟨digits, all, .inr ⟨rfl, noZero⟩⟩

omit all in
theorem not_isPrintedWhole_plus : ¬ IsPrintedWhole ('+' :: digits) := by
  rintro ⟨_, others, ⟨rfl, -⟩ | ⟨same, -⟩⟩
  · cases others '+' List.mem_cons_self
  · cases (List.cons.inj same).1

/-- A minus sign stays where the digits behind it do not begin with zero. -/
theorem integerChars_neg_eq_iff (nonempty : digits ≠ []) :
    Setting.words.integerChars (-(Nat.ofDigitChars 10 digits 0 : Int)) = '-' :: digits ↔
      digits.head? ≠ some '0' := by
  have self := toDigits_ofDigitChars_eq_self_iff nonempty all
  rcases Nat.eq_zero_or_pos (Nat.ofDigitChars 10 digits 0) with zero | positive
  · -- there is no minus sign before zero
    rw [zero, Nat.toDigits_zero] at self
    rw [zero]
    refine iff_of_false (fun same => nomatch (List.cons.inj same).1) fun noZero => noZero ?_
    rw [← self.mpr fun head => absurd head noZero]
    rfl
  · rw [integerChars_neg positive, List.cons.injEq, and_iff_right rfl, self]
    constructor
    · intro noNeedless head
      rw [noNeedless head] at positive
      exact absurd positive (by decide)
    · exact fun noZero head => absurd head noZero

end Digits

/-- **Which whole numbers stay as they are.** -/
theorem integerChars_eq_iff {t : String} {n : Int} (spells : integer? t = some n) :
    Setting.words.integerChars n = t.toList ↔ IsPrintedWhole t.toList := by
  obtain ⟨digits, nonempty, all, ⟨text, rfl⟩ | ⟨text, rfl⟩ | ⟨text, rfl⟩⟩ :=
    exists_digits_of_integer? spells
  · rw [text, isPrintedWhole_digits all]
    exact toDigits_ofDigitChars_eq_self_iff nonempty all
  · rw [text]
    refine iff_of_false (fun same => ?_) not_isPrintedWhole_plus
    have plus : '+' ∈ Nat.toDigits 10 (Nat.ofDigitChars 10 digits 0) := by
      rw [show Nat.toDigits 10 _ = '+' :: digits from same]
      exact List.mem_cons_self
    cases Nat.isDigit_of_mem_toDigits (by decide) (by decide) plus
  · rw [text, isPrintedWhole_minus all, integerChars_neg_eq_iff all nonempty]

/-- Words for truth values, whole numbers and other numbers are tried in this order. -/
theorem environmentValue_cases (t : String) :
    (∃ b, environmentValue t = .bool b) ∨
    (∃ n, environmentValue t = .integer n ∧ integer? t = some n) ∨
    (∃ x, environmentValue t = .float x) ∨ environmentValue t = .text t := by
  unfold environmentValue
  split_ifs
  · exact .inl ⟨true, rfl⟩
  · exact .inl ⟨false, rfl⟩
  · cases integer? t with
    | some n => exact .inr (.inl ⟨n, rfl, rfl⟩)
    | none =>
        cases Extended64.ofText? t with
        | some x => exact .inr (.inr (.inl ⟨x, rfl⟩))
        | none => exact .inr (.inr (.inr rfl))

/-- **The texts that are printed as they are.** -/
theorem printed_environmentValue_eq_iff {t : String} :
    (environmentValue t).printed = t ↔ StaysAsIs t := by
  have chars {cs : List Char} : String.ofList cs = t ↔ cs = t.toList := by
    rw [← String.toList_inj, String.toList_ofList]
  unfold StaysAsIs
  rcases environmentValue_cases t with ⟨b, read⟩ | ⟨n, read, spells⟩ | ⟨x, read⟩ | read
  · rw [read]
    exact eq_comm
  · rw [read, Scalar.printed, chars]
    exact integerChars_eq_iff spells
  · rw [read, Scalar.printed, chars]
    exact eq_comm
  · rw [read]
    exact iff_of_true rfl trivial

end Settings

/-! ## Paths that leave a key alone -/

/-- **A path leaves a key of a section alone**: if it leads into the section, it goes on to another
key of it. -/
def KeyPath.Avoids (path : KeyPath) (sectionName name : String) : Prop :=
  path.top = sectionName →
    ∃ key rest, path.steps = .child key :: rest ∧ key ≠ name ∧ Text.lower key ≠ name

namespace Setting

/-- A value that is put elsewhere leaves the key as it is. -/
theorem at?_assign_of_avoids {path : KeyPath} {sectionName name : String}
    (avoids : path.Avoids sectionName name) (root value : Setting) :
    (root.assign path value).at? sectionName name = root.at? sectionName name := by
  by_cases own : path.top = sectionName
  · obtain ⟨key, rest, steps, other, otherLower⟩ := avoids own
    obtain ⟨first, _⟩ := path
    obtain rfl : _ = .child key :: rest := steps
    obtain rfl : first = sectionName := own
    cases rest with
    | nil =>
        have apart : name ≠ (KeyPath.mk key []).top := Ne.symm otherLower
        rw [at?, lookup_assign_child, Option.bind_some]
        exact (lookup_assign_of_ne apart _ value).trans (lookup_getD rfl root first name)
    | cons second more =>
        let path : KeyPath := ⟨first, .child key :: second :: more⟩
        have inner : (root.assign path value).entries.lookup first =
            some (.table _ (put key _ ((root.entries.lookup first).getD nothing).entries)) :=
          (lookup_put _ _ _ _).trans (if_pos rfl)
        rw [at?, inner, Option.bind_some]
        exact ((lookup_put _ _ _ _).trans (if_neg (Ne.symm other))).trans
          (lookup_getD rfl root first name)
  · rw [at?, lookup_assign_of_ne (Ne.symm own)]
    rfl

end Setting

namespace Settings

open Schema (bind_eq_ok_iff)
open Setting

section Avoids

variable {sectionName name : String}

theorem at?_assignAll_of_avoids {entries : List (String × Setting)}
    (avoid : ∀ entry ∈ entries, (KeyPath.ofText entry.1).Avoids sectionName name) (root : Setting) :
    (assignAll root entries).at? sectionName name = root.at? sectionName name := by
  induction entries generalizing root with
  | nil => rfl
  | cons entry rest ih =>
      obtain ⟨first, others⟩ := List.forall_mem_cons.mp avoid
      show (assignAll (root.assign (KeyPath.ofText entry.1) entry.2) rest).at? _ _ = _
      rw [ih others, at?_assign_of_avoids first]

/-- **The one entry that gives a value**: it gives one for a key of a section whatever was there,
and no other entry of its source leads there, and none of a later source. -/
theorem at?_combine_of_only {earlier later : List (List (String × Setting))}
    {entries others : List (String × Setting)} {entry : String × Setting} {v : Setting}
    (only : entries.Perm (entry :: others))
    (gives : ∀ root : Setting,
      (root.assign (KeyPath.ofText entry.1) entry.2).at? sectionName name = some v)
    (apart : ∀ other ∈ others, (KeyPath.ofText other.1).Avoids sectionName name)
    (avoid : ∀ other ∈ later.flatten, (KeyPath.ofText other.1).Avoids sectionName name) :
    (combine (earlier ++ entries :: later)).at? sectionName name = some v := by
  obtain ⟨before, after, rfl, behind⟩ := exists_append_of_perm_cons only
  have cut : (earlier ++ (before ++ entry :: after) :: later).flatten =
      (earlier.flatten ++ before) ++ entry :: (after ++ later.flatten) := by simp
  have apart : ∀ other ∈ after ++ later.flatten,
      (KeyPath.ofText other.1).Avoids sectionName name :=
    List.forall_mem_append.mpr ⟨fun other mem => apart other (behind other mem), avoid⟩
  rw [combine_eq_assignAll, cut, assignAll, List.foldl_append, List.foldl_cons]
  exact (at?_assignAll_of_avoids apart _).trans (gives _)

end Avoids

/-! ## Settings that are paths -/

/-- **The settings that are paths.** -/
inductive PathSetting where
  | schemaPath
  | workspaceRoot
  | extensionPath
  deriving DecidableEq

namespace PathSetting

/-- The section that a setting is in. -/
def sectionName : PathSetting → String
  | schemaPath => "schema"
  | workspaceRoot | extensionPath => "candid_ui"

/-- The name of a setting in its section. -/
def name : PathSetting → String
  | schemaPath => "path"
  | workspaceRoot => "workspace_root"
  | extensionPath => "extension_path"

/-- The key of a setting. -/
def key (k : PathSetting) : String :=
  k.sectionName ++ "." ++ k.name

/-- The variable of a setting. -/
def variableName : PathSetting → String
  | schemaPath => "DFX_SCHEMAS__SCHEMA__PATH"
  | workspaceRoot => "DFX_SCHEMAS__CANDID_UI__WORKSPACE_ROOT"
  | extensionPath => "DFX_SCHEMAS__CANDID_UI__EXTENSION_PATH"

/-- The path that settings have. -/
def of : PathSetting → Settings → Option String
  | schemaPath, s => s.schemaPath
  | workspaceRoot, s => some s.panel.workspaceRoot
  | extensionPath, s => s.panel.extensionPath

theorem ofText_sectionName (k : PathSetting) :
    KeyPath.ofText k.sectionName = ⟨k.sectionName, []⟩ := by
  cases k <;> decide +kernel

theorem ofText_key (k : PathSetting) :
    KeyPath.ofText k.key = ⟨k.sectionName, [.child k.name]⟩ := by
  cases k <;> decide +kernel

theorem lower_sectionName (k : PathSetting) : Text.lower k.sectionName = k.sectionName := by
  cases k <;> decide +kernel

theorem lower_name (k : PathSetting) : Text.lower k.name = k.name := by
  cases k <;> decide +kernel

theorem variableKeys?_variableName (k : PathSetting) :
    variableKeys? k.variableName = some k.key := by
  cases k <;> decide +kernel

end PathSetting

/-- A key of a section has a value only if the section is a table, and then a setting is read from
that value. -/
theorem exists_convert_of_at? {values v : Setting} {sectionName name record : String} {index : Nat}
    {p : Place} {α : Type} {convert : String → Setting → Except Fault α} {default a : α}
    (there : values.at? sectionName name = some v)
    (place : placeOf values sectionName record name index = .ok p)
    (read : p.read convert default = .ok a) : ∃ key, convert key v = .ok a := by
  obtain ⟨inner, isSection, own⟩ := Option.bind_eq_some_iff.mp there
  unfold placeOf at place
  rw [isSection] at place
  cases inner with
  | table origin entries =>
      cases place
      rw [read_eq_converted, show entries.lookup name = some v from own] at read
      exact ⟨_, read⟩
  | _ => cases own

theorem toOptionalPath_scalar (key : String) (origin : Option String) (x : Scalar) :
    toOptionalPath key (.scalar origin x) = .ok (some x.printed) := by
  show some <$> toPath key _ = _
  rw [toPath_scalar]
  rfl

/-- **A path is printed from the value of its key.** -/
theorem of_eq_printed {values : Setting} {s : Settings} {k : PathSetting} {origin : Option String}
    {x : Scalar} (loaded : ofValues values = .ok s)
    (there : values.at? k.sectionName k.name = some (.scalar origin x)) :
    k.of s = some x.printed := by
  unfold ofValues at loaded
  simp only [bind_eq_ok_iff] at loaded
  obtain ⟨_, schema, path, isPath, _, -, _, -, _, panel, root, isRoot, _, panel', extension,
    isExtension, made⟩ := loaded
  cases made
  cases k with
  | schemaPath =>
      obtain ⟨key, read⟩ := exists_convert_of_at? there schema isPath
      rw [toOptionalPath_scalar] at read
      exact (Except.ok.inj read).symm
  | workspaceRoot =>
      obtain ⟨key, read⟩ := exists_convert_of_at? there panel isRoot
      rw [toPath_scalar] at read
      exact congrArg some (Except.ok.inj read).symm
  | extensionPath =>
      obtain ⟨key, read⟩ := exists_convert_of_at? there panel' isExtension
      rw [toOptionalPath_scalar] at read
      exact (Except.ok.inj read).symm

/-! ## Variables and files -/

/-- A key of a source leads elsewhere: not to the path, and not to its section as a whole. -/
def PathSetting.LeadsElsewhere (k : PathSetting) (key : String) : Prop :=
  (KeyPath.ofText key).Avoids k.sectionName k.name

/-- A variable leaves a path alone: if it names a setting, its keys lead elsewhere. -/
def PathSetting.LeftAloneBy (k : PathSetting) (variableName : String) : Prop :=
  ∀ keys, variableKeys? variableName = some keys → k.LeadsElsewhere keys

theorem leadsElsewhere_ofEnvironment {k : PathSetting} {environment : List (String × String)}
    (alone : ∀ entry ∈ environment, k.LeftAloneBy entry.1) :
    ∀ entry ∈ ofEnvironment environment, k.LeadsElsewhere entry.1 := by
  intro entry mem
  obtain ⟨setting, here, made⟩ := List.mem_filterMap.mp mem
  obtain ⟨keys, known, rfl⟩ := Option.map_eq_some_iff.mp made
  exact alone setting here keys known

/-- In whatever order settings load, the file that is asked for comes before the environment and
all other sources before these. -/
theorem exists_layers_of_mayLoad {around : Surroundings} {explicit : Option String} {s : Settings}
    (may : MayLoad around explicit s) :
    ∃ l : Layers, l.ReadFrom around explicit ∧ ∃ earlier asked environment,
      EntriesReordered l.asked asked ∧ EntriesReordered l.environment environment ∧
      ofValues (combine (earlier ++ [asked, environment])) = .ok s := by
  obtain ⟨given, taken, read, orders, values⟩ := may
  obtain ⟨l, readFrom, rfl⟩ := sources_eq_ok_iff.mp read
  obtain _ | ⟨-, _ | ⟨-, _ | ⟨-, _ | ⟨-, _ | ⟨asked, _ | ⟨environment, _ | _⟩⟩⟩⟩⟩⟩ := orders
  exact ⟨l, readFrom, [_, _, _, _], _, _, asked, environment, values⟩

/-- **The entries of a file say that a path is a text**: it stands under the name of the path in the
table of the section, and nothing else in that table or in the file leads there. -/
def PathSetting.SaidBy (k : PathSetting) (t : String) (tree : List (String × Toml.Value)) : Prop :=
  ∃ entries siblings others,
    tree.Perm ((k.sectionName, .table entries) :: others) ∧
    entries.Perm ((k.name, .text t) :: siblings) ∧
    (∀ entry ∈ siblings, Text.lower entry.1 ≠ k.name) ∧
    ∀ entry ∈ others, k.LeadsElsewhere entry.1

theorem ofTomlEntries_eq_map (origin : String) (entries : List (String × Toml.Value)) :
    Setting.ofTomlEntries origin entries =
      entries.map fun entry => (entry.1, Setting.ofToml origin entry.2) := by
  induction entries with
  | nil =>
      unfold Setting.ofTomlEntries
      rfl
  | cons entry rest ih =>
      obtain ⟨key, v⟩ := entry
      unfold Setting.ofTomlEntries
      rw [ih, List.map_cons]

theorem ofTomlEntries_perm {entries others : List (String × Toml.Value)}
    (perm : entries.Perm others) (origin : String) :
    (Setting.ofTomlEntries origin entries).Perm (Setting.ofTomlEntries origin others) := by
  rw [ofTomlEntries_eq_map, ofTomlEntries_eq_map]
  exact perm.map _

/-- The keys that a file gives are those in its text. -/
theorem forall_keys_ofTomlEntries (P : String → Prop) {entries : List (String × Toml.Value)}
    (all : ∀ entry ∈ entries, P entry.1) (origin : String) :
    ∀ entry ∈ Setting.ofTomlEntries origin entries, P entry.1 := by
  rw [ofTomlEntries_eq_map]
  exact List.forall_mem_map.mpr all

/-- What a variable gives is among what the others give. -/
theorem ofEnvironment_perm_cons {variableName t keys : String}
    {environment others : List (String × String)}
    (set : environment.Perm ((variableName, t) :: others))
    (named : variableKeys? variableName = some keys) :
    (ofEnvironment environment).Perm
      ((keys, .scalar (some environmentOrigin) (environmentValue t)) :: ofEnvironment others) := by
  have own : ofEnvironment ((variableName, t) :: others) =
      (keys, .scalar (some environmentOrigin) (environmentValue t)) :: ofEnvironment others :=
    List.filterMap_cons_some (congrArg (Option.map fun keys =>
      (keys, Setting.scalar (some environmentOrigin) (environmentValue t))) named)
  rw [← own]
  exact set.filterMap _

section Loaded

variable {around : Surroundings} {s : Settings} {k : PathSetting} {t : String}

/-- The path of a variable is printed from what its text is read as. -/
theorem of_variable {explicit : Option String} {others : List (String × String)}
    {variableName : String} (set : around.environment.Perm ((variableName, t) :: others))
    (named : variableKeys? variableName = some k.key)
    (alone : ∀ other ∈ others, k.LeftAloneBy other.1) (may : MayLoad around explicit s) :
    k.of s = some (environmentValue t).printed := by
  obtain ⟨l, read, earlier, asked, environment, -, order, values⟩ := exists_layers_of_mayLoad may
  rw [read.environment] at order
  obtain ⟨v, rest, only, same, more⟩ := order.exists_perm_cons (ofEnvironment_perm_cons set named)
  obtain rfl := same.eq_of_flat rfl
  have there : (combine (earlier ++ [asked] ++ [environment])).at? k.sectionName k.name =
      some (.scalar (some environmentOrigin) (environmentValue t)) := by
    refine at?_combine_of_only only ?_ (more.forall_keys k.LeadsElsewhere ?_) nofun
    · intro root
      rw [k.ofText_key]
      exact at?_assign_child rfl k.lower_name root
    · exact leadsElsewhere_ofEnvironment alone
  rw [List.append_cons] at values
  exact of_eq_printed values there

/-- The path of the file that is asked for is the text in it. -/
theorem of_file {asked path text : String} {tree : List (String × Toml.Value)}
    (here : HasText around asked path text) (parsed : Toml.parse text = some tree)
    (said : k.SaidBy t tree) (alone : ∀ entry ∈ around.environment, k.LeftAloneBy entry.1)
    (may : MayLoad around (some asked) s) : k.of s = some t := by
  obtain ⟨l, read, earlier, inFile, environment, order, last, values⟩ :=
    exists_layers_of_mayLoad may
  obtain ⟨entries, siblings, others, top, inner, apart, avoid⟩ := said
  let origin := originOf around.directory path
  have asked : l.asked = Setting.ofTomlEntries origin tree := by
    have given := (givesToml_iff here).mp (read.asked _ rfl)
    obtain ⟨tree, same, made⟩ := ofText_eq_ok_iff.mp given
    rw [parsed] at same
    cases same
    exact made
  rw [asked] at order
  rw [read.environment] at last
  -- the table of the section, and the text in it
  obtain ⟨_, rest, only, same, more⟩ := order.exists_perm_cons (ofTomlEntries_perm top origin)
  obtain ⟨changed, rfl, inside⟩ := same.exists_of_table
  obtain ⟨v, rest', only', same', more'⟩ :=
    inside.exists_perm_cons (ofTomlEntries_perm inner origin)
  obtain rfl := same'.eq_of_flat rfl
  have there : (combine (earlier ++ [inFile, environment])).at? k.sectionName k.name =
      some (.scalar (some origin) (.text t)) := by
    refine at?_combine_of_only only ?_ (more.forall_keys k.LeadsElsewhere ?_) ?_
    · intro root
      rw [k.ofText_sectionName]
      have apart := forall_keys_ofTomlEntries (Text.lower · ≠ k.name) apart origin
      exact at?_assign_table rfl k.lower_name k.lower_sectionName only'
        (more'.forall_keys (Text.lower · ≠ k.name) apart) _ root
    · exact forall_keys_ofTomlEntries k.LeadsElsewhere avoid origin
    · rw [List.flatten_singleton]
      exact last.forall_keys k.LeadsElsewhere (leadsElsewhere_ofEnvironment alone)
  exact of_eq_printed values there

end Loaded

/-- **A path from a variable is what its text is printed as once it has been read**, whatever the
files give, as long as no other variable leads to it or its section. So it is the text itself for
those texts that stay as they are. A path from a file is the text in any case. Neither depends on
the order in which the entries of a source are put together. -/
theorem pathSetting_of_variable (k : PathSetting) :
    (∀ around explicit variableName t others s,
      around.environment.Perm ((variableName, t) :: others) →
      variableKeys? variableName = some k.key → (∀ other ∈ others, k.LeftAloneBy other.1) →
      MayLoad around explicit s →
      k.of s = some (environmentValue t).printed ∧ (k.of s = some t ↔ StaysAsIs t)) ∧
    ∀ around asked path text tree t s, HasText around asked path text →
      Toml.parse text = some tree → k.SaidBy t tree →
      (∀ entry ∈ around.environment, k.LeftAloneBy entry.1) →
      MayLoad around (some asked) s → k.of s = some t := by
  constructor
  · intro around explicit variableName t others s set named alone may
    have printed := of_variable set named alone may
    refine ⟨printed, ?_⟩
    rw [printed, Option.some.injEq, printed_environmentValue_eq_iff]
  · intro around asked path text tree t s here parsed said alone may
    exact of_file here parsed said alone may

namespace Lodge

/-- A lodge whose number is its path, in a variable behind another one of the section. -/
def around : Surroundings where
  files := Files.ofList []
  environment :=
    [("DFX_SCHEMAS__CANDID_UI__PORT", "9000"), ("DFX_SCHEMAS__CANDID_UI__WORKSPACE_ROOT", "007")]

def text : String :=
  "[candid_ui]\nport = 9000\nworkspace_root = \"007\"\n"

def tree : List (String × Toml.Value) :=
  [("candid_ui", .table [("port", .integer 9000), ("workspace_root", .text "007")])]

/-- The same lodge in a file. -/
def inFile : Surroundings where
  files := Files.ofList [("x.toml", .ok text.toUTF8)]

theorem parse_text : Toml.parse text = some tree := by cbv

theorem hasText : HasText inFile "x.toml" "x.toml" text :=
  ⟨by decide +kernel, by decide +kernel, rfl⟩

theorem load_around : load around none = .ok { panel := { port := 9000, workspaceRoot := "7" } } :=
  ok_of_toOption (by decide +kernel)

theorem load_inFile :
    load inFile (some "x.toml") = .ok { panel := { port := 9000, workspaceRoot := "007" } } :=
  ok_of_toOption (by decide +kernel)

theorem leftAloneBy_port :
    PathSetting.workspaceRoot.LeftAloneBy "DFX_SCHEMAS__CANDID_UI__PORT" := by
  have named : variableKeys? "DFX_SCHEMAS__CANDID_UI__PORT" = some "candid_ui.port" := by
    decide +kernel
  have path : KeyPath.ofText "candid_ui.port" = ⟨"candid_ui", [.child "port"]⟩ := by
    decide +kernel
  intro keys known
  rw [named] at known
  cases known
  rw [PathSetting.LeadsElsewhere, path]
  exact fun _ => ⟨"port", [], rfl, by decide, by decide +kernel⟩

theorem saidBy : PathSetting.workspaceRoot.SaidBy "007" tree := by
  have other : Text.lower "port" ≠ "workspace_root" := by decide +kernel
  exact ⟨_, [("port", .integer 9000)], [], .refl _, .swap _ _ _,
    List.forall_mem_singleton.mpr other, nofun⟩

end Lodge

/-- The number of a lodge does not stay as it is in a variable, and does in a file. -/
theorem pathSetting_of_variable_lodge :
    variableKeys? "DFX_SCHEMAS__CANDID_UI__WORKSPACE_ROOT" = some PathSetting.workspaceRoot.key ∧
    PathSetting.workspaceRoot.LeftAloneBy "DFX_SCHEMAS__CANDID_UI__PORT" ∧
    ¬ StaysAsIs "007" ∧
    (∃ s, load Lodge.around none = .ok s ∧
      PathSetting.workspaceRoot.of s = some (environmentValue "007").printed) ∧
    HasText Lodge.inFile "x.toml" "x.toml" Lodge.text ∧
    Toml.parse Lodge.text = some Lodge.tree ∧ PathSetting.workspaceRoot.SaidBy "007" Lodge.tree ∧
    ∃ s, load Lodge.inFile (some "x.toml") = .ok s ∧
      PathSetting.workspaceRoot.of s = some "007" := by
  have named := PathSetting.variableKeys?_variableName .workspaceRoot
  obtain ⟨fromVariable, fromFile⟩ := pathSetting_of_variable .workspaceRoot
  obtain ⟨printed, stays⟩ := fromVariable Lodge.around none _ "007" _ _ (.swap _ _ _) named
    (List.forall_mem_singleton.mpr Lodge.leftAloneBy_port) (mayLoad_of_load Lodge.load_around)
  have kept := fromFile Lodge.inFile "x.toml" "x.toml" _ _ "007" _ Lodge.hasText Lodge.parse_text
    Lodge.saidBy nofun (mayLoad_of_load Lodge.load_inFile)
  exact ⟨named, Lodge.leftAloneBy_port, fun asIs => absurd (stays.mpr asIs) (by decide),
    ⟨_, Lodge.load_around, printed⟩, Lodge.hasText, Lodge.parse_text, Lodge.saidBy,
    _, Lodge.load_inFile, kept⟩

/-- The path of a variable is not its text, where the same text in a file is. -/
theorem pathSetting_ne_lodge :
    Lodge.around.environment.lookup "DFX_SCHEMAS__CANDID_UI__WORKSPACE_ROOT" = some "007" ∧
    (∃ s, load Lodge.around none = .ok s ∧ s.panel.workspaceRoot = "7") ∧ "7" ≠ "007" ∧
    Toml.parse Lodge.text = some Lodge.tree ∧
    ∃ s, load Lodge.inFile (some "x.toml") = .ok s ∧ s.panel.workspaceRoot = "007" :=
  ⟨rfl, ⟨_, Lodge.load_around, rfl⟩, by decide, Lodge.parse_text, _, Lodge.load_inFile, rfl⟩

namespace Ferry

/-- Two variables that lead to one section, of which one makes a list of it. -/
def around : Surroundings where
  files := Files.ofList []
  environment :=
    [("DFX_SCHEMAS__CANDID_UI[0]", "5"), ("DFX_SCHEMAS__CANDID_UI__WORKSPACE_ROOT", "x")]

/-- The same variables the other way round. -/
def back : List (String × String) :=
  [("DFX_SCHEMAS__CANDID_UI__WORKSPACE_ROOT", "x"), ("DFX_SCHEMAS__CANDID_UI[0]", "5")]

end Ferry

/-- Where another variable leads to the section, it depends on the order what loads. -/
theorem mayLoad_ferry :
    MayLoad Ferry.around none { panel := { workspaceRoot := "x" } } ∧
    MayLoad Ferry.around none { panel := { port := 5 } } := by
  have there : load Ferry.around none = .ok { panel := { workspaceRoot := "x" } } :=
    ok_of_toOption (by decide +kernel)
  have back : load { Ferry.around with environment := Ferry.back } none =
      .ok { panel := { port := 5 } } :=
    ok_of_toOption (by decide +kernel)
  exact ⟨mayLoad_of_load there, mayLoad_of_perm (.swap _ _ _) back⟩

end Settings

end SchemaOutline

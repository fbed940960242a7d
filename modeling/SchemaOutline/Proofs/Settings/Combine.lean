import SchemaOutline.Settings.Load

/-!
# Values put together

The values of all sources are put together one after another, each where its key leads to. The key
of an entry spells a path. It leads to a section, whose value is a table that is merged into what is
there; or it leads to a key of a section, whose value takes the place of the one that is there. Any
other path into a section makes something else of it. As long as there is none, every key of a
section has the last value that was given for it, whatever was given for other keys.

* `KeyPath.top` — the key of the outermost table that a path begins with.
* `Setting.given` — the values that an entry gives for a key of a section.
* `Setting.KeepsSections` — an entry adds to the sections and makes nothing else of them.
* `Setting.at?` — the value of a key of a section.
* `Setting.at?_assign`, `Setting.sectionsKept_assign` — one value put where its key leads to.
* `Settings.lastGiven`, `Settings.at?_combine` — all values put together.
-/

namespace SchemaOutline

/-- The sections that settings are in. -/
def Settings.sectionNames : List String :=
  ["schema", "candid_ui"]

/-- The key of the outermost table that a path begins with. -/
def KeyPath.top (path : KeyPath) : String :=
  match path.steps with
  | [] => Text.lower path.first
  | _ => path.first

namespace Setting

/-- Whether a value is a table. -/
def isTable : Setting → Bool
  | table _ _ => true
  | _ => false

/-- The values that entries give for a key, in their order. -/
def valuesOf (name : String) (entries : List (String × Setting)) : List Setting :=
  (entries.filter fun entry => Text.lower entry.1 = name).map Prod.snd

/-- **The values that an entry gives for a key of a section**: those of that key in a table for the
section, or the value of the entry itself if its path leads to the key. -/
def given (sectionName name : String) (path : KeyPath) (value : Setting) : List Setting :=
  if path.top = sectionName then
    match path.steps with
    | [] => valuesOf name value.entries
    | [.child key] => if Text.lower key = name then [value] else []
    | _ => []
  else []

/-- **An entry adds to the sections.** If its path leads into one, it gives a table without tables
in it, or the value of a key of the section that is no table. -/
def KeepsSections (path : KeyPath) (value : Setting) : Prop :=
  path.top ∈ Settings.sectionNames →
    match path.steps with
    | [] => value.isTable ∧ ∀ entry ∈ value.entries, entry.2.isTable = false
    | [.child _] => value.isTable = false
    | _ => False

/-- The value of a key of a section. -/
def at? (root : Setting) (sectionName name : String) : Option Setting :=
  (root.entries.lookup sectionName).bind fun inner => inner.entries.lookup name

/-- Every section that is there is a table. -/
def SectionsKept (root : Setting) : Prop :=
  ∀ sectionName ∈ Settings.sectionNames, ∀ inner,
    root.entries.lookup sectionName = some inner → inner.isTable

/-! ## Merging -/

theorem lookup_put (key name : String) (value : Setting) (entries : List (String × Setting)) :
    (put key value entries).lookup name =
      if name = key then some value else entries.lookup name := by
  induction entries with
  | nil =>
      rw [put, List.lookup_cons]
      by_cases own : name = key
      · simp [own]
      · simp [own, beq_false_of_ne own]
  | cons entry rest ih =>
      obtain ⟨first, v⟩ := entry
      by_cases here : first = key
      · subst here
        rw [put, if_pos rfl, List.lookup_cons, List.lookup_cons]
        by_cases own : name = first
        · simp [own]
        · simp [own, beq_false_of_ne own]
      · rw [put, if_neg here, List.lookup_cons, ih, List.lookup_cons]
        by_cases own : name = first
        · subst own
          simp [here]
        · rw [beq_false_of_ne own]

theorem valuesOf_cons (name : String) (entry : String × Setting) (rest : List (String × Setting)) :
    valuesOf name (entry :: rest) =
      if Text.lower entry.1 = name then entry.2 :: valuesOf name rest else valuesOf name rest := by
  unfold valuesOf
  by_cases own : Text.lower entry.1 = name
  · rw [if_pos own, List.filter_cons_of_pos (by simpa using own), List.map_cons]
  · rw [if_neg own, List.filter_cons_of_neg (by simpa using own)]

/-- A first value counts where there is no later one. -/
theorem getLast?_cons_or {α : Type} (a : α) (rest : List α) (x : Option α) :
    (a :: rest).getLast?.or x = rest.getLast?.or (some a) := by
  rw [List.getLast?_cons]
  cases rest.getLast? <;> rfl

/-- A value that is no table takes the place of what was there. -/
theorem entries_merge {value : Setting} (flat : value.isTable = false) (key : String)
    (root : Setting) :
    (merge key value root).entries = put (Text.lower key) value root.entries := by
  cases value with
  | table origin entries => cases flat
  | _ =>
      unfold merge
      rfl

/-- A value under another key leaves a key of a table as it is. -/
theorem lookup_merge_of_ne {key name : String} (other : name ≠ Text.lower key)
    (value root : Setting) :
    (merge key value root).entries.lookup name = root.entries.lookup name := by
  cases value <;> unfold merge <;> exact (lookup_put _ _ _ _).trans (if_neg other)

theorem isTable_merge (key : String) (value root : Setting) : (merge key value root).isTable := by
  cases value <;> unfold merge <;> rfl

theorem isTable_mergeAll {target : Setting} (table : target.isTable)
    (incoming : List (String × Setting)) : (mergeAll incoming target).isTable := by
  induction incoming generalizing target with
  | nil =>
      unfold mergeAll
      exact table
  | cons entry rest ih =>
      unfold mergeAll
      exact ih (isTable_merge entry.1 entry.2 target)

/-- A key of a table that others were merged into has the last value they give for it, or else the
value it had. -/
theorem lookup_mergeAll {incoming : List (String × Setting)}
    (flat : ∀ entry ∈ incoming, entry.2.isTable = false) (target : Setting) (name : String) :
    (mergeAll incoming target).entries.lookup name =
      (valuesOf name incoming).getLast?.or (target.entries.lookup name) := by
  induction incoming generalizing target with
  | nil =>
      unfold mergeAll
      rfl
  | cons entry rest ih =>
      obtain ⟨first, others⟩ := List.forall_mem_cons.mp flat
      unfold mergeAll
      rw [ih others, entries_merge first, lookup_put, valuesOf_cons]
      by_cases own : Text.lower entry.1 = name
      · rw [if_pos own.symm, if_pos own, getLast?_cons_or]
      · rw [if_neg (Ne.symm own), if_neg own]

/-! ## One value -/

/-- What does not stand under the first key of a path stays as it is. -/
theorem lookup_assign_of_ne {path : KeyPath} {name : String} (other : name ≠ path.top)
    (root value : Setting) :
    (root.assign path value).entries.lookup name = root.entries.lookup name := by
  obtain ⟨first, steps⟩ := path
  cases steps with
  | nil => exact lookup_merge_of_ne other value root
  | cons step rest => exact (lookup_put _ _ _ _).trans (if_neg other)

/-- A table that is merged into a section stands there with what was there before. -/
theorem lookup_assign_table (first : String) (origin : Option String)
    (incoming : List (String × Setting)) (root : Setting) :
    (root.assign ⟨first, []⟩ (table origin incoming)).entries.lookup (Text.lower first) =
      some (mergeAll incoming
        ((root.entries.lookup (Text.lower first)).getD (table none []))) := by
  show (merge first (table origin incoming) root).entries.lookup _ = _
  unfold merge
  exact (lookup_put _ _ _ _).trans (if_pos rfl)

/-- A value with a path to a key of a section is merged into what was there before. -/
theorem lookup_assign_child (first key : String) (value root : Setting) :
    (root.assign ⟨first, [.child key]⟩ value).entries.lookup first =
      some (merge key value ((root.entries.lookup first).getD nothing)) := by
  show List.lookup first (put first (assignAt value [.child key] _) root.entries) = _
  rw [lookup_put, if_pos rfl, assignAt]

/-- Something without entries stands for a section that is not there. -/
theorem lookup_getD {other : Setting} (bare : other.entries = []) (root : Setting)
    (sectionName name : String) :
    ((root.entries.lookup sectionName).getD other).entries.lookup name =
      root.at? sectionName name := by
  unfold at?
  cases root.entries.lookup sectionName with
  | none =>
      rw [Option.getD_none, bare]
      rfl
  | some inner => rfl

/-- **One value put where its key leads to**: a key of a section has the last value that is given
for it, and where none is given the value it had. -/
theorem at?_assign {path : KeyPath} {value : Setting} (keeps : KeepsSections path value)
    {sectionName : String} (known : sectionName ∈ Settings.sectionNames) (root : Setting)
    (name : String) :
    (root.assign path value).at? sectionName name =
      (given sectionName name path value).getLast?.or (root.at? sectionName name) := by
  by_cases own : path.top = sectionName
  · subst own
    have shape := keeps known
    rw [given, if_pos rfl]
    obtain ⟨first, steps⟩ := path
    match steps with
    | [] =>
        obtain ⟨isTable, flat⟩ := shape
        cases value with
        | table origin incoming =>
            have flat : ∀ entry ∈ incoming, entry.2.isTable = false := flat
            show ((root.assign ⟨first, []⟩ (table origin incoming)).entries.lookup
                (Text.lower first)).bind _ =
              (valuesOf name incoming).getLast?.or (root.at? (Text.lower first) name)
            rw [lookup_assign_table, Option.bind_some, lookup_mergeAll flat, lookup_getD rfl]
        | _ => cases isTable
    | [.child key] =>
        rw [at?, KeyPath.top, lookup_assign_child, Option.bind_some, entries_merge shape,
          lookup_put, lookup_getD rfl]
        by_cases same : Text.lower key = name
        · rw [if_pos same.symm]
          simp [same]
        · rw [if_neg (Ne.symm same)]
          simp [same]
  · rw [at?, lookup_assign_of_ne (Ne.symm own), given, if_neg own]
    rfl

/-- Such a value leaves every section a table. -/
theorem sectionsKept_assign {path : KeyPath} {value root : Setting}
    (keeps : KeepsSections path value) (before : SectionsKept root) :
    SectionsKept (root.assign path value) := by
  intro sectionName known inner there
  by_cases own : path.top = sectionName
  · subst own
    have shape := keeps known
    obtain ⟨first, steps⟩ := path
    match steps with
    | [] =>
        obtain ⟨isTable, -⟩ := shape
        cases value with
        | table origin incoming =>
            rw [KeyPath.top, lookup_assign_table] at there
            cases there
            refine isTable_mergeAll ?_ incoming
            cases was : root.entries.lookup (Text.lower first) with
            | none => rfl
            | some target => exact before _ known target was
        | _ => cases isTable
    | [.child key] =>
        rw [KeyPath.top, lookup_assign_child] at there
        cases there
        exact isTable_merge key value _
  · rw [lookup_assign_of_ne (Ne.symm own)] at there
    exact before sectionName known inner there

end Setting

/-! ## All values -/

namespace Settings

open Setting

/-- Whether an entry adds to the sections, its key being a path. -/
def KeepsSections (entry : String × Setting) : Prop :=
  Setting.KeepsSections (KeyPath.ofText entry.1) entry.2

/-- The values that entries give for a key of a section, in their order. -/
def givenBy (sectionName name : String) (entries : List (String × Setting)) : List Setting :=
  entries.flatMap fun entry => given sectionName name (KeyPath.ofText entry.1) entry.2

/-- **The value that the last source gives for a key of a section**, of those that give one. -/
def lastGiven (sectionName name : String) (sources : List (List (String × Setting))) :
    Option Setting :=
  sources.reverse.findSome? fun entries => (givenBy sectionName name entries).getLast?

/-- Puts the values of entries where their keys lead to. -/
def assignAll (root : Setting) (entries : List (String × Setting)) : Setting :=
  entries.foldl (fun values (key, v) => values.assign (KeyPath.ofText key) v) root

theorem at?_assignAll {entries : List (String × Setting)}
    (keeps : ∀ entry ∈ entries, KeepsSections entry) {sectionName : String}
    (known : sectionName ∈ sectionNames) (root : Setting) (name : String) :
    (assignAll root entries).at? sectionName name =
      (givenBy sectionName name entries).getLast?.or (root.at? sectionName name) := by
  induction entries generalizing root with
  | nil => rfl
  | cons entry rest ih =>
      obtain ⟨first, others⟩ := List.forall_mem_cons.mp keeps
      show (assignAll (root.assign (KeyPath.ofText entry.1) entry.2) rest).at? _ _ = _
      rw [ih others, at?_assign first known, givenBy, givenBy, List.flatMap_cons,
        List.getLast?_append, Option.or_assoc]

theorem sectionsKept_assignAll {entries : List (String × Setting)}
    (keeps : ∀ entry ∈ entries, KeepsSections entry) {root : Setting}
    (before : SectionsKept root) : SectionsKept (assignAll root entries) := by
  induction entries generalizing root with
  | nil => exact before
  | cons entry rest ih =>
      obtain ⟨first, others⟩ := List.forall_mem_cons.mp keeps
      exact ih others (sectionsKept_assign first before)

theorem combine_eq_assignAll (sources : List (List (String × Setting))) :
    combine sources = assignAll (.table none []) sources.flatten := by
  unfold combine assignAll
  rw [List.foldl_flatten]

variable {sources : List (List (String × Setting))}

/-- **All values put together**: a key of a section has the value of the last source that gives
one. -/
theorem at?_combine (keeps : ∀ entry ∈ sources.flatten, KeepsSections entry) {sectionName : String}
    (known : sectionName ∈ sectionNames) (name : String) :
    (combine sources).at? sectionName name = lastGiven sectionName name sources := by
  have flat : givenBy sectionName name sources.flatten =
      sources.flatMap (givenBy sectionName name) := by
    rw [givenBy, List.flatten_eq_flatMap, List.flatMap_assoc]
    rfl
  rw [combine_eq_assignAll, at?_assignAll keeps known, flat, List.getLast?_flatMap]
  exact Option.or_none

theorem sectionsKept_combine (keeps : ∀ entry ∈ sources.flatten, KeepsSections entry) :
    SectionsKept (combine sources) := by
  rw [combine_eq_assignAll]
  refine sectionsKept_assignAll keeps ?_
  intro sectionName _ inner there
  cases there

end Settings

end SchemaOutline

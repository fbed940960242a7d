import Mathlib
import SchemaOutline.Proofs.Settings.Sources

/-!
# The order within a source

What a source gives is a table, and tables have no order. The entries of a source are put where
their keys lead to in whatever order they happen to be gone through, and so are those of a table
that is merged. Only the order of the sources is fixed. `load` goes through entries as they are
written, which is one of these orders. All of them give the same settings as long as no source
gives a key twice.

* `Setting.Reordered`, `Setting.EntriesReordered` — the same in another order, at every depth.
* `Settings.MayLoad` — the settings that load in some order.
* `Setting.EntriesReordered.exists_perm_cons` — one entry among others in another order.
* `Layers.NoKeyTwice` — no source gives a key of a section twice.
* `at?_combine_of_reordered` — then each key has the last value given for it in any order.
-/

namespace SchemaOutline

namespace Setting

/-- **The same value with the entries of its tables in another order**, at every depth of tables.
Lists are taken as they are, since nothing in them is merged. -/
inductive Reordered : Setting → Setting → Prop
  | self (v : Setting) : Reordered v v
  | table (origin : Option String) {entries moved changed : List (String × Setting)} :
      entries.Perm moved → List.Forall₂ (Prod.RProd Eq Reordered) moved changed →
      Reordered (table origin entries) (table origin changed)

/-- **The same entries in another order**, with their values in another order, too. -/
def EntriesReordered (entries changed : List (String × Setting)) : Prop :=
  ∃ moved, entries.Perm moved ∧ List.Forall₂ (Prod.RProd Eq Reordered) moved changed

theorem EntriesReordered.of_perm {entries moved : List (String × Setting)}
    (perm : entries.Perm moved) : EntriesReordered entries moved :=
  ⟨moved, perm, List.forall₂_same.mpr fun entry _ => .intro rfl (.self entry.2)⟩

theorem EntriesReordered.self (entries : List (String × Setting)) :
    EntriesReordered entries entries :=
  .of_perm (.refl entries)

theorem Reordered.exists_of_table {origin : Option String} {entries : List (String × Setting)}
    {v : Setting} (same : Reordered (.table origin entries) v) :
    ∃ changed, v = .table origin changed ∧ EntriesReordered entries changed := by
  cases same with
  | self => exact ⟨entries, rfl, .self entries⟩
  | table _ moved pairs => exact ⟨_, rfl, _, moved, pairs⟩

/-- A value that is no table has no other order. -/
theorem Reordered.eq_of_flat {v v' : Setting} (same : Reordered v v') (flat : v.isTable = false) :
    v' = v := by
  cases same with
  | self => rfl
  | table => cases flat

section Pairs

variable {entries changed : List (String × Setting)}

theorem eq_of_pairs_of_flat (pairs : List.Forall₂ (Prod.RProd Eq Reordered) entries changed)
    (flat : ∀ entry ∈ entries, entry.2.isTable = false) : changed = entries := by
  induction pairs with
  | nil => rfl
  | cons pair _ ih =>
      obtain ⟨first, others⟩ := List.forall_mem_cons.mp flat
      obtain ⟨rfl, same⟩ := pair
      rw [same.eq_of_flat first, ih others]

/-- Entries without tables among them are only moved. -/
theorem EntriesReordered.perm_of_flat (same : EntriesReordered entries changed)
    (flat : ∀ entry ∈ entries, entry.2.isTable = false) : entries.Perm changed := by
  obtain ⟨moved, perm, pairs⟩ := same
  rw [eq_of_pairs_of_flat pairs fun entry mem => flat entry (perm.mem_iff.mpr mem)]
  exact perm

/-- An entry among others is still there in another order, and so are the others. -/
theorem EntriesReordered.exists_perm_cons {rest : List (String × Setting)} {key : String}
    {v : Setting} (same : EntriesReordered entries changed)
    (only : entries.Perm ((key, v) :: rest)) :
    ∃ v' others, changed.Perm ((key, v') :: others) ∧ Reordered v v' ∧
      EntriesReordered rest others := by
  obtain ⟨moved, perm, pairs⟩ := same
  obtain ⟨cut, all, back⟩ := List.perm_comp_forall₂ (only.symm.trans perm) pairs
  obtain ⟨entry, others, pair, more, rfl⟩ := List.forall₂_cons_left_iff.mp all
  obtain ⟨rfl, value⟩ := pair
  exact ⟨_, others, back.symm, value, rest, .refl _, more⟩

/-- What holds of all keys still does. -/
theorem EntriesReordered.forall_keys (same : EntriesReordered entries changed) (P : String → Prop)
    (all : ∀ entry ∈ entries, P entry.1) : ∀ entry ∈ changed, P entry.1 := by
  obtain ⟨moved, perm, pairs⟩ := same
  have all : ∀ entry ∈ moved, P entry.1 := fun entry mem => all entry (perm.mem_iff.mpr mem)
  clear perm
  induction pairs with
  | nil => exact all
  | cons pair _ ih =>
      obtain ⟨first, others⟩ := List.forall_mem_cons.mp all
      obtain ⟨rfl, -⟩ := pair
      exact List.forall_mem_cons.mpr ⟨first, ih others⟩

end Pairs

/-! ## One entry among others -/

theorem mergeAll_append (first second : List (String × Setting)) (target : Setting) :
    mergeAll (first ++ second) target = mergeAll second (mergeAll first target) := by
  induction first generalizing target with
  | nil => simp only [List.nil_append, mergeAll]
  | cons entry rest ih => simp only [List.cons_append, mergeAll, ih]

theorem lookup_mergeAll_of_ne {name : String} {incoming : List (String × Setting)}
    (apart : ∀ entry ∈ incoming, Text.lower entry.1 ≠ name) (target : Setting) :
    (mergeAll incoming target).entries.lookup name = target.entries.lookup name := by
  induction incoming generalizing target with
  | nil =>
      unfold mergeAll
      rfl
  | cons entry rest ih =>
      obtain ⟨first, others⟩ := List.forall_mem_cons.mp apart
      rw [mergeAll, ih others, lookup_merge_of_ne first.symm]

/-- A list with one element and others is cut at that one. -/
theorem exists_append_of_perm_cons {α : Type} {l others : List α} {a : α}
    (only : l.Perm (a :: others)) :
    ∃ before after, l = before ++ a :: after ∧ ∀ b ∈ after, b ∈ others := by
  obtain ⟨before, after, rfl⟩ := List.append_of_mem (only.mem_iff.mpr List.mem_cons_self)
  have rest : (before ++ after).Perm others := (List.perm_middle.symm.trans only).cons_inv
  exact ⟨before, after, rfl, fun b mem => rest.mem_iff.mp (List.mem_append_right _ mem)⟩

section Only

variable {sectionName name : String} {v : Setting} (flat : v.isTable = false)
  (lower : Text.lower name = name)

include flat lower

/-- A key of a table that one of the entries is for has the value of that one. -/
theorem lookup_mergeAll_of_only {incoming others : List (String × Setting)}
    (only : incoming.Perm ((name, v) :: others))
    (apart : ∀ entry ∈ others, Text.lower entry.1 ≠ name) (target : Setting) :
    (mergeAll incoming target).entries.lookup name = some v := by
  obtain ⟨before, after, rfl, behind⟩ := exists_append_of_perm_cons only
  have apart : ∀ entry ∈ after, Text.lower entry.1 ≠ name := fun entry mem =>
    apart entry (behind entry mem)
  rw [mergeAll_append, mergeAll, lookup_mergeAll_of_ne apart, entries_merge flat, lower, lookup_put,
    if_pos rfl]

theorem at?_assign_child (root : Setting) :
    (root.assign ⟨sectionName, [.child name]⟩ v).at? sectionName name = some v := by
  rw [at?, lookup_assign_child, Option.bind_some, entries_merge flat, lower, lookup_put,
    if_pos rfl]

theorem at?_assign_table {entries others : List (String × Setting)}
    (bare : Text.lower sectionName = sectionName) (only : entries.Perm ((name, v) :: others))
    (apart : ∀ entry ∈ others, Text.lower entry.1 ≠ name) (origin : Option String)
    (root : Setting) :
    (root.assign ⟨sectionName, []⟩ (.table origin entries)).at? sectionName name = some v := by
  have inside := lookup_assign_table sectionName origin entries root
  rw [bare] at inside
  rw [at?, inside, Option.bind_some]
  exact lookup_mergeAll_of_only flat lower only apart _

end Only

end Setting

namespace Settings

open Setting
open Schema (bind_eq_ok_iff)

/-- **The settings that load in some order**: the entries of each source are put where they lead
to in any order, source after source. -/
def MayLoad (around : Surroundings) (explicit : Option String) (s : Settings) : Prop :=
  ∃ given taken, sources around explicit = .ok given ∧
    List.Forall₂ EntriesReordered given taken ∧ ofValues (combine taken) = .ok s

/-- Loading goes through the entries as they are written. -/
theorem mayLoad_of_load {around : Surroundings} {explicit : Option String} {s : Settings}
    (loaded : load around explicit = .ok s) : MayLoad around explicit s := by
  obtain ⟨given, read, values⟩ := bind_eq_ok_iff.mp loaded
  exact ⟨given, given, read, List.forall₂_same.mpr fun entries _ => .self entries, values⟩

/-- Variables have no order: what loads with them in another one may load. -/
theorem mayLoad_of_perm {around : Surroundings} {environment : List (String × String)}
    {explicit : Option String} {s : Settings} (perm : around.environment.Perm environment)
    (loaded : load { around with environment } explicit = .ok s) : MayLoad around explicit s := by
  obtain ⟨given, read, values⟩ := bind_eq_ok_iff.mp loaded
  obtain ⟨l, readFrom, rfl⟩ := sources_eq_ok_iff.mp read
  let own : Layers := { l with environment := ofEnvironment around.environment }
  have ownFrom : own.ReadFrom around explicit := { readFrom with environment := rfl }
  refine ⟨own.all, l.all, sources_eq_ok_iff.mpr ⟨own, ownFrom, rfl⟩, ?_, values⟩
  have named : EntriesReordered (ofEnvironment around.environment) l.environment := by
    rw [readFrom.environment]
    exact .of_perm (perm.filterMap _)
  exact .cons (.self _) (.cons (.self _) (.cons (.self _) (.cons (.self _) (.cons (.self _)
    (.cons named .nil)))))

/-! ## No key twice -/

/-- **No source gives a key twice**, in lower case. -/
def Layers.NoKeyTwice (l : Layers) : Prop :=
  ∀ entries ∈ l.all, ∀ sectionName ∈ sectionNames, ∀ name,
    (givenBy sectionName name entries).length ≤ 1

/-- Entries whose keys differ in lower case give each key once. -/
theorem length_valuesOf_le_one {entries : List (String × Setting)}
    (distinct : (entries.map fun entry => Text.lower entry.1).Nodup) (name : String) :
    (valuesOf name entries).length ≤ 1 := by
  have once := List.nodup_iff_count_le_one.mp distinct name
  rw [List.count, List.countP_map, List.countP_eq_length_filter] at once
  exact (List.length_map _).trans_le once

theorem length_given_table_le_one {path : KeyPath} {origin : Option String}
    {entries : List (String × Setting)} (bare : path.steps = [])
    (distinct : (entries.map fun entry => Text.lower entry.1).Nodup) (sectionName name : String) :
    (given sectionName name path (.table origin entries)).length ≤ 1 := by
  unfold given
  rw [bare]
  split
  · exact length_valuesOf_le_one distinct name
  · exact Nat.zero_le 1

/-- A value with a path to a key gives that key. -/
theorem length_given_child_le_one {path : KeyPath} {key : String}
    (leads : path.steps = [.child key]) (v : Setting) (sectionName name : String) :
    (given sectionName name path v).length ≤ 1 := by
  unfold given
  rw [leads]
  split
  · dsimp only
    split <;> simp
  · exact Nat.zero_le 1

section Entry

variable {path : KeyPath} {v v' : Setting}

/-- What adds to the sections does so in another order, and gives the same values. -/
theorem given_perm_of_reordered (keeps : Setting.KeepsSections path v) (same : Reordered v v') :
    Setting.KeepsSections path v' ∧ ∀ sectionName ∈ sectionNames, ∀ name,
      (given sectionName name path v).Perm (given sectionName name path v') := by
  by_cases known : path.top ∈ sectionNames
  · have shape := keeps known
    unfold Setting.KeepsSections given
    obtain ⟨first, steps⟩ := path
    match steps with
    | [] =>
        obtain ⟨isTable, flat⟩ := shape
        cases v with
        | table origin entries =>
            obtain ⟨changed, rfl, moved⟩ := same.exists_of_table
            have perm := moved.perm_of_flat flat
            refine ⟨fun _ => ⟨rfl, fun entry mem => flat entry (perm.mem_iff.mpr mem)⟩, ?_⟩
            intro sectionName _ name
            split
            · exact (perm.filter _).map _
            · exact .refl _
        | _ => cases isTable
    | [.child key] =>
        rw [same.eq_of_flat shape]
        exact ⟨fun _ => shape, fun _ _ _ => .refl _⟩
  · refine ⟨fun there => absurd there known, fun sectionName mem name => ?_⟩
    have other : path.top ≠ sectionName := fun own => known (own ▸ mem)
    rw [given, if_neg other, given, if_neg other]

end Entry

section Source

variable {entries changed : List (String × Setting)}

/-- There is one order of at most one value. -/
theorem eq_of_perm_of_length_le_one {α : Type} {l l' : List α} (perm : l.Perm l')
    (one : l.length ≤ 1) : l' = l := by
  obtain none | single := Nat.le_one_iff_eq_zero_or_eq_one.mp one
  · rw [List.length_eq_zero_iff.mp none] at perm ⊢
    exact perm.symm.eq_nil
  · obtain ⟨a, rfl⟩ := List.length_eq_one_iff.mp single
    exact List.perm_singleton.mp perm.symm

theorem givenBy_perm_of_reordered (keeps : ∀ entry ∈ entries, KeepsSections entry)
    (same : EntriesReordered entries changed) :
    (∀ entry ∈ changed, KeepsSections entry) ∧ ∀ sectionName ∈ sectionNames, ∀ name,
      (givenBy sectionName name entries).Perm (givenBy sectionName name changed) := by
  obtain ⟨moved, perm, pairs⟩ := same
  have keeps : ∀ entry ∈ moved, KeepsSections entry := fun entry mem =>
    keeps entry (perm.mem_iff.mpr mem)
  suffices (∀ entry ∈ changed, KeepsSections entry) ∧ ∀ sectionName ∈ sectionNames, ∀ name,
      (givenBy sectionName name moved).Perm (givenBy sectionName name changed) by
    obtain ⟨kept, gives⟩ := this
    exact ⟨kept, fun sectionName known name =>
      (perm.flatMap_right _).trans (gives sectionName known name)⟩
  clear perm
  induction pairs with
  | nil => exact ⟨keeps, fun _ _ _ => .refl _⟩
  | cons pair _ ih =>
      obtain ⟨first, others⟩ := List.forall_mem_cons.mp keeps
      obtain ⟨rfl, same⟩ := pair
      obtain ⟨keptFirst, givesFirst⟩ := given_perm_of_reordered first same
      obtain ⟨kept, gives⟩ := ih others
      refine ⟨List.forall_mem_cons.mpr ⟨keptFirst, kept⟩, fun sectionName known name => ?_⟩
      exact (givesFirst sectionName known name).append (gives sectionName known name)

end Source

section Sources

variable {given taken : List (List (String × Setting))}
  (same : List.Forall₂ EntriesReordered given taken)
  (keeps : ∀ entry ∈ given.flatten, KeepsSections entry)

include same keeps

theorem keepsSections_of_reordered : ∀ entry ∈ taken.flatten, KeepsSections entry := by
  induction same with
  | nil => exact keeps
  | cons first _ ih =>
      rw [List.flatten_cons, List.forall_mem_append] at keeps ⊢
      exact ⟨(givenBy_perm_of_reordered keeps.1 first).1, ih keeps.2⟩

omit same keeps in
theorem lastGiven_eq_findSome? (sectionName name : String)
    (sources : List (List (String × Setting))) :
    lastGiven sectionName name sources =
      (sources.map fun entries => (givenBy sectionName name entries).getLast?).reverse.findSome?
        id := by
  rw [← List.map_reverse, List.findSome?_map]
  rfl

/-- The last source that gives a key still does, with the same value if each gives it once. -/
theorem lastGiven_of_reordered {sectionName name : String} (known : sectionName ∈ sectionNames)
    (once : ∀ entries ∈ given, (givenBy sectionName name entries).length ≤ 1) :
    lastGiven sectionName name taken = lastGiven sectionName name given := by
  rw [lastGiven_eq_findSome?, lastGiven_eq_findSome?]
  congr 2
  induction same with
  | nil => rfl
  | cons first _ ih =>
      rw [List.flatten_cons, List.forall_mem_append] at keeps
      obtain ⟨one, others⟩ := List.forall_mem_cons.mp once
      obtain ⟨-, gives⟩ := givenBy_perm_of_reordered keeps.1 first
      rw [List.map_cons, List.map_cons, ih keeps.2 others,
        eq_of_perm_of_length_le_one (gives _ known name) one]

/-- **In any order a key has the last value given for it**, if no source gives it twice. -/
theorem at?_combine_of_reordered {sectionName name : String} (known : sectionName ∈ sectionNames)
    (once : ∀ entries ∈ given, (givenBy sectionName name entries).length ≤ 1) :
    (combine taken).at? sectionName name = lastGiven sectionName name given := by
  rw [at?_combine (keepsSections_of_reordered same keeps) known,
    lastGiven_of_reordered same keeps known once]

end Sources

end Settings

end SchemaOutline

import SchemaOutline.Proofs.Schema.Loading
import SchemaOutline.Proofs.Schema.Parts

/-!
# What a schema has from the value it is read from

The schema that a value is read as, and every schema inside it, is made of what stands somewhere
inside the value. So what one keyword of a schema has from the value of that keyword, every schema
inside has from the value of its own. Its literals are taken as they are, so they repeat no key if
the value repeats none; and then no name is declared twice among its properties.

* `Json.Hereditary` — what holds of a value holds of everything inside it.
* `Schema.Everywhere` — a property of a schema and of everything inside it.
* `Schema.Inherits` — a property that one keyword has from its value.
* `Schema.everywhere_of_read` — everything inside a schema that is read has it.
* `Schema.inherits_literals`, `Schema.inherits_names` — its literals and the names of its
  properties.
* `Document.everywhere_of_loadedFrom` — everything in a document that is loaded.
-/

namespace SchemaOutline

/-- **What holds of a list holds of its elements, and what holds of an object of its values.** -/
structure Json.Hereditary (Q : Json → Prop) : Prop where
  list : ∀ {elements}, Q (.list elements) → ∀ value ∈ elements, Q value
  object : ∀ {entries}, Q (.object entries) → ∀ entry ∈ entries, Q entry.2

theorem Json.Hereditary.get? {Q : Json → Prop} (hereditary : Hereditary Q) {value inner : Json}
    {key : String} (h : Q value) (found : value.get? key = some inner) : Q inner := by
  cases value with
  | object entries => exact hereditary.object h (key, inner) (mem_of_lookup found)
  | _ => cases found

theorem Json.hereditary_keysDistinct : Hereditary (fun value => value.keysDistinct) where
  list distinct := keysDistinct_list_iff.mp distinct
  object distinct := (keysDistinct_object_iff.mp distinct).2

namespace Schema

open Json (Hereditary)

/-- **A property of a schema and of every schema inside it.** -/
def Everywhere (P : Schema → Prop) (s : Schema) : Prop :=
  ∀ t : Schema, t.Inside s → P t

/-- **A property that one keyword has from its value**: it is up to the keyword, it holds without
it, and it holds once the keyword is read from a value that has what everything inside it has,
too. -/
structure Inherits (Q : Json → Prop) (P : Schema → Prop) (k : Keyword) : Prop where
  hereditary : Hereditary Q
  blank : P blank
  congr : ∀ {s t : Schema}, t.only k = s.only k → P s → P t
  read : ∀ {s t : Schema} {value : Json}, Q value → P s → readKeyword s k value = .ok t → P t

variable {Q : Json → Prop} {P : Schema → Prop} {k : Keyword} {s t : Schema}

theorem Inherits.readKeyword (inherits : Inherits Q P k) {l : Keyword} {value : Json} (h : Q value)
    (start : P s) (own : readKeyword s l value = .ok t) : P t := by
  by_cases same : l = k
  · subst same
    exact inherits.read h start own
  · exact inherits.congr ((readKeyword_eq_ok_iff.mp own).2 k (Ne.symm same)) start

theorem everywhere_intro (own : P s) (parts : ∀ t ∈ s.parts, t.Everywhere P) : s.Everywhere P := by
  intro t inside
  cases inside with
  | self => exact own
  | inner mem within => exact parts _ mem t within

theorem Everywhere.own (h : s.Everywhere P) : P s :=
  h s (.self s)

theorem Everywhere.part (h : s.Everywhere P) : ∀ t ∈ s.parts, t.Everywhere P :=
  fun _ mem u inside => h u (.inner mem inside)

theorem Inherits.everywhere_blank (inherits : Inherits Q P k) : Schema.blank.Everywhere P :=
  everywhere_intro inherits.blank (List.forall_mem_nil _)

/-- The schemas under a keyword. -/
def partsUnder (s : Schema) : Keyword → List Schema
  | .properties => s.namedProperties.map Prod.snd
  | .elements => s.elementSchemas
  | .values => s.valueSchemas
  | .anyOf => s.anyOf.getD []
  | .allOf => s.allOf.getD []
  | .oneOf => s.oneOf.getD []
  | .types | .literals | .required | .ref => []

theorem partsUnder_only (s : Schema) (k : Keyword) : (s.only k).partsUnder k = s.partsUnder k := by
  cases k <;> rfl

theorem mem_parts_iff_partsUnder : t ∈ s.parts ↔ ∃ k, t ∈ s.partsUnder k := by
  rw [mem_parts]
  constructor
  · rintro (⟨name, mem⟩ | mem | mem | mem | mem | mem)
    · exact ⟨.properties, List.mem_map.mpr ⟨(name, t), mem, rfl⟩⟩
    · exact ⟨.elements, mem⟩
    · exact ⟨.values, mem⟩
    · exact ⟨.anyOf, mem⟩
    · exact ⟨.allOf, mem⟩
    · exact ⟨.oneOf, mem⟩
  · rintro ⟨k, mem⟩
    cases k <;> simp_all [partsUnder]

/-- A schema with one keyword changed has a property everywhere if it has it itself and so have the
schemas under the keyword. -/
theorem Everywhere.of_keyword (h : s.Everywhere P)
    (others : ∀ l, l ≠ k → t.only l = s.only l) (own : P t)
    (parts : ∀ u ∈ t.partsUnder k, u.Everywhere P) : t.Everywhere P := by
  refine everywhere_intro own fun u mem => ?_
  obtain ⟨l, under⟩ := mem_parts_iff_partsUnder.mp mem
  by_cases here : l = k
  · exact parts u (here ▸ under)
  · rw [← partsUnder_only, others l here, partsUnder_only] at under
    exact h.part u (mem_parts_iff_partsUnder.mpr ⟨l, under⟩)

mutual

/-- **A schema that is read** has everywhere what everything inside its value has. -/
theorem everywhere_of_read (inherits : Inherits Q P k) {t : Schema} : (value : Json) → Q value →
    read value = .ok t → t.Everywhere P
  | .object entries, h, own => by
    rw [read] at own
    exact everywhere_of_readEntries inherits inherits.everywhere_blank entries
      (inherits.hereditary.object h) own
  | .list elements, h, own => by
    rw [read] at own
    exact everywhere_of_readElements inherits inherits.everywhere_blank _ _ elements
      (inherits.hereditary.list h) own
  | .null, _, own | .bool _, _, own | .whole _, _, own | .float _, _, own | .text _, _, own => by
    unfold read at own
    cases own

/-- So has a schema into which the entries of an object are read. -/
theorem everywhere_of_readEntries (inherits : Inherits Q P k) {s t : Schema}
    (start : s.Everywhere P) : (entries : List (String × Json)) →
    (∀ entry ∈ entries, Q entry.2) → readEntries s entries = .ok t → t.Everywhere P
  | [], _, own => by
    cases own
    exact start
  | (key, value) :: rest, h, own => by
    obtain ⟨first, others⟩ := List.forall_mem_cons.mp h
    rw [readEntries] at own
    cases known : Keyword.ofKey? key with
    | none =>
        rw [known] at own
        exact everywhere_of_readEntries inherits start rest others own
    | some l =>
        rw [known] at own
        obtain ⟨u, one, own⟩ := bind_eq_ok_iff.mp own
        have next := everywhere_of_readKeyword inherits start l value first one
        exact everywhere_of_readEntries inherits next rest others own

/-- So has a schema into which the elements of a list are read. -/
theorem everywhere_of_readElements (inherits : Inherits Q P k) {s t : Schema}
    (start : s.Everywhere P) (keywords : List Keyword) (length : Nat) : (elements : List Json) →
    (∀ value ∈ elements, Q value) → readElements keywords length s elements = .ok t →
    t.Everywhere P
  | [], _, own => by
    unfold readElements at own
    cases own
    exact start
  | value :: rest, h, own => by
    obtain ⟨first, others⟩ := List.forall_mem_cons.mp h
    unfold readElements at own
    cases keywords with
    | nil => cases own
    | cons l left =>
        obtain ⟨u, one, own⟩ := bind_eq_ok_iff.mp own
        have next := everywhere_of_readKeyword inherits start l value first one
        exact everywhere_of_readElements inherits next left length rest others own

/-- So has a schema into which a keyword is read. -/
theorem everywhere_of_readKeyword (inherits : Inherits Q P k) {s t : Schema}
    (start : s.Everywhere P) (l : Keyword) : (value : Json) → Q value →
    readKeyword s l value = .ok t → t.Everywhere P
  | .null, _, own => by
    unfold readKeyword at own
    cases own
    exact start
  | .text _, h, own => by
    refine start.of_keyword (readKeyword_eq_ok_iff.mp own).2
      (inherits.readKeyword h start.own own) ?_
    unfold readKeyword at own
    cases l <;> cases own <;> exact List.forall_mem_nil _
  | .bool _, h, own => by
    refine start.of_keyword (readKeyword_eq_ok_iff.mp own).2
      (inherits.readKeyword h start.own own) ?_
    unfold readKeyword at own
    cases l <;> cases own <;> exact List.forall_mem_nil _
  | .whole _, _, own => by
    unfold readKeyword at own
    cases own
  | .float _, _, own => by
    unfold readKeyword at own
    cases own
  | .object entries, h, own => by
    have values := inherits.hereditary.object h
    refine start.of_keyword (readKeyword_eq_ok_iff.mp own).2
      (inherits.readKeyword h start.own own) ?_
    cases l with
    | properties =>
        obtain ⟨named, all, rfl⟩ := readProperties_eq_ok_iff.mp own
        exact List.forall_mem_map.mpr (everywhere_of_readNamed inherits entries values all)
    | elements =>
        obtain ⟨each, one, rfl⟩ := readEach_eq_ok_iff.mp own
        exact List.forall_mem_singleton.mpr
          (everywhere_of_readEntries inherits inherits.everywhere_blank entries values one)
    | values =>
        obtain ⟨each, one, rfl⟩ := readValues_eq_ok_iff.mp own
        exact List.forall_mem_singleton.mpr
          (everywhere_of_readEntries inherits inherits.everywhere_blank entries values one)
    | _ =>
        unfold readKeyword at own
        cases own
  | .list elements, h, own => by
    have values := inherits.hereditary.list h
    refine start.of_keyword (readKeyword_eq_ok_iff.mp own).2
      (inherits.readKeyword h start.own own) ?_
    cases l with
    | elements =>
        -- a list is read as one schema with its keywords by their places if it is no tuple
        cases all : readAll elements with
        | ok schemas =>
            rw [readTuple_eq all] at own
            cases own
            exact everywhere_of_readAll inherits elements values all
        | error fault =>
            have other : ∀ schemas, readAll elements ≠ .ok schemas := by simp [all]
            obtain ⟨each, one, rfl⟩ := (readPlaces_eq_ok_iff other).mp own
            rw [read] at one
            have place := everywhere_of_readElements inherits inherits.everywhere_blank _ _ elements
              values one
            exact List.forall_mem_singleton.mpr place
    | values =>
        obtain ⟨each, one, rfl⟩ := readValuePlaces_eq_ok_iff.mp own
        rw [read] at one
        have place := everywhere_of_readElements inherits inherits.everywhere_blank _ _ elements
          values one
        exact List.forall_mem_singleton.mpr place
    | anyOf | allOf | oneOf =>
        obtain ⟨schemas, all, rfl⟩ := (readBranches_eq_ok_iff (by decide)).mp own
        exact everywhere_of_readAll inherits elements values all
    | properties =>
        unfold readKeyword at own
        cases own
    | types | literals | required | ref => exact List.forall_mem_nil _

/-- So has each schema of a list. -/
theorem everywhere_of_readAll (inherits : Inherits Q P k) {schemas : List Schema} :
    (elements : List Json) → (∀ value ∈ elements, Q value) → readAll elements = .ok schemas →
    ∀ t ∈ schemas, t.Everywhere P
  | [], _, all => by
    cases all
    exact List.forall_mem_nil _
  | value :: rest, h, all => by
    obtain ⟨here, others⟩ := List.forall_mem_cons.mp h
    obtain ⟨t, first, all⟩ := bind_eq_ok_iff.mp all
    obtain ⟨tail, later, made⟩ := bind_eq_ok_iff.mp all
    cases made
    exact List.forall_mem_cons.mpr ⟨everywhere_of_read inherits value here first,
      everywhere_of_readAll inherits rest others later⟩

/-- So has each schema under a name. -/
theorem everywhere_of_readNamed (inherits : Inherits Q P k) {named : List (String × Schema)} :
    (entries : List (String × Json)) → (∀ entry ∈ entries, Q entry.2) →
    readNamed entries = .ok named → ∀ entry ∈ named, entry.2.Everywhere P
  | [], _, all => by
    cases all
    exact List.forall_mem_nil _
  | (name, value) :: rest, h, all => by
    obtain ⟨here, others⟩ := List.forall_mem_cons.mp h
    obtain ⟨t, first, all⟩ := bind_eq_ok_iff.mp all
    obtain ⟨tail, later, made⟩ := bind_eq_ok_iff.mp all
    cases made
    exact List.forall_mem_cons.mpr ⟨everywhere_of_read inherits value here first,
      everywhere_of_readNamed inherits rest others later⟩

end

/-! ## Literals and names -/

/-- **The literals of a schema are in a set**, and so are those of every schema inside it. -/
def LiteralsIn (Q : Json → Prop) (s : Schema) : Prop :=
  ∀ t : Schema, t.Inside s → ∀ literal ∈ t.literalValues, Q literal

/-- Literals are elements of a list in the value. -/
theorem inherits_literals (hereditary : Hereditary Q) :
    Inherits Q (fun s => ∀ literal ∈ s.literalValues, Q literal) .literals where
  hereditary := hereditary
  blank := List.forall_mem_nil _
  congr := by
    intro s t same start
    have literals := congrArg literalValues same
    show ∀ literal ∈ (t.only .literals).literalValues, Q literal
    rw [literals]
    exact start
  read := by
    intro s t value h start own
    unfold readKeyword at own
    cases value with
    | null => cases own; exact start
    | list elements => cases own; exact hereditary.list h
    | _ => cases own

/-- **The names of the properties that a schema declares are distinct.** -/
def DistinctNames (s : Schema) : Prop :=
  (s.namedProperties.map Prod.fst).Nodup

/-- The names of properties are the keys of an object in the value. -/
theorem inherits_names : Inherits (fun value => value.keysDistinct) DistinctNames .properties where
  hereditary := Json.hereditary_keysDistinct
  blank := List.nodup_nil
  congr := by
    intro s t same start
    have named := congrArg namedProperties same
    show ((t.only .properties).namedProperties.map Prod.fst).Nodup
    rw [named]
    exact start
  read := by
    intro s t value distinct start own
    cases value with
    | null =>
        unfold readKeyword at own
        cases own
        exact start
    | object entries =>
        obtain ⟨named, all, rfl⟩ := readProperties_eq_ok_iff.mp own
        show (named.map Prod.fst).Nodup
        rw [map_fst_of_readNamed all]
        exact (Json.keysDistinct_object_iff.mp distinct).1
    | _ =>
        unfold readKeyword at own
        cases own

end Schema

/-! ## Documents -/

namespace Json

mutual

/-- A value that repeats no key repeats none without `format`. -/
theorem keysDistinct_stripped (keys : Keys) : (value : Json) → value.keysDistinct →
    (value.stripped keys).keysDistinct
  | object entries, distinct => by
    obtain ⟨fresh, values⟩ := keysDistinct_object_iff.mp distinct
    exact keysDistinct_object_iff.mpr ⟨nodup_strippedEntries keys fresh,
      keysDistinct_strippedEntries keys entries values⟩
  | list elements, distinct =>
    keysDistinct_list_iff.mpr
      (keysDistinct_strippedElements elements (keysDistinct_list_iff.mp distinct))
  | null, _ | bool _, _ | whole _, _ | float _, _ | text _, _ => rfl

theorem keysDistinct_strippedElements : (elements : List Json) →
    (∀ value ∈ elements, value.keysDistinct) →
    ∀ value ∈ strippedElements elements, value.keysDistinct
  | [], _ => List.forall_mem_nil _
  | value :: rest, distinct => by
    obtain ⟨first, others⟩ := List.forall_mem_cons.mp distinct
    exact List.forall_mem_cons.mpr
      ⟨keysDistinct_stripped .keywords value first, keysDistinct_strippedElements rest others⟩

theorem keysDistinct_strippedEntries (keys : Keys) : (entries : List (String × Json)) →
    (∀ entry ∈ entries, entry.2.keysDistinct) →
    ∀ entry ∈ strippedEntries keys entries, entry.2.keysDistinct
  | [], _ => List.forall_mem_nil _
  | (key, value) :: rest, distinct => by
    obtain ⟨first, others⟩ := List.forall_mem_cons.mp distinct
    have later := keysDistinct_strippedEntries keys rest others
    rw [strippedEntries]
    split
    · exact later
    · exact List.forall_mem_cons.mpr ⟨keysDistinct_stripped (keys.under key) value first, later⟩

end

end Json

namespace Document

variable {value : Json} {d : Document} {Q : Json → Prop} {P : Schema → Prop} {k : Keyword}

/-- **Everything in a document that is loaded** has what everything inside its value has. -/
theorem everywhere_of_loadedFrom (inherits : Schema.Inherits Q P k) (h : Q value.withoutFormat)
    (loaded : LoadedFrom value d) :
    d.root.Everywhere P ∧ ∀ entry ∈ d.definitions, entry.2.Everywhere P := by
  refine ⟨Schema.everywhere_of_read inherits _ h loaded.root, ?_⟩
  have definitions := loaded.definitions
  unfold readDefinitions at definitions
  cases there : value.withoutFormat.get? "definitions" with
  | none =>
      rw [there] at definitions
      rw [← Except.ok.inj definitions]
      exact List.forall_mem_nil _
  | some inner =>
      rw [there] at definitions
      have inside : Q inner := inherits.hereditary.get? h there
      cases inner with
      | object entries =>
          exact Schema.everywhere_of_readNamed inherits entries (inherits.hereditary.object inside)
            definitions
      | _ => cases definitions

/-- The literals of a document that is loaded have what everything inside its value has. -/
theorem literalsIn_of_loadedFrom (hereditary : Json.Hereditary Q) (h : Q value.withoutFormat)
    (loaded : LoadedFrom value d) :
    d.root.LiteralsIn Q ∧ ∀ entry ∈ d.definitions, entry.2.LiteralsIn Q :=
  everywhere_of_loadedFrom (Schema.inherits_literals hereditary) h loaded

/-- No schema in a document that is loaded declares a property twice. -/
theorem distinctNames_of_loadedFrom (distinct : value.keysDistinct) (loaded : LoadedFrom value d) :
    d.root.Everywhere Schema.DistinctNames ∧
      ∀ entry ∈ d.definitions, entry.2.Everywhere Schema.DistinctNames :=
  everywhere_of_loadedFrom Schema.inherits_names
    (Json.keysDistinct_stripped .keywords value distinct) loaded

end Document

end SchemaOutline

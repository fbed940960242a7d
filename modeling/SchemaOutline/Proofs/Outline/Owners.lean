import Mathlib.Data.List.Nodup
import SchemaOutline.Proofs.Json.Spelling
import SchemaOutline.Proofs.Outline.Names
import SchemaOutline.Proofs.Schema.Reference

/-!
# The property of a definition

A definition belongs to the first top-level property whose JSON text has the name of the definition
in it, and the definition of a property is the first one that belongs to it. The two searches run
against each other: a property has no definition if earlier properties have all the names of its
text, so no definition is that of two properties.

The text is searched for the name as it is, while a reference in the text is spelled as JSON. So a
reference is found if the name stands in its own spelling, and may be missed if it does not.

* `IsFirst` — the first element of a list with a property.
* `Json.Mentions`, `Json.MentionsFirst` — a name in the text of a value, and in none before it.
* `Document.owner?_eq_some_iff` — the property of a definition.
* `Document.AssociatesDefinitions` — the definitions of properties.
* `Document.associatesDefinitions_of_load` — those of every document that loads.
* `Json.RefersTo` — a reference to a definition somewhere in a value.
* `Document.exists_owner_of_reference` — a definition that is referred to has a property.
-/

namespace SchemaOutline

/-- **The first element of a list with a property.** -/
def IsFirst {α : Type} (P : α → Prop) (xs : List α) (x : α) : Prop :=
  P x ∧ ∃ before after, xs = before ++ x :: after ∧ ∀ earlier ∈ before, ¬ P earlier

theorem find?_eq_some_iff_isFirst {α : Type} {test : α → Bool} {P : α → Prop}
    (decides : ∀ a, test a = true ↔ P a) {xs : List α} {x : α} :
    xs.find? test = some x ↔ IsFirst P xs x := by
  simp only [IsFirst, List.find?_eq_some_iff_append, Bool.not_eq_true', ← Bool.not_eq_true, decides]

namespace Json

/-- The name of a definition stands in the JSON text of a value. -/
def Mentions (node : Json) (name : String) : Prop :=
  name.toList <:+: node.compact.toList

/-- A value has a name in its text, and none of those before it has. -/
def MentionsFirst (before : List (String × Json)) (node : Json) (name : String) : Prop :=
  node.Mentions name ∧ ∀ earlier ∈ before, ¬ earlier.2.Mentions name

theorem occursIn_iff_mentions {node : Json} {name : String} :
    Text.occursIn name.toList (node.chars .compact 0) = true ↔ node.Mentions name := by
  rw [Text.occursIn_iff, Mentions, compact, String.toList_ofList]

instance (node : Json) (name : String) : Decidable (node.Mentions name) :=
  decidable_of_iff _ occursIn_iff_mentions

end Json

namespace Document

variable {d : Document}

/-! ## The property of a definition -/

/-- The first property with a name in its text. -/
theorem owner?_propertyTexts (d : Document) (name : String) :
    owner? d.propertyTexts name = (d.rawProperties.find? fun entry =>
      Text.occursIn name.toList (entry.2.chars .compact 0)).map Prod.fst := by
  rw [owner?, propertyTexts, List.find?_map, Option.map_map]
  rfl

/-- **A definition belongs to the first property with its name in its text.** -/
theorem owner?_eq_some_iff {name property : String} :
    owner? d.propertyTexts name = some property ↔ ∃ before node after,
      d.rawProperties = before ++ (property, node) :: after ∧ node.MentionsFirst before name := by
  have decides (entry : String × Json) :
      Text.occursIn name.toList (entry.2.chars .compact 0) = true ↔ entry.2.Mentions name :=
    Json.occursIn_iff_mentions
  rw [owner?_propertyTexts, Option.map_eq_some_iff]
  simp only [find?_eq_some_iff_isFirst decides]
  constructor
  · rintro ⟨⟨_, node⟩, ⟨mentions, before, after, cut, others⟩, rfl⟩
    exact ⟨before, node, after, cut, mentions, others⟩
  · rintro ⟨before, node, after, cut, mentions, others⟩
    exact ⟨(property, node), ⟨mentions, before, after, cut, others⟩, rfl⟩

/-- Where no two properties have one name, the place of a property in the list is known. -/
theorem owner?_eq_some_iff_mentionsFirst {before after : List (String × Json)} {property : String}
    {node : Json} (distinct : (d.rawProperties.map Prod.fst).Nodup)
    (cut : d.rawProperties = before ++ (property, node) :: after) {name : String} :
    owner? d.propertyTexts name = some property ↔ node.MentionsFirst before name := by
  rw [owner?_eq_some_iff]
  constructor
  · rintro ⟨before', node', after', cut', mentions⟩
    have elsewhere : property ∉ (before ++ after).map Prod.fst := by
      rw [cut, List.map_append, List.map_cons, List.nodup_middle, ← List.map_append] at distinct
      exact (List.nodup_cons.mp distinct).1
    have notMem {part : List (String × Json)} (inside : part ⊆ before ++ after) :
        (property, node') ∉ part :=
      fun mem => elsewhere (List.mem_map_of_mem (inside mem))
    obtain ⟨rfl, same, -⟩ := (List.append_cons_inj_of_notMem
      (notMem (List.subset_append_left ..)) (notMem (List.subset_append_right ..))).mp
      (cut.symm.trans cut')
    obtain ⟨-, rfl⟩ := Prod.mk.inj same
    exact mentions
  · exact fun mentions => ⟨before, node, after, cut, mentions⟩

/-! ## The definition of a property -/

/-- The definition of a property is the first one that belongs to it. -/
theorem definitionFor?_ofDocument (d : Document) (property : String) :
    (Outline.ofDocument d).definitionFor? property =
      (d.definitions.find? fun entry => owner? d.propertyTexts entry.1 == some property).map
        fun entry => d.record entry.1 entry.2 := by
  show d.indexDefinitions.find? _ = _
  rw [indexDefinitions, List.find?_map]
  rfl

/-- A property has the definition of a name only if it is the property of that name. -/
theorem owner?_of_definitionFor? {property : String} {record : Definition}
    (found : (Outline.ofDocument d).definitionFor? property = some record) :
    owner? d.propertyTexts record.name = some property := by
  rw [definitionFor?_ofDocument] at found
  obtain ⟨⟨name, s⟩, first, rfl⟩ := Option.map_eq_some_iff.mp found
  exact beq_iff_eq.mp (List.find?_some first :)

/-- **Which definitions properties have**: the first one with a name that is in the text of the
property and of none before it, if there is one. No definition is that of two properties, and what
is no property has none. -/
structure AssociatesDefinitions (d : Document) : Prop where
  eq_some_iff : ∀ before property node after record,
    d.rawProperties = before ++ (property, node) :: after →
    ((Outline.ofDocument d).definitionFor? property = some record ↔
      ∃ name s, IsFirst (fun entry => node.MentionsFirst before entry.1) d.definitions (name, s) ∧
        record = d.record name s)
  eq_none_iff : ∀ before property node after,
    d.rawProperties = before ++ (property, node) :: after →
    ((Outline.ofDocument d).definitionFor? property = none ↔
      ∀ name ∈ d.definitions.map Prod.fst, node.Mentions name →
        ∃ earlier ∈ before, earlier.2.Mentions name)
  unique : ∀ property other record record',
    (Outline.ofDocument d).definitionFor? property = some record →
    (Outline.ofDocument d).definitionFor? other = some record' →
    record.name = record'.name → property = other
  eq_none_of_not_mem : ∀ name, name ∉ d.properties.map Prod.fst →
    (Outline.ofDocument d).definitionFor? name = none

theorem associatesDefinitions_of_loadedFrom {value : Json} (loaded : LoadedFrom value d)
    (distinct : value.keysDistinct) : d.AssociatesDefinitions := by
  have names : d.rawProperties.map Prod.fst = d.properties.map Prod.fst :=
    (names_rawProperties loaded).trans (names_properties loaded distinct).symm
  have nodup : (d.rawProperties.map Prod.fst).Nodup := by
    rw [names_rawProperties loaded]
    exact Json.nodup_namesUnder distinct "properties"
  have decides {before after : List (String × Json)} {property : String} {node : Json}
      (cut : d.rawProperties = before ++ (property, node) :: after) (entry : String × Schema) :
      (owner? d.propertyTexts entry.1 == some property) = true ↔
        node.MentionsFirst before entry.1 := by
    rw [beq_iff_eq, owner?_eq_some_iff_mentionsFirst nodup cut]
  constructor
  · intro before property node after record cut
    rw [definitionFor?_ofDocument, Option.map_eq_some_iff]
    simp only [find?_eq_some_iff_isFirst (decides cut)]
    constructor
    · rintro ⟨⟨name, s⟩, first, rfl⟩
      exact ⟨name, s, first, rfl⟩
    · rintro ⟨name, s, first, rfl⟩
      exact ⟨(name, s), first, rfl⟩
  · intro before property node after cut
    simp only [definitionFor?_ofDocument, Option.map_eq_none_iff, List.find?_eq_none, decides cut,
      Json.MentionsFirst, not_and, not_forall, not_not, exists_prop, List.forall_mem_map]
  · intro property other record record' first second same
    have owner := owner?_of_definitionFor? first
    rw [same, owner?_of_definitionFor? second] at owner
    exact (Option.some.inj owner).symm
  · intro name noProperty
    by_contra found
    obtain ⟨record, found⟩ := Option.ne_none_iff_exists'.mp found
    obtain ⟨before, node, after, cut, -⟩ := owner?_eq_some_iff.mp (owner?_of_definitionFor? found)
    rw [← names, cut] at noProperty
    simp at noProperty

/-- **The properties of every document that loads have these definitions**, from a value that
repeats no key and from any text. -/
theorem associatesDefinitions_of_load :
    (∀ value d, value.keysDistinct → ofJson value = .ok d → d.AssociatesDefinitions) ∧
    ∀ text d, ofText text = .ok d → d.AssociatesDefinitions := by
  constructor
  · intro value d distinct loaded
    exact associatesDefinitions_of_loadedFrom (loadedFrom_of_ofJson loaded) distinct
  · intro text d loaded
    obtain ⟨value, parsed, loaded⟩ := ofText_eq_ok loaded
    exact associatesDefinitions_of_loadedFrom (loadedFrom_of_ofJson loaded)
      (Json.keysDistinct_of_parse parsed)

end Document

namespace Orchestra

def link (name : String) : Json :=
  .object [("$ref", .text (Document.reference name))]

def json : Json :=
  .object
    [("properties", .object
      [("strings", link "ViolinCase"), ("solo", link "Violin"),
        ("beat", link "Drum")]),
      ("definitions", .object
        [("Drum", .object []), ("Violin", .object []), ("ViolinCase", .object [])])]

/-- An orchestra whose violins have their name inside the name of their cases. -/
def document : Document where
  raw := json
  root :=
    { properties := some
        [("strings", .reference "#/definitions/ViolinCase"),
          ("solo", .reference "#/definitions/Violin"), ("beat", .reference "#/definitions/Drum")] }
  definitions := [("Drum", {}), ("Violin", {}), ("ViolinCase", {})]

theorem ofJson_json : Document.ofJson json = .ok document := rfl

theorem keysDistinct_json : json.keysDistinct := by decide

theorem ofText_compact : Document.ofText json.compact = .ok document := by
  rw [Document.ofText_compact keysDistinct_json rfl]
  exact ofJson_json

end Orchestra

/-- In an orchestra the cases have the violins for a definition, the solo has none, and neither has
what does not play. -/
theorem Document.associatesDefinitions_of_load_orchestra :
    Orchestra.json.keysDistinct ∧ ofJson Orchestra.json = .ok Orchestra.document ∧
    ofText Orchestra.json.compact = .ok Orchestra.document ∧
    Orchestra.document.AssociatesDefinitions ∧
    (Outline.ofDocument Orchestra.document).definitionFor? "strings" =
      some (Orchestra.document.record "Violin" {}) ∧
    (Outline.ofDocument Orchestra.document).definitionFor? "solo" = none ∧
    (Outline.ofDocument Orchestra.document).definitionFor? "tuba" = none := by
  obtain ⟨fromValue, fromText⟩ := associatesDefinitions_of_load
  have answers := fromValue _ _ Orchestra.keysDistinct_json Orchestra.ofJson_json
  have strings : (Orchestra.link "ViolinCase").Mentions "Violin" := by decide
  have noDrum : ¬ (Orchestra.link "ViolinCase").Mentions "Drum" := by decide
  refine ⟨Orchestra.keysDistinct_json, Orchestra.ofJson_json, Orchestra.ofText_compact,
    fromText _ _ Orchestra.ofText_compact, ?_, ?_, answers.eq_none_of_not_mem "tuba" (by decide)⟩
  · refine (answers.eq_some_iff [] "strings" _ _ _ rfl).mpr ⟨"Violin", {}, ⟨⟨strings, ?_⟩, ?_⟩, rfl⟩
    · exact fun _ mem => nomatch mem
    · exact ⟨[("Drum", {})], [("ViolinCase", {})], rfl,
        List.forall_mem_singleton.mpr fun first => noDrum first.1⟩
  · exact (answers.eq_none_iff [("strings", Orchestra.link "ViolinCase")] "solo" _ _ rfl).mpr
      (by decide)

/-! ## References to definitions -/

/-- **A value refers to the definition of a name**: somewhere in it, however deep inside, is an
object with the usual reference to the definition. -/
def Json.RefersTo (node : Json) (name : String) : Prop :=
  ∃ place object, node.at? place = some object ∧
    object.get? "$ref" = some (.text (Document.reference name))

namespace Document

variable {d : Document}

/-- The JSON text of the usual reference to the definition of a name, with its key. -/
def referenceChars (name : String) : List Char :=
  Json.quoted "$ref" ++ ':' :: Json.quoted (reference name)

/-- A value that refers to a definition has the text of the reference in its text. -/
theorem infix_referenceChars {node : Json} {name : String} (refers : node.RefersTo name) :
    referenceChars name <:+: node.compact.toList := by
  obtain ⟨place, object, there, ref⟩ := refers
  obtain ⟨depth, inside⟩ := Json.infix_chars_of_at? .compact 0 there
  rw [Json.compact, String.toList_ofList]
  cases object with
  | object entries => exact (Json.infix_chars_object (Json.mem_of_lookup ref)).trans inside
  | _ => cases ref

/-- A name that stands in its spelling stands in the text of a reference to it. -/
theorem infix_referenceChars_of_writtenAsIs {name : String}
    (written : Json.WrittenAsIs name.toList) : name.toList <:+: referenceChars name := by
  have link : Json.quoted (reference name) = '"' ::
      (Json.spelled "#/definitions/".toList ++ Json.spelled name.toList ++ ['"']) := by
    rw [← Json.spelled_append, ← String.toList_append]
    rfl
  refine (Json.infix_spelled_of_writtenAsIs written).trans ?_
  rw [referenceChars, link]
  exact ⟨Json.quoted "$ref" ++ ':' :: '"' :: Json.spelled "#/definitions/".toList, ['"'], by simp⟩

/-- A property with the name of a definition in its text is the property of the definition, unless
an earlier one is. -/
theorem exists_owner_of_mentions {before after : List (String × Json)} {property : String}
    {node : Json} {name : String} (cut : d.rawProperties = before ++ (property, node) :: after)
    (mentions : node.Mentions name) :
    ∃ owner ∈ before.map Prod.fst ++ [property], owner? d.propertyTexts name = some owner := by
  have occurs : Text.occursIn name.toList (node.chars .compact 0) = true :=
    Json.occursIn_iff_mentions.mpr mentions
  rw [owner?_propertyTexts, cut, List.find?_append, List.find?_cons, occurs]
  cases first : before.find? fun entry =>
      Text.occursIn name.toList (entry.2.chars .compact 0) with
  | none => exact ⟨property, List.mem_append_right _ (List.mem_singleton_self property), rfl⟩
  | some entry =>
      have early : entry.1 ∈ before.map Prod.fst :=
        List.mem_map_of_mem (List.mem_of_find?_eq_some first)
      exact ⟨entry.1, List.mem_append_left _ early, rfl⟩

/-- **Every definition that is referred to has a property**, as long as its name stands in the text
of the reference as it is: the property with the reference or one before it. -/
theorem exists_owner_of_reference :
    (∀ (d : Document) before property node after name,
      d.rawProperties = before ++ (property, node) :: after → node.RefersTo name →
      name ∈ d.definitions.map Prod.fst → name.toList <:+: referenceChars name →
      ∃ record owner, (Outline.ofDocument d).definition? name = some record ∧
        record.mainProperty = some owner ∧ owner ∈ before.map Prod.fst ++ [property]) ∧
    ∀ name, Json.WrittenAsIs name.toList → name.toList <:+: referenceChars name := by
  refine ⟨?_, fun name => infix_referenceChars_of_writtenAsIs⟩
  intro d before property node after name cut refers defined written
  obtain ⟨s, found⟩ := Option.isSome_iff_exists.mp (isSome_lookup_iff.mpr defined)
  obtain ⟨owner, early, owns⟩ :=
    exists_owner_of_mentions cut (written.trans (infix_referenceChars refers))
  refine ⟨d.record name s, owner, ?_, owns, early⟩
  rw [Outline.definition?_ofDocument, definition?, found, Option.map_some]

end Document

namespace Theatre

def act : Json :=
  .object [("$ref", .text (Document.reference "Act \"One\""))]

def stage : Json :=
  .object [("items", .list [.object [("$ref", .text (Document.reference "Scene"))]])]

def json : Json :=
  .object
    [("properties", .object [("curtain", act), ("stage", stage)]),
      ("definitions", .object [("Act \"One\"", .object []), ("Scene", .object [])])]

/-- A theatre with a definition that has quotes in its name, and one that has none. -/
def document : Document where
  raw := json
  root :=
    { properties := some
        [("curtain", .reference "#/definitions/Act \"One\""),
          ("stage", { elements := some (.tuple [.reference "#/definitions/Scene"]) })] }
  definitions := [("Act \"One\"", {}), ("Scene", {})]

theorem ofJson_json : Document.ofJson json = .ok document := rfl

end Theatre

/-- The scenes of a theatre, whose name is written without quotes, have the stage for a property. -/
theorem Document.exists_owner_of_reference_theatre :
    Theatre.document.rawProperties = [("curtain", Theatre.act)] ++ [("stage", Theatre.stage)] ∧
    Theatre.stage.RefersTo "Scene" ∧ Json.WrittenAsIs "Scene".toList ∧
    ∃ record owner, (Outline.ofDocument Theatre.document).definition? "Scene" = some record ∧
      record.mainProperty = some owner ∧ owner ∈ ["curtain", "stage"] := by
  obtain ⟨found, written⟩ := exists_owner_of_reference
  have refers : Theatre.stage.RefersTo "Scene" := ⟨.index (.key .whole "items") 0, _, rfl, rfl⟩
  have plain : Json.WrittenAsIs "Scene".toList :=
    ⟨0, [], "Scene".toList, 0, rfl, .inl rfl, List.all_eq_true.mp (by decide)⟩
  exact ⟨rfl, refers, plain, found Theatre.document [("curtain", Theatre.act)] "stage" _ [] "Scene"
    rfl refers (by decide) (written _ plain)⟩

/-- The first act of a theatre has no property, though the curtain refers to it. -/
theorem Document.reference_missed_theatre :
    ofJson Theatre.json = .ok Theatre.document ∧
    Theatre.document.rawProperties.lookup "curtain" = some Theatre.act ∧
    Theatre.act.RefersTo "Act \"One\"" ∧
    ∃ record, (Outline.ofDocument Theatre.document).definition? "Act \"One\"" = some record ∧
      record.mainProperty = none :=
  ⟨Theatre.ofJson_json, rfl, ⟨.whole, _, rfl, rfl⟩, _, rfl, rfl⟩

end SchemaOutline

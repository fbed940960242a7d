import SchemaOutline.Outline.Index

/-!
# Looking up records

The definitions of a document and their records stand in the same order under the same names, so a
look-up in the index finds the record of what a look-up in the document finds.

* `Document.record` — the record of a definition.
* `Outline.definition?_ofDocument` — a look-up in the index.
-/

namespace SchemaOutline

/-- A look-up among what is made of the entries of a list finds what is made of the entry that a
look-up in the list finds, as long as the names stay. -/
theorem find?_map_entries {α β : Type} (make : String → α → β) (key : β → String)
    (keeps : ∀ name a, key (make name a) = name) (entries : List (String × α)) (name : String) :
    (entries.map fun entry => make entry.1 entry.2).find? (fun b => key b == name) =
      (entries.lookup name).map (make name) := by
  induction entries with
  | nil => rfl
  | cons entry rest ih =>
      obtain ⟨first, a⟩ := entry
      rw [List.map_cons, List.find?_cons, List.lookup_cons, keeps]
      by_cases same : first = name
      · subst same
        simp
      · have other : (name == first) = false := beq_false_of_ne (Ne.symm same)
        rw [beq_false_of_ne same, other]
        exact ih

namespace Document

/-- The record of a definition. -/
def record (document : Document) (name : String) (s : Schema) : Definition where
  name
  mainProperty := owner? document.propertyTexts name
  fields := s.fields
  variants := s.variants

end Document

/-- The index has a record for every definition of the document and no other. -/
theorem Outline.definition?_ofDocument (document : Document) (name : String) :
    (Outline.ofDocument document).definition? name =
      (document.definition? name).map (document.record name) :=
  find?_map_entries document.record Definition.name (fun _ _ => rfl) document.definitions name

/-- The fields of a record are the properties that are declared, by name. -/
theorem Schema.map_name_fields (s : Schema) :
    s.fields.map (·.name) = s.namedProperties.map Prod.fst := by
  rw [fields, List.map_map]
  rfl

end SchemaOutline

import SchemaOutline.Proofs.Json.Record
import SchemaOutline.Proofs.Schema.Keyword
import SchemaOutline.Proofs.Schema.Parts

/-!
# Writing a schema and reading it

A schema is written as an object of its keywords, and a keyword of several forms is told by the kind
of its value alone. A list is read as one schema too, and the elements of a list may be given by a
list of schemas; but a schema is never written as a list, so what is written as a list of schemas is
read as one. Reading therefore gives back every schema that was written.

* `Schema.valueJson?` — the value that is written for a keyword.
* `Schema.lookup_toEntries`, `Schema.nodup_toEntries` — the keywords of a schema that is written.
* `Schema.gives_valueJson?` — each keyword is read back.
* `Schema.read_toJson_lossless` — so is the schema.
-/

namespace SchemaOutline

namespace Schema

open Json (Reading)

/-- The value that is written for a keyword. -/
def valueJson? (s : Schema) : Keyword → Option Json
  | .types => s.types.map typesJson
  | .literals => s.literals.map Json.list
  | .required => s.required.map Json.texts
  | .properties => namedJson? s.properties
  | .elements => elementsJson? s.elements
  | .values => valuesJson? s.values
  | .anyOf => branchesJson? s.anyOf
  | .allOf => branchesJson? s.allOf
  | .oneOf => branchesJson? s.oneOf
  | .ref => s.ref.map Json.text

/-- The entries of some keywords in order. -/
def entriesOf (value? : Keyword → Option Json) (keywords : List Keyword) : List (String × Json) :=
  keywords.flatMap fun k => entry k id (value? k)

theorem entry_map {α : Type} (k : Keyword) (write : α → Json) (a? : Option α) :
    entry k write a? = entry k id (a?.map write) := by
  cases a? <;> rfl

/-- A schema is written keyword by keyword. -/
theorem toEntries_eq (s : Schema) : s.toEntries = entriesOf s.valueJson? Keyword.all := by
  obtain ⟨types, literals, required, properties, elements, values, anyOf, allOf, oneOf, ref⟩ := s
  rw [toEntries, entry_map .types, entry_map .literals, entry_map .required, entry_map .ref]
  simp [entriesOf, Keyword.all, valueJson?]

theorem map_fst_entriesOf_sublist (value? : Keyword → Option Json) (keywords : List Keyword) :
    ((entriesOf value? keywords).map Prod.fst).Sublist (keywords.map Keyword.key) := by
  induction keywords with
  | nil => exact .slnil
  | cons k rest ih =>
      have own : ((entry k id (value? k)).map Prod.fst).Sublist [k.key] := by
        cases value? k with
        | none => exact List.nil_sublist _
        | some value => exact List.Sublist.refl _
      rw [entriesOf, List.flatMap_cons, List.map_append]
      exact own.append ih

theorem nodup_toEntries (s : Schema) : (s.toEntries.map Prod.fst).Nodup := by
  rw [toEntries_eq]
  refine (map_fst_entriesOf_sublist _ _).nodup ?_
  decide

theorem lookup_entriesOf (value? : Keyword → Option Json) (keywords : List Keyword) (k : Keyword) :
    (entriesOf value? keywords).lookup k.key = if k ∈ keywords then value? k else none := by
  induction keywords with
  | nil => rfl
  | cons l rest ih =>
      have split : entriesOf value? (l :: rest) = entry l id (value? l) ++ entriesOf value? rest :=
        List.flatMap_cons
      rw [split, List.lookup_append, ih]
      by_cases same : k = l
      · subst same
        cases value? k with
        | none => simp [entry]
        | some value => simp [entry]
      · have other : (k.key == l.key) = false :=
          beq_false_of_ne fun keys => same (Keyword.key_injective keys)
        have passed : (entry l id (value? l)).lookup k.key = none := by
          cases value? l with
          | none => rfl
          | some value => simp [entry, List.lookup_cons, other]
        simp [passed, same]

theorem lookup_toEntries (s : Schema) (k : Keyword) :
    s.toEntries.lookup k.key = s.valueJson? k := by
  have known : k ∈ Keyword.all := by cases k <;> decide
  rw [toEntries_eq, lookup_entriesOf, if_pos known]

/-! ## Reading back -/

theorem readAll_toJsons {schemas : List Schema}
    (each : ∀ t ∈ schemas, readEntries blank t.toEntries = .ok t) :
    readAll (toJsons schemas) = .ok schemas := by
  induction schemas with
  | nil => rfl
  | cons schema rest ih =>
      rw [toJsons, readAll, read, each schema List.mem_cons_self,
        ih fun t mem => each t (List.mem_cons_of_mem _ mem)]
      rfl

theorem readNamed_toNamed {named : List (String × Schema)}
    (each : ∀ entry ∈ named, readEntries blank entry.2.toEntries = .ok entry.2) :
    readNamed (toNamed named) = .ok named := by
  induction named with
  | nil => rfl
  | cons entry rest ih =>
      obtain ⟨name, schema⟩ := entry
      rw [toNamed, readNamed, read, each (name, schema) List.mem_cons_self,
        ih fun entry mem => each entry (List.mem_cons_of_mem _ mem)]
      rfl

/-- The branches of a composition are read back, if each of them is. -/
theorem gives_branches {k : Keyword} (composes : k ∈ [.anyOf, .allOf, .oneOf])
    {schemas? : Option (List Schema)} {s : Schema}
    (own : s.only k = (schemas?.map (withBranches k blank)).getD blank)
    (each : ∀ t ∈ schemas?.getD [], readEntries blank t.toEntries = .ok t) :
    Gives k blank s (branchesJson? schemas?) := by
  cases schemas? with
  | none => exact gives_none.mpr (own.trans (only_blank k).symm)
  | some schemas =>
      have back : readAll (toJsons schemas) = .ok schemas := readAll_toJsons each
      rw [branchesJson?, gives_some, only_blank]
      exact (readBranches_eq_ok_iff composes).mpr ⟨schemas, back, own.symm⟩

/-- Each keyword of a schema is read back, if the schemas inside it are. -/
theorem gives_valueJson? {s : Schema} (inner : ∀ t ∈ s.parts, readEntries blank t.toEntries = .ok t)
    (k : Keyword) : Gives k blank s (s.valueJson? k) := by
  obtain ⟨types, literals, required, properties, elements, values, anyOf, allOf, oneOf, ref⟩ := s
  cases k with
  | types =>
      cases types with
      | none => rfl
      | some rule =>
          cases rule with
          | single name => rfl
          | several names =>
              have back : (names.map Json.text).mapM Json.readText = .ok names :=
                Json.readList_texts names
              show readKeyword blank .types (.list (names.map Json.text)) = _
              unfold readKeyword
              simp only [back]
              rfl
  | literals => cases literals <;> rfl
  | required =>
      cases required with
      | none => rfl
      | some names =>
          have back : (names.map Json.text).mapM Json.readText = .ok names :=
            Json.readList_texts names
          show readKeyword blank .required (.list (names.map Json.text)) = _
          unfold readKeyword
          simp only [back]
          rfl
  | properties =>
      cases properties with
      | none => rfl
      | some named =>
          have back : readNamed (toNamed named) = .ok named :=
            readNamed_toNamed fun entry mem => inner entry.2 (mem_parts_of_property mem)
          exact readProperties_eq_ok_iff.mpr ⟨named, back, rfl⟩
  | elements =>
      cases elements with
      | none => rfl
      | some rule =>
          cases rule with
          | flag allowed => rfl
          | tuple schemas =>
              have back : readAll (toJsons schemas) = .ok schemas :=
                readAll_toJsons fun t mem => inner t (mem_parts_of_tuple rfl mem)
              exact readTuple_eq back
          | each schema =>
              have back := inner schema (mem_parts_of_elements rfl)
              exact readEach_eq_ok_iff.mpr ⟨schema, back, rfl⟩
  | values =>
      cases values with
      | none => rfl
      | some rule =>
          cases rule with
          | flag allowed => rfl
          | each schema =>
              have back := inner schema (mem_parts_of_values rfl)
              exact readValues_eq_ok_iff.mpr ⟨schema, back, rfl⟩
  | anyOf =>
      refine gives_branches (by decide) ?_ fun t mem => inner t (mem_parts_of_anyOf mem)
      cases anyOf <;> rfl
  | allOf =>
      refine gives_branches (by decide) ?_ fun t mem => inner t (mem_parts_of_allOf mem)
      cases allOf <;> rfl
  | oneOf =>
      refine gives_branches (by decide) ?_ fun t mem => inner t (mem_parts_of_oneOf mem)
      cases oneOf <;> rfl
  | ref => cases ref <;> rfl

/-- A schema that was written is read back. -/
theorem readEntries_toEntries (s : Schema) : readEntries blank s.toEntries = .ok s := by
  induction s using induction_parts with
  | step s inner =>
      rw [readEntries_eq_ok_iff s.nodup_toEntries]
      intro k
      rw [lookup_toEntries]
      exact gives_valueJson? inner k

/-- **Writing loses nothing.** Every schema is read back from the JSON that is written for it, and
so writing again what was read from any JSON, written and read gives the same JSON. -/
theorem read_toJson_lossless :
    (∀ s : Schema, read s.toJson = .ok s) ∧
    ∀ value : Json,
      (do let s ← read value; let again ← read s.toJson; return again.toJson : Reading Json) =
        toJson <$> read value := by
  have back : ∀ s : Schema, read s.toJson = .ok s := fun s => readEntries_toEntries s
  refine ⟨back, fun value => ?_⟩
  simp only [back]
  rfl

end Schema

end SchemaOutline

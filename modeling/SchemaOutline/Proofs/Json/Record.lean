import SchemaOutline.Json.Record

/-!
# Reading back what is written

A list is read back if each of its elements is. A record is written as an object of its fields, and
reading takes the fields one after another: each one is put where it came from, and nothing that has
to be there may be missing.

* `Json.readList_map`, `Json.readOption_option_text` — lists and optional texts are read back.
* `Json.RecordRule.readEntries_cons`, `Json.RecordRule.read_object` — an object that lacks nothing
  is read field by field.
-/

namespace SchemaOutline

open Json (Reading RecordRule)

/-! ## Lists and optional values -/

namespace Json

/-- A list is read back if each of its elements is. -/
theorem readList_map {α : Type} {read : Json → Reading α} {write : α → Json} {items : List α}
    (each : ∀ a ∈ items, read (write a) = .ok a) :
    readList read (.list (items.map write)) = .ok items := by
  induction items with
  | nil => rfl
  | cons a rest ih =>
      have first : read (write a) = .ok a := each a List.mem_cons_self
      have others : (rest.map write).mapM read = .ok rest :=
        ih fun b mem => each b (List.mem_cons_of_mem _ mem)
      show ((write a :: rest.map write).mapM read) = _
      rw [List.mapM_cons, first, others]
      rfl

theorem readList_texts (items : List String) : readList readText (.texts items) = .ok items :=
  readList_map fun _ _ => rfl

theorem readList_ok (items : List Json) : readList .ok (.list items) = .ok items := by
  have back : readList .ok (.list (items.map id)) = .ok items := readList_map fun _ _ => rfl
  rwa [List.map_id] at back

theorem readOption_option_text (s? : Option String) :
    readOption readText (.option .text s?) = .ok s? := by
  cases s? <;> rfl

/-- What is made of a value that is read. -/
theorem map_read {α β : Type} {x : Reading α} {a : α} (read : x = .ok a) (make : α → β) :
    (do return make (← x) : Reading β) = .ok (make a) := by
  rw [read]
  rfl

namespace RecordRule

/-! ## Records -/

variable {α : Type} {rule : RecordRule} {put : α → String → Json → Reading α}

/-- A field of the record is put into it before the others. -/
theorem readEntries_cons {a b c : α} {key : String} {value : Json} {rest : List (String × Json)}
    (known : rule.knows key) (first : put a key value = .ok b)
    (others : rule.readEntries put b rest = .ok c) :
    rule.readEntries put a ((key, value) :: rest) = .ok c := by
  unfold readEntries at others ⊢
  rw [List.foldlM_cons]
  simp only [known, if_true, first]
  exact others

/-- An object that lacks nothing is the record that its fields make. -/
theorem read_object {entries : List (String × Json)} (complete : rule.missing? entries = none)
    {start a : α} (fields : rule.readEntries put start entries = .ok a) :
    rule.read put start (.object entries) = .ok a := by
  show (rule.readEntries put start entries >>= rule.endObject entries) = _
  rw [fields]
  show rule.endObject entries a = _
  rw [endObject, complete]

end RecordRule

end Json

end SchemaOutline

import SchemaOutline.Schema.Basic

/-!
# Schemas inside schemas

Six keywords hold schemas: properties, elements, the values of a map and the branches of the three
compositions. What holds of a schema once it holds of the schemas directly inside it holds of every
schema.

* `Schema.parts` — the schemas directly inside a schema.
* `Schema.Inside` — a schema is another one, or inside it at some depth.
* `Schema.induction_parts` — induction on what is inside.
-/

namespace SchemaOutline

/-- The schemas that describe the elements of a list. -/
def ElementRule.schemas {α : Type} : ElementRule α → List α
  | tuple schemas => schemas
  | each schema => [schema]
  | flag _ => []

/-- The schemas that describe the values of a map. -/
def ValueRule.schemas {α : Type} : ValueRule α → List α
  | each schema => [schema]
  | flag _ => []

namespace Schema

/-- The schemas of `items`. -/
def elementSchemas (s : Schema) : List Schema :=
  (s.elements.map ElementRule.schemas).getD []

/-- The schemas of `additionalProperties`. -/
def valueSchemas (s : Schema) : List Schema :=
  (s.values.map ValueRule.schemas).getD []

/-- The branches of `anyOf`, `allOf` and `oneOf`. -/
def branches (s : Schema) : List Schema :=
  s.anyOf.getD [] ++ (s.allOf.getD [] ++ s.oneOf.getD [])

/-- **The schemas directly inside a schema.** -/
def parts (s : Schema) : List Schema :=
  s.namedProperties.map Prod.snd ++ (s.elementSchemas ++ (s.valueSchemas ++ s.branches))

variable {s t : Schema}

theorem mem_parts : t ∈ s.parts ↔
    (∃ name, (name, t) ∈ s.namedProperties) ∨ t ∈ s.elementSchemas ∨ t ∈ s.valueSchemas ∨
      t ∈ s.anyOf.getD [] ∨ t ∈ s.allOf.getD [] ∨ t ∈ s.oneOf.getD [] := by
  simp only [parts, branches, List.mem_append, List.mem_map, Prod.exists, exists_eq_right]

theorem mem_parts_of_property {entry : String × Schema} (mem : entry ∈ s.namedProperties) :
    entry.2 ∈ s.parts :=
  mem_parts.mpr (.inl ⟨entry.1, mem⟩)

theorem mem_parts_of_elements (rule : s.elements = some (.each t)) : t ∈ s.parts :=
  mem_parts.mpr (.inr (.inl (by simp [elementSchemas, rule, ElementRule.schemas])))

theorem mem_parts_of_tuple {schemas : List Schema} (rule : s.elements = some (.tuple schemas))
    (mem : t ∈ schemas) : t ∈ s.parts :=
  mem_parts.mpr (.inr (.inl (by simpa [elementSchemas, rule, ElementRule.schemas] using mem)))

theorem mem_parts_of_values (rule : s.values = some (.each t)) : t ∈ s.parts :=
  mem_parts.mpr (.inr (.inr (.inl (by simp [valueSchemas, rule, ValueRule.schemas]))))

theorem mem_parts_of_anyOf (mem : t ∈ s.anyOf.getD []) : t ∈ s.parts :=
  mem_parts.mpr (.inr (.inr (.inr (.inl mem))))

theorem mem_parts_of_allOf (mem : t ∈ s.allOf.getD []) : t ∈ s.parts :=
  mem_parts.mpr (.inr (.inr (.inr (.inr (.inl mem)))))

theorem mem_parts_of_oneOf (mem : t ∈ s.oneOf.getD []) : t ∈ s.parts :=
  mem_parts.mpr (.inr (.inr (.inr (.inr (.inr mem)))))

/-- A schema is another one, or inside a schema directly inside it. -/
inductive Inside : Schema → Schema → Prop where
  | self (s : Schema) : Inside s s
  | inner {s t u : Schema} (mem : t ∈ s.parts) (within : Inside u t) : Inside u s

theorem Inside.part {u : Schema} (within : Inside t s) (mem : u ∈ t.parts) : Inside u s := by
  induction within with
  | self s => exact .inner mem (.self u)
  | inner here _ ih => exact .inner here (ih mem)

/-- A set of schemas that no part leaves holds everything inside its schemas. -/
theorem Inside.of_parts {P : Schema → Prop} (part : ∀ s t, P s → t ∈ s.parts → P t)
    (within : Inside t s) (here : P s) : P t := by
  induction within with
  | self => exact here
  | inner mem _ ih => exact ih (part _ _ here mem)

/-! ## Induction -/

/-- A schema is smaller than the value of a keyword that holds a list of schemas with it. -/
theorem sizeOf_lt_of_mem_getD {schemas : Option (List Schema)} (mem : t ∈ schemas.getD []) :
    sizeOf t < sizeOf schemas := by
  cases schemas with
  | none => exact absurd mem List.not_mem_nil
  | some schemas =>
      have smaller := List.sizeOf_lt_of_mem (show t ∈ schemas from mem)
      simp only [Option.some.sizeOf_spec]
      omega

theorem sizeOf_lt_of_mem_named {name : String} {named : Option (List (String × Schema))}
    (mem : (name, t) ∈ named.getD []) : sizeOf t < sizeOf named := by
  cases named with
  | none => exact absurd mem List.not_mem_nil
  | some named =>
      have smaller := List.sizeOf_lt_of_mem (show (name, t) ∈ named from mem)
      simp only [Option.some.sizeOf_spec, Prod.mk.sizeOf_spec] at smaller ⊢
      omega

theorem sizeOf_lt_of_mem_elements {rule : Option (ElementRule Schema)}
    (mem : t ∈ (rule.map ElementRule.schemas).getD []) : sizeOf t < sizeOf rule := by
  match rule with
  | some (.tuple schemas) =>
      have smaller := List.sizeOf_lt_of_mem (show t ∈ schemas from mem)
      simp only [Option.some.sizeOf_spec, ElementRule.tuple.sizeOf_spec]
      omega
  | some (.each schema) =>
      cases List.mem_singleton.mp mem
      simp only [Option.some.sizeOf_spec, ElementRule.each.sizeOf_spec]
      omega
  | some (.flag _) | none => exact absurd mem List.not_mem_nil

theorem sizeOf_lt_of_mem_values {rule : Option (ValueRule Schema)}
    (mem : t ∈ (rule.map ValueRule.schemas).getD []) : sizeOf t < sizeOf rule := by
  match rule with
  | some (.each schema) =>
      cases List.mem_singleton.mp mem
      simp only [Option.some.sizeOf_spec, ValueRule.each.sizeOf_spec]
      omega
  | some (.flag _) | none => exact absurd mem List.not_mem_nil

theorem sizeOf_lt_of_mem_parts (mem : t ∈ s.parts) : sizeOf t < sizeOf s := by
  obtain ⟨types, literals, required, properties, elements, values, anyOf, allOf, oneOf, ref⟩ := s
  simp only [Schema.mk.sizeOf_spec]
  rcases mem_parts.mp mem with ⟨name, mem⟩ | mem | mem | mem | mem | mem
  · have smaller : sizeOf t < sizeOf properties := sizeOf_lt_of_mem_named mem
    omega
  · have smaller : sizeOf t < sizeOf elements := sizeOf_lt_of_mem_elements mem
    omega
  · have smaller : sizeOf t < sizeOf values := sizeOf_lt_of_mem_values mem
    omega
  · have smaller : sizeOf t < sizeOf anyOf := sizeOf_lt_of_mem_getD mem
    omega
  · have smaller : sizeOf t < sizeOf allOf := sizeOf_lt_of_mem_getD mem
    omega
  · have smaller : sizeOf t < sizeOf oneOf := sizeOf_lt_of_mem_getD mem
    omega

/-- **Induction on what is inside a schema.** -/
theorem induction_parts {motive : Schema → Prop}
    (step : ∀ s, (∀ t ∈ s.parts, motive t) → motive s) (s : Schema) : motive s :=
  step s fun t _ => induction_parts step t
termination_by sizeOf s
decreasing_by exact sizeOf_lt_of_mem_parts ‹t ∈ s.parts›

end Schema

end SchemaOutline

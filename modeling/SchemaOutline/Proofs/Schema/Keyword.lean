import SchemaOutline.Schema.Keyword

/-!
# Reading keyword by keyword

The value of a keyword is read into its own field, whatever is in the others. So the schema that an
object reads as does not depend on the order of its keys, nor on keys that are no keywords: each
field is what the value of its keyword says, and is empty where the keyword is not there.

* `Schema.only`, `Schema.put` — a schema cut down to one keyword, and one keyword put into another.
* `Schema.readKeyword_eq_put` — a keyword is read into its own field.
* `Schema.readTuple_eq`, `Schema.readBranches_eq_ok_iff` and so on — what the values that hold
  schemas are read as.
* `Schema.readEntries_eq_ok_iff` — the schema that an object reads as, keyword by keyword.
-/

namespace SchemaOutline

namespace Keyword

theorem ofKey?_key (k : Keyword) : ofKey? k.key = some k := by
  cases k <;> rfl

theorem key_of_ofKey? {key : String} {k : Keyword} (found : ofKey? key = some k) : k.key = key := by
  have holds := List.find?_some found
  exact eq_of_beq holds

theorem key_injective {k l : Keyword} (same : k.key = l.key) : k = l := by
  have found := ofKey?_key k
  rw [same, ofKey?_key] at found
  exact (Option.some.inj found).symm

end Keyword

namespace Schema

open Json (Reading)

/-- The schema with one of its keywords and no other. -/
def only (k : Keyword) (s : Schema) : Schema :=
  match k with
  | .types => { types := s.types }
  | .literals => { literals := s.literals }
  | .required => { required := s.required }
  | .properties => { properties := s.properties }
  | .elements => { elements := s.elements }
  | .values => { values := s.values }
  | .anyOf => { anyOf := s.anyOf }
  | .allOf => { allOf := s.allOf }
  | .oneOf => { oneOf := s.oneOf }
  | .ref => { ref := s.ref }

@[simp] theorem only_blank (k : Keyword) : blank.only k = blank := by
  cases k <;> rfl

/-- Schemas that agree in each keyword are equal. -/
theorem ext_only {s t : Schema} (same : ∀ k, s.only k = t.only k) : s = t := by
  obtain ⟨types, literals, required, properties, elements, values, anyOf, allOf, oneOf, ref⟩ := s
  obtain ⟨types', literals', required', properties', elements', values', anyOf', allOf', oneOf',
    ref'⟩ := t
  cases congrArg Schema.types (same .types)
  cases congrArg Schema.literals (same .literals)
  cases congrArg Schema.required (same .required)
  cases congrArg Schema.properties (same .properties)
  cases congrArg Schema.elements (same .elements)
  cases congrArg Schema.values (same .values)
  cases congrArg Schema.anyOf (same .anyOf)
  cases congrArg Schema.allOf (same .allOf)
  cases congrArg Schema.oneOf (same .oneOf)
  cases congrArg Schema.ref (same .ref)
  rfl

/-- A schema with one keyword taken from another one. -/
def put (k : Keyword) (s t : Schema) : Schema :=
  match k with
  | .types => { s with types := t.types }
  | .literals => { s with literals := t.literals }
  | .required => { s with required := t.required }
  | .properties => { s with properties := t.properties }
  | .elements => { s with elements := t.elements }
  | .values => { s with values := t.values }
  | .anyOf => { s with anyOf := t.anyOf }
  | .allOf => { s with allOf := t.allOf }
  | .oneOf => { s with oneOf := t.oneOf }
  | .ref => { s with ref := t.ref }

theorem only_put_self (k : Keyword) (s t : Schema) : (put k s t).only k = t.only k := by
  cases k <;> rfl

theorem only_put_of_ne {k l : Keyword} (other : l ≠ k) (s t : Schema) :
    (put k s t).only l = s.only l := by
  cases k <;> cases l <;> simp [put, only] at other ⊢

theorem put_only (k : Keyword) (s t : Schema) : put k (s.only k) t = t.only k := by
  cases k <;> rfl

theorem put_eq_iff {k : Keyword} {r s t : Schema} :
    put k s r = t ↔ r.only k = t.only k ∧ ∀ l, l ≠ k → t.only l = s.only l := by
  constructor
  · rintro rfl
    exact ⟨(only_put_self k s r).symm, fun l other => only_put_of_ne other s r⟩
  · rintro ⟨own, others⟩
    refine ext_only fun l => ?_
    by_cases same : l = k
    · subst same
      rw [only_put_self, own]
    · rw [only_put_of_ne same, others l same]

/-! ## One keyword -/

/-- **A keyword is read into its own field**, whatever is in the others. Only `null` leaves that
field as it is. -/
theorem readKeyword_eq_put {value : Json} (present : value ≠ .null) (s : Schema) (k : Keyword) :
    readKeyword s k value = (readKeyword blank k value).map (put k s) := by
  cases value with
  | null => exact absurd rfl present
  | bool b => cases k <;> rfl
  | whole n => cases k <;> rfl
  | float x => cases k <;> rfl
  | text t => cases k <;> rfl
  | object entries =>
      unfold readKeyword
      cases k with
      | properties => cases readNamed entries <;> rfl
      | elements => dsimp only; cases readEntries blank entries <;> rfl
      | values => dsimp only; cases readEntries blank entries <;> rfl
      | _ => rfl
  | list elements =>
      unfold readKeyword
      cases k with
      | types => dsimp only; cases elements.mapM Json.readText <;> rfl
      | required => dsimp only; cases elements.mapM Json.readText <;> rfl
      | elements =>
          dsimp only
          cases readAll elements with
          | ok schemas => rfl
          | error fault =>
              dsimp only
              cases readElements Keyword.all elements.length blank elements <;> rfl
      | values =>
          dsimp only
          cases readElements Keyword.all elements.length blank elements <;> rfl
      | anyOf => dsimp only; cases readAll elements <;> rfl
      | allOf => dsimp only; cases readAll elements <;> rfl
      | oneOf => dsimp only; cases readAll elements <;> rfl
      | _ => rfl

/-! ## The values that hold schemas -/

theorem bind_eq_ok_iff {ε α β : Type} {x : Except ε α} {f : α → Except ε β} {b : β} :
    x >>= f = .ok b ↔ ∃ a, x = .ok a ∧ f a = .ok b := by
  cases x <;> simp [bind, Except.bind]

section Forms

variable {s t : Schema} {entries : List (String × Json)} {elements : List Json}

theorem readProperties_eq_ok_iff :
    readKeyword s .properties (.object entries) = .ok t ↔
      ∃ named, readNamed entries = .ok named ∧ { s with properties := some named } = t := by
  show (readNamed entries >>= fun named => .ok { s with properties := some named }) = .ok t ↔ _
  simp only [bind_eq_ok_iff, Except.ok.injEq]

theorem readEach_eq_ok_iff :
    readKeyword s .elements (.object entries) = .ok t ↔
      ∃ each, readEntries blank entries = .ok each ∧
        { s with elements := some (.each each) } = t := by
  unfold readKeyword
  cases readEntries blank entries <;> simp

theorem readValues_eq_ok_iff :
    readKeyword s .values (.object entries) = .ok t ↔
      ∃ each, readEntries blank entries = .ok each ∧
        { s with values := some (.each each) } = t := by
  unfold readKeyword
  cases readEntries blank entries <;> simp

theorem readValuePlaces_eq_ok_iff :
    readKeyword s .values (.list elements) = .ok t ↔
      ∃ each, read (.list elements) = .ok each ∧ { s with values := some (.each each) } = t := by
  unfold readKeyword read
  cases readElements Keyword.all elements.length blank elements <;> simp

/-- A list of schemas under `items` is read as such. -/
theorem readTuple_eq {schemas : List Schema} (tuple : readAll elements = .ok schemas) :
    readKeyword s .elements (.list elements) =
      .ok { s with elements := some (.tuple schemas) } := by
  unfold readKeyword
  simp only [tuple]

/-- Any other list under `items` is read as one schema. -/
theorem readPlaces_eq_ok_iff (other : ∀ schemas, readAll elements ≠ .ok schemas) :
    readKeyword s .elements (.list elements) = .ok t ↔
      ∃ each, read (.list elements) = .ok each ∧ { s with elements := some (.each each) } = t := by
  unfold readKeyword read
  cases all : readAll elements with
  | ok schemas => exact absurd all (other schemas)
  | error fault => cases readElements Keyword.all elements.length blank elements <;> simp

/-- A schema with the branches of a composition. -/
def withBranches (k : Keyword) (s : Schema) (schemas : List Schema) : Schema :=
  match k with
  | .anyOf => { s with anyOf := some schemas }
  | .allOf => { s with allOf := some schemas }
  | .oneOf => { s with oneOf := some schemas }
  | _ => s

theorem readBranches_eq_ok_iff {k : Keyword} (composes : k ∈ [.anyOf, .allOf, .oneOf]) :
    readKeyword s k (.list elements) = .ok t ↔
      ∃ schemas, readAll elements = .ok schemas ∧ withBranches k s schemas = t := by
  have reads : readKeyword s k (.list elements) =
      readAll elements >>= fun schemas => .ok (withBranches k s schemas) := by
    simp only [List.mem_cons, List.not_mem_nil, or_false] at composes
    rcases composes with rfl | rfl | rfl <;> rfl
  rw [reads, bind_eq_ok_iff]
  simp only [Except.ok.injEq]

end Forms

/-! ## Keyword by keyword -/

/-- The value of a keyword, or its absence, leads from the keyword of one schema to that of
another. -/
def Gives (k : Keyword) (s t : Schema) : Option Json → Prop
  | some value => readKeyword (s.only k) k value = .ok (t.only k)
  | none => t.only k = s.only k

theorem gives_some {k : Keyword} {s t : Schema} {value : Json} :
    Gives k s t (some value) ↔ readKeyword (s.only k) k value = .ok (t.only k) := Iff.rfl

theorem gives_none {k : Keyword} {s t : Schema} : Gives k s t none ↔ t.only k = s.only k := Iff.rfl

/-- Only the keyword itself of either schema matters. -/
theorem gives_congr {k : Keyword} {s s' t t' : Schema} (first : s.only k = s'.only k)
    (second : t.only k = t'.only k) (value? : Option Json) :
    Gives k s t value? ↔ Gives k s' t' value? := by
  unfold Gives
  rw [first, second]

/-- Reading a keyword gives that keyword and keeps the others. -/
theorem readKeyword_eq_ok_iff {s t : Schema} {k : Keyword} {value : Json} :
    readKeyword s k value = .ok t ↔
      Gives k s t (some value) ∧ ∀ l, l ≠ k → t.only l = s.only l := by
  rw [gives_some]
  by_cases absent : value = .null
  · -- nothing changes, in this keyword or another
    subst absent
    have kept : ∀ u, readKeyword u k .null = .ok u := fun _ => rfl
    rw [kept, kept, Except.ok.injEq, Except.ok.injEq]
    constructor
    · rintro rfl
      exact ⟨rfl, fun _ _ => rfl⟩
    · rintro ⟨own, others⟩
      refine ext_only fun l => ?_
      by_cases same : l = k
      · rw [same, own]
      · exact (others l same).symm
  · rw [readKeyword_eq_put absent s, readKeyword_eq_put absent (s.only k)]
    cases readKeyword blank k value with
    | error fault => simp [Except.map]
    | ok r => simp only [Except.map, Except.ok.injEq, put_only, put_eq_iff]

/-! ## Objects -/

theorem lookup_key_cons_of_ne {key : String} {k : Keyword} (other : k.key ≠ key) (value : Json)
    (rest : List (String × Json)) :
    ((key, value) :: rest).lookup k.key = rest.lookup k.key := by
  rw [List.lookup_cons, beq_false_of_ne other]

/-- **An object of distinct keys is read keyword by keyword.** Its other keys and the order of its
keys do not matter. -/
theorem readEntries_eq_ok_iff {s t : Schema} {entries : List (String × Json)}
    (distinct : (entries.map Prod.fst).Nodup) :
    readEntries s entries = .ok t ↔ ∀ k : Keyword, Gives k s t (entries.lookup k.key) := by
  induction entries generalizing s with
  | nil =>
      constructor
      · intro same k
        cases same
        exact gives_none.mpr rfl
      · intro all
        have same : s = t := ext_only fun k => (all k).symm
        rw [same]
        rfl
  | cons entry rest ih =>
      obtain ⟨key, value⟩ := entry
      obtain ⟨fresh, distinctRest⟩ := List.nodup_cons.mp distinct
      rw [readEntries]
      cases known : Keyword.ofKey? key with
      | none =>
          rw [ih distinctRest]
          refine forall_congr' fun k => ?_
          have other : k.key ≠ key := by
            rintro rfl
            rw [Keyword.ofKey?_key] at known
            cases known
          rw [lookup_key_cons_of_ne other]
      | some k =>
          obtain rfl := Keyword.key_of_ofKey? known
          have later : rest.lookup k.key = none := by
            rw [List.lookup_eq_none_iff]
            intro entry mem
            exact bne_iff_ne.mpr fun same => fresh (List.mem_map.mpr ⟨entry, mem, same.symm⟩)
          have other : ∀ l, l ≠ k → l.key ≠ k.key := fun l ne same =>
            ne (Keyword.key_injective same)
          rw [bind_eq_ok_iff]
          constructor
          · rintro ⟨u, first, after⟩ l
            obtain ⟨own, others⟩ := readKeyword_eq_ok_iff.mp first
            have tail := (ih distinctRest).mp after l
            by_cases same : l = k
            · subst same
              rw [later, gives_none] at tail
              rw [List.lookup_cons_self]
              exact (gives_congr rfl tail _).mpr own
            · rw [lookup_key_cons_of_ne (other l same)]
              exact (gives_congr (others l same) rfl _).mp tail
          · intro all
            -- after the first entry the schema has the keyword it is going to have
            refine ⟨put k s t, readKeyword_eq_ok_iff.mpr ⟨?_, ?_⟩,
              (ih distinctRest).mpr fun l => ?_⟩
            · have own := all k
              rw [List.lookup_cons_self] at own
              exact (gives_congr rfl (only_put_self k s t) _).mpr own
            · exact fun l ne => only_put_of_ne ne s t
            · by_cases same : l = k
              · subst same
                rw [later, gives_none, only_put_self]
              · have tail := all l
                rw [lookup_key_cons_of_ne (other l same)] at tail
                exact (gives_congr (only_put_of_ne same s t) rfl _).mpr tail

end Schema

end SchemaOutline

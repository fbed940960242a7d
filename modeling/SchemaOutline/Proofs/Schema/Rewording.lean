import SchemaOutline.Proofs.Schema.Loading

/-!
# What a schema passes over

A schema written as an object is reworded when its keys are put in another order, and when keys that
are no keywords are added, dropped or given other values. That can be done at every depth at once,
wherever a schema stands. A reworded value reads as the same schema, with one proviso. A list under
`items` is a list of schemas if each of its elements is one, and otherwise a single schema given by
the places of its keywords; and a key that the single schema passes over may be the name of a
property that keeps the list from being a list of schemas. So a list has to be of the same kind in
both wordings.

* `Json.IsTuple` — a list under `items` is a list of schemas.
* `Json.Rewords` — one value is a wording of another.
* `Json.Rewords.reads_alike` — both wordings read as the same schema, or neither reads.
-/

namespace SchemaOutline

open Json (Reading)
open Schema

/-- Two readings have the same result, or none. -/
def Json.Reading.Agree {α : Type} (x y : Reading α) : Prop :=
  ∀ a, x = .ok a ↔ y = .ok a

namespace Json.Reading.Agree

variable {α β : Type} {x y : Reading α}

theorem refl (x : Reading α) : Agree x x :=
  fun _ => Iff.rfl

theorem exists_iff (agree : Agree x y) {P : α → Prop} :
    (∃ a, x = .ok a ∧ P a) ↔ ∃ a, y = .ok a ∧ P a :=
  exists_congr fun a => and_congr_left' (agree a)

theorem bind {f g : α → Reading β} (first : Agree x y) (rest : ∀ a, Agree (f a) (g a)) :
    Agree (x >>= f) (y >>= g) := by
  intro b
  rw [bind_eq_ok_iff, bind_eq_ok_iff]
  exact exists_congr fun a => and_congr (first a) (rest a b)

end Json.Reading.Agree

namespace Json

/-- What a value stands for: a schema, or the value of a keyword. -/
inductive Position where
  | schema
  | value (k : Keyword)

/-- A list under `items` is a list of schemas: each of its elements reads as one, the keyword
`format` being removed. -/
def IsTuple (elements : List Json) : Prop :=
  ∃ schemas, readAll (strippedElements elements) = .ok schemas

/-- **One value is a wording of another.** They differ only in the order of the keys of the objects
that stand for schemas, and in those of their keys that are no keywords. `proviso` has to hold of
two lists under `items`; it is the first of them that says what such lists stand for. -/
inductive Rewords (proviso : List Json → List Json → Prop) : Position → Json → Json → Prop where
  | same (position : Position) (v : Json) : Rewords proviso position v v
  | schema {entries others : List (String × Json)} (distinct : (entries.map Prod.fst).Nodup)
      (distinct' : (others.map Prod.fst).Nodup)
      (present : ∀ k : Keyword, (entries.lookup k.key).isSome = (others.lookup k.key).isSome)
      (values : ∀ (k : Keyword) v w, entries.lookup k.key = some v → others.lookup k.key = some w →
        Rewords proviso (.value k) v w) :
      Rewords proviso .schema (.object entries) (.object others)
  -- a list gives the values of the keywords by their places, and has no other ones
  | places {elements others : List Json} (length : elements.length = others.length)
      (rest : elements.drop Keyword.all.length = others.drop Keyword.all.length)
      (values : ∀ (i : Nat) (k : Keyword) v w, Keyword.all[i]? = some k → elements[i]? = some v →
        others[i]? = some w → Rewords proviso (.value k) v w) :
      Rewords proviso .schema (.list elements) (.list others)
  -- the keys are names here, and stay as they are
  | properties {entries others : List (String × Json)}
      (names : entries.map Prod.fst = others.map Prod.fst)
      (each : ∀ (i : Nat) v w, entries[i]? = some v → others[i]? = some w →
        Rewords proviso .schema v.2 w.2) :
      Rewords proviso (.value .properties) (.object entries) (.object others)
  -- a list under `items` holds schemas or is one
  | tuple {elements others : List Json} (tuple : IsTuple elements)
      (agreed : proviso elements others)
      (length : elements.length = others.length)
      (each : ∀ (i : Nat) v w, elements[i]? = some v → others[i]? = some w →
        Rewords proviso .schema v w) :
      Rewords proviso (.value .elements) (.list elements) (.list others)
  | single {elements others : List Json} (single : ¬ IsTuple elements)
      (agreed : proviso elements others)
      (within : Rewords proviso .schema (.list elements) (.list others)) :
      Rewords proviso (.value .elements) (.list elements) (.list others)
  | each {entries others : List (String × Json)}
      (within : Rewords proviso .schema (.object entries) (.object others)) :
      Rewords proviso (.value .elements) (.object entries) (.object others)
  | mapObject {entries others : List (String × Json)}
      (within : Rewords proviso .schema (.object entries) (.object others)) :
      Rewords proviso (.value .values) (.object entries) (.object others)
  | mapList {elements others : List Json}
      (within : Rewords proviso .schema (.list elements) (.list others)) :
      Rewords proviso (.value .values) (.list elements) (.list others)
  | branches {k : Keyword} (composes : k ∈ [.anyOf, .allOf, .oneOf]) {elements others : List Json}
      (length : elements.length = others.length)
      (each : ∀ (i : Nat) v w, elements[i]? = some v → others[i]? = some w →
        Rewords proviso .schema v w) :
      Rewords proviso (.value k) (.list elements) (.list others)

/-- A list under `items` is of the same kind in both wordings. -/
def SameKind (elements others : List Json) : Prop :=
  IsTuple elements ↔ IsTuple others

/-- Both values read alike, whatever the keys of an object there are. -/
def Position.ReadsAlike : Position → Json → Json → Prop
  | schema, v, w => ∀ keys, Reading.Agree (read (v.stripped keys)) (read (w.stripped keys))
  | value k, v, w => ∀ keys s,
    Reading.Agree (readKeyword s k (v.stripped keys)) (readKeyword s k (w.stripped keys))

/-! ## Lists of values -/

theorem readAll_alike {vs ws : List Json} (length : vs.length = ws.length)
    (each : ∀ (i : Nat) v w, vs[i]? = some v → ws[i]? = some w → Reading.Agree (read v) (read w)) :
    Reading.Agree (readAll vs) (readAll ws) := by
  induction vs generalizing ws with
  | nil =>
      cases List.length_eq_zero_iff.mp length.symm
      exact .refl _
  | cons v vs ih =>
      obtain ⟨w, ws, rfl⟩ := List.exists_cons_of_length_eq_add_one length.symm
      rw [readAll, readAll]
      refine .bind (each 0 v w rfl rfl) fun s => ?_
      refine .bind (ih (Nat.succ.inj length) fun i => each (i + 1)) fun rest => ?_
      exact .refl _

theorem readElements_alike {vs ws : List Json} {keywords : List Keyword} {n n' : Nat} {s : Schema}
    (length : vs.length = ws.length)
    (each : ∀ (i : Nat) k v w, keywords[i]? = some k → vs[i]? = some v → ws[i]? = some w →
      ∀ s, Reading.Agree (readKeyword s k v) (readKeyword s k w)) :
    Reading.Agree (readElements keywords n s vs) (readElements keywords n' s ws) := by
  induction vs generalizing ws keywords s with
  | nil =>
      cases List.length_eq_zero_iff.mp length.symm
      exact .refl _
  | cons v vs ih =>
      obtain ⟨w, ws, rfl⟩ := List.exists_cons_of_length_eq_add_one length.symm
      cases keywords with
      | nil => exact fun t => by simp [readElements]
      | cons k keywords =>
          rw [readElements, readElements]
          refine .bind (each 0 k v w rfl rfl rfl s) fun t => ?_
          exact ih (Nat.succ.inj length) fun i => each (i + 1)

theorem readNamed_alike {keys : Keys} {es fs : List (String × Json)}
    (names : es.map Prod.fst = fs.map Prod.fst)
    (each : ∀ (i : Nat) v w, es[i]? = some v → fs[i]? = some w →
      ∀ keys, Reading.Agree (read (v.2.stripped keys)) (read (w.2.stripped keys))) :
    Reading.Agree (readNamed (strippedEntries keys es)) (readNamed (strippedEntries keys fs)) := by
  induction es generalizing fs with
  | nil =>
      cases List.map_eq_nil_iff.mp names.symm
      exact .refl _
  | cons e es ih =>
      cases fs with
      | nil => cases names
      | cons f fs =>
          obtain ⟨name, v⟩ := e
          obtain ⟨name', w⟩ := f
          obtain ⟨same, others⟩ := List.cons.inj names
          cases same
          have rest := ih others fun i => each (i + 1)
          rw [strippedEntries, strippedEntries]
          by_cases removed : keys.removes name
          · rw [if_pos removed, if_pos removed]
            exact rest
          · rw [if_neg removed, if_neg removed, readNamed, readNamed]
            refine .bind (each 0 _ _ rfl rfl (keys.under name)) fun s => ?_
            refine .bind rest fun schemas => ?_
            exact .refl _

/-! ## Wordings -/

theorem length_strippedElements (elements : List Json) :
    (strippedElements elements).length = elements.length := by
  rw [strippedElements_eq_map, List.length_map]

theorem readAll_strippedElements_alike {vs ws : List Json} (length : vs.length = ws.length)
    (each : ∀ (i : Nat) v w, vs[i]? = some v → ws[i]? = some w →
      Position.schema.ReadsAlike v w) :
    Reading.Agree (readAll (strippedElements vs)) (readAll (strippedElements ws)) := by
  refine readAll_alike (by rw [length_strippedElements, length_strippedElements, length]) ?_
  intro i v' w' left left'
  obtain ⟨v, there, rfl⟩ := getElem?_strippedElements_eq_some.mp left
  obtain ⟨w, there', rfl⟩ := getElem?_strippedElements_eq_some.mp left'
  exact each i v w there there' .keywords

/-- **Both wordings read alike**, if their lists under `items` are of the same kind. -/
theorem Rewords.reads_alike {position : Position} {v w : Json}
    (reworded : Rewords SameKind position v w) : position.ReadsAlike v w := by
  induction reworded with
  | same position v =>
      cases position with
      | schema => exact fun keys => .refl _
      | value k => exact fun keys s => .refl _
  | @schema entries others distinct distinct' present _ values =>
      intro keys t
      show readEntries blank (strippedEntries keys entries) = _ ↔
        readEntries blank (strippedEntries keys others) = _
      rw [readEntries_eq_ok_iff (nodup_strippedEntries keys distinct),
        readEntries_eq_ok_iff (nodup_strippedEntries keys distinct')]
      -- what is read is settled keyword by keyword, and no keyword is `format`
      refine forall_congr' fun k => ?_
      rw [lookup_strippedEntries_key, lookup_strippedEntries_key]
      have both := present k
      cases there : entries.lookup k.key with
      | none =>
          rw [there, Option.isSome_none, eq_comm, Option.isSome_eq_false_iff] at both
          rw [Option.isNone_iff_eq_none.mp both]
      | some v =>
          rw [there, Option.isSome_some, eq_comm] at both
          obtain ⟨w, there'⟩ := Option.isSome_iff_exists.mp both
          rw [there', Option.map_some, Option.map_some, gives_some, gives_some]
          exact values k v w there there' (keys.under k.key) _ _
  | @places elements others length rest _ values =>
      intro keys
      refine readElements_alike ?_ fun i k v' w' known left left' => ?_
      · rw [length_strippedElements, length_strippedElements, length]
      · obtain ⟨v, there, rfl⟩ := getElem?_strippedElements_eq_some.mp left
        obtain ⟨w, there', rfl⟩ := getElem?_strippedElements_eq_some.mp left'
        exact values i k v w known there there' .keywords
  | @properties entries others names _ each =>
      intro keys s t
      show readKeyword s .properties (object (strippedEntries keys entries)) = _ ↔
        readKeyword s .properties (object (strippedEntries keys others)) = _
      rw [readProperties_eq_ok_iff, readProperties_eq_ok_iff]
      exact (readNamed_alike names each).exists_iff
  | @tuple elements others tuple agreed length _ each =>
      intro keys s t
      show readKeyword s .elements (list (strippedElements elements)) = _ ↔
        readKeyword s .elements (list (strippedElements others)) = _
      obtain ⟨schemas, all⟩ := tuple
      have all' := (readAll_strippedElements_alike length each schemas).mp all
      rw [readTuple_eq all, readTuple_eq all']
  | @single elements others single agreed _ within =>
      intro keys s t
      show readKeyword s .elements (list (strippedElements elements)) = _ ↔
        readKeyword s .elements (list (strippedElements others)) = _
      -- here the kind matters: a list of schemas would not be read by the places of the keywords
      have single' : ¬ IsTuple others := fun tuple => single (agreed.mpr tuple)
      rw [readPlaces_eq_ok_iff (not_exists.mp single), readPlaces_eq_ok_iff (not_exists.mp single')]
      exact (within keys).exists_iff
  | @each entries others _ within =>
      intro keys s t
      show readKeyword s .elements (object (strippedEntries keys entries)) = _ ↔
        readKeyword s .elements (object (strippedEntries keys others)) = _
      rw [readEach_eq_ok_iff, readEach_eq_ok_iff]
      exact (within keys).exists_iff
  | @mapObject entries others _ within =>
      intro keys s t
      show readKeyword s .values (object (strippedEntries keys entries)) = _ ↔
        readKeyword s .values (object (strippedEntries keys others)) = _
      rw [readValues_eq_ok_iff, readValues_eq_ok_iff]
      exact (within keys).exists_iff
  | @mapList elements others _ within =>
      intro keys s t
      show readKeyword s .values (list (strippedElements elements)) = _ ↔
        readKeyword s .values (list (strippedElements others)) = _
      rw [readValuePlaces_eq_ok_iff, readValuePlaces_eq_ok_iff]
      exact (within keys).exists_iff
  | @branches k composes elements others length _ each =>
      intro keys s t
      show readKeyword s k (list (strippedElements elements)) = _ ↔
        readKeyword s k (list (strippedElements others)) = _
      rw [readBranches_eq_ok_iff composes, readBranches_eq_ok_iff composes]
      exact (readAll_strippedElements_alike length each).exists_iff

end Json

end SchemaOutline

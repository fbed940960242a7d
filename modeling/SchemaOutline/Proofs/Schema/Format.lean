import SchemaOutline.Schema.Format

/-!
# What is left without the keyword `format`

A place in a JSON value is given by the keys and indices that lead to it. Whether a key there is a
keyword or a name can be read off the place, and with it whether a value is still there without the
keyword: a place is lost exactly if the way to it goes through a keyword `format`. At a place that
is left stands the same scalar, a list as long as before, or an object with its other keys in order.

* `Json.Place`, `Json.at?` — places, and the value at a place.
* `Json.Place.nameKeyed`, `Json.Place.avoidsFormat` — what the keys of an object at a place are,
  and which places are left.
* `Json.at?_withoutFormat` — the value at a place without the keyword.
* `Json.RemovesFormat` — what removing the keyword comes to.
* `Json.withoutFormat_exact` — `withoutFormat` does that, and doing it again changes nothing.
-/

namespace SchemaOutline

namespace Json

/-- A place in a JSON value: the whole, the value of a key of the object at a place, or an element
of the list at a place. -/
inductive Place where
  | whole
  | key (place : Place) (name : String)
  | index (place : Place) (i : Nat)

/-- An element of a list; other values have no elements. -/
def element? (i : Nat) : Json → Option Json
  | list elements => elements[i]?
  | _ => none

/-- **The value at a place.** -/
def at? (value : Json) : Place → Option Json
  | .whole => some value
  | .key place name => (value.at? place).bind (get? name)
  | .index place i => (value.at? place).bind (element? i)

namespace Place

/-- Whether an object at the place has names for keys: it is the value of a key `properties`,
`definitions` or `patternProperties` of an object that has keywords for keys. -/
def nameKeyed : Place → Bool
  | whole => false
  | key place name =>
    ["properties", "definitions", "patternProperties"].contains name && !place.nameKeyed
  | index _ _ => false

/-- Whether an object at the place keeps its entry of a key. -/
def keeps (place : Place) (name : String) : Bool :=
  place.nameKeyed || name != "format"

/-- Whether the way to the place avoids every keyword `format`. -/
def avoidsFormat : Place → Bool
  | whole => true
  | key place name => place.avoidsFormat && place.keeps name
  | index place _ => place.avoidsFormat

/-- What the keys of an object at the place are. -/
def keys (place : Place) : Keys :=
  if place.nameKeyed then .names else .keywords

theorem removes_keys (place : Place) (name : String) :
    place.keys.removes name = !place.keeps name := by
  unfold keys keeps
  cases place.nameKeyed <;> simp [Keys.removes, bne]

theorem under_keys (place : Place) (name : String) :
    place.keys.under name = (key place name).keys := by
  unfold keys
  rw [nameKeyed]
  cases place.nameKeyed <;> simp [Keys.under, Keys.holdNames]

end Place

/-! ## One step -/

theorem lookup_strippedEntries (keys : Keys) (name : String) (entries : List (String × Json)) :
    (strippedEntries keys entries).lookup name =
      if keys.removes name then none
      else (entries.lookup name).map (stripped (keys.under name)) := by
  induction entries with
  | nil => simp [strippedEntries]
  | cons entry rest ih =>
      obtain ⟨first, value⟩ := entry
      rw [strippedEntries, List.lookup_cons]
      by_cases same : name = first
      · subst same
        by_cases removed : keys.removes name
        · rw [if_pos removed, ih, if_pos removed, if_pos removed]
        · simp [removed]
      · have other : (name == first) = false := beq_false_of_ne same
        by_cases removed : keys.removes first
        · rw [if_pos removed, ih, other]
        · rw [if_neg removed, List.lookup_cons, other, ih]

theorem get?_stripped (keys : Keys) (name : String) (value : Json) :
    (value.stripped keys).get? name =
      if keys.removes name then none else (value.get? name).map (stripped (keys.under name)) := by
  cases value with
  | object entries => exact lookup_strippedEntries keys name entries
  | _ => simp [stripped, get?]

theorem strippedElements_eq_map (elements : List Json) :
    strippedElements elements = elements.map (stripped .keywords) := by
  induction elements with
  | nil => rfl
  | cons element rest ih => rw [strippedElements, ih, List.map_cons]

theorem element?_stripped (keys : Keys) (i : Nat) (value : Json) :
    (value.stripped keys).element? i = (value.element? i).map (stripped .keywords) := by
  cases value with
  | list elements =>
      show (strippedElements elements)[i]? = elements[i]?.map (stripped .keywords)
      rw [strippedElements_eq_map, List.getElem?_map]
  | _ => rfl

theorem map_fst_strippedEntries (keys : Keys) (entries : List (String × Json)) :
    (strippedEntries keys entries).map Prod.fst =
      (entries.map Prod.fst).filter fun name => !keys.removes name := by
  induction entries with
  | nil => rfl
  | cons entry rest ih =>
      obtain ⟨first, value⟩ := entry
      rw [strippedEntries, List.map_cons]
      by_cases removed : keys.removes first
      · rw [if_pos removed, ih, List.filter_cons_of_neg (by simp [removed])]
      · rw [if_neg removed, List.map_cons, ih, List.filter_cons_of_pos (by simp [removed])]

/-! ## Places -/

/-- **The value at a place without the keyword**: none if the way there goes through a keyword
`format`, and the stripped value otherwise. -/
theorem at?_withoutFormat (value : Json) (place : Place) :
    value.withoutFormat.at? place =
      if place.avoidsFormat then (value.at? place).map (stripped place.keys) else none := by
  induction place with
  | whole => rfl
  | key place name ih =>
      rw [at?, at?, ih, Place.avoidsFormat]
      by_cases avoids : place.avoidsFormat
      · rw [if_pos avoids, avoids, Bool.true_and]
        cases value.at? place with
        | none => simp
        | some v =>
            show (v.stripped place.keys).get? name = _
            rw [get?_stripped, place.removes_keys, place.under_keys]
            cases place.keeps name <;> rfl
      · rw [if_neg avoids, if_neg (by simp [avoids])]
        rfl
  | index place i ih =>
      rw [at?, at?, ih, Place.avoidsFormat]
      by_cases avoids : place.avoidsFormat
      · rw [if_pos avoids, if_pos avoids]
        cases value.at? place with
        | none => rfl
        | some v => exact element?_stripped place.keys i v
      · rw [if_neg avoids, if_neg avoids]
        rfl

/-- The second value is the first one up to what is inside them and the entries that are not kept:
the same scalar, a list of the same length, or an object with the keys that are kept, in order. -/
def Alike (keeps : String → Bool) : Json → Json → Prop
  | object entries, after =>
    ∃ left, after = object left ∧ left.map Prod.fst = (entries.map Prod.fst).filter keeps
  | list elements, after => ∃ others, after = list others ∧ others.length = elements.length
  | scalar, after => after = scalar

theorem alike_stripped (place : Place) (value : Json) :
    Alike place.keeps value (value.stripped place.keys) := by
  cases value with
  | object entries =>
      refine ⟨_, rfl, ?_⟩
      rw [map_fst_strippedEntries]
      simp only [Place.removes_keys, Bool.not_not]
  | list elements =>
      refine ⟨_, rfl, ?_⟩
      rw [strippedElements_eq_map, List.length_map]
  | null => rfl
  | bool b => rfl
  | whole n => rfl
  | float x => rfl
  | text s => rfl

/-- **What removing the keyword `format` comes to.** A place is left if the way to it avoids the
keyword, and what stands there is alike. So a map with names for keys that is left keeps its entry
`format`, and no other object that is left has one. -/
structure RemovesFormat (before after : Json) : Prop where
  isSome_at? : ∀ place, (after.at? place).isSome ↔ (before.at? place).isSome ∧ place.avoidsFormat
  alike : ∀ place v w, before.at? place = some v → after.at? place = some w →
    Alike place.keeps v w
  name_stays : ∀ place, place.nameKeyed → (after.at? place).isSome →
    (before.at? (.key place "format")).isSome → (after.at? (.key place "format")).isSome
  keyword_goes : ∀ place entries, after.at? place = some (object entries) →
    "format" ∈ entries.map Prod.fst → place.nameKeyed

theorem removesFormat_withoutFormat (value : Json) : RemovesFormat value value.withoutFormat := by
  have left : ∀ place, (value.withoutFormat.at? place).isSome ↔
      (value.at? place).isSome ∧ place.avoidsFormat := by
    intro place
    rw [at?_withoutFormat]
    cases place.avoidsFormat <;> simp
  have alike : ∀ place v w, value.at? place = some v → value.withoutFormat.at? place = some w →
      Alike place.keeps v w := by
    intro place v w before after
    rw [at?_withoutFormat, before] at after
    cases avoids : place.avoidsFormat with
    | false => simp [avoids] at after
    | true =>
        rw [avoids] at after
        cases after
        exact alike_stripped place v
  refine ⟨left, alike, ?_, ?_⟩
  · intro place named there before
    refine (left _).mpr ⟨before, ?_⟩
    simp [Place.avoidsFormat, Place.keeps, named, ((left place).mp there).2]
  · intro place entries there mem
    obtain ⟨v, before⟩ := Option.isSome_iff_exists.mp ((left place).mp (by simp [there])).1
    have same := alike place v _ before there
    cases v with
    | object others =>
        obtain ⟨kept, equal, keys⟩ := same
        cases equal
        rw [keys] at mem
        simpa [Place.keeps] using (List.mem_filter.mp mem).2
    | list elements => obtain ⟨_, equal, -⟩ := same; cases equal
    | _ => cases same

/-! ## Once is enough -/

mutual

theorem stripped_stripped (keys : Keys) :
    (value : Json) → (value.stripped keys).stripped keys = value.stripped keys
  | object entries => by
    rw [stripped, stripped, strippedEntries_strippedEntries keys entries]
  | list elements => by
    rw [stripped, stripped, strippedElements_strippedElements elements]
  | null | bool _ | whole _ | float _ | text _ => rfl

theorem strippedElements_strippedElements :
    (elements : List Json) →
      strippedElements (strippedElements elements) = strippedElements elements
  | [] => rfl
  | element :: rest => by
    rw [strippedElements, strippedElements, stripped_stripped .keywords element,
      strippedElements_strippedElements rest]

theorem strippedEntries_strippedEntries (keys : Keys) :
    (entries : List (String × Json)) →
      strippedEntries keys (strippedEntries keys entries) = strippedEntries keys entries
  | [] => rfl
  | (name, value) :: rest => by
    rw [strippedEntries]
    by_cases removed : keys.removes name
    · rw [if_pos removed, strippedEntries_strippedEntries keys rest]
    · rw [if_neg removed, strippedEntries, if_neg removed,
        stripped_stripped (keys.under name) value, strippedEntries_strippedEntries keys rest]

end

/-- **Exactly the keyword `format` is removed**, from every JSON value, and removing it again
changes nothing. -/
theorem withoutFormat_exact (value : Json) :
    RemovesFormat value value.withoutFormat ∧
      value.withoutFormat.withoutFormat = value.withoutFormat :=
  ⟨removesFormat_withoutFormat value, stripped_stripped .keywords value⟩

/-- A property may be called `format`, and one called `properties` has keywords for keys. -/
example :
    (object [("properties", object
      [("format", object [("format", text "path")]),
        ("properties", object [("format", object [])])])]).withoutFormat =
      object [("properties", object [("format", object []), ("properties", object [])])] := rfl

end Json

end SchemaOutline

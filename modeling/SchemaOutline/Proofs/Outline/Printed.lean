import SchemaOutline.Proofs.Json.ReadBack
import SchemaOutline.Proofs.Outline.RoundTrip
import SchemaOutline.Proofs.Outline.Sources

/-!
# The text of a forest

A forest is written as a list of objects, one for each property, and an object holds those of the
properties directly below it in lists. So the containers of the text stand two deeper inside one
another with every level of properties. What is read from the text is a forest of the same
properties, whose literals are what is read from their own texts.

* `PropertyTree.depth_toJson` — how deep the text of a property is.
* `Outline.depth_propertiesJson_le`, `Outline.length_le_depth_propertiesJson` — how deep the text of
  a forest is, by the longest way down.
* `Outline.keysDistinct_propertiesJson` — the text repeats no key if no literal does.
* `Outline.floatsReadBack_propertiesJson_iff` — its numbers are those of the literals.
* `Outline.readList_of_readBack?` — what is read from the text is the forest only if the value is
  that of the forest.
-/

namespace SchemaOutline

open Json (elementsDepth entriesDepth elementsReadBack? entriesReadBack?)

namespace PropertyTree

theorem toJsons_eq_map (trees : List PropertyTree) : toJsons trees = trees.map toJson := by
  induction trees with
  | nil => rfl
  | cons p rest ih => rw [toJsons, ih, List.map_cons]

/-! ## Depth -/

theorem elementsDepth_toJsons_append (trees others : List PropertyTree) :
    elementsDepth (toJsons (trees ++ others)) =
      max (elementsDepth (toJsons trees)) (elementsDepth (toJsons others)) := by
  induction trees with
  | nil => simp [toJsons, elementsDepth]
  | cons p rest ih => rw [List.cons_append, toJsons, elementsDepth, ih, toJsons, elementsDepth,
      Nat.max_assoc]

/-- The object of a property is two containers deeper than what stands in its lists. -/
theorem depth_toJson (p : PropertyTree) :
    p.toJson.depth =
      max (elementsDepth (p.types.map TypeName.toJson))
        (max (elementsDepth p.literals) (elementsDepth (toJsons p.inner))) + 2 := by
  obtain ⟨name, types, elementType, elementProperties, literals, required, properties,
    variants⟩ := p
  have texts : elementsDepth (required.map Json.text) = 0 :=
    Nat.le_zero.mp (Json.elementsDepth_le_iff.mpr (by simp [Json.depth]))
  rw [inner, elementsDepth_toJsons_append, elementsDepth_toJsons_append, toJson]
  cases elementType <;> simp [Json.depth, entriesDepth, Json.entryOf, Json.texts, texts] <;> omega

/-- Types are one object deep. -/
theorem elementsDepth_types_le (types : List TypeName) :
    elementsDepth (types.map TypeName.toJson) ≤ 1 :=
  Json.elementsDepth_le_iff.mpr (List.forall_mem_map.mpr fun _ _ => Nat.le_refl 1)

/-- Below a property of a forest the ways down are one shorter. -/
theorem HeightLe.inner {forest : List PropertyTree} {n : Nat} (h : HeightLe forest (n + 1))
    {p : PropertyTree} (mem : p ∈ forest) : HeightLe p.inner n :=
  fun _ down => Nat.le_of_succ_le_succ (h _ (.cons mem down))

theorem eq_nil_of_heightLe {forest : List PropertyTree} (h : HeightLe forest 0) : forest = [] := by
  cases forest with
  | nil => rfl
  | cons p rest => exact absurd (h [p] (.cons List.mem_cons_self (.nil _))) (Nat.not_succ_le_zero 0)

/-- **Each level of a forest adds two containers at most**, and the literals at the end of a way
down add their own. -/
theorem elementsDepth_toJsons_le {d n : Nat} {forest : List PropertyTree}
    (height : HeightLe forest n)
    (flat : ∀ p ∈ forest, p.DrawsFrom fun literal => literal.depth ≤ d) :
    elementsDepth (toJsons forest) ≤ 2 * n + max 1 d := by
  induction n generalizing forest with
  | zero =>
      rw [eq_nil_of_heightLe height]
      exact Nat.zero_le _
  | succ n ih =>
      rw [toJsons_eq_map, Json.elementsDepth_le_iff]
      refine List.forall_mem_map.mpr fun p mem => ?_
      have own : elementsDepth p.literals ≤ d :=
        Json.elementsDepth_le_iff.mpr (flat p mem).literals
      have below := ih (height.inner mem) (flat p mem).inner
      have types := elementsDepth_types_le p.types
      rw [depth_toJson]
      omega

/-- **Each step of a way down adds two containers at least.** -/
theorem Chain.length_le_elementsDepth {forest chain : List PropertyTree}
    (down : Chain forest chain) : 2 * chain.length ≤ elementsDepth (toJsons forest) := by
  induction down with
  | nil => exact Nat.zero_le _
  | @cons forest rest p mem below ih =>
      have here : p.toJson.depth ≤ elementsDepth (toJsons forest) := by
        rw [toJsons_eq_map]
        exact Json.elementsDepth_le_iff.mp (Nat.le_refl _) _ (List.mem_map_of_mem mem)
      rw [depth_toJson] at here
      rw [List.length_cons]
      omega

/-! ## Keys -/

mutual

/-- The object of a property repeats no key if no literal does. -/
theorem keysDistinct_toJson : (p : PropertyTree) →
    p.DrawsFrom (fun literal => literal.keysDistinct) → p.toJson.keysDistinct
  | ⟨name, types, elementType, elementProperties, literals, required, properties, variants⟩, h => by
    have typesDistinct : (Json.list (types.map TypeName.toJson)).keysDistinct :=
      Json.keysDistinct_list_iff.mpr (List.forall_mem_map.mpr fun _ _ => rfl)
    have requiredDistinct : (Json.texts required).keysDistinct :=
      Json.keysDistinct_list_iff.mpr (List.forall_mem_map.mpr fun _ _ => rfl)
    have literalsDistinct := Json.keysDistinct_list_iff.mpr h.literals
    have elementsDistinct := Json.keysDistinct_list_iff.mpr
      (keysDistinct_toJsons elementProperties h.elementProperties)
    have propertiesDistinct := Json.keysDistinct_list_iff.mpr
      (keysDistinct_toJsons properties h.properties)
    have variantsDistinct := Json.keysDistinct_list_iff.mpr
      (keysDistinct_toJsons variants h.variants)
    have text (s : String) : (Json.text s).keysDistinct := rfl
    rw [toJson, Json.keysDistinct_object_iff]
    cases elementType <;> exact ⟨by simp [Json.entryOf], by simp_all [Json.entryOf]⟩

theorem keysDistinct_toJsons : (trees : List PropertyTree) →
    (∀ p ∈ trees, p.DrawsFrom fun literal => literal.keysDistinct) →
    ∀ value ∈ toJsons trees, value.keysDistinct
  | [], _ => List.forall_mem_nil _
  | p :: rest, h => by
    obtain ⟨first, others⟩ := List.forall_mem_cons.mp h
    exact List.forall_mem_cons.mpr
      ⟨keysDistinct_toJson p first, keysDistinct_toJsons rest others⟩

end

/-! ## What is read back -/

/-- The name of a property, its types and the type of its elements hold no floating numbers. -/
theorem floatsReadBack_front (name : String) (types : List TypeName) (elementType : Option String) :
    (Json.object ([("name", .text name), ("types", .list (types.map TypeName.toJson))] ++
      Json.entryOf "typeForArray" .text elementType)).floatsReadBack := by
  have typesBack : (Json.list (types.map TypeName.toJson)).floatsReadBack :=
    Json.floatsReadBack_list_iff.mpr (List.forall_mem_map.mpr fun _ _ => rfl)
  have text (s : String) : (Json.text s).floatsReadBack := rfl
  rw [Json.floatsReadBack_object_iff]
  cases elementType <;> simp [Json.entryOf, typesBack, text]

/-- Nor do its required names. -/
theorem floatsReadBack_required (required : List String) :
    (Json.texts required).floatsReadBack :=
  Json.floatsReadBack_list_iff.mpr (List.forall_mem_map.mpr fun _ _ => rfl)

mutual

/-- **The numbers of a property are read back** if those of all literals below it are. -/
theorem floatsReadBack_toJson_iff : (p : PropertyTree) →
    (p.toJson.floatsReadBack ↔ p.DrawsFrom fun literal => literal.floatsReadBack)
  | ⟨name, types, elementType, elementProperties, literals, required, properties, variants⟩ => by
    have front := Json.floatsReadBack_object_iff.mp (floatsReadBack_front name types elementType)
    rw [toJson, Json.floatsReadBack_object_iff, List.forall_mem_append]
    simp only [List.forall_mem_cons, Json.floatsReadBack_list_iff]
    constructor
    · rintro ⟨-, elementsBack, literalsBack, -, propertiesBack, variantsBack, -⟩
      exact .mk literalsBack ((floatsReadBack_toJsons_iff properties).mp propertiesBack)
        ((floatsReadBack_toJsons_iff elementProperties).mp elementsBack)
        ((floatsReadBack_toJsons_iff variants).mp variantsBack)
    · intro h
      exact ⟨front, (floatsReadBack_toJsons_iff elementProperties).mpr h.elementProperties,
        h.literals, floatsReadBack_required required,
        (floatsReadBack_toJsons_iff properties).mpr h.properties,
        (floatsReadBack_toJsons_iff variants).mpr h.variants, List.forall_mem_nil _⟩

theorem floatsReadBack_toJsons_iff : (trees : List PropertyTree) →
    ((∀ value ∈ toJsons trees, value.floatsReadBack) ↔
      ∀ p ∈ trees, p.DrawsFrom fun literal => literal.floatsReadBack)
  | [] => by simp [toJsons]
  | p :: rest => by
    rw [toJsons, List.forall_mem_cons, List.forall_mem_cons, floatsReadBack_toJson_iff p,
      floatsReadBack_toJsons_iff rest]

end

mutual

/-- **What is read from the text of a property is the object of a property.** -/
theorem exists_toJson_of_readBack? {room : Nat} {v : Json} : (p : PropertyTree) →
    p.toJson.readBack? room = some v → ∃ q : PropertyTree, v = q.toJson
  | ⟨name, types, elementType, elementProperties, literals, required, properties, variants⟩,
    back => by
    rw [toJson] at back
    obtain ⟨left, _, entriesBack, rfl⟩ := Json.exists_entriesReadBack? back
    obtain ⟨front, _, own, below, rfl⟩ := Json.exists_of_entriesReadBack?_append entriesBack
    -- no numbers stand in front of the lists, so what is read there is what was written
    have same :=
      Json.entries_eq_of_readBack? (floatsReadBack_front name types elementType) own
    simp only [Json.entriesReadBack?_cons_eq_some_iff] at below
    obtain ⟨_, _, elementsBack, ⟨_, _, literalsBack, ⟨_, _, requiredBack, ⟨_, _, propertiesBack,
      ⟨_, _, variantsBack, last, rfl⟩, rfl⟩, rfl⟩, rfl⟩, rfl⟩ := below
    obtain ⟨_, _, elementsEach, rfl⟩ := Json.exists_elementsReadBack? elementsBack
    obtain ⟨_, literals', -, rfl⟩ := Json.exists_elementsReadBack? literalsBack
    obtain ⟨_, _, propertiesEach, rfl⟩ := Json.exists_elementsReadBack? propertiesBack
    obtain ⟨_, _, variantsEach, rfl⟩ := Json.exists_elementsReadBack? variantsBack
    obtain ⟨elementProperties', rfl⟩ := exists_toJsons_of_readBack? elementProperties elementsEach
    obtain ⟨properties', rfl⟩ := exists_toJsons_of_readBack? properties propertiesEach
    obtain ⟨variants', rfl⟩ := exists_toJsons_of_readBack? variants variantsEach
    refine ⟨⟨name, types, elementType, elementProperties', literals', required, properties',
      variants'⟩, ?_⟩
    rw [same, Json.eq_of_readBack? (floatsReadBack_required required) requiredBack,
      ← Option.some.inj last]
    rfl

theorem exists_toJsons_of_readBack? {room : Nat} {values : List Json} :
    (trees : List PropertyTree) → elementsReadBack? room (toJsons trees) = some values →
    ∃ others, values = toJsons others
  | [], back => ⟨[], (Option.some.inj back).symm⟩
  | p :: rest, back => by
    simp only [toJsons, elementsReadBack?, Option.bind_eq_bind, Option.bind_eq_some_iff] at back
    obtain ⟨w, first, tail, later, made⟩ := back
    obtain ⟨q, rfl⟩ := exists_toJson_of_readBack? p first
    obtain ⟨others, rfl⟩ := exists_toJsons_of_readBack? rest later
    exact ⟨q :: others, (Option.some.inj made).symm⟩

end

end PropertyTree

namespace Outline

variable {forest : List PropertyTree}

theorem depth_propertiesJson_le {d n : Nat} (height : PropertyTree.HeightLe forest n)
    (flat : ∀ p ∈ forest, p.DrawsFrom fun literal => literal.depth ≤ d) :
    (propertiesJson forest).depth ≤ 2 * n + max 1 d + 1 := by
  rw [propertiesJson, ← PropertyTree.toJsons_eq_map, Json.depth]
  exact Nat.succ_le_succ (PropertyTree.elementsDepth_toJsons_le height flat)

theorem length_le_depth_propertiesJson {chain : List PropertyTree}
    (down : PropertyTree.Chain forest chain) :
    2 * chain.length + 1 ≤ (propertiesJson forest).depth := by
  rw [propertiesJson, ← PropertyTree.toJsons_eq_map, Json.depth]
  exact Nat.succ_le_succ down.length_le_elementsDepth

theorem keysDistinct_propertiesJson
    (distinct : ∀ p ∈ forest, p.DrawsFrom fun literal => literal.keysDistinct) :
    (propertiesJson forest).keysDistinct := by
  rw [propertiesJson, ← PropertyTree.toJsons_eq_map, Json.keysDistinct_list_iff]
  exact PropertyTree.keysDistinct_toJsons forest distinct

theorem floatsReadBack_propertiesJson_iff :
    (propertiesJson forest).floatsReadBack ↔
      ∀ p ∈ forest, p.DrawsFrom fun literal => literal.floatsReadBack := by
  rw [propertiesJson, ← PropertyTree.toJsons_eq_map, Json.floatsReadBack_list_iff]
  exact PropertyTree.floatsReadBack_toJsons_iff forest

/-- The value of a forest reads as the forest. -/
theorem readList_propertiesJson (forest : List PropertyTree) :
    Json.readList PropertyTree.read (propertiesJson forest) = .ok forest :=
  Json.readList_map fun p _ => p.read_toJson

/-- **What is read from the text of a forest** reads as the forest only if it is the value that was
written. -/
theorem readList_of_readBack? {room : Nat} {v : Json}
    (back : (propertiesJson forest).readBack? room = some v) :
    Json.readList PropertyTree.read v = .ok forest ↔ v = propertiesJson forest := by
  constructor
  · intro reads
    rw [propertiesJson, ← PropertyTree.toJsons_eq_map] at back
    obtain ⟨_, _, each, rfl⟩ := Json.exists_elementsReadBack? back
    obtain ⟨others, rfl⟩ := PropertyTree.exists_toJsons_of_readBack? forest each
    rw [PropertyTree.toJsons_eq_map, ← propertiesJson, readList_propertiesJson] at reads
    rw [PropertyTree.toJsons_eq_map, Except.ok.inj reads, propertiesJson]
  · rintro rfl
    exact readList_propertiesJson forest

end Outline

end SchemaOutline

import SchemaOutline.Proofs.Outline.Variants
import Mathlib.Data.ENat.Lattice

/-!
# Maps of maps

The values of a map may be maps themselves, by reference to a definition, and so on: through
finitely many definitions, or round a circle of them without end. The property of such a map has a
property for its values, which has one for theirs, until the definitions or the levels end. Each of
them is the shape of its own definition. The property of a definition that is resolved for its own
sake has one thing more, the types that its values declare themselves: one level down they are
dropped.

* `PropertyTree.lastValues?`, `PropertyTree.valuesTrail` — from a property to that of its values, to
  that of their values and so on.
* `PropertyTree.StandsForValues` — a property is the shape of a definition.
* `Schema.MapChain` — definitions each of which is a map of the next one.
* `Steps.valuesTrail_resolveValues` — one property for each of them, as far as the levels go.
* `Document.valuesTrail_mapsOfMaps` — the same for a top-level property.
* `Document.types_mapOfMap` — which types are left of a map that is the value of a map.
-/

namespace SchemaOutline

open PropertyTree (valuesName)

/-! ## From a map to its values -/

namespace PropertyTree

/-- The last property directly below that stands for values. -/
def lastValues? (p : PropertyTree) : Option PropertyTree :=
  (p.properties.filter (·.name == valuesName)).getLast?

theorem mem_of_lastValues? {p child : PropertyTree} (last : p.lastValues? = some child) :
    child ∈ p.properties :=
  (List.mem_filter.mp (List.mem_of_getLast? last)).1

theorem sizeOf_lt_of_lastValues? {p child : PropertyTree} (last : p.lastValues? = some child) :
    sizeOf child < sizeOf p := by
  have inside := List.sizeOf_lt_of_mem (mem_of_lastValues? last)
  cases p
  simp only [PropertyTree.mk.sizeOf_spec]
  dsimp only at inside
  omega

/-- **The way down a map of maps**: the last property for the values, the last one for the values of
these, and so on. -/
def valuesTrail (p : PropertyTree) : List PropertyTree :=
  match _ : p.lastValues? with
  | some child => child :: child.valuesTrail
  | none => []
termination_by sizeOf p
decreasing_by exact sizeOf_lt_of_lastValues? ‹_›

theorem valuesTrail_of_some {p child : PropertyTree} (last : p.lastValues? = some child) :
    p.valuesTrail = child :: child.valuesTrail := by
  rw [valuesTrail]
  split <;> simp_all

theorem valuesTrail_of_none {p : PropertyTree} (last : p.lastValues? = none) :
    p.valuesTrail = [] := by
  rw [valuesTrail]
  split <;> simp_all

/-- **A property is the shape of a definition**: it stands for values and has the types, the
literals and the required names that the definition declares, and one variant for each of its. -/
structure StandsForValues (p : PropertyTree) (s : Schema) : Prop where
  name : p.name = valuesName
  types : p.types = s.declaredTypes
  literals : p.literals = s.literalValues
  required : p.required = s.requiredNames
  variants : p.variants.map (·.name) = (s.oneOf.getD []).map fun variant => variant.tag.getD ""

/-- Behind properties none of which stands for values, the one that does is the last. -/
theorem lastValues?_append_single {p child : PropertyTree} {others : List PropertyTree}
    (split : p.properties = others ++ [child]) (name : child.name = valuesName) :
    p.lastValues? = some child := by
  rw [lastValues?, split, List.filter_append]
  simp [name]

theorem lastValues?_single {p child : PropertyTree} (only : p.properties = [child])
    (name : child.name = valuesName) : p.lastValues? = some child :=
  @lastValues?_append_single p child [] only name

theorem lastValues?_eq_none {p : PropertyTree} (free : valuesName ∉ p.properties.map (·.name)) :
    p.lastValues? = none := by
  rw [lastValues?, List.getLast?_eq_none_iff, List.filter_eq_nil_iff]
  intro child mem named
  exact free (List.mem_map.mpr ⟨child, mem, by simpa using named⟩)

end PropertyTree

/-! ## Definitions that are maps of each other -/

namespace Schema

/-- A schema is a map whose values the given schema describes. -/
def IsMapOf (s values : Schema) : Prop :=
  s.values = some (.each values)

/-- **Definitions each of which is a map of the next one**, `n` of them or without end; the last of
them has no schema for its values. None of them declares a property that has the name of the one for
values. -/
structure MapChain (target? : Schema → Option Schema) (maps : ℕ → Schema) (n : ℕ∞) : Prop where
  unnamed : ∀ i : ℕ, (i : ℕ∞) < n → valuesName ∉ (maps i).namedProperties.map Prod.fst
  next : ∀ i : ℕ, (i : ℕ∞) + 1 < n →
    ∃ values, (maps i).IsMapOf values ∧ target? values = some (maps (i + 1))
  last : ∀ i : ℕ, (i : ℕ∞) + 1 = n → ∀ values, ¬ (maps i).IsMapOf values

end Schema

namespace Steps

section Values

variable (below : Steps Id) (target? : Schema → Option Schema) (target : Schema)

theorem standsForValues_resolveValues (keeps : below.KeepsOwn) :
    (below.resolveValues target? target).run.StandsForValues target := by
  have variants : (below.resolveValues target? target).run.variants.map (·.name) =
      (target.oneOf.getD []).map fun variant => variant.tag.getD "" := by
    rw [run_resolveValues_variants, run_resolveVariants, List.map_map]
    exact List.map_congr_left fun variant _ => resolvePlain_name keeps target? _ variant
  refine ⟨?_, ?_, ?_, ?_, variants⟩ <;>
  · unfold resolveValues
    simp only [Id.run_bind]
    split <;> rfl

theorem run_resolveValues_properties_map {values : Schema} (map : target.IsMapOf values) :
    (below.resolveValues target? target).run.properties =
      (below.properties target).run ++ (below.values target).run := by
  unfold resolveValues
  rw [map]
  rfl

theorem run_resolveValues_properties_last (last : ∀ values, ¬ target.IsMapOf values) :
    (below.resolveValues target? target).run.properties = (below.properties target).run := by
  unfold resolveValues
  split
  · exact absurd ‹_› (last _)
  · exact List.append_nil _

end Values

/-- A map whose values a definition describes has the shape of the definition for its values. -/
theorem lastValues?_resolveMap {below : Steps Id} (keeps : below.KeepsOwn)
    {target? : Schema → Option Schema} (name : String) {s values target : Schema}
    (map : s.IsMapOf values) (found : target? values = some target) :
    (below.resolveMap target? name s).run.lastValues? =
      some (below.resolveValues target? target).run := by
  have shape := standsForValues_resolveValues below target? target keeps
  rw [run_resolveMap_values _ _ map found]
  exact PropertyTree.lastValues?_single rfl shape.name

variable {target? : Schema → Option Schema} {maps : ℕ → Schema} {n : ℕ∞}

/-- The properties of a schema on any level are among the declared ones. -/
theorem map_name_run_properties_subset (room : ℕ) (s : Schema) :
    ((ofRoom .plain target? room).properties s).run.map (·.name) ⊆
      s.namedProperties.map Prod.fst := by
  cases room with
  | zero =>
      intro name mem
      rw [ofRoom, run_exhausted_properties] at mem
      cases mem
  | succ room => rw [map_name_ofRoom_properties]; exact List.Subset.refl _

theorem run_ofRoom_values_succ (room : ℕ) {s values target : Schema} (map : s.IsMapOf values)
    (found : target? values = some target) :
    ((ofRoom .plain target? (room + 1)).values s).run =
      [((ofRoom .plain target? room).resolveValues target? target).run] := by
  show ((ofRoom .plain target? room).resolveMap target? valuesName s).run.properties = _
  rw [run_resolveMap_values _ _ map found]

/-- **One step down a map of maps**: below the property for a definition is the one for the next
definition, or there is none because it was the last one or the levels are used up. -/
theorem lastValues?_resolveValues (chain : Schema.MapChain target? maps n) (room i : ℕ)
    (within : (i : ℕ∞) < n) :
    let child := ((ofRoom .plain target? room).resolveValues target? (maps i)).run
    (child.lastValues? = none ∧ ((i : ℕ∞) + 1 = n ∨ room = 0)) ∨
    ∃ fewer, room = fewer + 1 ∧ (i : ℕ∞) + 1 < n ∧ child.lastValues? =
      some ((ofRoom .plain target? fewer).resolveValues target? (maps (i + 1))).run := by
  intro child
  have unnamed : valuesName ∉ ((ofRoom .plain target? room).properties (maps i)).run.map (·.name) :=
    fun mem => chain.unnamed i within (map_name_run_properties_subset room (maps i) mem)
  rcases (Order.add_one_le_of_lt within).eq_or_lt with last | more
  · refine .inl ⟨PropertyTree.lastValues?_eq_none ?_, .inl last⟩
    rw [run_resolveValues_properties_last _ target? _ (chain.last i last)]
    exact unnamed
  · obtain ⟨values, map, found⟩ := chain.next i more
    have properties : child.properties = _ :=
      run_resolveValues_properties_map (ofRoom .plain target? room) target? _ map
    cases room with
    | zero =>
        have nothing : ((ofRoom .plain target? 0).values (maps i)).run = [] := rfl
        refine .inl ⟨PropertyTree.lastValues?_eq_none ?_, .inr rfl⟩
        rw [properties, nothing, List.append_nil]
        exact unnamed
    | succ room =>
        have next := standsForValues_resolveValues _ target? (maps (i + 1))
          (ofRoom_keepsOwn target? room)
        rw [run_ofRoom_values_succ room map found] at properties
        exact .inr ⟨room, rfl, more, PropertyTree.lastValues?_append_single properties next.name⟩

/-- **One property for each definition, as far as the levels go**: from the definition at `i` on, a
level with `room` levels below it resolves at most `room + 1` of them. The induction is on the
levels; the definitions may go round in a circle. -/
theorem valuesTrail_resolveValues (chain : Schema.MapChain target? maps n) (room i : ℕ)
    (within : (i : ℕ∞) < n) :
    let child := ((ofRoom .plain target? room).resolveValues target? (maps i)).run
    (child.valuesTrail.length : ℕ∞) + (i + 1) = min n (room + (i + 1)) ∧
    ∀ (j : ℕ) (tree : PropertyTree), (child :: child.valuesTrail)[j]? = some tree →
      tree.StandsForValues (maps (i + j)) := by
  induction room using Nat.strong_induction_on generalizing i with
  | _ room ih =>
      intro child
      have own : child.StandsForValues (maps i) :=
        standsForValues_resolveValues _ target? _ (ofRoom_keepsOwn target? room)
      rcases lastValues?_resolveValues chain room i within with
        ⟨none, ended⟩ | ⟨fewer, rfl, more, next⟩
      · rw [PropertyTree.valuesTrail_of_none none]
        constructor
        · rw [List.length_nil, Nat.cast_zero, zero_add]
          rcases ended with rfl | rfl
          · exact (min_eq_left le_add_self).symm
          · rw [Nat.cast_zero, zero_add, min_eq_right (Order.add_one_le_of_lt within)]
        · intro j tree here
          cases j with
          | zero => cases here; exact own
          | succ j => cases here
      · have after : ((i + 1 : ℕ) : ℕ∞) < n := by exact_mod_cast more
        obtain ⟨length, shapes⟩ := ih fewer (Nat.lt_succ_self fewer) (i + 1) after
        rw [PropertyTree.valuesTrail_of_some next]
        constructor
        · have regroup (k : ℕ∞) : k + 1 + (i + 1) = k + (i + 1 + 1) := by rw [add_assoc, add_comm 1]
          rw [List.length_cons]
          push_cast at length ⊢
          rw [regroup, regroup, length]
        · intro j tree here
          cases j with
          | zero => cases here; exact own
          | succ j =>
              rw [← Nat.add_assoc, Nat.add_right_comm]
              exact shapes j tree here

/-- A map has one property for its values. That one has the types of the definition that the values
refer to, and the types that the values declare themselves are types of the map. -/
theorem exists_run_resolveMap {below : Steps Id} (keeps : below.KeepsOwn)
    (target? : Schema → Option Schema) (name : String) {s values : Schema}
    (map : s.IsMapOf values) :
    ∃ child, (below.resolveMap target? name s).run.properties = [child] ∧
      child.name = valuesName ∧
      child.types = ((target? values).map Schema.declaredTypes).getD [] ∧
      (below.resolveMap target? name s).run.types = ⟨"object"⟩ :: values.declaredTypes := by
  cases found : target? values with
  | some target =>
      have shape := standsForValues_resolveValues below target? target keeps
      rw [run_resolveMap_values _ _ map found]
      exact ⟨_, rfl, shape.name, shape.types, (withElements_same keeps target? target _).types⟩
  | none =>
      have run : (below.resolveMap target? name s).run = { PropertyTree.named name with
          types := ⟨"object"⟩ :: values.declaredTypes
          properties := [.named valuesName] } := by
        rw [resolveMap, map]
        dsimp only
        rw [found]
        rfl
      rw [run]
      exact ⟨_, rfl, rfl, rfl, rfl⟩

end Steps

/-! ## Top-level maps -/

/-- A schema is a map whose values are described by the definition of a name. -/
def Schema.IsMapOfDefinition (s : Schema) (name : String) : Prop :=
  ∃ values, s.IsMapOf values ∧ values.ref = some (Document.reference name)

namespace Document

/-- **A map of maps**: the values of a schema are described by the first of `n` definitions, or of a
sequence without end, and the values of each definition by the next one. Their names have no slash,
and none of them declares a property that has the name of the one for values. -/
structure MapsOfMaps (d : Document) (s : Schema) (names : ℕ → String) (maps : ℕ → Schema)
    (n : ℕ∞) : Prop where
  positive : 0 < n
  plain : ∀ i : ℕ, (i : ℕ∞) < n → '/' ∉ (names i).toList
  defined : ∀ i : ℕ, (i : ℕ∞) < n → d.definition? (names i) = some (maps i)
  unnamed : ∀ i : ℕ, (i : ℕ∞) < n → valuesName ∉ (maps i).namedProperties.map Prod.fst
  first : s.IsMapOfDefinition (names 0)
  next : ∀ i : ℕ, (i : ℕ∞) + 1 < n → (maps i).IsMapOfDefinition (names (i + 1))
  last : ∀ i : ℕ, (i : ℕ∞) + 1 = n → ∀ values, ¬ (maps i).IsMapOf values

variable {d : Document}

namespace MapsOfMaps

variable {s : Schema} {names : ℕ → String} {maps : ℕ → Schema} {n : ℕ∞}

theorem referenced? (chain : d.MapsOfMaps s names maps n) {i : ℕ} (within : (i : ℕ∞) < n)
    {values : Schema} (ref : values.ref = some (reference (names i))) :
    d.referenced? values = some (maps i) := by
  rw [referenced?_of_ref (chain.plain i within) ref, chain.defined i within]

theorem mapChain (chain : d.MapsOfMaps s names maps n) :
    Schema.MapChain d.referenced? maps n where
  unnamed := chain.unnamed
  next := by
    intro i more
    obtain ⟨values, map, ref⟩ := chain.next i more
    have within : ((i + 1 : ℕ) : ℕ∞) < n := by exact_mod_cast more
    exact ⟨values, map, chain.referenced? within ref⟩
  last := chain.last

end MapsOfMaps

/-- **A map of maps unfolds level by level.** Going from a top-level map to the property for its
values, to the one for their values and so on meets a property for each of the definitions, but no
more than there are levels, and each of them is the shape of its definition. -/
theorem valuesTrail_mapsOfMaps {name : String} {j : ℕ} {s : Schema} {names : ℕ → String}
    {maps : ℕ → Schema} {n : ℕ∞} (here : d.properties[j]? = some (name, s)) (alone : s.anyOf = none)
    (chain : d.MapsOfMaps s names maps n) :
    ∃ tree, (Outline.ofDocument d).properties[j]? = some tree ∧
      (tree.valuesTrail.length : ℕ∞) = min n maxLevels ∧
      ∀ (i : ℕ) (child : PropertyTree), tree.valuesTrail[i]? = some child →
        child.StandsForValues (maps i) := by
  obtain ⟨values, map, ref⟩ := chain.first
  have found := chain.referenced? chain.positive ref
  obtain ⟨length, shapes⟩ :=
    Steps.valuesTrail_resolveValues chain.mapChain (maxLevels - 1) 0 chain.positive
  have tree := getElem?_outlineProperties here
  rw [Steps.resolveProperty_map _ _ _ alone (by rw [map]; rfl), topSteps] at tree
  have keeps := Steps.ofRoom_keepsOwn d.referenced? (maxLevels - 1)
  have trail := PropertyTree.valuesTrail_of_some (Steps.lastValues?_resolveMap keeps name map found)
  refine ⟨_, tree, ?_, ?_⟩
  · rw [trail, List.length_cons]
    rw [Nat.cast_zero, zero_add] at length
    exact_mod_cast length
  · intro i child at_i
    rw [trail] at at_i
    rw [← Nat.zero_add i]
    exact shapes i child at_i

/-- **What is left of a map that is the value of a map.** The property for the values of a top-level
map has the types of their definition, and if these are maps, the one for their values has the types
of the definition that these refer to. The types that they declare themselves are on neither, though
they are types of the property of the definition on its own. -/
theorem types_mapOfMap {definition name : String} {j : ℕ} {s outer target values : Schema}
    (plain : '/' ∉ definition.toList) (defined : d.definition? definition = some target)
    (single : target.anyOf = none) (inner : target.IsMapOf values)
    (here : d.properties[j]? = some (name, s)) (alone : s.anyOf = none) (map : s.IsMapOf outer)
    (ref : outer.ref = some (reference definition)) :
    ∃ tree child last direct,
      (Outline.ofDocument d).properties[j]? = some tree ∧ tree.properties = [child] ∧
      child.lastValues? = some last ∧ d.propertyWithin? name target maxLevels = some direct ∧
      direct.types = ⟨"object"⟩ :: values.declaredTypes ∧
      child.types = target.declaredTypes ∧
      last.types = ((d.referenced? values).map Schema.declaredTypes).getD [] ∧
      ∀ type, type ∈ child.types ∨ type ∈ last.types ↔
        type ∈ target.declaredTypes ∨
          ∃ innermost, d.referenced? values = some innermost ∧ type ∈ innermost.declaredTypes := by
  have keeps := Steps.ofRoom_keepsOwn d.referenced?
  have found : d.referenced? outer = some target := by rw [referenced?_of_ref plain ref, defined]
  have isMap : target.values.isSome := by rw [inner]; rfl
  have tree := getElem?_outlineProperties here
  rw [Steps.resolveProperty_map _ _ _ alone (by rw [map]; rfl)] at tree
  -- the definition on its own, and the throw-away map one level down
  obtain ⟨-, -, -, -, ownTypes⟩ :=
    Steps.exists_run_resolveMap (keeps (maxLevels - 1)) d.referenced? name inner
  obtain ⟨last, only, lastName, lastTypes, -⟩ :=
    Steps.exists_run_resolveMap (keeps (maxLevels - 2)) d.referenced? valuesName inner
  have properties := Steps.run_resolveValues_properties_map d.topSteps d.referenced? target inner
  have below : (d.topSteps.values target).run = [last] := only
  rw [below] at properties
  have shape := Steps.standsForValues_resolveValues d.topSteps d.referenced? target (keeps _)
  refine ⟨_, _, last, _, tree, ?_, PropertyTree.lastValues?_append_single properties lastName, rfl,
    ?_, shape.types, lastTypes, ?_⟩
  · rw [Steps.run_resolveMap_values _ _ map found]
  · rw [Steps.resolveProperty_map _ _ _ single isMap]
    exact ownTypes
  · intro type
    rw [shape.types, lastTypes]
    cases d.referenced? values <;> simp

end Document

namespace Archive

/-- A map of what a definition describes. -/
def mapOf (name : String) : Schema where
  types := some (.single "object")
  values := some (.each (.reference (Document.reference name)))

def letter : Schema where
  types := some (.single "string")
  required := some ["sender"]
  oneOf := some [{ literals := some [.text "sent"] }, { literals := some [.text "received"] }]

def mapJson (name : String) : Json :=
  .object
    [("type", .text "object"),
      ("additionalProperties", .object [("$ref", .text (Document.reference name))])]

def letterJson : Json :=
  let variant := fun text => Json.object [("enum", .list [.text text])]
  .object
    [("type", .text "string"), ("required", .list [.text "sender"]),
      ("oneOf", .list [variant "sent", variant "received"])]

def json : Json :=
  .object
    [("properties", .object [("rooms", mapJson "Room"), ("drawers", mapJson "Drawer")]),
      ("definitions", .object
        [("Room", mapJson "Room"), ("Drawer", mapJson "Letter"), ("Letter", letterJson)])]

/-- An archive whose rooms have rooms without end, and whose drawers have letters. -/
def document : Document where
  raw := json
  root := { properties := some [("rooms", mapOf "Room"), ("drawers", mapOf "Drawer")] }
  definitions := [("Room", mapOf "Room"), ("Drawer", mapOf "Letter"), ("Letter", letter)]

theorem ofJson_json : Document.ofJson json = .ok document := rfl

theorem mapOf_isMapOfDefinition (name : String) : (mapOf name).IsMapOfDefinition name :=
  ⟨_, rfl, rfl⟩

theorem rooms : document.MapsOfMaps (mapOf "Room") (fun _ => "Room") (fun _ => mapOf "Room") ⊤ where
  positive := ENat.top_pos
  plain := fun _ _ => by decide
  defined := fun _ _ => rfl
  unnamed := fun _ _ => List.not_mem_nil
  first := mapOf_isMapOfDefinition "Room"
  next := fun _ _ => mapOf_isMapOfDefinition "Room"
  last := fun i top => absurd top (ENat.natCast_ne_top (i + 1))

def drawerNames (i : ℕ) : String :=
  if i = 0 then "Drawer" else "Letter"

def drawerMaps (i : ℕ) : Schema :=
  if i = 0 then mapOf "Letter" else letter

theorem drawers : document.MapsOfMaps (mapOf "Drawer") drawerNames drawerMaps 2 := by
  have cases (i : ℕ) (within : (i : ℕ∞) < 2) : i = 0 ∨ i = 1 := by
    have : i < 2 := by exact_mod_cast within
    omega
  refine ⟨by decide, ?_, ?_, ?_, mapOf_isMapOfDefinition "Drawer", ?_, ?_⟩
  · intro i within
    rcases cases i within with rfl | rfl <;> decide
  · intro i within
    rcases cases i within with rfl | rfl <;> rfl
  · intro i within
    rcases cases i within with rfl | rfl <;> exact List.not_mem_nil
  · intro i more
    have : i + 1 < 2 := by exact_mod_cast more
    obtain rfl : i = 0 := by omega
    exact mapOf_isMapOfDefinition "Letter"
  · intro i last values map
    have : i + 1 = 2 := by exact_mod_cast last
    obtain rfl : i = 1 := by omega
    cases map

end Archive

/-- The rooms of an archive unfold to the last level, and its drawers to the letters in them. -/
theorem Document.valuesTrail_mapsOfMaps_archive :
    ofJson Archive.json = .ok Archive.document ∧
    Archive.document.properties[0]? = some ("rooms", Archive.mapOf "Room") ∧
    Archive.document.properties[1]? = some ("drawers", Archive.mapOf "Drawer") ∧
    (∀ name, (Archive.mapOf name).anyOf = none) ∧
    Archive.document.MapsOfMaps (Archive.mapOf "Room") (fun _ => "Room")
      (fun _ => Archive.mapOf "Room") ⊤ ∧
    Archive.document.MapsOfMaps (Archive.mapOf "Drawer") Archive.drawerNames Archive.drawerMaps 2 ∧
    ∃ rooms drawers,
      (Outline.ofDocument Archive.document).properties[0]? = some rooms ∧
      (Outline.ofDocument Archive.document).properties[1]? = some drawers ∧
      rooms.valuesTrail.length = 64 ∧ drawers.valuesTrail.length = 2 ∧
      ∀ letter, drawers.valuesTrail[1]? = some letter → letter.StandsForValues Archive.letter := by
  obtain ⟨rooms, isRooms, endless, -⟩ :=
    valuesTrail_mapsOfMaps (j := 0) rfl rfl Archive.rooms
  obtain ⟨drawers, isDrawers, two, shapes⟩ :=
    valuesTrail_mapsOfMaps (j := 1) rfl rfl Archive.drawers
  refine ⟨Archive.ofJson_json, rfl, rfl, fun _ => rfl, Archive.rooms, Archive.drawers, rooms,
    drawers, isRooms, isDrawers, ?_, ?_, shapes 1⟩
  · rw [min_eq_right le_top] at endless
    exact_mod_cast endless
  · rw [min_eq_left (by decide)] at two
    exact_mod_cast two

namespace Market

def integer : Schema where
  types := some (.single "integer")

def priceList : Schema where
  types := some (.single "object")
  values := some (.each integer)

def prices : Schema where
  values := some (.each (.reference (Document.reference "PriceList")))

def json : Json :=
  .object
    [("properties", .object
        [("prices", .object
          [("additionalProperties", .object [("$ref", .text "#/definitions/PriceList")])])]),
      ("definitions", .object
        [("PriceList", .object
          [("type", .text "object"),
            ("additionalProperties", .object [("type", .text "integer")])])])]

/-- A market with a price list for each of its stalls. -/
def document : Document where
  raw := json
  root := { properties := some [("prices", prices)] }
  definitions := [("PriceList", priceList)]

theorem ofJson_json : Document.ofJson json = .ok document := rfl

end Market

/-- The prices of a market, one by one and as a price list on its own. -/
theorem Document.types_mapOfMap_market :
    '/' ∉ "PriceList".toList ∧
    Market.document.definition? "PriceList" = some Market.priceList ∧
    Market.priceList.anyOf = none ∧ Market.priceList.IsMapOf Market.integer ∧
    Market.document.properties[0]? = some ("prices", Market.prices) ∧
    Market.prices.anyOf = none ∧
    Market.prices.IsMapOf (.reference (reference "PriceList")) ∧
    ∃ tree child last direct,
      (Outline.ofDocument Market.document).properties[0]? = some tree ∧
      tree.properties = [child] ∧ child.lastValues? = some last ∧
      Market.document.propertyWithin? "prices" Market.priceList maxLevels = some direct ∧
      direct.types = [⟨"object"⟩, ⟨"integer"⟩] ∧ child.types = [⟨"object"⟩] ∧ last.types = [] := by
  have plain : '/' ∉ "PriceList".toList := by decide
  obtain ⟨tree, child, last, direct, isTree, isChild, isLast, isDirect, ownTypes, types, lastTypes,
    -⟩ := types_mapOfMap (d := Market.document) (j := 0) plain rfl rfl rfl rfl rfl rfl rfl
  exact ⟨plain, rfl, rfl, rfl, rfl, rfl, rfl, tree, child, last, direct, isTree, isChild, isLast,
    isDirect, ownTypes, types, lastTypes⟩

/-- That a price is an integer is not seen in the prices of a market. -/
theorem Document.types_lost_market :
    ofJson Market.json = .ok Market.document ∧
    Market.document.properties = [("prices", Market.prices)] ∧
    Market.prices.IsMapOf (.reference (reference "PriceList")) ∧
    Market.document.definition? "PriceList" = some Market.priceList ∧
    Market.priceList.anyOf = none ∧ Market.priceList.IsMapOf Market.integer ∧
    Market.integer.declaredTypes = [⟨"integer"⟩] ∧
    ∃ tree child last, (Outline.ofDocument Market.document).properties = [tree] ∧
      tree.properties = [child] ∧ child.properties = [last] ∧ last.name = valuesName ∧
      ¬ (⟨"integer"⟩ ∈ child.types ∨ ⟨"integer"⟩ ∈ last.types) :=
  ⟨Market.ofJson_json, rfl, rfl, rfl, rfl, rfl, rfl, _, _, _, rfl, rfl, rfl, rfl, by decide⟩

end SchemaOutline

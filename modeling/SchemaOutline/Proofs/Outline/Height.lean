import SchemaOutline.Proofs.Outline.Questions

/-!
# How deep an outline is

Definitions may refer to each other in a circle, and only three of the steps that follow them are
counted. Resolving ends all the same, and the height of its result is bounded: between two counted
steps stand at most three properties below each other, namely a property, the property that stands
for its values, and a variant of these. A map whose values have a variant with such a map as its
property reaches the bound.

* `PropertyTree.Chain`, `PropertyTree.HeightLe` — ways down a forest, and how long they are.
* `Steps.Bounded` — how high the results of the steps of a level are.
* `Steps.Bounded.above`, `Steps.ofRoom_bounded` — a level adds three.
* `Rings` — the document that reaches the bound.
* `ask_ends_heightLe` — every question has an answer, at most 192 properties high.
-/

namespace SchemaOutline

namespace PropertyTree

/-- The properties directly below a property: its own, those of its elements and its variants. -/
def inner (p : PropertyTree) : List PropertyTree :=
  p.properties ++ p.elementProperties ++ p.variants

/-- A way down a forest: a property of the forest, one directly below it, and so on. -/
inductive Chain : List PropertyTree → List PropertyTree → Prop where
  | nil (forest : List PropertyTree) : Chain forest []
  | cons {forest rest : List PropertyTree} {p : PropertyTree} (mem : p ∈ forest)
      (below : Chain p.inner rest) : Chain forest (p :: rest)

/-- No way down the forest is longer than `n`. -/
def HeightLe (forest : List PropertyTree) (n : Nat) : Prop :=
  ∀ chain, Chain forest chain → chain.length ≤ n

variable {forest others chain : List PropertyTree} {p : PropertyTree} {n k : Nat}

theorem Chain.subset (down : Chain others chain) (sub : ∀ p ∈ others, p ∈ forest) :
    Chain forest chain := by
  cases down with
  | nil => exact .nil forest
  | cons mem below => exact .cons (sub _ mem) below

theorem HeightLe.subset (h : HeightLe forest n) (sub : ∀ p ∈ others, p ∈ forest) :
    HeightLe others n :=
  fun chain down => h chain (down.subset sub)

theorem HeightLe.mono (h : HeightLe forest n) (le : n ≤ k) : HeightLe forest k :=
  fun chain down => Nat.le_trans (h chain down) le

theorem heightLe_nil : HeightLe [] n := by
  intro chain down
  cases down with
  | nil => exact Nat.zero_le n
  | cons mem _ => exact absurd mem List.not_mem_nil

theorem HeightLe.append (left : HeightLe forest n) (right : HeightLe others n) :
    HeightLe (forest ++ others) n := by
  intro chain down
  cases down with
  | nil => exact Nat.zero_le n
  | cons mem below =>
      rcases List.mem_append.mp mem with mem | mem
      · exact left _ (.cons mem below)
      · exact right _ (.cons mem below)

/-- A forest is one higher than what stands below its properties. -/
theorem heightLe_succ (h : ∀ p ∈ forest, HeightLe p.inner n) : HeightLe forest (n + 1) := by
  intro chain down
  cases down with
  | nil => exact Nat.zero_le _
  | cons mem below => exact Nat.succ_le_succ (h _ mem _ below)

theorem heightLe_inner (properties : HeightLe p.properties n)
    (elements : HeightLe p.elementProperties n) (variants : HeightLe p.variants n) :
    HeightLe p.inner n :=
  (properties.append elements).append variants

theorem HeightLe.properties (h : HeightLe p.inner n) : HeightLe p.properties n :=
  h.subset fun _ mem => List.mem_append_left _ (List.mem_append_left _ mem)

theorem HeightLe.elementProperties (h : HeightLe p.inner n) :
    HeightLe p.elementProperties n :=
  h.subset fun _ mem => List.mem_append_left _ (List.mem_append_right _ mem)

theorem HeightLe.variants (h : HeightLe p.inner n) : HeightLe p.variants n :=
  h.subset fun _ mem => List.mem_append_right _ mem

theorem heightLe_named (name : String) : HeightLe (named name).inner n :=
  heightLe_nil

/-- Adding one property to another puts nothing below it that was not below one of the two. -/
theorem HeightLe.absorb {union : PropertyTree} (h : HeightLe p.inner n)
    (more : HeightLe union.inner n) : HeightLe (p.absorb union).inner n := by
  refine heightLe_inner (h.properties.append more.properties) ?_
    (h.variants.append more.variants)
  show HeightLe (if union.elementProperties.isEmpty then _ else _) n
  split
  · exact h.elementProperties
  · exact more.elementProperties

end PropertyTree

open PropertyTree

namespace Steps

/-- What the steps of a level give is at most `n` high. Elements may be added to any property, and
leave it as high as it was if it was as high as that. -/
structure Bounded (S : Steps Id) (n : Nat) : Prop where
  keepsOwn : S.KeepsOwn
  properties : ∀ s, HeightLe (S.properties s).run n
  elements : ∀ target p k, n ≤ k → HeightLe p.elementProperties k →
    HeightLe (S.elements target p).run.elementProperties k
  values : ∀ target, HeightLe (S.values target).run n

namespace Bounded

variable {below : Steps Id} {n k : Nat} (bounded : below.Bounded n)
  (target? : Schema → Option Schema)

include bounded

theorem withElements {p : PropertyTree} (le : n ≤ k) (h : HeightLe p.inner k) (s : Schema) :
    HeightLe (below.withElements target? s p).run.inner k := by
  have same := withElements_same bounded.keepsOwn target? s p
  refine heightLe_inner (same.properties ▸ h.properties) ?_ (same.variants ▸ h.variants)
  rcases below.withElements_cases target? s p with ⟨target, -, run⟩ | ⟨-, elementType, run⟩
  · rw [run]
    exact bounded.elements target p k le h.elementProperties
  · rw [run]
    exact h.elementProperties

theorem resolvePlain (name : String) (s : Schema) :
    HeightLe (below.resolvePlain target? name s).run.inner n := by
  have bare : HeightLe (s.bare name).inner n := heightLe_nil
  have start := bounded.withElements target? (Nat.le_refl n) bare s
  rw [run_resolvePlain]
  exact heightLe_inner (bounded.properties s) start.elementProperties start.variants

theorem resolveVariants (s : Schema) :
    HeightLe (below.resolveVariants target? s).run (n + 1) := by
  rw [run_resolveVariants]
  refine heightLe_succ ?_
  intro p mem
  obtain ⟨variant, -, rfl⟩ := List.mem_map.mp mem
  exact bounded.resolvePlain target? _ variant

theorem mergeDefinition {p : PropertyTree} (le : n ≤ k) (h : HeightLe p.inner k)
    (target : Schema) : HeightLe (below.mergeDefinition target? target p).run.inner k := by
  have properties := h.properties.append ((bounded.properties target).mono le)
  rw [run_mergeDefinition]
  refine bounded.withElements target? le ?_ target
  exact heightLe_inner properties h.elementProperties h.variants

theorem mergeTypes {p : PropertyTree} (le : n ≤ k) (h : HeightLe p.inner k) (branch : Schema) :
    HeightLe (below.mergeTypes target? branch p).run.inner k := by
  unfold Steps.mergeTypes
  split
  · have start : HeightLe { p with types := p.types ++ branch.declaredTypes }.inner k := h
    exact bounded.withElements target? le start branch
  · exact h

theorem mergeAlternative {p : PropertyTree} (le : n ≤ k) (h : HeightLe p.inner k)
    (branch : Schema) : HeightLe (below.mergeAlternative target? p branch).run.inner k := by
  have typed := bounded.mergeTypes target? le h branch
  unfold Steps.mergeAlternative
  cases target? branch with
  | none => exact typed
  | some target => exact bounded.mergeDefinition target? le typed target

theorem resolveAnyOf (name : String) (s : Schema) :
    HeightLe (below.resolveAnyOf target? name s).run.inner n :=
  run_foldlM_of_step (motive := fun p : PropertyTree => HeightLe p.inner n) (heightLe_named name)
    fun _ h branch _ => bounded.mergeAlternative target? (Nat.le_refl n) h branch

theorem mergePart {p : PropertyTree} (h : HeightLe p.inner (n + 1)) (branch : Schema) :
    HeightLe (below.mergePart target? p branch).run.inner (n + 1) := by
  have typed := bounded.mergeTypes target? (Nat.le_succ n) h branch
  cases found : target? branch with
  | none =>
      unfold Steps.mergePart
      rw [found]
      exact typed
  | some target =>
      by_cases union : target.anyOf.isSome
      · -- the variants of the union are one higher than anything else that is added
        rw [run_mergePart_union below target? found union]
        refine typed.absorb (heightLe_inner ?_ ?_ (bounded.resolveVariants target? target))
        · exact ((bounded.resolveAnyOf target? _ target).mono (Nat.le_succ n)).properties
        · exact ((bounded.resolveAnyOf target? _ target).mono (Nat.le_succ n)).elementProperties
      · have merged := bounded.mergeDefinition target? (Nat.le_succ n) typed target
        simpa [Steps.mergePart, found, union] using merged

theorem resolveAllOf (name : String) (s : Schema) :
    HeightLe (below.resolveAllOf target? name s).run.inner (n + 1) :=
  run_foldlM_of_step (motive := fun p : PropertyTree => HeightLe p.inner (n + 1))
    (heightLe_named name) fun _ h branch _ => bounded.mergePart target? h branch

theorem resolveValues (target : Schema) :
    HeightLe (below.resolveValues target? target).run.inner (n + 1) := by
  have children := (bounded.properties target).mono (Nat.le_succ n)
  have variants := bounded.resolveVariants target? target
  unfold Steps.resolveValues
  simp only [Id.run_bind]
  split
  · exact heightLe_inner (children.append ((bounded.values target).mono (Nat.le_succ n)))
      heightLe_nil variants
  · exact heightLe_inner (children.append heightLe_nil) heightLe_nil variants

theorem resolveMap (name : String) (s : Schema) :
    HeightLe (below.resolveMap target? name s).run.inner (n + 2) := by
  have single : ∀ child : PropertyTree, HeightLe child.inner (n + 1) →
      HeightLe [child] (n + 2) := by
    intro child h
    refine heightLe_succ ?_
    intro p mem
    rw [List.mem_singleton.mp mem]
    exact h
  have named := single (.named valuesName) (heightLe_named _)
  unfold Steps.resolveMap
  split
  · rename_i values _
    dsimp only
    split
    · rename_i target _
      have start := bounded.withElements target? (p := { PropertyTree.named name with
        types := ⟨"object"⟩ :: values.declaredTypes }) (Nat.le_add_right n 2) heightLe_nil target
      exact heightLe_inner (single _ (bounded.resolveValues target? target))
        start.elementProperties start.variants
    · exact heightLe_inner named heightLe_nil heightLe_nil
  · exact heightLe_inner named heightLe_nil heightLe_nil

/-- Below a property stand at most two more levels of properties than a step gives: the property
for its values, and their variants. -/
theorem resolveProperty (name : String) (s : Schema) :
    HeightLe (below.resolveProperty target? name s).run.inner (n + 2) := by
  unfold Steps.resolveProperty
  split
  · exact (bounded.resolveAnyOf target? name s).mono (Nat.le_add_right n 2)
  · exact bounded.resolveMap target? name s
  · exact (bounded.resolveAllOf target? name s).mono (Nat.le_succ _)
  · have plain := (bounded.resolvePlain target? name s).mono (Nat.le_add_right n 2)
    exact heightLe_inner plain.properties plain.elementProperties
      ((bounded.resolveVariants target? s).mono (Nat.le_succ _))
  · exact (bounded.resolvePlain target? name s).mono (Nat.le_add_right n 2)

/-- A level adds three to the height. -/
theorem above : (Steps.above .plain target? below).Bounded (n + 3) where
  keepsOwn := ofElements_same bounded.keepsOwn target?
  properties s := by
    cases present : s.properties with
    | none =>
        rw [above_properties_none _ _ _ present]
        exact heightLe_nil
    | some named =>
        rw [above_properties_some _ _ _ present]
        show HeightLe (named.mapM _ : Id _).run (n + 3)
        rw [List.idRun_mapM]
        refine heightLe_succ ?_
        intro p mem
        obtain ⟨entry, -, rfl⟩ := List.mem_map.mp mem
        exact bounded.resolveProperty target? entry.1 entry.2
  elements target p k le _ := by
    show HeightLe (below.ofElements target? target p).run.elementProperties k
    rw [run_ofElements_elementProperties]
    exact (bounded.properties target).mono (by omega)
  values target :=
    ((bounded.resolveMap target? valuesName target).mono (Nat.le_succ _)).properties

end Bounded

/-- Without a level left there is nothing. -/
theorem exhausted_bounded : (exhausted .plain).Bounded 0 where
  keepsOwn _ p := .refl p
  properties s := by
    cases present : s.properties with
    | none =>
        rw [exhausted_properties_none _ present]
        exact heightLe_nil
    | some named =>
        rw [exhausted_properties_some _ present]
        exact heightLe_nil
  elements _ _ _ _ h := h
  values _ := heightLe_nil

/-- **The height of an outline is at most three times the number of levels.** -/
theorem ofRoom_bounded (target? : Schema → Option Schema) (room : Nat) :
    (ofRoom .plain target? room).Bounded (3 * room) := by
  induction room with
  | zero => exact exhausted_bounded
  | succ room ih => exact ih.above target?

end Steps

/-! ## The bound is reached -/

namespace Rings

/-- The schema of a map whose values are rings. -/
def map : Schema where
  values := some (.each { ref := some "#/definitions/Ring" })

/-- The only variant of a ring has a map of rings as its property. -/
def variant : Schema where
  properties := some [("ring", map)]

def definition : Schema where
  oneOf := some [variant]

def mapJson : Json :=
  .object [("additionalProperties", .object [("$ref", .text "#/definitions/Ring")])]

def variantJson : Json :=
  .object [("properties", .object [("ring", mapJson)])]

def json : Json :=
  .object
    [("properties", .object [("ring", mapJson)]),
      ("definitions", .object [("Ring", .object [("oneOf", .list [variantJson])])])]

/-- A document with a map of rings as its only property. -/
def document : Document where
  raw := json
  root := variant
  definitions := [("Ring", definition)]

theorem ofJson_json : Document.ofJson json = .ok document := rfl

/-- With every level a map, its values and their variant are one below the other. -/
theorem exists_chain (room : Nat) :
    ∃ chain, Chain (document.propertiesWithin room variant) chain ∧ chain.length = 3 * room := by
  induction room with
  | zero => exact ⟨[], .nil _, rfl⟩
  | succ room ih =>
      obtain ⟨rest, down, length⟩ := ih
      let below := Steps.ofRoom .plain document.referenced? room
      let ring := (below.resolvePlain document.referenced? "" variant).run
      let values := (below.resolveValues document.referenced? definition).run
      let tree := (below.resolveMap document.referenced? "ring" map).run
      have inRing : Chain ring.inner rest :=
        down.subset fun _ mem => List.mem_append_left _ (List.mem_append_left _ mem)
      have ring_mem : ring ∈ values.inner := by
        refine List.mem_append_right _ ?_
        show ring ∈ (below.resolveValues document.referenced? definition).run.variants
        rw [below.run_resolveValues_variants, below.run_resolveVariants]
        exact List.mem_cons_self
      have values_mem : values ∈ tree.inner :=
        List.mem_append_left _ (List.mem_append_left _ List.mem_cons_self)
      refine ⟨tree :: values :: ring :: rest, ?_, by simp [length]; omega⟩
      exact .cons List.mem_cons_self (.cons values_mem (.cons ring_mem inRing))

end Rings

theorem propertiesOf_heightLe (document : Document) (s : Schema) :
    HeightLe (document.propertiesOf s) (3 * maxLevels) :=
  (Steps.ofRoom_bounded document.referenced? maxLevels).properties s

/-- **Resolving ends, and its result is bounded.** On every document and for every question, the
recursion that nothing but the counter of a resolver ends does end, with the answer and the counter
at zero, and no way down the answer is longer than three times the number of levels. There is a
document whose forest has a way down as long as that. -/
theorem ask_ends_heightLe :
    (∀ (document : Document) (q : Question),
      (∃ calls, ∀ more, document.guardedPropertiesWithin maxLevels (calls + more)
        (q.schema document) = some (((Resolver.fresh document).ask q).1, 0)) ∧
      HeightLe ((Resolver.fresh document).ask q).1 (3 * maxLevels)) ∧
    ∃ (json : Json) (document : Document) (chain : List PropertyTree),
      Document.ofJson json = .ok document ∧
      Chain ((Resolver.fresh document).ask .forest).1 chain ∧ chain.length = 3 * maxLevels := by
  constructor
  · intro document q
    rw [Resolver.fresh_ask]
    refine ⟨⟨maxLevels + 1, ?_⟩, propertiesOf_heightLe document (q.schema document)⟩
    intro more
    exact document.guardedPropertiesWithin_eq (by omega) (q.schema document)
  · obtain ⟨chain, down, length⟩ := Rings.exists_chain maxLevels
    refine ⟨Rings.json, Rings.document, chain, Rings.ofJson_json, ?_, length⟩
    rw [Resolver.fresh_ask]
    exact down

end SchemaOutline

import SchemaOutline.Proofs.Outline.Height
import SchemaOutline.Proofs.Outline.Reachable
import SchemaOutline.Proofs.Schema.Everywhere

/-!
# Where the literals of an outline come from

Resolving copies literals from schemas and makes none of its own. So a literal anywhere in a forest
stands in a schema that resolving may look at, and what holds of the literals of those schemas
holds of every literal of the forest.

* `PropertyTree.DrawsFrom` — a property and everything below it has literals of a set only.
* `Steps.DrawFrom` — so has everything that the steps of a level give.
* `Steps.DrawFrom.above`, `Steps.drawFrom_ofRoom` — a level keeps that.
* `Document.drawsFrom_outlineProperties` — the literals of a forest are those of visible schemas.
* `Document.drawsFrom_of_loadedFrom` — what holds of the value of a document holds of them.
-/

namespace SchemaOutline

variable {P : Schema → Prop} {Q : Json → Prop}

namespace PropertyTree

/-- **A property draws from a set of literals**: its own are in the set, and every property
directly below it draws from the set. -/
inductive DrawsFrom (Q : Json → Prop) : PropertyTree → Prop where
  | intro {p : PropertyTree} (literals : ∀ literal ∈ p.literals, Q literal)
      (inner : ∀ q ∈ p.inner, DrawsFrom Q q) : DrawsFrom Q p

namespace DrawsFrom

variable {p q : PropertyTree}

theorem literals (h : p.DrawsFrom Q) : ∀ literal ∈ p.literals, Q literal := by
  cases h with
  | intro literals _ => exact literals

theorem inner (h : p.DrawsFrom Q) : ∀ q ∈ p.inner, q.DrawsFrom Q := by
  cases h with
  | intro _ inner => exact inner

theorem properties (h : p.DrawsFrom Q) : ∀ q ∈ p.properties, q.DrawsFrom Q :=
  fun q mem => h.inner q (List.mem_append_left _ (List.mem_append_left _ mem))

theorem elementProperties (h : p.DrawsFrom Q) : ∀ q ∈ p.elementProperties, q.DrawsFrom Q :=
  fun q mem => h.inner q (List.mem_append_left _ (List.mem_append_right _ mem))

theorem variants (h : p.DrawsFrom Q) : ∀ q ∈ p.variants, q.DrawsFrom Q :=
  fun q mem => h.inner q (List.mem_append_right _ mem)

/-- The four fields of a property that matter. -/
theorem mk (literals : ∀ literal ∈ p.literals, Q literal)
    (properties : ∀ q ∈ p.properties, q.DrawsFrom Q)
    (elementProperties : ∀ q ∈ p.elementProperties, q.DrawsFrom Q)
    (variants : ∀ q ∈ p.variants, q.DrawsFrom Q) : p.DrawsFrom Q := by
  refine .intro literals fun q mem => ?_
  rcases List.mem_append.mp mem with mem | mem
  · rcases List.mem_append.mp mem with mem | mem
    · exact properties q mem
    · exact elementProperties q mem
  · exact variants q mem

theorem named (name : String) : (PropertyTree.named name).DrawsFrom Q :=
  .intro (List.forall_mem_nil _) (List.forall_mem_nil _)

theorem mono {R : Json → Prop} (sub : ∀ literal, Q literal → R literal) (h : p.DrawsFrom Q) :
    p.DrawsFrom R := by
  induction h with
  | intro literals _ ih => exact .intro (fun literal mem => sub literal (literals literal mem)) ih

/-- Adding one property to another takes what one of them draws. -/
theorem absorb (h : p.DrawsFrom Q) (more : q.DrawsFrom Q) : (p.absorb q).DrawsFrom Q := by
  refine mk (List.forall_mem_append.mpr ⟨h.literals, more.literals⟩)
    (List.forall_mem_append.mpr ⟨h.properties, more.properties⟩) ?_
    (List.forall_mem_append.mpr ⟨h.variants, more.variants⟩)
  show ∀ r ∈ (if q.elementProperties.isEmpty then _ else _), DrawsFrom Q r
  split
  · exact h.elementProperties
  · exact more.elementProperties

end DrawsFrom

end PropertyTree

open PropertyTree (DrawsFrom valuesName)

namespace Steps

/-- What the steps of a level give for the schemas of one set draws from a set of literals. -/
structure DrawFrom (P : Schema → Prop) (Q : Json → Prop) (S : Steps Id) : Prop where
  properties : ∀ {s}, P s → ∀ p ∈ (S.properties s).run, p.DrawsFrom Q
  elements : ∀ {target}, P target → ∀ {p : PropertyTree}, p.DrawsFrom Q →
    (S.elements target p).run.DrawsFrom Q
  values : ∀ {target}, P target → ∀ p ∈ (S.values target).run, p.DrawsFrom Q

namespace DrawFrom

variable {target? : Schema → Option Schema} (closed : Closed target? target? P)
  (own : ∀ {s}, P s → ∀ literal ∈ s.literalValues, Q literal) {below : Steps Id}
  (draw : below.DrawFrom P Q) {s : Schema} {p : PropertyTree}

include closed own draw

omit own in
theorem withElements (inside : P s) (h : p.DrawsFrom Q) :
    (below.withElements target? s p).run.DrawsFrom Q := by
  unfold Steps.withElements
  match rule : s.elements with
  | some (.each element) =>
      have element_inside : P element := closed.part inside (Schema.mem_parts_of_elements rule)
      dsimp only
      split
      · exact .intro h.literals h.inner
      · cases found : target? element with
        | none => exact h
        | some target => exact draw.elements (closed.target element_inside found) h
  | some (.tuple _) | some (.flag _) | none => exact h

theorem ofElements (inside : P s) (h : p.DrawsFrom Q) :
    (below.ofElements target? s p).run.DrawsFrom Q := by
  have start := draw.withElements closed inside h
  have literals := List.forall_mem_append.mpr ⟨start.literals, own inside⟩
  unfold Steps.ofElements
  simp only [Id.run_bind]
  split <;> exact .mk literals start.properties (draw.properties inside) start.variants

theorem resolvePlain (inside : P s) (name : String) :
    (below.resolvePlain target? name s).run.DrawsFrom Q := by
  have bare : (s.bare name).DrawsFrom Q := .intro (own inside) (List.forall_mem_nil _)
  have start := draw.withElements closed inside bare
  rw [run_resolvePlain]
  exact .mk start.literals (draw.properties inside) start.elementProperties start.variants

theorem resolveVariants (inside : P s) :
    ∀ p ∈ (below.resolveVariants target? s).run, p.DrawsFrom Q := by
  intro p mem
  rw [run_resolveVariants] at mem
  obtain ⟨variant, declared, rfl⟩ := List.mem_map.mp mem
  exact draw.resolvePlain closed own (closed.part inside (Schema.mem_parts_of_oneOf declared)) _

theorem mergeDefinition (inside : P s) (h : p.DrawsFrom Q) :
    (below.mergeDefinition target? s p).run.DrawsFrom Q := by
  rw [run_mergeDefinition]
  refine draw.withElements closed inside (.mk ?_ ?_ h.elementProperties h.variants)
  · exact List.forall_mem_append.mpr ⟨h.literals, own inside⟩
  · exact List.forall_mem_append.mpr ⟨h.properties, draw.properties inside⟩

omit own in
theorem mergeTypes (inside : P s) (h : p.DrawsFrom Q) :
    (below.mergeTypes target? s p).run.DrawsFrom Q := by
  unfold Steps.mergeTypes
  split
  · exact draw.withElements closed inside (.intro h.literals h.inner)
  · exact h

theorem mergeAlternative (inside : P s) (h : p.DrawsFrom Q) :
    (below.mergeAlternative target? p s).run.DrawsFrom Q := by
  have typed := draw.mergeTypes closed inside h
  unfold Steps.mergeAlternative
  cases found : target? s with
  | none => exact typed
  | some target => exact draw.mergeDefinition closed own (closed.target inside found) typed

theorem resolveAnyOf (inside : P s) (name : String) :
    (below.resolveAnyOf target? name s).run.DrawsFrom Q :=
  run_foldlM_of_step (motive := DrawsFrom Q) (.named name) fun _ h _ mem =>
    draw.mergeAlternative closed own (closed.part inside (Schema.mem_parts_of_anyOf mem)) h

theorem mergePart (inside : P s) (h : p.DrawsFrom Q) :
    (below.mergePart target? p s).run.DrawsFrom Q := by
  have typed := draw.mergeTypes closed inside h
  cases found : target? s with
  | none =>
      unfold Steps.mergePart
      rw [found]
      exact typed
  | some target =>
      have target_inside := closed.target inside found
      by_cases union : target.anyOf.isSome
      · have alternatives := draw.resolveAnyOf closed own target_inside
        rw [run_mergePart_union below target? found union]
        exact typed.absorb (.mk (alternatives _).literals (alternatives _).properties
          (alternatives _).elementProperties (draw.resolveVariants closed own target_inside))
      · have merged := draw.mergeDefinition closed own target_inside typed
        simpa [Steps.mergePart, found, union] using merged

theorem resolveAllOf (inside : P s) (name : String) :
    (below.resolveAllOf target? name s).run.DrawsFrom Q :=
  run_foldlM_of_step (motive := DrawsFrom Q) (.named name) fun _ h _ mem =>
    draw.mergePart closed own (closed.part inside (Schema.mem_parts_of_allOf mem)) h

theorem resolveValues (inside : P s) :
    (below.resolveValues target? s).run.DrawsFrom Q := by
  have variants := draw.resolveVariants closed own inside
  unfold Steps.resolveValues
  simp only [Id.run_bind]
  split
  · exact .mk (own inside)
      (List.forall_mem_append.mpr ⟨draw.properties inside, draw.values inside⟩)
      (List.forall_mem_nil _) variants
  · exact .mk (own inside)
      (List.forall_mem_append.mpr ⟨draw.properties inside, (List.forall_mem_nil _)⟩)
      (List.forall_mem_nil _) variants

theorem resolveMap (inside : P s) (name : String) :
    (below.resolveMap target? name s).run.DrawsFrom Q := by
  have single {child : PropertyTree} (h : child.DrawsFrom Q) : ∀ p ∈ [child], p.DrawsFrom Q :=
    List.forall_mem_singleton.mpr h
  have unknown (types : List TypeName) : DrawsFrom Q { PropertyTree.named name with
      types, properties := [.named valuesName] } :=
    .intro (List.forall_mem_nil _) (single (.named valuesName))
  unfold Steps.resolveMap
  match rule : s.values with
  | some (.each values) =>
      have values_inside : P values := closed.part inside (Schema.mem_parts_of_values rule)
      dsimp only
      cases found : target? values with
      | none => exact unknown _
      | some target =>
          have target_inside := closed.target values_inside found
          have map : DrawsFrom Q { PropertyTree.named name with
              types := ⟨"object"⟩ :: values.declaredTypes } :=
            .intro (List.forall_mem_nil _) (List.forall_mem_nil _)
          have start := draw.withElements closed target_inside map
          exact .mk start.literals (single (draw.resolveValues closed own target_inside))
            start.elementProperties start.variants
  | some (.flag _) | none => exact unknown _

theorem resolveProperty (inside : P s) (name : String) :
    (below.resolveProperty target? name s).run.DrawsFrom Q := by
  unfold Steps.resolveProperty
  split
  · exact draw.resolveAnyOf closed own inside name
  · exact draw.resolveMap closed own inside name
  · exact draw.resolveAllOf closed own inside name
  · have plain := draw.resolvePlain closed own inside name
    exact .mk plain.literals plain.properties plain.elementProperties
      (draw.resolveVariants closed own inside)
  · exact draw.resolvePlain closed own inside name

/-- A level makes no literals of its own. -/
theorem above : (Steps.above .plain target? below).DrawFrom P Q where
  properties {s} inside := by
    cases present : s.properties with
    | none =>
        rw [above_properties_none _ _ _ present]
        exact List.forall_mem_nil _
    | some named =>
        rw [above_properties_some _ _ _ present]
        show ∀ p ∈ (named.mapM _ : Id _).run, DrawsFrom Q p
        rw [List.idRun_mapM]
        intro p mem
        obtain ⟨entry, declared, rfl⟩ := List.mem_map.mp mem
        have here : entry ∈ s.namedProperties := by
          simpa [Schema.namedProperties, present] using declared
        exact draw.resolveProperty closed own
          (closed.part inside (Schema.mem_parts_of_property here)) entry.1
  elements inside _ h := draw.ofElements closed own inside h
  values inside := (draw.resolveMap closed own inside valuesName).properties

end DrawFrom

/-- **Resolving draws from the schemas it looks at**, however many levels are left. -/
theorem drawFrom_ofRoom {target? : Schema → Option Schema} (closed : Closed target? target? P)
    (own : ∀ {s}, P s → ∀ literal ∈ s.literalValues, Q literal) (room : Nat) :
    (ofRoom .plain target? room).DrawFrom P Q := by
  induction room with
  | zero =>
      refine ⟨?_, fun _ _ h => h, fun _ => List.forall_mem_nil _⟩
      intro s _
      show ∀ p ∈ ((exhausted .plain).properties s).run, p.DrawsFrom Q
      cases present : s.properties with
      | none => rw [exhausted_properties_none _ present]; exact List.forall_mem_nil _
      | some named => rw [exhausted_properties_some _ present]; exact List.forall_mem_nil _
  | succ room ih => exact ih.above closed own

end Steps

namespace Document

/-- **Every literal of a forest stands in a schema that resolving may look at.** -/
theorem drawsFrom_outlineProperties (document : Document) :
    ∀ p ∈ document.outlineProperties,
      p.DrawsFrom fun literal => ∃ s, document.Visible s ∧ literal ∈ s.literalValues := by
  have closed : Closed document.referenced? document.referenced? document.Visible :=
    closed_visible fun _ _ => rfl
  have draw := Steps.drawFrom_ofRoom (Q := fun literal =>
    ∃ s, document.Visible s ∧ literal ∈ s.literalValues) closed
    (fun visible _ mem => ⟨_, visible, mem⟩) maxLevels
  exact draw.properties (.inl (.self document.root))

/-- A visible schema is inside the root or inside a definition. -/
theorem Visible.literals {document : Document} {s : Schema} (visible : document.Visible s)
    (root : document.root.LiteralsIn Q)
    (definitions : ∀ entry ∈ document.definitions, entry.2.LiteralsIn Q) :
    ∀ literal ∈ s.literalValues, Q literal := by
  rcases visible with inside | ⟨name, target, -, defined, inside⟩
  · exact root s inside
  · exact definitions (name, target) (Json.mem_of_lookup defined) s inside

/-- The literals in the forest of a document that is loaded have what everything inside its value
has. -/
theorem drawsFrom_of_loadedFrom (hereditary : Json.Hereditary Q) {value : Json}
    {document : Document} (h : Q value.withoutFormat) (loaded : LoadedFrom value document) :
    ∀ p ∈ document.outlineProperties, p.DrawsFrom Q := by
  obtain ⟨root, definitions⟩ := literalsIn_of_loadedFrom hereditary h loaded
  intro p mem
  refine (document.drawsFrom_outlineProperties p mem).mono ?_
  rintro literal ⟨s, visible, here⟩
  exact visible.literals root definitions literal here

end Document

end SchemaOutline

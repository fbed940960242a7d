import SchemaOutline.Proofs.Outline.Simulation

/-!
# Plain runs

A plain run has a value and nothing else, so every form of resolution is an equation between
values. This module states them, and says which parts of a property the elements of a list touch:
the shape of an element, the literals and the required names, and never the name, the types, the
properties or the variants.

* `Schema.elementTarget?`, `Schema.elementChain` — the definitions that describe the elements of a
  list, their elements and so on.
* `Steps.withElements_cases` — without such a definition only the type of elements is set.
* `Steps.run_resolvePlain`, `Steps.run_mergeDefinition` and so on — the forms as equations.
* `Steps.run_withElements_required`, `Steps.run_withElements_literals` — the required names and the
  literals that a list takes over.
* `PropertyTree.SameBesideElements` — two properties agree in what elements do not touch.
* `Steps.ofRoom_keepsOwn` — adding elements keeps it.
* `Steps.resolveProperty_name` — a property keeps its name.
-/

namespace SchemaOutline

/-- What holds at the start of a plain fold and is kept by each of its steps holds at its end. -/
theorem run_foldlM_of_step {α β : Type} {motive : β → Prop} {f : β → α → Id β} {xs : List α}
    {b : β} (start : motive b) (step : ∀ b, motive b → ∀ a ∈ xs, motive (f b a).run) :
    motive (xs.foldlM f b).run := by
  rw [List.idRun_foldlM]
  exact List.foldlRecOn xs _ start step

/-- The definition that describes the elements of a list: where the schema of all elements
declares no types, the one it refers to. -/
def Schema.elementTarget? (target? : Schema → Option Schema) (s : Schema) : Option Schema :=
  match s.elements with
  | some (.each element) => if element.types.isSome then none else target? element
  | _ => none

/-- The definitions that describe the elements of a list, the elements of these elements and so
on: the innermost first, and at most as many as there is room for. -/
def Schema.elementChain (target? : Schema → Option Schema) : (room : Nat) → Schema → List Schema
  | 0, _ => []
  | room + 1, s =>
    match s.elementTarget? target? with
    | some target => target.elementChain target? room ++ [target]
    | none => []

theorem Schema.elementChain_eq_nil {target? : Schema → Option Schema} {s : Schema}
    (last : s.elementTarget? target? = none) (room : Nat) : s.elementChain target? room = [] := by
  cases room with
  | zero => rfl
  | succ room => rw [elementChain, last]

/-- The property that a schema describes by its types, literals and required names alone. -/
def Schema.bare (name : String) (s : Schema) : PropertyTree :=
  { PropertyTree.named name with
    types := s.declaredTypes
    literals := s.literalValues
    required := s.requiredNames }

namespace Steps

/-- What `items` add is up to the definition of the elements; where there is none, at most the
type of the elements is set. -/
theorem withElements_cases {m : Type → Type} [Monad m] (below : Steps m)
    (target? : Schema → Option Schema) (s : Schema) (p : PropertyTree) :
    (∃ target, s.elementTarget? target? = some target ∧
      below.withElements target? s p = below.elements target p) ∨
    (s.elementTarget? target? = none ∧
      ∃ elementType, below.withElements target? s p = pure { p with elementType }) := by
  unfold Schema.elementTarget?
  match rule : s.elements with
  | some (.each element) =>
      by_cases typed : element.types.isSome
      · exact Or.inr ⟨by simp [typed], element.typeNames.head?, by simp [withElements, rule, typed]⟩
      · cases found : target? element with
        | none =>
            -- nothing is set, which is setting the type that is there
            refine Or.inr ⟨by simp [typed, found], p.elementType, ?_⟩
            cases p
            simp [withElements, rule, typed, found]
        | some target =>
            exact Or.inl ⟨target, by simp [typed, found], by
              simp [withElements, rule, typed, found]⟩
  | none | some (.tuple _) | some (.flag _) =>
      refine Or.inr ⟨rfl, p.elementType, ?_⟩
      cases p
      simp [withElements, rule]

/-! ## The forms as equations -/

section Forms

variable (below : Steps Id) (target? : Schema → Option Schema)

theorem run_ofElements_elementProperties (target : Schema) (p : PropertyTree) :
    (below.ofElements target? target p).run.elementProperties = (below.properties target).run := by
  unfold ofElements
  simp only [Id.run_bind]
  split <;> rfl

theorem run_ofElements_required (target : Schema) (p : PropertyTree) :
    (below.ofElements target? target p).run.required =
      (below.withElements target? target p).run.required ++ target.requiredNames := by
  unfold ofElements
  simp only [Id.run_bind]
  split <;> rfl

theorem run_ofElements_literals (target : Schema) (p : PropertyTree) :
    (below.ofElements target? target p).run.literals =
      (below.withElements target? target p).run.literals ++ target.literalValues := by
  unfold ofElements
  simp only [Id.run_bind]
  split <;> rfl

theorem run_ofElements_elementType (target : Schema) (p : PropertyTree) :
    let q := (below.withElements target? target p).run
    (below.ofElements target? target p).run.elementType =
      if (below.properties target).run.isEmpty && q.elementType.isNone &&
          !target.declaresObject then
        target.typeNames.head?
      else q.elementType := by
  unfold ofElements
  simp only [Id.run_bind]
  split <;> rfl

theorem run_resolvePlain (name : String) (s : Schema) :
    (below.resolvePlain target? name s).run =
      { (below.withElements target? s (s.bare name)).run with
        properties := (below.properties s).run } := rfl

theorem run_resolveVariants (s : Schema) :
    (below.resolveVariants target? s).run =
      (s.oneOf.getD []).map fun variant =>
        (below.resolvePlain target? (variant.tag.getD "") variant).run :=
  List.idRun_mapM

theorem run_mergeDefinition (target : Schema) (p : PropertyTree) :
    (below.mergeDefinition target? target p).run =
      (below.withElements target? target { p with
        types := p.types ++ target.declaredTypes
        properties := p.properties ++ (below.properties target).run
        literals := p.literals ++ target.literalValues
        required := p.required ++ target.requiredNames }).run := rfl

theorem run_mergePart_union {p : PropertyTree} {branch target : Schema}
    (found : target? branch = some target) (union : target.anyOf.isSome) :
    (below.mergePart target? p branch).run =
      (below.mergeTypes target? branch p).run.absorb
        { (below.resolveAnyOf target? (below.mergeTypes target? branch p).run.name target).run with
          variants := (below.resolveVariants target? target).run } := by
  simp [mergePart, found, union]

theorem run_resolveValues_variants (target : Schema) :
    (below.resolveValues target? target).run.variants =
      (below.resolveVariants target? target).run := by
  unfold resolveValues
  simp only [Id.run_bind]
  split <;> rfl

theorem run_resolveMap_values {name : String} {s values target : Schema}
    (map : s.values = some (.each values)) (found : target? values = some target) :
    (below.resolveMap target? name s).run =
      { (below.withElements target? target { PropertyTree.named name with
          types := ⟨"object"⟩ :: values.declaredTypes }).run with
        properties := [(below.resolveValues target? target).run] } := by
  simp [resolveMap, map, found]

/-- Unless it has `anyOf`, a schema with `additionalProperties` is resolved as a map. -/
theorem resolveProperty_map (name : String) {s : Schema} (alone : s.anyOf = none)
    (map : s.values.isSome) :
    below.resolveProperty target? name s = below.resolveMap target? name s := by
  have form : s.form = .map := by simp [Schema.form, alone, map]
  rw [resolveProperty, form]

end Forms

end Steps

/-- What a list takes over from the definition of its elements, it takes over from the definitions
that describe their elements too. -/
theorem Steps.run_withElements_taken {α : Type} {taken : PropertyTree → List α}
    {own : Schema → List α} (target? : Schema → Option Schema)
    (kept : ∀ p elementType, taken { p with elementType } = taken p)
    (step : ∀ (below : Steps Id) target p, taken (below.ofElements target? target p).run =
      taken (below.withElements target? target p).run ++ own target)
    (room : Nat) (s : Schema) (p : PropertyTree) :
    taken ((ofRoom .plain target? room).withElements target? s p).run =
      taken p ++ (s.elementChain target? room).flatMap own := by
  induction room generalizing s p with
  | zero =>
      rcases (ofRoom .plain target? 0).withElements_cases target? s p with
        ⟨target, -, run⟩ | ⟨-, elementType, run⟩
      · rw [run]
        exact (List.append_nil _).symm
      · rw [run]
        exact (kept p elementType).trans (List.append_nil _).symm
  | succ room ih =>
      rcases (ofRoom .plain target? (room + 1)).withElements_cases target? s p with
        ⟨target, found, run⟩ | ⟨last, elementType, run⟩
      · have elements : taken ((ofRoom .plain target? (room + 1)).elements target p).run =
            taken ((ofRoom .plain target? room).withElements target? target p).run ++ own target :=
          step _ target p
        rw [run, elements, ih, Schema.elementChain, found]
        simp
      · rw [run, Schema.elementChain_eq_nil last]
        exact (kept p elementType).trans (List.append_nil _).symm

/-- A list takes over the required names of the definitions that describe its elements. -/
theorem Steps.run_withElements_required (target? : Schema → Option Schema) (room : Nat)
    (s : Schema) (p : PropertyTree) :
    ((ofRoom .plain target? room).withElements target? s p).run.required =
      p.required ++ (s.elementChain target? room).flatMap Schema.requiredNames :=
  run_withElements_taken target? (fun _ _ => rfl)
    (fun below target p => below.run_ofElements_required target? target p) room s p

/-- A list takes over the literals of the definitions that describe its elements. -/
theorem Steps.run_withElements_literals (target? : Schema → Option Schema) (room : Nat)
    (s : Schema) (p : PropertyTree) :
    ((ofRoom .plain target? room).withElements target? s p).run.literals =
      p.literals ++ (s.elementChain target? room).flatMap Schema.literalValues :=
  run_withElements_taken target? (fun _ _ => rfl)
    (fun below target p => below.run_ofElements_literals target? target p) room s p

/-! ## What elements do not touch -/

/-- Two properties agree in everything that the elements of a list do not touch. -/
structure PropertyTree.SameBesideElements (p q : PropertyTree) : Prop where
  name : p.name = q.name
  types : p.types = q.types
  properties : p.properties = q.properties
  variants : p.variants = q.variants

namespace PropertyTree.SameBesideElements

theorem refl (p : PropertyTree) : p.SameBesideElements p :=
  ⟨rfl, rfl, rfl, rfl⟩

theorem trans {p q r : PropertyTree} (first : p.SameBesideElements q)
    (second : q.SameBesideElements r) : p.SameBesideElements r :=
  ⟨first.name.trans second.name, first.types.trans second.types,
    first.properties.trans second.properties, first.variants.trans second.variants⟩

end PropertyTree.SameBesideElements

namespace Steps

/-- Adding elements keeps what they do not touch. -/
def KeepsOwn (S : Steps Id) : Prop :=
  ∀ target p, (S.elements target p).run.SameBesideElements p

variable {below : Steps Id} (keeps : below.KeepsOwn) (target? : Schema → Option Schema)

include keeps

theorem withElements_same (s : Schema) (p : PropertyTree) :
    (below.withElements target? s p).run.SameBesideElements p := by
  rcases below.withElements_cases target? s p with ⟨target, -, run⟩ | ⟨-, elementType, run⟩
  · rw [run]
    exact keeps target p
  · rw [run]
    exact ⟨rfl, rfl, rfl, rfl⟩

theorem ofElements_same (target : Schema) (p : PropertyTree) :
    (below.ofElements target? target p).run.SameBesideElements p := by
  refine .trans ?_ (withElements_same keeps target? target p)
  unfold ofElements
  simp only [Id.run_bind]
  split <;> exact ⟨rfl, rfl, rfl, rfl⟩

omit keeps in
/-- The elements of a list never change the name, the types, the properties or the variants. -/
theorem ofRoom_keepsOwn (room : Nat) : (ofRoom .plain target? room).KeepsOwn := by
  induction room with
  | zero => exact fun _ p => .refl p
  | succ room ih => exact ofElements_same ih target?

theorem mergeTypes_variants (branch : Schema) (p : PropertyTree) :
    (below.mergeTypes target? branch p).run.variants = p.variants := by
  unfold mergeTypes
  split
  · exact (withElements_same keeps target? branch _).variants
  · rfl

theorem mergeTypes_name (branch : Schema) (p : PropertyTree) :
    (below.mergeTypes target? branch p).run.name = p.name := by
  unfold mergeTypes
  split
  · exact (withElements_same keeps target? branch _).name
  · rfl

/-! ## Names

A property keeps the name it was declared under, whatever the form of its schema. -/

theorem mergeDefinition_name (target : Schema) (p : PropertyTree) :
    (below.mergeDefinition target? target p).run.name = p.name := by
  rw [run_mergeDefinition]
  exact (withElements_same keeps target? target _).name

theorem mergeAlternative_name (p : PropertyTree) (branch : Schema) :
    (below.mergeAlternative target? p branch).run.name = p.name := by
  have typed := mergeTypes_name keeps target? branch p
  unfold mergeAlternative
  cases target? branch with
  | none => exact typed
  | some target => exact (mergeDefinition_name keeps target? target _).trans typed

theorem mergePart_name (p : PropertyTree) (branch : Schema) :
    (below.mergePart target? p branch).run.name = p.name := by
  have typed := mergeTypes_name keeps target? branch p
  cases found : target? branch with
  | none =>
      unfold mergePart
      rw [found]
      exact typed
  | some target =>
      by_cases union : target.anyOf.isSome
      · rw [run_mergePart_union below target? found union]
        exact typed
      · have merged := (mergeDefinition_name keeps target? target _).trans typed
        simpa [mergePart, found, union] using merged

theorem resolvePlain_name (name : String) (s : Schema) :
    (below.resolvePlain target? name s).run.name = name := by
  rw [run_resolvePlain]
  exact (withElements_same keeps target? s _).name

theorem resolveMap_name (name : String) (s : Schema) :
    (below.resolveMap target? name s).run.name = name := by
  unfold resolveMap
  split
  · dsimp only
    split
    · exact (withElements_same keeps target? _ _).name
    · rfl
  · rfl

theorem resolveProperty_name (name : String) (s : Schema) :
    (below.resolveProperty target? name s).run.name = name := by
  unfold resolveProperty
  split
  · exact run_foldlM_of_step (motive := fun p : PropertyTree => p.name = name) rfl
      fun p h branch _ => (mergeAlternative_name keeps target? p branch).trans h
  · exact resolveMap_name keeps target? name s
  · exact run_foldlM_of_step (motive := fun p : PropertyTree => p.name = name) rfl
      fun p h branch _ => (mergePart_name keeps target? p branch).trans h
  · exact resolvePlain_name keeps target? name s
  · exact resolvePlain_name keeps target? name s

omit keeps in
/-- Without a level left there are no properties. -/
theorem run_exhausted_properties (s : Schema) : ((exhausted .plain).properties s).run = [] := by
  cases present : s.properties with
  | none => rw [exhausted_properties_none _ present]; rfl
  | some named => rw [exhausted_properties_some _ present]; rfl

omit keeps in
/-- Below the last level there is one property for each declared one, in order. -/
theorem run_ofRoom_properties (room : Nat) (s : Schema) :
    ((ofRoom .plain target? (room + 1)).properties s).run =
      s.namedProperties.map fun entry =>
        ((ofRoom .plain target? room).resolveProperty target? entry.1 entry.2).run := by
  unfold Schema.namedProperties
  cases present : s.properties with
  | none => exact congrArg Id.run (above_properties_none .plain target? _ present)
  | some named =>
      have run := above_properties_some .plain target? (ofRoom .plain target? room) present
      exact (congrArg Id.run run).trans List.idRun_mapM

omit keeps in
theorem map_name_ofRoom_properties (room : Nat) (s : Schema) :
    ((ofRoom .plain target? (room + 1)).properties s).run.map (·.name) =
      s.namedProperties.map Prod.fst := by
  rw [run_ofRoom_properties, List.map_map]
  refine List.map_congr_left fun entry _ => ?_
  exact resolveProperty_name (ofRoom_keepsOwn target? room) target? entry.1 entry.2

end Steps

end SchemaOutline

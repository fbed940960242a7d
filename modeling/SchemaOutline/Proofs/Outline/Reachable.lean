import SchemaOutline.Proofs.Outline.Questions
import SchemaOutline.Proofs.Schema.Parts

/-!
# What resolving looks at

Resolving follows references, and nothing else of a document but its root matters. A name is
reachable if the root refers to it, or the definition of a reachable name does, at any depth. Two
documents that differ in other definitions only have the same forest, however their definitions
refer to each other.

* `Closed` — a set of schemas that no part and no reference leaves.
* `Steps.AgreeOn` — the steps of two runs are the same on such a set.
* `Steps.AgreeOn.resolveProperty`, `Steps.AgreeOn.above` — so is what they make of a property, and
  so are the steps of the level above.
* `Document.Reachable` — the names that are reachable.
* `outlineProperties_of_agree` — the definitions of other names do not matter.
-/

namespace SchemaOutline

/-- A set of schemas that holds everything inside its schemas, on which two ways to look up a
reference agree, and which holds what they find. -/
structure Closed (first second : Schema → Option Schema) (P : Schema → Prop) : Prop where
  part : ∀ {s t}, P s → t ∈ s.parts → P t
  same : ∀ {s}, P s → first s = second s
  target : ∀ {s t}, P s → first s = some t → P t

section Steps

variable {m : Type → Type} [Monad m]

theorem foldlM_congr_mem {α β : Type} {f g : β → α → m β} {xs : List α}
    (same : ∀ b, ∀ a ∈ xs, f b a = g b a) (b : β) : xs.foldlM f b = xs.foldlM g b := by
  induction xs generalizing b with
  | nil => rfl
  | cons a xs ih =>
      rw [List.foldlM_cons, List.foldlM_cons, same b a List.mem_cons_self]
      refine bind_congr fun b => ?_
      exact ih (fun b a mem => same b a (List.mem_cons_of_mem _ mem)) b

theorem mapM_congr_mem [LawfulMonad m] {α β : Type} {f g : α → m β} {xs : List α}
    (same : ∀ a ∈ xs, f a = g a) : xs.mapM f = xs.mapM g := by
  induction xs with
  | nil => rfl
  | cons a xs ih =>
      rw [List.mapM_cons, List.mapM_cons, same a List.mem_cons_self,
        ih fun a mem => same a (List.mem_cons_of_mem _ mem)]

/-- The steps of two runs are the same on a set of schemas. -/
structure Steps.AgreeOn (P : Schema → Prop) (S T : Steps m) : Prop where
  properties : ∀ {s}, P s → S.properties s = T.properties s
  elements : ∀ {target}, P target → ∀ p, S.elements target p = T.elements target p
  values : ∀ {target}, P target → S.values target = T.values target

namespace Steps.AgreeOn

variable {first second : Schema → Option Schema} {P : Schema → Prop}
  (closed : Closed first second P) {S T : Steps m} (agree : AgreeOn P S T) {s : Schema}

include closed agree

theorem withElements (inside : P s) (p : PropertyTree) :
    S.withElements first s p = T.withElements second s p := by
  unfold Steps.withElements
  match rule : s.elements with
  | some (.each element) =>
      have element_inside : P element := closed.part inside (Schema.mem_parts_of_elements rule)
      dsimp only
      rw [← closed.same element_inside]
      split
      · rfl
      · cases found : first element with
        | none => rfl
        | some target => exact agree.elements (closed.target element_inside found) p
  | some (.tuple _) | some (.flag _) | none => rfl

theorem ofElements (inside : P s) (p : PropertyTree) :
    S.ofElements first s p = T.ofElements second s p := by
  unfold Steps.ofElements
  rw [agree.withElements closed inside, agree.properties inside]

theorem resolvePlain (inside : P s) (name : String) :
    S.resolvePlain first name s = T.resolvePlain second name s := by
  unfold Steps.resolvePlain
  rw [agree.withElements closed inside, agree.properties inside]

theorem mergeDefinition (inside : P s) (p : PropertyTree) :
    S.mergeDefinition first s p = T.mergeDefinition second s p := by
  unfold Steps.mergeDefinition
  rw [agree.properties inside]
  exact bind_congr fun children => agree.withElements closed inside _

theorem mergeTypes (inside : P s) (p : PropertyTree) :
    S.mergeTypes first s p = T.mergeTypes second s p := by
  unfold Steps.mergeTypes
  rw [agree.withElements closed inside]

theorem mergeAlternative (inside : P s) (p : PropertyTree) :
    S.mergeAlternative first p s = T.mergeAlternative second p s := by
  unfold Steps.mergeAlternative
  rw [agree.mergeTypes closed inside, ← closed.same inside]
  refine bind_congr fun p => ?_
  cases found : first s with
  | none => rfl
  | some target => exact agree.mergeDefinition closed (closed.target inside found) p

theorem resolveAnyOf (inside : P s) (name : String) :
    S.resolveAnyOf first name s = T.resolveAnyOf second name s :=
  foldlM_congr_mem (fun p _ mem =>
    agree.mergeAlternative closed (closed.part inside (Schema.mem_parts_of_anyOf mem)) p) _

variable [LawfulMonad m]

theorem resolveVariants (inside : P s) :
    S.resolveVariants first s = T.resolveVariants second s :=
  mapM_congr_mem fun _ mem =>
    agree.resolvePlain closed (closed.part inside (Schema.mem_parts_of_oneOf mem)) _

theorem mergePart (inside : P s) (p : PropertyTree) :
    S.mergePart first p s = T.mergePart second p s := by
  unfold Steps.mergePart
  rw [agree.mergeTypes closed inside, ← closed.same inside]
  refine bind_congr fun p => ?_
  cases found : first s with
  | none => rfl
  | some target =>
      have target_inside := closed.target inside found
      simp only [agree.resolveAnyOf closed target_inside,
        agree.resolveVariants closed target_inside, agree.mergeDefinition closed target_inside]

theorem resolveAllOf (inside : P s) (name : String) :
    S.resolveAllOf first name s = T.resolveAllOf second name s :=
  foldlM_congr_mem (fun p _ mem =>
    agree.mergePart closed (closed.part inside (Schema.mem_parts_of_allOf mem)) p) _

theorem resolveValues (inside : P s) : S.resolveValues first s = T.resolveValues second s := by
  unfold Steps.resolveValues
  rw [agree.properties inside, agree.resolveVariants closed inside, agree.values inside]

theorem resolveMap (inside : P s) (name : String) :
    S.resolveMap first name s = T.resolveMap second name s := by
  unfold Steps.resolveMap
  match rule : s.values with
  | some (.each value) =>
      have value_inside : P value := closed.part inside (Schema.mem_parts_of_values rule)
      dsimp only
      rw [← closed.same value_inside]
      cases found : first value with
      | none => rfl
      | some target =>
          have target_inside := closed.target value_inside found
          simp only [agree.resolveValues closed target_inside,
            agree.withElements closed target_inside]
  | some (.flag _) | none => rfl

/-- What two runs make of a property of the set is the same if their steps below it are. -/
theorem resolveProperty (inside : P s) (name : String) :
    S.resolveProperty first name s = T.resolveProperty second name s := by
  unfold Steps.resolveProperty
  rw [agree.resolveAnyOf closed inside, agree.resolveMap closed inside,
    agree.resolveAllOf closed inside, agree.resolvePlain closed inside,
    agree.resolveVariants closed inside]

/-- The steps of a level are the same if those of the level below are. -/
theorem above (d : Descent m) : AgreeOn P (above d first S) (above d second T) where
  properties {s} inside := by
    cases present : s.properties with
    | none => rw [above_properties_none _ _ _ present, above_properties_none _ _ _ present]
    | some named =>
        rw [above_properties_some _ _ _ present, above_properties_some _ _ _ present]
        refine congrArg (d.deeper []) (mapM_congr_mem fun entry mem => ?_)
        have declared : entry ∈ s.namedProperties := by
          simpa [Schema.namedProperties, present] using mem
        have entry_inside := closed.part inside (Schema.mem_parts_of_property declared)
        exact agree.resolveProperty closed entry_inside entry.1
  elements inside p := congrArg (d.deeper p) (agree.ofElements closed inside p)
  values inside := by
    refine congrArg (d.deeper []) ?_
    rw [agree.resolveMap closed inside]

omit agree in
/-- **On a closed set the look-ups give the same steps**, however many levels are left. -/
theorem ofRoom (d : Descent m) (room : Nat) :
    AgreeOn P (ofRoom d first room) (ofRoom d second room) := by
  induction room with
  -- without levels nothing is looked up
  | zero => exact ⟨fun _ => rfl, fun _ _ => rfl, fun _ => rfl⟩
  | succ room ih => exact ih.above closed d

end Steps.AgreeOn

end Steps

/-! ## Documents -/

/-- A schema refers to a name: its `$ref`, or that of a schema inside it, points to the name. -/
def Schema.RefersTo (s : Schema) (name : String) : Prop :=
  ∃ t reference, Inside t s ∧ t.ref = some reference ∧ Document.targetName? reference = some name

namespace Document

/-- **The names that are reachable**: those the root refers to, and those that the definition of a
reachable name refers to. -/
inductive Reachable (document : Document) : String → Prop where
  | root {name : String} (refers : document.root.RefersTo name) : Reachable document name
  | next {name later : String} {target : Schema} (reached : Reachable document name)
      (defined : document.definition? name = some target) (refers : target.RefersTo later) :
      Reachable document later

/-- A schema that resolving may look at: inside the root, or the definition of a reachable name. -/
def Visible (document : Document) (s : Schema) : Prop :=
  s.Inside document.root ∨
    ∃ name target, document.Reachable name ∧ document.definition? name = some target ∧
      s.Inside target

variable {document other : Document} {s : Schema} {name : String}

/-- What a visible schema refers to is reachable. -/
theorem Visible.reachable {reference : String} (visible : document.Visible s)
    (ref : s.ref = some reference) (points : targetName? reference = some name) :
    document.Reachable name := by
  rcases visible with inside | ⟨earlier, target, reached, defined, inside⟩
  · exact .root ⟨s, reference, inside, ref, points⟩
  · exact .next reached defined ⟨s, reference, inside, ref, points⟩

theorem referenced?_eq_some_iff {target : Schema} :
    document.referenced? s = some target ↔
      ∃ reference name, s.ref = some reference ∧ targetName? reference = some name ∧
        document.definition? name = some target := by
  simp [referenced?, target?, Option.bind_eq_some_iff]

theorem closed_visible
    (agree : ∀ name, document.Reachable name → document.definition? name = other.definition? name) :
    Closed document.referenced? other.referenced? document.Visible where
  part {s t} visible mem := by
    rcases visible with inside | ⟨name, target, reached, defined, inside⟩
    · exact .inl (inside.part mem)
    · exact .inr ⟨name, target, reached, defined, inside.part mem⟩
  same {s} visible := by
    unfold referenced?
    cases ref : s.ref with
    | none => rfl
    | some reference =>
        show (targetName? reference).bind _ = (targetName? reference).bind _
        cases points : targetName? reference with
        | none => rfl
        | some name => exact agree name (visible.reachable ref points)
  target {s target} visible found := by
    obtain ⟨reference, name, ref, points, defined⟩ := referenced?_eq_some_iff.mp found
    exact .inr ⟨name, target, visible.reachable ref points, defined, .self target⟩

end Document

/-- **Only reachable definitions matter.** Two documents with the same root have the same forest if
every reachable name has the same definition in both or in neither, and so have two resolvers for
them. -/
theorem outlineProperties_of_agree {document other : Document} (root : document.root = other.root)
    (agree : ∀ name, document.Reachable name →
      document.definition? name = other.definition? name) :
    document.outlineProperties = other.outlineProperties ∧
    (Resolver.fresh document).forest.1 = (Resolver.fresh other).forest.1 := by
  have same : document.outlineProperties = other.outlineProperties := by
    have steps := Steps.AgreeOn.ofRoom (Document.closed_visible agree) Descent.plain maxLevels
    have forest := steps.properties (.inl (.self document.root))
    -- the roots are one schema, so the set of what is visible in the first document serves both
    rw [Document.outlineProperties, Document.outlineProperties, ← root]
    exact congrArg Id.run forest
  refine ⟨same, ?_⟩
  have first := congrArg Prod.fst (Resolver.fresh_ask document .forest)
  have second := congrArg Prod.fst (Resolver.fresh_ask other .forest)
  exact first.trans (same.trans second.symm)

namespace Orchard

def aTree : Schema where
  ref := some "#/definitions/Tree"

def branches : Schema where
  elements := some (.each aTree)

/-- A tree refers to itself for its branches. -/
def tree : Schema where
  properties := some [("branches", branches)]

def oldest : Schema where
  allOf := some [aTree]

def root : Schema where
  properties := some [("oldest", oldest)]

def json (definitions : List (String × Json)) : Json :=
  let aTree := Json.object [("$ref", .text "#/definitions/Tree")]
  .object
    [("properties", .object [("oldest", .object [("allOf", .list [aTree])])]),
      ("definitions", .object definitions)]

def treeJson : Json :=
  let aTree := Json.object [("$ref", .text "#/definitions/Tree")]
  .object [("properties", .object [("branches", .object [("items", aTree)])])]

/-- An orchard with a fence that nothing refers to. -/
def fenced : Document where
  raw := json [("Tree", treeJson), ("Fence", .object [("type", .text "string")])]
  root
  definitions := [("Tree", tree), ("Fence", { types := some (.single "string") })]

/-- The same trees among other definitions, one of which refers to a tree. -/
def hedged : Document where
  raw := json
    [("Hedge", .object [("items", .object [("$ref", .text "#/definitions/Tree")])]),
      ("Fence", .object []), ("Tree", treeJson)]
  root
  definitions := [("Hedge", branches), ("Fence", {}), ("Tree", tree)]

theorem ofJson_raw :
    Document.ofJson fenced.raw = .ok fenced ∧ Document.ofJson hedged.raw = .ok hedged :=
  ⟨rfl, rfl⟩

/-- The schemas that resolving may look at. -/
def visible : List Schema :=
  [root, oldest, aTree, tree, branches]

theorem mem_visible_of_mem_parts (s t : Schema) (here : s ∈ visible) (mem : t ∈ s.parts) :
    t ∈ visible := by
  simp only [visible, List.mem_cons, List.not_mem_nil, or_false] at here ⊢
  rcases here with rfl | rfl | rfl | rfl | rfl
  · exact .inr (.inl (List.mem_singleton.mp mem))
  · exact .inr (.inr (.inl (List.mem_singleton.mp mem)))
  · exact absurd mem List.not_mem_nil
  · exact .inr (.inr (.inr (.inr (List.mem_singleton.mp mem))))
  · exact .inr (.inr (.inl (List.mem_singleton.mp mem)))

theorem refersTo_visible {s : Schema} {name : String} (here : s ∈ visible)
    (refers : s.RefersTo name) : name = "Tree" := by
  obtain ⟨t, reference, inside, ref, points⟩ := refers
  have there : t ∈ visible := inside.of_parts mem_visible_of_mem_parts here
  have own : ∀ u ∈ visible, u.ref = none ∨ u.ref = some "#/definitions/Tree" := by
    simp [visible, root, oldest, aTree, tree, branches]
  rcases own t there with absent | present
  · rw [absent] at ref
    cases ref
  · rw [present] at ref
    cases ref
    have third : Document.targetName? "#/definitions/Tree" = some "Tree" := by decide
    rw [third] at points
    exact (Option.some.inj points).symm

theorem reachable_fenced {name : String} (reached : fenced.Reachable name) : name = "Tree" := by
  induction reached with
  | root refers => exact refersTo_visible (by simp [visible, fenced]) refers
  | next _ defined refers ih =>
      subst ih
      cases defined
      exact refersTo_visible (by simp [visible]) refers

theorem reachable_tree : fenced.Reachable "Tree" := by
  have inside_oldest : aTree.Inside oldest :=
    .inner (Schema.mem_parts_of_allOf (List.mem_singleton_self aTree)) (.self aTree)
  have inside_root : aTree.Inside root :=
    .inner (Schema.mem_parts_of_property (List.mem_singleton_self ("oldest", oldest))) inside_oldest
  exact .root ⟨aTree, "#/definitions/Tree", inside_root, rfl, by decide⟩

end Orchard

/-- The oldest tree of an orchard is outlined the same way with a fence and with a hedge. -/
theorem outlineProperties_of_agree_orchard :
    Document.ofJson Orchard.fenced.raw = .ok Orchard.fenced ∧
    Document.ofJson Orchard.hedged.raw = .ok Orchard.hedged ∧
    Orchard.fenced.root = Orchard.hedged.root ∧
    (∀ name, Orchard.fenced.Reachable name →
      Orchard.fenced.definition? name = Orchard.hedged.definition? name) ∧
    Orchard.fenced.Reachable "Tree" ∧
    Orchard.fenced.outlineProperties = Orchard.hedged.outlineProperties ∧
    (Resolver.fresh Orchard.fenced).forest.1 = (Resolver.fresh Orchard.hedged).forest.1 := by
  have root : Orchard.fenced.root = Orchard.hedged.root := rfl
  have agree : ∀ name, Orchard.fenced.Reachable name →
      Orchard.fenced.definition? name = Orchard.hedged.definition? name := by
    intro name reached
    rw [Orchard.reachable_fenced reached]
    rfl
  obtain ⟨loaded, loaded'⟩ := Orchard.ofJson_raw
  exact ⟨loaded, loaded', root, agree, Orchard.reachable_tree,
    outlineProperties_of_agree root agree⟩

end SchemaOutline

import SchemaOutline.Proofs.Outline.Plain

/-!
# How deep a schema unfolds

Which steps go one level deeper can be read off a schema and its references, without resolving
anything. That gives the depth of an unfolding: the steps of a property, the steps these make, and
so on. A strict run, which has no result when a step would be skipped, has one exactly if the
unfolding is no deeper than the levels it is given.

* `Step`, `Step.next` — a step to the next level, and the steps it makes there.
* `Step.Within`, `Document.UnfoldsWithin` — the steps go at most so many levels deep.
* `Needs` — a run has a result exactly if certain steps have one.
* `strictPropertiesWithin_isSome` — the strict run on a schema needs its unfolding.
-/

namespace SchemaOutline

/-- A step to the next level: to the properties of a schema, to the elements of a list given their
definition, or to the map that the values of a map are. -/
inductive Step where
  | properties (s : Schema)
  | elements (target : Schema)
  | values (target : Schema)

namespace Step

/-- A schema without `properties` needs no step to them. -/
def ofProperties (s : Schema) : List Step :=
  if s.properties.isSome then [.properties s] else []

variable (target? : Schema → Option Schema)

/-- The step of `items`, if they refer to a definition. -/
def ofElements (s : Schema) : List Step :=
  (s.elementTarget? target?).toList.map .elements

/-- The steps of a schema's own keywords. -/
def ofPlain (s : Schema) : List Step :=
  ofElements target? s ++ ofProperties s

def ofVariants (s : Schema) : List Step :=
  (s.oneOf.getD []).flatMap (ofPlain target?)

/-- The step of a branch itself; only one that declares types may have elements. -/
def ofTypes (branch : Schema) : List Step :=
  if branch.types.isSome then ofElements target? branch else []

def ofAlternative (branch : Schema) : List Step :=
  ofTypes target? branch ++
    match target? branch with
    | some target => ofPlain target? target
    | none => []

def ofAnyOf (s : Schema) : List Step :=
  (s.anyOf.getD []).flatMap (ofAlternative target?)

def ofPart (branch : Schema) : List Step :=
  ofTypes target? branch ++
    match target? branch with
    | some target =>
      if target.anyOf.isSome then ofAnyOf target? target ++ ofVariants target? target
      else ofPlain target? target
    | none => []

def ofAllOf (s : Schema) : List Step :=
  (s.allOf.getD []).flatMap (ofPart target?)

/-- The step to the values of a definition that is a map itself. -/
def ofInner (target : Schema) : List Step :=
  match target.values with
  | some (.each _) => [.values target]
  | _ => []

/-- The steps of a map are those of the definition of its values. -/
def ofMap (s : Schema) : List Step :=
  match s.values with
  | some (.each value) =>
    match target? value with
    | some target =>
      ofProperties target ++ (ofVariants target? target ++ ofInner target) ++
        ofElements target? target
    | none => []
  | _ => []

/-- The steps of a property, by the form of its schema. -/
def ofProperty (s : Schema) : List Step :=
  match s.form with
  | .anyOf => ofAnyOf target? s
  | .map => ofMap target? s
  | .allOf => ofAllOf target? s
  | .oneOf => ofPlain target? s ++ ofVariants target? s
  | .plain => ofPlain target? s

/-- The steps that a step makes on the level it goes to. -/
def next : Step → List Step
  | .properties s => s.namedProperties.flatMap fun entry => ofProperty target? entry.2
  | .elements target => ofPlain target? target
  | .values target => ofMap target? target

/-- A step, the steps it makes, those they make and so on go at most so many levels deep. -/
def Within : Nat → Step → Prop
  | 0, _ => False
  | levels + 1, step => ∀ later ∈ step.next target?, later.Within levels

end Step

/-- The unfolding of a schema is at most so many levels deep. -/
def Document.UnfoldsWithin (document : Document) (levels : Nat) (s : Schema) : Prop :=
  ∀ step ∈ Step.ofProperties s, step.Within document.referenced? levels

/-! ## Runs that need steps -/

/-- A run has a result exactly if each of the given steps has one. -/
def Needs {α : Type} (ok : Step → Prop) (x : Option α) (steps : List Step) : Prop :=
  x.isSome ↔ ∀ step ∈ steps, ok step

namespace Needs

variable {α β : Type} {ok : Step → Prop}

theorem pure (a : α) : Needs ok (some a) [] :=
  ⟨fun _ _ mem => absurd mem List.not_mem_nil, fun _ => rfl⟩

theorem bind {x : Option α} {f : α → Option β} {first rest : List Step} (needs : Needs ok x first)
    (after : ∀ a, Needs ok (f a) rest) : Needs ok (x >>= f) (first ++ rest) := by
  unfold Needs at *
  rw [List.forall_mem_append, ← needs]
  cases x with
  | none => simp
  | some a => simpa using after a

theorem foldlM {f : β → α → Option β} {steps : α → List Step}
    (each : ∀ b a, Needs ok (f b a) (steps a)) (xs : List α) (b : β) :
    Needs ok (xs.foldlM f b) (xs.flatMap steps) := by
  induction xs generalizing b with
  | nil => exact .pure b
  | cons a xs ih =>
      rw [List.foldlM_cons, List.flatMap_cons]
      exact (each b a).bind fun b => ih b

theorem congr {x : Option α} {steps others : List Step} (needs : Needs ok x steps)
    (same : ∀ step, step ∈ steps ↔ step ∈ others) : Needs ok x others := by
  unfold Needs at *
  rw [needs]
  constructor
  · intro all step mem
    exact all step ((same step).mpr mem)
  · intro all step mem
    exact all step ((same step).mp mem)

/-- Beyond the last level no step has a result. -/
theorem beyond {target? : Schema → Option Schema} (step : Step) :
    Needs (Step.Within target? 0) (none : Option α) [step] := by
  simp [Needs, Step.Within]

/-- What needs the steps that a step makes needs that step one level higher. -/
theorem next {target? : Schema → Option Schema} {levels : Nat} {x : Option α} {step : Step}
    (needs : Needs (Step.Within target? levels) x (step.next target?)) :
    Needs (Step.Within target? (levels + 1)) x [step] := by
  unfold Needs at *
  rw [needs, List.forall_mem_singleton]
  exact Iff.rfl

theorem fmap {x : Option α} {steps : List Step} (needs : Needs ok x steps) (f : α → β) :
    Needs ok (f <$> x) steps := by
  unfold Needs at *
  rw [← needs]
  cases x <;> rfl

/-- A last step that needs nothing adds nothing. -/
theorem last {x : Option α} {f : α → Option β} {steps : List Step} (needs : Needs ok x steps)
    (after : ∀ a, Needs ok (f a) []) : Needs ok (x >>= f) steps := by
  have bound := needs.bind after
  rwa [List.append_nil] at bound

theorem map {x : Option α} {steps : List Step} (needs : Needs ok x steps) (f : α → β) :
    Needs ok (x >>= fun a => some (f a)) steps :=
  needs.last fun a => .pure (f a)

theorem mapM {f : α → Option β} {steps : α → List Step} (each : ∀ a, Needs ok (f a) (steps a))
    (xs : List α) : Needs ok (xs.mapM f) (xs.flatMap steps) := by
  induction xs with
  | nil => exact .pure []
  | cons a xs ih =>
      rw [List.mapM_cons, List.flatMap_cons]
      refine (each a).bind fun b => ?_
      exact ih.map (b :: ·)

end Needs

/-- Each step has a result exactly if it is one of those that have. -/
structure Steps.HasNeeds (S : Steps Option) (ok : Step → Prop) : Prop where
  properties : ∀ s, Needs ok (S.properties s) (Step.ofProperties s)
  elements : ∀ target p, Needs ok (S.elements target p) [.elements target]
  values : ∀ target, Needs ok (S.values target) [.values target]

namespace Steps.HasNeeds

variable {below : Steps Option} {ok : Step → Prop} (h : below.HasNeeds ok)
  (target? : Schema → Option Schema)

include h

theorem withElements (s : Schema) (p : PropertyTree) :
    Needs ok (below.withElements target? s p) (Step.ofElements target? s) := by
  unfold Step.ofElements
  rcases below.withElements_cases target? s p with ⟨target, found, run⟩ | ⟨absent, type, run⟩
  · rw [found, run]
    exact h.elements target p
  · rw [absent, run]
    exact .pure _

theorem ofElements (target : Schema) (p : PropertyTree) :
    Needs ok (below.ofElements target? target p) (Step.ofPlain target? target) := by
  refine (h.withElements target? target p).bind fun p => ?_
  refine (h.properties target).last fun children => ?_
  dsimp only
  split
  · exact .pure _
  · exact .pure _

theorem resolvePlain (name : String) (s : Schema) :
    Needs ok (below.resolvePlain target? name s) (Step.ofPlain target? s) :=
  (h.withElements target? s (s.bare name)).bind fun p =>
    (h.properties s).map fun children => { p with properties := children }

theorem resolveVariants (s : Schema) :
    Needs ok (below.resolveVariants target? s) (Step.ofVariants target? s) := by
  have each := fun variant : Schema => h.resolvePlain target? (variant.tag.getD "") variant
  exact .mapM each (s.oneOf.getD [])

theorem mergeDefinition (target : Schema) (p : PropertyTree) :
    Needs ok (below.mergeDefinition target? target p) (Step.ofPlain target? target) := by
  have merged : Needs ok (below.mergeDefinition target? target p)
      (Step.ofProperties target ++ Step.ofElements target? target) :=
    (h.properties target).bind fun _ => h.withElements target? target _
  -- merging goes to the properties first, but whether there is a result does not depend on that
  refine merged.congr fun step => ?_
  simp only [Step.ofPlain, List.mem_append, or_comm]

theorem mergeTypes (branch : Schema) (p : PropertyTree) :
    Needs ok (below.mergeTypes target? branch p) (Step.ofTypes target? branch) := by
  unfold Steps.mergeTypes Step.ofTypes
  split
  · exact h.withElements target? branch _
  · exact .pure p

theorem mergeAlternative (p : PropertyTree) (branch : Schema) :
    Needs ok (below.mergeAlternative target? p branch) (Step.ofAlternative target? branch) := by
  refine (h.mergeTypes target? branch p).bind fun p => ?_
  cases target? branch with
  | none => exact .pure p
  | some target => exact h.mergeDefinition target? target p

theorem resolveAnyOf (name : String) (s : Schema) :
    Needs ok (below.resolveAnyOf target? name s) (Step.ofAnyOf target? s) :=
  .foldlM (h.mergeAlternative target?) _ _

theorem mergePart (p : PropertyTree) (branch : Schema) :
    Needs ok (below.mergePart target? p branch) (Step.ofPart target? branch) := by
  refine (h.mergeTypes target? branch p).bind fun p => ?_
  cases target? branch with
  | none => exact .pure p
  | some target =>
      dsimp only
      split
      · refine (h.resolveAnyOf target? p.name target).bind fun union => ?_
        exact (h.resolveVariants target? target).map fun variants =>
          p.absorb { union with variants }
      · exact h.mergeDefinition target? target p

theorem resolveAllOf (name : String) (s : Schema) :
    Needs ok (below.resolveAllOf target? name s) (Step.ofAllOf target? s) :=
  .foldlM (h.mergePart target?) _ _

theorem resolveValues (target : Schema) :
    Needs ok (below.resolveValues target? target)
      (Step.ofProperties target ++ (Step.ofVariants target? target ++ Step.ofInner target)) := by
  refine (h.properties target).bind fun children => ?_
  refine (h.resolveVariants target? target).bind fun variants => ?_
  unfold Step.ofInner
  dsimp only
  match target.values with
  | some (.each _) => exact (h.values target).map _
  | some (.flag _) | none => exact .pure _

theorem resolveMap (name : String) (s : Schema) :
    Needs ok (below.resolveMap target? name s) (Step.ofMap target? s) := by
  unfold Steps.resolveMap Step.ofMap
  match s.values with
  | some (.each value) =>
      dsimp only
      cases target? value with
      | none => exact .pure _
      | some target =>
          refine (h.resolveValues target? target).bind fun child => ?_
          exact (h.withElements target? target _).map fun p => { p with properties := [child] }
  | some (.flag _) | none => exact .pure _

theorem resolveProperty (name : String) (s : Schema) :
    Needs ok (below.resolveProperty target? name s) (Step.ofProperty target? s) := by
  unfold Steps.resolveProperty Step.ofProperty
  cases s.form with
  | anyOf => exact h.resolveAnyOf target? name s
  | map => exact h.resolveMap target? name s
  | allOf => exact h.resolveAllOf target? name s
  | oneOf =>
      refine (h.resolvePlain target? name s).bind fun p => ?_
      exact (h.resolveVariants target? s).map fun variants => { p with variants }
  | plain => exact h.resolvePlain target? name s

end Steps.HasNeeds

/-- Without a level left no step has a result. -/
theorem Steps.exhausted_strict_hasNeeds (target? : Schema → Option Schema) :
    (Steps.exhausted .strict).HasNeeds (Step.Within target? 0) where
  properties s := by
    unfold Step.ofProperties
    cases present : s.properties with
    | none =>
        rw [Steps.exhausted_properties_none _ present]
        exact .pure []
    | some named =>
        rw [Steps.exhausted_properties_some _ present]
        exact .beyond _
  elements target _ := .beyond (.elements target)
  values target := .beyond (.values target)

/-- A step has a result exactly if those it makes on the level below have one. -/
theorem Steps.HasNeeds.above {below : Steps Option} {target? : Schema → Option Schema}
    {levels : Nat} (h : below.HasNeeds (Step.Within target? levels)) :
    (Steps.above .strict target? below).HasNeeds (Step.Within target? (levels + 1)) where
  properties s := by
    unfold Step.ofProperties
    cases present : s.properties with
    | none =>
        rw [Steps.above_properties_none _ _ _ present]
        exact .pure []
    | some named =>
        rw [Steps.above_properties_some _ _ _ present]
        refine .next ?_
        show Needs _ (named.mapM fun entry : String × Schema =>
          below.resolveProperty target? entry.1 entry.2) _
        have each := fun entry : String × Schema => h.resolveProperty target? entry.1 entry.2
        simpa [Step.next, Schema.namedProperties, present] using Needs.mapM each named
  elements target p := .next (h.ofElements target? target p)
  values target := .next ((h.resolveMap target? PropertyTree.valuesName target).fmap _)

/-- **A strict run has a result exactly if what it needs is no deeper than its levels.** -/
theorem Steps.ofRoom_strict_hasNeeds (target? : Schema → Option Schema) (room : Nat) :
    (Steps.ofRoom .strict target? room).HasNeeds (Step.Within target? room) := by
  induction room with
  | zero => exact Steps.exhausted_strict_hasNeeds target?
  | succ room ih => exact ih.above

theorem strictPropertiesWithin_isSome (document : Document) (levels : Nat) (s : Schema) :
    (document.strictPropertiesWithin levels s).isSome ↔ document.UnfoldsWithin levels s :=
  (Steps.ofRoom_strict_hasNeeds document.referenced? levels).properties s

end SchemaOutline

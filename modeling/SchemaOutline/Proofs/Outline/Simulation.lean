import SchemaOutline.Outline.Resolve

/-!
# One resolution in two monads

The steps of resolution are written once for every monad, so two accounts of going deeper give two
runs of the same program. This module compares such runs. A relation between computations that
holds of `pure` and is kept by `>>=` holds of every form of resolution as soon as it holds of the
steps one level below: what resolving does between two levels never has to be looked at again.

* `Simulation` — a relation between the computations of two monads that sequencing keeps.
* `Steps.Simulates` — the steps of two runs are related.
* `Steps.Simulates.resolveProperty` — so is what they make of a property.
* `Steps.Simulates.above` — so are the steps of the level above, if going deeper is related too.
* `exhausted_simulates`, `above_simulates_exhausted` — the ends of the recursion.
-/

namespace SchemaOutline

namespace Steps

variable {m : Type → Type} [Monad m] (d : Descent m) (target? : Schema → Option Schema)
  (below : Steps m) {s : Schema} {named : List (String × Schema)}

theorem exhausted_properties_none (absent : s.properties = none) :
    (exhausted d).properties s = pure [] := by
  simp [exhausted, absent]

theorem exhausted_properties_some (present : s.properties = some named) :
    (exhausted d).properties s = d.beyond [] := by
  simp [exhausted, present]

theorem above_properties_none (absent : s.properties = none) :
    (above d target? below).properties s = pure [] := by
  simp [above, absent]

theorem above_properties_some (present : s.properties = some named) :
    (above d target? below).properties s =
      d.deeper [] (named.mapM fun entry => below.resolveProperty target? entry.1 entry.2) := by
  simp [above, present]

end Steps

/-- A relation between the computations of two monads. It relates computations with the same value
and is kept by sequencing. -/
structure Simulation (m n : Type → Type) [Monad m] [Monad n] where
  Rel : {α : Type} → m α → n α → Prop
  rel_pure : ∀ {α : Type} (a : α), Rel (pure a : m α) (pure a : n α)
  rel_bind : ∀ {α β : Type} {x : m α} {y : n α} {f : α → m β} {g : α → n β},
    Rel x y → (∀ a, Rel (f a) (g a)) → Rel (x >>= f) (y >>= g)

section Forms

variable {m n : Type → Type} [Monad m] [Monad n]

namespace Simulation

variable (R : Simulation m n) {α β : Type}

theorem rel_foldlM {f : β → α → m β} {g : β → α → n β} (xs : List α)
    (related : ∀ b a, R.Rel (f b a) (g b a)) (b : β) :
    R.Rel (xs.foldlM f b) (xs.foldlM g b) := by
  induction xs generalizing b with
  | nil => exact R.rel_pure b
  | cons a xs ih =>
      rw [List.foldlM_cons, List.foldlM_cons]
      exact R.rel_bind (related b a) fun b => ih b

variable [LawfulMonad m] [LawfulMonad n]

theorem rel_map {x : m α} {y : n α} (f : α → β) (related : R.Rel x y) :
    R.Rel (f <$> x) (f <$> y) := by
  rw [map_eq_pure_bind, map_eq_pure_bind]
  exact R.rel_bind related fun a => R.rel_pure (f a)

theorem rel_mapM {f : α → m β} {g : α → n β} (xs : List α)
    (related : ∀ a ∈ xs, R.Rel (f a) (g a)) : R.Rel (xs.mapM f) (xs.mapM g) := by
  induction xs with
  | nil => exact R.rel_pure []
  | cons a xs ih =>
      rw [List.mapM_cons, List.mapM_cons]
      refine R.rel_bind (related a List.mem_cons_self) fun b => ?_
      have rest := ih fun a mem => related a (List.mem_cons_of_mem _ mem)
      exact R.rel_bind rest fun bs => R.rel_pure (b :: bs)

end Simulation

/-- The steps of two runs are related. -/
structure Steps.Simulates (R : Simulation m n) (S : Steps m) (T : Steps n) : Prop where
  properties : ∀ s, R.Rel (S.properties s) (T.properties s)
  elements : ∀ target p, R.Rel (S.elements target p) (T.elements target p)
  values : ∀ target, R.Rel (S.values target) (T.values target)

namespace Steps.Simulates

variable {R : Simulation m n} {S : Steps m} {T : Steps n} (h : Simulates R S T)
  (target? : Schema → Option Schema)

include h

theorem withElements (s : Schema) (p : PropertyTree) :
    R.Rel (S.withElements target? s p) (T.withElements target? s p) := by
  unfold Steps.withElements
  split
  · split
    · exact R.rel_pure _
    · split
      · exact h.elements _ p
      · exact R.rel_pure p
  · exact R.rel_pure p

theorem ofElements (target : Schema) (p : PropertyTree) :
    R.Rel (S.ofElements target? target p) (T.ofElements target? target p) := by
  refine R.rel_bind (h.withElements target? target p) fun p => ?_
  refine R.rel_bind (h.properties target) fun children => ?_
  dsimp only
  split
  · exact R.rel_pure _
  · exact R.rel_pure _

theorem resolvePlain (name : String) (s : Schema) :
    R.Rel (S.resolvePlain target? name s) (T.resolvePlain target? name s) :=
  R.rel_bind (h.withElements target? s _) fun _ =>
    R.rel_bind (h.properties s) fun _ => R.rel_pure _

theorem mergeDefinition (target : Schema) (p : PropertyTree) :
    R.Rel (S.mergeDefinition target? target p) (T.mergeDefinition target? target p) :=
  R.rel_bind (h.properties target) fun _ => h.withElements target? target _

theorem mergeTypes (branch : Schema) (p : PropertyTree) :
    R.Rel (S.mergeTypes target? branch p) (T.mergeTypes target? branch p) := by
  unfold Steps.mergeTypes
  split
  · exact h.withElements target? branch _
  · exact R.rel_pure p

theorem mergeAlternative (p : PropertyTree) (branch : Schema) :
    R.Rel (S.mergeAlternative target? p branch) (T.mergeAlternative target? p branch) := by
  refine R.rel_bind (h.mergeTypes target? branch p) fun p => ?_
  split
  · exact h.mergeDefinition target? _ p
  · exact R.rel_pure p

theorem resolveAnyOf (name : String) (s : Schema) :
    R.Rel (S.resolveAnyOf target? name s) (T.resolveAnyOf target? name s) :=
  R.rel_foldlM _ (h.mergeAlternative target?) _

variable [LawfulMonad m] [LawfulMonad n]

theorem resolveVariants (s : Schema) :
    R.Rel (S.resolveVariants target? s) (T.resolveVariants target? s) :=
  R.rel_mapM _ fun variant _ => h.resolvePlain target? _ variant

theorem mergePart (p : PropertyTree) (branch : Schema) :
    R.Rel (S.mergePart target? p branch) (T.mergePart target? p branch) := by
  refine R.rel_bind (h.mergeTypes target? branch p) fun p => ?_
  split
  · split
    · refine R.rel_bind (h.resolveAnyOf target? p.name _) fun union => ?_
      exact R.rel_bind (h.resolveVariants target? _) fun variants => R.rel_pure _
    · exact h.mergeDefinition target? _ p
  · exact R.rel_pure p

theorem resolveAllOf (name : String) (s : Schema) :
    R.Rel (S.resolveAllOf target? name s) (T.resolveAllOf target? name s) :=
  R.rel_foldlM _ (h.mergePart target?) _

theorem resolveValues (target : Schema) :
    R.Rel (S.resolveValues target? target) (T.resolveValues target? target) := by
  refine R.rel_bind (h.properties target) fun children => ?_
  refine R.rel_bind (h.resolveVariants target? target) fun variants => ?_
  dsimp only
  split
  · exact R.rel_bind (h.values target) fun inner => R.rel_pure _
  · exact R.rel_bind (R.rel_pure []) fun inner => R.rel_pure _

theorem resolveMap (name : String) (s : Schema) :
    R.Rel (S.resolveMap target? name s) (T.resolveMap target? name s) := by
  unfold Steps.resolveMap
  split
  · dsimp only
    split
    · refine R.rel_bind (h.resolveValues target? _) fun child => ?_
      exact R.rel_bind (h.withElements target? _ _) fun p => R.rel_pure _
    · exact R.rel_pure _
  · exact R.rel_pure _

/-- What two runs make of a property is related if their steps below it are. -/
theorem resolveProperty (name : String) (s : Schema) :
    R.Rel (S.resolveProperty target? name s) (T.resolveProperty target? name s) := by
  unfold Steps.resolveProperty
  split
  · exact h.resolveAnyOf target? name s
  · exact h.resolveMap target? name s
  · exact h.resolveAllOf target? name s
  · refine R.rel_bind (h.resolvePlain target? name s) fun p => ?_
    exact R.rel_bind (h.resolveVariants target? s) fun variants => R.rel_pure _
  · exact h.resolvePlain target? name s

/-- The steps of a level are related if what they do one level deeper is. -/
theorem above {R' : Simulation m n} {d : Descent m} {e : Descent n}
    (deeper : ∀ {α : Type} (skipped : α) {x : m α} {y : n α}, R.Rel x y →
      R'.Rel (d.deeper skipped x) (e.deeper skipped y)) :
    Simulates R' (above d target? S) (above e target? T) where
  properties s := by
    cases present : s.properties with
    | none =>
        rw [above_properties_none d target? S present, above_properties_none e target? T present]
        exact R'.rel_pure []
    | some named =>
        rw [above_properties_some d target? S present, above_properties_some e target? T present]
        exact deeper [] (R.rel_mapM _ fun entry _ => h.resolveProperty target? entry.1 entry.2)
  elements target p := deeper p (h.ofElements target? target p)
  values target := deeper [] (R.rel_map _ (h.resolveMap target? _ target))

end Steps.Simulates

/-- Without a level left it is enough that what stands for a step is related. -/
theorem exhausted_simulates {R : Simulation m n} {d : Descent m} {e : Descent n}
    (beyond : ∀ {α : Type} (skipped : α), R.Rel (d.beyond skipped) (e.beyond skipped)) :
    Steps.Simulates R (Steps.exhausted d) (Steps.exhausted e) where
  properties s := by
    cases present : s.properties with
    | none =>
        rw [Steps.exhausted_properties_none d present, Steps.exhausted_properties_none e present]
        exact R.rel_pure []
    | some named =>
        rw [Steps.exhausted_properties_some d present, Steps.exhausted_properties_some e present]
        exact beyond []
  elements _ p := beyond p
  values _ := beyond []

/-- The steps of a level whose every step is skipped are related to those without a level left. -/
theorem above_simulates_exhausted {R : Simulation m n} {d : Descent m} {e : Descent n}
    (target? : Schema → Option Schema) (S : Steps m)
    (skip : ∀ {α : Type} (skipped : α) (step : m α),
      R.Rel (d.deeper skipped step) (e.beyond skipped)) :
    Steps.Simulates R (Steps.above d target? S) (Steps.exhausted e) where
  properties s := by
    cases present : s.properties with
    | none =>
        rw [Steps.above_properties_none d target? S present,
          Steps.exhausted_properties_none e present]
        exact R.rel_pure []
    | some named =>
        rw [Steps.above_properties_some d target? S present,
          Steps.exhausted_properties_some e present]
        exact skip [] _
  elements _ p := skip p _
  values _ := skip [] _

end Forms

end SchemaOutline

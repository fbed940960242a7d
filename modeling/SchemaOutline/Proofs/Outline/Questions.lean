import SchemaOutline.Proofs.Outline.Counter
import SchemaOutline.Proofs.Outline.Plain

/-!
# Questions to a resolver

A resolver answers one question after another with the same counter. A step that forgot to lower
the counter would be noticed only later: by the next property of the same schema, or by the next
question. None does, so a resolver can be used again, and a property does not depend on the
properties beside it.

* `Question`, `Resolver.ask`, `Resolver.askAll` — questions, and asking one after another.
* `Resolver.propertiesOf_eq` — a question leaves a resolver as it is.
* `Document.propertyWithin?` — the tree of one property.
* `Resolver.askAll_independent` — answers depend neither on earlier questions nor on siblings.
-/

namespace SchemaOutline

/-- A question to a resolver: the forest of its document, or the properties of a schema. -/
inductive Question where
  | forest
  | propertiesOf (s : Schema)

/-- The schema whose properties a question is about. -/
def Question.schema (document : Document) : Question → Schema
  | forest => document.root
  | propertiesOf s => s

namespace Resolver

/-- The answer to a question, and the resolver after it. -/
def ask (r : Resolver) : Question → List PropertyTree × Resolver
  | .forest => r.forest
  | .propertiesOf s => r.propertiesOf s

/-- The answers to one question after another, each with the resolver after it. -/
def askAll (r : Resolver) : List Question → List (List PropertyTree × Resolver)
  | [] => []
  | q :: rest => r.ask q :: (r.ask q).2.askAll rest

/-- A resolver that was asked nothing yet. -/
def fresh (document : Document) : Resolver where
  document

/-- The levels that are left to a resolver. -/
def room (r : Resolver) : Nat :=
  maxLevels - r.level

/-- **A question leaves a resolver as it is.** -/
theorem propertiesOf_eq (r : Resolver) (s : Schema) :
    r.propertiesOf s = (r.document.propertiesWithin r.room s, r) := by
  have related :=
    (counted_simulates r.document.referenced? maxLevels r.level maxLevels).properties s
  rw [Nat.min_eq_right (Nat.sub_le _ _)] at related
  have run : _ = (r.document.propertiesWithin r.room s, r.level) := related
  dsimp only [propertiesOf]
  rw [run]

theorem ask_eq (r : Resolver) (q : Question) :
    r.ask q = (r.document.propertiesWithin r.room (q.schema r.document), r) := by
  cases q with
  | forest => exact r.propertiesOf_eq r.document.root
  | propertiesOf s => exact r.propertiesOf_eq s

theorem fresh_ask (document : Document) (q : Question) :
    (fresh document).ask q = (document.propertiesOf (q.schema document), fresh document) :=
  ask_eq (fresh document) q

/-- Asking one question after another is asking the same resolver each time. -/
theorem askAll_eq_map (r : Resolver) (questions : List Question) :
    r.askAll questions = questions.map r.ask := by
  induction questions with
  | nil => rfl
  | cons q rest ih => rw [askAll, ask_eq, ih, List.map_cons, ask_eq]

end Resolver

/-! ## A property among others -/

namespace Document

/-- The tree of a property with the given number of levels; there is none without a level. -/
def propertyWithin? (document : Document) (name : String) (s : Schema) : Nat → Option PropertyTree
  | 0 => none
  | room + 1 =>
    some ((Steps.ofRoom .plain document.referenced? room).resolveProperty document.referenced?
      name s).run

theorem propertiesWithin_zero (document : Document) (s : Schema) :
    document.propertiesWithin 0 s = [] :=
  Steps.run_exhausted_properties s

/-- The tree of a property is the one it has alone. -/
theorem getElem?_propertiesWithin (document : Document) (room i : Nat) (s : Schema) :
    (document.propertiesWithin room s)[i]? =
      s.namedProperties[i]?.bind fun entry => document.propertyWithin? entry.1 entry.2 room := by
  cases room with
  | zero => rw [propertiesWithin_zero]; cases s.namedProperties[i]? <;> rfl
  | succ room =>
      unfold propertiesWithin
      rw [Steps.run_ofRoom_properties, List.getElem?_map]
      cases s.namedProperties[i]? <;> rfl

theorem map_name_propertyWithin? (document : Document) (name : String) (s : Schema) (room : Nat) :
    (document.propertyWithin? name s room).map (·.name) = if 0 < room then some name else none := by
  cases room with
  | zero => rfl
  | succ room =>
      have keeps := Steps.ofRoom_keepsOwn document.referenced? room
      simp [propertyWithin?, Steps.resolveProperty_name keeps]

end Document

/-- **A resolver can be asked again and again.** Every answer to a fresh resolver, whatever was
asked before, is the one to a question of its own, and the counter is at zero after it. And on
every level, the tree of a property is the same whatever properties stand before and after it. -/
theorem Resolver.askAll_independent :
    (∀ (document : Document) (questions : List Question),
      (fresh document).askAll questions =
        questions.map fun q => (((fresh document).ask q).1, fresh document)) ∧
    ∀ (r : Resolver) (name : String) (child : Schema), ∃ tree : Option PropertyTree,
      tree.map (·.name) = (if r.level < maxLevels then some name else none) ∧
      ∀ (s : Schema) (before after : List (String × Schema)),
        (r.propertiesOf
          { s with properties := some (before ++ (name, child) :: after) }).1[before.length]? =
            tree := by
  constructor
  · intro document questions
    rw [askAll_eq_map]
    refine List.map_congr_left ?_
    intro q _
    rw [fresh_ask]
  · intro r name child
    refine ⟨r.document.propertyWithin? name child r.room, ?_, ?_⟩
    · rw [Document.map_name_propertyWithin?, room]
      simp only [Nat.sub_pos_iff_lt]
    · intro s before after
      rw [propertiesOf_eq, Document.getElem?_propertiesWithin]
      simp [Schema.namedProperties]

end SchemaOutline

import SchemaOutline.Proofs.Outline.Reachable

/-!
# Branches

The branches of `anyOf` and of `allOf` are added one after another to one property. What a branch
adds to the types, the literals, the required names, the properties and the variants does not depend
on what the branches before it have added, so these are put together from what each branch gives
alone: nothing is lost, doubled or moved. (The shape of elements is another matter.)

The two keywords treat a branch differently only if it refers to a definition that is a union
itself. Without such a branch they give the same property, the shape of elements included.

* `BranchKeyword`, `Schema.HasBranches` — a schema that is resolved by its branches.
* `Document.propertyWithin?_of_hasBranches` — its tree, as a run over the branches.
* `PropertyTree.Extends` — a property with other ones added to it.
* `Steps.Adds` — a step that adds the same to every property of a name.
* `Document.isUnion_branches` — the tree of the branches and the trees of each branch.
* `Steps.mergePart_eq_mergeAlternative` — a branch that is merged the same way by both keywords.
* `Document.propertyWithin?_anyOf_eq_allOf` — the same branches under either keyword.
-/

namespace SchemaOutline

/-- The two keywords whose branches are added up. -/
inductive BranchKeyword where
  | anyOf
  | allOf
  deriving DecidableEq

namespace BranchKeyword

/-- The form of a schema that is resolved by the keyword. -/
def form : BranchKeyword → Schema.Form
  | anyOf => .anyOf
  | allOf => .allOf

/-- The branches that a schema has under the keyword. -/
def branches : BranchKeyword → Schema → Option (List Schema)
  | anyOf, s => s.anyOf
  | allOf, s => s.allOf

/-- The schema that has the keyword with the given branches and nothing else. -/
def only : BranchKeyword → List Schema → Schema
  | anyOf, branches => { anyOf := some branches }
  | allOf, branches => { allOf := some branches }

end BranchKeyword

/-- A schema is resolved by its branches under a keyword. -/
structure Schema.HasBranches (keyword : BranchKeyword) (branches : List Schema) (s : Schema) :
    Prop where
  form : s.form = keyword.form
  branches : keyword.branches s = some branches

theorem BranchKeyword.hasBranches_only (keyword : BranchKeyword) (branches : List Schema) :
    (keyword.only branches).HasBranches keyword branches := by
  cases keyword <;> exact ⟨rfl, rfl⟩

namespace Steps

variable (below : Steps Id) (target? : Schema → Option Schema)

/-- Adds a branch to a property. -/
def mergeBranch : BranchKeyword → PropertyTree → Schema → Id PropertyTree
  | .anyOf => below.mergeAlternative target?
  | .allOf => below.mergePart target?

theorem resolveProperty_of_hasBranches {keyword : BranchKeyword} {branches : List Schema}
    {s : Schema} (has : s.HasBranches keyword branches) (name : String) :
    below.resolveProperty target? name s =
      branches.foldlM (below.mergeBranch target? keyword) (.named name) := by
  cases keyword with
  | anyOf =>
      have list : s.anyOf = some branches := has.branches
      rw [resolveProperty, has.form]
      dsimp only [BranchKeyword.form]
      rw [resolveAnyOf, list]
      rfl
  | allOf =>
      have list : s.allOf = some branches := has.branches
      rw [resolveProperty, has.form]
      dsimp only [BranchKeyword.form]
      rw [resolveAllOf, list]
      rfl

end Steps

namespace Document

variable (d : Document)

/-- The tree of a schema with branches, as a run over the branches. -/
theorem propertyWithin?_of_hasBranches {keyword : BranchKeyword} {branches : List Schema}
    {s : Schema} (has : s.HasBranches keyword branches) (name : String) (room : Nat) :
    d.propertyWithin? name s (room + 1) =
      some (branches.foldlM ((Steps.ofRoom .plain d.referenced? room).mergeBranch d.referenced?
        keyword) (.named name)).run := by
  rw [propertyWithin?, Steps.resolveProperty_of_hasBranches _ _ has]

/-- The tree of a single branch. -/
theorem propertyWithin?_only (keyword : BranchKeyword) (branch : Schema) (name : String)
    (room : Nat) :
    d.propertyWithin? name (keyword.only [branch]) (room + 1) =
      some ((Steps.ofRoom .plain d.referenced? room).mergeBranch d.referenced? keyword
        (.named name) branch).run :=
  d.propertyWithin?_of_hasBranches (keyword.hasBranches_only [branch]) name room

end Document

/-! ## Adding up -/

namespace PropertyTree

/-- A property is another one with the types, literals, required names, properties and variants of
more properties added to its own. -/
structure Extends (whole start : PropertyTree) (added : List PropertyTree) : Prop where
  name : whole.name = start.name
  types : whole.types = start.types ++ added.flatMap (·.types)
  literals : whole.literals = start.literals ++ added.flatMap (·.literals)
  required : whole.required = start.required ++ added.flatMap (·.required)
  properties : whole.properties = start.properties ++ added.flatMap (·.properties)
  variants : whole.variants = start.variants ++ added.flatMap (·.variants)

namespace Extends

variable {p q r start : PropertyTree} {added more : List PropertyTree}

theorem refl (p : PropertyTree) : p.Extends p [] := by
  constructor <;> simp

theorem trans (first : q.Extends p added) (second : r.Extends q more) :
    r.Extends p (added ++ more) where
  name := second.name.trans first.name
  types := by rw [second.types, first.types, List.flatMap_append, List.append_assoc]
  literals := by rw [second.literals, first.literals, List.flatMap_append, List.append_assoc]
  required := by rw [second.required, first.required, List.flatMap_append, List.append_assoc]
  properties := by
    rw [second.properties, first.properties, List.flatMap_append, List.append_assoc]
  variants := by rw [second.variants, first.variants, List.flatMap_append, List.append_assoc]

/-- To absorb a property is to add it. -/
theorem absorb (p union : PropertyTree) : (p.absorb union).Extends p [union] := by
  constructor <;> simp [PropertyTree.absorb]

/-- What is added can be seen where nothing was there before. -/
theorem of_named {name : String} (extended : q.Extends p added)
    (alone : r.Extends (.named name) added) : q.Extends p [r] where
  name := extended.name
  types := by rw [extended.types, List.flatMap_singleton, alone.types]; rfl
  literals := by rw [extended.literals, List.flatMap_singleton, alone.literals]; rfl
  required := by rw [extended.required, List.flatMap_singleton, alone.required]; rfl
  properties := by rw [extended.properties, List.flatMap_singleton, alone.properties]; rfl
  variants := by rw [extended.variants, List.flatMap_singleton, alone.variants]; rfl

end Extends

end PropertyTree

namespace Steps

/-- **A run over branches adds what each of them adds**, in order. -/
theorem extends_foldlM {name : String} {merge : PropertyTree → Schema → Id PropertyTree}
    {added : Schema → List PropertyTree}
    (step : ∀ branch p, p.name = name → (merge p branch).run.Extends p (added branch))
    (branches : List Schema) {p : PropertyTree} (named : p.name = name) :
    (branches.foldlM merge p).run.Extends p (branches.flatMap added) := by
  -- the name is carried along: what a branch adds may depend on it
  induction branches generalizing p with
  | nil => exact .refl p
  | cons branch rest ih =>
      have first := step branch p named
      exact first.trans (ih (first.name.trans named))

/-- A step adds the same to every property of a name. -/
def Adds (name : String) (step : PropertyTree → Id PropertyTree) : Prop :=
  ∃ added, ∀ p, p.name = name → (step p).run.Extends p added

namespace Adds

variable {name : String} {first second : PropertyTree → Id PropertyTree}

theorem pure : Adds name Pure.pure :=
  ⟨[], fun p _ => .refl p⟩

theorem bind (one : Adds name first) (other : Adds name second) :
    Adds name fun p => first p >>= second := by
  obtain ⟨added, one⟩ := one
  obtain ⟨more, other⟩ := other
  refine ⟨added ++ more, fun p named => ?_⟩
  have start := one p named
  exact start.trans (other _ (start.name.trans named))

/-- A step adds to every property what it makes of one of which only the name is known. -/
theorem extends_named (adds : Adds name first) {p : PropertyTree} (named : p.name = name) :
    (first p).run.Extends p [(first (.named name)).run] := by
  obtain ⟨added, adds⟩ := adds
  exact (adds p named).of_named (adds (.named name) rfl)

/-- A run over branches adds what each of them makes of a property of which only the name is
known. -/
theorem foldlM {merge : PropertyTree → Schema → Id PropertyTree} {branches : List Schema}
    (adds : ∀ branch, Adds name (merge · branch)) {p : PropertyTree} (named : p.name = name) :
    (branches.foldlM merge p).run.Extends p
      (branches.map fun branch => (merge (.named name) branch).run) := by
  rw [List.map_eq_flatMap]
  exact extends_foldlM (fun branch _ named => (adds branch).extends_named named) branches named

end Adds

/-! ## What each branch adds -/

section Branch

variable (target? : Schema → Option Schema) (room : Nat) (name : String)

theorem adds_withElements (s : Schema) :
    Adds name ((ofRoom .plain target? room).withElements target? s) := by
  let chain := s.elementChain target? room
  refine ⟨[{ PropertyTree.named name with
    literals := chain.flatMap Schema.literalValues
    required := chain.flatMap Schema.requiredNames }], fun p _ => ?_⟩
  have same := withElements_same (ofRoom_keepsOwn target? room) target? s p
  exact {
    name := same.name
    types := by rw [same.types]; exact (List.append_nil _).symm
    literals := by rw [run_withElements_literals, List.flatMap_singleton]
    required := by rw [run_withElements_required, List.flatMap_singleton]
    properties := by rw [same.properties]; exact (List.append_nil _).symm
    variants := by rw [same.variants]; exact (List.append_nil _).symm }

theorem adds_mergeTypes (branch : Schema) :
    Adds name ((ofRoom .plain target? room).mergeTypes target? branch) := by
  unfold mergeTypes
  by_cases typed : branch.types.isSome
  · have own : Adds name fun p => pure { p with types := p.types ++ branch.declaredTypes } := by
      refine ⟨[{ PropertyTree.named name with types := branch.declaredTypes }], fun p _ => ?_⟩
      constructor <;> simp [PropertyTree.named]
    simp only [typed, if_true]
    exact own.bind (adds_withElements target? room name branch)
  · simp only [typed]
    exact .pure

theorem adds_mergeDefinition (target : Schema) :
    Adds name ((ofRoom .plain target? room).mergeDefinition target? target) := by
  let children := ((ofRoom .plain target? room).properties target).run
  have own : Adds name fun p => pure { p with
      types := p.types ++ target.declaredTypes
      properties := p.properties ++ children
      literals := p.literals ++ target.literalValues
      required := p.required ++ target.requiredNames } := by
    refine ⟨[{ target.bare name with properties := children }], fun p _ => ?_⟩
    constructor <;> simp [Schema.bare, PropertyTree.named]
  exact own.bind (adds_withElements target? room name target)

theorem adds_mergeAlternative (branch : Schema) :
    Adds name ((ofRoom .plain target? room).mergeAlternative target? · branch) := by
  refine (adds_mergeTypes target? room name branch).bind ?_
  cases target? branch with
  | none => exact .pure
  | some target => exact adds_mergeDefinition target? room name target

theorem adds_mergePart (branch : Schema) :
    Adds name ((ofRoom .plain target? room).mergePart target? · branch) := by
  have typed := adds_mergeTypes target? room name branch
  cases found : target? branch with
  | none =>
      simp only [mergePart, found]
      exact typed.bind .pure
  | some target =>
      by_cases union : target.anyOf.isSome
      · obtain ⟨added, typed⟩ := typed
        let steps := ofRoom .plain target? room
        let whole := { (steps.resolveAnyOf target? name target).run with
          variants := (steps.resolveVariants target? target).run }
        refine ⟨added ++ [whole], fun p named => ?_⟩
        have start := typed p named
        -- the union is resolved under the name of the property, which the types have not changed
        rw [run_mergePart_union _ _ found union, start.name.trans named]
        exact start.trans (.absorb _ whole)
      · simp only [mergePart, found, union]
        exact typed.bind (adds_mergeDefinition target? room name target)

/-- What a branch adds depends on nothing but the branch. -/
theorem adds_mergeBranch (keyword : BranchKeyword) (branch : Schema) :
    Adds name ((ofRoom .plain target? room).mergeBranch target? keyword · branch) := by
  cases keyword with
  | anyOf => exact adds_mergeAlternative target? room name branch
  | allOf => exact adds_mergePart target? room name branch

end Branch

end Steps

/-! ## The tree of a union -/

/-- **A property is the union of others** in its types, literals, required names, properties and
variants: it has theirs in their order, and nothing else. -/
structure PropertyTree.IsUnion (whole : PropertyTree) (parts : List PropertyTree) : Prop where
  types : whole.types = parts.flatMap (·.types)
  literals : whole.literals = parts.flatMap (·.literals)
  required : whole.required = parts.flatMap (·.required)
  properties : whole.properties = parts.flatMap (·.properties)
  variants : whole.variants = parts.flatMap (·.variants)

/-- A union has the types that its parts have, and no others. -/
theorem PropertyTree.IsUnion.hasType_eq {whole : PropertyTree} {parts : List PropertyTree}
    (union : whole.IsUnion parts) (name : String) :
    whole.hasType name = parts.any (·.hasType name) := by
  unfold hasType
  rw [union.types, List.any_flatMap]

/-- What is added to a property of which only the name is known is all there is. -/
theorem PropertyTree.Extends.isUnion {whole : PropertyTree} {name : String}
    {parts : List PropertyTree} (extended : whole.Extends (.named name) parts) :
    whole.IsUnion parts :=
  ⟨extended.types, extended.literals, extended.required, extended.properties, extended.variants⟩

/-- **The tree of a schema with branches is the union of the trees of its branches**, each of which
is resolved as the only branch of its keyword, under the same name and on the same level. -/
theorem Document.isUnion_branches (d : Document) {keyword : BranchKeyword} {branches : List Schema}
    {s : Schema} (has : s.HasBranches keyword branches) (name : String) (room : Nat) :
    ∃ whole parts, d.propertyWithin? name s (room + 1) = some whole ∧
      branches.map (fun branch => d.propertyWithin? name (keyword.only [branch]) (room + 1)) =
        parts.map some ∧
      whole.IsUnion parts := by
  let merge := (Steps.ofRoom .plain d.referenced? room).mergeBranch d.referenced? keyword
  refine ⟨_, branches.map fun branch => (merge (.named name) branch).run,
    d.propertyWithin?_of_hasBranches has name room, ?_, ?_⟩
  · rw [List.map_map]
    exact List.map_congr_left fun branch _ => d.propertyWithin?_only keyword branch name room
  · have each := Steps.adds_mergeBranch d.referenced? room name keyword
    exact (Steps.Adds.foldlM each rfl).isUnion

namespace Menu

def text : Schema where
  types := some (.single "string")

/-- A list of courses, each of which has a price. -/
def courses : Schema where
  types := some (.single "array")
  elements := some (.each { ref := some "#/definitions/Course" })

def aDish : Schema where
  ref := some "#/definitions/Dish"

/-- A reference to a definition that is not there. -/
def aWine : Schema where
  ref := some "#/definitions/Wine"

def branches : List Schema :=
  [text, courses, aDish, aWine]

def course : Schema where
  literals := some [.text "starter"]
  required := some ["price"]
  properties := some [("price", { types := some (.single "number") })]

/-- A dish is a union itself, and has a variant. -/
def dish : Schema where
  anyOf := some [text, courses]
  oneOf := some [{ literals := some [.text "soup"] }]

def json : Json :=
  let text := Json.object [("type", .text "string")]
  let courses := Json.object
    [("type", .text "array"), ("items", .object [("$ref", .text "#/definitions/Course")])]
  let branches := Json.list
    [text, courses, .object [("$ref", .text "#/definitions/Dish")],
      .object [("$ref", .text "#/definitions/Wine")]]
  let course := Json.object
    [("enum", .list [.text "starter"]), ("required", .list [.text "price"]),
      ("properties", .object [("price", .object [("type", .text "number")])])]
  .object
    [("properties", .object
        [("lunch", .object [("anyOf", branches)]), ("dinner", .object [("allOf", branches)])]),
      ("definitions", .object
        [("Course", course),
          ("Dish", .object
            [("anyOf", .list [text, courses]),
              ("oneOf", .list [.object [("enum", .list [.text "soup"])]])])])]

def lunch : Schema := BranchKeyword.anyOf.only branches

def dinner : Schema := BranchKeyword.allOf.only branches

/-- A menu with the same branches under either keyword. -/
def document : Document where
  raw := json
  root := { properties := some [("lunch", lunch), ("dinner", dinner)] }
  definitions := [("Course", course), ("Dish", dish)]

theorem ofJson_json : Document.ofJson json = .ok document := rfl

end Menu

/-- Lunch and dinner have what each of their branches gives alone. -/
theorem Document.isUnion_branches_menu :
    ofJson Menu.json = .ok Menu.document ∧
    Menu.lunch.HasBranches .anyOf Menu.branches ∧ Menu.dinner.HasBranches .allOf Menu.branches ∧
    (∃ lunch parts, Menu.document.propertyWithin? "lunch" Menu.lunch maxLevels = some lunch ∧
      Menu.branches.map (fun branch =>
        Menu.document.propertyWithin? "lunch" (BranchKeyword.anyOf.only [branch]) maxLevels) =
          parts.map some ∧
      lunch.IsUnion parts ∧ lunch.required = ["price"]) ∧
    ∃ dinner parts, Menu.document.propertyWithin? "dinner" Menu.dinner maxLevels = some dinner ∧
      Menu.branches.map (fun branch =>
        Menu.document.propertyWithin? "dinner" (BranchKeyword.allOf.only [branch]) maxLevels) =
          parts.map some ∧
      dinner.IsUnion parts ∧ dinner.required = ["price", "price"] := by
  have any : Menu.lunch.HasBranches .anyOf Menu.branches := ⟨rfl, rfl⟩
  have all : Menu.dinner.HasBranches .allOf Menu.branches := ⟨rfl, rfl⟩
  obtain ⟨lunch, lunchParts, isLunch, eachLunch, lunchUnion⟩ :=
    Menu.document.isUnion_branches any "lunch" 63
  obtain ⟨dinner, dinnerParts, isDinner, eachDinner, dinnerUnion⟩ :=
    Menu.document.isUnion_branches all "dinner" 63
  refine ⟨Menu.ofJson_json, any, all, ⟨lunch, lunchParts, isLunch, eachLunch, lunchUnion, ?_⟩,
    dinner, dinnerParts, isDinner, eachDinner, dinnerUnion, ?_⟩
  · rw [← Option.some.inj isLunch]
    rfl
  · rw [← Option.some.inj isDinner]
    rfl

/-! ## The same branches under either keyword -/

/-- A branch that does not refer to a union is merged the same way by both keywords. -/
theorem Steps.mergePart_eq_mergeAlternative {m : Type → Type} [Monad m] (below : Steps m)
    {target? : Schema → Option Schema} {branch : Schema}
    (single : ∀ target, target? branch = some target → target.anyOf = none) (p : PropertyTree) :
    below.mergePart target? p branch = below.mergeAlternative target? p branch := by
  unfold mergePart mergeAlternative
  refine bind_congr fun typed => ?_
  cases found : target? branch with
  | none => rfl
  | some target =>
      have noUnion : target.anyOf.isSome = false := by rw [single target found]; rfl
      simp only [noUnion, Bool.false_eq_true, if_false]

namespace Document

variable (d : Document) {branches : List Schema} {either both : Schema} {name : String}

/-- The property of branches that refer to no union, under either keyword. -/
theorem propertyWithin?_eitherKeyword (hasAny : either.HasBranches .anyOf branches)
    (hasAll : both.HasBranches .allOf branches)
    (single : ∀ branch ∈ branches, ∀ target, d.referenced? branch = some target →
      target.anyOf = none) (name : String) (room : Nat) :
    d.propertyWithin? name either room = d.propertyWithin? name both room := by
  cases room with
  | zero => rfl
  | succ room =>
      let steps := Steps.ofRoom .plain d.referenced? room
      have step : ∀ p, ∀ branch ∈ branches, steps.mergeBranch d.referenced? .allOf p branch =
          steps.mergeBranch d.referenced? .anyOf p branch := fun p branch mem =>
        steps.mergePart_eq_mergeAlternative (single branch mem) p
      rw [d.propertyWithin?_of_hasBranches hasAny, d.propertyWithin?_of_hasBranches hasAll,
        foldlM_congr_mem step]

/-- A property may stand in the place of another one that has the same tree. -/
theorem propertiesWithin_replace {room : Nat}
    (same : d.propertyWithin? name either room = d.propertyWithin? name both room)
    (s : Schema) (before after : List (String × Schema)) :
    d.propertiesWithin room { s with properties := some (before ++ (name, either) :: after) } =
      d.propertiesWithin room { s with properties := some (before ++ (name, both) :: after) } := by
  cases room with
  | zero => rw [propertiesWithin_zero, propertiesWithin_zero]
  | succ room =>
      have tree := Option.some.inj same
      unfold propertiesWithin
      rw [Steps.run_ofRoom_properties, Steps.run_ofRoom_properties]
      simp only [Schema.namedProperties, Option.getD_some, List.map_append, List.map_cons, tree]

/-- **Branches that refer to no definition with `anyOf` give the same property under `anyOf` and
under `allOf`**, on every level. So a resolver gives the same answer for a schema that has one of
the two in the place of the other. -/
theorem propertyWithin?_anyOf_eq_allOf (hasAny : either.HasBranches .anyOf branches)
    (hasAll : both.HasBranches .allOf branches)
    (single : ∀ branch ∈ branches, ∀ target, d.referenced? branch = some target →
      target.anyOf = none) :
    (∀ name room, d.propertyWithin? name either room = d.propertyWithin? name both room) ∧
    ∀ level name (s : Schema) before after,
      Resolver.propertiesOf ⟨d, level⟩
          { s with properties := some (before ++ (name, either) :: after) } =
        Resolver.propertiesOf ⟨d, level⟩
          { s with properties := some (before ++ (name, both) :: after) } := by
  have same := d.propertyWithin?_eitherKeyword hasAny hasAll single
  refine ⟨same, fun level name s before after => ?_⟩
  rw [Resolver.propertiesOf_eq, Resolver.propertiesOf_eq,
    d.propertiesWithin_replace (same name _) s before after]

end Document

namespace Menu

/-- A snack refers to a course, and not to a dish, which is a union. -/
def snackBranches : List Schema :=
  [text, courses, { ref := some "#/definitions/Course" }, aWine]

theorem snack_refers_to_no_union : ∀ branch ∈ snackBranches, ∀ target,
    document.referenced? branch = some target → target.anyOf = none := by
  have undefined {branch : Schema} (missing : document.referenced? branch = none) :
      ∀ target, document.referenced? branch = some target → target.anyOf = none := by
    intro target found
    rw [missing] at found
    cases found
  have toCourse : ∀ target, document.referenced? { ref := some "#/definitions/Course" } =
      some target → target.anyOf = none := by
    rintro target found
    cases found
    rfl
  simp only [snackBranches, List.forall_mem_cons, List.not_mem_nil, false_implies, implies_true,
    and_true]
  exact ⟨undefined rfl, undefined rfl, toCourse, undefined rfl⟩

end Menu

/-- A snack is the same under either keyword: a text or a list of courses, or a course. -/
theorem Document.propertyWithin?_anyOf_eq_allOf_menu :
    (∀ branch ∈ Menu.snackBranches, ∀ target, Menu.document.referenced? branch = some target →
      target.anyOf = none) ∧
    ∃ tree,
      Menu.document.propertyWithin? "snack" (BranchKeyword.anyOf.only Menu.snackBranches)
        maxLevels = some tree ∧
      Menu.document.propertyWithin? "snack" (BranchKeyword.allOf.only Menu.snackBranches)
        maxLevels = some tree ∧
      tree.types = [⟨"string"⟩, ⟨"array"⟩] ∧ tree.elementProperties.map (·.name) = ["price"] ∧
      tree.properties.map (·.name) = ["price"] := by
  have either := BranchKeyword.anyOf.hasBranches_only Menu.snackBranches
  have both := BranchKeyword.allOf.hasBranches_only Menu.snackBranches
  obtain ⟨same, -⟩ := Menu.document.propertyWithin?_anyOf_eq_allOf either both
    Menu.snack_refers_to_no_union
  exact ⟨Menu.snack_refers_to_no_union, _, rfl, (same "snack" maxLevels).symm, rfl, rfl, rfl⟩

end SchemaOutline

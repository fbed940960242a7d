import SchemaOutline.Proofs.Outline.Branches
import SchemaOutline.Proofs.Schema.Reference

/-!
# Definitions in place

A property may refer to a definition, as the single branch of `anyOf` or of `allOf`, or it may be
written out as the definition is. A plain definition gives the same property all three ways, though
the parts of the property are collected in another order: written out, the properties are set after
the elements of the list, and merged, before them. A definition that is a union without variants is
the same under `allOf` as written out.

* `Steps.IgnoresProperties` — adding elements does not look at the properties there are so far.
* `Steps.run_mergeDefinition_named` — a merged definition is the definition in place.
* `Document.propertyWithin?_inPlace` — the property of a reference and of the definition.
-/

namespace SchemaOutline

/-- To absorb a property into one of its name that has nothing gives the property. -/
theorem PropertyTree.absorb_named (p : PropertyTree) : (named p.name).absorb p = p := by
  cases p with
  | mk name types elementType elementProperties literals required properties variants =>
      cases elementType <;> cases elementProperties <;> rfl

namespace Steps

/-- Adding elements gives the same whatever properties are there, and leaves them there. -/
def IgnoresProperties (S : Steps Id) : Prop :=
  ∀ target p properties, (S.elements target { p with properties }).run =
    { (S.elements target p).run with properties }

section Elements

variable {below : Steps Id} (ignores : below.IgnoresProperties) (target? : Schema → Option Schema)

include ignores

theorem withElements_ignores (s : Schema) (p : PropertyTree) (properties : List PropertyTree) :
    (below.withElements target? s { p with properties }).run =
      { (below.withElements target? s p).run with properties } := by
  unfold withElements
  split
  · split
    · rfl
    · split
      · exact ignores _ p properties
      · rfl
  · rfl

theorem ofElements_ignores (target : Schema) (p : PropertyTree) (properties : List PropertyTree) :
    (below.ofElements target? target { p with properties }).run =
      { (below.ofElements target? target p).run with properties } := by
  unfold ofElements
  simp only [Id.run_bind, withElements_ignores ignores]
  split <;> rfl

/-- A merged definition is the definition in place. -/
theorem run_mergeDefinition_named (name : String) (target : Schema) :
    (below.mergeDefinition target? target (.named name)).run =
      (below.resolvePlain target? name target).run := by
  rw [run_mergeDefinition, run_resolvePlain]
  exact withElements_ignores ignores target? target (target.bare name) _

end Elements

theorem ofRoom_ignoresProperties (target? : Schema → Option Schema) (room : Nat) :
    (ofRoom .plain target? room).IgnoresProperties := by
  induction room with
  -- without levels the elements are skipped, and the property stays as it is
  | zero => exact fun _ _ _ => rfl
  | succ room ih => exact ofElements_ignores ih target?

/-! ## Unions -/

section Unions

variable {below : Steps Id} (keeps : below.KeepsOwn) (target? : Schema → Option Schema)

include keeps

theorem mergeAlternative_variants (p : PropertyTree) (branch : Schema) :
    (below.mergeAlternative target? p branch).run.variants = p.variants := by
  have typed := mergeTypes_variants keeps target? branch p
  unfold mergeAlternative
  cases target? branch with
  | none => exact typed
  | some target => exact (withElements_same keeps target? target _).variants.trans typed

theorem resolveAnyOf_name (name : String) (s : Schema) :
    (below.resolveAnyOf target? name s).run.name = name :=
  run_foldlM_of_step (motive := fun p : PropertyTree => p.name = name) rfl
    fun p named branch _ => (mergeAlternative_name keeps target? p branch).trans named

/-- The branches of a union bring no variants. -/
theorem resolveAnyOf_variants (name : String) (s : Schema) :
    (below.resolveAnyOf target? name s).run.variants = [] :=
  run_foldlM_of_step (motive := fun p : PropertyTree => p.variants = []) rfl
    fun p bare branch _ => (mergeAlternative_variants keeps target? p branch).trans bare

end Unions

/-! ## Single branches -/

section Reference

variable {below : Steps Id} {target? : Schema → Option Schema} {ref : String} {target : Schema}
  (found : target? (.reference ref) = some target)

theorem mergeTypes_reference (p : PropertyTree) :
    below.mergeTypes target? (.reference ref) p = pure p := rfl

include found

/-- A reference to a definition that is no union merges the definition under either keyword. -/
theorem mergeBranch_reference (single : target.anyOf = none) (keyword : BranchKeyword)
    (p : PropertyTree) :
    below.mergeBranch target? keyword p (.reference ref) =
      below.mergeDefinition target? target p := by
  have merged : below.mergeAlternative target? p (.reference ref) =
      below.mergeDefinition target? target p := by
    rw [mergeAlternative, mergeTypes_reference, pure_bind, found]
  cases keyword with
  | anyOf => exact merged
  | allOf =>
      have noUnion : ∀ other, target? (.reference ref) = some other → other.anyOf = none := by
        intro other same
        rwa [← Option.some.inj (found.symm.trans same)]
      exact (below.mergePart_eq_mergeAlternative noUnion p).trans merged

/-- A reference to a union without variants is the union. -/
theorem run_mergePart_reference (keeps : below.KeepsOwn) (union : target.anyOf.isSome)
    (noVariants : target.oneOf = none) (name : String) :
    (below.mergePart target? (.named name) (.reference ref)).run =
      (below.resolveAnyOf target? name target).run := by
  have named := resolveAnyOf_name keeps target? name target
  have bare := resolveAnyOf_variants keeps target? name target
  have variants : (below.resolveVariants target? target).run = [] := by
    rw [run_resolveVariants, noVariants]
    rfl
  rw [run_mergePart_union _ _ found union, mergeTypes_reference, variants, ← bare]
  calc (PropertyTree.named name).absorb (below.resolveAnyOf target? name target).run
      = (PropertyTree.named (below.resolveAnyOf target? name target).run.name).absorb
          (below.resolveAnyOf target? name target).run := by rw [named]
    _ = _ := PropertyTree.absorb_named _

end Reference

end Steps

namespace Document

variable (d : Document) {target : Schema} {definition : String}

/-- The property of a reference to a plain definition, under either keyword, is that of the
definition in place. -/
theorem propertyWithin?_plain {ref : String} (found : d.referenced? (.reference ref) = some target)
    (plain : target.form = .plain) (keyword : BranchKeyword) (name : String) (room : Nat) :
    d.propertyWithin? name (keyword.only [.reference ref]) room =
      d.propertyWithin? name target room := by
  cases room with
  | zero => rfl
  | succ room =>
      let steps := Steps.ofRoom .plain d.referenced? room
      have single : target.anyOf = none := by
        unfold Schema.form at plain
        cases union : target.anyOf with
        | none => rfl
        | some branches => simp [union] at plain
      have inPlace : d.propertyWithin? name target (room + 1) =
          some (steps.resolvePlain d.referenced? name target).run := by
        rw [propertyWithin?, Steps.resolveProperty, plain]
      rw [inPlace, d.propertyWithin?_only, Steps.mergeBranch_reference found single,
        Steps.run_mergeDefinition_named (Steps.ofRoom_ignoresProperties d.referenced? room)]

/-- The property of a reference under `allOf` to a union without variants is that of the union in
place. -/
theorem propertyWithin?_union {ref : String} (found : d.referenced? (.reference ref) = some target)
    (union : target.anyOf.isSome) (noVariants : target.oneOf = none) (name : String) (room : Nat) :
    d.propertyWithin? name (BranchKeyword.allOf.only [.reference ref]) room =
      d.propertyWithin? name target room := by
  cases room with
  | zero => rfl
  | succ room =>
      let steps := Steps.ofRoom .plain d.referenced? room
      have form : target.form = .anyOf := by simp [Schema.form, union]
      have inPlace : d.propertyWithin? name target (room + 1) =
          some (steps.resolveAnyOf d.referenced? name target).run := by
        rw [propertyWithin?, Steps.resolveProperty, form]
      have keeps := Steps.ofRoom_keepsOwn d.referenced? room
      rw [inPlace, d.propertyWithin?_only]
      exact congrArg some (Steps.run_mergePart_reference found keeps union noVariants name)

/-- **A reference to a definition is the definition in place.** On every level, a property that
refers to a plain definition by the only branch of `anyOf` or of `allOf` has the tree that it has
when it is written as the definition is. If the definition is a union without variants, whatever
else it declares, so has a property that refers to it by the only branch of `allOf`. -/
theorem propertyWithin?_inPlace (free : '/' ∉ definition.toList)
    (defined : d.definition? definition = some target) (name : String) (room : Nat) :
    (target.form = .plain →
      d.propertyWithin? name (BranchKeyword.anyOf.only [.reference (reference definition)]) room =
          d.propertyWithin? name target room ∧
        d.propertyWithin? name (BranchKeyword.allOf.only [.reference (reference definition)]) room =
          d.propertyWithin? name target room) ∧
    (target.anyOf.isSome → target.oneOf = none →
      d.propertyWithin? name (BranchKeyword.allOf.only [.reference (reference definition)]) room =
        d.propertyWithin? name target room) := by
  have found : d.referenced? (.reference (reference definition)) = some target :=
    (referenced?_of_ref free rfl).trans defined
  constructor
  · intro plain
    exact ⟨d.propertyWithin?_plain found plain .anyOf name room,
      d.propertyWithin?_plain found plain .allOf name room⟩
  · intro union noVariants
    exact d.propertyWithin?_union found union noVariants name room

end Document

namespace Fleet

def text : Schema where
  types := some (.single "string")

def aBoat : Schema :=
  .reference "#/definitions/Boat"

/-- A boat is an object, may be written as a list of boats, and has a boat for a tender. -/
def boat : Schema where
  types := some (.several ["object", "array"])
  required := some ["name"]
  properties := some [("name", text), ("tender", BranchKeyword.allOf.only [aBoat])]
  elements := some (.each aBoat)

/-- A load is a text or a boat; its required names count for nothing beside that. -/
def load : Schema where
  required := some ["weight"]
  anyOf := some [text, aBoat]

def aLoad : Schema :=
  .reference "#/definitions/Load"

def json : Json :=
  let text := Json.object [("type", .text "string")]
  let aBoat := Json.object [("$ref", .text "#/definitions/Boat")]
  let aLoad := Json.object [("$ref", .text "#/definitions/Load")]
  .object
    [("properties", .object
        [("flagship", .object [("anyOf", .list [aBoat])]),
          ("cargo", .object [("allOf", .list [aLoad])])]),
      ("definitions", .object
        [("Boat", .object
            [("type", .list [.text "object", .text "array"]), ("required", .list [.text "name"]),
              ("properties", .object
                [("name", text), ("tender", .object [("allOf", .list [aBoat])])]),
              ("items", aBoat)]),
          ("Load", .object
            [("required", .list [.text "weight"]), ("anyOf", .list [text, aBoat])])])]

/-- A fleet whose boats refer to each other in a circle. -/
def document : Document where
  raw := json
  root :=
    { properties := some
        [("flagship", BranchKeyword.anyOf.only [aBoat]),
          ("cargo", BranchKeyword.allOf.only [aLoad])] }
  definitions := [("Boat", boat), ("Load", load)]

theorem ofJson_json : Document.ofJson json = .ok document := rfl

end Fleet

/-- The flagship and the cargo of a fleet are a boat and a load. -/
theorem Document.propertyWithin?_inPlace_fleet :
    ofJson Fleet.json = .ok Fleet.document ∧
    '/' ∉ "Boat".toList ∧ Fleet.document.definition? "Boat" = some Fleet.boat ∧
    Fleet.boat.form = .plain ∧
    Fleet.document.propertyWithin? "flagship" (BranchKeyword.anyOf.only [Fleet.aBoat]) maxLevels =
      Fleet.document.propertyWithin? "flagship" Fleet.boat maxLevels ∧
    Fleet.document.propertyWithin? "flagship" (BranchKeyword.allOf.only [Fleet.aBoat]) maxLevels =
      Fleet.document.propertyWithin? "flagship" Fleet.boat maxLevels ∧
    '/' ∉ "Load".toList ∧ Fleet.document.definition? "Load" = some Fleet.load ∧
    Fleet.load.anyOf.isSome ∧ Fleet.load.oneOf = none ∧
    Fleet.document.propertyWithin? "cargo" (BranchKeyword.allOf.only [Fleet.aLoad]) maxLevels =
      Fleet.document.propertyWithin? "cargo" Fleet.load maxLevels := by
  have boat : Fleet.document.definition? "Boat" = some Fleet.boat := rfl
  have load : Fleet.document.definition? "Load" = some Fleet.load := rfl
  obtain ⟨plain, -⟩ :=
    Fleet.document.propertyWithin?_inPlace (by decide) boat "flagship" maxLevels
  obtain ⟨-, union⟩ := Fleet.document.propertyWithin?_inPlace (by decide) load "cargo" maxLevels
  obtain ⟨any, all⟩ := plain rfl
  exact ⟨Fleet.ofJson_json, by decide, boat, rfl, any, all, by decide, load, rfl, rfl,
    union rfl rfl⟩

end SchemaOutline

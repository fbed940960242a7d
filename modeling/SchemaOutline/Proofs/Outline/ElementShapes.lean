import SchemaOutline.Proofs.Outline.Branches

/-!
# The shape of elements in a union

The properties of an element are not added up. Every list among the branches whose elements a
definition describes puts the properties of that definition in the place of what was there, also
when the definition has none. So a union shows the elements of its last such branch, and a branch
with a shape loses it to a later one without. Only a definition under `allOf` that is a union itself
is different: without a shape of its own it leaves the shape that is there.

* `Steps.listShape?` — the shape that a list puts in place.
* `Steps.branchShape?` — the shape that a branch puts in place.
* `Steps.Puts` — a step that puts a shape in place.
* `Document.elementProperties_branches` — the shape that is left, and when there is one.
-/

namespace SchemaOutline

namespace Steps

variable (target? : Schema → Option Schema) (room : Nat)

/-- The shape that a list puts in place: the properties of the definition of its elements. There is
none if no definition describes them, or no level is left for it. -/
def listShape? : (room : Nat) → Schema → Option (List PropertyTree)
  | 0, _ => none
  | room + 1, s =>
    (s.elementTarget? target?).map fun target =>
      ((ofRoom .plain target? room).properties target).run

/-- The shape that a branch puts in place by its own keywords; without types it has no elements. -/
def ownShape? (branch : Schema) : Option (List PropertyTree) :=
  if branch.types.isSome then listShape? target? room branch else none

/-- The shape that a branch of `anyOf` puts in place: that of the definition it refers to, or else
its own. -/
def alternativeShape? (branch : Schema) : Option (List PropertyTree) :=
  ((target? branch).bind (listShape? target? room)).or (ownShape? target? room branch)

/-- The last shape of a run over branches. -/
def lastShape? (shape? : Schema → Option (List PropertyTree)) (branches : List Schema) :
    Option (List PropertyTree) :=
  (branches.filterMap shape?).getLast?

theorem lastShape?_cons (shape? : Schema → Option (List PropertyTree)) (branch : Schema)
    (rest : List Schema) :
    lastShape? shape? (branch :: rest) = (lastShape? shape? rest).or (shape? branch) := by
  unfold lastShape?
  cases own : shape? branch with
  | none => rw [List.filterMap_cons_none own, Option.or_none]
  | some shape =>
      rw [List.filterMap_cons_some own, List.getLast?_cons]
      cases (rest.filterMap shape?).getLast? <;> rfl

/-- The last shape is that of a branch with no shape behind it. -/
theorem lastShape?_eq_some_iff {shape? : Schema → Option (List PropertyTree)}
    {branches : List Schema} {shape : List PropertyTree} :
    lastShape? shape? branches = some shape ↔
      ∃ before branch after, branches = before ++ branch :: after ∧ shape? branch = some shape ∧
        ∀ later ∈ after, shape? later = none := by
  induction branches with
  | nil => simp [lastShape?]
  | cons first rest ih =>
      rw [lastShape?_cons, Option.or_eq_some_iff, ih]
      constructor
      · rintro (⟨before, branch, after, rfl, own, last⟩ | ⟨last, own⟩)
        · exact ⟨first :: before, branch, after, rfl, own, last⟩
        · refine ⟨[], first, rest, rfl, own, ?_⟩
          simpa [lastShape?] using last
      · rintro ⟨before, branch, after, cut, own, last⟩
        cases before with
        | nil =>
            cases cut
            exact .inr ⟨by simpa [lastShape?] using last, own⟩
        | cons _ before =>
            cases cut
            exact .inl ⟨before, branch, after, rfl, own, last⟩

/-- There are properties at the end exactly if a branch has some with no shape behind it. -/
theorem lastShape?_ne_nil_iff {shape? : Schema → Option (List PropertyTree)}
    {branches : List Schema} :
    (lastShape? shape? branches).getD [] ≠ [] ↔
      ∃ before branch after, branches = before ++ branch :: after ∧ (shape? branch).getD [] ≠ [] ∧
        ∀ later ∈ after, shape? later = none := by
  have given {shape : Option (List PropertyTree)} :
      shape.getD [] ≠ [] ↔ ∃ properties, shape = some properties ∧ properties ≠ [] := by
    cases shape <;> simp
  rw [given]
  constructor
  · rintro ⟨properties, isLast, filled⟩
    obtain ⟨before, branch, after, cut, own, last⟩ := lastShape?_eq_some_iff.mp isLast
    exact ⟨before, branch, after, cut, given.mpr ⟨properties, own, filled⟩, last⟩
  · rintro ⟨before, branch, after, cut, filled, last⟩
    obtain ⟨properties, own, filled⟩ := given.mp filled
    exact ⟨properties, lastShape?_eq_some_iff.mpr ⟨before, branch, after, cut, own, last⟩, filled⟩

/-- The shape that the definition of a branch of `allOf` puts in place. A union puts none in place
if it is left without properties. -/
def partTargetShape? (target : Schema) : Option (List PropertyTree) :=
  match target.anyOf with
  | some branches =>
    (lastShape? (alternativeShape? target? room) branches).filter fun shape => !shape.isEmpty
  | none => listShape? target? room target

/-- The shape that a branch of `allOf` puts in place: that of the definition it refers to, or else
its own. -/
def partShape? (branch : Schema) : Option (List PropertyTree) :=
  ((target? branch).bind (partTargetShape? target? room)).or (ownShape? target? room branch)

/-- **The shape that a branch puts in place.** -/
def branchShape? : BranchKeyword → Schema → Option (List PropertyTree)
  | .anyOf => alternativeShape? target? room
  | .allOf => partShape? target? room

/-! ## Putting a shape in place -/

/-- A step puts the given shape in place, and leaves the one that is there if none is given. -/
def Puts (shape : Option (List PropertyTree)) (step : PropertyTree → Id PropertyTree) : Prop :=
  ∀ p, (step p).run.elementProperties = shape.getD p.elementProperties

namespace Puts

variable {first second : Option (List PropertyTree)} {f g : PropertyTree → Id PropertyTree}

theorem pure : Puts none Pure.pure :=
  fun _ => rfl

/-- Of two shapes the later one is left. -/
theorem bind (one : Puts first f) (other : Puts second g) :
    Puts (second.or first) fun p => f p >>= g := by
  intro p
  have last : (f p >>= g).run.elementProperties = second.getD (f p).run.elementProperties :=
    other _
  rw [last, one p, Option.getD_or]

/-- **Of a run over branches the last shape is left.** -/
theorem foldlM {merge : PropertyTree → Schema → Id PropertyTree}
    {shape? : Schema → Option (List PropertyTree)}
    (puts : ∀ branch, Puts (shape? branch) (merge · branch)) (branches : List Schema) :
    Puts (lastShape? shape? branches) (branches.foldlM merge ·) := by
  induction branches with
  | nil => exact .pure
  | cons branch rest ih =>
      rw [lastShape?_cons]
      exact (puts branch).bind ih

end Puts

/-! ## What each branch puts in place -/

theorem puts_withElements (s : Schema) :
    Puts (listShape? target? room s) ((ofRoom .plain target? room).withElements target? s) := by
  intro p
  rcases (ofRoom .plain target? room).withElements_cases target? s p with
    ⟨target, found, run⟩ | ⟨missing, elementType, run⟩
  · rw [run]
    cases room with
    | zero => rfl
    | succ room =>
        rw [listShape?, found]
        exact run_ofElements_elementProperties _ target? target p
  · rw [run]
    cases room with
    | zero => rfl
    | succ room =>
        rw [listShape?, missing]
        rfl

theorem puts_mergeTypes (branch : Schema) :
    Puts (ownShape? target? room branch)
      ((ofRoom .plain target? room).mergeTypes target? branch) := by
  unfold mergeTypes ownShape?
  by_cases typed : branch.types.isSome
  · have elements := puts_withElements target? room branch
    simp only [typed, if_true]
    exact fun p => elements _
  · simp only [typed]
    exact .pure

theorem puts_mergeDefinition (target : Schema) :
    Puts (listShape? target? room target)
      ((ofRoom .plain target? room).mergeDefinition target? target) := by
  have elements := puts_withElements target? room target
  exact fun p => elements _

theorem puts_mergeAlternative (branch : Schema) :
    Puts (alternativeShape? target? room branch)
      ((ofRoom .plain target? room).mergeAlternative target? · branch) := by
  refine (puts_mergeTypes target? room branch).bind ?_
  cases target? branch with
  | none => exact .pure
  | some target => exact puts_mergeDefinition target? room target

/-- To absorb a union puts its shape in place if it has properties. -/
theorem absorb_elementProperties (p union : PropertyTree) {shape : Option (List PropertyTree)}
    (left : union.elementProperties = shape.getD []) :
    (p.absorb union).elementProperties =
      (shape.filter fun shape => !shape.isEmpty).getD p.elementProperties := by
  rw [PropertyTree.absorb, left]
  cases shape with
  | none => rfl
  | some shape => cases shape <;> rfl

theorem puts_mergePart (branch : Schema) :
    Puts (partShape? target? room branch)
      ((ofRoom .plain target? room).mergePart target? · branch) := by
  have typed := puts_mergeTypes target? room branch
  unfold partShape?
  cases found : target? branch with
  | none =>
      simp only [mergePart, found]
      exact typed.bind .pure
  | some target =>
      rw [Option.bind_some]
      unfold partTargetShape?
      cases union : target.anyOf with
      | none =>
          simp only [mergePart, found, union]
          exact typed.bind (puts_mergeDefinition target? room target)
      | some branches =>
          have isUnion : target.anyOf.isSome := by rw [union]; rfl
          have alternatives := Puts.foldlM (puts_mergeAlternative target? room) branches
          intro p
          let below := ofRoom .plain target? room
          have left (name : String) :
              (below.resolveAnyOf target? name target).run.elementProperties =
                (lastShape? (alternativeShape? target? room) branches).getD [] := by
            rw [resolveAnyOf, union]
            exact alternatives (.named name)
          rw [run_mergePart_union _ _ found isUnion]
          refine (absorb_elementProperties _ _ (left _)).trans ?_
          rw [typed p, Option.getD_or]

/-- **What a branch puts in place** of the shape that the branches before it have left. -/
theorem puts_mergeBranch (keyword : BranchKeyword) (branch : Schema) :
    Puts (branchShape? target? room keyword branch)
      ((ofRoom .plain target? room).mergeBranch target? keyword · branch) := by
  cases keyword with
  | anyOf => exact puts_mergeAlternative target? room branch
  | allOf => exact puts_mergePart target? room branch

end Steps

/-- **The shape of elements in a union** is the last one that a branch puts in place. So there is
one exactly if a branch has one alone and no branch behind it puts any in place, not even an empty
one. -/
theorem Document.elementProperties_branches (d : Document) {keyword : BranchKeyword}
    {branches : List Schema} {s : Schema} (has : s.HasBranches keyword branches) (name : String)
    (room : Nat) :
    let shape? := Steps.branchShape? d.referenced? room keyword
    let alone? := fun branch => d.propertyWithin? name (keyword.only [branch]) (room + 1)
    ∃ whole, d.propertyWithin? name s (room + 1) = some whole ∧
      whole.elementProperties = (Steps.lastShape? shape? branches).getD [] ∧
      (∀ branch, (alone? branch).map (·.elementProperties) = some ((shape? branch).getD [])) ∧
      (whole.elementProperties ≠ [] ↔
        ∃ before branch after part, branches = before ++ branch :: after ∧
          alone? branch = some part ∧ part.elementProperties ≠ [] ∧
          ∀ later ∈ after, shape? later = none) := by
  intro shape? alone?
  have puts := Steps.puts_mergeBranch d.referenced? room keyword
  have last := Steps.Puts.foldlM puts branches (.named name)
  have alone (branch : Schema) :
      (alone? branch).map (·.elementProperties) = some ((shape? branch).getD []) := by
    dsimp only [alone?]
    rw [d.propertyWithin?_only, Option.map_some, puts branch]
    rfl
  refine ⟨_, d.propertyWithin?_of_hasBranches has name room, last, alone, ?_⟩
  have seen (branch : Schema) : (shape? branch).getD [] ≠ [] ↔
      ∃ part, alone? branch = some part ∧ part.elementProperties ≠ [] := by
    obtain ⟨part, isPart, same⟩ := Option.map_eq_some_iff.mp (alone branch)
    rw [← same, isPart]
    simp
  rw [last]
  refine Steps.lastShape?_ne_nil_iff.trans ⟨?_, ?_⟩
  · rintro ⟨before, branch, after, cut, filled, last⟩
    obtain ⟨part, isPart, filled⟩ := (seen branch).mp filled
    exact ⟨before, branch, after, part, cut, isPart, filled, last⟩
  · rintro ⟨before, branch, after, part, cut, isPart, filled, last⟩
    exact ⟨before, branch, after, cut, (seen branch).mpr ⟨part, isPart, filled⟩, last⟩

namespace Journey

/-- A list of what a reference describes. -/
def listOf (ref : String) : Schema where
  types := some (.single "array")
  elements := some (.each { ref := some ref })

def stops : Schema := listOf "#/definitions/Stop"

def notes : Schema := listOf "#/definitions/Note"

def stop : Schema where
  types := some (.single "object")
  properties := some [("place", { types := some (.single "string") })]

/-- A note is an object of which nothing is known. -/
def note : Schema where
  types := some (.single "object")

def there : Schema := BranchKeyword.anyOf.only [notes, stops]

def back : Schema := BranchKeyword.anyOf.only [stops, notes]

def again : Schema := BranchKeyword.allOf.only [stops, notes]

def json : Json :=
  let object := ("type", Json.text "object")
  let listOf (ref : String) := Json.object
    [("type", .text "array"), ("items", .object [("$ref", .text ref)])]
  let stops := listOf "#/definitions/Stop"
  let notes := listOf "#/definitions/Note"
  .object
    [("properties", .object
        [("there", .object [("anyOf", .list [notes, stops])]),
          ("back", .object [("anyOf", .list [stops, notes])]),
          ("again", .object [("allOf", .list [stops, notes])])]),
      ("definitions", .object
        [("Stop", .object
            [object, ("properties", .object [("place", .object [("type", .text "string")])])]),
          ("Note", .object [object])])]

/-- Journeys that are lists of stops or of notes, in either order. -/
def document : Document where
  raw := json
  root := { properties := some [("there", there), ("back", back), ("again", again)] }
  definitions := [("Stop", stop), ("Note", note)]

theorem ofJson_json : Document.ofJson json = .ok document := rfl

end Journey

/-- There, the stops come last and are seen. -/
theorem Document.elementProperties_branches_journey :
    Journey.there.HasBranches .anyOf [Journey.notes, Journey.stops] ∧
    ∃ there, Journey.document.propertyWithin? "there" Journey.there maxLevels = some there ∧
      there.elementProperties = Journey.document.propertiesWithin 62 Journey.stop ∧
      there.elementProperties ≠ [] := by
  have has : Journey.there.HasBranches .anyOf [Journey.notes, Journey.stops] := ⟨rfl, rfl⟩
  obtain ⟨there, isThere, last, alone, seen⟩ :=
    Journey.document.elementProperties_branches has "there" 63
  obtain ⟨part, isPart, same⟩ := Option.map_eq_some_iff.mp (alone Journey.stops)
  have filled : part.elementProperties ≠ [] := by
    rw [same]
    exact List.cons_ne_nil _ _
  refine ⟨has, there, isThere, last,
    seen.mpr ⟨[Journey.notes], Journey.stops, [], part, rfl, isPart, filled, ?_⟩⟩
  intro later mem
  cases mem

/-- Back, the notes come last and the stops are lost, and so they are again. -/
theorem Document.elementProperties_lost_journey :
    ofJson Journey.json = .ok Journey.document ∧
    Journey.back.HasBranches .anyOf [Journey.stops, Journey.notes] ∧
    Journey.again.HasBranches .allOf [Journey.stops, Journey.notes] ∧
    (∃ alone back,
      Journey.document.propertyWithin? "back" (BranchKeyword.anyOf.only [Journey.stops])
        maxLevels = some alone ∧
      alone.elementProperties.map (·.name) = ["place"] ∧
      Journey.document.propertyWithin? "back" Journey.back maxLevels = some back ∧
      back.elementProperties = []) ∧
    ∃ alone again,
      Journey.document.propertyWithin? "again" (BranchKeyword.allOf.only [Journey.stops])
        maxLevels = some alone ∧
      alone.elementProperties.map (·.name) = ["place"] ∧
      Journey.document.propertyWithin? "again" Journey.again maxLevels = some again ∧
      again.elementProperties = [] :=
  ⟨Journey.ofJson_json, ⟨rfl, rfl⟩, ⟨rfl, rfl⟩, ⟨_, _, rfl, rfl, rfl, rfl⟩,
    _, _, rfl, rfl, rfl, rfl⟩

end SchemaOutline

import SchemaOutline.Proofs.Outline.Counter
import SchemaOutline.Proofs.Outline.Unfolding

/-!
# Where the last level does not show

A step beyond the last level is skipped, and nothing in the result tells that it was. This module
compares runs that skip no step with runs of more levels, and with the recursion that has no limit
at all. The latter need not end, so it is known by its equation: its steps are the steps above
themselves. On a schema that unfolds within the levels, all of these agree.

* `Descent.watched` — a counter that also notes whether a step was skipped.
* `Simulation.watching` — it notes one exactly if the strict run has no result.
* `Steps.IsUnlimited` — the recursion without any limit, as an equation.
* `Steps.unlimited` — its least solution, the limit of the strict runs.
* `limit_invisible` — without a skipped step, the limit does not show in the result.
-/

namespace SchemaOutline

/-! ## Watching the counter -/

/-- What is seen of a counter: its level, and whether a step was skipped. -/
structure Watch where
  level : Nat := 0
  skipped : Bool := false

namespace Descent

/-- A counter that notes when a step is skipped. -/
def watched (limit : Nat) : Descent (StateM Watch) where
  deeper skipped step := do
    let watch ← get
    if limit ≤ watch.level then
      set { watch with skipped := true }
      return skipped
    else
      set { watch with level := watch.level + 1 }
      let result ← step
      modify fun after => { after with level := watch.level }
      return result
  beyond skipped := pure skipped

end Descent

namespace Simulation

/-- What is noted has no effect on the value and the level. -/
def forgetting : Simulation (StateM Watch) (StateM Nat) where
  Rel x y := ∀ watch, (y.run watch.level).run =
    ((x.run watch).run.1, (x.run watch).run.2.level)
  rel_pure _ _ := rfl
  rel_bind {_ _ _ y _ g} related rest watch := by
    show ((g (y.run watch.level).run.1).run (y.run watch.level).run.2).run = _
    rw [related watch]
    exact rest _ _

/-- A run from a level ends on that level. It has the value of the strict run and notes nothing, or
there is no strict run and it notes that a step was skipped. -/
def watching (level : Nat) : Simulation (StateM Watch) Option where
  Rel x y := ∀ noted,
    (∀ a, y = some a → (x.run ⟨level, noted⟩).run = (a, ⟨level, noted⟩)) ∧
    (y = none → (x.run ⟨level, noted⟩).run.2 = ⟨level, true⟩)
  rel_pure a noted := by
    constructor
    · intro b same
      rw [← Option.some.inj same]
      rfl
    · intro same
      cases same
  rel_bind {_ _ x y f g} related rest noted := by
    have run : ((x >>= f).run ⟨level, noted⟩).run =
        ((f (x.run ⟨level, noted⟩).run.1).run (x.run ⟨level, noted⟩).run.2).run := rfl
    rw [run]
    cases y with
    | some a =>
        rw [(related noted).1 a rfl]
        exact rest a noted
    | none =>
        -- the flag is set already, and the rest of the run does not take it back
        rw [(related noted).2 rfl]
        obtain ⟨kept, set⟩ := rest (x.run ⟨level, noted⟩).run.1 true
        constructor
        · intro _ same
          cases same
        · intro _
          cases next : g (x.run ⟨level, noted⟩).run.1 with
          | some b => rw [kept b next]
          | none => exact set next

end Simulation

/-- At the limit a step is skipped, and this is noted. -/
theorem run_watched_deeper_of_le {limit : Nat} (watch : Watch) (reached : limit ≤ watch.level)
    {α : Type} (skipped : α) (step : StateM Watch α) :
    (((Descent.watched limit).deeper skipped step).run watch).run =
      (skipped, { watch with skipped := true }) := by
  simp only [Descent.watched, StateT.run_bind, StateT.run_get, pure_bind, reached, if_true]
  rfl

/-- Below the limit a step runs on the next level, and the counter is put back. -/
theorem run_watched_deeper_of_lt {limit : Nat} (watch : Watch) (free : watch.level < limit)
    {α : Type} (skipped : α) (step : StateM Watch α) :
    (((Descent.watched limit).deeper skipped step).run watch).run =
      ((step.run { watch with level := watch.level + 1 }).run.1,
        { (step.run { watch with level := watch.level + 1 }).run.2 with
          level := watch.level }) := by
  simp only [Descent.watched, StateT.run_bind, StateT.run_get, pure_bind, Nat.not_le.mpr free,
    if_false]
  rfl

section Watched

variable {limit level : Nat} {target? : Schema → Option Schema}

/-- Watching a counter changes nothing. -/
theorem watched_forgetting (limit : Nat) (target? : Schema → Option Schema) (room : Nat) :
    Steps.Simulates .forgetting (Steps.ofRoom (.watched limit) target? room)
      (Steps.ofRoom (.counted limit) target? room) := by
  induction room with
  | zero =>
      exact exhausted_simulates Simulation.forgetting.rel_pure
  | succ room ih =>
      refine ih.above target? fun skipped x y related watch => ?_
      rw [Descent.counted_eq_counter]
      rcases Nat.lt_or_ge watch.level limit with free | reached
      · have next := related { watch with level := watch.level + 1 }
        have counted := run_counter_deeper_of_lt (fun _ skipped => pure skipped) free skipped y
        rw [run_watched_deeper_of_lt watch free, counted, Id.run_map, next]
      · have counted := run_counter_deeper_of_le (fun _ skipped => pure skipped) reached skipped y
        rw [run_watched_deeper_of_le watch reached, counted]
        rfl

/-- **A watched counter notes a skipped step exactly if the strict run has no result.** It has more
levels than the counter allows, so the counter is what skips a step. -/
theorem watched_watching (target? : Schema → Option Schema) {limit room level : Nat}
    (enough : limit - level < room) :
    Steps.Simulates (.watching level) (Steps.ofRoom (.watched limit) target? room)
      (Steps.ofRoom .strict target? (limit - level)) := by
  induction room generalizing level with
  | zero => exact absurd enough (Nat.not_lt_zero _)
  | succ room ih =>
      rcases Nat.lt_or_ge level limit with free | reached
      · have next : limit - level = limit - (level + 1) + 1 := by omega
        rw [next]
        have below : Steps.Simulates (.watching (level + 1)) _ _ := ih (by omega)
        refine below.above target? fun skipped x y related noted => ?_
        rw [run_watched_deeper_of_lt ⟨level, noted⟩ free]
        obtain ⟨kept, set⟩ := related noted
        constructor
        · intro a same
          rw [kept a same]
        · intro same
          rw [set same]
      · rw [Nat.sub_eq_zero_of_le reached]
        refine above_simulates_exhausted target? _ fun skipped step noted => ?_
        constructor
        · intro _ same
          cases same
        · intro _
          rw [run_watched_deeper_of_le ⟨level, noted⟩ reached]

end Watched

/-! ## More levels -/

/-- The result of the strict run, where there is one, is the value of the other run. -/
def Simulation.agreeing : Simulation Option Id where
  Rel x y := ∀ a, x = some a → y.run = a
  rel_pure _ _ same := Option.some.inj same
  rel_bind related rest b bound := by
    obtain ⟨a, first, second⟩ := Option.bind_eq_some_iff.mp bound
    rw [Id.run_bind, related a first]
    exact rest a b second

/-- The result of the strict run, where there is one, is that of the other run. -/
def Simulation.refining : Simulation Option Option where
  Rel x y := ∀ a, x = some a → y = some a
  rel_pure _ _ same := same
  rel_bind related rest b bound := by
    obtain ⟨a, first, second⟩ := Option.bind_eq_some_iff.mp bound
    rw [related a first]
    exact rest a b second

namespace Steps

variable (target? : Schema → Option Schema)

theorem ofRoom_properties_none {m : Type → Type} [Monad m] (d : Descent m) (room : Nat)
    {s : Schema} (absent : s.properties = none) :
    (ofRoom d target? room).properties s = pure [] := by
  cases room with
  | zero => exact exhausted_properties_none d absent
  | succ room => exact above_properties_none d target? _ absent

/-- Without a level left the strict steps have a result only where no step is needed. -/
theorem exhausted_strict_simulates {n : Type → Type} [Monad n] {R : Simulation Option n}
    {T : Steps n} (nothing : ∀ {α : Type} (y : n α), R.Rel none y)
    (absent : ∀ s : Schema, s.properties = none → T.properties s = pure []) :
    Simulates R (exhausted .strict) T where
  properties s := by
    cases present : s.properties with
    | none =>
        rw [exhausted_properties_none _ present, absent s present]
        exact R.rel_pure []
    | some named =>
        rw [exhausted_properties_some _ present]
        exact nothing _
  elements _ _ := nothing _
  values _ := nothing _

/-- A strict run is related to every run on at least as many levels, as long as no result is
related to everything. -/
theorem strict_simulates {n : Type → Type} [Monad n] [LawfulMonad n] {R : Simulation Option n}
    {d : Descent n} (nothing : ∀ {α : Type} (y : n α), R.Rel none y)
    (deeper : ∀ {α : Type} (skipped : α) {x : Option α} {y : n α}, R.Rel x y →
      R.Rel (Descent.strict.deeper skipped x) (d.deeper skipped y))
    {room more : Nat} (le : room ≤ more) :
    Simulates R (ofRoom .strict target? room) (ofRoom d target? more) := by
  induction room generalizing more with
  | zero =>
      exact exhausted_strict_simulates nothing fun _ => ofRoom_properties_none target? d more
  | succ room ih =>
      -- the other run has a level for each that the strict run has
      obtain ⟨more, rfl⟩ : ∃ k, more = k + 1 := ⟨more - 1, by omega⟩
      exact (ih (Nat.le_of_succ_le_succ le)).above target? deeper

theorem strict_agreeing {room more : Nat} (le : room ≤ more) :
    Simulates .agreeing (ofRoom .strict target? room) (ofRoom .plain target? more) :=
  strict_simulates target? (fun _ _ same => nomatch same) (fun _ _ _ related => related) le

theorem strict_refining {room more : Nat} (le : room ≤ more) :
    Simulates .refining (ofRoom .strict target? room) (ofRoom .strict target? more) :=
  strict_simulates target? (fun _ _ same => nomatch same) (fun _ _ _ related => related) le

/-! ## The recursion without a limit -/

/-- The steps of the recursion without any limit: each is made of these steps themselves. -/
def IsUnlimited (S : Steps Option) : Prop :=
  S = above .strict target? S

variable {target?}

/-- Where a strict run has a result, so has the recursion without a limit, and it is the same. -/
theorem IsUnlimited.refining {S : Steps Option} (unlimited : IsUnlimited target? S) (room : Nat) :
    Simulates .refining (ofRoom .strict target? room) S := by
  induction room with
  | zero =>
      refine exhausted_strict_simulates (fun _ _ same => nomatch same) fun s absent => ?_
      rw [unlimited]
      exact above_properties_none _ _ _ absent
  | succ room ih =>
      rw [unlimited]
      exact ih.above target? fun _ _ _ related => related

end Steps

/-- What a growing sequence of results comes to: the first that is there, if there is one. -/
noncomputable def limitOf {α : Type} (results : Nat → Option α) : Option α :=
  open scoped Classical in
  if h : ∃ n, (results n).isSome then results h.choose else none

theorem limitOf_eq_some_iff {α : Type} {results : Nat → Option α}
    (grows : ∀ n k a, n ≤ k → results n = some a → results k = some a) (a : α) :
    limitOf results = some a ↔ ∃ n, results n = some a := by
  unfold limitOf
  split
  · rename_i h
    obtain ⟨b, chosen⟩ := Option.isSome_iff_exists.mp h.choose_spec
    rw [chosen]
    constructor
    · intro same
      exact ⟨_, chosen.trans same⟩
    rintro ⟨n, found⟩
    -- both results are that of a run with the levels of either
    have left := grows _ (max h.choose n) b (Nat.le_max_left _ _) chosen
    have right := grows _ (max h.choose n) a (Nat.le_max_right _ _) found
    exact left.symm.trans right
  · rename_i h
    constructor
    · intro same
      cases same
    · rintro ⟨n, found⟩
      exact absurd ⟨n, Option.isSome_iff_exists.mpr ⟨a, found⟩⟩ h

/-- A run for every number of levels, growing to a result. -/
def Simulation.approaching : Simulation Option (ReaderT Nat Option) where
  Rel x y :=
    (∀ n k a, n ≤ k → y.run n = some a → y.run k = some a) ∧
    ∀ a, x = some a ↔ ∃ n, y.run n = some a
  rel_pure a := ⟨fun _ _ _ _ same => same, fun _ => ⟨fun same => ⟨0, same⟩, fun ⟨_, same⟩ => same⟩⟩
  rel_bind {_ _ x y f g} related rest := by
    obtain ⟨grows, limit⟩ := related
    refine ⟨?_, fun b => ⟨?_, ?_⟩⟩
    · intro n k b le bound
      obtain ⟨a, first, second⟩ := Option.bind_eq_some_iff.mp bound
      have later := (rest a).1 n k b le second
      exact Option.bind_eq_some_iff.mpr ⟨a, grows n k a le first, later⟩
    · intro bound
      obtain ⟨a, first, second⟩ := Option.bind_eq_some_iff.mp bound
      obtain ⟨n, first⟩ := (limit a).mp first
      obtain ⟨k, second⟩ := ((rest a).2 b).mp second
      -- the two parts of a run may need different numbers of levels
      refine ⟨max n k, Option.bind_eq_some_iff.mpr ⟨a, ?_, ?_⟩⟩
      · exact grows n _ a (Nat.le_max_left n k) first
      · exact (rest a).1 k _ b (Nat.le_max_right n k) second
    · rintro ⟨n, bound⟩
      obtain ⟨a, first, second⟩ := Option.bind_eq_some_iff.mp bound
      exact Option.bind_eq_some_iff.mpr
        ⟨a, (limit a).mpr ⟨n, first⟩, ((rest a).2 b).mpr ⟨n, second⟩⟩

namespace Steps

variable (target? : Schema → Option Schema)

/-- The strict runs for every number of levels. -/
def strictRuns : Steps (ReaderT Nat Option) where
  properties s room := (ofRoom .strict target? room).properties s
  elements target p room := (ofRoom .strict target? room).elements target p
  values target room := (ofRoom .strict target? room).values target

/-- The recursion without any limit: it has a result where some strict run has one. -/
noncomputable def unlimited : Steps Option where
  properties s := limitOf fun room => (ofRoom .strict target? room).properties s
  elements target p := limitOf fun room => (ofRoom .strict target? room).elements target p
  values target := limitOf fun room => (ofRoom .strict target? room).values target

theorem unlimited_approaching :
    Simulates .approaching (unlimited target?) (strictRuns target?) where
  properties s :=
    have grows := fun n k a (le : n ≤ k) => (strict_refining target? le).properties s a
    ⟨grows, limitOf_eq_some_iff grows⟩
  elements target p :=
    have grows := fun n k a (le : n ≤ k) => (strict_refining target? le).elements target p a
    ⟨grows, limitOf_eq_some_iff grows⟩
  values target :=
    have grows := fun n k a (le : n ≤ k) => (strict_refining target? le).values target a
    ⟨grows, limitOf_eq_some_iff grows⟩

end Steps

/-- Going deeper in the runs for every number of levels. -/
def Descent.strictly : Descent (ReaderT Nat Option) where
  deeper _ step := step
  beyond _ _ := none

/-- The run for one number of levels. -/
def Simulation.runAt (room : Nat) : Simulation (ReaderT Nat Option) Option where
  Rel x y := x.run room = y
  rel_pure _ := rfl
  rel_bind {_ _ _ y f g} related rest := by
    rw [ReaderT.run_bind, related]
    exact congrArg (y >>= ·) (funext rest)

/-- Runs that are one level behind come to the same result. -/
theorem Simulation.approaching_unique {α : Type} {x x' : Option α} {y y' : ReaderT Nat Option α}
    (h : approaching.Rel x y) (h' : approaching.Rel x' y')
    (behind : ∀ n, y'.run n = y.run (n + 1)) : x = x' := by
  refine Option.ext fun a => ?_
  rw [h.2, h'.2]
  constructor
  · rintro ⟨n, found⟩
    exact ⟨n, (behind n).trans (h.1 n (n + 1) a (Nat.le_succ n) found)⟩
  · rintro ⟨n, found⟩
    exact ⟨n + 1, (behind n).symm.trans found⟩

namespace Steps

theorem ext {m : Type → Type} {S T : Steps m} (properties : S.properties = T.properties)
    (elements : S.elements = T.elements) (values : S.values = T.values) : S = T := by
  cases S
  cases T
  cases properties
  cases elements
  cases values
  rfl

variable (target? : Schema → Option Schema)

/-- The runs for every number of levels, one level higher. -/
theorem above_strictRuns (room : Nat) :
    Simulates (.runAt room) (above .strictly target? (strictRuns target?))
      (ofRoom .strict target? (room + 1)) := by
  have same : Simulates (.runAt room) (strictRuns target?) (ofRoom .strict target? room) :=
    ⟨fun _ => rfl, fun _ _ => rfl, fun _ => rfl⟩
  exact same.above target? fun _ _ _ related => related

/-- **The limit of the strict runs solves the recursion without a limit.** -/
theorem unlimited_isUnlimited : IsUnlimited target? (unlimited target?) := by
  have runs := unlimited_approaching target?
  have next : Simulates .approaching (above .strict target? (unlimited target?))
      (above .strictly target? (strictRuns target?)) :=
    runs.above target? fun _ _ _ related => related
  -- made of themselves, the runs are one level behind
  have behind := above_strictRuns target?
  apply ext
  · funext s
    exact Simulation.approaching_unique (runs.properties s) (next.properties s)
      fun n => (behind n).properties s
  · funext target p
    exact Simulation.approaching_unique (runs.elements target p) (next.elements target p)
      fun n => (behind n).elements target p
  · funext target
    exact Simulation.approaching_unique (runs.values target) (next.values target)
      fun n => (behind n).values target

end Steps

/-! ## Without a skipped step -/

namespace Document

/-- The trees of the properties of a schema by a watched counter that starts at zero, and what is
seen of it at the end. Nothing but the counter skips a step. -/
def watchedPropertiesWithin (document : Document) (limit : Nat) (s : Schema) :
    List PropertyTree × Watch :=
  ((Steps.ofRoom (.watched limit) document.referenced? (limit + 1)).properties s).run {}

variable (document : Document) (limit : Nat) (s : Schema)

/-- The counter notes a skipped step exactly if the strict run has no result. -/
theorem skipped_eq_isNone :
    (document.watchedPropertiesWithin limit s).2.skipped =
      (document.strictPropertiesWithin limit s).isNone := by
  have enough : limit - 0 < limit + 1 := Nat.lt_succ_self limit
  obtain ⟨kept, set⟩ := (watched_watching document.referenced? enough).properties s false
  cases strict : document.strictPropertiesWithin limit s with
  | none => exact congrArg Watch.skipped (set strict)
  | some trees => exact congrArg (fun result => result.2.skipped) (kept trees strict)

theorem watchedPropertiesWithin_eq :
    ((document.watchedPropertiesWithin limit s).1,
      (document.watchedPropertiesWithin limit s).2.level) =
        document.countedPropertiesWithin limit s := by
  have forgotten := (watched_forgetting limit document.referenced? (limit + 1)).properties s {}
  have counted := (counted_simulates document.referenced? limit 0 (limit + 1)).properties s
  rw [Nat.sub_zero, Nat.min_eq_right (Nat.le_succ limit)] at counted
  rw [countedPropertiesWithin_eq]
  exact forgotten.symm.trans (congrArg Id.run counted)

variable {document limit s}

/-- A strict run that has a result has the one of every run on more levels. -/
theorem propertiesWithin_eq_of_strict {trees : List PropertyTree} {more : Nat}
    (strict : document.strictPropertiesWithin limit s = some trees) (le : limit ≤ more) :
    document.propertiesWithin more s = trees :=
  (Steps.strict_agreeing document.referenced? le).properties s trees strict

end Document

/-- **A limit that is not hit does not show.** Watching a counter changes nothing, and it notes a
skipped step exactly if the schema unfolds beyond the last level. If it notes none, every higher
limit gives the same trees, and so does the recursion without any limit, whatever solves its
equation. -/
theorem limit_invisible (document : Document) (s : Schema) :
    ((document.watchedPropertiesWithin maxLevels s).1,
      (document.watchedPropertiesWithin maxLevels s).2.level) =
        document.countedPropertiesWithin maxLevels s ∧
    ((document.watchedPropertiesWithin maxLevels s).2.skipped = false ↔
      document.UnfoldsWithin maxLevels s) ∧
    ((document.watchedPropertiesWithin maxLevels s).2.skipped = false →
      (∀ limit, maxLevels ≤ limit →
        document.countedPropertiesWithin limit s =
          document.countedPropertiesWithin maxLevels s) ∧
      (∃ S, Steps.IsUnlimited document.referenced? S) ∧
      ∀ S, Steps.IsUnlimited document.referenced? S →
        S.properties s = some (document.countedPropertiesWithin maxLevels s).1) := by
  refine ⟨document.watchedPropertiesWithin_eq maxLevels s, ?_, ?_⟩
  · rw [Document.skipped_eq_isNone, ← strictPropertiesWithin_isSome]
    cases document.strictPropertiesWithin maxLevels s <;> simp
  · intro free
    rw [Document.skipped_eq_isNone] at free
    -- the strict run has a result, and every other run is compared with it
    obtain ⟨trees, strict⟩ := Option.isSome_iff_exists.mp (Option.isNone_eq_false_iff.mp free)
    have here := Document.propertiesWithin_eq_of_strict strict (Nat.le_refl maxLevels)
    refine ⟨?_, ⟨_, Steps.unlimited_isUnlimited _⟩, ?_⟩
    · intro limit le
      have higher := Document.propertiesWithin_eq_of_strict strict le
      rw [Document.countedPropertiesWithin_eq, Document.countedPropertiesWithin_eq, here, higher]
    · intro S unlimited
      rw [Document.countedPropertiesWithin_eq, here]
      exact (unlimited.refining maxLevels).properties s trees strict

namespace Grid

/-- A list of rows, each of them a list of cells. -/
def root : Schema where
  properties := some [("rows", { elements := some (.each { ref := some "#/definitions/Row" }) })]

def json : Json :=
  let listOf (reference : String) := Json.object [("items", .object [("$ref", .text reference)])]
  .object
    [("properties", .object [("rows", listOf "#/definitions/Row")]),
      ("definitions", .object
        [("Row", listOf "#/definitions/Cell"), ("Cell", .object [("type", .text "string")])])]

def document : Document where
  raw := json
  root
  definitions :=
    [("Row", { elements := some (.each { ref := some "#/definitions/Cell" }) }),
      ("Cell", { types := some (.single "string") })]

theorem ofJson_json : Document.ofJson json = .ok document := rfl

end Grid

/-- On a list of lists the limit does not show. -/
theorem limit_invisible_grid :
    Document.ofJson Grid.json = .ok Grid.document ∧
    (Grid.document.watchedPropertiesWithin maxLevels Grid.root).2.skipped = false ∧
    (∀ limit, maxLevels ≤ limit →
      Grid.document.countedPropertiesWithin limit Grid.root =
        Grid.document.countedPropertiesWithin maxLevels Grid.root) ∧
    ∃ S, Steps.IsUnlimited Grid.document.referenced? S ∧
      S.properties Grid.root =
        some (Grid.document.countedPropertiesWithin maxLevels Grid.root).1 := by
  have free : (Grid.document.watchedPropertiesWithin maxLevels Grid.root).2.skipped = false := by
    decide +kernel
  obtain ⟨higher, ⟨S, unlimited⟩, same⟩ := (limit_invisible Grid.document Grid.root).2.2 free
  exact ⟨Grid.ofJson_json, free, higher, S, unlimited, same S unlimited⟩

end SchemaOutline

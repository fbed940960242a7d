import SchemaOutline.Proofs.Outline.Simulation

/-!
# The counter of a resolver

A resolver keeps one counter for all its questions. Each step raises the counter and lowers it
again, and a step that finds it at the limit is skipped. This module shows that every step leaves
the counter as it found it, so that a run with a counter is a plain run with the levels that the
counter has left.

* `Descent.counter` — a counter over any monad, whatever stands for a step beyond the last level.
* `counter_simulates` — if there are levels enough, the counter alone ends the recursion.
* `counted_simulates` — with fewer levels, whichever is used up first ends it.
-/

namespace SchemaOutline

namespace Descent

/-- A counter is one higher while a step runs, and a step is skipped when the counter is at the
limit. What happens when no level is left is open. -/
def counter {m : Type → Type} [Monad m] (limit : Nat)
    (beyond : (α : Type) → α → StateT Nat m α) : Descent (StateT Nat m) where
  deeper skipped step := do
    let level ← get
    if limit ≤ level then
      return skipped
    else
      set (level + 1)
      let result ← step
      set level
      return result
  beyond := beyond _

/-- Nothing but the counter ends the recursion: without a level left there is no result. -/
def guarded (limit : Nat) : Descent (StateT Nat Option) :=
  counter limit fun _ _ _ => none

theorem counted_eq_counter (limit : Nat) :
    counted limit = counter limit fun _ skipped => pure skipped := rfl

end Descent

section Counter

variable {m : Type → Type} [Monad m] [LawfulMonad m]

/-- A run from a level ends on that level with the value of a plain run. -/
def Simulation.keeping (level : Nat) : Simulation (StateT Nat m) Id where
  Rel x y := x.run level = pure (y.run, level)
  rel_pure _ := rfl
  rel_bind related rest := by
    rw [StateT.run_bind, related, pure_bind]
    exact rest _

variable (beyond : (α : Type) → α → StateT Nat m α) {limit level : Nat}

/-- At the limit a step is skipped. -/
theorem run_counter_deeper_of_le (reached : limit ≤ level) {α : Type} (skipped : α)
    (step : StateT Nat m α) :
    ((Descent.counter limit beyond).deeper skipped step).run level = pure (skipped, level) := by
  simp [Descent.counter, reached]

/-- Below the limit a step runs on the next level, and the counter is put back. -/
theorem run_counter_deeper_of_lt (free : level < limit) {α : Type} (skipped : α)
    (step : StateT Nat m α) :
    ((Descent.counter limit beyond).deeper skipped step).run level =
      (fun result => (result.1, level)) <$> step.run (level + 1) := by
  simp [Descent.counter, Nat.not_le.mpr free]

variable {target? : Schema → Option Schema} {S : Steps (StateT Nat m)} {T : Steps Id}

/-- At the limit the steps of a counter are those without a level left. -/
theorem above_counter_of_le (reached : limit ≤ level) :
    Steps.Simulates (.keeping level) (Steps.above (.counter limit beyond) target? S)
      (Steps.exhausted .plain) :=
  above_simulates_exhausted target? S fun skipped step =>
    run_counter_deeper_of_le beyond reached skipped step

/-- Below the limit they are those of one level more than the steps on the next level. -/
theorem above_counter_of_lt (free : level < limit)
    (below : Steps.Simulates (.keeping (level + 1)) S T) :
    Steps.Simulates (.keeping level) (Steps.above (.counter limit beyond) target? S)
      (Steps.above .plain target? T) := by
  refine below.above target? fun skipped x y related => ?_
  show ((Descent.counter limit beyond).deeper skipped x).run level = pure (y.run, level)
  have run : x.run (level + 1) = pure (y.run, level + 1) := related
  rw [run_counter_deeper_of_lt beyond free, run, map_pure]

/-- **The counter alone ends the recursion**: with more levels than the counter has left, what
stands beyond the last one is never asked for. -/
theorem counter_simulates (target? : Schema → Option Schema) {room : Nat}
    (enough : limit - level < room) :
    Steps.Simulates (.keeping level) (Steps.ofRoom (.counter limit beyond) target? room)
      (Steps.ofRoom .plain target? (limit - level)) := by
  -- for every level at once: a step is taken one level up, with one level less to go
  induction room generalizing level with
  | zero => exact absurd enough (Nat.not_lt_zero _)
  | succ room ih =>
      rcases Nat.lt_or_ge level limit with free | reached
      · have next : limit - level = limit - (level + 1) + 1 := by omega
        rw [next]
        exact above_counter_of_lt _ free (ih (by omega))
      · rw [Nat.sub_eq_zero_of_le reached]
        exact above_counter_of_le _ reached

end Counter

/-- A run with a counter is a plain run with the levels that are left to it and to the counter,
whichever is less. -/
theorem counted_simulates (target? : Schema → Option Schema) (limit level room : Nat) :
    Steps.Simulates (.keeping level) (Steps.ofRoom (.counted limit) target? room)
      (Steps.ofRoom .plain target? (min room (limit - level))) := by
  induction room generalizing level with
  | zero =>
      rw [Nat.zero_min]
      exact exhausted_simulates fun skipped => (Simulation.keeping level).rel_pure skipped
  | succ room ih =>
      rcases Nat.lt_or_ge level limit with free | reached
      · have next : min (room + 1) (limit - level) = min room (limit - (level + 1)) + 1 := by
          omega
        rw [next]
        exact above_counter_of_lt _ free (ih (level + 1))
      · rw [Nat.sub_eq_zero_of_le reached, Nat.min_zero]
        exact above_counter_of_le _ reached

namespace Document

/-- The trees of the properties of a schema by a counter that starts at zero, and where it ends. -/
def countedPropertiesWithin (document : Document) (limit : Nat) (s : Schema) :
    List PropertyTree × Nat :=
  ((Steps.ofRoom (.counted limit) document.referenced? limit).properties s).run 0

/-- The same by a recursion that nothing but the counter ends; absent if it calls itself on more
levels than the given number. -/
def guardedPropertiesWithin (document : Document) (limit calls : Nat) (s : Schema) :
    Option (List PropertyTree × Nat) :=
  ((Steps.ofRoom (.guarded limit) document.referenced? calls).properties s).run 0

theorem countedPropertiesWithin_eq (document : Document) (limit : Nat) (s : Schema) :
    document.countedPropertiesWithin limit s = (document.propertiesWithin limit s, 0) := by
  have related := (counted_simulates document.referenced? limit 0 limit).properties s
  rw [Nat.sub_zero, Nat.min_self] at related
  exact related

theorem guardedPropertiesWithin_eq (document : Document) {limit calls : Nat}
    (enough : limit < calls) (s : Schema) :
    document.guardedPropertiesWithin limit calls s =
      some (document.propertiesWithin limit s, 0) :=
  (counter_simulates _ document.referenced? enough).properties s

end Document

end SchemaOutline

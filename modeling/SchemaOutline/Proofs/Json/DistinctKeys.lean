import SchemaOutline.Json.Reader

/-!
# Objects of distinct keys

An object has one value for each of its keys, so no two of its entries have the same key. A value
that is built by hand may break that rule; a value that is read from a text never does, since a key
that comes again takes the place of the earlier one.

* `Json.keysDistinct` — no object in a value repeats a key.
* `Json.keysDistinct_of_get?`, `Json.keysDistinct_of_mem` — what is inside such a value is one.
* `Reader.State.KeysDistinct` — nothing that has been read so far repeats a key.
* `Reader.State.keysDistinct_step` — one character keeps that.
* `Json.keysDistinct_of_parse` — so the value of a text repeats no key.
-/

namespace SchemaOutline.Json

mutual

/-- Whether no object in the value has two entries of one key. -/
def keysDistinct : Json → Bool
  | object entries => decide (entries.map Prod.fst).Nodup && entriesKeysDistinct entries
  | list elements => elementsKeysDistinct elements
  | _ => true

/-- Whether the same holds of each element. -/
def elementsKeysDistinct : List Json → Bool
  | [] => true
  | value :: rest => value.keysDistinct && elementsKeysDistinct rest

/-- Whether the same holds of the value of each entry. -/
def entriesKeysDistinct : List (String × Json) → Bool
  | [] => true
  | (_, value) :: rest => value.keysDistinct && entriesKeysDistinct rest

end

theorem elementsKeysDistinct_iff {elements : List Json} :
    elementsKeysDistinct elements ↔ ∀ value ∈ elements, value.keysDistinct := by
  induction elements with
  | nil => simp [elementsKeysDistinct]
  | cons value rest ih => simp [elementsKeysDistinct, ih]

theorem entriesKeysDistinct_iff {entries : List (String × Json)} :
    entriesKeysDistinct entries ↔ ∀ entry ∈ entries, entry.2.keysDistinct := by
  induction entries with
  | nil => simp [entriesKeysDistinct]
  | cons entry rest ih => simp [entriesKeysDistinct, ih]

theorem keysDistinct_list_iff {elements : List Json} :
    (list elements).keysDistinct ↔ ∀ value ∈ elements, value.keysDistinct := by
  rw [keysDistinct, elementsKeysDistinct_iff]

theorem keysDistinct_object_iff {entries : List (String × Json)} :
    (object entries).keysDistinct ↔
      (entries.map Prod.fst).Nodup ∧ ∀ entry ∈ entries, entry.2.keysDistinct := by
  rw [keysDistinct, Bool.and_eq_true, decide_eq_true_eq, entriesKeysDistinct_iff]

/-! ## Inside a value -/

theorem mem_of_lookup {α : Type} {entries : List (String × α)} {key : String} {a : α}
    (found : entries.lookup key = some a) : (key, a) ∈ entries := by
  induction entries with
  | nil => cases found
  | cons entry rest ih =>
      obtain ⟨first, b⟩ := entry
      rw [List.lookup_cons] at found
      by_cases same : key = first
      · subst same
        simp only [beq_self_eq_true, Option.some.injEq] at found
        rw [found]
        exact List.mem_cons_self
      · rw [beq_false_of_ne same] at found
        exact List.mem_cons_of_mem _ (ih found)

/-- Among distinct keys, a look-up finds every entry. -/
theorem lookup_of_mem {α : Type} {entries : List (String × α)} {key : String} {a : α}
    (distinct : (entries.map Prod.fst).Nodup) (mem : (key, a) ∈ entries) :
    entries.lookup key = some a := by
  induction entries with
  | nil => cases mem
  | cons entry rest ih =>
      obtain ⟨fresh, distinct⟩ := List.nodup_cons.mp distinct
      cases mem with
      | head => exact List.lookup_cons_self
      | tail _ mem =>
          have other : key ≠ entry.1 := by
            rintro rfl
            exact fresh (List.mem_map.mpr ⟨(entry.1, a), mem, rfl⟩)
          rw [List.lookup_cons, beq_false_of_ne other]
          exact ih distinct mem

/-- The value of a key of an object repeats no key if the object does not. -/
theorem keysDistinct_of_get? {value inner : Json} {key : String} (distinct : value.keysDistinct)
    (found : value.get? key = some inner) : inner.keysDistinct := by
  cases value with
  | object entries =>
      have mem : (key, inner) ∈ entries := mem_of_lookup found
      exact (keysDistinct_object_iff.mp distinct).2 (key, inner) mem
  | _ => cases found

theorem keysDistinct_of_mem {elements : List Json} {inner : Json}
    (distinct : (list elements).keysDistinct) (mem : inner ∈ elements) : inner.keysDistinct :=
  keysDistinct_list_iff.mp distinct inner mem

/-! ## Adding an entry -/

theorem mem_map_fst_put {key name : String} {value : Json} {entries : List (String × Json)} :
    name ∈ (put key value entries).map Prod.fst ↔ name = key ∨ name ∈ entries.map Prod.fst := by
  induction entries with
  | nil => simp [put]
  | cons entry rest ih =>
      by_cases same : entry.1 = key
      · subst same
        simp [put]
      · rw [put, if_neg same, List.map_cons, List.mem_cons, ih, List.map_cons, List.mem_cons]
        exact or_left_comm

theorem nodup_map_fst_put {entries : List (String × Json)} (key : String) (value : Json)
    (distinct : (entries.map Prod.fst).Nodup) :
    ((put key value entries).map Prod.fst).Nodup := by
  induction entries with
  | nil => exact List.pairwise_singleton _ key
  | cons entry rest ih =>
      obtain ⟨fresh, others⟩ := List.nodup_cons.mp distinct
      by_cases same : entry.1 = key
      · subst same
        rw [put, if_pos rfl]
        exact distinct
      · rw [put, if_neg same, List.map_cons, List.nodup_cons, mem_map_fst_put]
        exact ⟨not_or.mpr ⟨same, fresh⟩, ih others⟩

theorem mem_put {key : String} {value : Json} {entries : List (String × Json)}
    {entry : String × Json} (mem : entry ∈ put key value entries) :
    entry = (key, value) ∨ entry ∈ entries := by
  induction entries with
  | nil => exact .inl (List.mem_singleton.mp mem)
  | cons first rest ih =>
      by_cases same : first.1 = key
      · rw [put, if_pos same] at mem
        rcases List.mem_cons.mp mem with here | later
        · exact .inl here
        · exact .inr (List.mem_cons_of_mem _ later)
      · rw [put, if_neg same] at mem
        rcases List.mem_cons.mp mem with here | later
        · exact .inr (here ▸ List.mem_cons_self)
        · exact (ih later).imp_right (List.mem_cons_of_mem _)

/-- An entry that is added repeats no key. -/
theorem keysDistinct_put {key : String} {value : Json} {entries : List (String × Json)}
    (inner : value.keysDistinct) (distinct : (object entries).keysDistinct) :
    (object (put key value entries)).keysDistinct := by
  obtain ⟨keys, values⟩ := keysDistinct_object_iff.mp distinct
  refine keysDistinct_object_iff.mpr ⟨nodup_map_fst_put key value keys, ?_⟩
  intro entry mem
  rcases mem_put mem with rfl | there
  · exact inner
  · exact values entry there

/-! ## Reading a text -/

namespace Reader

/-- The container so far repeats no key. -/
def Frame.KeysDistinct : Frame → Prop
  | .list elements => (Json.list elements).keysDistinct
  | .object entries _ => (Json.object entries).keysDistinct

/-- What has been read of the innermost container repeats no key. -/
def Mode.KeysDistinct : Mode → Prop
  | .afterElement elements => (Json.list elements).keysDistinct
  | .nextKey entries => (Json.object entries).keysDistinct
  | .colon entries _ => (Json.object entries).keysDistinct
  | .afterEntry entries => (Json.object entries).keysDistinct
  | .quoted (.key entries) _ _ => (Json.object entries).keysDistinct
  | .word _ meaning => meaning.keysDistinct
  | .done v => v.keysDistinct
  | .value | .firstElement | .firstKey | .number _ | .quoted .value _ _ => True

/-- **Nothing that has been read so far repeats a key.** -/
structure State.KeysDistinct (s : State) : Prop where
  mode : s.mode.KeysDistinct
  frames : ∀ frame ∈ s.frames, frame.KeysDistinct

theorem Number.keysDistinct_value? {n : Number} {value : Json} (read : n.value? = some value) :
    value.keysDistinct := by
  unfold Number.value? at read
  dsimp only at read
  split at read
  · cases read
    rfl
  · obtain ⟨x, -, rfl⟩ := Option.map_eq_some_iff.mp read
    rfl

namespace State

variable {frames : List Frame} {limit : Nat} {c : Char} {next : State}

theorem keysDistinct_afterValue (outer : ∀ frame ∈ frames, frame.KeysDistinct) {value : Json}
    (inner : value.keysDistinct) : (afterValue frames value).KeysDistinct := by
  cases frames with
  | nil => exact ⟨inner, fun _ mem => absurd mem List.not_mem_nil⟩
  | cons frame rest =>
      obtain ⟨own, others⟩ := List.forall_mem_cons.mp outer
      cases frame with
      | list elements =>
          refine ⟨keysDistinct_list_iff.mpr ?_, others⟩
          exact List.forall_mem_cons.mpr ⟨inner, keysDistinct_list_iff.mp own⟩
      | object entries key => exact ⟨keysDistinct_put inner own, others⟩

theorem keysDistinct_startValue (outer : ∀ frame ∈ frames, frame.KeysDistinct)
    (started : startValue limit frames c = some next) : next.KeysDistinct := by
  unfold startValue at started
  dsimp only at started
  -- whatever begins here, nothing of it has been read yet
  repeat' split at started
  all_goals cases started
  all_goals exact ⟨by simp [Mode.KeysDistinct, keysDistinct], outer⟩

theorem keysDistinct_afterText {role : TextRole} {read : List Char} {part : TextPart}
    (good : State.KeysDistinct ⟨.quoted role read part, frames⟩) (text : String) :
    (afterText frames role text).KeysDistinct := by
  cases role with
  | value => exact keysDistinct_afterValue good.frames rfl
  | key entries => exact ⟨good.mode, good.frames⟩

theorem keysDistinct_stepText {role : TextRole} {read : List Char} {part : TextPart}
    (good : State.KeysDistinct ⟨.quoted role read part, frames⟩)
    (taken : stepText frames role read c part = some next) : next.KeysDistinct := by
  -- between the quotes only the characters change
  have within : ∀ read part, State.KeysDistinct ⟨.quoted role read part, frames⟩ := by
    intro read part
    refine ⟨?_, good.frames⟩
    cases role with
    | value => trivial
    | key entries => exact good.mode
  unfold stepText at taken
  dsimp only at taken
  repeat' split at taken
  all_goals cases taken
  all_goals first
    | exact within _ _
    | exact keysDistinct_afterText good _

theorem keysDistinct_stepToken {mode : Mode} (good : State.KeysDistinct ⟨mode, frames⟩)
    (taken : stepToken limit mode frames c = some next) : next.KeysDistinct := by
  obtain ⟨own, outer⟩ := good
  unfold stepToken at taken
  by_cases blank : isBlank c
  · rw [if_pos blank] at taken
    cases taken
    exact ⟨own, outer⟩
  rw [if_neg blank] at taken
  cases mode with
  | value => exact keysDistinct_startValue outer taken
  | firstElement =>
      dsimp only at taken
      split at taken
      · cases taken
        exact keysDistinct_afterValue outer rfl
      · have empty : (Frame.list []).KeysDistinct := rfl
        exact keysDistinct_startValue (List.forall_mem_cons.mpr ⟨empty, outer⟩) taken
  | afterElement elements =>
      dsimp only at taken
      split at taken
      · cases taken
        exact ⟨trivial, List.forall_mem_cons.mpr ⟨own, outer⟩⟩
      · split at taken <;> cases taken
        refine keysDistinct_afterValue outer (keysDistinct_list_iff.mpr fun v mem => ?_)
        exact keysDistinct_of_mem own (List.mem_reverse.mp mem)
  | firstKey =>
      dsimp only at taken
      split at taken
      · cases taken
        exact ⟨rfl, outer⟩
      · split at taken <;> cases taken
        exact keysDistinct_afterValue outer rfl
  | nextKey entries =>
      dsimp only at taken
      split at taken <;> cases taken
      exact ⟨own, outer⟩
  | colon entries key =>
      dsimp only at taken
      split at taken <;> cases taken
      exact ⟨trivial, List.forall_mem_cons.mpr ⟨own, outer⟩⟩
  | afterEntry entries =>
      dsimp only at taken
      split at taken
      · cases taken
        exact ⟨own, outer⟩
      · split at taken <;> cases taken
        exact keysDistinct_afterValue outer own
  | word left meaning => cases taken
  | number n => cases taken
  | quoted role read part => cases taken
  | done v => cases taken

/-- **One character repeats no key**: a key that comes again takes the place of the earlier one. -/
theorem keysDistinct_step {s : State} (good : s.KeysDistinct) (taken : s.step limit c = some next) :
    next.KeysDistinct := by
  obtain ⟨mode, frames⟩ := s
  unfold step at taken
  cases mode with
  | word left meaning =>
      cases left with
      | nil => exact keysDistinct_stepToken good taken
      | cons first left =>
          dsimp only at taken
          split at taken
          · split at taken <;> cases taken
            · exact keysDistinct_afterValue good.frames good.mode
            · exact ⟨good.mode, good.frames⟩
          · cases taken
  | quoted role read part => exact keysDistinct_stepText good taken
  | number n =>
      dsimp only at taken
      split at taken
      · cases taken
        exact ⟨trivial, good.frames⟩
      · split at taken
        · split at taken
          · -- the number ends, and the character stands behind it
            rename_i v read
            have inner := Number.keysDistinct_value? read
            exact keysDistinct_stepToken (keysDistinct_afterValue good.frames inner) taken
          · cases taken
        · cases taken
  | _ => exact keysDistinct_stepToken good taken

theorem keysDistinct_finish {s : State} (good : s.KeysDistinct) {value : Json}
    (ended : s.finish = .ok value) : value.keysDistinct := by
  obtain ⟨mode, frames⟩ := s
  unfold finish at ended
  cases mode with
  | done v =>
      cases ended
      exact good.mode
  | number n =>
      dsimp only at ended
      split at ended
      · split at ended
        · cases ended
        · rename_i v read
          split at ended <;> cases ended
          exact Number.keysDistinct_value? read
      · cases ended
  | _ => cases ended

/-- A run keeps it, by one character after another. -/
theorem keysDistinct_run {s : State} (good : s.KeysDistinct) {chars : List Char} {value : Json}
    (read : run limit s chars = .ok value) : value.keysDistinct := by
  induction chars generalizing s with
  | nil => exact keysDistinct_finish good read
  | cons c rest ih =>
      rw [run] at read
      cases taken : s.step limit c with
      | none =>
          rw [taken] at read
          cases read
      | some next =>
          rw [taken] at read
          exact ih (keysDistinct_step good taken) read

end State

end Reader

/-- **The value of a text repeats no key.** -/
theorem keysDistinct_of_parse {text : String} {value : Json} (read : parse text = .ok value) :
    value.keysDistinct := by
  refine Reader.State.keysDistinct_run (s := ⟨.value, []⟩) ⟨trivial, ?_⟩ read
  exact fun _ mem => absurd mem List.not_mem_nil

end SchemaOutline.Json

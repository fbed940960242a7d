import SchemaOutline.Proofs.Json.DistinctKeys
import SchemaOutline.Proofs.Json.Tokens

/-!
# Reading back a written value

The text of a value is read as a value of the same shape, unless too many containers stand inside
one another. Only numbers with a point or an exponent may come back as others, since their numerals
are read in steps that round. So a value is read back as it was exactly if it is not too deep and
each of these numbers is read back as it was from its own text.

* `Json.depth` — how many containers stand inside one another.
* `Json.readBack?` — what is read from the text of a value.
* `Reader.State.run_chars` — reading goes on behind the text of a value.
* `Json.parse_compact` — what the text of a value as a whole is read as.
* `Json.readBack?_eq_self_iff` — a value is read back as it was.
-/

namespace SchemaOutline

/-- What is read from the text of a floating number. -/
def Binary64.readBack? (x : Binary64) : Option Json :=
  (Json.parse (Json.float x).compact).toOption

namespace Json

mutual

/-- How many containers stand inside one another. -/
def depth : Json → Nat
  | list elements => elementsDepth elements + 1
  | object entries => entriesDepth entries + 1
  | _ => 0

/-- The depth of the deepest element. -/
def elementsDepth : List Json → Nat
  | [] => 0
  | value :: rest => max value.depth (elementsDepth rest)

/-- The depth of the deepest value of an entry. -/
def entriesDepth : List (String × Json) → Nat
  | [] => 0
  | (_, value) :: rest => max value.depth (entriesDepth rest)

end

mutual

/-- **What is read from the text of a value**, where `room` containers may stand inside one
another: nothing if more do, or if a number comes back as none. -/
def readBack? (room : Nat) : Json → Option Json
  | float x => x.readBack?
  | list elements =>
    match room with
    | 0 => none
    | room + 1 => (elementsReadBack? room elements).map list
  | object entries =>
    match room with
    | 0 => none
    | room + 1 => (entriesReadBack? room entries).map object
  | value => some value

/-- What is read from the texts of elements. -/
def elementsReadBack? (room : Nat) : List Json → Option (List Json)
  | [] => some []
  | value :: rest => do return (← readBack? room value) :: (← elementsReadBack? room rest)

/-- What is read from the texts of entries. -/
def entriesReadBack? (room : Nat) : List (String × Json) → Option (List (String × Json))
  | [] => some []
  | (key, value) :: rest => do
    return (key, ← readBack? room value) :: (← entriesReadBack? room rest)

end

/-- Adding an entry of a new key puts it behind all others. -/
theorem put_eq_append {key : String} {entries : List (String × Json)}
    (fresh : key ∉ entries.map Prod.fst) (value : Json) :
    put key value entries = entries ++ [(key, value)] := by
  induction entries with
  | nil => rfl
  | cons entry rest ih =>
      rw [List.map_cons, List.mem_cons, not_or] at fresh
      rw [put, if_neg (Ne.symm fresh.1), ih fresh.2, List.cons_append]

/-- The text of a value begins with a character that ends no list. -/
theorem exists_chars (v : Json) (layout : Layout) (level : Nat) :
    ∃ c rest, v.chars layout level = c :: rest ∧ Reader.isBlank c = false ∧ c ≠ ']' := by
  have numeral {cs : List Char} {n : Reader.Number} (made : Reader.Numeral cs n) :
      ∃ c rest, cs = c :: rest ∧ Reader.isBlank c = false ∧ c ≠ ']' := by
    obtain ⟨⟨c, rest, start, made, started, -⟩, -⟩ := made
    refine ⟨c, rest, made, Reader.State.isBlank_of_start? started, ?_⟩
    rintro rfl
    cases started
  cases v with
  | null => exact ⟨_, _, rfl, rfl, by decide⟩
  | bool b => cases b <;> exact ⟨_, _, rfl, rfl, by decide⟩
  | whole w =>
      obtain ⟨n, made, -⟩ := Reader.numeral_whole w
      exact numeral made
  | float x =>
      obtain ⟨n, made⟩ := Reader.numeral_float x
      exact numeral made
  | text s => exact ⟨_, _, rfl, rfl, by decide⟩
  | list elements => cases elements <;> exact ⟨_, _, rfl, rfl, by decide⟩
  | object entries => cases entries <;> exact ⟨_, _, rfl, rfl, by decide⟩

namespace Reader

open State (afterValue run run_cons run_numeral run_quoted)

/-- Reading goes on behind a value, if there is one. -/
def State.resume (limit : Nat) (frames : List Frame) (value? : Option Json) (x : List Char) :
    Except TextFault Json :=
  match value? with
  | some value => run limit (afterValue frames value) x
  | none => .error .malformed

section Run

variable {limit : Nat} {frames : List Frame}

/-- Behind an opening bracket an element is read as behind a comma. -/
theorem State.run_firstElement {c : Char} (blank : isBlank c = false) (other : c ≠ ']')
    (rest : List Char) :
    run limit ⟨.firstElement, frames⟩ (c :: rest) =
      run limit ⟨.value, .list [] :: frames⟩ (c :: rest) := by
  have first : State.step limit ⟨.firstElement, frames⟩ c =
      startValue limit (.list [] :: frames) c := by
    show stepToken limit .firstElement frames c = _
    rw [stepToken, if_neg (by simp [blank])]
    exact if_neg other
  have later : State.step limit ⟨.value, .list [] :: frames⟩ c =
      startValue limit (.list [] :: frames) c := by
    show stepToken limit .value _ c = _
    rw [stepToken, if_neg (by simp [blank])]
  rw [run, run, first, later]
  rfl

/-- An opening bracket is taken as long as there is room. -/
theorem State.run_bracket (x : List Char) :
    run limit ⟨.value, frames⟩ ('[' :: x) =
      if frames.length < limit then run limit ⟨.firstElement, frames⟩ x
      else .error .malformed := by
  have step : State.step limit ⟨.value, frames⟩ '[' =
      if frames.length < limit then some ⟨.firstElement, frames⟩ else none := rfl
  rw [run, step]
  by_cases room : frames.length < limit
  · rw [if_pos room, if_pos room]
  · rw [if_neg room, if_neg room]
    rfl

/-- So is an opening brace. -/
theorem State.run_brace (x : List Char) :
    run limit ⟨.value, frames⟩ ('{' :: x) =
      if frames.length < limit then run limit ⟨.firstKey, frames⟩ x
      else .error .malformed := by
  have step : State.step limit ⟨.value, frames⟩ '{' =
      if frames.length < limit then some ⟨.firstKey, frames⟩ else none := rfl
  rw [run, step]
  by_cases room : frames.length < limit
  · rw [if_pos room, if_pos room]
  · rw [if_neg room, if_neg room]
    rfl

/-- Room for a container is room for one less within it. -/
theorem State.resume_of_room (back? : Nat → Option Json) {within? : Nat → Option Json}
    (none_ : back? 0 = none) (one : ∀ room, back? (room + 1) = within? room) (x : List Char) :
    (if frames.length < limit then resume limit frames (within? (limit - (frames.length + 1))) x
      else .error .malformed) = resume limit frames (back? (limit - frames.length)) x := by
  by_cases room : frames.length < limit
  · have less : limit - frames.length = limit - (frames.length + 1) + 1 := by omega
    rw [if_pos room, less, one]
  · rw [if_neg room, Nat.sub_eq_zero_of_le (Nat.le_of_not_lt room), none_]
    rfl

/-- What is read from the text of a floating number, wherever it stands. -/
theorem Numeral.value?_float {x : Binary64} {n : Number} (numeral : Numeral x.jsonChars n) :
    n.value? = x.readBack? := by
  have alone : run maxContainers ⟨.value, []⟩ (x.jsonChars ++ []) =
      match n.value? with
      | some value => run maxContainers (afterValue [] value) []
      | none => .error .malformed := run_numeral numeral nofun
  rw [List.append_nil] at alone
  have parsed : parse (Json.float x).compact = run maxContainers ⟨.value, []⟩ x.jsonChars := by
    rw [parse, parseWithin, compact, String.toList_ofList]
    rfl
  rw [Binary64.readBack?, parsed, alone]
  cases n.value? <;> rfl

/-- What stands behind a value within a container ends a number. -/
theorem endsNumber_charsOfElements (elements : List Json) (level : Nat) (x : List Char) :
    ∀ c, (charsOfElements .compact level elements ++ x).head? = some c → endsNumber c := by
  intro c head
  cases elements <;> (cases head; rfl)

theorem endsNumber_charsOfEntries (entries : List (String × Json)) (level : Nat) (x : List Char) :
    ∀ c, (charsOfEntries .compact level entries ++ x).head? = some c → endsNumber c := by
  intro c head
  cases entries with
  | nil => cases head; rfl
  | cons entry rest => cases head; rfl

/-- A key is read up to the value behind its colon. -/
theorem State.run_key (read : List (String × Json)) (key : String) (x : List Char) :
    run limit ⟨.nextKey read, frames⟩ (quoted key ++ ':' :: x) =
      run limit ⟨.value, .object read key :: frames⟩ x := by
  have opened : run limit ⟨.nextKey read, frames⟩ (quoted key ++ ':' :: x) =
      run limit ⟨.quoted (.key read) [] .plain, frames⟩
        (key.toList.flatMap escapeChar ++ '"' :: ':' :: x) := by
    rw [quoted, List.cons_append, List.append_assoc]
    exact run_cons rfl _
  rw [opened, run_quoted]
  exact run_cons rfl x

/-- A list is read, if there is room, as elements after none. -/
theorem State.run_list (elements : List Json) (level : Nat) (x : List Char) :
    run limit ⟨.value, frames⟩ ((list elements).chars .compact level ++ x) =
      if frames.length < limit then
        run limit ⟨.afterElement [], frames⟩ (charsOfElements .compact level elements ++ x)
      else .error .malformed := by
  cases elements with
  | nil => exact run_bracket (']' :: x)
  | cons first rest =>
      -- the list is open, so its end would be taken here: the first element must not look like it
      obtain ⟨c, others, made, blank, other⟩ := exists_chars first .compact (level + 1)
      have shown : (list (first :: rest)).chars .compact level ++ x =
          '[' :: (first.chars .compact (level + 1) ++
            (charsOfElements .compact level rest ++ x)) := by
        simp [chars, Layout.line]
      have behind : charsOfElements .compact level (first :: rest) ++ x =
          ',' :: (first.chars .compact (level + 1) ++
            (charsOfElements .compact level rest ++ x)) := by
        simp [charsOfElements, Layout.line]
      rw [shown, behind, run_bracket, made, List.cons_append, run_firstElement blank other]
      exact congrArg (fun run => if frames.length < limit then run else _) (run_cons rfl _).symm

/-- So is an object as entries after none. -/
theorem State.run_object (entries : List (String × Json)) (level : Nat) (x : List Char) :
    run limit ⟨.value, frames⟩ ((object entries).chars .compact level ++ x) =
      if frames.length < limit then
        run limit ⟨.afterEntry [], frames⟩ (charsOfEntries .compact level entries ++ x)
      else .error .malformed := by
  cases entries with
  | nil => exact run_brace ('}' :: x)
  | cons entry rest =>
      obtain ⟨key, value⟩ := entry
      have shown : (object ((key, value) :: rest)).chars .compact level ++ x =
          '{' :: (quoted key ++ ':' :: (value.chars .compact (level + 1) ++
            (charsOfEntries .compact level rest ++ x))) := by
        simp [chars, Layout.line, Layout.colon]
      have behind : charsOfEntries .compact level ((key, value) :: rest) ++ x =
          ',' :: (quoted key ++ ':' :: (value.chars .compact (level + 1) ++
            (charsOfEntries .compact level rest ++ x))) := by
        simp [charsOfEntries, Layout.line, Layout.colon]
      have first (y : List Char) : run limit ⟨.firstKey, frames⟩ (quoted key ++ y) =
          run limit ⟨.nextKey [], frames⟩ (quoted key ++ y) := rfl
      rw [shown, behind, run_brace, first]
      exact congrArg (fun run => if frames.length < limit then run else _) (run_cons rfl _).symm

mutual

/-- **Reading goes on behind the text of a value** with what is read from it. -/
theorem State.run_chars (frames : List Frame) : (v : Json) → v.keysDistinct → (level : Nat) →
    (x : List Char) → (∀ c, x.head? = some c → endsNumber c) →
    run limit ⟨.value, frames⟩ (v.chars .compact level ++ x) =
      resume limit frames (v.readBack? (limit - frames.length)) x
  | .null, _, _, _, _ => rfl
  | .bool true, _, _, _, _ => rfl
  | .bool false, _, _, _, _ => rfl
  | .whole w, _, _, x, ends => by
    obtain ⟨n, numeral, value⟩ := numeral_whole w
    rw [chars, run_numeral numeral ends, value]
    rfl
  | .float y, _, _, x, ends => by
    obtain ⟨n, numeral⟩ := numeral_float y
    rw [chars, run_numeral numeral ends, Numeral.value?_float numeral]
    rfl
  | .text s, _, _, x, _ => by
    rw [chars, quoted, List.cons_append, List.append_assoc]
    exact (run_cons rfl _).trans (run_quoted s x)
  | .list elements, distinct, level, x, _ => by
    rw [run_list, run_charsOfElements [] elements distinct level x]
    exact resume_of_room (readBack? · (list elements)) rfl (fun _ => rfl) x
  | .object entries, distinct, level, x, _ => by
    rw [keysDistinct, Bool.and_eq_true, decide_eq_true_eq] at distinct
    rw [run_object, run_charsOfEntries [] entries distinct.2 distinct.1 level x]
    exact resume_of_room (readBack? · (object entries)) rfl (fun _ => rfl) x

/-- The same behind the texts of the elements after others. -/
theorem State.run_charsOfElements {frames : List Frame} (read : List Json) :
    (elements : List Json) → elementsKeysDistinct elements → (level : Nat) → (x : List Char) →
    run limit ⟨.afterElement read, frames⟩ (charsOfElements .compact level elements ++ x) =
      resume limit frames ((elementsReadBack? (limit - (frames.length + 1)) elements).map
        fun more => .list (read.reverse ++ more)) x
  | [], _, _, x => by
    rw [elementsReadBack?, Option.map_some, List.append_nil]
    exact run_cons rfl x
  | value :: rest, distinct, level, x => by
    rw [elementsKeysDistinct, Bool.and_eq_true] at distinct
    have ends := endsNumber_charsOfElements rest level x
    have one := run_chars (.list read :: frames) value distinct.1 (level + 1) _ ends
    have start : run limit ⟨.afterElement read, frames⟩
          (charsOfElements .compact level (value :: rest) ++ x) =
        run limit ⟨.value, .list read :: frames⟩
          (value.chars .compact (level + 1) ++ (charsOfElements .compact level rest ++ x)) := by
      rw [charsOfElements, Layout.line, List.nil_append, List.cons_append, List.append_assoc]
      exact run_cons rfl _
    rw [start, one, List.length_cons, elementsReadBack?]
    cases value.readBack? (limit - (frames.length + 1)) with
    | none => rfl
    | some w =>
        show run limit ⟨.afterElement (w :: read), frames⟩ _ = _
        rw [run_charsOfElements (w :: read) rest distinct.2 level x]
        cases elementsReadBack? (limit - (frames.length + 1)) rest with
        | none => rfl
        | some more => simp [resume]

/-- The same behind the texts of the entries after others. -/
theorem State.run_charsOfEntries {frames : List Frame} (read : List (String × Json)) :
    (entries : List (String × Json)) → entriesKeysDistinct entries →
    (read.map Prod.fst ++ entries.map Prod.fst).Nodup → (level : Nat) → (x : List Char) →
    run limit ⟨.afterEntry read, frames⟩ (charsOfEntries .compact level entries ++ x) =
      resume limit frames ((entriesReadBack? (limit - (frames.length + 1)) entries).map
        fun more => .object (read ++ more)) x
  | [], _, _, _, x => by
    rw [entriesReadBack?, Option.map_some, List.append_nil]
    exact run_cons rfl x
  | (key, value) :: rest, distinct, fresh, level, x => by
    rw [entriesKeysDistinct, Bool.and_eq_true] at distinct
    have ends := endsNumber_charsOfEntries rest level x
    have one := run_chars (.object read key :: frames) value distinct.1 (level + 1) _ ends
    have start : run limit ⟨.afterEntry read, frames⟩
          (charsOfEntries .compact level ((key, value) :: rest) ++ x) =
        run limit ⟨.value, .object read key :: frames⟩
          (value.chars .compact (level + 1) ++ (charsOfEntries .compact level rest ++ x)) := by
      simp only [charsOfEntries, Layout.line, Layout.colon, List.nil_append, List.cons_append,
        List.append_assoc]
      exact (run_cons rfl _).trans (run_key read key _)
    rw [start, one, List.length_cons, entriesReadBack?]
    cases value.readBack? (limit - (frames.length + 1)) with
    | none => rfl
    | some w =>
        have newKey : key ∉ read.map Prod.fst := fun mem =>
          (List.nodup_append.mp fresh).2.2 key mem key List.mem_cons_self rfl
        have freshRest : ((read ++ [(key, w)]).map Prod.fst ++ rest.map Prod.fst).Nodup := by
          simpa using fresh
        show run limit ⟨.afterEntry (put key w read), frames⟩ _ = _
        rw [put_eq_append newKey, run_charsOfEntries _ rest distinct.2 freshRest level x]
        cases entriesReadBack? (limit - (frames.length + 1)) rest with
        | none => rfl
        | some more => simp [resume]

end

end Run

end Reader

/-! ## Whole texts -/

/-- **What the text of a value is read as**, with blanks behind it or without. A text that is not
read is at fault within. -/
theorem parse_compact {v : Json} (distinct : v.keysDistinct) (behind : String)
    (blank : ∀ c ∈ behind.toList, Reader.isBlank c) :
    parse (v.compact ++ behind) =
      match v.readBack? maxContainers with
      | some w => .ok w
      | none => .error .malformed := by
  have ends : ∀ c, behind.toList.head? = some c → Reader.endsNumber c := by
    intro c head
    have here := blank c (List.mem_of_mem_head? head)
    simp only [Reader.isBlank, Bool.or_eq_true, decide_eq_true_eq] at here
    obtain ((rfl | rfl) | rfl) | rfl := here <;> rfl
  have finish (w : Json) (cs : List Char) (blank : ∀ c ∈ cs, Reader.isBlank c) :
      Reader.State.run maxContainers ⟨.done w, []⟩ cs = .ok w := by
    induction cs with
    | nil => rfl
    | cons c rest ih =>
        obtain ⟨here, others⟩ := List.forall_mem_cons.mp blank
        have step : Reader.State.step maxContainers ⟨.done w, []⟩ c = some ⟨.done w, []⟩ := by
          show Reader.State.stepToken maxContainers (.done w) [] c = _
          simp [Reader.State.stepToken, here]
        exact (Reader.State.run_cons step rest).trans (ih others)
  rw [parse, parseWithin, String.toList_append, compact, String.toList_ofList,
    Reader.State.run_chars [] v distinct 0 _ ends]
  show Reader.State.resume maxContainers [] (v.readBack? maxContainers) _ = _
  cases v.readBack? maxContainers with
  | none => rfl
  | some w => exact finish w _ blank

/-! ## Values that are read back as they were -/

mutual

/-- **Whether every floating number in a value is read back** as it was, from its own text. -/
def floatsReadBack : Json → Bool
  | float x => decide (x.readBack? = some (float x))
  | list elements => elementsFloatsReadBack elements
  | object entries => entriesFloatsReadBack entries
  | _ => true

/-- Whether the same holds of each element. -/
def elementsFloatsReadBack : List Json → Bool
  | [] => true
  | value :: rest => value.floatsReadBack && elementsFloatsReadBack rest

/-- Whether the same holds of the value of each entry. -/
def entriesFloatsReadBack : List (String × Json) → Bool
  | [] => true
  | (_, value) :: rest => value.floatsReadBack && entriesFloatsReadBack rest

end

mutual

/-- **A value is read back as it was** exactly if there is room for it and its numbers are. -/
theorem readBack?_eq_self_iff {room : Nat} : (v : Json) →
    (v.readBack? room = some v ↔ v.depth ≤ room ∧ v.floatsReadBack)
  | .null => by simp [readBack?, depth, floatsReadBack]
  | .bool _ => by simp [readBack?, depth, floatsReadBack]
  | .whole _ => by simp [readBack?, depth, floatsReadBack]
  | .float _ => by simp [readBack?, depth, floatsReadBack]
  | .text _ => by simp [readBack?, depth, floatsReadBack]
  | .list elements => by
    cases room with
    | zero => simp [readBack?, depth]
    | succ room =>
        rw [readBack?, depth, floatsReadBack, Nat.succ_le_succ_iff,
          ← elementsReadBack?_eq_self_iff elements]
        simp [Option.map_eq_some_iff]
  | .object entries => by
    cases room with
    | zero => simp [readBack?, depth]
    | succ room =>
        rw [readBack?, depth, floatsReadBack, Nat.succ_le_succ_iff,
          ← entriesReadBack?_eq_self_iff entries]
        simp [Option.map_eq_some_iff]

theorem elementsReadBack?_eq_self_iff {room : Nat} : (elements : List Json) →
    (elementsReadBack? room elements = some elements ↔
      elementsDepth elements ≤ room ∧ elementsFloatsReadBack elements)
  | [] => by simp [elementsReadBack?, elementsDepth, elementsFloatsReadBack]
  | value :: rest => by
    rw [elementsReadBack?, elementsDepth, elementsFloatsReadBack, Nat.max_le, Bool.and_eq_true,
      and_and_and_comm,
      ← readBack?_eq_self_iff value, ← elementsReadBack?_eq_self_iff rest]
    simp [Option.bind_eq_some_iff]

theorem entriesReadBack?_eq_self_iff {room : Nat} : (entries : List (String × Json)) →
    (entriesReadBack? room entries = some entries ↔
      entriesDepth entries ≤ room ∧ entriesFloatsReadBack entries)
  | [] => by simp [entriesReadBack?, entriesDepth, entriesFloatsReadBack]
  | (key, value) :: rest => by
    rw [entriesReadBack?, entriesDepth, entriesFloatsReadBack, Nat.max_le, Bool.and_eq_true,
      and_and_and_comm,
      ← readBack?_eq_self_iff value, ← entriesReadBack?_eq_self_iff rest]
    simp [Option.bind_eq_some_iff]

end

/-! ## Lists and objects -/

theorem elementsDepth_le_iff {elements : List Json} {n : Nat} :
    elementsDepth elements ≤ n ↔ ∀ value ∈ elements, value.depth ≤ n := by
  induction elements with
  | nil => simp [elementsDepth]
  | cons value rest ih => rw [elementsDepth, Nat.max_le, ih, List.forall_mem_cons]

theorem floatsReadBack_list_iff {elements : List Json} :
    (list elements).floatsReadBack ↔ ∀ value ∈ elements, value.floatsReadBack := by
  rw [floatsReadBack]
  induction elements with
  | nil => simp [elementsFloatsReadBack]
  | cons value rest ih =>
      rw [elementsFloatsReadBack, Bool.and_eq_true, ih, List.forall_mem_cons]

theorem floatsReadBack_object_iff {entries : List (String × Json)} :
    (object entries).floatsReadBack ↔ ∀ entry ∈ entries, entry.2.floatsReadBack := by
  rw [floatsReadBack]
  induction entries with
  | nil => simp [entriesFloatsReadBack]
  | cons entry rest ih =>
      rw [entriesFloatsReadBack, Bool.and_eq_true, ih, List.forall_mem_cons]

/-- What is read back of a list is a list of what is read back of its elements. -/
theorem exists_elementsReadBack? {room : Nat} {elements : List Json} {w : Json}
    (back : (list elements).readBack? room = some w) :
    ∃ left others, elementsReadBack? left elements = some others ∧ w = list others := by
  cases room with
  | zero => cases back
  | succ left =>
      obtain ⟨others, each, made⟩ := Option.map_eq_some_iff.mp back
      exact ⟨left, others, each, made.symm⟩

/-- What is read back of an object is an object of what is read back of its entries. -/
theorem exists_entriesReadBack? {room : Nat} {entries : List (String × Json)} {w : Json}
    (back : (object entries).readBack? room = some w) :
    ∃ left others, entriesReadBack? left entries = some others ∧ w = object others := by
  cases room with
  | zero => cases back
  | succ left =>
      obtain ⟨others, each, made⟩ := Option.map_eq_some_iff.mp back
      exact ⟨left, others, each, made.symm⟩

theorem entriesReadBack?_cons_eq_some_iff {room : Nat} {key : String} {value : Json}
    {rest entries : List (String × Json)} :
    entriesReadBack? room ((key, value) :: rest) = some entries ↔
      ∃ w others, value.readBack? room = some w ∧ entriesReadBack? room rest = some others ∧
        entries = (key, w) :: others := by
  simp [entriesReadBack?, Option.bind_eq_some_iff, @eq_comm _ entries]

theorem exists_of_entriesReadBack?_append {room : Nat} {first second entries : List (String × Json)}
    (back : entriesReadBack? room (first ++ second) = some entries) :
    ∃ one two, entriesReadBack? room first = some one ∧ entriesReadBack? room second = some two ∧
      entries = one ++ two := by
  induction first generalizing entries with
  | nil => exact ⟨[], entries, rfl, back, rfl⟩
  | cons entry rest ih =>
      obtain ⟨w, others, here, later, rfl⟩ := entriesReadBack?_cons_eq_some_iff.mp back
      obtain ⟨one, two, left, right, rfl⟩ := ih later
      exact ⟨_, two, entriesReadBack?_cons_eq_some_iff.mpr ⟨w, one, here, left, rfl⟩, right, rfl⟩

mutual

/-- Nothing is read back of a value that there is no room for. -/
theorem depth_le_of_readBack? {room : Nat} : (v : Json) → (v.readBack? room).isSome →
    v.depth ≤ room
  | .null, _ | .bool _, _ | .whole _, _ | .float _, _ | .text _, _ => Nat.zero_le room
  | .list elements, back => by
    cases room with
    | zero => cases back
    | succ room =>
        rw [readBack?, Option.isSome_map] at back
        exact Nat.succ_le_succ (elementsDepth_le_of_readBack? elements back)
  | .object entries, back => by
    cases room with
    | zero => cases back
    | succ room =>
        rw [readBack?, Option.isSome_map] at back
        exact Nat.succ_le_succ (entriesDepth_le_of_readBack? entries back)

theorem elementsDepth_le_of_readBack? {room : Nat} : (elements : List Json) →
    (elementsReadBack? room elements).isSome → elementsDepth elements ≤ room
  | [], _ => Nat.zero_le room
  | value :: rest, back => by
    obtain ⟨all, back⟩ := Option.isSome_iff_exists.mp back
    simp only [elementsReadBack?, Option.bind_eq_bind, Option.bind_eq_some_iff] at back
    obtain ⟨w, first, others, later, -⟩ := back
    exact Nat.max_le.mpr ⟨depth_le_of_readBack? value (Option.isSome_of_eq_some first),
      elementsDepth_le_of_readBack? rest (Option.isSome_of_eq_some later)⟩

theorem entriesDepth_le_of_readBack? {room : Nat} : (entries : List (String × Json)) →
    (entriesReadBack? room entries).isSome → entriesDepth entries ≤ room
  | [], _ => Nat.zero_le room
  | (key, value) :: rest, back => by
    obtain ⟨all, back⟩ := Option.isSome_iff_exists.mp back
    obtain ⟨w, others, first, later, -⟩ := entriesReadBack?_cons_eq_some_iff.mp back
    exact Nat.max_le.mpr ⟨depth_le_of_readBack? value (Option.isSome_of_eq_some first),
      entriesDepth_le_of_readBack? rest (Option.isSome_of_eq_some later)⟩

end

/-- Only the numbers of a value may come back as others. -/
theorem eq_of_readBack? {room : Nat} {v w : Json} (floats : v.floatsReadBack)
    (back : v.readBack? room = some w) : w = v := by
  have fits := depth_le_of_readBack? v (Option.isSome_of_eq_some back)
  have same := readBack?_eq_self_iff v |>.mpr ⟨fits, floats⟩
  exact Option.some.inj (back.symm.trans same)

theorem entries_eq_of_readBack? {room : Nat} {entries others : List (String × Json)}
    (floats : (object entries).floatsReadBack)
    (back : entriesReadBack? room entries = some others) :
    others = entries := by
  have whole : (object entries).readBack? (room + 1) = some (object others) :=
    congrArg (Option.map object) back
  exact object.inj (eq_of_readBack? floats whole)

end Json

end SchemaOutline

import Mathlib.Data.List.TakeDrop
import SchemaOutline.Proofs.Number.Digits
import SchemaOutline.Proofs.Toml.Quoted

/-!
# Lines read back

A line with a header, or with a key and a whole number or a quoted text behind it, is read as what
it says.

* `scalar?_toDigits` — a natural number at the end of a line.
* `line?_pair` — a key without quotes, and its value.
* `ReadAs` — the lines that characters are read as, and how they are put in front of others.
-/

namespace SchemaOutline.Toml.Reader

open Moment (isDigit expect? fixed?)

/-! ## Natural numbers -/

section Numbers

variable {digits r : List Char}

/-- Behind a number of digits within a line of digits comes a digit or the line end. -/
theorem expect?_fixed? (all : ∀ c ∈ digits, isDigit c) (mark : Char) (other : isDigit mark = false)
    (inLine : mark ≠ '\n') (count : Nat) :
    ((fixed? count (digits ++ '\n' :: r)).bind fun read => expect? mark read.2) = none := by
  unfold fixed?
  dsimp only
  split
  · next taken =>
      obtain ⟨-, same⟩ := taken
      -- the line end is no digit, so it is not among the digits that were taken
      have within : count ≤ digits.length := by
        refine Nat.le_of_not_lt fun beyond => ?_
        have newline : '\n' ∈ (digits ++ '\n' :: r).take count := by
          rw [List.take_append, List.take_cons (by omega)]
          simp
        exact absurd (List.all_eq_true.mp same _ newline) (by decide)
      rw [Option.bind_some, List.drop_append_of_le_length within]
      cases left : digits.drop count with
      | nil => exact if_neg (Ne.symm inLine)
      | cons c rest =>
          have digit := all c (List.mem_of_mem_drop (left ▸ List.mem_cons_self))
          refine if_neg fun here => ?_
          rw [here, other] at digit
          cases digit
  · rfl

/-- Digits alone are no date and no time. -/
theorem read?_digits (all : ∀ c ∈ digits, isDigit c) :
    Moment.read? (digits ++ '\n' :: r) = none := by
  have noDate : Moment.date? (digits ++ '\n' :: r) = none := by
    have stops := expect?_fixed? (r := r) all '-' rfl (by decide) 4
    unfold Moment.date?
    cases read : fixed? 4 (digits ++ '\n' :: r) with
    | none => rfl
    | some year =>
        rw [read] at stops
        exact congrArg (Option.bind · _) stops
  have noTime : Moment.time? (digits ++ '\n' :: r) = none := by
    have stops := expect?_fixed? (r := r) all ':' rfl (by decide) 2
    unfold Moment.time? Moment.hoursAndMinutes?
    cases read : fixed? 2 (digits ++ '\n' :: r) with
    | none => rfl
    | some hour =>
        rw [read] at stops
        simp only [Option.bind_some] at stops
        simp [stops]
  rw [Moment.read?, noDate]
  simp [noTime]

theorem digitGroups_append (all : ∀ c ∈ digits, isDigit c) :
    digitGroups isDigit (digits ++ '\n' :: r) = (digits, '\n' :: r) := by
  induction digits with
  | nil => rfl
  | cons c rest ih =>
      obtain ⟨first, others⟩ := List.forall_mem_cons.mp all
      rw [List.cons_append, digitGroups.eq_def]
      dsimp only
      rw [if_pos first, ih others]

theorem digits?_toDigits (n : Nat) :
    digits? isDigit (Nat.toDigits 10 n ++ '\n' :: r) = some (Nat.toDigits 10 n, '\n' :: r) := by
  have all : ∀ c ∈ Nat.toDigits 10 n, isDigit c := fun c mem => Moment.isDigit_of_mem_toDigits mem
  have groups := digitGroups_append (r := r) all
  cases made : Nat.toDigits 10 n with
  | nil => exact absurd made Nat.toDigits_ne_nil
  | cons c rest =>
      rw [made] at all groups
      exact (if_pos (all c List.mem_cons_self)).trans (congrArg some groups)

theorem wholePart?_toDigits (n : Nat) :
    wholePart? (Nat.toDigits 10 n ++ '\n' :: r) = some (Nat.toDigits 10 n, '\n' :: r) := by
  unfold wholePart?
  rw [digits?_toDigits]
  obtain rfl | positive := Nat.eq_zero_or_pos n
  · rfl
  · obtain ⟨first, rest, made, nonzero⟩ := toDigits_eq_cons positive
    rw [made]
    simp only [Option.bind_eq_bind, Option.bind_some]
    split
    · next same => exact absurd (List.cons.inj same).1 nonzero
    · rfl

/-- A line with a natural number begins with a digit. -/
theorem isDigit_of_toDigits_append {n : Nat} {c : Char} {x : List Char}
    (begins : Nat.toDigits 10 n ++ '\n' :: r = c :: x) : isDigit c := by
  cases made : Nat.toDigits 10 n with
  | nil => exact absurd made Nat.toDigits_ne_nil
  | cons first rest =>
      rw [made] at begins
      obtain ⟨rfl, -⟩ := List.cons.inj begins
      exact Moment.isDigit_of_mem_toDigits (n := n) (made ▸ List.mem_cons_self)

/-- A zero at the beginning is all there is of the number. -/
theorem eq_newline_of_toDigits_append {n : Nat} {c : Char} {x : List Char}
    (begins : Nat.toDigits 10 n ++ '\n' :: r = '0' :: c :: x) : c = '\n' := by
  obtain rfl | positive := Nat.eq_zero_or_pos n
  · exact (List.cons.inj (List.cons.inj begins).2).1.symm
  · obtain ⟨first, rest, made, nonzero⟩ := toDigits_eq_cons positive
    rw [made] at begins
    exact absurd (List.cons.inj begins).1 nonzero

theorem decimal?_toDigits {n : Nat} (small : n ≤ 9223372036854775807) :
    decimal? false (Nat.toDigits 10 n ++ '\n' :: r) = some (.integer n, '\n' :: r) := by
  have word : word? n ('\n' :: r) = some (.integer n, '\n' :: r) := if_pos (by omega)
  unfold decimal?
  split
  · next begins => exact absurd (isDigit_of_toDigits_append begins) (by decide)
  · next begins => exact absurd (isDigit_of_toDigits_append begins) (by decide)
  · rw [wholePart?_toDigits]
    simp [fraction?, exponent?, number_toDigits, word]

/-- **A natural number at the end of a line.** -/
theorem scalar?_toDigits {n : Nat} (small : n ≤ 9223372036854775807) :
    scalar? (Nat.toDigits 10 n ++ '\n' :: r) = some (.integer n, '\n' :: r) := by
  unfold scalar?
  -- words and signs begin with no digit, and a base has a letter behind its zero
  split
  · next begins => exact absurd (isDigit_of_toDigits_append begins) (by decide)
  · next begins => exact absurd (isDigit_of_toDigits_append begins) (by decide)
  · next begins => exact absurd (eq_newline_of_toDigits_append begins) (by decide)
  · next begins => exact absurd (eq_newline_of_toDigits_append begins) (by decide)
  · next begins => exact absurd (eq_newline_of_toDigits_append begins) (by decide)
  · next begins => exact absurd (isDigit_of_toDigits_append begins) (by decide)
  · next begins => exact absurd (isDigit_of_toDigits_append begins) (by decide)
  · rw [read?_digits fun c mem => Moment.isDigit_of_mem_toDigits mem]
    exact decimal?_toDigits small

end Numbers

/-! ## Values -/

section Values

variable {r : List Char}

theorem value?_toDigits {n : Nat} (small : n ≤ 9223372036854775807) (bound room : Nat) :
    value? (bound + 1) room (Nat.toDigits 10 n ++ '\n' :: r) =
      some (.integer n, '\n' :: r) := by
  rw [value?.eq_def]
  dsimp only
  split
  · next begins => exact absurd (isDigit_of_toDigits_append begins) (by decide)
  · next begins => exact absurd (isDigit_of_toDigits_append begins) (by decide)
  · next begins => exact absurd (isDigit_of_toDigits_append begins) (by decide)
  · next begins => exact absurd (isDigit_of_toDigits_append begins) (by decide)
  · exact scalar?_toDigits small

theorem value?_of_text? {quote : Char} {x rest cs : List Char} (either : quote = '"' ∨ quote = '\'')
    (read : text? (quote :: x) = some (cs, rest)) (bound room : Nat) :
    value? (bound + 1) room (quote :: x) = some (.text (String.ofList cs), rest) := by
  rw [value?.eq_def]
  obtain rfl | rfl := either
  all_goals
    dsimp only
    rw [read]
    rfl

theorem value?_quoted (cs : List Char) (bound room : Nat) :
    value? (bound + 1) room (quoted cs ++ '\n' :: r) =
      some (.text (String.ofList cs), '\n' :: r) := by
  have read := text?_quoted (r := '\n' :: r) cs (by simp) (by simp)
  obtain ⟨quote, inner, made, either⟩ := quoted_eq_cons cs
  rw [made, List.cons_append] at read ⊢
  exact value?_of_text? either read bound room

end Values

/-! ## Keys -/

/-- A key that needs no quotes. -/
def IsBareKey (key : String) : Prop :=
  key ≠ "" ∧ ∀ c ∈ key.toList, isBare c

instance (key : String) : Decidable (IsBareKey key) :=
  decidable_of_iff (key ≠ "" ∧ key.toList.all isBare) (by rw [IsBareKey, List.all_eq_true])

/-- A character that a line begins with: no blank, no line end, and not the mark of a comment. -/
def opensLine (c : Char) : Bool :=
  !isBlank c && c ≠ '#' && c ≠ '\n' && c ≠ '\r'

section Keys

variable {key : String} {x : List Char}

theorem opensLine_of_isBare {c : Char} (bare : isBare c) : opensLine c := by
  have different (d : Char) (other : isBare d = false) : c ≠ d :=
    ne_of_apply_ne isBare (by simp [bare, other])
  simp [opensLine, isBlank, different ' ' rfl, different '\t' rfl, different '#' rfl,
    different '\n' rfl, different '\r' rfl]

theorem isBlank_of_isDigit {c : Char} (digit : isDigit c) : isBlank c = false := by
  have different (d : Char) (other : isDigit d = false) : c ≠ d :=
    ne_of_apply_ne isDigit (by simp [digit, other])
  simp [isBlank, different ' ' rfl, different '\t' rfl]

theorem IsBareKey.eq_cons (bare : IsBareKey key) :
    ∃ first rest, key.toList = first :: rest ∧ isBare first := by
  obtain ⟨some, all⟩ := bare
  cases chars : key.toList with
  | nil => exact absurd (String.toList_eq_nil_iff.mp chars) some
  | cons first rest => exact ⟨first, rest, rfl, all first (chars ▸ List.mem_cons_self)⟩

theorem skipBlanks_cons {c : Char} (open_ : isBlank c = false) : skipBlanks (c :: x) = c :: x := by
  rw [skipBlanks, List.dropWhile_cons_of_neg (by simp [open_])]

theorem simpleKey?_bare (bare : IsBareKey key) {mark : Char} (other : isBare mark = false) :
    simpleKey? (key.toList ++ mark :: x) = some (key, mark :: x) := by
  have split : (key.toList ++ mark :: x).span isBare = (key.toList, mark :: x) := by
    rw [List.span_eq_takeWhile_dropWhile, List.takeWhile_append_of_pos bare.2,
      List.dropWhile_append_of_pos bare.2, List.takeWhile_cons_of_neg (by simp [other]),
      List.dropWhile_cons_of_neg (by simp [other]), List.append_nil]
  obtain ⟨first, rest, chars, -⟩ := bare.eq_cons
  have same : String.ofList (first :: rest) = key := by rw [← chars, String.ofList_toList]
  rw [simpleKey?, split, chars]
  exact congrArg (fun name => some (name, mark :: x)) same

/-- A key without quotes and without dots, up to what comes behind the blanks after it. -/
theorem key?_bare (bare : IsBareKey key) (mark : Char) {next : Char}
    (other : isBare mark = false) {rest : List Char}
    (passed : skipBlanks (mark :: x) = next :: rest) (alone : next ≠ '.')
    (bound : Nat) :
    key? (bound + 1) (key.toList ++ mark :: x) = some ([key], next :: rest) := by
  have starts : skipBlanks (key.toList ++ mark :: x) = key.toList ++ mark :: x := by
    obtain ⟨first, others, chars, open_⟩ := bare.eq_cons
    have opens := opensLine_of_isBare open_
    rw [chars, List.cons_append]
    exact skipBlanks_cons (by simp_all [opensLine])
  rw [key?, starts, simpleKey?_bare bare other]
  simp only [Option.bind_eq_bind, Option.bind_some, passed]
  split
  · next same => exact absurd (List.cons.inj same).1 alone
  · rfl

end Keys

/-! ## Lines -/

section Lines

variable {key : String} {r : List Char}

theorem line?_table (bare : IsBareKey key) :
    line? ('[' :: (key.toList ++ ']' :: r)) = some (.table [key], r) := by
  have read := key?_bare (x := r) bare ']' rfl (skipBlanks_cons rfl) (by decide) 78
  obtain ⟨first, others, chars, open_⟩ := bare.eq_cons
  rw [chars] at read ⊢
  unfold line?
  split
  · next same =>
      simp only [List.cons_append, List.cons.injEq] at same
      rw [same.2.1] at open_
      cases open_
  · next rest _ same =>
      obtain rfl := (List.cons.inj same).2
      rw [maxKeys, read]
      rfl
  · next _ noHeader => exact (noHeader _ rfl).elim

/-- **A key without quotes and its value.** -/
theorem line?_pair (bare : IsBareKey key) {value x : List Char} {c : Char} {v : Value}
    (begins : value = c :: x) (open_ : isBlank c = false)
    (read : ∀ bound, value? (bound + 1) maxDepth (value ++ '\n' :: r) = some (v, '\n' :: r)) :
    line? (key.toList ++ (" = ".toList ++ (value ++ '\n' :: r))) =
      some (.pair [key] v, '\n' :: r) := by
  have readKey := key?_bare (x := '=' :: ' ' :: (value ++ '\n' :: r)) bare ' ' rfl rfl
    (by decide) 78
  have passed : skipBlanks (' ' :: (value ++ '\n' :: r)) = value ++ '\n' :: r := by
    subst begins
    exact skipBlanks_cons open_
  show line? (key.toList ++ ' ' :: '=' :: ' ' :: (value ++ '\n' :: r)) = _
  obtain ⟨first, others, chars, bareFirst⟩ := bare.eq_cons
  rw [chars] at readKey ⊢
  unfold line?
  split
  · next same =>
      rw [(List.cons.inj same).1] at bareFirst
      cases bareFirst
  · next same =>
      rw [(List.cons.inj same).1] at bareFirst
      cases bareFirst
  · rw [maxKeys, readKey]
    simp only [Option.bind_eq_bind, Option.bind_some, expect?, if_true, passed, read]
    rfl

/-- **The lines that characters are read as.** -/
def ReadAs (cs : List Char) (lines : List Line) : Prop :=
  ∀ bound, cs.length < bound → lines? bound cs = some lines

theorem skipLines_cons {c : Char} {x : List Char} (opens : opensLine c) (bound : Nat) :
    skipLines bound (c :: x) = c :: x := by
  simp only [opensLine, Bool.and_eq_true, Bool.not_eq_true', decide_eq_true_eq] at opens
  obtain ⟨⟨⟨blank, comment⟩, feed⟩, return_⟩ := opens
  have passed : skipComment (c :: x) = c :: x := by
    unfold skipComment
    split
    · next same => exact absurd (List.cons.inj same).1 comment
    · rfl
  have noLine : newline? (c :: x) = none := by
    unfold newline?
    split
    · next same => exact absurd (List.cons.inj same).1 feed
    · next same => exact absurd (List.cons.inj same).1 return_
    · rfl
  cases bound with
  | zero => rfl
  | succ bound => rw [skipLines, skipBlanks_cons blank, passed, noLine]

theorem readAs_nil : ReadAs [] [] := by
  intro bound enough
  obtain ⟨bound, rfl⟩ := Nat.exists_eq_add_one_of_ne_zero (Nat.ne_zero_of_lt enough)
  rfl

/-- An empty line. -/
theorem readAs_newline {lines : List Line} (others : ReadAs r lines) :
    ReadAs ('\n' :: r) lines := by
  intro bound enough
  have same : lines? bound ('\n' :: r) = lines? bound r := by
    cases bound <;> rfl
  rw [same]
  exact others bound (Nat.lt_of_succ_lt enough)

/-- One line and those behind it. -/
theorem readAs_cons {c : Char} {x : List Char} {line : Line} {lines : List Line}
    (opens : opensLine c) (read : line? (c :: x) = some (line, '\n' :: r))
    (shorter : r.length ≤ x.length) (others : ReadAs r lines) :
    ReadAs (c :: x) (line :: lines) := by
  intro bound enough
  obtain ⟨bound, rfl⟩ := Nat.exists_eq_add_one_of_ne_zero (Nat.ne_zero_of_lt enough)
  have rest := others bound (Nat.lt_of_le_of_lt shorter (Nat.lt_of_succ_lt_succ enough))
  rw [lines?, skipLines_cons opens]
  dsimp only
  rw [read]
  exact congrArg (·.bind fun others => some (line :: others)) rest

theorem readAs_table {lines : List Line} (bare : IsBareKey key) (others : ReadAs r lines) :
    ReadAs ('[' :: (key.toList ++ ']' :: '\n' :: r)) (.table [key] :: lines) := by
  refine readAs_cons (by decide) (line?_table bare) ?_ others
  simp only [List.length_append, List.length_cons]
  omega

theorem readAs_pair {lines : List Line} (bare : IsBareKey key) {value x : List Char} {c : Char}
    {v : Value} (begins : value = c :: x) (open_ : isBlank c = false)
    (read : ∀ bound, value? (bound + 1) maxDepth (value ++ '\n' :: r) = some (v, '\n' :: r))
    (others : ReadAs r lines) :
    ReadAs (key.toList ++ (" = ".toList ++ (value ++ '\n' :: r))) (.pair [key] v :: lines) := by
  have line := line?_pair bare begins open_ read
  obtain ⟨first, rest, chars, bareFirst⟩ := bare.eq_cons
  rw [chars] at line ⊢
  refine readAs_cons (opensLine_of_isBare bareFirst) line ?_ others
  show r.length ≤ (rest ++ (" = ".toList ++ (value ++ '\n' :: r))).length
  simp only [List.length_append, List.length_cons]
  omega

end Lines

end SchemaOutline.Toml.Reader

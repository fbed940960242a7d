import Mathlib.Tactic.SplitIfs
import SchemaOutline.Proofs.Number.Digits
import SchemaOutline.Json.Printer
import SchemaOutline.Json.Reader

/-!
# Tokens of JSON text

A text and a number are read from the characters that are written for them, whatever comes behind
them. A number ends only where something comes that does not continue it.

* `Reader.State.run_quoted` — a text between quotes.
* `Reader.Numeral` — the characters of a number, and the number they are read as.
* `Reader.State.run_numeral` — a number in front of something else.
* `Reader.numeral_whole`, `Reader.numeral_float` — the characters that are written for a number.
-/

namespace SchemaOutline.Json.Reader

open State (afterText afterValue run startValue)

theorem State.run_cons {limit : Nat} {s next : State} {c : Char}
    (taken : s.step limit c = some next)
    (rest : List Char) : run limit s (c :: rest) = run limit next rest := by
  rw [run, taken]

/-! ## Texts -/

section Texts

variable {limit : Nat} {frames : List Frame} {role : TextRole} {read : List Char}

theorem hexValue?_digitChar {n : Nat} (small : n < 16) : hexValue? (Nat.digitChar n) = some n := by
  revert n
  decide

/-- One more digit of a code point, and not the last one. -/
theorem State.run_digit {d value left : Nat} (small : d < 16) (more : 1 < left) (x : List Char) :
    run limit ⟨.quoted role read (.digits none value left), frames⟩ (Nat.digitChar d :: x) =
      run limit ⟨.quoted role read (.digits none (16 * value + d) (left - 1)), frames⟩ x := by
  refine run_cons ?_ x
  simp only [step, stepText, hexValue?_digitChar small]
  exact if_pos more

/-- The last digit of a code point below those of the surrogates. -/
theorem State.run_lastDigit {d value : Nat} (small : d < 16) (low : 16 * value + d < 0xD800)
    (x : List Char) :
    run limit ⟨.quoted role read (.digits none value 1), frames⟩ (Nat.digitChar d :: x) =
      run limit ⟨.quoted role (Char.ofNat (16 * value + d) :: read) .plain, frames⟩ x := by
  refine run_cons ?_ x
  simp only [step, stepText, hexValue?_digitChar small]
  rw [if_neg (by decide), if_neg (by omega), if_neg (by omega)]

/-- One character is read from what is written for it. -/
theorem State.run_escapeChar (c : Char) (x : List Char) :
    run limit ⟨.quoted role read .plain, frames⟩ (escapeChar c ++ x) =
      run limit ⟨.quoted role (c :: read) .plain, frames⟩ x := by
  unfold escapeChar
  split_ifs with quote backslash line return_ tab back feed control
  · rw [quote]; rfl
  · rw [backslash]; rfl
  · rw [line]; rfl
  · rw [return_]; rfl
  · rw [tab]; rfl
  · rw [back]; rfl
  · rw [feed]; rfl
  · have value : 16 * (16 * (16 * (16 * 0 + 0) + 0) + c.toNat / 16) + c.toNat % 16 = c.toNat := by
      omega
    have start : run limit ⟨.quoted role read .plain, frames⟩
        ('\\' :: 'u' :: '0' :: '0' :: Nat.digitChar (c.toNat / 16) ::
          Nat.digitChar (c.toNat % 16) :: x) =
        run limit ⟨.quoted role read (.digits none (16 * (16 * 0 + 0) + 0) 2), frames⟩
          (Nat.digitChar (c.toNat / 16) :: Nat.digitChar (c.toNat % 16) :: x) := rfl
    refine start.trans ?_
    rw [run_digit (by omega) (by decide), run_lastDigit (by omega) (by omega), value,
      Char.ofNat_toNat]
  · refine run_cons ?_ x
    simp [step, stepText, quote, backslash, control]

/-- **A text between quotes** is read from the characters that are written for it. -/
theorem State.run_quoted (s : String) (x : List Char) :
    run limit ⟨.quoted role [] .plain, frames⟩ (s.toList.flatMap escapeChar ++ '"' :: x) =
      run limit (afterText frames role s) x := by
  have characters (cs read : List Char) :
      run limit ⟨.quoted role read .plain, frames⟩ (cs.flatMap escapeChar ++ '"' :: x) =
        run limit (afterText frames role (String.ofList (read.reverse ++ cs))) x := by
    induction cs generalizing read with
    | nil =>
        rw [List.append_nil]
        rfl
    | cons c rest ih =>
        rw [List.flatMap_cons, List.append_assoc, run_escapeChar, ih, List.reverse_cons,
          List.append_assoc, List.singleton_append]
  rw [characters s.toList [], List.reverse_nil, List.nil_append, String.ofList_toList]

end Texts

/-! ## Numbers -/

namespace Number

/-- A number of which the first character has been read. -/
def start? (c : Char) : Option Number :=
  if c = '-' then some { part := .minus, negative := true }
  else if c = '0' then some { part := .zero, negative := false }
  else (digitValue? c).map fun d => { part := .whole, negative := false, coefficient := d }

end Number

theorem Number.ne_of_start? {c d : Char} {n : Number} (started : start? c = some n)
    (other : start? d = none) : c ≠ d :=
  ne_of_apply_ne start? (by simp [started, other])

/-- **The characters of a number**, and the number they are read as. -/
structure Numeral (cs : List Char) (n : Number) : Prop where
  read : ∃ first rest start, cs = first :: rest ∧ Number.start? first = some start ∧
    rest.foldlM Number.next? start = some n
  complete : n.complete

/-- Whether a number ends in front of a character. -/
def endsNumber (c : Char) : Bool :=
  (digitValue? c).isNone && c ≠ '.' && c ≠ 'e' && c ≠ 'E' && c ≠ '+' && c ≠ '-'

section Numbers

variable {limit : Nat} {frames : List Frame} {n : Number}

theorem State.startValue_of_start? {c : Char} (started : Number.start? c = some n) :
    startValue limit frames c = some ⟨.number n, frames⟩ := by
  have different (d : Char) (other : Number.start? d = none) := Number.ne_of_start? started other
  unfold startValue
  rw [if_neg (different '"' rfl), if_neg (different '[' rfl), if_neg (different '{' rfl),
    if_neg (different 'n' rfl), if_neg (different 't' rfl), if_neg (different 'f' rfl)]
  unfold Number.start? at started
  split_ifs at started ⊢ with minus zero
  · cases started
    subst minus
    rfl
  · cases started
    subst zero
    rfl
  · obtain ⟨d, digit, rfl⟩ := Option.map_eq_some_iff.mp started
    simp [digit, minus]

theorem State.isBlank_of_start? {c : Char} (started : Number.start? c = some n) :
    isBlank c = false := by
  have different (d : Char) (other : Number.start? d = none) := Number.ne_of_start? started other
  simp [isBlank, different ' ' rfl, different '\t' rfl, different '\n' rfl, different '\r' rfl]

/-- A number does not go on with a character that it ends in front of. -/
theorem Number.next?_of_endsNumber {c : Char} (ends : endsNumber c) : n.next? c = none := by
  simp only [endsNumber, Bool.and_eq_true, Option.isNone_iff_eq_none, decide_eq_true_eq] at ends
  obtain ⟨⟨⟨⟨⟨digit, point⟩, small⟩, large⟩, plus⟩, minus⟩ := ends
  unfold next?
  rw [digit]
  cases n.part <;> simp [point, small, large, plus, minus]

theorem State.run_number {cs : List Char} {m : Number} (read : cs.foldlM Number.next? n = some m)
    (x : List Char) :
    run limit ⟨.number n, frames⟩ (cs ++ x) = run limit ⟨.number m, frames⟩ x := by
  induction cs generalizing n with
  | nil =>
      cases read
      rfl
  | cons c rest ih =>
      rw [List.foldlM_cons] at read
      obtain ⟨next, taken, others⟩ := Option.bind_eq_some_iff.mp read
      have here : State.step limit ⟨.number n, frames⟩ c = some ⟨.number next, frames⟩ := by
        simp [step, taken]
      rw [List.cons_append, run_cons here]
      exact ih others

/-- A number that may end is read as its value if something comes that does not continue it. -/
theorem State.run_number_ends (complete : n.complete) {x : List Char}
    (ends : ∀ c, x.head? = some c → endsNumber c) :
    run limit ⟨.number n, frames⟩ x =
      match n.value? with
      | some value => run limit (afterValue frames value) x
      | none => .error .malformed := by
  cases x with
  | nil =>
      simp only [run, finish, complete, if_true]
      cases n.value? with
      | none => rfl
      | some value =>
          cases frames with
          | nil => rfl
          | cons frame outer => cases frame <;> rfl
  | cons c rest =>
      have stops := Number.next?_of_endsNumber (n := n) (ends c rfl)
      rw [run, step]
      simp only [stops, complete, if_true]
      cases n.value? with
      | none => rfl
      | some value =>
          -- what comes behind a value is looked at the same way whether it was a number or not
          cases frames with
          | nil => rfl
          | cons frame outer => cases frame <;> rfl

/-- **A number in front of something that does not continue it.** -/
theorem State.run_numeral {cs : List Char} (numeral : Numeral cs n) {x : List Char}
    (ends : ∀ c, x.head? = some c → endsNumber c) :
    run limit ⟨.value, frames⟩ (cs ++ x) =
      match n.value? with
      | some value => run limit (afterValue frames value) x
      | none => .error .malformed := by
  obtain ⟨⟨first, rest, start, rfl, started, read⟩, complete⟩ := numeral
  have taken : State.step limit ⟨.value, frames⟩ first = some ⟨.number start, frames⟩ := by
    show stepToken limit .value frames first = _
    rw [stepToken, isBlank_of_start? started]
    exact startValue_of_start? started
  rw [List.cons_append, run_cons taken, run_number read]
  exact run_number_ends complete ends

/-! ## Whole numbers -/

theorem digitValue?_digitChar {d : Nat} (small : d < 10) :
    digitValue? (Nat.digitChar d) = some d := by
  revert d
  decide

theorem exists_digitValue? {c : Char} (digit : c.isDigit) : ∃ d, digitValue? c = some d := by
  refine ⟨_, if_pos ?_⟩
  simpa [Char.isDigit, Char.le_def] using digit

/-- The digits of a number other than zero, below `2 ^ 64`: none of them is left out. -/
theorem Number.foldlM_toDigits {k : Nat} (positive : 0 < k) (small : k < 18446744073709551616)
    (negative : Bool) :
    ∃ d rest, 0 < d ∧ d < 10 ∧ Nat.toDigits 10 k = Nat.digitChar d :: rest ∧
      rest.foldlM Number.next? { part := .whole, negative, coefficient := d } =
        some { part := .whole, negative, coefficient := k } := by
  induction k using Nat.base_induction 10 (by decide) with
  | single k below =>
      exact ⟨k, [], positive, below, Nat.toDigits_of_lt_base below, rfl⟩
  | digit k last below leading ih =>
      obtain ⟨d, rest, first, one, made, read⟩ := ih leading (by omega)
      refine ⟨d, rest ++ [Nat.digitChar last], first, one, ?_, ?_⟩
      · rw [← Nat.toDigits_append_toDigits (by decide) leading below, made,
          Nat.toDigits_of_lt_base below]
        rfl
      · rw [List.foldlM_append, read]
        simp [Number.next?, digitValue?_digitChar below, Number.wholeDigit, Number.takes, small]

theorem Whole.ofInt?_eq (w : Whole) : Whole.ofInt? w.value = some w :=
  dif_pos w.inRange

theorem Number.start?_digitChar {d : Nat} (positive : 0 < d) (small : d < 10) :
    Number.start? (Nat.digitChar d) =
      some { part := .whole, negative := false, coefficient := d } := by
  have noMinus : Nat.digitChar d ≠ '-' := by
    intro same
    have := digitValue?_digitChar small
    rw [same] at this
    cases this
  have noZero : Nat.digitChar d ≠ '0' := by
    rw [Ne, Nat.digitChar_eq_zero]
    omega
  rw [start?, if_neg noMinus, if_neg noZero, digitValue?_digitChar small]
  rfl

theorem Number.next?_minus {d : Nat} (positive : 0 < d) (small : d < 10) :
    Number.next? { part := .minus, negative := true } (Nat.digitChar d) =
      some { part := .whole, negative := true, coefficient := d } := by
  obtain ⟨d, rfl⟩ := Nat.exists_eq_add_one_of_ne_zero (Nat.ne_of_gt positive)
  have takes : d + 1 < 18446744073709551616 := by omega
  simp [next?, digitValue?_digitChar small, wholeDigit, Number.takes, takes]

/-- A number of digits that were all taken is that whole number, unless it is minus zero. -/
theorem Number.value?_whole {w : Whole} {k : Nat} {part : NumberPart} {negative : Bool}
    (ended : part = .zero ∨ part = .whole) (nonzero : negative → k ≠ 0)
    (same : w.value = if negative then -(k : Int) else k) :
    Number.value? { part, negative, coefficient := k } = some (.whole w) := by
  have read : Whole.ofInt? (if negative then -(k : Int) else k) = some w := same ▸ Whole.ofInt?_eq w
  have whole : (!false && (part = .zero || part = .whole)) = true := by
    obtain rfl | rfl := ended <;> rfl
  unfold value?
  simp only [whole, if_true]
  cases negative with
  | false => rw [if_neg (by decide)] at read ⊢; rw [read]
  | true =>
      rw [if_pos rfl] at read ⊢
      rw [if_neg (nonzero rfl), read]

/-- A whole number is read from its digits. -/
theorem numeral_whole (w : Whole) : ∃ n, Numeral w.chars n ∧ n.value? = some (.whole w) := by
  obtain ⟨least, most⟩ := w.inRange
  unfold Whole.chars
  cases same : w.value with
  | ofNat k =>
      rw [same] at most
      obtain rfl | positive := Nat.eq_zero_or_pos k
      · refine ⟨{ part := .zero, negative := false }, ⟨⟨'0', [], _, rfl, rfl, rfl⟩, rfl⟩, ?_⟩
        exact Number.value?_whole (.inl rfl) (fun absurd => nomatch absurd) same
      · obtain ⟨d, rest, first, one, made, read⟩ :=
          Number.foldlM_toDigits positive (Int.ofNat_lt.mp most) false
        have started := Number.start?_digitChar first one
        refine ⟨_, ⟨⟨_, rest, _, made, started, read⟩, rfl⟩, ?_⟩
        exact Number.value?_whole (.inr rfl) (fun absurd => nomatch absurd) same
  | negSucc k =>
      rw [same] at least
      obtain ⟨d, rest, first, one, made, read⟩ :=
        Number.foldlM_toDigits (Nat.succ_pos k) (by omega) true
      have taken : Number.next? { part := .minus, negative := true } (Nat.digitChar d) =
          some { part := .whole, negative := true, coefficient := d } :=
        Number.next?_minus first one
      refine ⟨{ part := .whole, negative := true, coefficient := k + 1 },
        ⟨⟨'-', _, _, rfl, rfl, ?_⟩, rfl⟩, ?_⟩
      · rw [made, List.foldlM_cons, taken]
        exact read
      · exact Number.value?_whole (.inr rfl) (fun _ => Nat.succ_ne_zero k) same

end Numbers

/-! ## Floating numbers -/

/-- Where a number is being read once a digit has come. -/
def NumberPart.afterDigit : NumberPart → NumberPart
  | .point | .fraction => .fraction
  | .exponentMark | .exponentSign | .exponent => .exponent
  | part => part

/-- A number goes on with characters, and then it is being read where `part` says. -/
def Number.Reads (n : Number) (cs : List Char) (part : NumberPart) : Prop :=
  ∃ m, cs.foldlM Number.next? n = some m ∧ m.part = part

namespace Number

variable {n : Number} {cs ds : List Char} {part after : NumberPart}

theorem Reads.append (first : n.Reads cs part) (ds : List Char)
    (second : ∀ m : Number, m.part = part → m.Reads ds after) : n.Reads (cs ++ ds) after := by
  obtain ⟨m, read, there⟩ := first
  obtain ⟨last, more, ended⟩ := second m there
  refine ⟨last, ?_, ended⟩
  rw [List.foldlM_append, read]
  exact more

theorem part_wholeDigit (n : Number) (d : Nat) : (n.wholeDigit d).part = .whole := by
  unfold wholeDigit
  split <;> rfl

theorem part_fractionDigit (n : Number) (d : Nat) : (n.fractionDigit d).part = .fraction := by
  unfold fractionDigit
  split <;> rfl

theorem reads_digit {c : Char} (digit : c.isDigit) (going : n.part ≠ .minus ∧ n.part ≠ .zero) :
    n.Reads [c] n.part.afterDigit := by
  obtain ⟨d, value⟩ := exists_digitValue? digit
  suffices taken : ∃ m, n.next? c = some m ∧ m.part = n.part.afterDigit by
    obtain ⟨m, next, there⟩ := taken
    exact ⟨m, by simp [next], there⟩
  obtain ⟨noMinus, noZero⟩ := going
  unfold next?
  rw [value]
  cases at_ : n.part with
  | minus => exact absurd at_ noMinus
  | zero => exact absurd at_ noZero
  | whole => exact ⟨_, rfl, part_wholeDigit n d⟩
  | point | fraction => exact ⟨_, rfl, part_fractionDigit n d⟩
  | exponentMark | exponentSign | exponent => exact ⟨_, rfl, rfl⟩

theorem reads_digits (all : ∀ c ∈ cs, c.isDigit) (some_ : cs ≠ [])
    (going : n.part ≠ .minus ∧ n.part ≠ .zero) : n.Reads cs n.part.afterDigit := by
  induction cs generalizing n with
  | nil => exact absurd rfl some_
  | cons c rest ih =>
      obtain ⟨digit, others⟩ := List.forall_mem_cons.mp all
      have first := reads_digit digit going
      cases rest with
      | nil => exact first
      | cons second rest =>
          refine first.append (second :: rest) fun m there => ?_
          -- one more digit changes nothing about where the number is being read
          have same : m.part.afterDigit = n.part.afterDigit := by
            rw [there]
            cases n.part <;> rfl
          rw [← same]
          refine ih others (List.cons_ne_nil _ _) ?_
          rw [there]
          cases at_ : n.part <;> simp_all [NumberPart.afterDigit]

/-- More digits in front of a point. -/
theorem reads_whole (at_ : n.part = .whole) (all : ∀ c ∈ cs, c.isDigit) : n.Reads cs .whole := by
  by_cases none_ : cs = []
  · exact ⟨n, none_ ▸ rfl, at_⟩
  · have digits := reads_digits (n := n) all none_ (by simp [at_])
    rwa [at_] at digits

/-- A point with digits behind it. -/
theorem reads_point (at_ : n.part = .zero ∨ n.part = .whole) (all : ∀ c ∈ ds, c.isDigit)
    (some_ : ds ≠ []) : n.Reads ('.' :: ds) .fraction := by
  have first : n.Reads ['.'] .point := by
    obtain at_ | at_ := at_ <;> exact ⟨_, by simp [next?, at_, digitValue?]; rfl, rfl⟩
  refine first.append ds fun m there => ?_
  have digits := reads_digits (n := m) all some_ (by simp [there])
  rwa [there] at digits

/-- An exponent with its sign. -/
theorem reads_exponent (at_ : n.part = .zero ∨ n.part = .whole ∨ n.part = .fraction) {sign : Char}
    (signed : sign = '+' ∨ sign = '-') (k : Nat) :
    n.Reads ('e' :: sign :: Nat.toDigits 10 k) .exponent := by
  have mark : n.Reads ['e'] .exponentMark := by
    obtain at_ | at_ | at_ := at_ <;> exact ⟨_, by simp [next?, at_, digitValue?]; rfl, rfl⟩
  refine mark.append (sign :: Nat.toDigits 10 k) fun m there => ?_
  have next : m.Reads [sign] .exponentSign := by
    obtain rfl | rfl := signed <;> exact ⟨_, by simp [next?, there, digitValue?]; rfl, rfl⟩
  refine next.append (Nat.toDigits 10 k) fun m there => ?_
  have all : ∀ c ∈ Nat.toDigits 10 k, c.isDigit := fun c mem =>
    Nat.isDigit_of_mem_toDigits (by decide) (by decide) mem
  have digits := reads_digits (n := m) all Nat.toDigits_ne_nil (by simp [there])
  rwa [there] at digits

end Number

/-- **The characters of a number without a sign**: a digit, and what goes on with it up to where a
number may end. -/
def Unsigned (cs : List Char) : Prop :=
  ∃ first rest part, cs = first :: rest ∧ first.isDigit ∧ (part = .fraction ∨ part = .exponent) ∧
    ∀ n : Number, n.part = (if first = '0' then .zero else .whole) → n.Reads rest part

theorem eq_zero_of_digitValue? {c : Char} (value : digitValue? c = some 0) : c = '0' := by
  unfold digitValue? at value
  split at value
  · next digit =>
      have least : '0'.toNat ≤ c.toNat := digit.1
      have most : c.toNat ≤ '0'.toNat := Nat.le_of_sub_eq_zero (Option.some.inj value)
      exact Char.toNat_inj.mp (Nat.le_antisymm most least)
  · cases value

theorem Number.complete_of_part {n : Number} (ended : n.part = .fraction ∨ n.part = .exponent) :
    n.complete := by
  obtain ended | ended := ended <;> simp [complete, ended]

/-- Such characters are those of a number, and so they are behind a minus sign. -/
theorem Unsigned.numeral {cs : List Char} (unsigned : Unsigned cs) :
    (∃ n, Numeral cs n) ∧ ∃ n, Numeral ('-' :: cs) n := by
  obtain ⟨first, rest, part, rfl, digit, ended, goes⟩ := unsigned
  obtain ⟨d, value⟩ := exists_digitValue? digit
  have noMinus : first ≠ '-' := by
    rintro rfl
    cases value
  constructor
  · obtain ⟨start, started, at_⟩ : ∃ start, Number.start? first = some start ∧
        start.part = if first = '0' then .zero else .whole := by
      unfold Number.start?
      rw [if_neg noMinus, value]
      split <;> exact ⟨_, rfl, rfl⟩
    obtain ⟨n, read, there⟩ := goes start at_
    exact ⟨n, ⟨first, rest, start, rfl, started, read⟩, Number.complete_of_part (there ▸ ended)⟩
  · obtain ⟨start, taken, at_⟩ : ∃ start,
        Number.next? { part := .minus, negative := true } first = some start ∧
          start.part = if first = '0' then .zero else .whole := by
      unfold Number.next?
      rw [value]
      cases d with
      | zero => exact ⟨_, rfl, by rw [if_pos (eq_zero_of_digitValue? value)]⟩
      | succ d =>
          have notZero : first ≠ '0' := by
            rintro rfl
            cases value
          rw [if_neg notZero]
          exact ⟨_, rfl, Number.part_wholeDigit _ _⟩
    obtain ⟨n, read, there⟩ := goes start at_
    refine ⟨n, ⟨'-', first :: rest, _, rfl, rfl, ?_⟩, Number.complete_of_part (there ▸ ended)⟩
    rw [List.foldlM_cons, taken]
    exact read

/-- The digits of a numeral: no zero stands before another. -/
theorem exists_digits {d : Decimal} (positive : 0 < d.coefficient) :
    ∃ first rest, d.digits = first :: rest ∧ first ≠ '0' ∧ first.isDigit ∧
      ∀ c ∈ rest, c.isDigit := by
  obtain ⟨first, rest, made, notZero⟩ := toDigits_eq_cons positive
  have all : ∀ c ∈ first :: rest, c.isDigit := made ▸ fun c mem =>
    Nat.isDigit_of_mem_toDigits (by decide) (by decide) mem
  obtain ⟨digit, others⟩ := List.forall_mem_cons.mp all
  exact ⟨first, rest, made, notZero, digit, others⟩

theorem isDigit_of_mem_replicate {c : Char} {k : Nat} (mem : c ∈ List.replicate k '0') :
    c.isDigit := by
  rw [List.eq_of_mem_replicate mem]
  rfl

/-- The digits before and after the point. -/
theorem exists_positional {d : Decimal} (positive : 0 < d.coefficient) :
    ∃ first rest fraction, d.positional = (first :: rest, fraction) ∧ first.isDigit ∧
      (first = '0' → rest = []) ∧ (∀ c ∈ rest, c.isDigit) ∧ ∀ c ∈ fraction, c.isDigit := by
  obtain ⟨first, rest, made, notZero, digit, others⟩ := exists_digits positive
  have all : ∀ c ∈ first :: rest, c.isDigit := List.forall_mem_cons.mpr ⟨digit, others⟩
  unfold Decimal.positional
  simp only [made]
  cases d.exponent with
  | ofNat k =>
      refine ⟨first, rest ++ List.replicate k '0', [], rfl, digit, fun zero => absurd zero notZero,
        List.forall_mem_append.mpr ⟨others, fun c mem => isDigit_of_mem_replicate mem⟩, by simp⟩
  | negSucc k =>
      dsimp only
      split
      · next within =>
          obtain ⟨taken, length⟩ : ∃ taken, (first :: rest).length - (k + 1) = taken + 1 :=
            ⟨_, (Nat.succ_pred_eq_of_pos (Nat.sub_pos_of_lt within)).symm⟩
          rw [length, List.splitAt_eq]
          exact ⟨first, rest.take taken, _, rfl, digit, fun zero => absurd zero notZero,
            fun c mem => others c (List.mem_of_mem_take mem),
            fun c mem => all c (List.mem_of_mem_drop mem)⟩
      · exact ⟨'0', [], _, rfl, rfl, fun _ => rfl, by simp,
          List.forall_mem_append.mpr ⟨fun c mem => isDigit_of_mem_replicate mem, all⟩⟩

/-- A decimal numeral is written as such characters, as long as a zero has no power of ten. -/
theorem unsigned_decimal {d : Decimal} (nonzero : d.coefficient = 0 → d.exponent = 0) :
    Unsigned d.jsonChars := by
  obtain zero | positive := Nat.eq_zero_or_pos d.coefficient
  · obtain rfl : d = ⟨0, 0⟩ := by
      cases d
      cases zero
      cases nonzero rfl
      rfl
    exact ⟨'0', ['.', '0'], .fraction, rfl, rfl, .inl rfl, fun n at_ =>
      Number.reads_point (.inl at_) (by simp) (by simp)⟩
  · unfold Decimal.jsonChars
    split
    · obtain ⟨first, rest, fraction, made, digit, alone, others, fractional⟩ :=
        exists_positional positive
      rw [made]
      have all : ∀ c ∈ (if fraction.isEmpty then ['0'] else fraction), c.isDigit := by
        split
        · simp
        · exact fractional
      have some_ : (if fraction.isEmpty then ['0'] else fraction) ≠ [] := by
        split
        · simp
        · next present => simpa using present
      refine ⟨first, _, .fraction, rfl, digit, .inl rfl, fun n at_ => ?_⟩
      split at at_
      · next zero =>
          rw [alone zero]
          exact Number.reads_point (.inl at_) all some_
      · exact (Number.reads_whole at_ others).append _ fun m there =>
          Number.reads_point (.inr there) all some_
    · obtain ⟨first, rest, made, notZero, digit, others⟩ := exists_digits positive
      have signed : (if d.magnitude < 0 then '-' else '+') = '+' ∨
          (if d.magnitude < 0 then '-' else '+') = '-' := by
        split
        · exact .inr rfl
        · exact .inl rfl
      rw [made]
      -- a single digit has no point behind it
      cases rest with
      | nil =>
          refine ⟨first, _, .exponent, rfl, digit, .inr rfl, fun n at_ => ?_⟩
          rw [if_neg notZero] at at_
          exact Number.reads_exponent (.inr (.inl at_)) signed _
      | cons second rest =>
          refine ⟨first, _, .exponent, rfl, digit, .inr rfl, fun n at_ => ?_⟩
          rw [if_neg notZero] at at_
          refine (Number.reads_point (.inr at_) others (List.cons_ne_nil _ _)).append _
            fun m there => ?_
          exact Number.reads_exponent (.inr (.inr there)) signed _

theorem coefficient_exactDecimal {x : Binary64} (some_ : x.significand ≠ 0) :
    x.exactDecimal.coefficient ≠ 0 := by
  have positive (base exponent : Nat) (one : 0 < base) : 0 < Nat.pow base exponent :=
    Nat.pow_pos one
  have units : 0 < x.units := Nat.mul_pos (Nat.pos_of_ne_zero some_) (positive 2 _ (by decide))
  have digits (k : Nat) : x.units * Nat.pow 5 k ≠ 0 :=
    Nat.ne_of_gt (Nat.mul_pos units (positive 5 k (by decide)))
  rw [Binary64.exactDecimal]
  generalize 1074 = k
  exact digits k

/-- Only zero has the shortest numeral zero. -/
theorem coefficient_shortest {x : Binary64} {tie : Tie} (zero : (x.shortest tie).coefficient = 0) :
    (x.shortest tie).exponent = 0 := by
  unfold Binary64.shortest at zero ⊢
  split at zero
  · next none_ => rw [if_pos none_]
  · next some_ =>
      exfalso
      cases found : (List.range 17).findSome? fun n =>
          x.neighbour? tie (x.exactDecimal.digits.length - (n + 1)) with
      | none =>
          simp only [found, Option.getD_none] at zero
          exact coefficient_exactDecimal some_ zero
      | some d =>
          simp only [found, Option.getD_some] at zero
          obtain ⟨n, -, near⟩ := List.exists_of_findSome?_eq_some found
          have back : x.ReadsBack d := by
            have here := List.find?_some near
            simpa using here
          rw [Binary64.ReadsBack, Decimal.toBinary64?, if_pos zero] at back
          exact some_ (congrArg Binary64.significand (Option.some.inj back).symm)

/-- A floating number is written in the characters of a number. -/
theorem numeral_float (x : Binary64) : ∃ n, Numeral x.jsonChars n := by
  have unsigned := unsigned_decimal (d := x.shortest .toEven) coefficient_shortest
  unfold Binary64.jsonChars
  split
  · exact unsigned.numeral.2
  · exact unsigned.numeral.1

end SchemaOutline.Json.Reader

import Mathlib.Tactic.SplitIfs
import SchemaOutline.Toml.Reader
import SchemaOutline.Toml.Writer

/-!
# Quoted texts read back

A text between the quotes that it is written in is read as the text it was, whatever characters are
in it, wherever no quote follows. Between double quotes every character is written as itself or as
an escape. Between three quotes a quote is written as itself only while no three of them stand
together, so that the first three that do end the text, with up to two quotes in front of them that
belong to it.

* `Written` — how one character stands between double quotes.
* `basic?_escaped`, `multilineBasic?_escaped` — texts between double quotes, in one line or several.
* `literal?_append`, `multilineLiteral?_append` — texts between single quotes.
* `text?_quoted` — any text in the quotes chosen for it.
-/

namespace SchemaOutline.Toml.Reader

/-! ## One character between double quotes -/

/-- **How one character stands between double quotes**, where `run` quotes without escapes are just
before it and `after` are there behind it. -/
inductive Written (quotes : Nat) (lines : Bool) (run : Nat) (c : Char) : List Char → Nat → Prop
  | quote (same : c = '"') (room : run < quotes) : Written quotes lines run c [c] (run + 1)
  | lineEnd (same : c = '\n') (allowed : lines) : Written quotes lines run c [c] 0
  | escape (chars : List Char) (read : ∀ r, escape? (chars ++ r) = some (c, r)) :
      Written quotes lines run c ('\\' :: chars) 0
  | plain (plain : isPlain c) (quote : c ≠ '"') (backslash : c ≠ '\\') :
      Written quotes lines run c [c] 0

theorem codePoint?_control {n : Nat} (small : n < 128) :
    codePoint? ['0', '0', (Nat.digitChar (n / 16)).toUpper, (Nat.digitChar (n % 16)).toUpper] =
      some (Char.ofNat n) := by
  revert n
  decide

/-- The escape of a control character stands for it. -/
theorem escape?_controlEscape {c : Char} (small : c.toNat < 128) :
    ∃ chars, controlEscape c = '\\' :: chars ∧ ∀ r, escape? (chars ++ r) = some (c, r) := by
  unfold controlEscape
  split_ifs with back tab line feed return_
  · exact ⟨['b'], rfl, fun r => by rw [back]; rfl⟩
  · exact ⟨['t'], rfl, fun r => by rw [tab]; rfl⟩
  · exact ⟨['n'], rfl, fun r => by rw [line]; rfl⟩
  · exact ⟨['f'], rfl, fun r => by rw [feed]; rfl⟩
  · exact ⟨['r'], rfl, fun r => by rw [return_]; rfl⟩
  · refine ⟨_, rfl, fun r => ?_⟩
    simp [escape?, codePoint?_control small, Char.ofNat_toNat]

/-- The first character of a text is written on its own, and the others behind it. -/
theorem escaped_cons (quotes : Nat) (lines : Bool) (run : Nat) (c : Char) (rest : List Char) :
    ∃ piece after, Written quotes lines run c piece after ∧
      escaped quotes lines run (c :: rest) = piece ++ escaped quotes lines after rest := by
  rw [escaped]
  split_ifs with quote room backslash line control
  · exact ⟨_, _, .quote quote room, rfl⟩
  · exact ⟨_, _, .escape ['"'] (fun r => by rw [quote]; rfl), rfl⟩
  · exact ⟨_, _, .escape ['\\'] (fun r => by rw [backslash]; rfl), rfl⟩
  · exact ⟨_, _, .lineEnd line.1 line.2, rfl⟩
  · obtain ⟨chars, made, read⟩ := escape?_controlEscape (c := c) (by omega)
    exact ⟨_, _, .escape chars read, by rw [made]⟩
  · have plain : isPlain c := by simp [isPlain]; omega
    exact ⟨_, _, .plain plain quote backslash, rfl⟩

theorem length_le_escaped_append (quotes : Nat) (lines : Bool) (run : Nat) (cs r : List Char) :
    cs.length ≤ (escaped quotes lines run cs ++ r).length := by
  induction cs generalizing run with
  | nil => exact Nat.zero_le _
  | cons c rest ih =>
      obtain ⟨piece, after, written, made⟩ := escaped_cons quotes lines run c rest
      have one : 1 ≤ piece.length := by cases written <;> simp
      rw [made, List.append_assoc, List.length_append, List.length_cons]
      have := ih after
      omega

/-! ## Double quotes -/

theorem basic?_written {run after : Nat} {c : Char} {piece : List Char}
    (written : Written 0 false run c piece after) (bound : Nat) (x : List Char) :
    basic? (bound + 1) (piece ++ x) =
      (basic? bound x).bind fun (s, rest) => some (c :: s, rest) := by
  cases written with
  | quote same room => omega
  | lineEnd same allowed => cases allowed
  | escape chars read =>
      show (escape? (chars ++ x)).bind _ = _
      rw [read]
      rfl
  | plain plain quote backslash =>
      show basic? (bound + 1) (c :: x) = _
      simp only [basic?, plain]
      rfl

/-- **A text between double quotes in one line.** -/
theorem basic?_escaped (cs : List Char) (run bound : Nat) (enough : cs.length < bound)
    (r : List Char) :
    basic? bound (escaped 0 false run cs ++ '"' :: r) = some (cs, r) := by
  induction cs generalizing run bound with
  | nil =>
      obtain ⟨bound, rfl⟩ := Nat.exists_eq_add_one_of_ne_zero (Nat.ne_zero_of_lt enough)
      rfl
  | cons c rest ih =>
      obtain ⟨bound, rfl⟩ := Nat.exists_eq_add_one_of_ne_zero (Nat.ne_zero_of_lt enough)
      obtain ⟨piece, after, written, made⟩ := escaped_cons 0 false run c rest
      have shorter : rest.length < bound := Nat.lt_of_succ_lt_succ enough
      rw [made, List.append_assoc, basic?_written written, ih after bound shorter]
      rfl

/-! ## Three quotes -/

theorem threeQuotes_cons {quote a b c : Char} {x : List Char} :
    threeQuotes quote (a :: b :: c :: x) = decide (a = quote ∧ b = quote ∧ c = quote) := by
  simp only [threeQuotes, List.isPrefixOf, Bool.and_true, Bool.decide_and,
    Bool.beq_eq_decide_eq, eq_comm]

/-- What stands in front of three quotes is either up to two more of them, which belong to the text,
or begins with three quotes if it does so by itself. -/
theorem threeQuotes_append {quote : Char} {inner r : List Char}
    (open_ : threeQuotes quote inner = false) (other : r.head? ≠ some quote) :
    (∀ c ∈ inner, c = quote) ∧
        threeQuotes quote (inner ++ quote :: quote :: quote :: r) = true ∧
        endQuotes quote ((inner ++ quote :: quote :: quote :: r).drop 3) = (inner, r) ∨
      threeQuotes quote (inner ++ quote :: quote :: quote :: r) = false := by
  have apart : endQuotes quote r = ([], r) := by
    match r with
    | [] => rfl
    | [a] => simpa [endQuotes] using other
    | a :: b :: rest => exact if_neg (by simpa using other)
  have one : endQuotes quote (quote :: r) = ([quote], r) := by
    match r with
    | [] => simp [endQuotes]
    | a :: rest =>
        have different : a ≠ quote := by simpa using other
        simp [endQuotes, different]
  -- behind three characters or more, the quotes are not looked at yet
  match inner with
  | [] => simp [threeQuotes_cons, apart]
  | [a] =>
      by_cases first : a = quote
      · simp [threeQuotes_cons, first, one]
      · simp [threeQuotes_cons, first]
  | [a, b] =>
      by_cases both : a = quote ∧ b = quote
      · obtain ⟨rfl, rfl⟩ := both
        simp [threeQuotes_cons, endQuotes]
      · exact .inr (by simpa [threeQuotes_cons] using both)
  | a :: b :: c :: rest =>
      rw [threeQuotes_cons] at open_
      exact .inr (threeQuotes_cons.trans open_)

/-! ## Three double quotes -/

/-- A quote at the beginning is one that may stand there. -/
theorem escaped_eq_quote {quotes : Nat} {lines : Bool} {run : Nat} {cs x : List Char}
    (begins : escaped quotes lines run cs = '"' :: x) :
    run < quotes ∧ ∃ rest, x = escaped quotes lines (run + 1) rest := by
  cases cs with
  | nil => cases begins
  | cons c rest =>
      obtain ⟨piece, after, written, made⟩ := escaped_cons quotes lines run c rest
      rw [made] at begins
      cases written with
      | quote same room => exact ⟨room, rest, (List.cons.inj begins).2.symm⟩
      | lineEnd same allowed =>
          rw [same] at begins
          simp at begins
      | escape chars read => simp at begins
      | plain plain quote backslash => exact absurd (List.cons.inj begins).1 quote

theorem threeQuotes_escaped (lines : Bool) (run : Nat) (cs : List Char) :
    threeQuotes '"' (escaped 2 lines run cs) = false := by
  rw [Bool.eq_false_iff]
  intro begins
  obtain ⟨x, here⟩ := List.isPrefixOf_iff_prefix.mp begins
  obtain ⟨-, second, here⟩ := escaped_eq_quote here.symm
  obtain ⟨-, third, here⟩ := escaped_eq_quote here.symm
  obtain ⟨room, -⟩ := escaped_eq_quote here.symm
  omega

/-- A text of which only quotes are written consists of these. -/
theorem escaped_eq_self {quotes : Nat} {lines : Bool} {run : Nat} {cs : List Char}
    (all : ∀ a ∈ escaped quotes lines run cs, a = '"') : escaped quotes lines run cs = cs := by
  induction cs generalizing run with
  | nil => rfl
  | cons c rest ih =>
      obtain ⟨piece, after, written, made⟩ := escaped_cons quotes lines run c rest
      rw [made] at all ⊢
      obtain ⟨here, others⟩ := List.forall_mem_append.mp all
      have same : piece = [c] := by
        cases written with
        | escape chars read => simp at here
        | _ => rfl
      rw [same, ih others]
      rfl

theorem newline?_plain {c : Char} (plain : isPlain c) (x : List Char) :
    newline? (c :: x) = none := by
  unfold newline?
  split
  · next same => cases same; cases plain
  · next same => cases same; cases plain
  · rfl

theorem multilineBasic?_ends {bound : Nat} {cs : List Char} (ends : threeQuotes '"' cs = true) :
    multilineBasic? (bound + 1) cs = some (endQuotes '"' (cs.drop 3)) := by
  rw [multilineBasic?.eq_def]
  exact if_pos ends

theorem multilineBasic?_written {lines : Bool} {quotes run after : Nat} {c : Char}
    {piece x : List Char} (written : Written quotes lines run c piece after)
    (open_ : threeQuotes '"' (piece ++ x) = false) (bound : Nat) :
    multilineBasic? (bound + 1) (piece ++ x) =
      (multilineBasic? bound x).bind fun (s, rest) => some (c :: s, rest) := by
  have step (plain : isPlain c) (backslash : c ≠ '\\')
      (open_ : threeQuotes '"' (c :: x) = false) :
      multilineBasic? (bound + 1) (c :: x) =
        (multilineBasic? bound x).bind fun (s, rest) => some (c :: s, rest) := by
    simp only [multilineBasic?, open_, newline?_plain plain, plain]
    rfl
  cases written with
  | quote same room =>
      subst same
      exact step rfl (by decide) open_
  | lineEnd same allowed =>
      subst same
      rfl
  | escape chars read =>
      rw [List.cons_append, multilineBasic?.eq_def]
      simp only [read]
      rfl
  | plain plain quote backslash => exact step plain backslash open_

/-- **A text between three double quotes.** -/
theorem multilineBasic?_escaped (cs : List Char) (lines : Bool) (run bound : Nat)
    (enough : cs.length < bound) {r : List Char} (other : r.head? ≠ some '"') :
    multilineBasic? bound (escaped 2 lines run cs ++ '"' :: '"' :: '"' :: r) = some (cs, r) := by
  induction cs generalizing run bound with
  | nil =>
      obtain ⟨bound, rfl⟩ := Nat.exists_eq_add_one_of_ne_zero (Nat.ne_zero_of_lt enough)
      have none_ : threeQuotes '"' [] = false := rfl
      obtain ⟨-, ends, last⟩ | absent := threeQuotes_append none_ other
      · exact (multilineBasic?_ends ends).trans (congrArg some last)
      · cases absent
  | cons c rest ih =>
      obtain ⟨bound, rfl⟩ := Nat.exists_eq_add_one_of_ne_zero (Nat.ne_zero_of_lt enough)
      obtain ⟨all, ends, last⟩ | open_ :=
        threeQuotes_append (threeQuotes_escaped lines run (c :: rest)) other
      · -- only quotes are left of the text, and they are met together with those that end it
        rw [multilineBasic?_ends ends, last, escaped_eq_self all]
      · obtain ⟨piece, after, written, made⟩ := escaped_cons 2 lines run c rest
        rw [made, List.append_assoc] at open_ ⊢
        have shorter : rest.length < bound := Nat.lt_of_succ_lt_succ enough
        rw [multilineBasic?_written written open_, ih after bound shorter]
        rfl

/-! ## Single quotes -/

/-- **A text between single quotes in one line.** -/
theorem literal?_append {cs : List Char} (plain : ∀ c ∈ cs, isPlain c) (free : '\'' ∉ cs)
    (r : List Char) : literal? (cs ++ '\'' :: r) = some (cs, r) := by
  induction cs with
  | nil => rfl
  | cons c rest ih =>
      obtain ⟨first, others⟩ := List.forall_mem_cons.mp plain
      have different : c ≠ '\'' := (List.ne_of_not_mem_cons free).symm
      rw [List.cons_append, literal?, if_neg different, if_pos first,
        ih others (List.not_mem_of_not_mem_cons free)]
      rfl

theorem le_longestRun (quote : Char) (run : Nat) (cs : List Char) :
    run ≤ longestRun quote run cs := by
  induction cs generalizing run with
  | nil => exact Nat.le_refl run
  | cons c rest ih =>
      rw [longestRun]
      split
      · exact Nat.le_of_succ_le (ih (run + 1))
      · exact Nat.le_max_left ..

/-- A run within the rest of some characters is no longer than the longest one. -/
theorem exists_longestRun_le {quote c : Char} {run longest : Nat} {rest : List Char}
    (short : longestRun quote run (c :: rest) ≤ longest) :
    ∃ after, longestRun quote after rest ≤ longest ∧ (c = quote → after = run + 1) := by
  rw [longestRun] at short
  split at short
  · exact ⟨run + 1, short, fun _ => rfl⟩
  · next other => exact ⟨0, (Nat.max_le.mp short).2, fun same => absurd same other⟩

theorem threeQuotes_of_longestRun {quote : Char} {run : Nat} {cs : List Char}
    (short : longestRun quote run cs ≤ 2) : threeQuotes quote cs = false := by
  match cs with
  | [] => rfl
  | [a] => simp [threeQuotes, List.isPrefixOf]
  | [a, b] => simp [threeQuotes, List.isPrefixOf]
  | a :: b :: c :: rest =>
      rw [threeQuotes_cons, decide_eq_false_iff_not]
      rintro ⟨first, second, third⟩
      obtain ⟨one, short, oneMore⟩ := exists_longestRun_le short
      obtain ⟨two, short, twoMore⟩ := exists_longestRun_le short
      obtain ⟨three, short, threeMore⟩ := exists_longestRun_le short
      have := le_longestRun quote three rest
      have := oneMore first
      have := twoMore second
      have := threeMore third
      omega

theorem not_mem_of_longestRun {quote : Char} {run : Nat} {cs : List Char}
    (none : longestRun quote run cs = 0) : quote ∉ cs := by
  induction cs generalizing run with
  | nil => exact List.not_mem_nil
  | cons c rest ih =>
      obtain ⟨after, short, more⟩ := exists_longestRun_le (Nat.le_of_eq none)
      have nothing : longestRun quote after rest = 0 := Nat.le_zero.mp short
      refine List.not_mem_cons_of_ne_of_not_mem (fun same => ?_) (ih nothing)
      have := le_longestRun quote after rest
      have := more same.symm
      omega

theorem multilineLiteral?_ends {bound : Nat} {cs : List Char}
    (ends : threeQuotes '\'' cs = true) :
    multilineLiteral? (bound + 1) cs = some (endQuotes '\'' (cs.drop 3)) := by
  rw [multilineLiteral?.eq_def]
  exact if_pos ends

theorem multilineLiteral?_cons {bound : Nat} {c : Char} {x : List Char}
    (plain : isPlain c ∨ c = '\n') (open_ : threeQuotes '\'' (c :: x) = false) :
    multilineLiteral? (bound + 1) (c :: x) =
      (multilineLiteral? bound x).bind fun (s, rest) => some (c :: s, rest) := by
  rw [multilineLiteral?.eq_def]
  obtain plain | rfl := plain
  · simp only [open_, newline?_plain plain, plain]
    rfl
  · rfl

/-- **A text between three single quotes.** -/
theorem multilineLiteral?_append {cs : List Char} (plain : ∀ c ∈ cs, isPlain c ∨ c = '\n')
    {run : Nat} (short : longestRun '\'' run cs ≤ 2) {bound : Nat} (enough : cs.length < bound)
    {r : List Char} (other : r.head? ≠ some '\'') :
    multilineLiteral? bound (cs ++ '\'' :: '\'' :: '\'' :: r) = some (cs, r) := by
  induction cs generalizing run bound with
  | nil =>
      obtain ⟨bound, rfl⟩ := Nat.exists_eq_add_one_of_ne_zero (Nat.ne_zero_of_lt enough)
      have none_ : threeQuotes '\'' [] = false := rfl
      obtain ⟨-, ends, last⟩ | absent := threeQuotes_append none_ other
      · exact (multilineLiteral?_ends ends).trans (congrArg some last)
      · cases absent
  | cons c rest ih =>
      obtain ⟨bound, rfl⟩ := Nat.exists_eq_add_one_of_ne_zero (Nat.ne_zero_of_lt enough)
      obtain ⟨-, ends, last⟩ | open_ :=
        threeQuotes_append (threeQuotes_of_longestRun short) other
      · rw [multilineLiteral?_ends ends, last]
      · obtain ⟨first, others⟩ := List.forall_mem_cons.mp plain
        obtain ⟨after, shortRest, -⟩ := exists_longestRun_le short
        have shorter : rest.length < bound := Nat.lt_of_succ_lt_succ enough
        rw [List.cons_append] at open_ ⊢
        rw [multilineLiteral?_cons first open_, ih others shortRest shorter]
        rfl

/-! ## Texts in quotes of either kind -/

section Texts

variable {cs r : List Char}

/-- Two quotes around something that does not begin with one are no three quotes. -/
theorem threeQuotes_pair {quote : Char} {inner : List Char} (free : inner.head? ≠ some quote)
    (other : r.head? ≠ some quote) :
    threeQuotes quote (quote :: (inner ++ quote :: r)) = false := by
  match inner, r with
  | [], [] => simp [threeQuotes, List.isPrefixOf]
  | [], a :: rest =>
      have different : a ≠ quote := by simpa using other
      rw [List.nil_append, threeQuotes_cons, decide_eq_false_iff_not]
      exact fun same => different same.2.2
  | [a], r =>
      have different : a ≠ quote := by simpa using free
      rw [List.singleton_append, threeQuotes_cons, decide_eq_false_iff_not]
      exact fun same => different same.2.1
  | a :: b :: rest, r =>
      have different : a ≠ quote := by simpa using free
      rw [List.cons_append, List.cons_append, threeQuotes_cons, decide_eq_false_iff_not]
      exact fun same => different same.2.1

theorem text?_basic (cs : List Char) (other : r.head? ≠ some '"') :
    text? ('"' :: (escaped 0 false 0 cs ++ '"' :: r)) = some (cs, r) := by
  have free : (escaped 0 false 0 cs).head? ≠ some '"' := by
    intro begins
    obtain ⟨x, made⟩ := List.head?_eq_some_iff.mp begins
    obtain ⟨room, -⟩ := escaped_eq_quote made
    exact Nat.not_lt_zero 0 room
  have enough := Nat.lt_succ_of_le (length_le_escaped_append 0 false 0 cs ('"' :: r))
  rw [text?, threeQuotes_pair free other]
  exact basic?_escaped cs 0 _ enough r

theorem text?_literal (plain : ∀ c ∈ cs, isPlain c) (free : '\'' ∉ cs)
    (other : r.head? ≠ some '\'') : text? ('\'' :: (cs ++ '\'' :: r)) = some (cs, r) := by
  have begins : cs.head? ≠ some '\'' := fun here => free (List.mem_of_head? here)
  rw [text?, threeQuotes_pair begins other]
  exact literal?_append plain free r

/-- A line end that is put behind the opening quotes is passed over, and no other one is. -/
theorem skipFirstLineEnd_append {lines : Bool} {x : List Char}
    (kept : lines = false → newline? x = none) :
    skipFirstLineEnd ((if lines then ['\n'] else []) ++ x) = x := by
  cases lines with
  | true => rfl
  | false => exact (congrArg (·.getD x) (kept rfl) : _)

theorem betweenThree_append (quote : Char) (lines : Bool) (inner r : List Char) :
    betweenThree quote lines inner ++ r =
      quote :: quote :: quote ::
        ((if lines then ['\n'] else []) ++ (inner ++ quote :: quote :: quote :: r)) := by
  simp [betweenThree]

theorem text?_betweenThree_basic {lines : Bool} (noLine : lines = false → '\n' ∉ cs)
    (other : r.head? ≠ some '"') :
    text? (betweenThree '"' lines (escaped 2 true 0 cs) ++ r) = some (cs, r) := by
  have kept : lines = false →
      newline? (escaped 2 true 0 cs ++ '"' :: '"' :: '"' :: r) = none := by
    intro single
    cases cs with
    | nil => rfl
    | cons c rest =>
        obtain ⟨piece, after, written, made⟩ := escaped_cons 2 true 0 c rest
        rw [made, List.append_assoc]
        cases written with
        | quote same room => exact newline?_plain (same ▸ rfl) _
        | lineEnd same allowed =>
            subst same
            exact absurd List.mem_cons_self (noLine single)
        | escape chars read => rfl
        | plain plain quote backslash => exact newline?_plain plain _
  have enough := Nat.lt_succ_of_le
    (length_le_escaped_append 2 true 0 cs ('"' :: '"' :: '"' :: r))
  rw [betweenThree_append]
  show multilineBasic? ((skipFirstLineEnd _).length + 1) (skipFirstLineEnd _) = _
  rw [List.drop_succ_cons, List.drop_succ_cons, List.drop_succ_cons, List.drop_zero,
    skipFirstLineEnd_append kept]
  exact multilineBasic?_escaped cs true 0 _ enough other

theorem text?_betweenThree_literal {lines : Bool} (plain : ∀ c ∈ cs, isPlain c ∨ c = '\n')
    (noLine : lines = false → '\n' ∉ cs) (short : longestRun '\'' 0 cs ≤ 2)
    (other : r.head? ≠ some '\'') :
    text? (betweenThree '\'' lines cs ++ r) = some (cs, r) := by
  have kept : lines = false → newline? (cs ++ '\'' :: '\'' :: '\'' :: r) = none := by
    intro single
    cases cs with
    | nil => rfl
    | cons c rest =>
        obtain first | rfl := plain c List.mem_cons_self
        · exact newline?_plain first _
        · exact absurd List.mem_cons_self (noLine single)
  have enough : cs.length < (cs ++ '\'' :: '\'' :: '\'' :: r).length + 1 := by
    rw [List.length_append]
    omega
  rw [betweenThree_append]
  show multilineLiteral? ((skipFirstLineEnd _).length + 1) (skipFirstLineEnd _) = _
  rw [List.drop_succ_cons, List.drop_succ_cons, List.drop_succ_cons, List.drop_zero,
    skipFirstLineEnd_append kept]
  exact multilineLiteral?_append plain short enough other

theorem isPlain_of_isControl {c : Char} (free : isControl c = false) :
    isPlain c ∨ c = '\n' := by
  by_cases line : c = '\n'
  · exact .inr line
  · by_cases tab : c = '\t'
    · exact .inl (by rw [tab]; rfl)
    · simp [isControl, line, tab] at free
      exact .inl (by simp [isPlain]; omega)

/-- **A text in the quotes it is written in is read as the text it was.** -/
theorem text?_quoted (cs : List Char) (notDouble : r.head? ≠ some '"')
    (notSingle : r.head? ≠ some '\'') : text? (quoted cs ++ r) = some (cs, r) := by
  have single : (Needs.ofText cs).lines = false → '\n' ∉ cs := by
    simp [Needs.ofText]
  have written (free : (Needs.ofText cs).control = false) : ∀ c ∈ cs, isPlain c ∨ c = '\n' :=
    fun c mem => isPlain_of_isControl (by simpa using List.any_eq_false.mp free c mem)
  have oneLine : text? ('"' :: (escaped 0 false 0 cs ++ ['"']) ++ r) = some (cs, r) := by
    simpa using text?_basic cs notDouble
  unfold quoted
  dsimp only
  -- the writer tries the kinds of quotes in this order
  split_ifs with basic literal multilineBasic multilineLiteral lines
  · exact oneLine
  · simp only [Bool.and_eq_true, Bool.not_eq_true', decide_eq_true_eq] at literal
    obtain ⟨⟨free, none⟩, flat⟩ := literal
    have plain : ∀ c ∈ cs, isPlain c := fun c mem =>
      (written free c mem).resolve_right fun line => single flat (line ▸ mem)
    simpa using text?_literal plain (not_mem_of_longestRun none) notSingle
  · exact text?_betweenThree_basic single notDouble
  · simp only [Bool.and_eq_true, Bool.not_eq_true', decide_eq_true_eq] at multilineLiteral
    obtain ⟨free, short⟩ := multilineLiteral
    exact text?_betweenThree_literal (written free) single short notSingle
  · exact text?_betweenThree_basic (fun absurd => nomatch absurd) notDouble
  · exact oneLine

/-- A text in quotes begins with a quote. -/
theorem quoted_eq_cons (cs : List Char) :
    ∃ quote inner, quoted cs = quote :: inner ∧ (quote = '"' ∨ quote = '\'') := by
  unfold quoted
  dsimp only
  split_ifs
  · exact ⟨_, _, rfl, .inl rfl⟩
  · exact ⟨_, _, rfl, .inr rfl⟩
  · exact ⟨_, _, rfl, .inl rfl⟩
  · exact ⟨_, _, rfl, .inr rfl⟩
  · exact ⟨_, _, rfl, .inl rfl⟩
  · exact ⟨_, _, rfl, .inl rfl⟩

end Texts

end SchemaOutline.Toml.Reader

import SchemaOutline.Toml.Reader

/-!
# Decimal digits

The digits of a natural number are what readers take it from: there is at least one, and no zero
stands before another. Digits with no zero before another are those of the number they spell.

* `toDigits_eq_cons` — the first digit.
* `NoNeedlessZero`, `toDigits_ofDigitChars_eq_self_iff` — digits that are those of a number.
* `Toml.Moment.isDigit_of_mem_toDigits`, `Toml.Reader.number_toDigits` — digits in settings.
-/

namespace SchemaOutline

/-- The first digit of a number other than zero is not zero. -/
theorem toDigits_eq_cons {n : Nat} (positive : 0 < n) :
    ∃ first rest, Nat.toDigits 10 n = first :: rest ∧ first ≠ '0' := by
  induction n using Nat.base_induction 10 (by decide) with
  | single n small =>
      rw [Nat.toDigits_of_lt_base small]
      exact ⟨n.digitChar, [], rfl, fun zero => by simp at zero; omega⟩
  | digit n last small leading ih =>
      obtain ⟨first, rest, made, nonzero⟩ := ih leading
      rw [← Nat.toDigits_append_toDigits (by decide) leading small, made]
      exact ⟨first, _, rfl, nonzero⟩

/-- The value of a digit is below ten, and the digit is its character. -/
theorem digitChar_value {c : Char} (digit : c.isDigit) :
    c.toNat - '0'.toNat < 10 ∧ (c.toNat - '0'.toNat).digitChar = c := by
  obtain ⟨least, most⟩ : 48 ≤ c.toNat ∧ c.toNat ≤ 57 := Char.isDigit_iff_toNat.mp digit
  have small : c.toNat - 48 < 10 := by omega
  refine ⟨small, Char.toNat_inj.mp ?_⟩
  show (c.toNat - 48).digitChar.toNat = c.toNat
  rw [Nat.toNat_digitChar_of_lt_ten small]
  omega

/-- Digits behind those of a number other than zero are read as its further digits. -/
theorem toDigits_ofDigitChars_of_pos {start : Nat} (positive : 0 < start) {digits : List Char}
    (all : ∀ c ∈ digits, c.isDigit) :
    Nat.toDigits 10 (Nat.ofDigitChars 10 digits start) = Nat.toDigits 10 start ++ digits := by
  induction digits generalizing start with
  | nil => rw [Nat.ofDigitChars_nil, List.append_nil]
  | cons c rest ih =>
      obtain ⟨first, others⟩ := List.forall_mem_cons.mp all
      obtain ⟨small, char⟩ := digitChar_value first
      have step : Nat.toDigits 10 (10 * start + (c.toNat - '0'.toNat)) =
          Nat.toDigits 10 start ++ [c] := by
        rw [← Nat.toDigits_append_toDigits (by decide) positive small,
          Nat.toDigits_of_lt_base small, char]
      rw [Nat.ofDigitChars_cons, ih (by omega) others, step, ← List.append_cons]

/-- **Digits without a needless zero**: the first one is zero only if it is the only one. -/
def NoNeedlessZero (digits : List Char) : Prop :=
  digits.head? = some '0' → digits = ['0']

/-- **Which digits are those of the number they spell.** -/
theorem toDigits_ofDigitChars_eq_self_iff {digits : List Char} (nonempty : digits ≠ [])
    (all : ∀ c ∈ digits, c.isDigit) :
    Nat.toDigits 10 (Nat.ofDigitChars 10 digits 0) = digits ↔ NoNeedlessZero digits := by
  obtain ⟨first, rest, rfl⟩ := List.exists_cons_of_ne_nil nonempty
  obtain ⟨isDigit, others⟩ := List.forall_mem_cons.mp all
  obtain ⟨small, char⟩ := digitChar_value isDigit
  by_cases zero : first = '0'
  · subst zero
    constructor
    · intro same _
      rcases Nat.eq_zero_or_pos (Nat.ofDigitChars 10 ('0' :: rest) 0) with none | positive
      · rw [← same, none, Nat.toDigits_zero]
      · obtain ⟨leading, more, made, nonzero⟩ := toDigits_eq_cons positive
        exact absurd (List.cons.inj (made.symm.trans same)).1 nonzero
    · intro alone
      rw [alone rfl]
      rfl
  · have positive : 0 < 10 * 0 + (first.toNat - '0'.toNat) := by
      rw [Nat.mul_zero, Nat.zero_add, Nat.pos_iff_ne_zero]
      intro none
      rw [none] at char
      exact zero char.symm
    have same : Nat.toDigits 10 (Nat.ofDigitChars 10 (first :: rest) 0) = first :: rest := by
      rw [Nat.ofDigitChars_cons, toDigits_ofDigitChars_of_pos positive others, Nat.mul_zero,
        Nat.zero_add, Nat.toDigits_of_lt_base small, char, List.singleton_append]
    exact iff_of_true same fun head => absurd (Option.some.inj head) zero

namespace Toml

/-- The digits of a number are digits. -/
theorem Moment.isDigit_of_mem_toDigits {n : Nat} {c : Char} (mem : c ∈ Nat.toDigits 10 n) :
    Moment.isDigit c := by
  have digit : c.isDigit := Nat.isDigit_of_mem_toDigits (by decide) (by decide) mem
  simpa only [Moment.isDigit, Char.isDigit, Char.le_def] using digit

namespace Reader

theorem hexValue?_of_isDigit {c : Char} (digit : Moment.isDigit c) :
    hexValue? c = some (c.toNat - '0'.toNat) := by
  simp only [Moment.isDigit, Bool.and_eq_true, decide_eq_true_eq] at digit
  rw [hexValue?, if_pos digit]

theorem number_toDigits (n : Nat) : number 10 (Nat.toDigits 10 n) = n := by
  have step (digits : List Char) (value : Nat) (all : ∀ c ∈ digits, Moment.isDigit c) :
      digits.foldl (fun value c => 10 * value + (hexValue? c).getD 0) value =
        Nat.ofDigitChars 10 digits value := by
    induction digits generalizing value with
    | nil => simp
    | cons c rest ih =>
        obtain ⟨first, others⟩ := List.forall_mem_cons.mp all
        rw [List.foldl_cons, hexValue?_of_isDigit first, Nat.ofDigitChars_cons]
        exact ih _ others
  rw [number, step _ _ fun c mem => Moment.isDigit_of_mem_toDigits mem]
  exact Nat.ofDigitChars_ten_toDigits

end Reader

end Toml

end SchemaOutline

import Mathlib.Data.List.Induction
import ServiceHost.Text.Decimal

/-!
Numerals: which number digits denote, leading zeros or not, and when it is read. A bound on numbers is no bound on
digits, and without leading zeros a number has one numeral only.
-/

namespace ServiceHost.Text

/-- A numeral has digits only, at least one. -/
structure IsNumeral (digits : List Char) : Prop where
  nonempty : digits ≠ []
  digits : ∀ c ∈ digits, c.isDigit

/-- The number that digits denote. -/
abbrev numeralValue (digits : List Char) : Nat :=
  Nat.ofDigitChars 10 digits 0

variable {bound value result : Nat} {text digits : List Char} {c : Char}

theorem IsNumeral.not_mem (numeral : IsNumeral digits) (other : c.isDigit = false) : c ∉ digits := by
  intro member
  have digit := numeral.digits c member
  rw [other] at digit
  exact absurd digit (by decide)

theorem le_ofDigitChars (digits : List Char) (value : Nat) : value ≤ Nat.ofDigitChars 10 digits value := by
  rw [Nat.ofDigitChars_eq_ofDigitChars_zero]
  have power : 1 ≤ 10 ^ digits.length := Nat.one_le_pow _ _ (by decide)
  have scaled := Nat.mul_le_mul_right value power
  omega

/-- Digits are read exactly where the number that they denote is below the bound. -/
theorem readDigits_eq_ok_iff (start : value < bound) : readDigits bound value text = .ok result ↔
    (∀ c ∈ text, c.isDigit) ∧ Nat.ofDigitChars 10 text value = result ∧ result < bound := by
  induction text generalizing value with
  | nil =>
    simp only [readDigits, Nat.ofDigitChars_nil, Except.ok.injEq, List.not_mem_nil, false_implies, implies_true,
      true_and]
    exact ⟨fun same => ⟨same, same ▸ start⟩, And.left⟩
  | cons c rest inductionHypothesis =>
    rw [readDigits, digitValue?, List.forall_mem_cons, Nat.ofDigitChars_cons]
    by_cases digit : c.isDigit
    · have next : 10 * value + (c.toNat - '0'.toNat) = value * 10 + (c.toNat - '0'.toNat) := by omega
      rw [if_pos digit, next]
      by_cases small : value * 10 + (c.toNat - '0'.toNat) < bound
      · simp only [if_pos small, inductionHypothesis small, digit, true_and]
      · have large := le_ofDigitChars rest (value * 10 + (c.toNat - '0'.toNat))
        simp only [if_neg small, reduceCtorEq, false_iff]
        rintro ⟨-, rfl, inside⟩
        omega
    · simp [digit]

/-- Why digits are not read: a character that is no digit comes first, or with the digits so far the number reaches
the bound. -/
inductive DigitsFault (bound value : Nat) : List Char → NumeralError → Prop where
  | digit {front rest : List Char} {c : Char} : (∀ c ∈ front, c.isDigit) → Nat.ofDigitChars 10 front value < bound →
      ¬c.isDigit → DigitsFault bound value (front ++ c :: rest) .digit
  | large {front rest : List Char} : (∀ c ∈ front, c.isDigit) → bound ≤ Nat.ofDigitChars 10 front value →
      DigitsFault bound value (front ++ rest) .large

theorem digitsFault_cons {fault : NumeralError} (digit : c.isDigit)
    (later : DigitsFault bound (10 * value + (c.toNat - '0'.toNat)) text fault) :
    DigitsFault bound value (c :: text) fault := by
  cases later with
  | digit digits small other =>
    exact .digit (List.forall_mem_cons.mpr ⟨digit, digits⟩) (Nat.ofDigitChars_cons ▸ small) other
  | large digits large => exact .large (List.forall_mem_cons.mpr ⟨digit, digits⟩) (Nat.ofDigitChars_cons ▸ large)

/-- What is not read has a fault, and the fault says which. -/
theorem digitsFault_of_readDigits {fault : NumeralError} (read : readDigits bound value text = .error fault)
    (start : value < bound) : DigitsFault bound value text fault := by
  induction text generalizing value with
  | nil => exact absurd read (by simp [readDigits])
  | cons c rest inductionHypothesis =>
    rw [readDigits, digitValue?] at read
    by_cases digit : c.isDigit
    · have next : value * 10 + (c.toNat - '0'.toNat) = 10 * value + (c.toNat - '0'.toNat) := by omega
      rw [if_pos digit] at read
      dsimp only at read
      rw [next] at read
      split at read
      · exact digitsFault_cons digit (inductionHypothesis read ‹_›)
      · rename_i large
        obtain rfl := Except.error.inj read
        have reached : bound ≤ Nat.ofDigitChars 10 [c] value := by
          rw [Nat.ofDigitChars_cons, Nat.ofDigitChars_nil]
          exact Nat.le_of_not_lt large
        exact .large (List.forall_mem_singleton.mpr digit) reached
    · rw [if_neg digit] at read
      obtain rfl := Except.error.inj read
      exact .digit (List.forall_mem_nil _) start digit

/-- The text behind one plus sign, if it opens with one. -/
def unsigned : List Char → List Char
  | '+' :: digits => digits
  | text => text

/-- Why a text is no natural number below the bound: it is empty or a plus sign alone, or its digits have a fault. -/
inductive NaturalFault (bound : Nat) : List Char → NumeralError → Prop where
  | empty : NaturalFault bound [] .empty
  | sign : NaturalFault bound ['+'] .digit
  | digits {text : List Char} {fault : NumeralError} : unsigned text ≠ [] → DigitsFault bound 0 (unsigned text) fault →
      NaturalFault bound text fault

theorem readNatural_of_unsigned (nonempty : unsigned text ≠ []) :
    readNatural bound text = readDigits bound 0 (unsigned text) := by
  unfold unsigned at nonempty ⊢
  split at nonempty
  · rw [readNatural]
    exact nonempty
  · rename_i signless
    unfold readNatural
    split
    · exact absurd rfl nonempty
    · exact absurd rfl (signless [])
    · exact absurd rfl (signless _)
    · rfl

theorem eq_of_unsigned_eq_nil (empty : unsigned text = []) : text = [] ∨ text = ['+'] := by
  unfold unsigned at empty
  split at empty
  · exact .inr (by rw [empty])
  · exact .inl empty

/-- A number is read exactly where a numeral stands, behind a plus sign or by itself, that denotes it. -/
theorem readNatural_eq_ok_iff (positive : 0 < bound) : readNatural bound text = .ok result ↔
    IsNumeral (unsigned text) ∧ numeralValue (unsigned text) = result ∧ result < bound := by
  by_cases empty : unsigned text = []
  · refine iff_of_false ?_ fun ⟨numeral, _⟩ => numeral.nonempty empty
    rcases eq_of_unsigned_eq_nil empty with rfl | rfl <;> simp [readNatural]
  · rw [readNatural_of_unsigned empty, readDigits_eq_ok_iff positive]
    exact and_congr_left' ⟨fun digits => ⟨empty, digits⟩, IsNumeral.digits⟩

/-- A text that is not read as a number has a fault, and the fault says which. -/
theorem naturalFault_of_readNatural {fault : NumeralError} (read : readNatural bound text = .error fault)
    (positive : 0 < bound) : NaturalFault bound text fault := by
  by_cases empty : unsigned text = []
  · rcases eq_of_unsigned_eq_nil empty with rfl | rfl
    · obtain rfl := Except.error.inj read
      exact .empty
    · obtain rfl := Except.error.inj read
      exact .sign
  · rw [readNatural_of_unsigned empty] at read
    exact .digits empty (digitsFault_of_readDigits read positive)

theorem digitChar_of_isDigit (digit : c.isDigit) :
    c.toNat - '0'.toNat < 10 ∧ Nat.digitChar (c.toNat - '0'.toNat) = c := by
  obtain ⟨low, high⟩ := Char.isDigit_iff_toNat.mp digit
  change 48 ≤ c.toNat at low
  change c.toNat ≤ 57 at high
  have small : c.toNat - '0'.toNat < 10 := by
    change c.toNat - 48 < 10
    omega
  refine ⟨small, Char.toNat_inj.mp ?_⟩
  rw [Nat.toNat_digitChar_of_lt_ten small]
  change 48 + (c.toNat - 48) = c.toNat
  omega

/-- Without a leading zero digits are the numeral of the number that they denote. -/
theorem toDigits_numeralValue (numeral : IsNumeral digits) (leads : digits.head? ≠ some '0') :
    Nat.toDigits 10 (numeralValue digits) = digits := by
  induction digits using List.reverseRecOn with
  | nil => exact absurd rfl numeral.nonempty
  | append_singleton front last inductionHypothesis =>
    have digits := List.forall_mem_append.mp numeral.digits
    obtain ⟨small, same⟩ := digitChar_of_isDigit (digits.2 last List.mem_cons_self)
    rw [numeralValue, Nat.ofDigitChars_append, Nat.ofDigitChars_cons, Nat.ofDigitChars_nil]
    cases front with
    | nil => rw [Nat.ofDigitChars_nil, Nat.mul_zero, Nat.zero_add, Nat.toDigits_of_lt_base small, same]; rfl
    | cons first rest =>
      have others := inductionHypothesis ⟨List.cons_ne_nil first rest, digits.1⟩ leads
      have positive : 0 < numeralValue (first :: rest) := by
        have nonzero : first ≠ '0' := fun zero => leads (congrArg some zero)
        obtain ⟨-, back⟩ := digitChar_of_isDigit (digits.1 first List.mem_cons_self)
        have lead : 0 < first.toNat - '0'.toNat :=
          Nat.pos_of_ne_zero fun zero => nonzero (by rw [← back, zero]; rfl)
        have more := le_ofDigitChars rest (10 * 0 + (first.toNat - '0'.toNat))
        rw [numeralValue, Nat.ofDigitChars_cons]
        omega
      rw [← Nat.toDigits_append_toDigits (by decide) positive small, others, Nat.toDigits_of_lt_base small, same]

theorem isNumeral_toDigits (number : Nat) : IsNumeral (Nat.toDigits 10 number) :=
  ⟨Nat.toDigits_ne_nil, fun _ => Nat.isDigit_of_mem_toDigits (by decide) (by decide)⟩

end ServiceHost.Text

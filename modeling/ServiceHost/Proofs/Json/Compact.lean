import ServiceHost.Proofs.Json.Document

/-!
Compact texts: the text that is written for a value is a document, whatever the value and the strings in it are.
-/

namespace ServiceHost.Json

variable {text rest : List Char}

/-- The form of a character is a piece of the content of a string. -/
theorem Content.escaped (c : Char) (behind : Content rest) : Content (escaped c ++ rest) := by
  unfold Json.escaped
  split
  iterate 7 exact .short (by decide) behind
  split
  · rename_i control
    -- Each of the few controls has four digits.
    have every : ∀ code < 32,
        let digits := Nat.toDigits 16 code
        let whole := List.replicate (4 - digits.length) '0' ++ digits
        whole.length = 4 ∧ whole.all fun c => (Text.hexValue? c).isSome := by decide
    obtain ⟨four, hexadecimal⟩ := every c.toNat control
    exact .code four (List.all_eq_true.mp hexadecimal) behind
  · rename_i noQuote noBackslash _ _ _ _ _ visible
    have plain : isPlain c := by
      simp only [isPlain, Bool.and_eq_true, bne_iff_ne, decide_eq_true_eq]
      exact ⟨⟨noQuote, noBackslash⟩, Nat.not_lt.mp visible⟩
    exact .plain plain behind

theorem content_flatMap_escaped (text : List Char) : Content (text.flatMap escaped) := by
  induction text with
  | nil => exact .done
  | cons c text inductionHypothesis => exact inductionHypothesis.escaped c

theorem toList_string (text : String) : (string text).toList = quoted (text.toList.flatMap escaped) := by
  simp [string, quoted]

theorem digits_toDigits (value : Nat) : Digits (Nat.toDigits 10 value) :=
  ⟨Nat.toDigits_ne_nil, fun _ => Nat.isDigit_of_mem_toDigits (by decide) (by decide)⟩

/-- No positive number is written with a zero in front. -/
theorem head?_toDigits {value : Nat} (positive : 0 < value) : (Nat.toDigits 10 value).head? ≠ some '0' := by
  induction value using Nat.strongRecOn with
  | _ value inductionHypothesis =>
  rcases Nat.lt_or_ge value 10 with small | large
  · have every : ∀ value < 10, 0 < value → Nat.digitChar value ≠ '0' := by decide
    rw [Nat.toDigits_of_lt_base small, List.head?_cons, ne_eq, Option.some.injEq]
    exact every value small positive
  · rw [Nat.toDigits_of_base_le (by decide) large, List.head?_append_of_ne_nil _ Nat.toDigits_ne_nil]
    exact inductionHypothesis (value / 10) (by omega) (by omega)

theorem number_toDigits {sign : List Char} (signed : sign = [] ∨ sign = ['-']) (value : Nat) :
    Number (sign ++ Nat.toDigits 10 value) := by
  have leading : (Nat.toDigits 10 value).head? = some '0' → Nat.toDigits 10 value = ['0'] := by
    intro zero
    obtain rfl : value = 0 := Nat.eq_zero_of_not_pos fun positive => head?_toDigits positive zero
    rfl
  simpa using Number.intro signed (digits_toDigits value) leading (.inl rfl) (.inl rfl)

theorem number_compact (value : Int) : Number (toString value).toList := by
  cases value with
  | ofNat value => simpa [Int.toString_eq_repr, Int.repr] using number_toDigits (.inl rfl) value
  | negSucc value => simpa [Int.toString_eq_repr, Int.repr] using number_toDigits (.inr rfl) (value + 1)

theorem document_of_scalar (scalar : Scalar text) : Document text := by
  simpa using Phrase.scalar layout_nil scalar layout_nil

/-- Entries with a comma between them, if there are any. -/
theorem entries_intercalate {bracket : Bracket} {text : List Char} {texts : List (List Char)}
    (entry : Phrase (.entry bracket) text) (others : ∀ text ∈ texts, Phrase (.entry bracket) text) :
    Phrase (.entries bracket) ([','].intercalate (text :: texts)) := by
  induction texts generalizing text with
  | nil => simpa using Phrase.last entry
  | cons next texts inductionHypothesis =>
    rw [List.forall_mem_cons] at others
    simpa using Phrase.more entry (inductionHypothesis others.1 others.2)

/-- Some entries between their brackets are a document. -/
theorem document_of_entries (bracket : Bracket) {texts : List String}
    (entries : ∀ text ∈ texts, Phrase (.entry bracket) text.toList) :
    Document (bracket.opens :: ((",".intercalate texts).toList ++ [bracket.closes])) := by
  cases texts with
  | nil => exact .empty bracket layout_nil layout_nil layout_nil
  | cons text texts =>
    rw [List.forall_mem_cons] at entries
    have others : ∀ other ∈ texts.map String.toList, Phrase (.entry bracket) other :=
      List.forall_mem_map.mpr entries.2
    have inside := entries_intercalate entries.1 others
    rw [String.toList_intercalate]
    exact .full layout_nil inside layout_nil

mutual

/-- The text of a value is a document. -/
theorem document_compact : (value : Json) → Document value.compact.toList
  | .null => document_of_scalar (.literal (by decide))
  | .flag true => document_of_scalar (.literal (by decide))
  | .flag false => document_of_scalar (.literal (by decide))
  | .number value => document_of_scalar (.number (number_compact value))
  | .text value => by
    rw [compact, toList_string]
    exact document_of_scalar (.string (content_flatMap_escaped _))
  | .array items => by
    rw [compact, String.toList_append, String.toList_append]
    exact document_of_entries .square (entry_compactAll items)
  | .object members => by
    rw [compact, String.toList_append, String.toList_append]
    exact document_of_entries .curly (entry_compactMembers members)

theorem entry_compactAll : (items : List Json) →
    ∀ text ∈ compactAll items, Phrase (.entry .square) text.toList
  | [] => List.forall_mem_nil _
  | item :: rest => List.forall_mem_cons.mpr ⟨.item (document_compact item), entry_compactAll rest⟩

theorem entry_compactMembers : (members : List (String × Json)) →
    ∀ text ∈ compactMembers members, Phrase (.entry .curly) text.toList
  | [] => List.forall_mem_nil _
  | (name, value) :: rest => by
    have member := Phrase.member layout_nil (content_flatMap_escaped name.toList) layout_nil
      (document_compact value)
    refine List.forall_mem_cons.mpr ⟨?_, entry_compactMembers rest⟩
    simpa [toList_string] using member

end

end ServiceHost.Json

import Mathlib.Data.List.Basic
import ServiceHost.Json
import ServiceHost.Text.Hexadecimal

/-!
Documents: the texts of JSON values in any layout. A document with a hole in it for an entry of an object is a
document again once the hole is filled.
-/

namespace ServiceHost.Json

/-- A character of the layout between the parts of a document. -/
def isLayout (c : Char) : Bool :=
  c == ' ' || c == '\t' || c == '\n' || c == '\r'

/-- A text that is nothing but layout. -/
def Layout (text : List Char) : Prop :=
  ∀ c ∈ text, isLayout c

/-- A character that stands for itself in a string. -/
def isPlain (c : Char) : Bool :=
  c != '"' && c != '\\' && 32 ≤ c.toNat

/-- The characters that form an escape together with a backslash. -/
def shortEscapes : List Char := ['"', '\\', '/', 'b', 'f', 'n', 'r', 't']

/-- What stands between the quotes of a string. -/
inductive Content : List Char → Prop where
  | done : Content []
  | plain {c : Char} {rest : List Char} (plain : isPlain c) (behind : Content rest) : Content (c :: rest)
  | short {c : Char} {rest : List Char} (short : c ∈ shortEscapes) (behind : Content rest) :
      Content ('\\' :: c :: rest)
  | code {digits rest : List Char} (four : digits.length = 4)
      (hexadecimal : ∀ c ∈ digits, (Text.hexValue? c).isSome) (behind : Content rest) :
      Content ('\\' :: 'u' :: (digits ++ rest))

/-- A string with some content. -/
def quoted (content : List Char) : List Char :=
  '"' :: (content ++ ['"'])

/-- At least one digit, and nothing else. -/
def Digits (text : List Char) : Prop :=
  text ≠ [] ∧ ∀ c ∈ text, c.isDigit

/-- A number. Its whole part has no zero in front of other digits. -/
inductive Number : List Char → Prop where
  | intro {sign whole fraction exponent : List Char} (signed : sign = [] ∨ sign = ['-'])
      (digits : Digits whole) (leading : whole.head? = some '0' → whole = ['0'])
      (fractional : fraction = [] ∨ ∃ digits, fraction = '.' :: digits ∧ Digits digits)
      (scaled : exponent = [] ∨ ∃ letter ∈ ['e', 'E'], ∃ sign ∈ [[], ['+'], ['-']], ∃ digits,
        exponent = letter :: (sign ++ digits) ∧ Digits digits) :
      Number (sign ++ (whole ++ (fraction ++ exponent)))

/-- A value that contains no other one. -/
inductive Scalar : List Char → Prop where
  | literal {text : List Char} (known : text ∈ ["null", "true", "false"].map String.toList) : Scalar text
  | number {text : List Char} (number : Number text) : Scalar text
  | string {content : List Char} (legal : Content content) : Scalar (quoted content)

/-- The brackets around the items of an array, and those around the members of an object. -/
inductive Bracket where
  | square
  | curly

namespace Bracket

def opens : Bracket → Char
  | square => '['
  | curly => '\x7b'

def closes : Bracket → Char
  | square => ']'
  | curly => '\x7d'

end Bracket

/-- A kind of phrase: a value with the layout around it, an entry between some brackets, or one or more of
these entries. -/
inductive Kind where
  | element
  | entry (bracket : Bracket)
  | entries (bracket : Bracket)

/-- The phrases of documents. -/
inductive Phrase : Kind → List Char → Prop where
  | scalar {before text after : List Char} (lead : Layout before) (scalar : Scalar text)
      (trail : Layout after) : Phrase .element (before ++ (text ++ after))
  | empty (bracket : Bracket) {before inside after : List Char} (lead : Layout before) (blank : Layout inside)
      (trail : Layout after) :
      Phrase .element (before ++ bracket.opens :: (inside ++ bracket.closes :: after))
  | full {bracket : Bracket} {before inside after : List Char} (lead : Layout before)
      (entries : Phrase (.entries bracket) inside) (trail : Layout after) :
      Phrase .element (before ++ bracket.opens :: (inside ++ bracket.closes :: after))
  | item {text : List Char} (value : Phrase .element text) : Phrase (.entry .square) text
  | member {before name after text : List Char} (lead : Layout before) (legal : Content name)
      (trail : Layout after) (value : Phrase .element text) :
      Phrase (.entry .curly) (before ++ (quoted name ++ (after ++ ':' :: text)))
  | last {bracket : Bracket} {text : List Char} (entry : Phrase (.entry bracket) text) :
      Phrase (.entries bracket) text
  | more {bracket : Bracket} {text rest : List Char} (entry : Phrase (.entry bracket) text)
      (behind : Phrase (.entries bracket) rest) : Phrase (.entries bracket) (text ++ ',' :: rest)

/-- A document is a value with the layout around it. -/
abbrev Document (text : List Char) : Prop :=
  Phrase .element text

/-- The two parts of a phrase around an entry of an object that is left out. -/
inductive Around : Kind → List Char → List Char → Prop where
  | here : Around (.entry .curly) [] []
  | full {bracket : Bracket} {before front back after : List Char} (lead : Layout before)
      (inside : Around (.entries bracket) front back) (trail : Layout after) :
      Around .element (before ++ bracket.opens :: front) (back ++ bracket.closes :: after)
  | item {front back : List Char} (value : Around .element front back) : Around (.entry .square) front back
  | member {before name after front back : List Char} (lead : Layout before) (legal : Content name)
      (trail : Layout after) (value : Around .element front back) :
      Around (.entry .curly) (before ++ (quoted name ++ (after ++ ':' :: front))) back
  | last {bracket : Bracket} {front back : List Char} (entry : Around (.entry bracket) front back) :
      Around (.entries bracket) front back
  | first {bracket : Bracket} {front back rest : List Char} (entry : Around (.entry bracket) front back)
      (behind : Phrase (.entries bracket) rest) : Around (.entries bracket) front (back ++ ',' :: rest)
  | later {bracket : Bracket} {text front back : List Char} (entry : Phrase (.entry bracket) text)
      (behind : Around (.entries bracket) front back) :
      Around (.entries bracket) (text ++ ',' :: front) back

variable {kind : Kind} {front back text content : List Char}

/-- With an entry of an object in its hole, a phrase is whole. -/
theorem Around.fill (around : Around kind front back) (entry : Phrase (.entry .curly) text) :
    Phrase kind (front ++ (text ++ back)) := by
  induction around with
  | here => simpa using entry
  | full lead _ trail inductionHypothesis => simpa using Phrase.full lead inductionHypothesis trail
  | item _ inductionHypothesis => exact .item inductionHypothesis
  | member lead name trail _ inductionHypothesis =>
    simpa using Phrase.member lead name trail inductionHypothesis
  | last _ inductionHypothesis => exact .last inductionHypothesis
  | first _ behind inductionHypothesis => simpa using Phrase.more inductionHypothesis behind
  | later entry _ inductionHypothesis => simpa using Phrase.more entry inductionHypothesis

theorem layout_nil : Layout [] :=
  List.forall_mem_nil _

theorem content_of_all (plain : text.all isPlain) : Content text := by
  induction text with
  | nil => exact .done
  | cons c text inductionHypothesis =>
    rw [List.all_cons, Bool.and_eq_true] at plain
    exact .plain plain.1 (inductionHypothesis plain.2)

/-- In a string a quote stands only behind a backslash. -/
theorem Content.getLast?_of_quote (content : Content text) (split : text = front ++ '"' :: back) :
    front.getLast? = some '\\' := by
  induction content generalizing front with
  | done => simp at split
  | plain plain _ inductionHypothesis =>
    cases front with
    | nil =>
      obtain ⟨rfl, _⟩ := List.cons.inj split
      cases plain
    | cons first front =>
      have behind := inductionHypothesis (List.cons.inj split).2
      rw [List.getLast?_cons, behind, Option.getD_some]
  | short short _ inductionHypothesis =>
    cases front with
    | nil => simp at split
    | cons first front =>
      obtain ⟨first_eq, split⟩ := List.cons.inj split
      cases front with
      | nil =>
        rw [← first_eq]
        rfl
      | cons next front =>
        have behind := inductionHypothesis (List.cons.inj split).2
        rw [List.getLast?_cons, List.getLast?_cons, behind, Option.getD_some, Option.getD_some]
  | @code digits rest four hexadecimal _ inductionHypothesis =>
    have unquoted : '"' ∉ '\\' :: 'u' :: digits := by
      have inDigits : '"' ∉ digits := fun member => absurd (hexadecimal _ member) (by decide)
      simpa using inDigits
    rw [← List.cons_append, ← List.cons_append] at split
    rcases List.append_eq_append_iff.mp split with ⟨more, rfl, behind⟩ | ⟨more, digits_eq, behind⟩
    · have last := inductionHypothesis behind
      rw [List.getLast?_append, last, Option.some_or]
    · cases more with
      | nil =>
        have last : ([] : List Char).getLast? = some '\\' :=
          inductionHypothesis (by simpa using behind.symm)
        cases last
      | cons c more =>
        obtain ⟨rfl, _⟩ := List.cons.inj behind
        exact absurd (digits_eq ▸ by simp) unquoted

/-- A string has no line break in it. -/
theorem Content.feed_not_mem (content : Content text) : '\n' ∉ text := by
  induction content with
  | done => simp
  | plain plain _ inductionHypothesis =>
    rw [List.mem_cons, not_or]
    refine ⟨?_, inductionHypothesis⟩
    rintro rfl
    cases plain
  | short short _ inductionHypothesis =>
    rw [List.mem_cons, List.mem_cons, not_or, not_or]
    refine ⟨by decide, ?_, inductionHypothesis⟩
    rintro rfl
    revert short
    decide
  | @code digits rest _ hexadecimal _ inductionHypothesis =>
    have inDigits : '\n' ∉ digits := fun member => absurd (hexadecimal _ member) (by decide)
    simp only [List.mem_cons, List.mem_append, not_or]
    exact ⟨by decide, by decide, inDigits, inductionHypothesis⟩

/-- The characters of numbers. -/
def numerals : List Char :=
  ['0', '1', '2', '3', '4', '5', '6', '7', '8', '9', '+', '-', '.', 'e', 'E']

theorem mem_numerals_of_isDigit {c : Char} (digit : c.isDigit) : c ∈ numerals := by
  have every : ∀ code < 58, 48 ≤ code → Char.ofNat code ∈ numerals := by decide
  simp only [Char.isDigit, Bool.and_eq_true, decide_eq_true_eq, UInt32.le_iff_toNat_le] at digit
  change 48 ≤ c.toNat ∧ c.toNat ≤ 57 at digit
  have inRange := every c.toNat (by omega) digit.1
  rwa [Char.ofNat_toNat] at inRange

theorem Digits.mem_numerals (digits : Digits text) : ∀ c ∈ text, c ∈ numerals :=
  fun c member => mem_numerals_of_isDigit (digits.2 c member)

theorem Number.mem_numerals (number : Number text) : ∀ c ∈ text, c ∈ numerals := by
  obtain ⟨signed, digits, _, fractional, scaled⟩ := number
  simp only [List.mem_append]
  rintro c (inSign | inWhole | inFraction | inExponent)
  · rcases signed with rfl | rfl
    · cases inSign
    · obtain rfl := List.mem_singleton.mp inSign
      decide
  · exact digits.mem_numerals c inWhole
  · rcases fractional with rfl | ⟨digits, rfl, decimals⟩
    · cases inFraction
    · rcases List.mem_cons.mp inFraction with rfl | inDigits
      · decide
      · exact decimals.mem_numerals c inDigits
  · rcases scaled with rfl | ⟨letter, letters, sign, signs, digits, rfl, power⟩
    · cases inExponent
    · rcases List.mem_cons.mp inExponent with rfl | behind
      · rcases List.mem_pair.mp letters with rfl | rfl <;> decide
      rcases List.mem_append.mp behind with inSign | inDigits
      · have every : ['+', '-'].all (· ∈ numerals) := by decide
        have isSign : c ∈ ['+', '-'] := by
          simp only [List.mem_cons, List.not_mem_nil, or_false] at signs
          rcases signs with rfl | rfl | rfl <;> simp_all
        exact of_decide_eq_true (List.all_eq_true.mp every c isSign)
      · exact power.mem_numerals c inDigits

end ServiceHost.Json

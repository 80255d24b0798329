import ServiceHost.Proofs.Json.Compact

/-!
Reading: the value that a compact text denotes. A reader takes a value from the start of a text and leaves what stands
behind it, and what was written for a value reads as this value, whatever its strings are.
-/

namespace ServiceHost.Json

/-- Reads something from the start of a text, and leaves the rest of it. -/
abbrev Reader (α : Type) := List Char → Option (α × List Char)

variable {α : Type} {text rest behind content : List Char} {closes c : Char} {depth : Nat}

/-- What the letter of an escape stands for. -/
def letterEscapes : List (Char × Char) :=
  [('"', '"'), ('\\', '\\'), ('/', '/'), ('n', '\n'), ('r', '\r'), ('t', '\t'), ('b', '\x08'), ('f', '\x0c')]

/-- The character whose code some hexadecimal digits denote. No half of a surrogate pair is a character. -/
def readCode? (digits : List Char) : Option Char := do
  let values ← digits.mapM Text.hexValue?
  let code := values.foldl (16 * · + ·) 0
  if code.isValidChar then some (Char.ofNat code) else none

/-- Reads the content of a string up to the quote behind it. -/
def readContent : Reader (List Char)
  | [] => none
  | '"' :: rest => some ([], rest)
  | '\\' :: 'u' :: first :: second :: third :: fourth :: rest => do
    let c ← readCode? [first, second, third, fourth]
    let (content, rest) ← readContent rest
    some (c :: content, rest)
  | '\\' :: letter :: rest => do
    let c ← letterEscapes.lookup letter
    let (content, rest) ← readContent rest
    some (c :: content, rest)
  | c :: rest =>
    if isPlain c then do
      let (content, rest) ← readContent rest
      some (c :: content, rest)
    else none

/-- Reads a string. -/
def readString : Reader String
  | '"' :: rest => do
    let (content, rest) ← readContent rest
    some (String.ofList content, rest)
  | _ => none

/-- Reads as many digits as there are. -/
def readDigits : Reader Nat := fun text =>
  let digits := text.takeWhile Char.isDigit
  if digits.isEmpty then none else some (Nat.ofDigitChars 10 digits 0, text.dropWhile Char.isDigit)

/-- Reads a value that is neither a string nor one with others inside. -/
def readScalar : Reader Json
  | 'n' :: 'u' :: 'l' :: 'l' :: rest => some (.null, rest)
  | 't' :: 'r' :: 'u' :: 'e' :: rest => some (.flag true, rest)
  | 'f' :: 'a' :: 'l' :: 's' :: 'e' :: rest => some (.flag false, rest)
  | '-' :: rest => do
    let (value, rest) ← readDigits rest
    some (.number (-value), rest)
  | digits => do
    let (value, rest) ← readDigits digits
    some (.number value, rest)

/-- Reads at least one entry, with commas between them, and the bracket behind them. There are no more of them than
the count. -/
def readEntries (readEntry : Reader α) (closes : Char) : Nat → Reader (List α)
  | 0, _ => none
  | count + 1, entries => do
    let (entry, rest) ← readEntry entries
    match rest with
    | [] => none
    | c :: rest =>
      if c = closes then some ([entry], rest)
      else if c = ',' then do
        let (others, rest) ← readEntries readEntry closes count rest
        some (entry :: others, rest)
      else none

/-- Reads entries and the bracket behind them. There are no more of them than characters. -/
def readSequence (readEntry : Reader α) (closes : Char) : Reader (List α)
  | [] => none
  | c :: rest => if c = closes then some ([], rest) else readEntries readEntry closes (c :: rest).length (c :: rest)

/-- Reads a member of an object. -/
def readMember (readValue : Reader Json) : Reader (String × Json) := fun text => do
  let (name, rest) ← readString text
  match rest with
  | ':' :: rest => do
    let (value, rest) ← readValue rest
    some ((name, value), rest)
  | _ => none

/-- Reads a value in which others are nested to a depth. -/
def readValue : Nat → Reader Json
  | 0, _ => none
  | depth + 1, whole =>
    match whole with
    | '"' :: rest => do
      let (content, rest) ← readContent rest
      some (.text (String.ofList content), rest)
    | '[' :: rest => do
      let (items, rest) ← readSequence (readValue depth) ']' rest
      some (.array items, rest)
    | '\x7b' :: rest => do
      let (members, rest) ← readSequence (readMember (readValue depth)) '\x7d' rest
      some (.object members, rest)
    | scalar => readScalar scalar

/-- The value that a text denotes. In no value others are nested as deep as it has characters. -/
def read? (text : String) : Option Json :=
  match readValue (text.toList.length + 1) text.toList with
  | some (value, []) => some value
  | _ => none

/-- A reader takes a text for a value, whatever follows it but a digit. -/
def Reads (reader : Reader α) (text : List Char) (value : α) : Prop :=
  ∀ rest : List Char, (∀ c ∈ rest.head?, c.isDigit = false) → reader (text ++ rest) = some (value, rest)

/-! ### Strings -/

/-- The digits in the escape of a control character denote it. -/
theorem exists_controlEscape (control : c.toNat < 32) :
    ∃ first second third fourth, controlEscape c = ['\\', 'u', first, second, third, fourth] ∧
      readCode? [first, second, third, fourth] = some c := by
  have every : ∀ code < 32,
      let digits := Nat.toDigits 16 code
      let whole := List.replicate (4 - digits.length) '0' ++ digits
      whole.length = 4 ∧ readCode? whole = some (Char.ofNat code) := by decide
  obtain ⟨four, known⟩ := every c.toNat control
  obtain ⟨first, second, third, fourth, whole⟩ := List.length_eq_four.mp four
  refine ⟨first, second, third, fourth, ?_, ?_⟩
  · rw [controlEscape, List.append_assoc, whole]
    rfl
  · rw [← whole, known, Char.ofNat_toNat]

/-- An escape with a letter reads as what the letter stands for. -/
theorem readContent_letter {letter : Char} (known : letterEscapes.lookup letter = some c)
    (later : readContent rest = some (content, behind)) :
    readContent ('\\' :: letter :: rest) = some (c :: content, behind) := by
  have short : letter ≠ 'u' := by
    rintro rfl
    cases known
  rw [readContent, known, later]
  · rfl
  · exact fun _ _ _ _ _ same => absurd same short

theorem readContent_plain (plain : isPlain c) (later : readContent rest = some (content, behind)) :
    readContent (c :: rest) = some (c :: content, behind) := by
  have visible := plain
  simp only [isPlain, Bool.and_eq_true, bne_iff_ne] at visible
  rw [readContent, if_pos plain, later]
  · rfl
  · exact fun same => visible.1.1 same
  · exact fun _ _ _ _ _ same => absurd same visible.1.2
  · exact fun _ _ same => absurd same visible.1.2

/-- The form of a character reads as the character. -/
theorem readContent_escaped (c : Char) (later : readContent rest = some (content, behind)) :
    readContent (escaped c ++ rest) = some (c :: content, behind) := by
  unfold escaped
  split
  iterate 7 exact readContent_letter rfl later
  split
  · rename_i control
    obtain ⟨first, second, third, fourth, written, known⟩ := exists_controlEscape control
    rw [written]
    simp only [List.cons_append, List.nil_append, readContent, known, later, Option.bind_eq_bind, Option.bind_some]
  · rename_i noQuote noBackslash _ _ _ _ _ visible
    have plain : isPlain c := by
      simp only [isPlain, Bool.and_eq_true, bne_iff_ne, decide_eq_true_eq]
      exact ⟨⟨noQuote, noBackslash⟩, Nat.not_lt.mp visible⟩
    exact readContent_plain plain later

/-- What was written between the quotes of a string reads as its text. -/
theorem readContent_flatMap_escaped (content rest : List Char) :
    readContent (content.flatMap escaped ++ '"' :: rest) = some (content, rest) := by
  induction content with
  | nil => rfl
  | cons c content inductionHypothesis =>
    rw [List.flatMap_cons, List.append_assoc]
    exact readContent_escaped c inductionHypothesis

theorem readString_string (text : String) (rest : List Char) :
    readString ((string text).toList ++ rest) = some (text, rest) := by
  have content := readContent_flatMap_escaped text.toList rest
  rw [toList_string, quoted, List.cons_append, List.append_assoc]
  simp [readString, content]

/-! ### Numbers -/

theorem readDigits_toDigits (value : Nat) (ends : ∀ c ∈ rest.head?, c.isDigit = false) :
    readDigits (Nat.toDigits 10 value ++ rest) = some (value, rest) := by
  have digits := (digits_toDigits value).2
  have stops : rest.takeWhile Char.isDigit = [] ∧ rest.dropWhile Char.isDigit = rest := by
    cases rest with
    | nil => exact ⟨rfl, rfl⟩
    | cons c rest => simp [ends c rfl]
  rw [readDigits, List.takeWhile_append_of_pos digits, List.dropWhile_append_of_pos digits, stops.1, stops.2]
  simp [Nat.ofDigitChars_toDigits]

theorem reads_number (value : Int) : Reads readScalar (toString value).toList (.number value) := by
  intro rest ends
  cases value with
  | ofNat value =>
    have written : (toString (Int.ofNat value)).toList = Nat.toDigits 10 value := by
      simp [Int.toString_eq_repr, Int.repr]
    have read := readDigits_toDigits value ends
    obtain ⟨first, others, opens⟩ := List.exists_cons_of_ne_nil (digits_toDigits value).1
    have digit : first.isDigit := (digits_toDigits value).2 first (opens ▸ List.mem_cons_self)
    rw [written]
    rw [opens, List.cons_append] at read ⊢
    unfold readScalar
    -- No word and no sign opens with a digit.
    split
    iterate 4 rename_i same; cases (List.cons.inj same).1 ▸ digit
    rw [read]
    rfl
  | negSucc value =>
    have written : (toString (Int.negSucc value)).toList = '-' :: Nat.toDigits 10 (value + 1) := by
      simp [Int.toString_eq_repr, Int.repr]
    have read := readDigits_toDigits (value + 1) ends
    rw [written, List.cons_append, readScalar, read]
    rfl

/-! ### Entries -/

/-- Entries with commas between them read one by one, up to the bracket behind them. -/
theorem readEntries_intercalate {readEntry : Reader α} {texts : List (List Char)} {entries : List α}
    (bracket : closes ≠ ',' ∧ closes.isDigit = false) (read : List.Forall₂ (Reads readEntry) texts entries)
    (nonempty : texts ≠ []) {count : Nat} (enough : texts.length ≤ count) (rest : List Char) :
    readEntries readEntry closes count ([','].intercalate texts ++ closes :: rest) = some (entries, rest) := by
  induction read generalizing count with
  | nil => exact absurd rfl nonempty
  | @cons text entry texts entries first others inductionHypothesis =>
    obtain ⟨count, rfl⟩ : ∃ fewer, count = fewer + 1 := Nat.exists_eq_add_of_le' (by simp at enough; omega)
    have enough : texts.length ≤ count := by simpa using enough
    cases others with
    | nil =>
      have here := first (closes :: rest) (by simpa using bracket.2)
      simp [readEntries, here]
    | @cons next value texts entries =>
      have here := first (',' :: ([','].intercalate (next :: texts) ++ closes :: rest)) (by simp)
      have later := inductionHypothesis (by simp) enough
      simp [readEntries, here, later, Ne.symm bracket.1]

theorem length_le_intercalate (texts : List (List Char)) : texts.length ≤ ([','].intercalate texts).length + 1 := by
  induction texts with
  | nil => simp
  | cons text texts inductionHypothesis =>
    cases texts with
    | nil => simp
    | cons next texts =>
      rw [List.intercalate_cons_cons, List.length_append, List.length_append, List.length_cons]
      simp only [List.length_singleton]
      omega

theorem length_le_of_mem {texts : List (List Char)} (member : text ∈ texts) :
    text.length ≤ ([','].intercalate texts).length := by
  induction texts with
  | nil => cases member
  | cons first texts inductionHypothesis =>
    cases texts with
    | nil =>
      obtain rfl := List.mem_singleton.mp member
      simp
    | cons next texts =>
      rw [List.intercalate_cons_cons, List.length_append, List.length_append]
      rcases List.mem_cons.mp member with rfl | later
      · omega
      · have inside := inductionHypothesis later
        omega

/-- Where no entry opens with the bracket behind them, entries read with or without any of them. -/
theorem readSequence_intercalate {readEntry : Reader α} {texts : List (List Char)} {entries : List α}
    (bracket : closes ≠ ',' ∧ closes.isDigit = false) (refuses : ∀ rest, readEntry (closes :: rest) = none)
    (read : List.Forall₂ (Reads readEntry) texts entries) (rest : List Char) :
    readSequence readEntry closes ([','].intercalate texts ++ closes :: rest) = some (entries, rest) := by
  by_cases empty : texts = []
  · obtain rfl := empty
    cases read
    simp [readSequence]
  · have enough : texts.length ≤ ([','].intercalate texts ++ closes :: rest).length := by
      have entries := length_le_intercalate texts
      rw [List.length_append, List.length_cons]
      omega
    have found := readEntries_intercalate bracket read empty enough rest
    generalize [','].intercalate texts ++ closes :: rest = whole at found
    cases whole with
    | nil => cases found
    | cons c whole =>
      have other : c ≠ closes := by
        rintro rfl
        simp [readEntries, refuses] at found
      rw [readSequence, if_neg other, found]

/-- A member reads as its name and its value. -/
theorem reads_member {readValue : Reader Json} {value : Json} (name : String) (read : Reads readValue text value) :
    Reads (readMember readValue) ((string name).toList ++ ':' :: text) (name, value) := by
  intro rest ends
  have written := readString_string name (':' :: (text ++ rest))
  rw [List.append_assoc, List.cons_append, readMember, written]
  simp [read rest ends]

/-! ### Values -/

/-- No value opens with a closing bracket. -/
theorem readValue_closes (depth : Nat) (rest : List Char) : readValue depth (']' :: rest) = none := by
  cases depth <;> rfl

theorem readMember_closes (readValue : Reader Json) (rest : List Char) : readMember readValue ('\x7d' :: rest) = none :=
  rfl

/-- A value that opens with no quote and no bracket is read as one with nothing inside. -/
theorem reads_scalar {value : Json} (read : Reads readScalar text value) (depth : Nat) :
    Reads (readValue (depth + 1)) text value := by
  intro rest ends
  have scalar := read rest ends
  generalize text ++ rest = whole at scalar
  unfold readValue
  split
  iterate 3 cases scalar
  exact scalar

theorem reads_text (text : String) (depth : Nat) : Reads (readValue (depth + 1)) (string text).toList (.text text) := by
  intro rest _
  have content := readContent_flatMap_escaped text.toList rest
  rw [toList_string, quoted, List.cons_append, List.append_assoc]
  simp [readValue, content]

/-- Texts with commas between them, in brackets. -/
def enclosed (opens closes : Char) (texts : List String) : String :=
  String.singleton opens ++ ",".intercalate texts ++ String.singleton closes

theorem toList_enclosed (opens closes : Char) (texts : List String) :
    (enclosed opens closes texts).toList = opens :: ([','].intercalate (texts.map String.toList) ++ [closes]) := by
  simp [enclosed, String.toList_intercalate]

theorem compact_array (items : List Json) : (Json.array items).compact = enclosed '[' ']' (compactAll items) := by
  rw [compact]
  rfl

theorem compact_object (members : List (String × Json)) :
    (Json.object members).compact = enclosed '\x7b' '\x7d' (compactMembers members) := by
  rw [compact]
  rfl

theorem reads_array {texts : List String} {items : List Json}
    (read : List.Forall₂ (Reads (readValue depth)) (texts.map String.toList) items) :
    Reads (readValue (depth + 1)) (enclosed '[' ']' texts).toList (.array items) := by
  intro rest ends
  have found := readSequence_intercalate (by decide) (readValue_closes depth) read rest
  rw [toList_enclosed, List.cons_append, List.append_assoc]
  simp [readValue, found]

theorem reads_object {texts : List String} {members : List (String × Json)}
    (read : List.Forall₂ (Reads (readMember (readValue depth))) (texts.map String.toList) members) :
    Reads (readValue (depth + 1)) (enclosed '\x7b' '\x7d' texts).toList (.object members) := by
  intro rest ends
  have found := readSequence_intercalate (by decide) (readMember_closes (readValue depth)) read rest
  rw [toList_enclosed, List.cons_append, List.append_assoc]
  simp [readValue, found]

/-- What stands between brackets is shorter than with them. -/
theorem length_lt_of_mem {opens closes : Char} {texts : List String} {part : String} (member : part ∈ texts)
    (deep : (enclosed opens closes texts).toList.length ≤ depth) : part.toList.length < depth := by
  have inside := length_le_of_mem (List.mem_map_of_mem (f := String.toList) member)
  rw [toList_enclosed, List.length_cons, List.length_append] at deep
  omega

/-- For a text that is shorter than a depth, the depth is not zero. -/
theorem reads_of_succ {value : Json} (deep : text.length < depth)
    (read : ∀ depth, text.length ≤ depth → Reads (readValue (depth + 1)) text value) :
    Reads (readValue depth) text value := by
  cases depth with
  | zero => exact absurd deep (Nat.not_lt_zero _)
  | succ depth => exact read depth (Nat.lt_succ_iff.mp deep)

mutual

/-- The text of a value reads as this value. -/
theorem reads_compact : (value : Json) → ∀ depth, value.compact.toList.length ≤ depth →
    Reads (readValue (depth + 1)) value.compact.toList value
  | .null => fun depth _ => by
    rw [compact]
    exact reads_scalar (fun _ _ => rfl) depth
  | .flag true => fun depth _ => by
    rw [compact]
    exact reads_scalar (fun _ _ => rfl) depth
  | .flag false => fun depth _ => by
    rw [compact]
    exact reads_scalar (fun _ _ => rfl) depth
  | .number value => fun depth _ => by
    rw [compact]
    exact reads_scalar (reads_number value) depth
  | .text value => fun depth _ => by
    rw [compact]
    exact reads_text value depth
  | .array items => fun depth deep => by
    rw [compact_array] at deep ⊢
    exact reads_array (reads_compactAll items depth fun _ member => length_lt_of_mem member deep)
  | .object members => fun depth deep => by
    rw [compact_object] at deep ⊢
    exact reads_object (reads_compactMembers members depth fun _ member => length_lt_of_mem member deep)

theorem reads_compactAll : (items : List Json) → ∀ depth, (∀ text ∈ compactAll items, text.toList.length < depth) →
    List.Forall₂ (Reads (readValue depth)) ((compactAll items).map String.toList) items
  | [] => fun _ _ => .nil
  | item :: rest => fun depth deep =>
    .cons (reads_of_succ (deep _ List.mem_cons_self) (reads_compact item))
      (reads_compactAll rest depth fun text member => deep text (List.mem_cons_of_mem _ member))

theorem reads_compactMembers : (members : List (String × Json)) → ∀ depth,
    (∀ text ∈ compactMembers members, text.toList.length < depth) →
      List.Forall₂ (Reads (readMember (readValue depth))) ((compactMembers members).map String.toList) members
  | [] => fun _ _ => .nil
  | (name, value) :: rest => fun depth deep => by
    have written : (string name ++ ":" ++ value.compact).toList =
        (string name).toList ++ ':' :: value.compact.toList := by simp
    have here := deep _ List.mem_cons_self
    rw [written, List.length_append, List.length_cons] at here
    have short : value.compact.toList.length < depth := by omega
    have member := reads_member name (reads_of_succ short (reads_compact value))
    rw [← written] at member
    exact .cons member (reads_compactMembers rest depth fun text inside => deep text (List.mem_cons_of_mem _ inside))

end

/-- What is written for a value reads as this value. -/
theorem read?_compact (value : Json) : read? value.compact = some value := by
  have read := reads_compact value _ (Nat.le_refl _) [] (by simp)
  rw [List.append_nil] at read
  rw [read?, read]

example : read? "\x7b\"a\":[1,-2,\"\\n\\u0001\"],\"b\":null\x7d" =
    some (.object [("a", .array [.number 1, .number (-2), .text "\n\x01"]), ("b", .null)]) := by
  rfl

end ServiceHost.Json

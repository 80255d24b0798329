import ServiceHost.Proofs.Redaction.Grammar

/-!
Forms of secrets: the grammars of header lines, members and parameters, and that the patterns read them.
Runs of characters are as long as they can be, so that each form determines its parts.
-/

namespace ServiceHost.Redaction

/-- A text does not go on with a character of a kind. -/
def Stops (kind : Char → Bool) (text : List Char) : Prop :=
  ∀ c ∈ text.head?, kind c = false

section Runs

variable {kind : Char → Bool} {c : Char} {front back others more text : List Char}

theorem stops_cons : Stops kind (c :: back) ↔ kind c = false := by simp [Stops]

theorem run_takeWhile : ∀ c ∈ text.takeWhile kind, kind c :=
  List.all_eq_true.mp List.all_takeWhile

theorem stops_dropWhile : Stops kind (text.dropWhile kind) := by
  intro c head
  have stays := List.head?_dropWhile_not kind text
  rw [Option.mem_def.mp head] at stays
  simpa using stays

theorem takeWhile_run (run : ∀ c ∈ front, kind c) (stops : Stops kind back) :
    (front ++ back).takeWhile kind = front := by
  rw [List.takeWhile_append_of_pos run]
  cases back with
  | nil => simp
  | cons c back => rw [List.takeWhile_cons_of_neg (by simp [stops_cons.mp stops]), List.append_nil]

theorem dropWhile_run (run : ∀ c ∈ front, kind c) (stops : Stops kind back) :
    (front ++ back).dropWhile kind = back := by
  rw [List.dropWhile_append_of_pos run]
  cases back with
  | nil => simp
  | cons c back => rw [List.dropWhile_cons_of_neg (by simp [stops_cons.mp stops])]

/-- A text starts with a run that is as long as it can be. -/
theorem exists_run (kind : Char → Bool) (text : List Char) :
    ∃ front back, text = front ++ back ∧ (∀ c ∈ front, kind c) ∧ Stops kind back :=
  ⟨_, _, (List.takeWhile_append_dropWhile (p := kind)).symm, run_takeWhile, stops_dropWhile⟩

/-- A run ends at one place only. -/
theorem run_unique (run : ∀ c ∈ front, kind c) (stops : Stops kind back) (runs : ∀ c ∈ others, kind c)
    (stop : Stops kind more) (same : front ++ back = others ++ more) : front = others ∧ back = more := by
  have fronts := congrArg (List.takeWhile kind) same
  have backs := congrArg (List.dropWhile kind) same
  rw [takeWhile_run run stops, takeWhile_run runs stop] at fronts
  rw [dropWhile_run run stops, dropWhile_run runs stop] at backs
  exact ⟨fronts, backs⟩

end Runs

section Letters

variable {c : Char}

theorem isNameChar_cases (letter : isNameChar c) :
    c.isAlpha ∨ c = '_' ∨ c = '\u212A' ∨ c = '\u017F' := by
  simp only [isNameChar, Text.folded] at letter
  split at letter
  · rename_i upper
    exact .inl (Bool.or_eq_true_iff.mpr (.inl upper))
  · split at letter
    · exact .inr (.inr (.inl ‹_›))
    · split at letter
      · exact .inr (.inr (.inr ‹_›))
      · rcases Bool.or_eq_true_iff.mp letter with lower | underscore
        · exact .inl (Bool.or_eq_true_iff.mpr (.inr lower))
        · exact .inr (.inl (eq_of_beq underscore))

theorem isWord_of_isNameChar (letter : isNameChar c) : Text.isWord c := by
  rcases isNameChar_cases letter with alpha | rfl | rfl | rfl
  · have bounds := Text.toNat_of_isAlpha alpha
    exact Text.isWord_of_isAlphanum (by omega) (by simp [Char.isAlphanum, alpha])
  · decide
  · decide +kernel
  · decide +kernel

end Letters

/-- The names of secrets: letters and underscores, of which the last ones are a secret word. -/
inductive SecretName : List Char → Prop where
  | intro {stem word : List Char} (letters : ∀ c ∈ stem, isNameChar c)
      (secret : word.map Text.folded ∈ secretWords) : SecretName (stem ++ word)

theorem isNameChar_of_mem_secretWord : ∀ word ∈ secretWords, ∀ c ∈ word, c.isLower || c == '_' := by
  have every : secretWords.all fun word => word.all fun c => c.isLower || c == '_' := by decide
  simpa only [List.all_eq_true] using every

theorem SecretName.isNameChar {name : List Char} (secret : SecretName name) :
    ∀ c ∈ name, isNameChar c := by
  obtain ⟨letters, secret⟩ := secret
  intro c member
  rcases List.mem_append.mp member with inStem | inWord
  · exact letters c inStem
  · exact isNameChar_of_mem_secretWord _ secret _ (List.mem_map_of_mem inWord)

theorem SecretName.not_mem {name : List Char} {c : Char} (secret : SecretName name)
    (noName : Redaction.isNameChar c = false) : c ∉ name := by
  intro member
  rw [secret.isNameChar c member] at noName
  cases noName

theorem SecretName.ne_nil {name : List Char} (secret : SecretName name) : name ≠ [] := by
  obtain ⟨letters, secret⟩ := secret
  rintro empty
  obtain ⟨rfl, rfl⟩ := List.append_eq_nil_iff.mp empty
  exact absurd secret (by decide)

/-- A run of name characters is the name of a secret if it ends with a secret word. -/
theorem secretName_iff {name : List Char} (letters : ∀ c ∈ name, isNameChar c) :
    SecretName name ↔ isSecretName name := by
  rw [isSecretName, List.any_eq_true]
  constructor
  · rintro ⟨_, secret⟩
    refine ⟨_, secret, ?_⟩
    simp [Text.foldsTo]
  · rintro ⟨word, secret, ends⟩
    have split := List.take_append_drop (name.length - word.length) name
    exact split ▸ .intro (fun c member => letters c (List.mem_of_mem_take member))
      ((eq_of_beq ends).symm ▸ secret)

theorem isGap_iff {c : Char} : isGap c ↔ c = ' ' ∨ c = '\t' := by simp [isGap]

theorem not_mem_gap {gap : List Char} {c : Char} (gaps : ∀ c ∈ gap, isGap c) (noGap : isGap c = false) :
    c ∉ gap := by
  intro member
  rw [gaps c member] at noGap
  cases noGap

namespace HeaderLine

/-- The name of a secret header, and the gap between it and its colon. -/
structure Opening (name gap : List Char) : Prop where
  secret : name.map Text.folded ∈ secretHeaders
  gaps : ∀ c ∈ gap, isGap c

/-- A header line as it is written. -/
def written (name gap behind : List Char) : List Char :=
  name ++ (gap ++ ':' :: behind)

/-- The line of a secret header: its value runs up to the end of the line. -/
inductive Match : Option Char → Occurrence → List Char → Prop where
  | intro {previous : Option Char} {name gap value rest : List Char} (starts : startsLine previous)
      (opening : Opening name gap) (valued : ∀ c ∈ value, isValueChar c) (ends : Stops isValueChar rest) :
      Match previous ⟨written name gap value, written name [] (' ' :: mark)⟩ rest

/-- Characters that stand in no name of a secret header. -/
def separators : List Char := [' ', '\t', ':', '\n', '\r', '"', '=']

/-- A character that may stand in the name of a secret header. -/
def isHeaderChar (c : Char) : Bool := !separators.contains c

variable {previous : Option Char} {c : Char} {text header name gap names gaps value rest others : List Char}
  {found : Found}

theorem written_append : written name gap value ++ rest = written name gap (value ++ rest) := by
  simp [written]

theorem separator_not_mem_header :
    ∀ c ∈ separators, ∀ header ∈ secretHeaders, Text.folded c ∉ header := by
  have every : separators.all fun c => secretHeaders.all fun header => Text.folded c ∉ header := by decide
  simpa only [List.all_eq_true, decide_eq_true_eq] using every

theorem separator_of_isGap (gap : isGap c) : c ∈ separators := by
  rcases isGap_iff.mp gap with rfl | rfl <;> decide

theorem Opening.separator_not_mem (opening : Opening name gap) (separator : c ∈ separators) : c ∉ name :=
  fun member => separator_not_mem_header c separator _ opening.secret (List.mem_map_of_mem member)

theorem Opening.isHeaderChar (opening : Opening name gap) : ∀ c ∈ name, isHeaderChar c := by
  intro c member
  by_contra separator
  exact opening.separator_not_mem (by simpa [HeaderLine.isHeaderChar] using separator) member

theorem Opening.stops_name (opening : Opening name gap) : Stops HeaderLine.isHeaderChar (gap ++ ':' :: rest) := by
  cases gap with
  | nil => exact stops_cons.mpr (by decide)
  | cons c gap =>
    have separator := separator_of_isGap (opening.gaps c (by simp))
    exact stops_cons.mpr (by simpa [HeaderLine.isHeaderChar] using separator)

theorem stops_gap : Stops isGap (':' :: rest) :=
  stops_cons.mpr (by decide)

/-- A text opens with at most one header line. -/
theorem Opening.unique (opening : Opening name gap) (other : Opening names gaps)
    (same : written name gap rest = written names gaps others) :
    name = names ∧ gap = gaps ∧ rest = others := by
  obtain ⟨rfl, behindName⟩ :=
    run_unique opening.isHeaderChar opening.stops_name other.isHeaderChar other.stops_name same
  obtain ⟨rfl, behindGap⟩ := run_unique opening.gaps stops_gap other.gaps stops_gap behindName
  exact ⟨rfl, rfl, (List.cons.inj behindGap).2⟩

theorem Opening.findNamed (opening : Opening name gap) :
    findNamed (written name gap rest) (name.map Text.folded) =
      some ⟨written name [] (' ' :: mark), name.length + gap.length + (rest.takeWhile isValueChar).length⟩ := by
  simp [HeaderLine.findNamed, written, takeWhile_run opening.gaps stops_gap,
    dropWhile_run opening.gaps stops_gap, Text.foldsTo]

theorem exists_opening (secret : header ∈ secretHeaders) (finds : findNamed text header = some found) :
    ∃ name gap rest, text = written name gap rest ∧ name.map Text.folded = header ∧ Opening name gap := by
  simp only [findNamed] at finds
  split at finds
  · rename_i rest behind
    obtain ⟨named, _⟩ := Option.ite_none_right_eq_some.mp finds
    have folds : (text.take header.length).map Text.folded = header := eq_of_beq named
    refine ⟨text.take header.length, (text.drop header.length).takeWhile isGap, rest, ?_, folds,
      folds.symm ▸ secret, run_takeWhile⟩
    rw [written, ← behind, List.takeWhile_append_dropWhile, List.take_append_drop]
  · cases finds

/-- The pattern finds the header line that a text opens with. -/
theorem Opening.pattern (opening : Opening name gap) (starts : startsLine previous) :
    pattern previous (written name gap rest) =
      some ⟨written name [] (' ' :: mark), name.length + gap.length + (rest.takeWhile isValueChar).length⟩ := by
  rw [HeaderLine.pattern, if_pos starts]
  cases finds : secretHeaders.findSome? (HeaderLine.findNamed (written name gap rest)) with
  | none =>
    have missed := List.findSome?_eq_none_iff.mp finds _ opening.secret
    rw [opening.findNamed] at missed
    cases missed
  | some found =>
    obtain ⟨header, member, finds⟩ := List.exists_of_findSome?_eq_some finds
    obtain ⟨names, gaps, others, split, rfl, other⟩ := exists_opening member finds
    obtain ⟨rfl, rfl, rfl⟩ := opening.unique other split
    rw [← finds, opening.findNamed]

theorem Opening.exists_match (opening : Opening name gap) (starts : startsLine previous)
    (behind : List Char) :
    ∃ occurrence rest, written name gap behind = occurrence.piece ++ rest ∧ Match previous occurrence rest := by
  obtain ⟨value, rest, rfl, valued, ends⟩ := exists_run isValueChar behind
  exact ⟨_, rest, written_append.symm, .intro starts opening valued ends⟩

/-- The pattern of header lines reads header lines. -/
theorem reads : HeaderLine.pattern.Reads Match where
  nonempty := by
    rintro previous _ rest ⟨⟩
    simp [written]
  finds := by
    rintro previous _ rest ⟨starts, opening, valued, ends⟩
    rename_i name gap value
    rw [written_append, opening.pattern starts, takeWhile_run valued ends]
    simp [written, ← Nat.add_assoc]
  found := by
    intro previous text found finds
    obtain ⟨starts, finds⟩ := Option.ite_none_right_eq_some.mp finds
    obtain ⟨header, member, finds⟩ := List.exists_of_findSome?_eq_some finds
    obtain ⟨name, gap, rest, rfl, _, opening⟩ := exists_opening member finds
    exact opening.exists_match starts rest

end HeaderLine

namespace Member

/-- The name of a secret member, and the gaps on the two sides of its colon. -/
structure Opening (name before after : List Char) : Prop where
  secret : SecretName name
  before : ∀ c ∈ before, isGap c
  after : ∀ c ∈ after, isGap c

/-- A member as it is written up to the quote that opens its value. -/
def written (name before after behind : List Char) : List Char :=
  '"' :: (name ++ '"' :: (before ++ ':' :: (after ++ '"' :: behind)))

/-- A member with a secret name: its value runs up to the next quote. -/
inductive Match : Option Char → Occurrence → List Char → Prop where
  | intro {previous : Option Char} {name before after value rest : List Char}
      (opening : Opening name before after) (unquoted : '"' ∉ value) :
      Match previous
        ⟨written name before after (value ++ ['"']), written name [] [] (mark ++ ['"'])⟩ rest

variable {previous : Option Char} {c : Char} {text name before after value rest behind : List Char}
  {found : Found}

theorem written_append : written name before after value ++ rest = written name before after (value ++ rest) := by
  simp [written]

theorem stops_quote : Stops isNameChar ('"' :: rest) := stops_cons.mpr (by decide)

theorem stops_before : Stops isGap (':' :: rest) := stops_cons.mpr (by decide)

theorem stops_after : Stops isGap ('"' :: rest) := stops_cons.mpr (by decide)

/-- A value ends at the next quote. -/
theorem run_value (unquoted : '"' ∉ value) : ∀ c ∈ value, c != '"' := by
  intro c member
  exact bne_iff_ne.mpr fun same => unquoted (same ▸ member)

theorem stops_value : Stops (· != '"') ('"' :: rest) := stops_cons.mpr (by decide)

theorem Opening.find (opening : Opening name before after) (unquoted : '"' ∉ value) :
    find (written name before after (value ++ '"' :: rest)) =
      some ⟨written name [] [] (mark ++ ['"']),
        (written name before after (value ++ ['"'])).length - 1⟩ := by
  have secret := (secretName_iff opening.secret.isNameChar).mp opening.secret
  simp [Member.find, valueLength?, written, secret, takeWhile_run opening.secret.isNameChar stops_quote,
    dropWhile_run opening.secret.isNameChar stops_quote, takeWhile_run opening.before stops_before,
    dropWhile_run opening.before stops_before, takeWhile_run opening.after stops_after,
    dropWhile_run opening.after stops_after, takeWhile_run (run_value unquoted) stops_value,
    dropWhile_run (run_value unquoted) stops_value]
  omega

theorem exists_value {length : Nat} (finds : valueLength? text = some length) :
    ∃ after behind, text = after ++ '"' :: behind ∧ (∀ c ∈ after, isGap c) ∧ '"' ∈ behind := by
  obtain ⟨after, behind, rfl, gaps, ends⟩ := exists_run isGap text
  rw [valueLength?, takeWhile_run gaps ends, dropWhile_run gaps ends] at finds
  split at finds
  · rename_i rest
    obtain ⟨value, back, rfl, valued, stops⟩ := exists_run (· != '"') rest
    rw [dropWhile_run valued stops] at finds
    cases back with
    | nil => cases finds
    | cons c rest =>
      obtain rfl : c = '"' := by simpa using stops_cons.mp stops
      exact ⟨after, _, rfl, gaps, by simp⟩
  · cases finds

theorem exists_opening (finds : find text = some found) :
    ∃ name before after behind, text = written name before after behind ∧
      Opening name before after ∧ '"' ∈ behind := by
  unfold find at finds
  split at finds
  · rename_i inside
    obtain ⟨name, behindName, rfl, letters, ends⟩ := exists_run isNameChar inside
    rw [takeWhile_run letters ends, dropWhile_run letters ends] at finds
    split at finds
    · rename_i behind
      obtain ⟨before, behindGap, rfl, gaps, stops⟩ := exists_run isGap behind
      rw [takeWhile_run gaps stops, dropWhile_run gaps stops] at finds
      split at finds
      · rename_i rest
        obtain ⟨secret, finds⟩ := Option.ite_none_right_eq_some.mp finds
        obtain ⟨length, valued, _⟩ := Option.map_eq_some_iff.mp finds
        obtain ⟨after, behind, rfl, afterGaps, quoted⟩ := exists_value valued
        exact ⟨name, before, after, behind, rfl, ⟨(secretName_iff letters).mpr secret, gaps, afterGaps⟩, quoted⟩
      · cases finds
    · cases finds
  · cases finds

theorem written_eq_append :
    written name before after value = '"' :: (name ++ '"' :: (before ++ ':' :: after)) ++ '"' :: value := by
  simp [written]

theorem Opening.equals_not_mem (opening : Opening name before after) :
    '=' ∉ '"' :: (name ++ '"' :: (before ++ ':' :: after)) ++ ['"'] := by
  have inName : '=' ∉ name := opening.secret.not_mem (by decide)
  have inBefore : '=' ∉ before := not_mem_gap opening.before (by decide)
  have inAfter : '=' ∉ after := not_mem_gap opening.after (by decide)
  simp [inName, inBefore, inAfter]

theorem Opening.quote_not_mem (opening : Opening name before after) : '"' ∉ before ++ ':' :: after := by
  have inBefore : '"' ∉ before := not_mem_gap opening.before (by decide)
  have inAfter : '"' ∉ after := not_mem_gap opening.after (by decide)
  simp [inBefore, inAfter]

/-- Behind its name a member goes on with no name. -/
theorem Opening.stops_name (opening : Opening name before after) : Stops isNameChar (before ++ ':' :: rest) := by
  obtain ⟨_, gaps, _⟩ := opening
  cases before with
  | nil => exact stops_cons.mpr (by decide)
  | cons c before =>
    rcases isGap_iff.mp (gaps c (by simp)) with rfl | rfl
    · exact stops_cons.mpr (by decide)
    · exact stops_cons.mpr (by decide)

theorem Opening.exists_match (opening : Opening name before after) (previous : Option Char)
    (quoted : '"' ∈ behind) :
    ∃ occurrence rest, written name before after behind = occurrence.piece ++ rest ∧
      Match previous occurrence rest := by
  obtain ⟨value, rest, rfl, unquoted⟩ := List.eq_append_cons_of_mem quoted
  exact ⟨_, rest, by simp [written_append], .intro opening unquoted⟩

/-- The pattern of members reads members. -/
theorem reads : Member.pattern.Reads Match where
  nonempty := by
    rintro previous _ rest ⟨⟩
    simp [written]
  finds := by
    rintro previous _ rest ⟨opening, unquoted⟩
    simpa [Member.pattern, written_append] using opening.find unquoted
  found := by
    intro previous text found finds
    obtain ⟨name, before, after, behind, rfl, opening, quoted⟩ := exists_opening finds
    exact opening.exists_match previous quoted

end Member

namespace Parameter

/-- A parameter as it is written. -/
def written (name behind : List Char) : List Char :=
  name ++ '=' :: behind

/-- A parameter with a secret name: its name starts at a word boundary, and its value is as long as it can
be. -/
inductive Match : Option Char → Occurrence → List Char → Prop where
  | intro {previous : Option Char} {name value rest : List Char} (secret : SecretName name)
      (bounded : Text.isBoundary previous name.head?) (valued : ∀ c ∈ value, isValueChar c)
      (ends : Stops isValueChar rest) :
      Match previous ⟨written name value, written name mark⟩ rest

variable {previous : Option Char} {c : Char} {text name value rest : List Char} {found : Found}

theorem isValueChar_of_isNameChar (letter : isNameChar c) : isValueChar c := by
  rcases isNameChar_cases letter with alpha | rfl | rfl | rfl
  · have bounds := Text.toNat_of_isAlpha alpha
    have noBlank : Text.isBlank c = false := by
      simp [Text.isBlank, Text.within, Text.blankRanges]
      omega
    have noAmpersand : c ≠ '&' := by
      rintro rfl
      cases alpha
    simp [isValueChar, noBlank, noAmpersand]
  · decide
  · decide
  · decide

theorem written_append : written name value ++ rest = written name (value ++ rest) := by
  simp [written]

theorem stops_name : Stops isNameChar ('=' :: rest) := stops_cons.mpr (by decide)

theorem find_written (secret : SecretName name) (valued : ∀ c ∈ value, isValueChar c)
    (ends : Stops isValueChar rest) :
    find (written name (value ++ rest)) = some ⟨written name mark, (written name value).length - 1⟩ := by
  have named := (secretName_iff secret.isNameChar).mp secret
  simp [find, written, named, takeWhile_run secret.isNameChar stops_name,
    dropWhile_run secret.isNameChar stops_name, takeWhile_run valued ends]

theorem head?_written (secret : SecretName name) : (written name rest).head? = name.head? := by
  obtain ⟨c, letters, rfl⟩ := List.exists_cons_of_ne_nil secret.ne_nil
  rfl

theorem exists_written (finds : find text = some found) :
    ∃ name value rest, text = written name (value ++ rest) ∧ SecretName name ∧
      (∀ c ∈ value, isValueChar c) ∧ Stops isValueChar rest := by
  obtain ⟨name, behind, rfl, letters, ends⟩ := exists_run isNameChar text
  rw [find, takeWhile_run letters ends, dropWhile_run letters ends] at finds
  split at finds
  · rename_i behind
    obtain ⟨secret, _⟩ := Option.ite_none_right_eq_some.mp finds
    obtain ⟨value, rest, rfl, valued, stops⟩ := exists_run isValueChar behind
    exact ⟨name, value, rest, rfl, (secretName_iff letters).mpr secret, valued, stops⟩
  · cases finds

/-- The pattern of parameters reads parameters. -/
theorem reads : Parameter.pattern.Reads Match where
  nonempty := by
    rintro previous _ rest ⟨⟩
    simp [written]
  finds := by
    rintro previous _ rest ⟨secret, bounded, valued, ends⟩
    rw [written_append, Parameter.pattern, head?_written secret, if_pos bounded,
      find_written secret valued ends]
  found := by
    intro previous text found finds
    obtain ⟨bounded, finds⟩ := Option.ite_none_right_eq_some.mp finds
    obtain ⟨name, value, rest, rfl, secret, valued, ends⟩ := exists_written finds
    rw [head?_written secret] at bounded
    exact ⟨_, rest, written_append.symm, .intro secret bounded valued ends⟩

end Parameter

end ServiceHost.Redaction

import ServiceHost.Proofs.Json.Document
import ServiceHost.Proofs.Redaction.Fragments
import ServiceHost.Proofs.Redaction.Headers

/-!
Documents under the patterns of secrets. No line of a document reads as a header line. Strings follow separators
and never letters, so that no member is left open behind a string, and in front of a member of an object no other
one has started.
-/

namespace ServiceHost

open Json

namespace Redaction.HeaderLine

/-- The first character of the name of a secret header. -/
def isInitial (c : Char) : Bool :=
  secretHeaders.any fun name => name.head? == some (Text.folded c)

/-- No line of a text starts like a secret header. -/
def Still (text : List Char) : Prop :=
  ∀ front back, text = front ++ back → startsLine front.getLast? → Stops isInitial back

variable {previous : Option Char} {text other : List Char}

theorem quiet_of_stops (stops : Stops isInitial text) : Grammar.Quiet Match previous text := by
  intro occurrence rest split here
  cases here with
  | @intro name gap value _ _ opening _ _ =>
    have nonempty : ∀ header ∈ secretHeaders, header ≠ [] := by decide
    cases name with
    | nil => exact nonempty _ opening.secret rfl
    | cons c name =>
      have initial : isInitial c := List.any_eq_true.mpr ⟨_, opening.secret, by simp⟩
      rw [stops c (by simp [split, written])] at initial
      cases initial

theorem Still.append (first : Still text) (second : Still other) : Still (text ++ other) := by
  intro front back split starts
  rcases List.append_eq_append_iff.mp split with ⟨more, rfl, rfl⟩ | ⟨more, rfl, rfl⟩
  · cases more with
    | nil => exact second [] back rfl rfl
    | cons c more =>
      rw [List.getLast?_append_of_ne_nil _ (List.cons_ne_nil c more)] at starts
      exact second (c :: more) back rfl starts
  · cases more with
    | nil => exact second [] other rfl rfl
    | cons c more => exact fun d head => first front (c :: more) rfl starts d head

theorem still_of_forall (plain : ∀ c ∈ text, isInitial c = false) : Still text := by
  rintro front back rfl _ c head
  exact plain c (List.mem_append_right front (List.mem_of_mem_head? head))

theorem still_of_inLine (inLine : '\n' ∉ text) (stops : Stops isInitial text) : Still text := by
  rintro front back rfl starts
  cases front with
  | nil => exact stops
  | cons c front =>
    have inFront : '\n' ∉ c :: front := fun member => inLine (List.mem_append_left back member)
    rw [startsLine_getLast? inFront (List.cons_ne_nil c front)] at starts
    cases starts

/-- A text no line of which starts like a secret header is left as it is behind a line feed. -/
theorem mask_still (still : Still text) : pattern.mask (some '\n') text = text := by
  have behind (front back : List Char) (split : text = front ++ back) :
      Grammar.Masked Match (front.getLast?.or (some '\n')) back := by
    induction back generalizing front with
    | nil => exact .done
    | cons c back inductionHypothesis =>
      have later := inductionHypothesis (front ++ [c]) (by simpa using split)
      refine .skip ?_ (by simpa using later)
      cases starts : startsLine (front.getLast?.or (some '\n')) with
      | false => exact quiet_of_inLine starts
      | true =>
        apply quiet_of_stops
        apply still front (c :: back) split
        cases last : front.getLast? with
        | none => rfl
        | some d => simpa [last] using starts
  exact reads.mask_eq_of_masked (behind [] text rfl)

theorem still_layout (layout : Layout text) : Still text := by
  apply still_of_forall
  intro c member
  have kinds := layout c member
  simp only [isLayout, Bool.or_eq_true, beq_iff_eq, or_assoc] at kinds
  rcases kinds with rfl | rfl | rfl | rfl <;> decide

theorem still_quoted (legal : Content text) : Still (quoted text) := by
  apply still_of_inLine
  · simp [quoted, legal.feed_not_mem]
  · exact stops_cons.mpr (by decide)

theorem still_scalar (scalar : Scalar text) : Still text := by
  cases scalar with
  | literal known =>
    have every : ∀ literal ∈ ["null", "true", "false"].map String.toList,
        '\n' ∉ literal ∧ literal.head?.all fun c => !isInitial c := by decide
    obtain ⟨inLine, plain⟩ := every text known
    apply still_of_inLine inLine
    intro c head
    rw [Option.mem_def.mp head] at plain
    simpa using plain
  | number number =>
    have every : numerals.all fun c => !isInitial c := by decide
    apply still_of_forall
    intro c member
    simpa using List.all_eq_true.mp every c (number.mem_numerals c member)
  | string legal => exact still_quoted legal

theorem still_singleton {c : Char} (plain : isInitial c = false) : Still [c] :=
  still_of_forall fun _ member => List.mem_singleton.mp member ▸ plain

/-- No line of a document reads as a header line. -/
theorem still_phrase {kind : Kind} (phrase : Phrase kind text) : Still text := by
  have brackets (bracket : Bracket) : Still [bracket.opens] ∧ Still [bracket.closes] := by
    cases bracket <;> exact ⟨still_singleton (by decide), still_singleton (by decide)⟩
  induction phrase with
  | scalar lead scalar trail =>
    exact (still_layout lead).append ((still_scalar scalar).append (still_layout trail))
  | empty bracket lead blank trail =>
    obtain ⟨opens, closes⟩ := brackets bracket
    exact (still_layout lead).append
      (opens.append ((still_layout blank).append (closes.append (still_layout trail))))
  | @full bracket _ _ _ lead _ trail inside =>
    obtain ⟨opens, closes⟩ := brackets bracket
    exact (still_layout lead).append (opens.append (inside.append (closes.append (still_layout trail))))
  | item _ inside => exact inside
  | member lead legal trail _ value =>
    have colon : Still [':'] := still_singleton (by decide)
    exact (still_layout lead).append
      ((still_quoted legal).append ((still_layout trail).append (colon.append value)))
  | last _ inside => exact inside
  | more _ _ entry behind =>
    have comma : Still [','] := still_singleton (by decide)
    exact entry.append (comma.append behind)

end Redaction.HeaderLine

namespace Redaction.Member

/-- No letter and no underscore ends a text. -/
def Unlettered (text : List Char) : Prop :=
  ∀ c ∈ text.getLast?, isNameChar c = false

/-- Behind a text that no letter ends, a text ends in the middle of no member, unless the other one does and
it has no quote to end it. -/
def Closes (text : List Char) : Prop :=
  ∀ front, Unlettered front → ¬EndsOpen front ∨ '"' ∈ text → ¬EndsOpen (front ++ text)

variable {text other front back lead content name before after : List Char}

theorem Unlettered.append (first : Unlettered text) (second : Unlettered other) : Unlettered (text ++ other) := by
  intro c last
  rw [List.getLast?_append, Option.mem_def, Option.or_eq_some_iff] at last
  rcases last with last | ⟨_, last⟩
  · exact second c last
  · exact first c last

theorem unlettered_of_getLast? {c : Char} (last : text.getLast? = some c) (noName : isNameChar c = false) :
    Unlettered text := by
  intro d there
  rw [last, Option.mem_def, Option.some.injEq] at there
  exact there ▸ noName

/-- Without a quote nothing new is left open. -/
theorem EndsOpen.of_append (ends : EndsOpen (front ++ text)) (unquoted : '"' ∉ text) : EndsOpen front := by
  obtain ⟨stem, name, before, after, value, split, opening, noQuote⟩ := ends
  rw [written_eq_append, ← List.append_assoc] at split
  rcases List.append_eq_append_iff.mp split with ⟨more, _, text_eq⟩ | ⟨more, front_eq, value_eq⟩
  · exact absurd (text_eq ▸ by simp) unquoted
  · cases more with
    | nil =>
      rw [List.nil_append] at value_eq
      exact absurd (value_eq ▸ List.mem_cons_self) unquoted
    | cons c more =>
      obtain ⟨rfl, rfl⟩ := List.cons.inj value_eq
      refine ⟨stem, name, before, after, more, ?_, opening, fun member => noQuote (by simp [member])⟩
      rw [front_eq, written_eq_append, List.append_assoc]

theorem closes_of_unquoted (unquoted : '"' ∉ text) : Closes text :=
  fun _ _ closed ends => closed.resolve_right unquoted (ends.of_append unquoted)

/-- A member does not end in the middle where a string has just ended: a letter stands before its second quote,
and before a quote of the string a backslash or no letter. -/
theorem closes_quoted (legal : Content text) : Closes (quoted text) := by
  rintro front unlettered _ ⟨stem, name, before, after, value, split, opening, noQuote⟩
  have whole : (front ++ '"' :: text) ++ '"' :: [] =
      (stem ++ '"' :: (name ++ '"' :: (before ++ ':' :: after))) ++ '"' :: value := by
    simpa [quoted, written] using split
  obtain ⟨inside, _⟩ := last_quote_unique List.not_mem_nil noQuote whole
  obtain ⟨letters, letter, rfl, isLetter⟩ := opening.secret.exists_last
  have second : front ++ '"' :: text = (stem ++ '"' :: letters ++ [letter]) ++ '"' :: (before ++ ':' :: after) := by
    simpa using inside
  by_cases escaped : '"' ∈ text
  · obtain ⟨start, rest, text_eq, unquoted⟩ := exists_last escaped
    have backslash := legal.getLast?_of_quote text_eq
    have third : (front ++ '"' :: start) ++ '"' :: rest =
        (stem ++ '"' :: letters ++ [letter]) ++ '"' :: (before ++ ':' :: after) := by
      simpa [text_eq] using second
    obtain ⟨fronts, _⟩ := last_quote_unique unquoted opening.quote_not_mem third
    have last := congrArg List.getLast? fronts
    rw [List.getLast?_append_cons, List.getLast?_cons, backslash, List.getLast?_concat] at last
    obtain rfl : '\\' = letter := by simpa using last
    cases isLetter
  · obtain ⟨front_eq, _⟩ := last_quote_unique escaped opening.quote_not_mem second
    have last : front.getLast? = some letter := by rw [front_eq, List.getLast?_concat]
    have noLetter := unlettered letter last
    rw [isLetter] at noLetter
    cases noLetter

theorem Closes.append (first : Closes text) (unlettered : Unlettered text) (second : Closes other) :
    Closes (text ++ other) := by
  intro front ends closed
  rw [← List.append_assoc]
  apply second (front ++ text) (ends.append unlettered)
  by_cases quoted : '"' ∈ text
  · exact .inl (first front ends (.inr quoted))
  · rcases closed with closed | quotes
    · exact .inl (first front ends (.inl closed))
    · exact .inr ((List.mem_append.mp quotes).resolve_left quoted)

theorem Closes.append_unquoted (first : Closes text) (unquoted : '"' ∉ other) : Closes (text ++ other) := by
  intro front ends closed
  rw [← List.append_assoc]
  intro opens
  apply first front ends
  · exact closed.imp_right fun member => (List.mem_append.mp member).resolve_right unquoted
  · exact opens.of_append unquoted

theorem layout_facts (layout : Layout text) : '"' ∉ text ∧ Unlettered text := by
  have kinds : ∀ c, isLayout c → c ≠ '"' ∧ isNameChar c = false := by
    intro c kind
    simp only [isLayout, Bool.or_eq_true, beq_iff_eq, or_assoc] at kind
    rcases kind with rfl | rfl | rfl | rfl <;> decide
  refine ⟨fun member => (kinds _ (layout _ member)).1 rfl, fun c last => ?_⟩
  exact (kinds c (layout c (List.mem_of_getLast? last))).2

theorem closes_scalar (scalar : Scalar text) : Closes text := by
  cases scalar with
  | literal known =>
    have every : ∀ literal ∈ ["null", "true", "false"].map String.toList, '"' ∉ literal := by decide
    exact closes_of_unquoted (every text known)
  | number number =>
    apply closes_of_unquoted
    intro member
    have numeral := number.mem_numerals _ member
    revert numeral
    decide
  | string legal => exact closes_quoted legal

theorem unlettered_quoted : Unlettered (quoted content) :=
  unlettered_of_getLast? (by rw [quoted, ← List.cons_append, List.getLast?_concat]) (by decide)

theorem Closes.behind (second : Closes other) (unquoted : '"' ∉ text) (unlettered : Unlettered text) :
    Closes (text ++ other) :=
  (closes_of_unquoted unquoted).append unlettered second

/-- A separator stands between two texts. -/
theorem Closes.separated {c : Char} (first : Closes text) (noQuote : '"' ≠ c) (noName : isNameChar c = false)
    (second : Closes other) : Closes (text ++ c :: other) := by
  have separator : Closes (text ++ [c]) := first.append_unquoted (by simpa using noQuote)
  have unlettered : Unlettered (text ++ [c]) := unlettered_of_getLast? List.getLast?_concat noName
  simpa using separator.append unlettered second

/-- The characters behind which a new entry stands. -/
def starters : List Char := ['[', '\x7b', ',']

theorem starters_facts : ∀ c ∈ starters, isLayout c = false ∧ isNameChar c = false ∧ c ≠ ':' ∧ '"' ≠ c := by
  have every : starters.all fun c => isLayout c = false ∧ isNameChar c = false ∧ c ≠ ':' ∧ '"' ≠ c := by decide
  simpa only [List.all_eq_true, decide_eq_true_eq] using every

theorem opens_mem_starters (bracket : Bracket) : bracket.opens ∈ starters := by
  cases bracket <;> decide

theorem Closes.enclosed {inside : List Char} (bracket : Bracket) (lead : Layout before) (closes : Closes inside)
    (trail : Layout after) : Closes (before ++ bracket.opens :: (inside ++ bracket.closes :: after)) := by
  obtain ⟨leadUnquoted, _⟩ := layout_facts lead
  obtain ⟨trailUnquoted, _⟩ := layout_facts trail
  obtain ⟨_, noName, _, noQuote⟩ := starters_facts _ (opens_mem_starters bracket)
  have closing : '"' ≠ bracket.closes := by cases bracket <;> decide
  apply (closes_of_unquoted leadUnquoted).separated noQuote noName
  exact closes.append_unquoted (by simp [closing, trailUnquoted])

theorem Closes.member {value : List Char} (closes : Closes value) (lead : Layout before) (legal : Content name)
    (trail : Layout after) : Closes (before ++ (quoted name ++ (after ++ ':' :: value))) := by
  obtain ⟨unquoted, unlettered⟩ := layout_facts lead
  have colon : Closes (after ++ ':' :: value) :=
    (closes_of_unquoted (layout_facts trail).1).separated (by decide) (by decide) closes
  exact ((closes_quoted legal).append unlettered_quoted colon).behind unquoted unlettered

/-- No member is left open at the end of a phrase. -/
theorem closes_phrase {kind : Kind} (phrase : Phrase kind text) : Closes text := by
  induction phrase with
  | scalar lead scalar trail =>
    obtain ⟨unquoted, unlettered⟩ := layout_facts lead
    exact ((closes_scalar scalar).append_unquoted (layout_facts trail).1).behind unquoted unlettered
  | empty bracket lead blank trail =>
    exact .enclosed bracket lead (closes_of_unquoted (layout_facts blank).1) trail
  | full lead _ trail closes => exact closes.enclosed _ lead trail
  | item _ closes => exact closes
  | member lead legal trail _ closes => exact closes.member lead legal trail
  | last _ closes => exact closes
  | more _ _ closes behind => exact closes.separated (by decide) (by decide) behind

/-- In front of an entry of an object no member is left open. -/
theorem closes_around {kind : Kind} (around : Around kind front back) : Closes front := by
  induction around with
  | here => exact closes_of_unquoted List.not_mem_nil
  | @full bracket _ _ _ _ lead _ _ closes =>
    obtain ⟨_, noName, _, noQuote⟩ := starters_facts _ (opens_mem_starters bracket)
    exact (closes_of_unquoted (layout_facts lead).1).separated noQuote noName closes
  | item _ closes => exact closes
  | member lead legal trail _ closes => exact closes.member lead legal trail
  | last _ closes => exact closes
  | first _ _ closes => exact closes
  | later entry _ closes => exact (closes_phrase entry).separated (by decide) (by decide) closes

/-- Behind a starter a text ends in a starter if what follows it does, or is empty. -/
theorem mem_starters_of_last {c : Char} (starter : c ∈ starters) (behind : ∀ d ∈ back.getLast?, d ∈ starters) :
    ∀ d ∈ (front ++ c :: back).getLast?, d ∈ starters := by
  intro d last
  rw [List.getLast?_append_cons, List.getLast?_cons] at last
  obtain rfl : back.getLast?.getD c = d := by simpa using last
  cases inner : back.getLast? with
  | none => exact starter
  | some e => exact behind e inner

/-- An entry of an object stands behind a bracket or a comma. -/
theorem starts_around {kind : Kind} (around : Around kind front back) :
    (∀ c ∈ front.getLast?, c ∈ starters) ∧ (kind = .element → front ≠ []) := by
  induction around with
  | here => simp
  | @full bracket _ _ _ _ _ _ _ inductionHypothesis =>
    exact ⟨mem_starters_of_last (opens_mem_starters bracket) inductionHypothesis.1, by simp⟩
  | item _ inductionHypothesis => exact ⟨inductionHypothesis.1, by simp⟩
  | @member before name after front _ _ _ _ _ inductionHypothesis =>
    refine ⟨fun c last => inductionHypothesis.1 c ?_, by simp⟩
    have nonempty := inductionHypothesis.2 rfl
    have split : before ++ (quoted name ++ (after ++ ':' :: front)) =
        (before ++ (quoted name ++ (after ++ [':']))) ++ front := by simp
    rwa [split, List.getLast?_append_of_ne_nil _ nonempty] at last
  | last _ inductionHypothesis => exact ⟨inductionHypothesis.1, by simp⟩
  | first _ _ inductionHypothesis => exact ⟨inductionHypothesis.1, by simp⟩
  | later _ _ inductionHypothesis => exact ⟨mem_starters_of_last (by decide) inductionHypothesis.1, by simp⟩

/-- In front of a member of a document no other member has started, unless one was left open before the
document and no string stands in between. -/
theorem apart_around {head : List Char} (around : Around .element front back) (layout : Layout lead)
    (unlettered : Unlettered head) (closed : ¬EndsOpen head ∨ '"' ∈ front) : Apart (head ++ (front ++ lead)) := by
  obtain ⟨starts, nonempty⟩ := starts_around around
  obtain ⟨start, c, rfl⟩ : ∃ start c, front = start ++ [c] :=
    ⟨_, _, (List.dropLast_append_getLast (nonempty rfl)).symm⟩
  obtain ⟨noLayout, noName, noColon, _⟩ := starters_facts c (starts c List.getLast?_concat)
  obtain ⟨leadUnquoted, leadUnlettered⟩ := layout_facts layout
  intro stem fragment split ends
  cases ends with
  | name secret =>
    obtain ⟨letters, letter, rfl, isLetter⟩ := secret.exists_last
    have frontUnlettered : Unlettered (start ++ [c]) := unlettered_of_getLast? List.getLast?_concat noName
    have noLetter : Unlettered (head ++ (start ++ [c] ++ lead)) :=
      unlettered.append (frontUnlettered.append leadUnlettered)
    have last : (head ++ (start ++ [c] ++ lead)).getLast? = some letter := by
      rw [split, ← List.cons_append, ← List.append_assoc, List.getLast?_concat]
    rw [noLetter letter last] at isLetter
    cases isLetter
  | @colon name before after opening =>
    have gaps : ∀ d ∈ after, isLayout d := by
      intro d member
      rcases isGap_iff.mp (opening.after d member) with rfl | rfl <;> decide
    have shape : (head ++ start) ++ c :: lead = (stem ++ '"' :: (name ++ '"' :: before)) ++ ':' :: after := by
      simpa using split
    exact noColon (last_unique layout noLayout gaps (by decide) shape).2.1
  | value opening unquoted =>
    have closes := (closes_around around).append_unquoted leadUnquoted
    apply closes head unlettered
    · exact closed.imp_right fun member => List.mem_append_left lead member
    · exact ⟨stem, _, _, _, _, split, opening, unquoted⟩

end Redaction.Member

end ServiceHost

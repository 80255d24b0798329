import ServiceHost.Proofs.Redaction.Lines
import ServiceHost.Proofs.Redaction.Members

/-!
Completeness of redaction: in what is left of a dump nothing is found that is not masked already, although
each pass works on the text that the one before it wrote. So redaction leaves a redacted dump as it is.
-/

namespace ServiceHost.Redaction

namespace Parameter

variable {previous other : Option Char} {c : Char} {occurrence : Occurrence}
  {text name rest others front back start stop : List Char}

/-- The masked form of a parameter is a parameter. -/
theorem Match.again (here : Match previous occurrence rest) (ends : others.head? = rest.head?) :
    Match previous ⟨occurrence.masked, occurrence.masked⟩ others := by
  obtain ⟨secret, bounded, _, stops⟩ := here
  refine .intro secret bounded (List.all_eq_true.mp (by decide)) ?_
  rwa [Stops, ends]

theorem exists_match (secret : SecretName name) (bounded : Text.isBoundary previous name.head?)
    (behind : List Char) :
    ∃ occurrence rest, written name behind = occurrence.piece ++ rest ∧ Match previous occurrence rest := by
  obtain ⟨value, rest, rfl, valued, ends⟩ := exists_run isValueChar behind
  exact ⟨_, rest, written_append.symm, .intro secret bounded valued ends⟩

theorem Match.exists_match_of_sameUpTo (here : Match previous occurrence rest)
    (same : SameUpTo '=' (occurrence.piece ++ rest) text) :
    ∃ other others, text = other.piece ++ others ∧ Match previous other others := by
  cases here with
  | intro secret bounded =>
    rw [written_append, written] at same
    obtain ⟨behind, rfl, equals⟩ := same.exists_append (secret.not_mem (by decide))
    obtain ⟨others, rfl⟩ := equals.exists_cons
    exact exists_match secret bounded others

/-- A parameter starts behind no letter. -/
theorem Match.letter_not_before (here : Match (some c) occurrence rest) : isNameChar c = false := by
  cases here with
  | @intro name _ _ secret bounded =>
    obtain ⟨first, letters, rfl⟩ := List.exists_cons_of_ne_nil secret.ne_nil
    have inWord : Text.isWord first := isWord_of_isNameChar (secret.isNameChar first (by simp))
    by_contra letter
    have before : Text.isWord c := isWord_of_isNameChar (by simpa using letter)
    simp [Text.isBoundary, inWord, before] at bounded

/-- Behind the value of a parameter no parameter starts. -/
theorem not_match_of_stops (ends : Stops isValueChar back)
    (split : pattern.mask previous back = occurrence.piece ++ rest) :
    ¬Match other occurrence rest := by
  rintro ⟨secret, _, _, _⟩
  obtain ⟨first, letters, rfl⟩ := List.exists_cons_of_ne_nil secret.ne_nil
  have same : SameUpTo '=' back (pattern.mask previous back) := sameUpTo_mask
  have head : back.head? = some first := by
    rw [same.head?_eq, split]
    rfl
  have stops := ends first head
  rw [isValueChar_of_isNameChar (secret.isNameChar first (by simp))] at stops
  cases stops

/-- What starts within the mark is no parameter: the mark ends with a bracket. -/
theorem not_match_of_mark (marked : mark = front ++ stop) (goesOn : stop ≠ [])
    (split : stop ++ back = occurrence.piece ++ rest) : ¬Match other occurrence rest := by
  rintro ⟨secret, _, _, _⟩
  rename_i name value
  have unequal : '=' ∉ stop := by
    have unequal : '=' ∉ mark := by decide
    rw [marked, List.mem_append, not_or] at unequal
    exact unequal.2
  have bracket : ']' ∈ stop := by
    have last : mark.getLast? = some ']' := by decide
    rw [marked, List.getLast?_append_of_ne_nil _ goesOn] at last
    exact List.mem_of_getLast? last
  rw [written_append, written] at split
  obtain ⟨more, rfl⟩ := exists_append_of_not_mem split unequal
  exact secret.not_mem (by decide) (List.mem_append_left more bracket)

/-- Within or right behind a masked parameter no parameter starts. -/
theorem not_match_of_covered {written : Occurrence} (there : Match previous written others)
    (masked : written.masked = start ++ stop) (started : start ≠ [])
    (split : stop ++ pattern.mask written.piece.getLast? others = occurrence.piece ++ rest) :
    ¬Match start.getLast? occurrence rest := by
  cases there with
  | @intro name value _ secret _ _ ends =>
    -- The search for a parameter starts behind the name, since a letter stands before it within the name.
    have beyondName (here : Match start.getLast? occurrence rest) : ¬∀ c ∈ start, c ∈ name := by
      intro inName
      rw [List.getLast?_eq_getLast_of_ne_nil started] at here
      have letter := secret.isNameChar _ (inName _ (List.getLast_mem started))
      rw [here.letter_not_before] at letter
      cases letter
    intro here
    rcases List.append_eq_append_iff.mp masked with ⟨more, start_eq, mark_eq⟩ | ⟨more, name_eq, _⟩
    · cases more with
      | nil => exact beyondName here (by simp [start_eq])
      | cons equals more =>
        obtain ⟨_, marked⟩ := List.cons.inj mark_eq
        by_cases goesOn : stop = []
        · subst goesOn
          exact not_match_of_stops ends split here
        · exact not_match_of_mark marked goesOn split here
    · exact beyondName here fun c member => name_eq ▸ List.mem_append_left more member

/-- Where parameters are masked, they are settled. -/
theorem settled_run (text : List Char) : Grammar.Settled Match (pattern.run text) := by
  refine reads.settled_run ?_ ?_
  · intro front back occurrence rest _ split here
    obtain ⟨other, others, rfl, there⟩ := here.exists_match_of_sameUpTo (split ▸ sameUpTo_mask.symm)
    rw [reads.mask_hit there] at split
    obtain ⟨rfl, _⟩ := reads.unique here (there.again sameUpTo_mask.symm.head?_eq) split.symm
    rfl
  · intro _ _ _ _ _ _ _ there written started split
    exact not_match_of_covered there written started split

end Parameter

theorem Member.Match.newline_not_mem {previous : Option Char} {occurrence : Occurrence} {rest : List Char}
    (here : Match previous occurrence rest) : '\n' ∉ occurrence.masked :=
  fun member => absurd (here.isValueChar member) (by decide)

theorem Parameter.Match.newline_not_mem {previous : Option Char} {occurrence : Occurrence}
    {rest : List Char} (here : Match previous occurrence rest) : '\n' ∉ occurrence.masked := by
  obtain ⟨secret, _, _, _⟩ := here
  exact List.not_mem_append (secret.not_mem (by decide)) (by decide)

section Passes

variable (text : List Char)

/-- The two later passes leave the header lines as the first one masked them. -/
theorem headerLines_masked : Grammar.Masked HeaderLine.Match none (redactChars text) := by
  have lines := HeaderLine.settled_run text
  have members := HeaderLine.settled_pass Member.reads (by decide) Member.sameUpTo_mask
    Member.Match.newline_not_mem lines
  have parameters := HeaderLine.settled_pass Parameter.reads (by decide) Parameter.sameUpTo_mask
    Parameter.Match.newline_not_mem members
  exact HeaderLine.reads.masked_of_settled parameters

/-- The last pass leaves the members as the second one masked them. -/
theorem members_masked : Grammar.Masked Member.Match none (redactChars text) :=
  Member.masked_pass (Member.masked_run (HeaderLine.pattern.run text))

theorem parameters_masked : Grammar.Masked Parameter.Match none (redactChars text) :=
  Parameter.reads.masked_of_settled (Parameter.settled_run _)

/-- Redaction leaves a redacted text as it is. -/
theorem redactChars_redactChars : redactChars (redactChars text) = redactChars text := by
  have lines : HeaderLine.pattern.run (redactChars text) = redactChars text :=
    HeaderLine.reads.mask_eq_of_masked (headerLines_masked text)
  have members : Member.pattern.run (redactChars text) = redactChars text :=
    Member.reads.mask_eq_of_masked (members_masked text)
  have parameters : Parameter.pattern.run (redactChars text) = redactChars text :=
    Parameter.reads.mask_eq_of_masked (parameters_masked text)
  rw [redactChars, lines, members, parameters]

end Passes

/-- The forms of secrets that redaction masks. -/
def forms : List Grammar := [HeaderLine.Match, Member.Match, Parameter.Match]

/-- In a redacted dump every leftmost match of a form that overlaps with none before it is in masked form,
and to redact the dump again changes nothing. -/
theorem redact_complete (dump : String) :
    (∀ form ∈ forms, form.FindsMasked (redact dump).toList) ∧ redact (redact dump) = redact dump := by
  have redacted : (redact dump).toList = redactChars dump.toList := String.toList_ofList
  constructor
  · rw [redacted]
    intro form member
    simp only [forms, List.mem_cons, List.not_mem_nil, or_false] at member
    rcases member with rfl | rfl | rfl
    · exact HeaderLine.reads.findsMasked (headerLines_masked _)
    · exact Member.reads.findsMasked (members_masked _)
    · exact Parameter.reads.findsMasked (parameters_masked _)
  · rw [redact, redacted, redactChars_redactChars, redact]

end ServiceHost.Redaction

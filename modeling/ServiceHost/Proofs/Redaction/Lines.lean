import ServiceHost.Proofs.Redaction.Hinge

/-!
Header lines: once they are masked they are settled, and the passes that mask members and parameters leave
them settled, since a place where such a pass writes starts no line and what a header line opens with holds
neither a quote nor an equals sign.
-/

namespace ServiceHost.Redaction.HeaderLine

variable {previous : Option Char} {c hinge : Char} {text front back name gap rest others : List Char}
  {occurrence : Occurrence}

/-- The masked form of a header line is a header line. -/
theorem Match.again (here : Match previous occurrence rest) (ends : others.head? = rest.head?) :
    Match previous ⟨occurrence.masked, occurrence.masked⟩ others := by
  obtain ⟨starts, opening, _, stops⟩ := here
  refine .intro starts ⟨opening.secret, by simp⟩ (List.all_eq_true.mp (by decide)) ?_
  rwa [Stops, ends]

/-- A header line in the place of a masked one is in masked form. -/
theorem Match.masked_of_again {other : Occurrence} (here : Match previous occurrence rest)
    (there : Match previous other others) (ends : back.head? = others.head?)
    (same : occurrence.piece ++ rest = other.masked ++ back) : occurrence.piece = occurrence.masked := by
  obtain ⟨rfl, _⟩ := reads.unique here (there.again ends) same
  rfl

/-- The hinges of the three patterns. None of them stands in what a header line opens with. -/
def hinges : List Char := ['\n', '"', '=']

theorem hinge_not_opening :
    ∀ hinge ∈ hinges, hinge ∈ separators ∧ isGap hinge = false ∧ hinge ≠ ':' := by
  have every : hinges.all fun hinge => hinge ∈ separators ∧ isGap hinge = false ∧ hinge ≠ ':' := by decide
  simpa only [List.all_eq_true, decide_eq_true_eq] using every

/-- A text that is the same as a header line up to a hinge opens with the same name and gap. -/
theorem Opening.exists_written (opening : Opening name gap) (hinged : hinge ∈ hinges)
    (same : SameUpTo hinge (written name gap back) text) : ∃ others, text = written name gap others := by
  obtain ⟨separator, noGap, noColon⟩ := hinge_not_opening hinge hinged
  have inName : hinge ∉ name := opening.separator_not_mem separator
  have inGap : hinge ∉ gap := not_mem_gap opening.gaps noGap
  have split : written name gap back = name ++ (gap ++ [':']) ++ back := by simp [written]
  obtain ⟨others, rfl, _⟩ := (split ▸ same).exists_append (by simp [inName, inGap, noColon])
  exact ⟨others, by simp [written]⟩

theorem Match.hinge_not_mem (here : Match previous occurrence rest) (hinged : hinge ∈ hinges) :
    hinge ∉ occurrence.masked := by
  cases here with
  | intro _ opening =>
    have every : hinges.all fun hinge => hinge ∉ ':' :: ' ' :: mark := by decide
    have beyondName : ∀ hinge ∈ hinges, hinge ∉ ':' :: ' ' :: mark := by
      simpa only [List.all_eq_true, decide_eq_true_eq] using every
    exact List.not_mem_append (opening.separator_not_mem (hinge_not_opening hinge hinged).1)
      (beyondName hinge hinged)

/-- No line starts behind a text without line feeds. -/
theorem startsLine_getLast? (inLine : '\n' ∉ text) (nonempty : text ≠ []) :
    startsLine text.getLast? = false := by
  have member := List.getLast_mem nonempty
  rw [List.getLast?_eq_getLast_of_ne_nil nonempty]
  have noFeed : text.getLast nonempty ≠ '\n' := fun feed => inLine (feed ▸ member)
  simpa [startsLine] using noFeed

theorem Match.startsLine_getLast? (here : Match previous occurrence rest) :
    startsLine occurrence.piece.getLast? = false := by
  cases here with
  | @intro name gap value _ _ _ valued _ =>
    have split : written name gap value = name ++ gap ++ ':' :: value := by simp [written]
    have inLine : '\n' ∉ ':' :: value := by
      intro member
      rcases List.mem_cons.mp member with colon | member
      · exact absurd colon (by decide)
      · exact absurd (valued _ member) (by decide)
    rw [split, List.getLast?_append_of_ne_nil _ (List.cons_ne_nil ':' value)]
    exact HeaderLine.startsLine_getLast? inLine (List.cons_ne_nil ':' value)

/-- Nothing is a header line behind the start of what was written without line feeds. -/
theorem not_match_of_covered {start stop : List Char} (inLine : '\n' ∉ start ++ stop) (started : start ≠ []) :
    ¬Match start.getLast? occurrence rest := by
  rintro ⟨starts, _, _, _⟩
  rw [HeaderLine.startsLine_getLast? (fun member => inLine (List.mem_append_left stop member)) started]
    at starts
  cases starts

theorem Match.exists_match_of_sameUpTo (here : Match previous occurrence rest) (hinged : hinge ∈ hinges)
    (same : SameUpTo hinge (occurrence.piece ++ rest) text) :
    ∃ other others, text = other.piece ++ others ∧ Match previous other others := by
  cases here with
  | intro starts opening =>
    rw [written_append] at same
    obtain ⟨others, rfl⟩ := opening.exists_written hinged same
    exact opening.exists_match starts others

/-- At the start of a line too, what is masked where no header line is stays the same up to a line feed. -/
theorem sameUpTo_mask_of_quiet (quiet : Grammar.Quiet Match previous text) :
    SameUpTo '\n' text (pattern.mask previous text) := by
  cases text with
  | nil =>
    rw [Pattern.mask_nil]
    exact .done
  | cons c rest =>
    rw [reads.mask_quiet quiet]
    by_cases feeds : c = '\n'
    · exact feeds ▸ .parted
    · exact .step (sameUpTo_mask (by simpa [startsLine] using feeds))

/-- Where header lines are masked, they are settled. -/
theorem settled_run (text : List Char) : Grammar.Settled Match (pattern.run text) := by
  refine reads.settled_run ?_ ?_
  · intro front back occurrence rest _ split here
    generalize front.getLast? = previous at split here
    by_cases quiet : Grammar.Quiet Match previous back
    · have same := (sameUpTo_mask_of_quiet quiet).symm
      obtain ⟨other, others, whole, there⟩ := here.exists_match_of_sameUpTo (by decide) (split ▸ same)
      exact absurd there (quiet other others whole)
    · obtain ⟨other, others, rfl, there⟩ := Grammar.exists_of_not_quiet quiet
      rw [reads.mask_hit there] at split
      exact here.masked_of_again there (sameUpTo_mask there.startsLine_getLast?).symm.head?_eq split.symm
  · intro _ _ _ _ _ _ _ there masked started _
    exact not_match_of_covered (masked ▸ there.hinge_not_mem (by decide)) started

/-- A pass that leaves every text as it is up to a hinge and writes no line feed leaves header lines
settled. -/
theorem settled_pass {pass : Pattern} {grammar : Grammar} (passes : pass.Reads grammar)
    (hinged : hinge ∈ hinges) (same : ∀ {previous text}, SameUpTo hinge text (pass.mask previous text))
    (inLine : ∀ {previous occurrence rest}, grammar previous occurrence rest → '\n' ∉ occurrence.masked)
    (settled : Grammar.Settled Match text) : Grammar.Settled Match (pass.run text) := by
  refine passes.settled_run ?_ ?_
  · intro front back occurrence rest whole split here
    obtain ⟨other, others, rfl, there⟩ := here.exists_match_of_sameUpTo hinged (split ▸ same.symm)
    have masked := settled front other others whole there
    have same : SameUpTo hinge (other.piece ++ others) (occurrence.piece ++ rest) := split ▸ same
    rw [masked] at same
    obtain ⟨behind, split, same⟩ := same.exists_append (there.hinge_not_mem hinged)
    exact here.masked_of_again there same.symm.head?_eq split
  · intro _ _ _ _ _ _ _ there masked started _
    exact not_match_of_covered (masked ▸ inLine there) started

end ServiceHost.Redaction.HeaderLine

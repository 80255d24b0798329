import ServiceHost.Text.Pieces

/-!
Splitting: cutting a text at a separator is the splitting of lists, so that it undoes joining, and a separator
within a text cuts what stands before it and what stands behind it apart.
-/

namespace ServiceHost.Text

variable {separator : Char} {text : List Char}

theorem pieces_eq_splitOn (separator : Char) (text : List Char) :
    pieces separator text = text.splitOn separator := by
  induction text with
  | nil => rfl
  | cons c rest inductionHypothesis =>
    rw [pieces, inductionHypothesis, List.splitOn_cons_eq_if_modifyHead]
    by_cases same : c = separator
    · simp [same]
    · rw [if_neg same, if_neg (by simpa using same)]
      cases cut : rest.splitOn separator with
      | nil => exact absurd (inductionHypothesis.trans cut) (pieces_ne_nil separator rest)
      | cons first others => rfl

theorem pieces_append (separator : Char) (before after : List Char) :
    pieces separator (before ++ separator :: after) = pieces separator before ++ pieces separator after := by
  simp only [pieces_eq_splitOn, List.splitOn_append_cons_self]

theorem pieces_of_not_mem (absent : separator ∉ text) : pieces separator text = [text] := by
  rw [pieces_eq_splitOn, List.splitOn_eq_singleton absent]

/-- No piece holds the separator. -/
theorem not_mem_of_mem_pieces {piece : List Char} (member : piece ∈ pieces separator text) : separator ∉ piece := by
  induction text generalizing piece with
  | nil =>
    obtain rfl := List.mem_singleton.mp member
    exact List.not_mem_nil
  | cons c rest inductionHypothesis =>
    rw [pieces] at member
    split at member
    · rcases List.mem_cons.mp member with rfl | later
      · exact List.not_mem_nil
      · exact inductionHypothesis later
    · rename_i other
      split at member
      · exact absurd ‹_› (pieces_ne_nil separator rest)
      · rename_i first others cut
        rcases List.mem_cons.mp member with rfl | later
        · have absent := inductionHypothesis (cut ▸ List.mem_cons_self : first ∈ pieces separator rest)
          exact List.not_mem_cons_of_ne_of_not_mem (Ne.symm other) absent
        · exact inductionHypothesis (cut ▸ List.mem_cons_of_mem first later)

end ServiceHost.Text

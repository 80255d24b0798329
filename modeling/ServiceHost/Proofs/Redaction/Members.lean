import ServiceHost.Proofs.Redaction.Hinge

/-!
Members: where they are masked, each of them is found in masked form, and so it stays when parameters are
masked. A masked member holds neither an equals sign nor a character that ends the value of a parameter,
so that a parameter takes in all of it or nothing.
-/

namespace ServiceHost.Redaction

theorem exists_append_of_not_mem {front back name behind : List Char} {c : Char}
    (same : front ++ back = name ++ c :: behind) (absent : c ∉ front) : ∃ more, name = front ++ more := by
  rcases List.append_eq_append_iff.mp same with ⟨more, name_eq, _⟩ | ⟨more, front_eq, behind_eq⟩
  · exact ⟨more, name_eq⟩
  · cases more with
    | nil => exact ⟨[], by simpa using front_eq.symm⟩
    | cons first more =>
      obtain ⟨rfl, _⟩ := List.cons.inj behind_eq
      exact absurd (front_eq ▸ by simp) absent

namespace Parameter

variable {previous : Option Char} {c last : Char} {text front back rest : List Char} {occurrence : Occurrence}

/-- No parameter starts in a text without equals signs that goes on with no name. -/
theorem quiet_append (unequal : '=' ∉ front ++ [last]) (noName : isNameChar last = false) :
    Grammar.Quiet Match previous (front ++ last :: back) := by
  rintro _ rest split ⟨secret, _, _, _⟩
  rename_i name value
  rw [written_append, written, ← List.singleton_append, ← List.append_assoc] at split
  obtain ⟨more, rfl⟩ := exists_append_of_not_mem split unequal
  exact secret.not_mem noName (by simp)

theorem mask_append (unequal : '=' ∉ front ++ [last]) (noName : isNameChar last = false) :
    pattern.mask previous (front ++ last :: back) = front ++ last :: pattern.mask (some last) back := by
  induction front generalizing previous with
  | nil => exact reads.mask_quiet (quiet_append unequal noName)
  | cons c front inductionHypothesis =>
    have quiet : Grammar.Quiet Match previous (c :: (front ++ last :: back)) := quiet_append unequal noName
    rw [List.cons_append, List.mem_cons, not_or] at unequal
    rw [List.cons_append, reads.mask_quiet quiet, inductionHypothesis unequal.2, List.cons_append]

theorem Match.quote_not_mem (here : Match previous occurrence rest) : '"' ∉ occurrence.masked := by
  obtain ⟨secret, _, _, _⟩ := here
  exact List.not_mem_append (secret.not_mem (by decide)) (by decide)

/-- No quote is written in the place of a parameter. -/
theorem quote_mem_of_mem_mask (member : '"' ∈ pattern.mask previous text) : '"' ∈ text := by
  obtain ⟨occurrences, scan⟩ := reads.exists_scan previous text
  induction scan with
  | done => rwa [Pattern.mask_nil] at member
  | skip quiet _ inductionHypothesis =>
    rw [reads.mask_quiet quiet] at member
    exact List.mem_cons.mpr ((List.mem_cons.mp member).imp_right inductionHypothesis)
  | hit here _ inductionHypothesis =>
    rw [reads.mask_hit here] at member
    have behind := (List.mem_append.mp member).resolve_left here.quote_not_mem
    exact List.mem_append_right _ (inductionHypothesis behind)

end Parameter

namespace Member

variable {previous other : Option Char} {c : Char} {text front back rest others : List Char}
  {occurrence : Occurrence}

theorem Match.anywhere (here : Match previous occurrence rest) : Match other occurrence others := by
  obtain ⟨opening, unquoted⟩ := here
  exact .intro opening unquoted

/-- The masked form of a member is a member. -/
theorem Match.again (here : Match previous occurrence rest) :
    Match other ⟨occurrence.masked, occurrence.masked⟩ others := by
  obtain ⟨opening, _⟩ := here
  exact .intro ⟨opening.secret, by simp, by simp⟩ (by decide)

theorem quiet_anywhere (quiet : Grammar.Quiet Match previous text) : Grammar.Quiet Match other text :=
  fun occurrence rest split here => quiet occurrence rest split here.anywhere

theorem masked_anywhere (masked : Grammar.Masked Match previous text) : Grammar.Masked Match other text := by
  cases masked with
  | done => exact .done
  | skip quiet behind => exact .skip (quiet_anywhere quiet) behind
  | hit here masked behind => exact .hit here.anywhere masked behind

theorem mask_eq_run : pattern.mask previous text = pattern.run text := by
  by_cases quiet : Grammar.Quiet Match previous text
  · cases text with
    | nil => rw [Pattern.run, Pattern.mask_nil, Pattern.mask_nil]
    | cons c rest => rw [Pattern.run, reads.mask_quiet quiet, reads.mask_quiet (quiet_anywhere quiet)]
  · obtain ⟨occurrence, rest, rfl, here⟩ := Grammar.exists_of_not_quiet quiet
    rw [Pattern.run, reads.mask_hit here, reads.mask_hit here.anywhere]

/-- Only at a quote a member starts. -/
theorem quiet_of_ne (noQuote : c ≠ '"') : Grammar.Quiet Match previous (c :: rest) := by
  rintro _ others split ⟨opening, _⟩
  exact noQuote (List.cons.inj split).1

theorem run_append (unquoted : '"' ∉ front) : pattern.run (front ++ back) = front ++ pattern.run back := by
  induction front with
  | nil => rfl
  | cons c front inductionHypothesis =>
    rw [List.mem_cons, not_or] at unquoted
    rw [List.cons_append, Pattern.run, reads.mask_quiet (quiet_of_ne (Ne.symm unquoted.1)), mask_eq_run,
      inductionHypothesis unquoted.2, List.cons_append]

theorem masked_append (unquoted : '"' ∉ front) (masked : Grammar.Masked Match other back) :
    Grammar.Masked Match previous (front ++ back) := by
  induction front generalizing previous with
  | nil => exact masked_anywhere masked
  | cons c front inductionHypothesis =>
    rw [List.mem_cons, not_or] at unquoted
    exact .skip (quiet_of_ne (Ne.symm unquoted.1)) (inductionHypothesis unquoted.2)

/-- The first quote of a masked text is the first quote of the text. -/
theorem exists_of_run (masks : pattern.run text = front ++ '"' :: rest) (unquoted : '"' ∉ front) :
    ∃ back, text = front ++ '"' :: back ∧ pattern.run ('"' :: back) = '"' :: rest := by
  have same : SameUpTo '"' text (pattern.run text) := sameUpTo_mask
  obtain ⟨behind, rfl, opens⟩ := (masks ▸ same).symm.exists_append unquoted
  obtain ⟨back, rfl⟩ := opens.exists_cons
  rw [run_append unquoted] at masks
  exact ⟨back, rfl, List.append_cancel_left masks⟩

/-- At a quote no member starts, and the text goes on masked, or the masked form of a member starts. -/
theorem run_quote (masks : pattern.run ('"' :: back) = '"' :: rest) :
    rest = pattern.run back ∨ ('"' ∈ back ∧ ¬Stops isNameChar rest) := by
  by_cases quiet : Grammar.Quiet Match none ('"' :: back)
  · left
    rw [Pattern.run, reads.mask_quiet quiet, mask_eq_run] at masks
    exact (List.cons.inj masks).2.symm
  · right
    obtain ⟨occurrence, others, split, here⟩ := Grammar.exists_of_not_quiet quiet
    rw [split, Pattern.run, reads.mask_hit here] at masks
    cases here with
    | @intro name before after value _ opening unquoted =>
      constructor
      · rw [(List.cons.inj split).2]
        simp
      · rw [← (List.cons.inj masks).2]
        obtain ⟨c, letters, rfl⟩ := List.exists_cons_of_ne_nil opening.secret.ne_nil
        simp [stops_cons, opening.secret.isNameChar]

/-- Where no member starts, none does once the text behind is masked. -/
theorem quiet_run (quiet : Grammar.Quiet Match previous (c :: rest)) :
    Grammar.Quiet Match previous (c :: pattern.run rest) := by
  intro occurrence others split here
  cases here with
  | @intro name before after value _ opening unquoted =>
    rw [written_append] at split
    obtain ⟨rfl, inside⟩ := List.cons.inj split
    have inName : '"' ∉ name := opening.secret.not_mem (by decide)
    obtain ⟨behindName, rfl, atName⟩ := exists_of_run inside inName
    -- A member that starts behind the name puts its own name there.
    have afterName := (run_quote atName).resolve_right fun other => other.2 opening.stops_name
    have gaps : pattern.run behindName = (before ++ ':' :: after) ++ '"' :: (value ++ '"' :: others) := by
      rw [← afterName]
      simp
    obtain ⟨behind, rfl, atValue⟩ := exists_of_run gaps opening.quote_not_mem
    have quoted : '"' ∈ behind := by
      rcases run_quote atValue with afterQuote | ⟨quoted, _⟩
      · obtain ⟨rest, rfl, _⟩ := exists_of_run afterQuote.symm unquoted
        simp
      · exact quoted
    obtain ⟨other, others, split, there⟩ := opening.exists_match previous quoted
    refine quiet other others ?_ there
    rw [← split]
    simp [written]

/-- Where members are masked, they are masked. -/
theorem masked_run (text : List Char) : Grammar.Masked Match none (pattern.run text) := by
  suffices masked : ∀ previous, Grammar.Masked Match previous (pattern.mask previous text) from masked none
  intro previous
  obtain ⟨occurrences, scan⟩ := reads.exists_scan previous text
  induction scan with
  | done =>
    rw [Pattern.mask_nil]
    exact .done
  | skip quiet _ inductionHypothesis =>
    rw [reads.mask_quiet quiet]
    refine .skip ?_ inductionHypothesis
    rw [mask_eq_run]
    exact quiet_run quiet
  | hit here _ inductionHypothesis =>
    rw [reads.mask_hit here]
    exact .hit here.again rfl (masked_anywhere inductionHypothesis)

/-- A masked member is part of a parameter value, or lies apart from it. -/
theorem Match.isValueChar (here : Match previous occurrence rest) (member : c ∈ occurrence.masked) :
    Parameter.isValueChar c := by
  cases here with
  | @intro name before after value _ opening _ =>
    have beyond : ∀ c ∈ '"' :: ':' :: mark, Parameter.isValueChar c := List.all_eq_true.mp (by decide)
    have parts : c ∈ name ∨ c ∈ '"' :: ':' :: mark := by
      simp only [written, List.nil_append, List.mem_cons, List.mem_append, List.not_mem_nil, or_false] at member ⊢
      grind
    rcases parts with inName | written
    · exact Parameter.isValueChar_of_isNameChar (opening.secret.isNameChar c inName)
    · exact beyond c written

/-- Behind a parameter the text is masked as it was: no masked member reaches over the end of a parameter. -/
theorem masked_behind (masked : Grammar.Masked Match previous (front ++ back))
    (ends : Stops Parameter.isValueChar back) : Grammar.Masked Match other back := by
  generalize whole : front ++ back = text at masked
  induction masked generalizing front with
  | done =>
    obtain ⟨_, rfl⟩ := List.append_eq_nil_iff.mp whole
    exact .done
  | skip quiet behind inductionHypothesis =>
    cases front with
    | nil =>
      rw [List.nil_append] at whole
      exact whole ▸ .skip (quiet_anywhere quiet) behind
    | cons c front => exact inductionHypothesis (List.cons.inj whole).2
  | @hit previous occurrence rest here masked behind inductionHypothesis =>
    cases front with
    | nil =>
      rw [List.nil_append] at whole
      exact whole ▸ .hit here.anywhere masked behind
    | cons c front =>
      rcases List.append_eq_append_iff.mp whole with ⟨more, piece, back_eq⟩ | ⟨more, _, rest_eq⟩
      · cases more with
        | nil =>
          rw [List.nil_append] at back_eq
          exact masked_anywhere (back_eq ▸ behind)
        | cons first more =>
          have member : first ∈ occurrence.masked := by simp [← masked, piece]
          rw [back_eq, List.cons_append, stops_cons, here.isValueChar member] at ends
          cases ends
      · exact inductionHypothesis rest_eq.symm

/-- Where no member starts, none does once parameters are masked. -/
theorem quiet_mask (quiet : Grammar.Quiet Match previous text) :
    Grammar.Quiet Match previous (Parameter.pattern.mask other text) := by
  intro occurrence rest split here
  cases here with
  | @intro name before after value _ opening _ =>
    have same : SameUpTo '=' text (Parameter.pattern.mask other text) := Parameter.sameUpTo_mask
    rw [written_append, written_eq_append, List.append_cons] at split
    obtain ⟨behind, rfl, _⟩ := (split ▸ same).symm.exists_append opening.equals_not_mem
    rw [List.append_assoc, List.singleton_append, Parameter.mask_append opening.equals_not_mem (by decide),
      ← List.append_cons, List.append_cancel_left_eq, List.cons.injEq] at split
    have quoted : '"' ∈ behind := Parameter.quote_mem_of_mem_mask (by rw [split.2]; simp)
    obtain ⟨other, others, split, there⟩ := opening.exists_match previous quoted
    exact quiet other others (by simp [← split, written_eq_append]) there

/-- Over a masked member, parameters are masked as behind it. -/
theorem Match.mask_masked (here : Match previous occurrence rest) :
    Parameter.pattern.mask other (occurrence.masked ++ rest) =
      occurrence.masked ++ Parameter.pattern.mask (some '"') rest := by
  cases here with
  | @intro name before after value _ opening _ =>
    have unequal : '=' ∉ '"' :: (name ++ '"' :: ':' :: '"' :: mark) ++ ['"'] := by
      have inName : '=' ∉ name := opening.secret.not_mem (by decide)
      have inMark : '=' ∉ mark := by decide
      simp [inName, inMark]
    have split : written name [] [] (mark ++ ['"']) = '"' :: (name ++ '"' :: ':' :: '"' :: mark) ++ ['"'] := by
      simp [written]
    rw [split, List.append_assoc, List.singleton_append, Parameter.mask_append unequal (by decide),
      ← List.append_cons]

/-- Where members are masked, they stay masked when parameters are. -/
theorem masked_pass (masked : Grammar.Masked Match previous text) :
    Grammar.Masked Match previous (Parameter.pattern.mask other text) := by
  -- A parameter takes in members, and a member lies apart from parameters: both may skip ahead.
  induction size : text.length using Nat.strongRecOn generalizing previous other text with
  | _ size inductionHypothesis =>
    subst size
    cases masked with
    | done =>
      rw [Pattern.mask_nil]
      exact .done
    | @hit _ occurrence rest here masked behind =>
      have shorter : rest.length < (occurrence.piece ++ rest).length := by
        simp [List.length_pos_iff, reads.nonempty here]
      rw [masked, here.mask_masked, ← masked]
      exact .hit here.anywhere masked (inductionHypothesis _ shorter behind rfl)
    | @skip _ c rest quiet behind =>
      by_cases apart : Grammar.Quiet Parameter.Match other (c :: rest)
      · have quietMask : Grammar.Quiet Match _ (Parameter.pattern.mask other (c :: rest)) :=
          quiet_mask quiet
        rw [Parameter.reads.mask_quiet apart] at quietMask ⊢
        exact .skip quietMask (inductionHypothesis _ (by simp) behind rfl)
      · obtain ⟨occurrence, others, split, there⟩ := Grammar.exists_of_not_quiet apart
        have shorter : others.length < (c :: rest).length := by
          simp [split, List.length_pos_iff, Parameter.reads.nonempty there]
        have ends : Stops Parameter.isValueChar others := by
          obtain ⟨_, _, _, ends⟩ := there
          exact ends
        have whole : Grammar.Masked Match previous (c :: rest) := .skip quiet behind
        have behindParameter : Grammar.Masked Match previous others := masked_behind (split ▸ whole) ends
        rw [split, Parameter.reads.mask_hit there]
        exact masked_append there.quote_not_mem (inductionHypothesis _ shorter behindParameter rfl)

end Member

end ServiceHost.Redaction

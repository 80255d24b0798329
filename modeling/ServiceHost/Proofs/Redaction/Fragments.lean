import ServiceHost.Proofs.Redaction.Members

/-!
Fragments: how a text may end in the middle of a member. Where a text ends with no fragment, the members in it
are masked apart from those behind the next quote.
-/

namespace ServiceHost.Redaction

section Runs

variable {kind : Char → Bool} {c d : Char} {front back others more text : List Char}

/-- The last character that is not of a kind is at one place only. -/
theorem last_unique (run : ∀ c ∈ back, kind c) (noKind : kind c = false) (runs : ∀ c ∈ more, kind c)
    (other : kind d = false) (same : front ++ c :: back = others ++ d :: more) :
    front = others ∧ c = d ∧ back = more := by
  have reversed : back.reverse ++ c :: front.reverse = more.reverse ++ d :: others.reverse := by
    simpa using congrArg List.reverse same
  obtain ⟨backs, fronts⟩ := run_unique (by simpa using run) (stops_cons.mpr noKind) (by simpa using runs)
    (stops_cons.mpr other) reversed
  obtain ⟨same, fronts⟩ := List.cons.inj fronts
  exact ⟨List.reverse_injective fronts, same, List.reverse_injective backs⟩

/-- What holds a character holds it at a last place. -/
theorem exists_last (member : c ∈ text) : ∃ front back, text = front ++ c :: back ∧ c ∉ back := by
  obtain ⟨back, front, split, absent⟩ := List.eq_append_cons_of_mem (List.mem_reverse.mpr member)
  refine ⟨front.reverse, back.reverse, ?_, by simpa using absent⟩
  simpa using congrArg List.reverse split

end Runs

/-- A letter or an underscore ends the name of a secret. -/
theorem SecretName.exists_last {name : List Char} (secret : SecretName name) :
    ∃ letters letter, name = letters ++ [letter] ∧ Redaction.isNameChar letter :=
  ⟨_, _, (List.dropLast_append_getLast secret.ne_nil).symm, secret.isNameChar _ (List.getLast_mem secret.ne_nil)⟩

namespace Member

variable {previous : Option Char} {text front back name before after value rest behind : List Char}
  {occurrence : Occurrence}

/-- The last quote is at one place only. -/
theorem last_quote_unique {others more : List Char} (unquoted : '"' ∉ back) (other : '"' ∉ more)
    (same : front ++ '"' :: back = others ++ '"' :: more) : front = others ∧ back = more := by
  obtain ⟨fronts, _, backs⟩ :=
    last_unique (run_value unquoted) (by decide) (run_value other) (by decide) same
  exact ⟨fronts, backs⟩

/-- A start of a member that ends right before one of its quotes. -/
inductive Fragment : List Char → Prop where
  | name {name : List Char} (secret : SecretName name) : Fragment ('"' :: name)
  | colon {name before after : List Char} (opening : Opening name before after) :
      Fragment ('"' :: (name ++ '"' :: (before ++ ':' :: after)))
  | value {name before after value : List Char} (opening : Opening name before after)
      (unquoted : '"' ∉ value) : Fragment (written name before after value)

/-- A text ends with no fragment. -/
def Apart (text : List Char) : Prop :=
  ∀ front fragment, text = front ++ fragment → ¬Fragment fragment

/-- A text ends in the middle of the value of a member. -/
def EndsOpen (text : List Char) : Prop :=
  ∃ front name before after value, text = front ++ written name before after value ∧
    Opening name before after ∧ '"' ∉ value

theorem Apart.of_append (apart : Apart (front ++ back)) : Apart back := by
  intro more fragment split
  exact apart (front ++ more) fragment (by rw [split, List.append_assoc])

/-- What stands before some quote of a text ends before its first quote, or goes on behind it. -/
theorem quote_cases (unquoted : '"' ∉ front) (split : text ++ '"' :: back = front ++ '"' :: behind) :
    text = front ∨ ∃ more, text = front ++ '"' :: more ∧ more ++ '"' :: back = behind := by
  rcases List.append_eq_append_iff.mp split with ⟨more, front_eq, quote⟩ | ⟨more, text_eq, quote⟩
  · cases more with
    | nil => exact .inl (by simpa using front_eq.symm)
    | cons c more =>
      obtain ⟨rfl, _⟩ := List.cons.inj quote
      exact absurd (by simp [front_eq]) unquoted
  · cases more with
    | nil => exact .inl (by simpa using text_eq)
    | cons c more =>
      obtain ⟨rfl, rest⟩ := List.cons.inj quote
      exact .inr ⟨more, text_eq, rest.symm⟩

/-- A proper start of a member before one of its quotes is a fragment. -/
theorem Match.fragment (here : Match previous occurrence rest) (nonempty : front ≠ [])
    (split : front ++ '"' :: back = occurrence.piece) : Fragment front := by
  cases here with
  | @intro name before after value _ opening unquoted =>
    have inName : '"' ∉ name := opening.secret.not_mem (by decide)
    have opens : front = [] ∨ ∃ more, front = '"' :: more ∧
        more ++ '"' :: back = name ++ '"' :: (before ++ ':' :: (after ++ '"' :: (value ++ ['"']))) :=
      quote_cases List.not_mem_nil split
    obtain ⟨inside, rfl, named⟩ := opens.resolve_left nonempty
    rcases quote_cases inName named with rfl | ⟨gaps, rfl, colon⟩
    · exact .name opening.secret
    have shape : gaps ++ '"' :: back = (before ++ ':' :: after) ++ '"' :: (value ++ ['"']) := by
      simpa using colon
    rcases quote_cases opening.quote_not_mem shape with rfl | ⟨start, rfl, ends⟩
    · exact .colon opening
    rcases quote_cases unquoted ends with rfl | ⟨more, rfl, beyond⟩
    · have whole : Fragment (written name before after start) := .value opening unquoted
      simpa [written] using whole
    · simp at beyond

/-- A member that starts before a quote lies before it as a whole, unless a fragment stands there. -/
theorem Match.exists_front (here : Match previous occurrence rest) (apart : Apart front) (nonempty : front ≠ [])
    (split : front ++ '"' :: back = occurrence.piece ++ rest) : ∃ more, front = occurrence.piece ++ more := by
  rcases List.append_eq_append_iff.mp split with ⟨more, piece, quote⟩ | ⟨more, front_eq, _⟩
  · cases more with
    | nil => exact ⟨[], by simpa using piece.symm⟩
    | cons c more =>
      obtain ⟨rfl, _⟩ := List.cons.inj quote
      exact absurd (here.fragment nonempty piece.symm) (apart [] front rfl)
  · exact ⟨more, front_eq⟩

/-- What is masked of a text that ends with no fragment does not depend on what follows its next quote. -/
theorem exists_run_append (apart : Apart front) :
    ∃ masked, ∀ back, pattern.run (front ++ '"' :: back) = masked ++ pattern.run ('"' :: back) := by
  induction size : front.length using Nat.strongRecOn generalizing front with
  | _ size inductionHypothesis =>
    subst size
    by_cases found : ∃ occurrence more, front = occurrence.piece ++ more ∧ Match none occurrence more
    · obtain ⟨occurrence, more, rfl, here⟩ := found
      have nonempty := List.length_pos_of_ne_nil (reads.nonempty here)
      obtain ⟨masked, every⟩ := inductionHypothesis more.length (by simp [nonempty]) apart.of_append rfl
      refine ⟨occurrence.masked ++ masked, fun back => ?_⟩
      have there : Match none occurrence (more ++ '"' :: back) := here.anywhere
      rw [List.append_assoc, Pattern.run, reads.mask_hit there, mask_eq_run, every, List.append_assoc]
    · cases front with
      | nil => exact ⟨[], fun back => rfl⟩
      | cons c front =>
        have whole : Apart ([c] ++ front) := apart
        have behind : Apart front := whole.of_append
        obtain ⟨masked, every⟩ := inductionHypothesis front.length (by simp) behind rfl
        refine ⟨c :: masked, fun back => ?_⟩
        have quiet : Grammar.Quiet Match none (c :: (front ++ '"' :: back)) := by
          intro occurrence rest split here
          obtain ⟨more, front_eq⟩ := here.exists_front apart (List.cons_ne_nil c front) split
          exact found ⟨occurrence, more, front_eq, here.anywhere⟩
        rw [List.cons_append, Pattern.run, reads.mask_quiet quiet, mask_eq_run, every, List.cons_append]

/-- Of the value of a member nothing is left, and what follows its first quote is masked on its own. -/
theorem Opening.run (opening : Opening name before after) (unquoted : '"' ∉ value) :
    pattern.run (written name before after (value ++ '"' :: rest)) =
      written name [] [] (mark ++ ['"']) ++ pattern.run rest := by
  have here : Match none ⟨written name before after (value ++ ['"']), written name [] [] (mark ++ ['"'])⟩ rest :=
    .intro opening unquoted
  have masks := reads.mask_hit here
  rw [mask_eq_run, mask_eq_run, written_append, List.append_assoc] at masks
  exact masks

end Member

end ServiceHost.Redaction

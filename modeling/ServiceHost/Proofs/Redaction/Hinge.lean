import ServiceHost.Proofs.Redaction.Forms

/-!
Hinges: a character up to which a pattern leaves every text as it is. Members are masked behind a quote,
parameters behind an equals sign, and off the start of a line header lines behind a line feed.
-/

namespace ServiceHost.Redaction

/-- Two texts are the same up to a character: both go on with it there, or both end. -/
inductive SameUpTo (hinge : Char) : List Char → List Char → Prop where
  | done : SameUpTo hinge [] []
  | parted {rest others : List Char} : SameUpTo hinge (hinge :: rest) (hinge :: others)
  | step {c : Char} {rest others : List Char} (same : SameUpTo hinge rest others) :
      SameUpTo hinge (c :: rest) (c :: others)

namespace SameUpTo

variable {hinge c : Char} {text other front back rest others : List Char}

theorem symm (same : SameUpTo hinge text other) : SameUpTo hinge other text := by
  induction same with
  | done => exact .done
  | parted => exact .parted
  | step _ inductionHypothesis => exact .step inductionHypothesis

theorem head?_eq (same : SameUpTo hinge text other) : text.head? = other.head? := by
  cases same <;> rfl

theorem append (front : List Char) (same : SameUpTo hinge rest others) :
    SameUpTo hinge (front ++ rest) (front ++ others) := by
  induction front with
  | nil => exact same
  | cons c front inductionHypothesis => exact .step inductionHypothesis

/-- What one of the texts starts with before the hinge, the other one starts with. -/
theorem exists_append (same : SameUpTo hinge (front ++ back) text) (absent : hinge ∉ front) :
    ∃ others, text = front ++ others ∧ SameUpTo hinge back others := by
  induction front generalizing text with
  | nil => exact ⟨text, rfl, same⟩
  | cons c front inductionHypothesis =>
    rw [List.mem_cons, not_or] at absent
    rw [List.cons_append] at same
    cases same with
    | parted => exact absurd rfl absent.1
    | step same =>
      obtain ⟨others, rfl, behind⟩ := inductionHypothesis same absent.2
      exact ⟨others, rfl, behind⟩

theorem exists_cons (same : SameUpTo hinge (hinge :: rest) text) : ∃ others, text = hinge :: others := by
  cases same with
  | parted => exact ⟨_, rfl⟩
  | step => exact ⟨_, rfl⟩

end SameUpTo

variable {previous : Option Char} {text : List Char} {hinge : Char}

/-- Where each masked form is the same as its piece up to the hinge, so are the texts. -/
theorem Pattern.Reads.sameUpTo_mask {pattern : Pattern} {grammar : Grammar} (reads : pattern.Reads grammar)
    (forms : ∀ {previous occurrence rest}, grammar previous occurrence rest →
      ∀ more, SameUpTo hinge (occurrence.piece ++ rest) (occurrence.masked ++ more)) :
    SameUpTo hinge text (pattern.mask previous text) := by
  obtain ⟨occurrences, scan⟩ := reads.exists_scan previous text
  induction scan with
  | done =>
    rw [Pattern.mask_nil]
    exact .done
  | skip quiet _ inductionHypothesis =>
    rw [reads.mask_quiet quiet]
    exact .step inductionHypothesis
  | hit here =>
    rw [reads.mask_hit here]
    exact forms here _

/-- Members are masked only behind their first quote. -/
theorem Member.sameUpTo_mask : SameUpTo '"' text (pattern.mask previous text) := by
  refine reads.sameUpTo_mask fun here more => ?_
  cases here
  exact .parted

/-- Parameters are masked only behind their equals sign. -/
theorem Parameter.sameUpTo_mask : SameUpTo '=' text (pattern.mask previous text) := by
  refine reads.sameUpTo_mask fun here more => ?_
  cases here
  rw [written_append, written_append]
  exact .append _ .parted

/-- Off the start of a line, header lines are masked only behind the next line feed. -/
theorem HeaderLine.sameUpTo_mask (inLine : startsLine previous = false) :
    SameUpTo '\n' text (pattern.mask previous text) := by
  obtain ⟨occurrences, scan⟩ := reads.exists_scan previous text
  induction scan with
  | done =>
    rw [Pattern.mask_nil]
    exact .done
  | @skip previous c rest _ quiet _ inductionHypothesis =>
    rw [reads.mask_quiet quiet]
    by_cases feeds : c = '\n'
    · exact feeds ▸ .parted
    · exact .step (inductionHypothesis (by simpa [startsLine] using feeds))
  | hit here =>
    obtain ⟨starts, _, _, _⟩ := here
    rw [inLine] at starts
    cases starts

end ServiceHost.Redaction

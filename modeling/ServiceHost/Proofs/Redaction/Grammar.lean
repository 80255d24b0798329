import Mathlib.Data.List.Basic
import ServiceHost.Redaction

/-!
Grammars tell what a pattern finds without telling how: which pieces of a text count, given the character
before and the text behind, and what is written in their place. The leftmost matches that do not overlap
are a scan of the text, and a text is masked if each of them is in masked form already.
-/

namespace ServiceHost.Redaction

/-- A piece of a text and what stands in its place once it is masked. -/
structure Occurrence where
  piece : List Char
  masked : List Char
  deriving DecidableEq, Repr

/-- Which occurrences there are behind a character, if there is one, and before the rest of a text. -/
abbrev Grammar := Option Char → Occurrence → List Char → Prop

namespace Grammar

variable {grammar : Grammar} {previous : Option Char} {c : Char} {text rest : List Char}
  {occurrence : Occurrence} {occurrences : List Occurrence}

/-- Nothing occurs at the start of a text. -/
def Quiet (grammar : Grammar) (previous : Option Char) (text : List Char) : Prop :=
  ∀ occurrence rest, text = occurrence.piece ++ rest → ¬grammar previous occurrence rest

/-- The occurrences in a text from left to right. Behind one of them the search goes on. -/
inductive Scan (grammar : Grammar) : Option Char → List Char → List Occurrence → Prop where
  | done {previous : Option Char} : Scan grammar previous [] []
  | skip {previous : Option Char} {c : Char} {rest : List Char} {occurrences : List Occurrence}
      (quiet : grammar.Quiet previous (c :: rest)) (scan : Scan grammar (some c) rest occurrences) :
      Scan grammar previous (c :: rest) occurrences
  | hit {previous : Option Char} {occurrence : Occurrence} {rest : List Char}
      {occurrences : List Occurrence} (here : grammar previous occurrence rest)
      (scan : Scan grammar occurrence.piece.getLast? rest occurrences) :
      Scan grammar previous (occurrence.piece ++ rest) (occurrence :: occurrences)

/-- All occurrences in a text from left to right are in masked form. -/
inductive Masked (grammar : Grammar) : Option Char → List Char → Prop where
  | done {previous : Option Char} : Masked grammar previous []
  | skip {previous : Option Char} {c : Char} {rest : List Char}
      (quiet : grammar.Quiet previous (c :: rest)) (behind : Masked grammar (some c) rest) :
      Masked grammar previous (c :: rest)
  | hit {previous : Option Char} {occurrence : Occurrence} {rest : List Char}
      (here : grammar previous occurrence rest) (masked : occurrence.piece = occurrence.masked)
      (behind : Masked grammar occurrence.piece.getLast? rest) :
      Masked grammar previous (occurrence.piece ++ rest)

/-- Every occurrence in a text is in masked form, also one that overlaps with another. -/
def Settled (grammar : Grammar) (text : List Char) : Prop :=
  ∀ front occurrence rest, text = front ++ (occurrence.piece ++ rest) →
    grammar front.getLast? occurrence rest → occurrence.piece = occurrence.masked

/-- A text can be scanned, and whatever a scan of it finds is in masked form. -/
def FindsMasked (grammar : Grammar) (text : List Char) : Prop :=
  (∃ occurrences, grammar.Scan none text occurrences) ∧
    ∀ occurrences, grammar.Scan none text occurrences →
      ∀ occurrence ∈ occurrences, occurrence.piece = occurrence.masked

theorem exists_of_not_quiet (found : ¬grammar.Quiet previous text) :
    ∃ occurrence rest, text = occurrence.piece ++ rest ∧ grammar previous occurrence rest := by
  simpa only [Quiet, not_forall, not_not, exists_prop] using found

end Grammar

/-- A pattern finds what a grammar tells. -/
structure Pattern.Reads (pattern : Pattern) (grammar : Grammar) : Prop where
  nonempty {previous : Option Char} {occurrence : Occurrence} {rest : List Char}
    (here : grammar previous occurrence rest) : occurrence.piece ≠ []
  finds {previous : Option Char} {occurrence : Occurrence} {rest : List Char}
    (here : grammar previous occurrence rest) :
    pattern previous (occurrence.piece ++ rest) =
      some ⟨occurrence.masked, occurrence.piece.length - 1⟩
  found {previous : Option Char} {text : List Char} {found : Found}
    (finds : pattern previous text = some found) :
    ∃ occurrence rest, text = occurrence.piece ++ rest ∧ grammar previous occurrence rest

namespace Pattern.Reads

variable {pattern : Pattern} {grammar : Grammar} {previous : Option Char} {c : Char}
  {text rest others front back : List Char} {occurrence other : Occurrence}
  {occurrences : List Occurrence}

/-- At most one piece occurs at the start of a text. -/
theorem unique (reads : pattern.Reads grammar) (here : grammar previous occurrence rest)
    (there : grammar previous other others) (same : occurrence.piece ++ rest = other.piece ++ others) :
    occurrence = other ∧ rest = others := by
  have finds := reads.finds here
  rw [same, reads.finds there, Option.some.injEq, Found.mk.injEq] at finds
  have nonempty := List.length_pos_of_ne_nil (reads.nonempty here)
  have otherNonempty := List.length_pos_of_ne_nil (reads.nonempty there)
  obtain ⟨pieces, rests⟩ := List.append_inj same (by omega)
  refine ⟨?_, rests⟩
  cases occurrence
  cases other
  exact Occurrence.mk.injEq .. ▸ ⟨pieces, finds.1.symm⟩

theorem mask_quiet (reads : pattern.Reads grammar) (quiet : grammar.Quiet previous (c :: rest)) :
    pattern.mask previous (c :: rest) = c :: pattern.mask (some c) rest := by
  apply Pattern.mask_of_none
  cases finds : pattern previous (c :: rest) with
  | none => rfl
  | some found =>
    obtain ⟨occurrence, behind, split, here⟩ := reads.found finds
    exact absurd here (quiet occurrence behind split)

theorem mask_hit (reads : pattern.Reads grammar) (here : grammar previous occurrence rest) :
    pattern.mask previous (occurrence.piece ++ rest) =
      occurrence.masked ++ pattern.mask occurrence.piece.getLast? rest := by
  have finds := reads.finds here
  cases piece : occurrence.piece with
  | nil => exact absurd piece (reads.nonempty here)
  | cons first more =>
    rw [piece, List.cons_append] at finds
    rw [List.cons_append, Pattern.mask_of_some finds, List.length_cons, Nat.add_sub_cancel,
      List.drop_left, ← List.cons_append, List.getElem?_append_left (by simp),
      List.getLast?_eq_getElem?, List.length_cons, Nat.add_sub_cancel]

/-- Every text can be scanned. -/
theorem exists_scan (reads : pattern.Reads grammar) (previous : Option Char) (text : List Char) :
    ∃ occurrences, grammar.Scan previous text occurrences := by
  induction size : text.length using Nat.strongRecOn generalizing previous text with
  | _ size inductionHypothesis =>
    subst size
    by_cases quiet : grammar.Quiet previous text
    · cases text with
      | nil => exact ⟨[], .done⟩
      | cons c rest =>
        obtain ⟨occurrences, scan⟩ := inductionHypothesis rest.length (by simp) (some c) rest rfl
        exact ⟨occurrences, .skip quiet scan⟩
    · obtain ⟨occurrence, rest, rfl, here⟩ := Grammar.exists_of_not_quiet quiet
      have nonempty := List.length_pos_of_ne_nil (reads.nonempty here)
      obtain ⟨occurrences, scan⟩ :=
        inductionHypothesis rest.length (by simp [nonempty]) occurrence.piece.getLast? rest rfl
      exact ⟨occurrence :: occurrences, .hit here scan⟩

/-- A masked text is left as it is. -/
theorem mask_eq_of_masked (reads : pattern.Reads grammar) (masked : grammar.Masked previous text) :
    pattern.mask previous text = text := by
  induction masked with
  | done => exact Pattern.mask_nil ..
  | skip quiet _ inductionHypothesis => rw [reads.mask_quiet quiet, inductionHypothesis]
  | hit here masked _ inductionHypothesis => rw [reads.mask_hit here, inductionHypothesis, masked]

theorem masked_behind (reads : pattern.Reads grammar)
    (masked : grammar.Masked previous (occurrence.piece ++ rest))
    (here : grammar previous occurrence rest) :
    occurrence.piece = occurrence.masked ∧ grammar.Masked occurrence.piece.getLast? rest := by
  generalize split : occurrence.piece ++ rest = text at masked
  cases masked with
  | done => exact absurd (List.append_eq_nil_iff.mp split).1 (reads.nonempty here)
  | skip quiet => exact absurd here (quiet _ _ split.symm)
  | hit there masked behind =>
    obtain ⟨rfl, rfl⟩ := reads.unique here there split
    exact ⟨masked, behind⟩

theorem findsMasked (reads : pattern.Reads grammar) (masked : grammar.Masked none text) :
    grammar.FindsMasked text := by
  refine ⟨reads.exists_scan none text, fun occurrences scan => ?_⟩
  generalize none = previous at masked scan
  induction scan with
  | done => simp
  | @skip previous c rest _ quiet _ inductionHypothesis =>
    refine inductionHypothesis ?_
    generalize split : c :: rest = text at masked
    cases masked with
    | done => cases split
    | skip _ behind =>
      obtain ⟨rfl, rfl⟩ := List.cons.inj split
      exact behind
    | hit here => exact absurd here (quiet _ _ split)
  | hit here _ inductionHypothesis =>
    obtain ⟨inMaskedForm, behind⟩ := reads.masked_behind masked here
    exact List.forall_mem_cons.mpr ⟨inMaskedForm, inductionHypothesis behind⟩

/-- Where every occurrence is in masked form, those that a scan finds are. -/
theorem masked_of_settled (reads : pattern.Reads grammar) (settled : grammar.Settled text) :
    grammar.Masked none text := by
  -- The scan has come behind a front of the whole text.
  have behind {previous : Option Char} {back : List Char} {occurrences : List Occurrence}
      (scan : grammar.Scan previous back occurrences) (front : List Char)
      (whole : text = front ++ back) (last : front.getLast? = previous) :
      grammar.Masked previous back := by
    induction scan generalizing front with
    | done => exact .done
    | skip quiet _ inductionHypothesis =>
      exact .skip quiet (inductionHypothesis (front ++ [_]) (by simpa using whole) (by simp))
    | @hit _ occurrence _ _ here _ inductionHypothesis =>
      subst last
      refine .hit here (settled front occurrence _ whole here)
        (inductionHypothesis (front ++ occurrence.piece) (by simpa using whole) ?_)
      rw [List.getLast?_append_of_ne_nil _ (reads.nonempty here)]
  obtain ⟨occurrences, scan⟩ := reads.exists_scan none text
  exact behind scan [] rfl rfl

end Pattern.Reads

/-- A place in a masked text: the character before it and the text from there on. It comes from a place
of the text that was masked, or it lies within what was written for an occurrence or right behind it. -/
inductive Pattern.Place (pattern : Pattern) (grammar : Grammar) (text : List Char) :
    Option Char → List Char → Prop where
  | kept {front back : List Char} (split : text = front ++ back) :
      Place pattern grammar text front.getLast? (pattern.mask front.getLast? back)
  | covered {front rest start stop : List Char} {occurrence : Occurrence}
      (split : text = front ++ (occurrence.piece ++ rest)) (here : grammar front.getLast? occurrence rest)
      (masked : occurrence.masked = start ++ stop) (started : start ≠ []) :
      Place pattern grammar text start.getLast?
        (stop ++ pattern.mask occurrence.piece.getLast? rest)

namespace Pattern.Reads

variable {pattern : Pattern} {grammar : Grammar} {previous : Option Char}
  {text front back before behind : List Char} {occurrences : List Occurrence}

theorem getLast?_cons_or {first : Char} {more : List Char} :
    (first :: more).getLast?.or previous = (first :: more).getLast? := by
  rw [List.getLast?_cons, Option.some_or]

theorem place_of_scan (reads : pattern.Reads grammar) (scan : grammar.Scan previous back occurrences)
    (whole : text = front ++ back) (last : front.getLast? = previous)
    (split : pattern.mask previous back = before ++ behind) :
    pattern.Place grammar text (before.getLast?.or previous) behind := by
  induction scan generalizing front before with
  | done =>
    rw [Pattern.mask_nil] at split
    obtain ⟨rfl, rfl⟩ := List.append_eq_nil_iff.mp split.symm
    have place : pattern.Place grammar text front.getLast? (pattern.mask front.getLast? []) := .kept whole
    simpa [last] using place
  | @skip previous c rest _ quiet _ inductionHypothesis =>
    cases before with
    | nil =>
      subst last
      rw [List.nil_append] at split
      exact split ▸ .kept whole
    | cons first more =>
      rw [reads.mask_quiet quiet, List.cons_append, List.cons.injEq] at split
      obtain ⟨rfl, split⟩ := split
      have whole : text = front ++ [c] ++ rest := by simpa using whole
      have place := inductionHypothesis whole (by simp) split
      rwa [getLast?_cons_or, List.getLast?_cons, ← Option.or_some]
  | @hit previous occurrence rest _ here _ inductionHypothesis =>
    subst last
    cases before with
    | nil =>
      rw [List.nil_append] at split
      exact split ▸ .kept whole
    | cons first more =>
      rw [reads.mask_hit here] at split
      rw [getLast?_cons_or]
      obtain ⟨beyond, started, behind_eq⟩ | ⟨stop, masked, rfl⟩ := List.append_eq_append_iff.mp split
      · cases beyond with
        | nil =>
          rw [List.append_nil] at started
          have masked : occurrence.masked = first :: more ++ [] := by rw [started, List.append_nil]
          have place : pattern.Place grammar text (first :: more).getLast? ([] ++ pattern.mask _ rest) :=
            .covered whole here masked (List.cons_ne_nil first more)
          rwa [List.nil_append, behind_eq, List.nil_append] at place
        | cons next others =>
          have whole : text = front ++ occurrence.piece ++ rest := by simpa using whole
          have place := inductionHypothesis whole
            (List.getLast?_append_of_ne_nil _ (reads.nonempty here)) behind_eq
          rwa [started, List.getLast?_append_of_ne_nil _ (by simp), ← getLast?_cons_or]
      · exact .covered whole here masked (List.cons_ne_nil first more)

/-- Every place in a masked text. -/
theorem place (reads : pattern.Reads grammar) (split : pattern.run text = before ++ behind) :
    pattern.Place grammar text before.getLast? behind := by
  obtain ⟨occurrences, scan⟩ := reads.exists_scan none text
  simpa using reads.place_of_scan scan (List.nil_append text).symm rfl split

/-- A masked text is settled if all occurrences are in masked form at the places that come from the text,
and none is within or right behind what was written. -/
theorem settled_run {other : Grammar} (reads : pattern.Reads grammar)
    (kept : ∀ {front back occurrence rest}, text = front ++ back →
      pattern.mask front.getLast? back = occurrence.piece ++ rest →
      other front.getLast? occurrence rest → occurrence.piece = occurrence.masked)
    (covered : ∀ {previous written rest start stop occurrence others}, grammar previous written rest →
      written.masked = start ++ stop → start ≠ [] →
      stop ++ pattern.mask written.piece.getLast? rest = occurrence.piece ++ others →
      ¬other start.getLast? occurrence others) :
    other.Settled (pattern.run text) := by
  intro before occurrence others split here
  have place := reads.place split
  generalize behind_eq : occurrence.piece ++ others = behind at place
  generalize before.getLast? = previous at place here
  cases place with
  | kept split => exact kept split behind_eq.symm here
  | covered _ written masked started => exact absurd here (covered written masked started behind_eq.symm)

end Pattern.Reads

end ServiceHost.Redaction

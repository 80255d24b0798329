import ServiceHost.Proofs.Redaction.Completeness
import ServiceHost.Proofs.Redaction.Headers

/-!
Parameters: what a text carries as the value of a parameter with a secret name leaves no trace. A pass finds
nothing that depends on the value: what it finds before the parameter lies before it as a whole, or takes in the
value whatever it is. What the first two passes leave of the parameter, the last one takes in.
-/

namespace ServiceHost.Redaction

namespace Parameter

/-- A character of a value that neither a parameter nor a member ends at. -/
def isHidden (c : Char) : Bool :=
  isValueChar c && c != '"'

/-- The surroundings of a value: before it a secret name at a word boundary, behind it nothing that belongs to
a value. -/
structure Slot (previous : Option Char) (name back : List Char) : Prop where
  secret : SecretName name
  bounded : Text.isBoundary previous name.head?
  ends : Stops isValueChar back

/-- Two texts are the same but for what a parameter with a secret name has as its value. -/
inductive Veiled : List Char → List Char → Prop where
  | same {text : List Char} : Veiled text text
  | differ {front name value other back : List Char} (slot : Slot front.getLast? name back)
      (hidden : ∀ c ∈ value, isHidden c) (otherHidden : ∀ c ∈ other, isHidden c) :
      Veiled (front ++ written name (value ++ back)) (front ++ written name (other ++ back))

variable {previous : Option Char} {c mark : Char}
  {front back name value other shown behind opens rest more : List Char} {kind : Char → Bool}

theorem isValueChar_of_isHidden (hidden : isHidden c) : isValueChar c :=
  (Bool.and_eq_true_iff.mp hidden).1

/-- A name that starts a word and a value that ends where the text does, or at an ampersand or a blank. -/
theorem Slot.of_edges (secret : SecretName name) (starts : previous.all fun c => !Text.isWord c)
    (ends : back.head?.all fun c => c == '&' || Text.isBlank c) : Slot previous name back where
  secret := secret
  bounded := by
    obtain ⟨first, letters, rfl⟩ := List.exists_cons_of_ne_nil secret.ne_nil
    have inWord : Text.isWord first := isWord_of_isNameChar (secret.isNameChar first List.mem_cons_self)
    cases previous with
    | none => simp [Text.isBoundary, inWord]
    | some c =>
      have outside : Text.isWord c = false := by simpa using starts
      simp [Text.isBoundary, inWord, outside]
  ends := by
    cases back with
    | nil => simp [Stops]
    | cons c back =>
      have ended : c = '&' ∨ Text.isBlank c := by simpa using ends
      rw [stops_cons, isValueChar]
      rcases ended with rfl | blank
      · rfl
      · simp [blank]

theorem isValueChar_of_mem_written (secret : SecretName name) (hidden : ∀ c ∈ shown, isHidden c) :
    ∀ c ∈ written name shown, isValueChar c := by
  intro c member
  rcases List.mem_append.mp member with inName | beyond
  · exact isValueChar_of_isNameChar (secret.isNameChar c inName)
  · rcases List.mem_cons.mp beyond with rfl | inValue
    · decide
    · exact isValueChar_of_isHidden (hidden c inValue)

theorem quote_not_hidden (hidden : ∀ c ∈ value, isHidden c) : '"' ∉ value :=
  fun member => absurd (hidden '"' member) (by decide)

/-- The first character of a name does not depend on what follows the name. -/
theorem head?_append_written (secret : SecretName name) :
    (more ++ written name behind).head? = (more ++ name).head? := by
  obtain ⟨c, letters, rfl⟩ := List.exists_cons_of_ne_nil secret.ne_nil
  cases more <;> rfl

theorem not_stops_written (secret : SecretName name) (letters : ∀ c, isNameChar c → kind c) :
    ¬Stops kind (written name behind) := by
  obtain ⟨c, more, rfl⟩ := List.exists_cons_of_ne_nil secret.ne_nil
  intro stops
  have stopped : kind c = false := stops c rfl
  rw [letters c (secret.isNameChar c List.mem_cons_self)] at stopped
  cases stopped

/-- A mark that is no part of names, with no equals sign before it, lies before a parameter. -/
theorem exists_before (letters : ∀ c ∈ name, isNameChar c) (unequal : '=' ∉ opens)
    (noName : isNameChar mark = false) (noEquals : mark ≠ '=')
    (split : front ++ written name behind = opens ++ mark :: rest) :
    ∃ more, front = opens ++ mark :: more ∧ rest = more ++ written name behind := by
  have outside : mark ∉ name := by
    intro member
    rw [letters mark member] at noName
    cases noName
  rcases List.append_eq_append_iff.mp split with ⟨more, opens_eq, named⟩ | ⟨more, front_eq, marked⟩
  · have shape : (more ++ [mark]) ++ rest = name ++ '=' :: behind := by simpa [written] using named.symm
    have inMore : '=' ∉ more := fun member => unequal (opens_eq ▸ List.mem_append_right front member)
    obtain ⟨others, rfl⟩ := exists_append_of_not_mem shape (by simp [inMore, noEquals.symm])
    exact absurd (by simp) outside
  · cases more with
    | nil =>
      cases name with
      | nil => exact absurd (List.cons.inj marked).1 noEquals
      | cons letter letters => exact absurd (List.cons.inj marked).1 fun same => outside (same ▸ List.mem_cons_self)
    | cons first more =>
      obtain ⟨rfl, rest_eq⟩ := List.cons.inj marked
      exact ⟨more, front_eq, rest_eq⟩

/-- A run that the characters of a parameter belong to ends before the parameter, or takes it in. -/
theorem run_cases (parameter : ∀ c ∈ written name value, kind c) (stops : Stops kind rest)
    (split : more ++ written name (value ++ back) = shown ++ rest) :
    (∃ others, more = shown ++ others) ∨
      ∃ others, back = others ++ rest ∧ shown = more ++ written name value ++ others := by
  rw [← written_append, ← List.append_assoc] at split
  rcases List.append_eq_append_iff.mp split with ⟨others, shown_eq, back_eq⟩ | ⟨others, whole, rest_eq⟩
  · exact .inr ⟨others, back_eq, shown_eq⟩
  -- The run ends no later than the parameter. Within the parameter it could go on.
  · rcases List.append_eq_append_iff.mp whole with ⟨inside, shown_eq, parameter_eq⟩ | ⟨inside, more_eq, _⟩
    · cases others with
      | nil =>
        rw [List.append_nil] at whole
        exact .inr ⟨[], by simpa using rest_eq.symm, by rw [← whole, List.append_nil]⟩
      | cons c others =>
        have goesOn : kind c := parameter c (by simp [parameter_eq])
        rw [rest_eq, List.cons_append, stops_cons, goesOn] at stops
        cases stops
    · exact .inl ⟨inside, more_eq⟩

/-- A run that takes in a parameter may take it in with any other value. -/
theorem run_other {others : List Char} (run : ∀ c ∈ more ++ written name value ++ others, kind c)
    (parameter : ∀ c ∈ written name other, kind c) : ∀ c ∈ more ++ written name other ++ others, kind c := by
  simp only [List.forall_mem_append] at run ⊢
  exact ⟨⟨run.1.1, parameter⟩, run.2⟩

end Parameter

open Parameter (Slot Veiled isHidden)

/-- What a pass does with two texts that go on differently behind the same front: it masks them alike, or it comes
to the end of the front and has masked the front alike. -/
inductive Pattern.Approach (pass : Pattern) (previous : Option Char) (front first second : List Char) : Prop where
  | alike (same : pass.mask previous (front ++ first) = pass.mask previous (front ++ second))
  | reached {masked : List Char} (last : masked.getLast? = front.getLast?)
      (shows : ∀ back ∈ [first, second],
        pass.mask previous (front ++ back) = masked ++ pass.mask (front.getLast?.or previous) back)

/-- A pass does not look at the value of a parameter with a secret name. -/
structure Pattern.Blind (pass : Pattern) (grammar : Grammar) : Prop where
  reads : pass.Reads grammar
  /-- Of the text behind an occurrence only the first character counts. -/
  near {previous : Option Char} {occurrence : Occurrence} {rest others : List Char}
    (here : grammar previous occurrence rest) (same : others.head? = rest.head?) :
    grammar previous occurrence others
  /-- Right before a parameter an occurrence ends as its masked form does. -/
  closes {previous : Option Char} {occurrence : Occurrence} {name behind : List Char} (secret : SecretName name)
    (here : grammar previous occurrence (Parameter.written name behind)) :
    occurrence.masked.getLast? = occurrence.piece.getLast?
  /-- An occurrence lies before the parameter, or it is there for every value and hides it. -/
  crosses {previous : Option Char} {occurrence : Occurrence} {front name value other back rest : List Char}
    (slot : Slot (front.getLast?.or previous) name back) (hidden : ∀ c ∈ value, isHidden c)
    (otherHidden : ∀ c ∈ other, isHidden c) (here : grammar previous occurrence rest)
    (split : front ++ Parameter.written name (value ++ back) = occurrence.piece ++ rest) :
    (∃ more, front = occurrence.piece ++ more) ∨
      ∃ piece, grammar previous ⟨piece, occurrence.masked⟩ rest ∧
        front ++ Parameter.written name (other ++ back) = piece ++ rest ∧
        pass.mask piece.getLast? rest = pass.mask occurrence.piece.getLast? rest

section Blind

variable {pass : Pattern} {grammar : Grammar} {previous : Option Char} {c : Char} {occurrence : Occurrence}
  {front name value other back more behind behinds text first second : List Char}

/-- A pass that skips a character skips it in both texts. -/
theorem Pattern.Approach.skip (reads : pass.Reads grammar) (approach : pass.Approach (some c) more first second)
    (quiet : ∀ back ∈ [first, second], grammar.Quiet previous (c :: (more ++ back))) :
    pass.Approach previous (c :: more) first second := by
  have masks : ∀ back ∈ [first, second],
      pass.mask previous (c :: more ++ back) = c :: pass.mask (some c) (more ++ back) :=
    fun back member => reads.mask_quiet (quiet back member)
  cases approach with
  | alike same => exact .alike (by rw [masks first (by simp), masks second (by simp), same])
  | @reached masked last shows =>
    have ends : (c :: masked).getLast? = (c :: more).getLast? := by rw [List.getLast?_cons, List.getLast?_cons, last]
    refine .reached ends fun back member => ?_
    rw [masks back member, shows back member, List.getLast?_cons, Option.some_or, Option.or_some, List.cons_append]

/-- A pass that finds something in the front finds it in both texts. -/
theorem Pattern.Approach.jump (reads : pass.Reads grammar)
    (approach : pass.Approach occurrence.piece.getLast? more first second)
    (here : ∀ back ∈ [first, second], grammar previous occurrence (more ++ back))
    (closes : more = [] → occurrence.masked.getLast? = occurrence.piece.getLast?) :
    pass.Approach previous (occurrence.piece ++ more) first second := by
  have masks : ∀ back ∈ [first, second], pass.mask previous (occurrence.piece ++ more ++ back) =
      occurrence.masked ++ pass.mask occurrence.piece.getLast? (more ++ back) := by
    intro back member
    rw [List.append_assoc, reads.mask_hit (here back member)]
  cases approach with
  | alike same => exact .alike (by rw [masks first (by simp), masks second (by simp), same])
  | @reached masked last shows =>
    have ends : (occurrence.masked ++ masked).getLast? = (occurrence.piece ++ more).getLast? := by
      rw [List.getLast?_append, List.getLast?_append, last]
      cases more with
      | nil => rw [closes rfl]
      | cons c more => rw [List.getLast?_cons, Option.some_or, Option.some_or]
    refine .reached ends fun back member => ?_
    obtain ⟨c, others, piece⟩ := List.exists_cons_of_ne_nil (reads.nonempty (here back member))
    rw [masks back member, shows back member, List.getLast?_append, Option.or_assoc, piece,
      Pattern.Reads.getLast?_cons_or, List.append_assoc]

namespace Pattern.Blind

theorem near_parameter (blind : pass.Blind grammar) (secret : SecretName name)
    (here : grammar previous occurrence (more ++ Parameter.written name behind)) :
    grammar previous occurrence (more ++ Parameter.written name behinds) :=
  blind.near here (by rw [Parameter.head?_append_written secret, Parameter.head?_append_written secret])

theorem quiet_of_quiet (blind : pass.Blind grammar) (slot : Slot (front.getLast?.or previous) name back)
    (hidden : ∀ c ∈ value, isHidden c) (otherHidden : ∀ c ∈ other, isHidden c)
    (quiet : grammar.Quiet previous (front ++ Parameter.written name (value ++ back))) :
    grammar.Quiet previous (front ++ Parameter.written name (other ++ back)) := by
  intro occurrence rest split here
  rcases blind.crosses slot otherHidden hidden here split with ⟨more, rfl⟩ | ⟨piece, there, taken, _⟩
  · rw [List.append_assoc, List.append_cancel_left_eq] at split
    exact quiet occurrence _ (List.append_assoc ..) (blind.near_parameter slot.secret (split ▸ here))
  · exact quiet ⟨piece, occurrence.masked⟩ rest taken there

/-- Whatever the value of a parameter is, a pass masks the text alike, or masks alike what lies before it. -/
theorem approach (blind : pass.Blind grammar) (slot : Slot (front.getLast?.or previous) name back)
    (hidden : ∀ c ∈ value, isHidden c) (otherHidden : ∀ c ∈ other, isHidden c) :
    pass.Approach previous front (Parameter.written name (value ++ back))
      (Parameter.written name (other ++ back)) := by
  -- The pass skips one character or jumps over an occurrence, in both texts at once.
  induction size : front.length using Nat.strongRecOn generalizing previous front with
  | _ size inductionHypothesis =>
    subst size
    by_cases quiet : grammar.Quiet previous (front ++ Parameter.written name (value ++ back))
    · have otherQuiet := blind.quiet_of_quiet slot hidden otherHidden quiet
      cases front with
      | nil => exact .reached rfl (by simp)
      | cons c more =>
        rw [List.getLast?_cons, Option.some_or, ← Option.or_some] at slot
        exact (inductionHypothesis more.length (by simp) slot rfl).skip blind.reads
          (by simpa using ⟨quiet, otherQuiet⟩)
    · obtain ⟨occurrence, rest, split, here⟩ := Grammar.exists_of_not_quiet quiet
      rcases blind.crosses slot hidden otherHidden here split with ⟨more, rfl⟩ | ⟨piece, there, taken, same⟩
      · have nonempty := blind.reads.nonempty here
        have shorter : more.length < (occurrence.piece ++ more).length := by
          simp [List.length_pos_iff, nonempty]
        rw [List.append_assoc, List.append_cancel_left_eq] at split
        subst split
        have behind : Slot (more.getLast?.or occurrence.piece.getLast?) name back := by
          obtain ⟨c, others, piece⟩ := List.exists_cons_of_ne_nil nonempty
          rwa [List.getLast?_append, Option.or_assoc, piece, Pattern.Reads.getLast?_cons_or, ← piece] at slot
        refine (inductionHypothesis more.length shorter behind rfl).jump blind.reads ?_ ?_
        · simpa using ⟨here, blind.near_parameter slot.secret here⟩
        · rintro rfl
          exact blind.closes slot.secret here
      · refine .alike ?_
        rw [split, taken, blind.reads.mask_hit here, blind.reads.mask_hit there, same]

/-- Texts that are the same but for a secret value stay so, where a pass leaves the parameter as it is. -/
theorem veiled_run (blind : pass.Blind grammar)
    (keeps : ∀ {previous name back}, SecretName name → ∃ behind, behind.head? = back.head? ∧
      ∀ shown, (∀ c ∈ shown, isHidden c) → pass.mask previous (Parameter.written name (shown ++ back)) =
        Parameter.written name (shown ++ behind))
    (veiled : Veiled text other) : Veiled (pass.run text) (pass.run other) := by
  cases veiled with
  | same => exact .same
  | @differ front name value other back slot hidden otherHidden =>
    have slotted : Slot (front.getLast?.or none) name back := by rwa [Option.or_none]
    cases blind.approach slotted hidden otherHidden with
    | alike same =>
      rw [Pattern.run, Pattern.run, same]
      exact .same
    | @reached masked last shows =>
      obtain ⟨behind, head, kept⟩ := keeps slot.secret
      rw [Pattern.run, Pattern.run, shows _ (by simp), shows _ (by simp), kept value hidden,
        kept other otherHidden]
      refine .differ ⟨slot.secret, last ▸ slot.bounded, ?_⟩ hidden otherHidden
      rw [Stops, head]
      exact slot.ends

end Pattern.Blind

end Blind

namespace HeaderLine

variable {previous other : Option Char} {c : Char} {front name text back shown : List Char}
  {occurrence : Occurrence} {rest : List Char}

/-- A header line goes on wherever a parameter does. -/
theorem isValueChar_of_isValueChar (valued : Parameter.isValueChar c) : isValueChar c := by
  by_contra breaks
  have lineBreak : c = '\r' ∨ c = '\n' := by
    simp only [isValueChar, Bool.and_eq_true, bne_iff_ne] at breaks
    tauto
  rcases lineBreak with rfl | rfl <;> exact absurd valued (by decide)

/-- Off the start of a line it does not matter what stands before a text. -/
theorem mask_inLine (inLine : startsLine previous = false) (otherInLine : startsLine other = false) :
    pattern.mask previous text = pattern.mask other text := by
  cases text with
  | nil => rw [Pattern.mask_nil, Pattern.mask_nil]
  | cons c rest =>
    rw [reads.mask_quiet (quiet_of_inLine inLine), reads.mask_quiet (quiet_of_inLine otherInLine)]

theorem mask_append_inLine (inLine : startsLine previous = false) (feedless : '\n' ∉ front) :
    pattern.mask previous (front ++ back) = front ++ pattern.mask previous back := by
  induction front generalizing previous with
  | nil => rfl
  | cons c front inductionHypothesis =>
    rw [List.mem_cons, not_or] at feedless
    have behind : startsLine (some c) = false := by simpa [startsLine] using Ne.symm feedless.1
    rw [List.cons_append, reads.mask_quiet (quiet_of_inLine inLine), inductionHypothesis behind feedless.2,
      mask_inLine behind inLine, List.cons_append]

theorem Opening.equals_not_mem {gap : List Char} (opening : Opening name gap) : '=' ∉ name ++ gap := by
  have inName : '=' ∉ name := opening.separator_not_mem (by decide)
  have inGap : '=' ∉ gap := not_mem_gap opening.gaps (by decide)
  simp [inName, inGap]

/-- No header line starts at a name that an equals sign follows. -/
theorem quiet_written (letters : ∀ c ∈ name, isNameChar c) :
    Grammar.Quiet Match previous (Parameter.written name back) := by
  intro occurrence rest split here
  cases here with
  | @intro header gap value _ _ opening =>
    have shape : [] ++ Parameter.written name back = (header ++ gap) ++ ':' :: (value ++ rest) := by
      simpa [written] using split
    obtain ⟨more, empty, _⟩ :=
      Parameter.exists_before letters opening.equals_not_mem (by decide) (by decide) shape
    simp at empty

/-- Masking header lines leaves a parameter at the start of a text as it is. -/
theorem mask_written (letters : ∀ c ∈ name, isNameChar c) (feedless : '\n' ∉ shown) :
    pattern.mask previous (Parameter.written name (shown ++ back)) =
      Parameter.written name (shown ++ pattern.mask (some '=') back) := by
  induction name generalizing previous with
  | nil =>
    have quiet : Grammar.Quiet Match previous ('=' :: (shown ++ back)) := quiet_written letters
    show pattern.mask previous ('=' :: (shown ++ back)) = _
    rw [reads.mask_quiet quiet, mask_append_inLine (by decide) feedless]
    rfl
  | cons c name inductionHypothesis =>
    have quiet : Grammar.Quiet Match previous (c :: Parameter.written name (shown ++ back)) := quiet_written letters
    show pattern.mask previous (c :: Parameter.written name (shown ++ back)) = _
    rw [reads.mask_quiet quiet, inductionHypothesis fun c member => letters c (List.mem_cons_of_mem _ member)]
    rfl

theorem blind : pattern.Blind Match where
  reads := reads
  near := Match.of_head?
  closes secret here := by
    obtain ⟨_, _, _, ends⟩ := here
    refine absurd ends (Parameter.not_stops_written secret fun c letter => ?_)
    exact isValueChar_of_isValueChar (Parameter.isValueChar_of_isNameChar letter)
  crosses := by
    intro previous occurrence front name value other back rest slot hidden otherHidden here split
    cases here with
    | @intro header gap shown _ starts opening valued ends =>
      have shape : front ++ Parameter.written name (value ++ back) = (header ++ gap) ++ ':' :: (shown ++ rest) := by
        simpa [written] using split
      have taken {value : List Char} (hidden : ∀ c ∈ value, isHidden c) :
          ∀ c ∈ Parameter.written name value, isValueChar c := fun c member =>
        isValueChar_of_isValueChar (Parameter.isValueChar_of_mem_written slot.secret hidden c member)
      obtain ⟨more, rfl, within⟩ :=
        Parameter.exists_before slot.secret.isNameChar opening.equals_not_mem (by decide) (by decide) shape
      rcases Parameter.run_cases (taken hidden) ends within.symm with
        ⟨others, rfl⟩ | ⟨others, rfl, rfl⟩
      · exact .inl ⟨others, by simp [written]⟩
      · have here : Match previous _ rest := .intro starts opening valued ends
        have there : Match previous
            ⟨written header gap (more ++ Parameter.written name other ++ others), written header [] (' ' :: mark)⟩
              rest :=
          .intro starts opening (Parameter.run_other valued (taken otherHidden)) ends
        refine .inr ⟨_, there, ?_, mask_inLine there.startsLine_getLast? here.startsLine_getLast?⟩
        simp [written, Parameter.written]

/-- Masking header lines shows nothing of a secret value. -/
theorem veiled_run {text other : List Char} (veiled : Veiled text other) :
    Veiled (pattern.run text) (pattern.run other) := by
  refine blind.veiled_run
    (fun {_ _ back} secret => ⟨pattern.mask (some '=') back, ?_, fun shown hidden => ?_⟩) veiled
  · exact (sameUpTo_mask (by decide)).symm.head?_eq
  · refine mask_written secret.isNameChar fun member => ?_
    exact absurd (hidden '\n' member) (by decide)

end HeaderLine

namespace Member

variable {text other name before after value : List Char}

theorem getLast?_written : (written name before after (value ++ ['"'])).getLast? = some '"' := by
  rw [written_eq_append, List.getLast?_append_cons, ← List.cons_append, List.getLast?_concat]

theorem blind : pattern.Blind Match where
  reads := reads
  near here _ := here.anywhere
  closes _ here := by
    obtain ⟨_, _⟩ := here
    rw [getLast?_written, getLast?_written]
  crosses := by
    intro previous occurrence front name value other back rest slot hidden otherHidden here split
    cases here with
    | @intro named before after shown _ opening unquoted =>
      have unequal : '=' ∉ '"' :: (named ++ '"' :: (before ++ ':' :: after)) :=
        fun member => opening.equals_not_mem (List.mem_append_left _ member)
      have shape : front ++ Parameter.written name (value ++ back) =
          '"' :: (named ++ '"' :: (before ++ ':' :: after)) ++ '"' :: (shown ++ '"' :: rest) := by
        simpa [written] using split
      have letters : ∀ c, isNameChar c → c != '"' := fun c letter => bne_iff_ne.mpr (by rintro rfl; cases letter)
      have taken {value : List Char} (hidden : ∀ c ∈ value, isHidden c) :
          '"' ∉ Parameter.written name value := by
        have inName : '"' ∉ name := slot.secret.not_mem (by decide)
        simp [Parameter.written, inName, Parameter.quote_not_hidden hidden]
      obtain ⟨more, rfl, within⟩ :=
        Parameter.exists_before slot.secret.isNameChar unequal (by decide) (by decide) shape
      rcases Parameter.run_cases (run_value (taken hidden)) stops_value within.symm with
        ⟨others, rfl⟩ | ⟨others, rfl, rfl⟩
      · rw [List.append_assoc, List.append_cancel_left_eq] at within
        cases others with
        | nil =>
          rw [List.nil_append] at within
          have stops : Stops (· != '"') (Parameter.written name (value ++ back)) := within ▸ stops_value
          exact absurd stops (Parameter.not_stops_written slot.secret letters)
        | cons c others =>
          obtain ⟨rfl, _⟩ := List.cons.inj within
          exact .inl ⟨others, by simp [written]⟩
      · simp only [List.mem_append, not_or] at unquoted
        have there : Match previous ⟨written named before after
            (more ++ Parameter.written name other ++ others ++ ['"']), written named [] [] (mark ++ ['"'])⟩ rest :=
          .intro opening (by simp [unquoted, taken otherHidden])
        exact .inr ⟨_, there, by simp [written, Parameter.written], by rw [mask_eq_run, mask_eq_run]⟩

/-- Masking members shows nothing of a secret value. -/
theorem veiled_run (veiled : Veiled text other) : Veiled (pattern.run text) (pattern.run other) := by
  refine blind.veiled_run (fun {_ name back} secret => ⟨pattern.run back, ?_, fun shown hidden => ?_⟩) veiled
  · exact sameUpTo_mask.symm.head?_eq
  · have inName : '"' ∉ name := secret.not_mem (by decide)
    rw [mask_eq_run, ← Parameter.written_append, run_append, Parameter.written_append]
    simp [Parameter.written, inName, Parameter.quote_not_hidden hidden]

end Member

namespace Parameter

variable {previous other : Option Char} {name value rest back text : List Char} {occurrence : Occurrence}

theorem Match.of_head? {others : List Char} (here : Match previous occurrence rest)
    (same : others.head? = rest.head?) : Match previous occurrence others := by
  obtain ⟨secret, bounded, valued, ends⟩ := here
  refine .intro secret bounded valued ?_
  rwa [Stops, same]

/-- Where no value goes on, no parameter starts. -/
theorem quiet_of_stops (ends : Stops isValueChar back) : Grammar.Quiet Match previous back := by
  rintro _ rest rfl ⟨secret, _, _, _⟩
  rw [written_append] at ends
  exact absurd ends (not_stops_written secret fun _ => isValueChar_of_isNameChar)

/-- Behind a value parameters are masked alike, whatever the value is. -/
theorem mask_of_stops (ends : Stops isValueChar back) : pattern.mask previous back = pattern.mask other back := by
  cases back with
  | nil => rw [Pattern.mask_nil, Pattern.mask_nil]
  | cons c back => rw [reads.mask_quiet (quiet_of_stops ends), reads.mask_quiet (quiet_of_stops ends)]

/-- No word goes on into the name of a parameter. -/
theorem Slot.letter_not_before {front : List Char} (slot : Slot (front.getLast?.or previous) name back)
    (letters : ∀ c ∈ front, isNameChar c) : front = [] := by
  by_contra nonempty
  obtain ⟨first, more, rfl⟩ := List.exists_cons_of_ne_nil slot.secret.ne_nil
  obtain ⟨last, isLast⟩ : ∃ last, front.getLast? = some last :=
    ⟨_, List.getLast?_eq_getLast_of_ne_nil nonempty⟩
  have inWord : Text.isWord first := isWord_of_isNameChar (slot.secret.isNameChar first (by simp))
  have before : Text.isWord last := isWord_of_isNameChar (letters last (List.mem_of_getLast? isLast))
  have bounded := slot.bounded
  simp [isLast, Text.isBoundary, inWord, before] at bounded

/-- What a parameter is found by is the name in the slot, or it lies before the slot. -/
theorem Slot.exists_equals {front named behind : List Char} (slot : Slot (front.getLast?.or previous) name back)
    (secret : SecretName named) (split : front ++ written name behind = written named rest) :
    (front = [] ∧ named = name ∧ rest = behind) ∨
      ∃ more, front = written named more ∧ rest = more ++ written name behind := by
  rcases List.append_eq_append_iff.mp split with ⟨more, named_eq, equals⟩ | ⟨more, front_eq, equals⟩
  · left
    obtain ⟨rfl, rest_eq⟩ := run_unique slot.secret.isNameChar stops_name
      (fun c member => secret.isNameChar c (by simp [named_eq, member])) stops_name equals
    obtain rfl := slot.letter_not_before fun c member => secret.isNameChar c (by simp [named_eq, member])
    exact ⟨rfl, named_eq, (List.cons.inj rest_eq).2.symm⟩
  · right
    cases more with
    | nil =>
      have stops : Stops isNameChar (written name behind) := by
        rw [List.nil_append] at equals
        exact equals ▸ stops_name
      exact absurd stops (not_stops_written slot.secret fun _ => id)
    | cons first more =>
      obtain ⟨rfl, rest_eq⟩ := List.cons.inj equals
      exact ⟨more, front_eq, rest_eq⟩

theorem blind : pattern.Blind Match where
  reads := reads
  near := Match.of_head?
  closes secret here := by
    obtain ⟨_, _, _, ends⟩ := here
    exact absurd ends (not_stops_written secret fun _ => isValueChar_of_isNameChar)
  crosses := by
    intro previous occurrence front name value other back rest slot hidden otherHidden here split
    cases here with
    | @intro named shown _ secret bounded valued ends =>
      rw [written_append] at split
      rcases slot.exists_equals secret split with ⟨rfl, rfl, within⟩ | ⟨more, rfl, within⟩
      · obtain ⟨rfl, rfl⟩ := run_unique valued ends (fun c member => isValueChar_of_isHidden (hidden c member))
          slot.ends within
        have there : Match previous ⟨written named other, written named mark⟩ rest :=
          .intro secret bounded (fun c member => isValueChar_of_isHidden (otherHidden c member)) ends
        exact .inr ⟨_, there, written_append.symm, mask_of_stops ends⟩
      · rcases run_cases (isValueChar_of_mem_written slot.secret hidden) ends within.symm with
          ⟨others, rfl⟩ | ⟨others, rfl, rfl⟩
        · exact .inl ⟨others, by simp [written]⟩
        · have there : Match previous
              ⟨written named (more ++ written name other ++ others), written named mark⟩ rest :=
            .intro secret bounded (run_other valued (isValueChar_of_mem_written slot.secret otherHidden)) ends
          exact .inr ⟨_, there, by simp [written], mask_of_stops ends⟩

/-- Masking parameters leaves nothing of a secret value. -/
theorem run_eq {text other : List Char} (veiled : Veiled text other) : pattern.run text = pattern.run other := by
  cases veiled with
  | same => rfl
  | @differ front name value other back slot hidden otherHidden =>
    have slotted : Slot (front.getLast?.or none) name back := by rwa [Option.or_none]
    cases blind.approach slotted hidden otherHidden with
    | alike same => exact same
    | @reached masked _ shows =>
      have taken {shown : List Char} (hidden : ∀ c ∈ shown, isHidden c) :
          pattern.mask (front.getLast?.or none) (written name (shown ++ back)) =
            written name mark ++ pattern.mask none back := by
        have here : Match (front.getLast?.or none) ⟨written name shown, written name mark⟩ back :=
          .intro slot.secret slotted.bounded (fun c member => isValueChar_of_isHidden (hidden c member)) slot.ends
        have behind : pattern.mask (written name shown).getLast? back = pattern.mask none back :=
          mask_of_stops slot.ends
        have masks := reads.mask_hit here
        rwa [written_append, behind] at masks
      rw [Pattern.run, Pattern.run, shows _ (by simp), shows _ (by simp), taken hidden, taken otherHidden]

end Parameter

/-- Redaction leaves nothing of the value of a parameter with a secret name. -/
theorem redactChars_eq {text other : List Char} (veiled : Parameter.Veiled text other) :
    redactChars text = redactChars other :=
  Parameter.run_eq (Member.veiled_run (HeaderLine.veiled_run veiled))

/-- The value of a parameter with a secret name has no influence on the redacted text, whatever the texts around
the parameter are. The name starts a word, and an ampersand or a blank ends the value if the text does not. -/
theorem redact_parameter_eq {before name value other behind : String}
    (starts : before.toList.getLast?.all fun c => !Text.isWord c) (secret : SecretName name.toList)
    (hidden : ∀ c ∈ value.toList, isHidden c) (otherHidden : ∀ c ∈ other.toList, isHidden c)
    (ends : behind.toList.head?.all fun c => c == '&' || Text.isBlank c) :
    redact (before ++ name ++ "=" ++ value ++ behind) = redact (before ++ name ++ "=" ++ other ++ behind) := by
  have slot : Slot before.toList.getLast? name.toList behind.toList := .of_edges secret starts ends
  have chars (shown : String) : (before ++ name ++ "=" ++ shown ++ behind).toList =
      before.toList ++ Parameter.written name.toList (shown.toList ++ behind.toList) := by
    simp [Parameter.written]
  rw [redact, redact, chars value, chars other, redactChars_eq (.differ slot hidden otherHidden)]

/-- The parameter stands behind a cookie, within a member and within another parameter, and more secrets follow. -/
theorem redact_parameter_eq_nested :
    redact ("Cookie: a\n\n\"token\": \"key=?" ++ "Api_KEY" ++ "=" ++ "" ++ "&secret=s\", \"key\":\"k\"") =
      redact ("Cookie: a\n\n\"token\": \"key=?" ++ "Api_KEY" ++ "=" ++ "x:[REDACTED]='" ++
        "&secret=s\", \"key\":\"k\"") := by
  have secret : SecretName ("Api_".toList ++ "KEY".toList) :=
    .intro (List.all_eq_true.mp (by decide)) (by decide)
  exact redact_parameter_eq (by decide) secret (List.all_eq_true.mp (by decide)) (List.all_eq_true.mp (by decide))
    (by decide)

end ServiceHost.Redaction

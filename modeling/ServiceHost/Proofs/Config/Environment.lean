import Mathlib.Algebra.Group.Nat.Defs
import Mathlib.Data.List.Forall2
import Mathlib.Logic.Relation
import ServiceHost.Config.Variables
import ServiceHost.Proofs.Config.Settings
import ServiceHost.Proofs.Text.Numeral
import ServiceHost.Proofs.Text.Splitting
import ServiceHost.Proofs.Trace.TraceId

/-!
Environment: what the texts of the variables tell, and that exactly what is told is read. A builder takes the settings
that the variables tell; the first variable that tells nothing decides the error. A list of default routes tells the
same however its items are ordered, repeated, cased and padded.
-/

namespace ServiceHost

namespace Text

variable {text before after : List Char}

/-- The text without the blanks at its two ends. -/
abbrev trimmed (text : List Char) : List Char :=
  stripWhere isBlank text

theorem mem_dropWhile {drop : Char → Bool} {c : Char} (member : c ∈ text) (kept : drop c = false) :
    c ∈ text.dropWhile drop := by
  rw [← List.takeWhile_append_dropWhile (p := drop) (l := text), List.mem_append] at member
  refine member.resolve_left fun dropped => ?_
  rw [List.mem_takeWhile_imp dropped] at kept
  exact absurd kept (by decide)

/-- Only what is dropped is stripped. -/
theorem mem_stripWhere {drop : Char → Bool} {c : Char} (member : c ∈ text) (kept : drop c = false) :
    c ∈ stripWhere drop text := by
  rw [stripWhere, List.mem_reverse]
  exact mem_dropWhile (List.mem_reverse.mpr (mem_dropWhile member kept)) kept

/-- The items of a list with commas between them, trimmed and without the blank ones. -/
def entries (text : List Char) : List (List Char) :=
  ((text.splitOn ',').map trimmed).filter (· ≠ [])

end Text

namespace Variable

/-- A text tells a number of seconds: trimmed it is a numeral or a plus sign and a numeral, and the number is below two
to the sixty-fourth. -/
structure TellsSeconds (text : String) (seconds : Nat) : Prop where
  numeral : Text.IsNumeral (Text.unsigned (Text.trimmed text.toList))
  value : Text.numeralValue (Text.unsigned (Text.trimmed text.toList)) = seconds
  small : seconds < 2 ^ 64

/-- An item is the name of a default route in any ASCII case. -/
def Names (item : List Char) (route : DefaultRoute) : Prop :=
  item.map Char.toLower = route.name.toList

instance (item : List Char) (route : DefaultRoute) : Decidable (Names item route) :=
  inferInstanceAs (Decidable (_ = _))

/-- A text tells default routes: it is the word for all of them, or a list of their names. -/
inductive TellsRoutes (text : String) : List DefaultRoute → Prop where
  | all : (Text.trimmed text.toList).map Char.toLower = "all".toList → TellsRoutes text DefaultRoute.all
  | listed {routes : List DefaultRoute} : List.Forall₂ Names (Text.entries text.toList) routes →
      TellsRoutes text routes

/-- The setting that the text of a variable tells. -/
inductive Tells : Variable → String → Setting → Prop where
  | address {text : String} : Tells .address text (.address text)
  | traceHeader {text : String} : Tells .traceHeader text (.traceHeader text)
  | shutdownTimeout {text : String} {seconds : Nat} : TellsSeconds text seconds →
      Tells .shutdownTimeout text (.shutdownTimeout (.ofSeconds seconds))
  | requestTimeout {text : String} {seconds : Nat} : TellsSeconds text seconds →
      Tells .requestTimeout text (.requestTimeout (.ofSeconds seconds))
  | defaultRoutes {text : String} {routes : List DefaultRoute} : TellsRoutes text routes →
      Tells .defaultRoutes text (.enable routes)

/-- Why the text of a variable tells nothing. In a list the first item that is no name is the reason. -/
inductive Fault : Variable → String → String → Prop where
  | shutdownTimeout {text : String} {fault : Text.NumeralError} :
      Text.NaturalFault (2 ^ 64) (Text.trimmed text.toList) fault → Fault .shutdownTimeout text fault.message
  | requestTimeout {text : String} {fault : Text.NumeralError} :
      Text.NaturalFault (2 ^ 64) (Text.trimmed text.toList) fault → Fault .requestTimeout text fault.message
  | defaultRoutes {text : String} {before after : List (List Char)} {item : List Char} :
      (Text.trimmed text.toList).map Char.toLower ≠ "all".toList →
      Text.entries text.toList = before ++ item :: after → (∀ earlier ∈ before, ∃ route, Names earlier route) →
      (∀ route, ¬Names item route) →
      Fault .defaultRoutes text (DefaultRoute.unknownMessage (String.ofList item))

/-- Those of the asked variables that are set, with their texts. -/
def present (lookup : String → Option String) (asked : List Variable) : List (Variable × String) :=
  asked.filterMap fun variable_ => (lookup variable_.name).map (variable_, ·)

/-- One alteration of the items of a list that tells nothing else: another order, an item once more, letters in another
case, blanks around an item, a blank item. -/
inductive Alteration : List (List Char) → List (List Char) → Prop where
  | order {items others : List (List Char)} : items.Perm others → Alteration items others
  | repetition {items : List (List Char)} {item : List Char} : item ∈ items → Alteration items (item :: items)
  | case {front back : List (List Char)} {item other : List Char} : item.map Char.toLower = other.map Char.toLower →
      Alteration (front ++ item :: back) (front ++ other :: back)
  | padding {front back : List (List Char)} {before item after : List Char} : (∀ c ∈ before, Text.isBlank c) →
      (∀ c ∈ after, Text.isBlank c) →
      Alteration (front ++ item :: back) (front ++ (before ++ item ++ after) :: back)
  | blank {front back : List (List Char)} {item : List Char} : (∀ c ∈ item, Text.isBlank c) →
      Alteration (front ++ back) (front ++ item :: back)

/-- The text of a list with these items. -/
def listText (items : List (List Char)) : String :=
  String.ofList ([','].intercalate items)

end Variable

open Variable

variable {text : String} {item other : List Char} {route : DefaultRoute} {routes : List DefaultRoute}
  {items others : List (List Char)} {variable_ : Variable} {setting : Setting} {reason : String} {seconds : Nat}

/-! ### Results -/

section Results

universe u

variable {α β : Type u} {fault : Type} {result : Except fault α} {make : α → β} {value : β} {error : fault}

theorem map_eq_ok_iff : result.map make = .ok value ↔ ∃ inner, result = .ok inner ∧ make inner = value := by
  cases result <;> simp [Except.map]

theorem map_eq_error_iff : result.map make = .error error ↔ result = .error error := by
  cases result <;> simp [Except.map]

end Results

/-! ### Seconds -/

/-- A duration is read exactly from the texts that tell its seconds. -/
theorem Variable.readSeconds_eq_ok_iff {limit : Duration} :
    readSeconds text = .ok limit ↔ ∃ seconds, TellsSeconds text seconds ∧ limit = .ofSeconds seconds := by
  rw [readSeconds]
  constructor
  · intro read
    split at read
    · rename_i seconds natural
      obtain ⟨numeral, value, small⟩ := (Text.readNatural_eq_ok_iff (by decide)).mp natural
      exact ⟨seconds, ⟨numeral, value, small⟩, (Except.ok.inj read).symm⟩
    · exact absurd read (by simp)
  · rintro ⟨seconds, tells, rfl⟩
    have natural : Text.readNatural Text.wordBound (Text.trimmed text.toList) = .ok seconds :=
      (Text.readNatural_eq_ok_iff (by decide)).mpr ⟨tells.numeral, tells.value, tells.small⟩
    rw [natural]

/-- What is not read as seconds has a fault, and the reason says which. -/
theorem Variable.fault_of_readSeconds (read : readSeconds text = .error reason) :
    ∃ fault, Text.NaturalFault (2 ^ 64) (Text.trimmed text.toList) fault ∧ reason = fault.message := by
  rw [readSeconds] at read
  split at read
  · exact absurd read (by simp)
  · rename_i fault faulty
    exact ⟨fault, Text.naturalFault_of_readNatural faulty (by decide), (Except.error.inj read).symm⟩

/-! ### Default routes -/

/-- The default route of a name is found exactly by its name. -/
theorem DefaultRoute.ofName?_eq_some_iff : ofName? (String.ofList item) = some route ↔ Names item route := by
  have lower (route : DefaultRoute) : route.name.toList.map Char.toLower = route.name.toList := by
    cases route <;> decide
  constructor
  · intro found
    obtain ⟨same, -⟩ := List.find?_eq_some_iff_append.mp found
    rw [Text.sameAsciiCaseless, beq_iff_eq, lower, String.toList_ofList] at same
    exact same.symm
  · intro names
    have same : ofName? (String.ofList item) = ofName? route.name := by
      simp only [ofName?, Text.sameAsciiCaseless, String.toList_ofList, names.trans (lower route).symm]
    rw [same, ofName?_name]

theorem Variable.not_names_nil : ¬Names [] route := by
  cases route <;> decide

theorem Variable.Names.ne_all (names : Names item route) : item.map Char.toLower ≠ "all".toList := by
  rw [names]
  cases route <;> decide

theorem Variable.listedNames_eq (text : String) :
    listedNames text = (Text.entries text.toList).map String.ofList := by
  have blank (item : List Char) : (!(String.ofList item).isEmpty) = decide (item ≠ []) := by
    cases item <;> simp
  simp only [listedNames, Text.entries, Text.pieces_eq_splitOn, List.filter_map, List.map_map, Function.comp_def, blank]

/-- Default routes are read exactly from their names. -/
theorem Variable.readNames_eq_ok_iff :
    readNames (items.map String.ofList) = .ok routes ↔ List.Forall₂ Names items routes := by
  induction items generalizing routes with
  | nil => simp [readNames, eq_comm]
  | cons item items inductionHypothesis =>
    rw [List.map_cons, readNames]
    cases named : DefaultRoute.ofName? (String.ofList item) with
    | none =>
      refine iff_of_false (by simp) fun whole => ?_
      cases whole with
      | cons names _ =>
        rw [DefaultRoute.ofName?_eq_some_iff.mpr names] at named
        cases named
    | some route =>
      have names := DefaultRoute.ofName?_eq_some_iff.mp named
      rw [map_eq_ok_iff]
      constructor
      · rintro ⟨others, later, rfl⟩
        exact .cons names (inductionHypothesis.mp later)
      · intro whole
        cases whole with
        | cons other later =>
          have same := named.symm.trans (DefaultRoute.ofName?_eq_some_iff.mpr other)
          exact ⟨_, inductionHypothesis.mpr later, by rw [Option.some.inj same]⟩

/-- What is not read as default routes has a first item that is no name. -/
theorem Variable.exists_first_unknown (read : readNames (items.map String.ofList) = .error reason) :
    ∃ before item after, items = before ++ item :: after ∧ (∀ earlier ∈ before, ∃ route, Names earlier route) ∧
      (∀ route, ¬Names item route) ∧ reason = DefaultRoute.unknownMessage (String.ofList item) := by
  induction items with
  | nil => exact absurd read (by simp [readNames])
  | cons item items inductionHypothesis =>
    rw [List.map_cons, readNames] at read
    cases named : DefaultRoute.ofName? (String.ofList item) with
    | none =>
      rw [named] at read
      refine ⟨[], item, items, rfl, List.forall_mem_nil _, fun route names => ?_, (Except.error.inj read).symm⟩
      rw [DefaultRoute.ofName?_eq_some_iff.mpr names] at named
      cases named
    | some route =>
      have names := DefaultRoute.ofName?_eq_some_iff.mp named
      rw [named] at read
      obtain ⟨before, first, after, whole, known, unknown, message⟩ :=
        inductionHypothesis (map_eq_error_iff.mp read)
      exact ⟨item :: before, first, after, congrArg (item :: ·) whole,
        List.forall_mem_cons.mpr ⟨⟨route, names⟩, known⟩, unknown, message⟩

/-- A text that is the word for all routes, in any case and with blanks around it, is no list of names. -/
theorem Variable.entries_of_all {chars : List Char} (all : (Text.trimmed chars).map Char.toLower = "all".toList) :
    Text.entries chars = [Text.trimmed chars] := by
  have comma : ',' ∉ chars := fun member => by
    have kept : ',' ∈ Text.trimmed chars := Text.mem_stripWhere member (by decide)
    have lower : ',' ∈ (Text.trimmed chars).map Char.toLower := List.mem_map.mpr ⟨',', kept, rfl⟩
    rw [all] at lower
    exact absurd lower (by decide)
  have nonempty : Text.trimmed chars ≠ [] := fun empty => by
    rw [empty] at all
    exact absurd all (by decide)
  rw [Text.entries, List.splitOn_eq_singleton comma, List.map_singleton, List.filter_singleton, decide_eq_true nonempty,
    cond_true]

theorem Variable.sameAsciiCaseless_all_iff : Text.sameAsciiCaseless (Text.strip text) "all" ↔
    (Text.trimmed text.toList).map Char.toLower = "all".toList := by
  rw [Text.sameAsciiCaseless, Text.strip, String.toList_ofList, beq_iff_eq]
  rfl

/-- Default routes are read exactly from the texts that tell them. -/
theorem Variable.readRoutes_eq_ok_iff : readRoutes text = .ok routes ↔ TellsRoutes text routes := by
  rw [readRoutes, listedNames_eq]
  by_cases all : (Text.trimmed text.toList).map Char.toLower = "all".toList
  · rw [if_pos (sameAsciiCaseless_all_iff.mpr all)]
    constructor
    · rintro ⟨⟩
      exact .all all
    · rintro (_ | listed)
      · rfl
      · rw [entries_of_all all] at listed
        cases listed with
        | cons names _ => exact absurd all names.ne_all
  · rw [if_neg (mt sameAsciiCaseless_all_iff.mp all), readNames_eq_ok_iff]
    refine ⟨.listed, fun tells => ?_⟩
    cases tells with
    | all same => exact absurd same all
    | listed listed => exact listed

/-! ### Variables -/

namespace Variable

/-- A setting is read exactly from the texts that tell it. -/
theorem read_eq_ok_iff : read variable_ text = .ok setting ↔ Tells variable_ text setting := by
  cases variable_ with
  | address => exact ⟨fun same => Except.ok.inj same ▸ .address, fun | .address => rfl⟩
  | traceHeader => exact ⟨fun same => Except.ok.inj same ▸ .traceHeader, fun | .traceHeader => rfl⟩
  | shutdownTimeout =>
    simp only [read, map_eq_ok_iff, readSeconds_eq_ok_iff]
    constructor
    · rintro ⟨_, ⟨seconds, tells, rfl⟩, rfl⟩
      exact .shutdownTimeout tells
    · rintro (_ | _ | tells)
      exact ⟨_, ⟨_, tells, rfl⟩, rfl⟩
  | requestTimeout =>
    simp only [read, map_eq_ok_iff, readSeconds_eq_ok_iff]
    constructor
    · rintro ⟨_, ⟨seconds, tells, rfl⟩, rfl⟩
      exact .requestTimeout tells
    · rintro (_ | _ | _ | tells)
      exact ⟨_, ⟨_, tells, rfl⟩, rfl⟩
  | defaultRoutes =>
    simp only [read, map_eq_ok_iff, readRoutes_eq_ok_iff]
    constructor
    · rintro ⟨routes, tells, rfl⟩
      exact .defaultRoutes tells
    · rintro (_ | _ | _ | _ | tells)
      exact ⟨_, tells, rfl⟩

/-- A text that is not read has a fault, and the reason says which. -/
theorem fault_of_read (unread : read variable_ text = .error reason) : Fault variable_ text reason := by
  cases variable_ with
  | address => cases unread
  | traceHeader => cases unread
  | shutdownTimeout =>
    rw [read, map_eq_error_iff] at unread
    obtain ⟨fault, faulty, rfl⟩ := fault_of_readSeconds unread
    exact .shutdownTimeout faulty
  | requestTimeout =>
    rw [read, map_eq_error_iff] at unread
    obtain ⟨fault, faulty, rfl⟩ := fault_of_readSeconds unread
    exact .requestTimeout faulty
  | defaultRoutes =>
    rw [read, map_eq_error_iff, readRoutes, listedNames_eq] at unread
    split at unread
    · cases unread
    · rename_i word
      obtain ⟨before, item, after, whole, known, unknown, rfl⟩ := exists_first_unknown unread
      rw [sameAsciiCaseless_all_iff] at word
      exact .defaultRoutes word whole known unknown

variable {lookup : String → Option String} {asked : List Variable} {settings : List Setting}

theorem readAll_cons_of_none (unset : lookup variable_.name = none) :
    readAll lookup (variable_ :: asked) = readAll lookup asked := by
  simp only [readAll, unset]

theorem readAll_cons_of_error (found : lookup variable_.name = some text)
    (unread : read variable_ text = .error reason) :
    readAll lookup (variable_ :: asked) = .error (.invalidOption variable_.name reason) := by
  simp only [readAll, found, unread]

theorem readAll_cons_of_ok (found : lookup variable_.name = some text) (told : read variable_ text = .ok setting) :
    readAll lookup (variable_ :: asked) = (readAll lookup asked).map (setting :: ·) := by
  simp only [readAll, found, told]

/-- Exactly the settings are read that the variables tell, one for each that is set. -/
theorem readAll_eq_ok_iff : readAll lookup asked = .ok settings ↔
    List.Forall₂ (fun told setting => Tells told.1 told.2 setting) (present lookup asked) settings := by
  induction asked generalizing settings with
  | nil => simp [readAll, present, eq_comm]
  | cons variable_ asked inductionHypothesis =>
    rw [present, List.filterMap_cons]
    cases found : lookup variable_.name with
    | none =>
      rw [readAll_cons_of_none found]
      exact inductionHypothesis
    | some text =>
      cases told : read variable_ text with
      | error reason =>
        rw [readAll_cons_of_error found told]
        refine iff_of_false (by simp) fun whole => ?_
        cases whole with
        | cons tells _ =>
          rw [read_eq_ok_iff.mpr tells] at told
          cases told
      | ok setting =>
        rw [readAll_cons_of_ok found told, map_eq_ok_iff]
        constructor
        · rintro ⟨others, later, rfl⟩
          exact .cons (read_eq_ok_iff.mp told) (inductionHypothesis.mp later)
        · intro whole
          cases whole with
          | cons tells later =>
            obtain rfl := Except.ok.inj (told.symm.trans (read_eq_ok_iff.mpr tells))
            exact ⟨_, inductionHypothesis.mpr later, rfl⟩

/-- The first variable that tells nothing decides the fault. -/
theorem fault_of_readAll {fault : ConfigError} (unread : readAll lookup asked = .error fault) :
    ∃ before first after text reason, asked = before ++ first :: after ∧
      (∀ earlier ∈ before, ∀ text, lookup earlier.name = some text → ∃ setting, Tells earlier text setting) ∧
      lookup first.name = some text ∧ (∀ setting, ¬Tells first text setting) ∧ Fault first text reason ∧
        fault = .invalidOption first.name reason := by
  induction asked with
  | nil => cases unread
  | cons variable_ asked inductionHypothesis =>
    cases found : lookup variable_.name with
    | none =>
      rw [readAll_cons_of_none found] at unread
      obtain ⟨before, first, after, text, reason, whole, earlier, rest⟩ := inductionHypothesis unread
      refine ⟨variable_ :: before, first, after, text, reason, congrArg (variable_ :: ·) whole,
        List.forall_mem_cons.mpr ⟨fun text present => ?_, earlier⟩, rest⟩
      rw [found] at present
      cases present
    | some text =>
      cases told : read variable_ text with
      | error reason =>
        rw [readAll_cons_of_error found told] at unread
        refine ⟨[], variable_, asked, text, reason, rfl, List.forall_mem_nil _, found, fun setting tells => ?_,
          fault_of_read told, (Except.error.inj unread).symm⟩
        rw [read_eq_ok_iff.mpr tells] at told
        cases told
      | ok setting =>
        rw [readAll_cons_of_ok found told, map_eq_error_iff] at unread
        obtain ⟨before, first, after, other, reason, whole, earlier, rest⟩ := inductionHypothesis unread
        refine ⟨variable_ :: before, first, after, other, reason, congrArg (variable_ :: ·) whole,
          List.forall_mem_cons.mpr ⟨fun text present => ?_, earlier⟩, rest⟩
        obtain rfl := Option.some.inj (found.symm.trans present)
        exact ⟨setting, read_eq_ok_iff.mp told⟩

end Variable

/-! ### Alterations of a list -/

theorem Text.isBlank_of_isAlpha {c : Char} (letter : c.isAlpha) : isBlank c = false := by
  have bounds := toNat_of_isAlpha letter
  simp only [isBlank, within, blankRanges, List.any_cons, List.any_nil, Bool.or_false, Bool.or_eq_false_iff,
    Bool.and_eq_false_iff, decide_eq_false_iff_not]
  omega

theorem Text.isBlank_toLower (c : Char) : isBlank c.toLower = isBlank c := by
  by_cases upper : c.isUpper
  · have lower := (Http.isLower_toLower upper).1
    rw [isBlank_of_isAlpha (Bool.or_eq_true_iff.mpr (.inr lower)),
      isBlank_of_isAlpha (Bool.or_eq_true_iff.mpr (.inl upper))]
  · rw [show c.toLower = c from dif_neg fun range => upper (decide_eq_true range)]

/-- Trimming does not look at case. -/
theorem Text.trimmed_map_toLower (text : List Char) :
    trimmed (text.map Char.toLower) = (trimmed text).map Char.toLower := by
  have same : isBlank ∘ Char.toLower = isBlank := funext isBlank_toLower
  simp only [trimmed, stripWhere, List.dropWhile_map, same, ← List.map_reverse]

/-- Blanks around a text are trimmed. -/
theorem Text.trimmed_append (item : List Char) (front : ∀ c ∈ before, isBlank c) (back : ∀ c ∈ after, isBlank c) :
    trimmed (before ++ item ++ after) = trimmed item := by
  simp only [trimmed, stripWhere, List.append_assoc, List.dropWhile_append_of_pos front]
  rw [List.dropWhile_append]
  split
  · rename_i empty
    rw [List.isEmpty_iff.mp empty, List.dropWhile_eq_nil_iff.mpr back]
  · rw [List.reverse_append, List.dropWhile_append_of_pos fun c member => back c (List.mem_reverse.mp member)]

namespace Variable

/-- The word of an item: trimmed and in lower case. -/
def wordOf (item : List Char) : List Char :=
  (Text.trimmed item).map Char.toLower

theorem wordOf_of_blank (blank : ∀ c ∈ item, Text.isBlank c) : wordOf item = [] := by
  have whole := Text.trimmed_append [] blank (List.forall_mem_nil _)
  rw [List.append_nil, List.append_nil] at whole
  rw [wordOf, whole]
  rfl

/-- An alteration adds no word and takes none away. -/
theorem Alteration.mem_words_iff {word : List Char} (altered : Alteration items others) (nonempty : word ≠ []) :
    word ∈ items.map wordOf ↔ word ∈ others.map wordOf := by
  cases altered with
  | order permuted => exact (permuted.map wordOf).mem_iff
  | repetition member =>
    rw [List.map_cons, List.mem_cons, or_iff_right_of_imp]
    rintro rfl
    exact List.mem_map_of_mem member
  | @case front back item other same =>
    have word : wordOf item = wordOf other := by
      rw [wordOf, wordOf, ← Text.trimmed_map_toLower, same, Text.trimmed_map_toLower]
    rw [List.map_append, List.map_append, List.map_cons, List.map_cons, word]
  | @padding front back before item after leads follows =>
    have word : wordOf (before ++ item ++ after) = wordOf item := by
      rw [wordOf, wordOf, Text.trimmed_append item leads follows]
    rw [List.map_append, List.map_append, List.map_cons, List.map_cons, word]
  | blank blank =>
    simp only [List.map_append, List.map_cons, wordOf_of_blank blank, List.mem_append, List.mem_cons, nonempty,
      false_or]

/-- Any number of alterations, made or undone, add no word and take none away. -/
theorem mem_words_iff {word : List Char} (altered : Relation.EqvGen Alteration items others) (nonempty : word ≠ []) :
    word ∈ items.map wordOf ↔ word ∈ others.map wordOf := by
  induction altered with
  | rel items others altered => exact altered.mem_words_iff nonempty
  | refl items => exact Iff.rfl
  | symm items others altered inductionHypothesis => exact inductionHypothesis.symm
  | trans items middle others first second firstHypothesis secondHypothesis =>
    exact firstHypothesis.trans secondHypothesis

/-- A list of default routes: each item is blank or, trimmed, a name. -/
def ListsRoutes (items : List (List Char)) : Prop :=
  ∀ item ∈ items, Text.trimmed item = [] ∨ ∃ route, Names (Text.trimmed item) route

theorem listsRoutes_iff : ListsRoutes items ↔
    ∀ word ∈ items.map wordOf, word = [] ∨ ∃ route : DefaultRoute, word = route.name.toList := by
  simp only [ListsRoutes, List.forall_mem_map, wordOf, List.map_eq_nil_iff]
  rfl

theorem ListsRoutes.altered (lists : ListsRoutes items) (altered : Relation.EqvGen Alteration items others) :
    ListsRoutes others := by
  rw [listsRoutes_iff] at lists ⊢
  intro word member
  by_cases nonempty : word = []
  · exact .inl nonempty
  · exact lists word ((mem_words_iff altered nonempty).mpr member)

/-- The items of a list of default routes hold no commas, so that its text is cut into just these items. -/
theorem ListsRoutes.entries_eq (lists : ListsRoutes items) :
    Text.entries (listText items).toList = (items.map Text.trimmed).filter (· ≠ []) := by
  have comma : ∀ item ∈ items, ',' ∉ item := fun item listed member => by
    have kept : ',' ∈ Text.trimmed item := Text.mem_stripWhere member (by decide)
    have lower : ',' ∈ wordOf item := List.mem_map.mpr ⟨',', kept, rfl⟩
    rcases listsRoutes_iff.mp lists _ (List.mem_map_of_mem listed) with empty | ⟨route, name⟩
    · rw [empty] at lower
      cases lower
    · rw [name] at lower
      revert lower
      cases route <;> decide
  rw [Text.entries, listText, String.toList_ofList]
  cases items with
  | nil => decide
  | cons item items => rw [List.splitOn_intercalate ',' comma (List.cons_ne_nil item items)]

theorem Names.unique {second : DefaultRoute} (names : Names item route) (also : Names item second) :
    second = route := by
  have same : second.name = route.name := String.toList_inj.mp (also.symm.trans names)
  revert same
  cases route <;> cases second <;> decide

/-- Items that are names each name their route, and these are all routes. -/
theorem exists_routes (each : ∀ item ∈ items, ∃ route, Names item route) :
    ∃ routes, List.Forall₂ Names items routes ∧ ∀ route, route ∈ routes ↔ ∃ item ∈ items, Names item route := by
  induction items with
  | nil => exact ⟨[], .nil, by simp⟩
  | cons item items inductionHypothesis =>
    obtain ⟨⟨route, names⟩, later⟩ := List.forall_mem_cons.mp each
    obtain ⟨routes, whole, members⟩ := inductionHypothesis later
    refine ⟨route :: routes, .cons names whole, fun other => ?_⟩
    have first : other = route ↔ Names item other := ⟨fun same => same ▸ names, names.unique⟩
    rw [List.mem_cons, members, first]
    simp

/-- A list of default routes is read as the routes that its words name. -/
theorem ListsRoutes.read (lists : ListsRoutes items) :
    ∃ routes, Variable.read .defaultRoutes (listText items) = .ok (.enable routes) ∧
      ∀ route, route ∈ routes ↔ route.name.toList ∈ items.map wordOf := by
  have entry {word : List Char} : word ∈ Text.entries (listText items).toList ↔
      word ≠ [] ∧ ∃ item ∈ items, Text.trimmed item = word := by
    rw [lists.entries_eq, List.mem_filter, List.mem_map, decide_eq_true_eq, and_comm]
  have each : ∀ word ∈ Text.entries (listText items).toList, ∃ route, Names word route := by
    intro word member
    obtain ⟨nonempty, item, listed, rfl⟩ := entry.mp member
    exact (lists item listed).resolve_left nonempty
  obtain ⟨routes, named, members⟩ := exists_routes each
  refine ⟨routes, read_eq_ok_iff.mpr (.defaultRoutes (.listed named)), fun route => ?_⟩
  rw [members, List.mem_map]
  constructor
  · rintro ⟨word, member, names⟩
    obtain ⟨-, item, listed, rfl⟩ := entry.mp member
    exact ⟨item, listed, names⟩
  · rintro ⟨item, listed, names⟩
    have names : Names (Text.trimmed item) route := names
    refine ⟨_, entry.mpr ⟨fun empty => ?_, item, listed, rfl⟩, names⟩
    rw [empty] at names
    exact not_names_nil names

theorem mem_all (variable_ : Variable) : variable_ ∈ all := by
  cases variable_ <;> decide

theorem name_ne (other : variable_ ≠ .defaultRoutes) : variable_.name ≠ Variable.defaultRoutes.name := by
  revert other
  cases variable_ <;> decide

/-- Where the list of default routes amounts to the same, all variables do. -/
theorem map_readAll_congr {lookup altered : String → Option String} (front : List Variable)
    (same : ∀ name, name ≠ Variable.defaultRoutes.name → altered name = lookup name)
    (apart : .defaultRoutes ∉ front)
    (routes : ∀ builder : Builder, (readAll altered [.defaultRoutes]).map builder.applyAll =
      (readAll lookup [.defaultRoutes]).map builder.applyAll) (builder : Builder) :
    (readAll altered (front ++ [.defaultRoutes])).map builder.applyAll =
      (readAll lookup (front ++ [.defaultRoutes])).map builder.applyAll := by
  induction front generalizing builder with
  | nil => exact routes builder
  | cons variable_ front inductionHypothesis =>
    obtain ⟨first, later⟩ := List.ne_and_not_mem_of_not_mem_cons apart
    have found := same _ (name_ne first.symm)
    cases here : lookup variable_.name with
    | none =>
      rw [List.cons_append, readAll_cons_of_none here, readAll_cons_of_none (found.trans here)]
      exact inductionHypothesis later builder
    | some text =>
      cases told : read variable_ text with
      | error reason =>
        rw [List.cons_append, readAll_cons_of_error here told, readAll_cons_of_error (found.trans here) told]
      | ok setting =>
        rw [List.cons_append, readAll_cons_of_ok here told, readAll_cons_of_ok (found.trans here) told]
        have next (result : Except ConfigError (List Setting)) :
            (result.map (setting :: ·)).map builder.applyAll = result.map (builder.apply setting).applyAll := by
          cases result <;> rfl
        rw [next, next]
        exact inductionHypothesis later (builder.apply setting)

end Variable

namespace Builder

variable {lookup : String → Option String}

/-- A builder takes the settings that the variables tell. -/
theorem applyVariables_eq_ok_iff {builder result : Builder} : builder.applyVariables lookup = .ok result ↔
    ∃ settings,
      List.Forall₂ (fun told setting => Tells told.1 told.2 setting) (present lookup Variable.all) settings ∧
        result = builder.applyAll settings := by
  rw [applyVariables, map_eq_ok_iff]
  exact exists_congr fun settings => and_congr readAll_eq_ok_iff eq_comm

/-- Where variables are applied, each of them that is set tells a setting. -/
theorem exists_tells_of_applyVariables {builder result : Builder}
    (success : builder.applyVariables lookup = .ok result) {variable_ : Variable} {text : String}
    (found : lookup variable_.name = some text) : ∃ setting, Tells variable_ text setting := by
  obtain ⟨settings, told, -⟩ := applyVariables_eq_ok_iff.mp success
  have set : (variable_, text) ∈ present lookup Variable.all :=
    List.mem_filterMap.mpr ⟨variable_, mem_all variable_, by rw [found]; rfl⟩
  have each : List.Forall₂
      (fun told setting => (∃ setting, Tells told.1 told.2 setting) ∧ Tells told.1 told.2 setting)
      (present lookup Variable.all) settings :=
    told.imp fun told setting tells => ⟨⟨setting, tells⟩, tells⟩
  exact ((List.forall₂_and_left _ _).mp each).1 (variable_, text) set

/-- A list of default routes may be altered, for nothing but their set counts. -/
theorem applyVariables_altered (builder : Builder) {items others : List (List Char)} (lists : ListsRoutes items)
    (alterations : Relation.EqvGen Alteration items others)
    (here : lookup Variable.defaultRoutes.name = some (listText items)) {altered : String → Option String}
    (there : altered Variable.defaultRoutes.name = some (listText others))
    (same : ∀ name, name ≠ Variable.defaultRoutes.name → altered name = lookup name) :
    builder.applyVariables altered = builder.applyVariables lookup := by
  obtain ⟨routes, read, members⟩ := lists.read
  obtain ⟨otherRoutes, otherRead, otherMembers⟩ := (lists.altered alterations).read
  have inserted (set : DefaultRoute.Set) :
      DefaultRoute.insertAll set otherRoutes = DefaultRoute.insertAll set routes := by
    refine DefaultRoute.insertAll_congr (fun route => ?_) set
    have named : route.name.toList ≠ [] := by cases route <;> decide
    rw [otherMembers, members, mem_words_iff alterations named]
  refine map_readAll_congr [.address, .traceHeader, .shutdownTimeout, .requestTimeout] same (by decide)
    (fun builder => ?_) builder
  rw [readAll_cons_of_ok there otherRead, readAll_cons_of_ok here read]
  simp only [readAll, Except.map, applyAll_cons, applyAll_nil, apply, inserted]

end Builder

/-- Exactly those environments are applied in which each variable that is set tells a setting. The builder then has
these settings. In any other environment the first variable that tells nothing is the fault. A list of default routes
may be altered where it only lists default routes. -/
theorem Builder.applyVariables_tells (builder : Builder) (lookup : String → Option String) :
    ((∃ result, builder.applyVariables lookup = .ok result) ↔
      ∀ variable_ text, lookup (Variable.name variable_) = some text → ∃ setting, Tells variable_ text setting) ∧
      (∀ result, builder.applyVariables lookup = .ok result ↔
        ∃ settings,
          List.Forall₂ (fun told setting => Tells told.1 told.2 setting) (present lookup Variable.all) settings ∧
            result = builder.applyAll settings) ∧
      (∀ fault, builder.applyVariables lookup = .error fault →
        ∃ before first after text reason, Variable.all = before ++ first :: after ∧
          (∀ earlier ∈ before, ∀ text, lookup earlier.name = some text → ∃ setting, Tells earlier text setting) ∧
          lookup first.name = some text ∧ (∀ setting, ¬Tells first text setting) ∧ Fault first text reason ∧
            fault = .invalidOption first.name reason) ∧
      ∀ items others, ListsRoutes items → Relation.EqvGen Alteration items others →
        lookup Variable.defaultRoutes.name = some (listText items) →
        ∀ altered : String → Option String, altered Variable.defaultRoutes.name = some (listText others) →
          (∀ name, name ≠ Variable.defaultRoutes.name → altered name = lookup name) →
          builder.applyVariables altered = builder.applyVariables lookup := by
  have refused (fault : ConfigError) (unread : builder.applyVariables lookup = .error fault) :=
    fault_of_readAll (map_eq_error_iff.mp unread)
  refine ⟨⟨?_, fun tells => ?_⟩, fun _ => applyVariables_eq_ok_iff, refused,
    fun _ _ lists alterations here _ there same => builder.applyVariables_altered lists alterations here there same⟩
  · rintro ⟨result, success⟩ variable_ text found
    exact exists_tells_of_applyVariables success found
  · cases outcome : builder.applyVariables lookup with
    | ok result => exact ⟨result, rfl⟩
    | error fault =>
      obtain ⟨_, first, _, text, _, _, _, found, silent, _⟩ := refused fault outcome
      obtain ⟨setting, told⟩ := tells first text found
      exact absurd told (silent setting)

example : Variable.readRoutes "Index,, PING\t" = .ok [.index, .ping] := by decide

example : Variable.readRoutes "ping, all" = .error "unknown default route 'all'" := by decide

end ServiceHost

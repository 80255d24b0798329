import Mathlib.Data.List.Forall2
import Mathlib.Logic.Function.Basic
import Mathlib.Logic.Relation
import ServiceHost.Proofs.Text.Splitting
import ServiceHost.Routing.Pattern

/-!
Solutions: a pattern is an equation for the segments of a path, whose unknowns are its captures. Matching solves
it. It succeeds exactly where values for the captures make the pattern the path, there is only one solution, and
the parameters are that one. Slashes that separate nothing play no part in it.
-/

namespace ServiceHost

/-- A new name goes to the end. -/
theorem Parameters.entries_set {parameters : Parameters} {name : String} (value : String)
    (fresh : name ∉ parameters.entries.map Prod.fst) :
    (parameters.set name value).entries = parameters.entries ++ [(name, value)] := by
  obtain ⟨entries⟩ := parameters
  rw [set]
  induction entries with
  | nil => rfl
  | cons entry rest inductionHypothesis =>
    obtain ⟨other, later⟩ := List.ne_and_not_mem_of_not_mem_cons fresh
    rw [setIn, if_neg (Ne.symm other)]
    exact congrArg (entry :: ·) (inductionHypothesis later)

namespace Routing

/-- The texts between the slashes of a text, the empty ones left out. -/
def segments (text : String) : List String :=
  ((text.toList.splitOn '/').filter (· ≠ [])).map String.ofList

/-- A segment of a path is not empty and holds no slash. -/
structure IsSegment (text : String) : Prop where
  nonempty : text ≠ ""
  slashless : '/' ∉ text.toList

theorem pathSegments_eq (text : String) : pathSegments text = segments text := by
  rw [pathSegments, segments, Text.pieces_eq_splitOn]
  congr 2
  funext piece
  cases piece <;> rfl

theorem isSegment_of_mem {text segment : String} (member : segment ∈ segments text) : IsSegment segment := by
  obtain ⟨piece, kept, rfl⟩ := List.mem_map.mp member
  obtain ⟨cut, nonempty⟩ := List.mem_filter.mp kept
  rw [← Text.pieces_eq_splitOn] at cut
  refine ⟨fun empty => ?_, ?_⟩
  · rw [← String.toList_inj, String.toList_ofList] at empty
    simp [empty] at nonempty
  · rw [String.toList_ofList]
    exact Text.not_mem_of_mem_pieces cut

/-- A slash cuts a text. -/
theorem segments_append (before after : String) :
    segments (before ++ "/" ++ after) = segments before ++ segments after := by
  simp only [segments, String.toList_append, List.append_assoc]
  rw [show "/".toList ++ after.toList = '/' :: after.toList from rfl, List.splitOn_append_cons_self,
    List.filter_append, List.map_append]

@[simp] theorem segments_empty : segments "" = [] := rfl

/-- One text has a slash more than the other one: at its start, at its end or beside another slash. -/
inductive MoreSlashes : String → String → Prop
  | leading (text : String) : MoreSlashes text ("/" ++ text)
  | trailing (text : String) : MoreSlashes text (text ++ "/")
  | repeated (before after : String) : MoreSlashes (before ++ "/" ++ after) (before ++ "//" ++ after)

/-- Two texts differ in leading, trailing and repeated slashes only. -/
abbrev SameButSlashes : String → String → Prop :=
  Relation.EqvGen MoreSlashes

theorem MoreSlashes.segments_eq {text other : String} (more : MoreSlashes text other) :
    segments text = segments other := by
  cases more with
  | leading =>
    have cut := segments_append "" text
    rw [String.empty_append] at cut
    exact cut.symm
  | trailing =>
    have cut := segments_append text ""
    rw [String.append_empty] at cut
    rw [cut, segments_empty, List.append_nil]
  | repeated before after =>
    have twice : before ++ "//" ++ after = before ++ "/" ++ ("" ++ "/" ++ after) := by
      simp only [String.append_assoc, String.empty_append]
      rfl
    rw [twice, segments_append, segments_append, segments_append, segments_empty, List.nil_append]

theorem segments_eq_of_sameButSlashes {text other : String} (same : SameButSlashes text other) :
    segments text = segments other := by
  induction same with
  | rel text other more => exact more.segments_eq
  | refl => rfl
  | symm text other _ inductionHypothesis => exact inductionHypothesis.symm
  | trans text middle other _ _ first second => exact first.trans second

/-- How a segment of a pattern is spelled: a name in braces captures a segment, a name in braces behind an
asterisk the rest of the path, and anything else stands for itself. -/
inductive Segment.Spelled : String → Segment → Prop
  | literal {text : String} (unbraced : ∀ name, text ≠ "\x7b" ++ name ++ "\x7d") : Spelled text (.literal text)
  | capture {name : String} (plain : name.toList.head? ≠ some '*') :
    Spelled ("\x7b" ++ name ++ "\x7d") (.capture name)
  | rest {name : String} : Spelled ("\x7b*" ++ name ++ "\x7d") (.rest name)

theorem braced?_eq_some_iff {text name : List Char} :
    braced? text = some name ↔ text = '\x7b' :: name ++ ['\x7d'] := by
  unfold braced?
  constructor
  · intro braced
    split at braced
    · rename_i inside
      obtain ⟨last, same⟩ := Option.ite_none_right_eq_some.mp braced
      obtain ⟨front, rfl⟩ := List.getLast?_eq_some_iff.mp last
      rw [List.dropLast_concat, Option.some.injEq] at same
      rw [same, List.cons_append]
    · cases braced
  · rintro rfl
    simp

theorem Segment.spelled_ofString (text : String) : Spelled text (ofString text) := by
  have closed {name : List Char} (braced : braced? text.toList = some name) :
      text = "\x7b" ++ String.ofList name ++ "\x7d" := by
    rw [← String.toList_inj, braced?_eq_some_iff.mp braced]
    simp
  unfold ofString
  split
  · rename_i unbraced
    refine .literal fun name same => ?_
    have braced : braced? text.toList = some name.toList := by
      rw [braced?_eq_some_iff, same]
      simp
    rw [unbraced] at braced
    cases braced
  · rename_i name braced
    have opened : text = "\x7b*" ++ String.ofList name ++ "\x7d" := by
      rw [closed braced, ← String.toList_inj]
      simp
    rw [opened]
    exact .rest
  · rename_i name plain braced
    rw [closed braced]
    refine .capture fun starred => ?_
    rw [String.toList_ofList] at starred
    obtain ⟨rest, rfl⟩ := List.head?_eq_some_iff.mp starred
    exact plain rest rfl

/-- The name that a segment gives to what it captures. -/
def Segment.name? : Segment → Option String
  | .literal _ => none
  | .capture name => some name
  | .rest name => some name

/-- Does a segment capture the rest of the path? -/
def Segment.isRest : Segment → Bool
  | .rest _ => true
  | _ => false

/-- A pattern has no name twice, and nothing stands behind the capture of the rest. -/
structure Pattern.IsProper (pattern : Pattern) : Prop where
  distinct : (pattern.filterMap Segment.name?).Nodup
  last : ∀ segment ∈ pattern.dropLast, segment.isRest = false

instance : DecidablePred Pattern.IsProper := fun pattern =>
  decidable_of_iff
    ((pattern.filterMap Segment.name?).Nodup ∧ ∀ segment ∈ pattern.dropLast, segment.isRest = false)
    ⟨fun ⟨distinct, last⟩ => ⟨distinct, last⟩, fun proper => ⟨proper.distinct, proper.last⟩⟩

/-- Values for the names of a pattern: a segment for each capture, and segments for the rest. -/
structure Assignment where
  one : String → String
  several : String → List String

namespace Assignment

/-- What stands in the place of a segment of a pattern. -/
def fill (assignment : Assignment) : Segment → List String
  | .literal text => [text]
  | .capture name => [assignment.one name]
  | .rest name => assignment.several name

/-- The parameter of a segment of a pattern, if it captures something. -/
def binding? (assignment : Assignment) : Segment → Option (String × String)
  | .literal _ => none
  | .capture name => some (name, assignment.one name)
  | .rest name => some (name, "/".intercalate (assignment.several name))

/-- With proper values in the places of its captures a pattern is a path. -/
structure Solves (assignment : Assignment) (pattern : Pattern) (path : List String) : Prop where
  one : ∀ name, .capture name ∈ pattern → IsSegment (assignment.one name)
  several : ∀ name, .rest name ∈ pattern → ∀ segment ∈ assignment.several name, IsSegment segment
  fills : pattern.flatMap assignment.fill = path

/-- Two assignments have the same values for the names of a pattern. -/
structure Agrees (assignment other : Assignment) (pattern : Pattern) : Prop where
  one : ∀ name, .capture name ∈ pattern → assignment.one name = other.one name
  several : ∀ name, .rest name ∈ pattern → assignment.several name = other.several name

variable {assignment other : Assignment} {pattern : Pattern} {path : List String} {name : String}

theorem Solves.tail {segment : Segment} (solves : assignment.Solves (segment :: pattern) path) :
    assignment.Solves pattern (pattern.flatMap assignment.fill) :=
  ⟨fun name member => solves.one name (List.mem_cons_of_mem segment member),
    fun name member => solves.several name (List.mem_cons_of_mem segment member), rfl⟩

theorem Agrees.fill_eq {segment : Segment} (agrees : assignment.Agrees other pattern) (member : segment ∈ pattern) :
    assignment.fill segment = other.fill segment ∧ assignment.binding? segment = other.binding? segment := by
  cases segment with
  | literal text => exact ⟨rfl, rfl⟩
  | capture name => simp [fill, binding?, agrees.one name member]
  | rest name => simp [fill, binding?, agrees.several name member]

/-- Where assignments agree, they put the same in the places of the captures. -/
theorem Agrees.flatMap_fill (agrees : assignment.Agrees other pattern) :
    pattern.flatMap assignment.fill = pattern.flatMap other.fill :=
  List.flatMap_congr fun _ member => (agrees.fill_eq member).1

theorem Agrees.filterMap_binding? (agrees : assignment.Agrees other pattern) :
    pattern.filterMap assignment.binding? = pattern.filterMap other.binding? :=
  List.filterMap_congr fun _ member => (agrees.fill_eq member).2

theorem Solves.of_agrees (solves : assignment.Solves pattern path) (agrees : other.Agrees assignment pattern) :
    other.Solves pattern path where
  one name member := agrees.one name member ▸ solves.one name member
  several name member := agrees.several name member ▸ solves.several name member
  fills := agrees.flatMap_fill.trans solves.fills

theorem Solves.cons {segment : Segment} (solves : assignment.Solves pattern path)
    (one : ∀ name, segment = .capture name → IsSegment (assignment.one name))
    (several : ∀ name, segment = .rest name → ∀ segment ∈ assignment.several name, IsSegment segment) :
    assignment.Solves (segment :: pattern) (assignment.fill segment ++ path) where
  one name member := (List.mem_cons.mp member).elim (fun here => one name here.symm) (solves.one name)
  several name member := (List.mem_cons.mp member).elim (fun here => several name here.symm) (solves.several name)
  fills := by rw [List.flatMap_cons, solves.fills]

/-- Assignments that put the same in the place of a segment have the same value for it. -/
theorem Agrees.cons {segment : Segment} (agrees : assignment.Agrees other pattern)
    (fills : assignment.fill segment = other.fill segment) : assignment.Agrees other (segment :: pattern) where
  one name member := by
    rcases List.mem_cons.mp member with rfl | later
    · exact List.singleton_inj.mp fills
    · exact agrees.one name later
  several name member := by
    rcases List.mem_cons.mp member with rfl | later
    · exact fills
    · exact agrees.several name later

/-- The assignment with another value for a capture. -/
def withOne (assignment : Assignment) (name value : String) : Assignment :=
  { assignment with one := Function.update assignment.one name value }

/-- A value for a name that a pattern does not have changes nothing for it. -/
theorem agrees_withOne (assignment : Assignment) (value : String) (absent : name ∉ pattern.filterMap Segment.name?) :
    (assignment.withOne name value).Agrees assignment pattern where
  one other member := by
    refine Function.update_of_ne (fun same => absent ?_) value assignment.one
    exact List.mem_filterMap.mpr ⟨.capture other, member, same ▸ rfl⟩
  several _ _ := rfl

end Assignment

namespace Pattern

variable {pattern : Pattern} {segment : Segment} {path : List String} {parameters found : Parameters}

theorem IsProper.tail (proper : IsProper (segment :: pattern)) : IsProper pattern where
  distinct := by
    have distinct := proper.distinct
    rw [List.filterMap_cons] at distinct
    cases named : segment.name? <;> rw [named] at distinct
    · exact distinct
    · exact (List.nodup_cons.mp distinct).2
  last other member := by
    cases pattern with
    | nil => cases member
    | cons next pattern => exact proper.last other (List.mem_cons_of_mem segment member)

theorem IsProper.eq_nil_of_rest {name : String} (proper : IsProper (.rest name :: pattern)) : pattern = [] := by
  cases pattern with
  | nil => rfl
  | cons next pattern => cases proper.last (.rest name) List.mem_cons_self

theorem IsProper.not_mem_tail {name : String} (proper : IsProper (segment :: pattern))
    (named : segment.name? = some name) : name ∉ pattern.filterMap Segment.name? := by
  have distinct := proper.distinct
  rw [List.filterMap_cons, named] at distinct
  exact (List.nodup_cons.mp distinct).1

/-- The names of a pattern are not among those of some parameters. -/
def IsFresh (pattern : Pattern) (parameters : Parameters) : Prop :=
  ∀ name ∈ pattern.filterMap Segment.name?, name ∉ parameters.entries.map Prod.fst

theorem IsFresh.tail (fresh : IsFresh (segment :: pattern) parameters) : IsFresh pattern parameters := by
  intro name member
  refine fresh name ?_
  rw [List.filterMap_cons]
  cases segment.name? with
  | none => exact member
  | some other => exact List.mem_cons_of_mem other member

theorem IsFresh.set {name : String} (fresh : IsFresh (.capture name :: pattern) parameters) (value : String)
    (proper : IsProper (.capture name :: pattern)) :
    (parameters.set name value).entries = parameters.entries ++ [(name, value)] ∧
      IsFresh pattern (parameters.set name value) := by
  have entries : (parameters.set name value).entries = parameters.entries ++ [(name, value)] :=
    parameters.entries_set value (fresh name List.mem_cons_self)
  refine ⟨entries, fun other member => ?_⟩
  rw [entries, List.map_append, List.mem_append, not_or]
  refine ⟨fresh.tail other member, fun same => ?_⟩
  obtain rfl := List.mem_singleton.mp same
  exact proper.not_mem_tail rfl member

/-- Where a pattern matches, the parameters are those of a solution. -/
theorem exists_solves_of_matchFrom (proper : pattern.IsProper) (fresh : pattern.IsFresh parameters)
    (segments : ∀ segment ∈ path, IsSegment segment) (matched : pattern.matchFrom parameters path = some found) :
    ∃ assignment : Assignment, assignment.Solves pattern path ∧
      found.entries = parameters.entries ++ pattern.filterMap assignment.binding? := by
  induction pattern generalizing parameters path with
  | nil =>
    cases path with
    | cons first path => cases matched
    | nil =>
      cases matched
      exact ⟨⟨id, fun _ => []⟩, ⟨by simp, by simp, rfl⟩, by simp⟩
  | cons segment pattern inductionHypothesis =>
    cases segment with
    | rest name =>
      obtain rfl := proper.eq_nil_of_rest
      cases matched
      refine ⟨⟨id, fun _ => path⟩, ⟨by simp, by simpa using segments, by simp [Assignment.fill]⟩, ?_⟩
      exact parameters.entries_set _ (fresh name List.mem_cons_self)
    | literal text =>
      cases path with
      | nil => cases matched
      | cons first path =>
        obtain ⟨rfl, behind⟩ := Option.ite_none_right_eq_some.mp matched
        obtain ⟨assignment, solves, entries⟩ :=
          inductionHypothesis proper.tail fresh.tail (List.forall_mem_cons.mp segments).2 behind
        exact ⟨assignment, solves.cons (by simp) (by simp), entries⟩
    | capture name =>
      cases path with
      | nil => cases matched
      | cons first path =>
        obtain ⟨isSegment, others⟩ := List.forall_mem_cons.mp segments
        obtain ⟨set, fresh⟩ := fresh.set first proper
        obtain ⟨assignment, solves, entries⟩ := inductionHypothesis proper.tail fresh others matched
        have agrees := assignment.agrees_withOne first (proper.not_mem_tail rfl)
        have value : (assignment.withOne name first).one name = first := Function.update_self ..
        refine ⟨assignment.withOne name first, ?_, ?_⟩
        · have solved : (assignment.withOne name first).Solves (.capture name :: pattern) _ :=
            (solves.of_agrees agrees).cons (fun _ same => by cases same; exact value.symm ▸ isSegment) (by simp)
          rwa [Assignment.fill, value] at solved
        · rw [entries, set, List.append_assoc, ← agrees.filterMap_binding?, List.filterMap_cons,
            Assignment.binding?, value]
          rfl

/-- Where a pattern has a solution, it matches. -/
theorem exists_matchFrom_of_solves {assignment : Assignment} (proper : pattern.IsProper)
    (fresh : pattern.IsFresh parameters) (solves : assignment.Solves pattern path) :
    ∃ found, pattern.matchFrom parameters path = some found ∧
      found.entries = parameters.entries ++ pattern.filterMap assignment.binding? := by
  induction pattern generalizing parameters path with
  | nil =>
    obtain rfl := solves.fills
    exact ⟨parameters, rfl, by simp⟩
  | cons segment pattern inductionHypothesis =>
    obtain rfl := solves.fills
    cases segment with
    | rest name =>
      obtain rfl := proper.eq_nil_of_rest
      refine ⟨_, rfl, ?_⟩
      rw [parameters.entries_set _ (fresh name List.mem_cons_self)]
      simp [Assignment.binding?, Assignment.fill]
    | literal text =>
      obtain ⟨found, matched, entries⟩ := inductionHypothesis proper.tail fresh.tail solves.tail
      exact ⟨found, (if_pos rfl).trans matched, entries⟩
    | capture name =>
      obtain ⟨set, fresh⟩ := fresh.set (assignment.one name) proper
      obtain ⟨found, matched, entries⟩ := inductionHypothesis proper.tail fresh solves.tail
      refine ⟨found, matched, ?_⟩
      rw [entries, set, List.append_assoc]
      rfl

end Pattern

/-- A pattern has at most one solution. -/
theorem Assignment.Solves.agrees {assignment other : Assignment} {pattern : Pattern} {path : List String}
    (proper : pattern.IsProper) (solves : assignment.Solves pattern path) (another : other.Solves pattern path) :
    assignment.Agrees other pattern := by
  induction pattern generalizing path with
  | nil => exact ⟨by simp, by simp⟩
  | cons segment pattern inductionHypothesis =>
    have same := solves.fills.trans another.fills.symm
    rw [List.flatMap_cons, List.flatMap_cons] at same
    cases segment with
    | rest name =>
      obtain rfl := proper.eq_nil_of_rest
      refine ⟨by simp, fun last member => ?_⟩
      cases List.mem_singleton.mp member
      simpa [fill] using same
    | literal text =>
      have tails : pattern.flatMap assignment.fill = pattern.flatMap other.fill := List.append_cancel_left same
      exact (inductionHypothesis proper.tail solves.tail (tails ▸ another.tail)).cons rfl
    | capture name =>
      obtain ⟨heads, tails⟩ : [assignment.one name] = [other.one name] ∧
          pattern.flatMap assignment.fill = pattern.flatMap other.fill := List.append_inj same rfl
      exact (inductionHypothesis proper.tail solves.tail (tails ▸ another.tail)).cons heads

/-- A pattern matches a path exactly where it has a solution, which is the only one and gives the parameters. -/
structure Pattern.IsSolvedFor (pattern : Pattern) (path : String) : Prop where
  matched : ∀ parameters, pattern.match? path = some parameters ↔
    ∃ assignment : Assignment, assignment.Solves pattern (segments path) ∧
      parameters.entries = pattern.filterMap assignment.binding?
  unique : ∀ assignment other : Assignment, assignment.Solves pattern (segments path) →
    other.Solves pattern (segments path) → assignment.Agrees other pattern

theorem Pattern.IsProper.isSolvedFor {pattern : Pattern} (proper : pattern.IsProper) (path : String) :
    pattern.IsSolvedFor path where
  matched parameters := by
    have fresh : pattern.IsFresh Parameters.empty := fun _ _ => List.not_mem_nil
    rw [match?, pathSegments_eq]
    constructor
    · intro matched
      obtain ⟨assignment, solves, entries⟩ :=
        exists_solves_of_matchFrom proper fresh (fun _ => isSegment_of_mem) matched
      exact ⟨assignment, solves, entries⟩
    · rintro ⟨assignment, solves, entries⟩
      obtain ⟨found, matched, same⟩ := exists_matchFrom_of_solves proper fresh solves
      rw [matched, Option.some.injEq]
      obtain ⟨_⟩ := found
      obtain ⟨_⟩ := parameters
      exact congrArg Parameters.mk (same.trans entries.symm)
  unique _ _ := Assignment.Solves.agrees proper

/-- The segments of a pattern are those that its text spells; where no name stands twice and nothing stands
behind the capture of the rest, matching solves the pattern for them; and neither in the pattern nor in the path
do slashes count that separate nothing. -/
theorem match_solves (text path : String) :
    List.Forall₂ Segment.Spelled (segments text) (Pattern.ofString text) ∧
      ((Pattern.ofString text).IsProper → (Pattern.ofString text).IsSolvedFor path) ∧
      ∀ other otherPath, SameButSlashes text other → SameButSlashes path otherPath →
        (Pattern.ofString other).match? otherPath = (Pattern.ofString text).match? path := by
  refine ⟨?_, fun proper => proper.isSolvedFor path, fun other otherPath sameText samePath => ?_⟩
  · rw [Pattern.ofString, pathSegments_eq, List.forall₂_map_right_iff]
    exact List.forall₂_same.mpr fun segment _ => Segment.spelled_ofString segment
  · simp only [Pattern.match?, Pattern.ofString, pathSegments_eq,
      segments_eq_of_sameButSlashes sameText, segments_eq_of_sameButSlashes samePath]

theorem match_solves_rest :
    let pattern := Pattern.ofString "/users/\x7bid\x7d/\x7b*rest\x7d"
    pattern.IsProper ∧ SameButSlashes "/users/7/a/b" "/users//7/a/b" ∧ pattern.IsSolvedFor "/users/7/a/b" ∧
      pattern.match? "/users//7/a/b" = pattern.match? "/users/7/a/b" ∧
      pattern.match? "/users/7/a/b" = some ⟨[("id", "7"), ("rest", "a/b")]⟩ := by
  have proper : (Pattern.ofString "/users/\x7bid\x7d/\x7b*rest\x7d").IsProper := by decide
  have slash : SameButSlashes "/users/7/a/b" "/users//7/a/b" := .rel _ _ (.repeated "/users" "7/a/b")
  obtain ⟨-, solved, same⟩ := match_solves "/users/\x7bid\x7d/\x7b*rest\x7d" "/users/7/a/b"
  exact ⟨proper, slash, solved proper, same _ _ (.refl _) slash, by decide⟩

end Routing

end ServiceHost

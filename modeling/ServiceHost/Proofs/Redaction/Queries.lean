import ServiceHost.Proofs.Redaction.Parameters

/-!
Queries: requests that differ in the value of one parameter with a secret name have the same redacted dump. In
the first line of a dump the name of a parameter follows a question mark or an ampersand, and what follows its
value is an ampersand or the space behind the target.
-/

namespace ServiceHost

open Http Redaction

/-- A character of the value of a parameter: it is legal in a query, separates no parameters, and is no blank. -/
def Http.isParameterChar (c : Char) : Bool :=
  isQueryChar c && c != '&' && !Text.isBlank c

/-- Two locations are the same but for the value of one parameter with a secret name. -/
inductive Http.Location.AlikeButParameter : Location → Location → Prop where
  | intro {path : String} {front name value other back : List Char} (starts : front.getLast?.all (· == '&'))
      (secret : SecretName name) (valued : ∀ c ∈ value, isParameterChar c)
      (otherValued : ∀ c ∈ other, isParameterChar c) (ends : back.head?.all (· == '&')) :
      AlikeButParameter ⟨path, some (String.ofList (front ++ Parameter.written name (value ++ back)))⟩
        ⟨path, some (String.ofList (front ++ Parameter.written name (other ++ back)))⟩

/-- Two targets are the same but for the value of one parameter with a secret name. -/
inductive Http.Target.AlikeButParameter : Target → Target → Prop where
  | origin {first second : Location} (alike : first.AlikeButParameter second) :
      AlikeButParameter (.origin first) (.origin second)
  | absolute {first second : Location} (scheme host : String) (alike : first.AlikeButParameter second) :
      AlikeButParameter (.absolute scheme host first) (.absolute scheme host second)

/-- Two requests are the same but for the value of one parameter with a secret name in the query. -/
structure Http.Request.AlikeButParameter (first second : Request) : Prop where
  method : first.method = second.method
  target : first.target.AlikeButParameter second.target
  version : first.version = second.version
  headers : first.headers = second.headers
  body : first.body = second.body

variable {first second : Request} {target other : Target} {location another : Location}
  {c : Char} {front back name value : List Char}

theorem Http.isHidden_of_isParameterChar (valued : isParameterChar c) : Parameter.isHidden c := by
  simp only [isParameterChar, Bool.and_eq_true] at valued
  have noQuote : c ≠ '"' := by
    rintro rfl
    exact absurd valued.1.1 (by decide)
  simp only [Parameter.isHidden, Parameter.isValueChar, Bool.and_eq_true]
  exact ⟨⟨valued.1.2, valued.2⟩, bne_iff_ne.mpr noQuote⟩

/-- A parameter in a query stands at a slot. -/
theorem Redaction.Parameter.Slot.of_query (before behind : List Char) (secret : SecretName name)
    (starts : front.getLast?.all (· == '&')) (ends : back.head?.all (· == '&')) :
    Parameter.Slot (before ++ '?' :: front).getLast? name (back ++ ' ' :: behind) := by
  refine .of_edges secret ?_ ?_
  · rw [List.getLast?_append, List.getLast?_cons, Option.some_or]
    cases last : front.getLast? with
    | none => decide
    | some c =>
      obtain rfl : c = '&' := by simpa [last] using starts
      decide
  · cases back with
    | nil => rfl
    | cons c back =>
      obtain rfl : c = '&' := by simpa using ends
      rfl

/-- What comes before the query shows the same of two locations, and the texts around the queries veil the value. -/
theorem Http.Location.AlikeButParameter.veiled (alike : location.AlikeButParameter another)
    (before behind : List Char) :
    ∃ query others, location.query = some query ∧ another.query = some others ∧
      Parameter.Veiled (before ++ '?' :: query.toList ++ ' ' :: behind)
        (before ++ '?' :: others.toList ++ ' ' :: behind) := by
  cases alike with
  | @intro path front name value other back starts secret valued otherValued ends =>
    refine ⟨_, _, rfl, rfl, ?_⟩
    have slot := Parameter.Slot.of_query before behind secret starts ends
    have veiled := Parameter.Veiled.differ slot (fun c member => isHidden_of_isParameterChar (valued c member))
      (fun c member => isHidden_of_isParameterChar (otherValued c member))
    simpa [Parameter.written, String.toList_ofList] using veiled

theorem Http.Location.AlikeButParameter.path_eq (alike : location.AlikeButParameter another) :
    location.path = another.path := by
  cases alike
  rfl

namespace Http.Target.AlikeButParameter

theorem path_eq (alike : target.AlikeButParameter other) : target.path = other.path := by
  cases alike with
  | origin alike => exact alike.path_eq
  | absolute scheme host alike => simp only [path, alike.path_eq]

/-- Where the targets are rendered in a line, the value is veiled. -/
theorem veiled (alike : target.AlikeButParameter other) (before behind : List Char) :
    Parameter.Veiled (before ++ target.render.toList ++ ' ' :: behind)
      (before ++ other.render.toList ++ ' ' :: behind) := by
  cases alike with
  | @origin first second alike =>
    obtain ⟨query, others, queried, otherQueried, veiled⟩ := alike.veiled (before ++ first.path.toList) behind
    simpa [render, path, querySuffix, Target.query, queried, otherQueried, ← alike.path_eq] using veiled
  | @absolute first second scheme host alike =>
    have paths : (Target.absolute scheme host first).path = (Target.absolute scheme host second).path :=
      path_eq (.absolute scheme host alike)
    obtain ⟨query, others, queried, otherQueried, veiled⟩ :=
      alike.veiled (before ++ (scheme ++ "://" ++ host ++ (Target.absolute scheme host first).path).toList) behind
    simpa [render, querySuffix, Target.query, queried, otherQueried, ← paths] using veiled

end Http.Target.AlikeButParameter

/-- The texts of the dumps veil the value. -/
theorem RequestDump.veiled_chars (alike : first.AlikeButParameter second) :
    Parameter.Veiled (chars first) (chars second) := by
  have line (request : Request) : chars request =
      (request.method.name.toList ++ [' ']) ++ request.target.render.toList ++
        ' ' :: (request.version.render.toList ++ lineBreak ++
          (request.headers.fields.flatMap fieldLine ++ (lineBreak ++ Text.decodeLenient request.body))) := by
    simp [chars, requestLine]
  rw [line first, line second, alike.method, alike.version, alike.headers, alike.body]
  exact alike.target.veiled _ _

/-- Requests that differ at most in the value of one parameter with a secret name have the same redacted dump. -/
theorem Redaction.redact_render_parameter (alike : first.AlikeButParameter second) :
    redact (RequestDump.render first) = redact (RequestDump.render second) := by
  rw [redact, redact, RequestDump.render, RequestDump.render, String.toList_ofList, String.toList_ofList,
    redactChars_eq (RequestDump.veiled_chars alike)]

end ServiceHost

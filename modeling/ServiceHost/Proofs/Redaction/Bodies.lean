import ServiceHost.Proofs.Redaction.Documents

/-!
Bodies: what a document in the body of a request carries in a member with a secret name. Nothing of the value is
left up to its first quote. Behind a quote in the value, which a backslash escapes, the rest of it is left.
-/

namespace ServiceHost

open Http Json Redaction

namespace RequestDump

/-- The dump up to the body. -/
def head (request : Request) : List Char :=
  requestLine request ++ request.headers.fields.flatMap fieldLine ++ lineBreak

variable {request : Request} {body text : List Char}

theorem chars_eq (request : Request) : chars request = head request ++ Text.decodeLenient request.body := by
  simp [chars, head]

/-- The head and the body of a dump are masked apart from each other. -/
theorem run_still (still : HeaderLine.Still text) :
    HeaderLine.pattern.run (head request ++ text) = HeaderLine.pattern.run (head request) ++ text := by
  have line : head request =
      (requestLine request ++ request.headers.fields.flatMap fieldLine ++ ['\r']) ++ ['\n'] := by
    simp [head, lineBreak]
  rw [line, Pattern.run, Pattern.run, List.append_assoc, List.singleton_append, HeaderLine.mask_append_feed,
    HeaderLine.mask_still still]

theorem unlettered_run : Member.Unlettered (HeaderLine.pattern.run (head request)) := by
  have line : head request =
      (requestLine request ++ request.headers.fields.flatMap fieldLine ++ ['\r']) ++ ['\n'] := by
    simp [head, lineBreak]
  rw [line]
  exact Member.unlettered_of_getLast? (HeaderLine.getLast?_mask_feed ..) (by decide)

end RequestDump

namespace Redaction.Member

variable {front name before after value other rest : List Char}

/-- A text goes on with its first quote behind what comes before it. -/
theorem exists_behind (value rest : List Char) :
    ∃ behind, value.dropWhile (· != '"') ++ '"' :: rest = '"' :: behind := by
  cases split : value.dropWhile (· != '"') with
  | nil => exact ⟨rest, rfl⟩
  | cons c more =>
    have stops : Stops (· != '"') (c :: more) := split ▸ stops_dropWhile
    obtain rfl : c = '"' := by simpa using stops_cons.mp stops
    exact ⟨more ++ '"' :: rest, rfl⟩

/-- Of the value of a member nothing is left up to its first quote. -/
theorem run_eq_of_alike (apart : Apart front) (opening : Opening name before after)
    (alike : value.dropWhile (· != '"') = other.dropWhile (· != '"')) :
    pattern.run (front ++ written name before after (value ++ '"' :: rest)) =
      pattern.run (front ++ written name before after (other ++ '"' :: rest)) := by
  obtain ⟨masked, every⟩ := exists_run_append apart
  obtain ⟨behind, quote⟩ := exists_behind value rest
  have hides (value : List Char) (quote : value.dropWhile (· != '"') ++ '"' :: rest = '"' :: behind) :
      pattern.run (front ++ written name before after (value ++ '"' :: rest)) =
        masked ++ (written name [] [] (mark ++ ['"']) ++ pattern.run behind) := by
    have unquoted : '"' ∉ value.takeWhile (· != '"') := fun member => absurd (run_takeWhile _ member) (by decide)
    have split : value ++ '"' :: rest = value.takeWhile (· != '"') ++ '"' :: behind := by
      rw [← quote, ← List.append_assoc, List.takeWhile_append_dropWhile]
    rw [split, ← opening.run unquoted]
    exact every _
  rw [hides value quote, hides other (alike ▸ quote)]

end Redaction.Member

/-- A document with a string as the value of a member with a secret name. -/
def Json.holding (front lead name before after value trail back : List Char) : List Char :=
  front ++ (lead ++ (Member.written name before after (value ++ '"' :: trail) ++ back))

theorem Json.isPlain_of_isNameChar {c : Char} (letter : Redaction.isNameChar c) : isPlain c := by
  have noQuote : c ≠ '"' := by
    rintro rfl
    cases letter
  have noBackslash : c ≠ '\\' := by
    rintro rfl
    cases letter
  have high : 32 ≤ c.toNat := by
    rcases isNameChar_cases letter with alpha | rfl | rfl | rfl
    · have bounds := Text.toNat_of_isAlpha alpha
      omega
    · decide
    · decide
    · decide
  simp [isPlain, noQuote, noBackslash, high]

theorem Json.layout_of_gaps {gap : List Char} (gaps : ∀ c ∈ gap, isGap c) : Layout gap := by
  intro c member
  rcases isGap_iff.mp (gaps c member) with rfl | rfl <;> decide

theorem Json.document_holding {front lead name before after value trail back : List Char}
    (around : Around .element front back) (opening : Member.Opening name before after) (leading : Layout lead)
    (legal : Content value) (trailing : Layout trail) :
    Document (holding front lead name before after value trail back) := by
  have named : Content name :=
    content_of_all (List.all_eq_true.mpr fun c member => isPlain_of_isNameChar (opening.secret.isNameChar c member))
  have valued : Phrase .element (after ++ (quoted value ++ trail)) :=
    .scalar (layout_of_gaps opening.after) (.string legal) trailing
  have entry := Phrase.member leading named (layout_of_gaps opening.before) valued
  have document := around.fill entry
  simpa [holding, Member.written, quoted] using document

variable {request : Request} {first second : Bytes}
  {front lead name before after value other trail back : List Char}

/-- Requests that differ at most in what a member with a secret name has up to the first quote in its value have
the same redacted dump. -/
theorem Redaction.redact_render_body_eq (around : Around .element front back)
    (leading : Layout lead) (trailing : Layout trail) (opening : Member.Opening name before after)
    (legal : Content value) (otherLegal : Content other)
    (alike : value.dropWhile (· != '"') = other.dropWhile (· != '"'))
    (closed : ¬Member.EndsOpen (HeaderLine.pattern.run (RequestDump.head request)) ∨ '"' ∈ front)
    (decoded : Text.decodeLenient first = holding front lead name before after value trail back)
    (otherDecoded : Text.decodeLenient second = holding front lead name before after other trail back) :
    redact (RequestDump.render { request with body := first }) =
      redact (RequestDump.render { request with body := second }) := by
  have dumped (body : Bytes) (value : List Char) (legal : Content value)
      (decoded : Text.decodeLenient body = holding front lead name before after value trail back) :
      HeaderLine.pattern.run (RequestDump.chars { request with body }) =
        (HeaderLine.pattern.run (RequestDump.head request) ++ (front ++ lead)) ++
          Member.written name before after (value ++ '"' :: (trail ++ back)) := by
    have still := HeaderLine.still_phrase (document_holding around opening leading legal trailing)
    rw [RequestDump.chars_eq, decoded]
    have same : RequestDump.head { request with body } = RequestDump.head request := rfl
    rw [RequestDump.run_still still, same]
    simp [holding, Member.written]
  have apart := Member.apart_around around leading RequestDump.unlettered_run closed
  simp only [redact, redactChars, RequestDump.render, String.toList_ofList, dumped first value legal decoded,
    dumped second other otherLegal otherDecoded, Member.run_eq_of_alike apart opening alike]

/-- A request to log in. -/
def loginRequest : Request where
  method := Method.post
  target := .origin ⟨"/login", none⟩

theorem Json.around_sole : Around .element ['\x7b'] ['\x7d'] :=
  .full layout_nil (.last .here) layout_nil

theorem Json.around_second :
    Around .element ('\x7b' :: (quoted "user".toList ++ ':' :: (quoted "alice".toList ++ [',']))) ['\x7d'] := by
  have value : Phrase .element ([] ++ (quoted "alice".toList ++ [])) :=
    .scalar layout_nil (.string (content_of_all (by decide))) layout_nil
  have entry := Phrase.member layout_nil (content_of_all (by decide) : Content "user".toList) layout_nil value
  have around : Around (.entries .curly) _ [] := .later entry (.last .here)
  simpa [Bracket.opens, Bracket.closes] using Around.full layout_nil around layout_nil

/-- Neither the escape of a quote nor the start of a parameter in a secret value shows. -/
theorem Redaction.redact_render_body_eq_login :
    let front := '\x7b' :: (quoted "user".toList ++ ':' :: (quoted "alice".toList ++ [',']))
    let plain := "a".toList
    let dressed := "\\u0022&token=".toList
    let first := Bytes.ofString "\x7b\"user\":\"alice\",\"Api_Key\" : \"a\"\x7d"
    let second := Bytes.ofString "\x7b\"user\":\"alice\",\"Api_Key\" : \"\\u0022&token=\"\x7d"
    Around .element front ['\x7d'] ∧ Member.Opening "Api_Key".toList [' '] [' '] ∧ Content plain ∧ Content dressed ∧
      Text.decodeLenient first = holding front [] "Api_Key".toList [' '] [' '] plain [] ['\x7d'] ∧
      Text.decodeLenient second = holding front [] "Api_Key".toList [' '] [' '] dressed [] ['\x7d'] ∧
      redact (RequestDump.render { loginRequest with body := first }) =
        redact (RequestDump.render { loginRequest with body := second }) := by
  intro front plain dressed first second
  have opening : Member.Opening "Api_Key".toList [' '] [' '] := by
    refine ⟨?_, List.all_eq_true.mp (by decide), List.all_eq_true.mp (by decide)⟩
    exact (secretName_iff (List.all_eq_true.mp (by decide))).mpr (by decide)
  have legal : Content plain := content_of_all (by decide)
  have dressedLegal : Content dressed := by
    have behind : Content "&token=".toList := content_of_all (by decide)
    exact .code (by decide : ['0', '0', '2', '2'].length = 4) (List.all_eq_true.mp (by decide)) behind
  have decoded : Text.decodeLenient first = holding front [] "Api_Key".toList [' '] [' '] plain [] ['\x7d'] := by
    decide +kernel
  have dressedDecoded :
      Text.decodeLenient second = holding front [] "Api_Key".toList [' '] [' '] dressed [] ['\x7d'] := by
    decide +kernel
  refine ⟨around_second, opening, legal, dressedLegal, decoded, dressedDecoded, ?_⟩
  exact redact_render_body_eq around_second layout_nil layout_nil opening legal dressedLegal
    (by decide) (.inr (by decide)) decoded dressedDecoded

/-- Behind an escaped quote the rest of a secret is left, although the documents are the same but for the value
of one member with a secret name. -/
theorem Redaction.redact_render_body_ne :
    let escaped := ['a', '\\', '"', 'b']
    let first := Bytes.ofString "\x7b\"password\":\"a\"\x7d"
    let second := Bytes.ofString "\x7b\"password\":\"a\\\"b\"\x7d"
    Around .element ['\x7b'] ['\x7d'] ∧ SecretName "password".toList ∧ Content ['a'] ∧ Content escaped ∧
      Text.decodeLenient first = holding ['\x7b'] [] "password".toList [] [] ['a'] [] ['\x7d'] ∧
      Text.decodeLenient second = holding ['\x7b'] [] "password".toList [] [] escaped [] ['\x7d'] ∧
      redact (RequestDump.render { loginRequest with body := first }) ≠
        redact (RequestDump.render { loginRequest with body := second }) := by
  have named : SecretName "password".toList := (secretName_iff (List.all_eq_true.mp (by decide))).mpr (by decide)
  have legal : Content ['a', '\\', '"', 'b'] := .plain (by decide) (.short (by decide) (.plain (by decide) .done))
  refine ⟨around_sole, named, .plain (by decide) .done, legal, ?_, ?_, ?_⟩
  · decide +kernel
  · decide +kernel
  · decide +kernel

end ServiceHost

import ServiceHost.Proofs.Redaction.Lines
import ServiceHost.Proofs.Text.Decoding
import ServiceHost.RequestDump

/-!
Secret headers: what a request carries in them leaves no trace in its redacted dump. Header lines are masked
line by line, and the line of a secret header is masked as a whole, since no octet of a value shows as a line
break.
-/

namespace ServiceHost

namespace Redaction.HeaderLine

variable {previous : Option Char} {c : Char} {front back others name gap value rest : List Char}
  {occurrence : Occurrence}

/-- A header line ends where its line does. -/
theorem Match.feed_not_mem (here : Match previous occurrence rest) : '\n' ∉ occurrence.piece := by
  cases here with
  | @intro name gap value _ _ opening valued _ =>
    have inName : '\n' ∉ name := opening.separator_not_mem (by decide)
    have inGap : '\n' ∉ gap := not_mem_gap opening.gaps (by decide)
    have inValue : '\n' ∉ value := fun member => absurd (valued _ member) (by decide)
    simp [written, inName, inGap, inValue]

/-- Only the character behind a header line counts, and only as its end. -/
theorem Match.of_head? (here : Match previous occurrence rest) (ends : others.head? = rest.head?) :
    Match previous occurrence others := by
  obtain ⟨starts, opening, valued, stops⟩ := here
  refine .intro starts opening valued ?_
  rwa [Stops, ends]

theorem quiet_feed : Grammar.Quiet Match previous ('\n' :: rest) := by
  intro occurrence others split here
  cases occurrence with
  | mk piece masked =>
    cases piece with
    | nil => exact absurd rfl (reads.nonempty here)
    | cons first more =>
      obtain ⟨rfl, _⟩ := List.cons.inj split
      exact here.feed_not_mem List.mem_cons_self

/-- What is found before a line feed lies before it as a whole. -/
theorem Match.exists_front (here : Match previous occurrence rest)
    (split : front ++ '\n' :: back = occurrence.piece ++ rest) :
    ∃ more, front = occurrence.piece ++ more ∧ rest = more ++ '\n' :: back := by
  rcases List.append_eq_append_iff.mp split with ⟨more, piece, feed⟩ | ⟨more, front_eq, rest_eq⟩
  · cases more with
    | nil => exact ⟨[], by simpa using piece.symm, by simpa using feed.symm⟩
    | cons first more =>
      obtain ⟨rfl, _⟩ := List.cons.inj feed
      exact absurd (by simp [piece]) here.feed_not_mem
  · exact ⟨more, front_eq, rest_eq⟩

/-- What is masked of a front does not depend on the text behind its line feed. -/
theorem exists_mask_append_feed (previous : Option Char) (front : List Char) :
    ∃ masked, ∀ back, pattern.mask previous (front ++ '\n' :: back) =
      masked ++ '\n' :: pattern.mask (some '\n') back := by
  induction size : front.length using Nat.strongRecOn generalizing previous front with
  | _ size inductionHypothesis =>
    subst size
    by_cases found : ∃ occurrence more, front = occurrence.piece ++ more ∧
        Match previous occurrence (more ++ ['\n'])
    · obtain ⟨occurrence, more, rfl, here⟩ := found
      have nonempty := List.length_pos_of_ne_nil (reads.nonempty here)
      obtain ⟨masked, every⟩ :=
        inductionHypothesis more.length (by simp [nonempty]) occurrence.piece.getLast? more rfl
      refine ⟨occurrence.masked ++ masked, fun back => ?_⟩
      have there : Match previous occurrence (more ++ '\n' :: back) := here.of_head? (by cases more <;> rfl)
      rw [List.append_assoc, reads.mask_hit there, every, List.append_assoc]
    · have quiet (back : List Char) : Grammar.Quiet Match previous (front ++ '\n' :: back) := by
        intro occurrence rest split here
        obtain ⟨more, front_eq, rfl⟩ := here.exists_front split
        exact found ⟨occurrence, more, front_eq, here.of_head? (by cases more <;> rfl)⟩
      cases front with
      | nil => exact ⟨[], fun back => reads.mask_quiet (quiet back)⟩
      | cons c front =>
        obtain ⟨masked, every⟩ := inductionHypothesis front.length (by simp) (some c) front rfl
        refine ⟨c :: masked, fun back => ?_⟩
        have here : Grammar.Quiet Match previous (c :: (front ++ '\n' :: back)) := quiet back
        rw [List.cons_append, reads.mask_quiet here, every, List.cons_append]

/-- Header lines are masked line by line. -/
theorem mask_append_feed (previous : Option Char) (front back : List Char) :
    pattern.mask previous (front ++ '\n' :: back) =
      pattern.mask previous (front ++ ['\n']) ++ pattern.mask (some '\n') back := by
  obtain ⟨masked, every⟩ := exists_mask_append_feed previous front
  rw [every back, every [], Pattern.mask_nil, List.append_assoc, List.singleton_append]

/-- The line feed behind a front stays. -/
theorem getLast?_mask_feed (previous : Option Char) (front : List Char) :
    (pattern.mask previous (front ++ ['\n'])).getLast? = some '\n' := by
  obtain ⟨masked, every⟩ := exists_mask_append_feed previous front
  rw [every [], Pattern.mask_nil, List.getLast?_append_cons, List.getLast?_singleton]

/-- Off the start of a line nothing is a header line. -/
theorem quiet_of_inLine (inLine : startsLine previous = false) : Grammar.Quiet Match previous rest := by
  rintro _ _ _ ⟨starts, _, _, _⟩
  rw [inLine] at starts
  cases starts

/-- The line of a secret header shows nothing of its value. -/
theorem mask_line (opening : Opening name gap) (valued : ∀ c ∈ value, isValueChar c) :
    pattern.mask (some '\n') (written name gap value ++ RequestDump.lineBreak) =
      written name [] (' ' :: mark) ++ RequestDump.lineBreak := by
  have here : Match (some '\n') ⟨written name gap value, written name [] (' ' :: mark)⟩
      RequestDump.lineBreak :=
    .intro (by decide) opening valued (stops_cons.mpr (by decide))
  have behind : pattern.mask (written name gap value).getLast? RequestDump.lineBreak =
      RequestDump.lineBreak := by
    rw [RequestDump.lineBreak, reads.mask_quiet (quiet_of_inLine here.startsLine_getLast?),
      reads.mask_quiet quiet_feed, Pattern.mask_nil]
  have masks := reads.mask_hit here
  rwa [behind] at masks

end Redaction.HeaderLine

open Http Redaction HeaderLine

/-- The headers that carry credentials. -/
def Http.HeaderName.credentials : List String :=
  ["authorization", "proxy-authorization", "cookie", "set-cookie", "x-api-key"]

/-- Two fields have the same name, and the same value unless the header carries credentials. -/
def Http.AlikeButSecret (first second : Field) : Prop :=
  first.1 = second.1 ∧ (first.1.text ∉ HeaderName.credentials → first.2 = second.2)

/-- Two requests differ at most in the values of headers that carry credentials. -/
structure Http.Request.AlikeButSecrets (first second : Request) : Prop where
  method : first.method = second.method
  target : first.target = second.target
  version : first.version = second.version
  fields : List.Forall₂ AlikeButSecret first.headers.fields second.headers.fields
  body : first.body = second.body

namespace RequestDump

variable {first second : Request} {field other : Field} {fields others : List Field} {back : List Char}

/-- The headers that carry credentials are the secret ones. -/
theorem mem_secretHeaders {name : String} (carries : name ∈ HeaderName.credentials) :
    name.toList.map Text.folded ∈ secretHeaders := by
  have every : HeaderName.credentials.all fun name => name.toList.map Text.folded ∈ secretHeaders := by
    decide
  simpa using List.all_eq_true.mp every name carries

/-- No octet of a header value shows as a line break. -/
theorem isValueChar_of_mem (value : HeaderValue) : ∀ c ∈ Text.decodeLenient value.octets, isValueChar c := by
  intro c member
  by_contra breaks
  have lineBreak : c = '\r' ∨ c = '\n' := by
    simp only [isValueChar, Bool.and_eq_true, bne_iff_ne] at breaks
    tauto
  obtain ⟨octet, inside, same⟩ : ∃ octet ∈ value.octets, c = Char.ofNat octet.toNat := by
    rcases lineBreak with rfl | rfl <;> exact Text.mem_of_mem_decodeLenient member (by decide) (by decide)
  have legal : isValueOctet octet := List.all_eq_true.mp value.legal octet inside
  rcases Text.toNat_ofNat_or octet.toNat with shown | none
  · rw [← same] at shown
    rcases lineBreak with rfl | rfl
    · obtain rfl : 13 = octet := UInt8.toNat_inj.mp shown
      cases legal
    · obtain rfl : 10 = octet := UInt8.toNat_inj.mp shown
      cases legal
  · rw [← same] at none
    rcases lineBreak with rfl | rfl <;> exact absurd none (by decide)

theorem fieldLine_eq (field : Field) :
    fieldLine field =
      written field.1.text.toList [] (' ' :: Text.decodeLenient field.2.octets) ++ lineBreak := by
  simp [fieldLine, written]

/-- The lines of two fields that are alike but for a secret are masked alike. -/
theorem mask_fieldLine_eq (alike : AlikeButSecret field other) :
    pattern.mask (some '\n') (fieldLine field) = pattern.mask (some '\n') (fieldLine other) := by
  obtain ⟨name, value⟩ := field
  obtain ⟨_, others⟩ := other
  obtain ⟨rfl, same⟩ := alike
  by_cases carries : name.text ∈ HeaderName.credentials
  · have opening : Opening name.text.toList [] := ⟨mem_secretHeaders carries, by simp⟩
    have valued (value : HeaderValue) :
        ∀ c ∈ ' ' :: Text.decodeLenient value.octets, isValueChar c :=
      List.forall_mem_cons.mpr ⟨by decide, isValueChar_of_mem value⟩
    rw [fieldLine_eq, fieldLine_eq, mask_line opening (valued value), mask_line opening (valued others)]
  · obtain rfl : value = others := same carries
    rfl

/-- What ends with a line break is masked apart from what follows it. -/
theorem mask_lineBreak (previous : Option Char) (line back : List Char) :
    pattern.mask previous (line ++ lineBreak ++ back) =
      pattern.mask previous (line ++ lineBreak) ++ pattern.mask (some '\n') back := by
  have apart := mask_append_feed previous (line ++ ['\r']) back
  simpa [lineBreak] using apart

theorem mask_fieldLine_append (field : Field) (back : List Char) :
    pattern.mask (some '\n') (fieldLine field ++ back) =
      pattern.mask (some '\n') (fieldLine field) ++ pattern.mask (some '\n') back := by
  rw [fieldLine_eq]
  exact mask_lineBreak ..

theorem mask_fieldLines_eq (alike : List.Forall₂ AlikeButSecret fields others) (back : List Char) :
    pattern.mask (some '\n') (fields.flatMap fieldLine ++ back) =
      pattern.mask (some '\n') (others.flatMap fieldLine ++ back) := by
  induction alike with
  | nil => rfl
  | cons here _ inductionHypothesis =>
    simp only [List.flatMap_cons, List.append_assoc, mask_fieldLine_append, inductionHypothesis,
      mask_fieldLine_eq here]

/-- Masking the header lines of a dump leaves nothing of the values of secret headers. -/
theorem run_chars_eq (alike : first.AlikeButSecrets second) :
    pattern.run (chars first) = pattern.run (chars second) := by
  have lines (request : Request) : chars request =
      request.method.name.toList ++ [' '] ++ request.target.render.toList ++ [' '] ++
        request.version.render.toList ++ lineBreak ++
          (request.headers.fields.flatMap fieldLine ++ (lineBreak ++ Text.decodeLenient request.body)) := by
    simp [chars, requestLine]
  rw [lines first, lines second, Pattern.run, Pattern.run, mask_lineBreak, mask_lineBreak, alike.method,
    alike.target, alike.version, alike.body, mask_fieldLines_eq alike.fields]

end RequestDump

/-- Requests that differ at most in the values of headers that carry credentials have the same redacted
dump. -/
theorem Redaction.redact_render_eq {first second : Request} (alike : first.AlikeButSecrets second) :
    redact (RequestDump.render first) = redact (RequestDump.render second) := by
  have lines : pattern.run (RequestDump.chars first) = pattern.run (RequestDump.chars second) :=
    RequestDump.run_chars_eq alike
  rw [redact, redact, RequestDump.render, RequestDump.render, String.toList_ofList, String.toList_ofList,
    redactChars, redactChars, lines]

/-- A request with two values in its authorization header and a body. -/
def Http.Request.authorized (first second : HeaderValue) : Request where
  target := .origin ⟨"/a", some "token=t"⟩
  headers := {
    fields := [(⟨"authorization", by decide⟩, first), (⟨"authorization", by decide⟩, second),
      (⟨"accept", by decide⟩, ⟨Bytes.ofString "*/*", by decide⟩)]
    grouped := by simp [Headers.Grouped] }
  body := Bytes.ofString "\"key\":\"k\""

/-- Neither the start of a member nor octets that encode nothing in a secret value show. -/
theorem Redaction.redact_render_eq_authorized :
    let plain : HeaderValue := ⟨Bytes.ofString "Bearer a", by decide⟩
    let member : HeaderValue := ⟨Bytes.ofString "\"token\":\"", by decide⟩
    let broken : HeaderValue := ⟨[34, 255, 9, 240, 159], by decide⟩
    (Request.authorized plain plain).AlikeButSecrets (Request.authorized member broken) ∧
      redact (RequestDump.render (Request.authorized plain plain)) =
        redact (RequestDump.render (Request.authorized member broken)) := by
  intro plain member broken
  have alike : (Request.authorized plain plain).AlikeButSecrets (Request.authorized member broken) := by
    constructor
    · rfl
    · rfl
    · rfl
    · exact .cons ⟨rfl, fun hidden => absurd (by decide) hidden⟩
        (.cons ⟨rfl, fun hidden => absurd (by decide) hidden⟩ (.cons ⟨rfl, fun _ => rfl⟩ .nil))
    · rfl
  exact ⟨alike, redact_render_eq alike⟩

end ServiceHost

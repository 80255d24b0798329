import ServiceHost.Proofs.Dump.Target
import ServiceHost.Proofs.Redaction.Headers
import ServiceHost.Proofs.Text.Encoding

/-!
Reading dumps back. The head of a dump ends at its first empty line. No part of a request holds a carriage return but
the body, which stands behind the head, so that every line of the head is one that the dump wrote. The first line is
read by its spaces and each other one by its first colon.
-/

namespace ServiceHost.RequestDump

open Http

/-- What a dump tells of a request: octets that encode nothing show as replacement characters. -/
structure Account where
  method : Method
  target : String
  version : Version
  fields : List (HeaderName × String)
  body : String
  deriving DecidableEq

/-- What a dump tells of a header field. -/
def told (field : Field) : HeaderName × String :=
  (field.1, field.2.octets.toStringLenient)

/-- The account of a request. -/
def account (request : Request) : Account where
  method := request.method
  target := request.target.render
  version := request.version
  fields := request.headers.fields.map told
  body := Bytes.toStringLenient request.body

/-- The lines of a text up to its first empty line, and what follows that line. A part of the first line was read
already. -/
def head? (line : List Char) : List Char → Option (List (List Char) × List Char)
  | [] => none
  | '\r' :: '\n' :: rest =>
    if line.isEmpty then some ([], rest)
    else (head? [] rest).map fun head => (line :: head.1, head.2)
  | c :: rest => head? (line ++ [c]) rest

/-- What stands before the first mark and behind it. -/
def cut? (mark : Char) (text : List Char) : Option (List Char × List Char) :=
  match text.dropWhile (· != mark) with
  | [] => none
  | _ :: rest => some (text.takeWhile (· != mark), rest)

/-- The version that a text names. -/
def version? (text : List Char) : Option Version :=
  [.http09, .http10, .http11, .http2, .http3].find? fun version : Version => version.render.toList = text

/-- Reads the first line: method, target and version with spaces between them. -/
def readFirst? (line : List Char) : Option (Method × String × Version) := do
  let (name, behind) ← cut? ' ' line
  let (target, text) ← cut? ' ' behind
  let method ← Method.ofString? (String.ofList name)
  let version ← version? text
  return (method, String.ofList target, version)

/-- Reads the line of a field: a name and behind a colon and a space its value. -/
def readField? (line : List Char) : Option (HeaderName × String) := do
  let (text, behind) ← cut? ':' line
  let name ← HeaderName.ofString? (String.ofList text)
  return (name, String.ofList (behind.drop 1))

/-- Reads a dump. -/
def read? (dump : String) : Option Account := do
  let (lines, body) ← head? [] dump.toList
  let (method, target, version) ← readFirst? (← lines.head?)
  let fields ← lines.tail.mapM readField?
  return { method, target, version, fields, body := String.ofList body }

variable {mark : Char} {line front back body : List Char} {lines : List (List Char)} {request : Request}

theorem cut?_append (absent : mark ∉ front) : cut? mark (front ++ mark :: back) = some (front, back) := by
  have run : ∀ c ∈ front, (c != mark) = true := fun c member => bne_iff_ne.mpr fun same => absent (same ▸ member)
  have stops : Redaction.Stops (· != mark) (mark :: back) := Redaction.stops_cons.mpr (by simp)
  rw [cut?, Redaction.dropWhile_run run stops, Redaction.takeWhile_run run stops]

theorem head?_cons {c : Char} (other : c ≠ '\r') : head? line (c :: back) = head? (line ++ [c]) back := by
  rw [head?]
  exact fun _ same _ => other same

/-- A line goes on up to a carriage return. -/
theorem head?_append (unbroken : '\r' ∉ front) : head? line (front ++ back) = head? (line ++ front) back := by
  induction front generalizing line with
  | nil => rw [List.nil_append, List.append_nil]
  | cons c front inductionHypothesis =>
    obtain ⟨here, later⟩ := not_or.mp (mt List.mem_cons.mpr unbroken)
    rw [List.cons_append, head?_cons (Ne.symm here), inductionHypothesis later, List.append_assoc,
      List.singleton_append]

/-- An empty line ends the head, and a line that is not empty is one of the head. -/
theorem head?_lineBreak : head? line (lineBreak ++ back) =
    if line.isEmpty then some ([], back) else (head? [] back).map fun head => (line :: head.1, head.2) := rfl

/-- The head of a text holds the lines that were written before an empty one. -/
theorem head?_lines (whole : ∀ line ∈ lines, line ≠ [] ∧ '\r' ∉ line) (body : List Char) :
    head? [] (lines.flatMap (· ++ lineBreak) ++ (lineBreak ++ body)) = some (lines, body) := by
  induction lines with
  | nil => rfl
  | cons line lines inductionHypothesis =>
    obtain ⟨⟨filled, unbroken⟩, later⟩ := List.forall_mem_cons.mp whole
    rw [List.flatMap_cons, List.append_assoc, List.append_assoc, head?_append unbroken, List.nil_append,
      head?_lineBreak, if_neg (by simpa using filled), inductionHypothesis later, Option.map_some]

/-- The first line without its end. -/
def firstText (request : Request) : List Char :=
  request.method.name.toList ++ ' ' :: (request.target.render.toList ++ ' ' :: request.version.render.toList)

/-- The line of a field without its end. -/
def fieldText (field : Field) : List Char :=
  field.1.text.toList ++ ':' :: ' ' :: Text.decodeLenient field.2.octets

/-- A dump is made of lines, an empty line and the body. -/
theorem chars_eq_lines (request : Request) : chars request =
    (firstText request :: request.headers.fields.map fieldText).flatMap (· ++ lineBreak) ++
      (lineBreak ++ Text.decodeLenient request.body) := by
  have fields : request.headers.fields.flatMap fieldLine =
      (request.headers.fields.map fieldText).flatMap (· ++ lineBreak) := by
    rw [List.flatMap_map]
    refine List.flatMap_congr fun field _ => ?_
    simp [fieldLine, fieldText]
  rw [chars, fields]
  simp [requestLine, firstText]

theorem version?_render (version : Version) : version? version.render.toList = some version := by
  cases version <;> decide

/-- A text without carriage returns and line feeds. -/
def Unbroken (text : List Char) : Prop := ∀ c ∈ text, c ≠ '\r' ∧ c ≠ '\n'

theorem unbroken_append : Unbroken (front ++ back) ↔ Unbroken front ∧ Unbroken back :=
  List.forall_mem_append

theorem unbroken_cons {c : Char} : Unbroken (c :: back) ↔ (c ≠ '\r' ∧ c ≠ '\n') ∧ Unbroken back :=
  List.forall_mem_cons

theorem Unbroken.not_mem (unbroken : Unbroken line) : '\r' ∉ line :=
  fun broken => (unbroken '\r' broken).1 rfl

theorem unbroken_token {word : List Char} (every : ∀ c ∈ word, isTokenChar c) : Unbroken word :=
  fun c member => ⟨(isTokenChar_ne_blank (every c member)).2.1, (isTokenChar_ne_blank (every c member)).2.2.1⟩

theorem unbroken_clear {text : List Char} (clear : IsClear text) : Unbroken text := by
  intro c member
  have above := clear c member
  constructor <;> rintro rfl <;> exact absurd above (by decide)

theorem blank_not_mem_clear {text : List Char} (clear : IsClear text) : ' ' ∉ text :=
  fun blank => absurd (clear ' ' blank) (by decide)

theorem isTokenChar_of_mem_method (method : Method) : ∀ c ∈ method.name.toList, isTokenChar c :=
  List.all_eq_true.mp (Bool.and_eq_true_iff.mp method.token).2

theorem isNameChar_of_mem_name (name : HeaderName) : ∀ c ∈ name.text.toList, isNameChar c := by
  have legal := name.legal
  simp only [isHeaderName, Bool.and_eq_true] at legal
  exact List.all_eq_true.mp legal.1.2

theorem isTokenChar_of_mem_name (name : HeaderName) : ∀ c ∈ name.text.toList, isTokenChar c :=
  fun c member => (Bool.and_eq_true_iff.mp (isNameChar_of_mem_name name c member)).1

theorem unbroken_firstText (clear : request.target.IsClear) : Unbroken (firstText request) := by
  have version : Unbroken request.version.render.toList := by
    cases request.version <;> exact unbroken_clear (isClear_of_all (by decide))
  rw [firstText, unbroken_append, unbroken_cons, unbroken_append, unbroken_cons]
  exact ⟨unbroken_token (isTokenChar_of_mem_method request.method), by decide, unbroken_clear clear.render,
    by decide, version⟩

theorem unbroken_fieldText (field : Field) : Unbroken (fieldText field) := by
  have value : Unbroken (Text.decodeLenient field.2.octets) := by
    intro c member
    have inValue := isValueChar_of_mem field.2 c member
    simpa [Redaction.HeaderLine.isValueChar] using inValue
  rw [fieldText, unbroken_append, unbroken_cons, unbroken_cons]
  exact ⟨unbroken_token (isTokenChar_of_mem_name field.1), by decide, by decide, value⟩

/-- The first line reads back. -/
theorem readFirst?_firstText (clear : request.target.IsClear) :
    readFirst? (firstText request) = some (request.method, request.target.render, request.version) := by
  have method : Method.ofString? request.method.name = some request.method := Method.ofString?_eq_some_iff.mpr rfl
  have name : ' ' ∉ request.method.name.toList :=
    fun blank => (isTokenChar_ne_blank (isTokenChar_of_mem_method request.method ' ' blank)).1 rfl
  simp only [readFirst?, firstText, cut?_append name, cut?_append (blank_not_mem_clear clear.render),
    String.ofList_toList, method, version?_render, Option.bind_eq_bind, Option.bind_some]
  rfl

/-- A header name is written as it is read. -/
theorem ofString?_text (name : HeaderName) : HeaderName.ofString? name.text = some name := by
  have lower : name.text.toList.map Char.toLower = name.text.toList := by
    refine (List.map_congr_left fun c member => ?_).trans (List.map_id _)
    have small : c.isUpper = false := by simpa using (Bool.and_eq_true_iff.mp (isNameChar_of_mem_name name c member)).2
    exact dif_neg (of_decide_eq_false small)
  unfold HeaderName.ofString?
  simp only [lower, String.ofList_toList]
  exact dif_pos name.legal

/-- The line of a field reads back. -/
theorem readField?_fieldText (field : Field) : readField? (fieldText field) = some (told field) := by
  have name : ':' ∉ field.1.text.toList :=
    fun colon => (isTokenChar_ne_blank (isTokenChar_of_mem_name field.1 ':' colon)).2.2.2 rfl
  simp only [readField?, fieldText, cut?_append name, String.ofList_toList, ofString?_text, Option.bind_eq_bind,
    Option.bind_some]
  rfl

theorem mapM_readField? (fields : List Field) :
    (fields.map fieldText).mapM readField? = some (fields.map told) := by
  induction fields with
  | nil => rfl
  | cons field fields inductionHypothesis =>
    simp only [List.map_cons, List.mapM_cons, readField?_fieldText, inductionHypothesis, Option.bind_eq_bind,
      Option.bind_some, Option.pure_def]

/-- The lines of the head are those that the dump wrote. -/
theorem head?_chars (clear : request.target.IsClear) : head? [] (chars request) =
    some (firstText request :: request.headers.fields.map fieldText, Text.decodeLenient request.body) := by
  rw [chars_eq_lines, head?_lines]
  rw [List.forall_mem_cons, List.forall_mem_map]
  exact ⟨⟨by simp [firstText], (unbroken_firstText clear).not_mem⟩,
    fun field _ => ⟨by simp [fieldText], (unbroken_fieldText field).not_mem⟩⟩

theorem read?_render (clear : request.target.IsClear) : read? (render request) = some (account request) := by
  simp only [read?, render, String.toList_ofList, head?_chars clear, Option.bind_eq_bind, Option.bind_some,
    List.head?_cons, List.tail_cons, readFirst?_firstText clear, mapM_readField?]
  rfl

/-- The header values and the body of a request encode texts. -/
structure IsText (request : Request) : Prop where
  fields : ∀ field ∈ request.headers.fields, ∃ text, field.2.octets = Bytes.ofString text
  body : ∃ text, request.body = Bytes.ofString text

/-- The octets of a text are told by the text. -/
theorem ofString_toStringLenient {octets : Bytes} (encoded : ∃ text, octets = Bytes.ofString text) :
    Bytes.ofString octets.toStringLenient = octets := by
  obtain ⟨text, rfl⟩ := encoded
  simp only [Bytes.toStringLenient, Bytes.ofString, Text.decodeLenient_encode, String.ofList_toList]

/-- Fields whose values encode texts are told by these texts. -/
theorem fields_eq {fields others : List Field}
    (encoded : ∀ field ∈ fields, ∃ text, field.2.octets = Bytes.ofString text)
    (otherEncoded : ∀ field ∈ others, ∃ text, field.2.octets = Bytes.ofString text)
    (same : fields.map told = others.map told) : fields = others := by
  induction fields generalizing others with
  | nil => exact (List.map_eq_nil_iff.mp same.symm).symm
  | cons field fields inductionHypothesis =>
    cases others with
    | nil => cases same
    | cons other others =>
      obtain ⟨here, later⟩ := List.cons.inj same
      obtain ⟨name, text⟩ := Prod.mk.inj here
      obtain ⟨value, values⟩ := List.forall_mem_cons.mp encoded
      obtain ⟨otherValue, otherValues⟩ := List.forall_mem_cons.mp otherEncoded
      have octets : field.2.octets = other.2.octets := by
        rw [← ofString_toStringLenient value, text, ofString_toStringLenient otherValue]
      rw [inductionHypothesis values otherValues later, Prod.ext name (HeaderValue.ext octets)]

/-- What the dump of a request tells. -/
structure Unambiguous (request : Request) : Prop where
  /-- The dump reads back as the account of the request. -/
  read : read? (render request) = some (account request)
  /-- The head is the first line and one line for each field, and the body follows it. -/
  head : head? [] (render request).toList =
    some (firstText request :: request.headers.fields.map fieldText, Text.decodeLenient request.body)
  /-- No line of the head has a line break in it. -/
  unbroken : ∀ line ∈ firstText request :: request.headers.fields.map fieldText, Unbroken line
  /-- The dump is that of another request if and only if their accounts are the same. -/
  same : ∀ other : Request, (∃ text, Target.ofString? text = some other.target) →
    (render request = render other ↔ account request = account other)
  /-- If both requests are made of texts, nothing in them differs. -/
  sole : ∀ other : Request, (∃ text, Target.ofString? text = some other.target) → IsText request → IsText other →
    render request = render other → request.method = other.method ∧ request.target.render = other.target.render ∧
      request.version = other.version ∧ request.headers = other.headers ∧ request.body = other.body

/-- A dump is made of what the account of the request tells. -/
theorem render_eq_of_account_eq {other : Request} (same : account request = account other) :
    render request = render other := by
  have method : request.method = other.method := congrArg Account.method same
  have target : request.target.render = other.target.render := congrArg Account.target same
  have version : request.version = other.version := congrArg Account.version same
  have fields : request.headers.fields.map told = other.headers.fields.map told := congrArg Account.fields same
  have body : Text.decodeLenient request.body = Text.decodeLenient other.body :=
    String.ofList_inj.mp (congrArg Account.body same)
  have lines (request : Request) : request.headers.fields.flatMap fieldLine =
      (request.headers.fields.map told).flatMap fun field =>
        field.1.text.toList ++ [':', ' '] ++ field.2.toList ++ lineBreak := by
    rw [List.flatMap_map]
    refine List.flatMap_congr fun field _ => ?_
    simp [fieldLine, told, Bytes.toStringLenient]
  simp only [render, chars, requestLine, lines, method, target, version, fields, body]

/-- The dump of a request with a legal target tells its method, the text of its target, its version, its fields in
order and its body, and nothing in the request changes the lines of its head. -/
theorem render_unambiguous (request : Request) {text : String} (legal : Target.ofString? text = some request.target) :
    Unambiguous request := by
  have clear : request.target.IsClear := Target.isClear_of_ofString? legal
  have told (other : Request) (otherLegal : ∃ text, Target.ofString? text = some other.target)
      (same : render request = render other) : account request = account other := by
    obtain ⟨_, read⟩ := otherLegal
    have accounts := read?_render clear
    rw [same, read?_render (Target.isClear_of_ofString? read)] at accounts
    exact (Option.some.inj accounts).symm
  refine ⟨read?_render clear, ?_, ?_, fun other otherLegal => ⟨told other otherLegal, render_eq_of_account_eq⟩, ?_⟩
  · rw [render, String.toList_ofList, head?_chars clear]
  · exact List.forall_mem_cons.mpr ⟨unbroken_firstText clear, List.forall_mem_map.mpr fun field _ =>
      unbroken_fieldText field⟩
  · intro other otherLegal isText otherIsText same
    have accounts := told other otherLegal same
    have fields : request.headers.fields = other.headers.fields :=
      fields_eq isText.fields otherIsText.fields (congrArg Account.fields accounts)
    have body : request.body = other.body := by
      rw [← ofString_toStringLenient isText.body, ← ofString_toStringLenient otherIsText.body]
      exact congrArg Bytes.ofString (congrArg Account.body accounts)
    exact ⟨congrArg Account.method accounts, congrArg Account.target accounts, congrArg Account.version accounts,
      Headers.ext fields, body⟩

/-- A request with a repeated header, octets that encode nothing, and a body that looks like more of the head. -/
def misleading : Request where
  method := Method.post
  target := .absolute "http" "b" ⟨"", some "next=/"⟩
  version := .http10
  headers := { fields := [(HeaderName.requestId, ⟨Bytes.ofString "a: b", by decide⟩),
    (HeaderName.requestId, ⟨[255], by decide⟩), (HeaderName.userAgent, ⟨[], by decide⟩)] }
  body := Bytes.ofString "\r\nx-request-id: c\r\n\r\n" ++ [240, 159]

theorem render_unambiguous_misleading :
    Target.ofString? "HTTP://b?next=/#top" = some misleading.target ∧ Unambiguous misleading :=
  ⟨by decide, render_unambiguous misleading (by decide : Target.ofString? "HTTP://b?next=/#top" = _)⟩

end ServiceHost.RequestDump

import Mathlib.Data.List.DropRight
import ServiceHost.Pipeline.Run

/-!
Trace ids as texts: what a request brings along without the blanks at its ends, or what is made for it, is
a legal header value that reads back as the same id.
-/

namespace ServiceHost

open Http

namespace Text

variable {drop : Char → Bool} {chars : List Char} {text : String} {c : Char}

theorem stripWhere_eq_rdropWhile : stripWhere drop chars = (chars.dropWhile drop).rdropWhile drop := rfl

theorem mem_of_mem_stripWhere (member : c ∈ stripWhere drop chars) : c ∈ chars := by
  rw [stripWhere_eq_rdropWhile] at member
  exact (List.dropWhile_sublist drop).mem ((List.rdropWhile_prefix drop _).mem member)

/-- A text of which neither end is dropped is left as it is. -/
theorem stripWhere_eq_self (first : ∀ c ∈ chars.head?, drop c = false)
    (last : ∀ c ∈ chars.getLast?, drop c = false) : stripWhere drop chars = chars := by
  have front : chars.dropWhile drop = chars := by
    cases chars with
    | nil => rfl
    | cons c rest => exact List.dropWhile_cons_of_neg (by simp [first c rfl])
  rw [stripWhere_eq_rdropWhile, front, List.rdropWhile_eq_self_iff]
  intro nonempty
  simp [last _ (List.getLast?_eq_getLast_of_ne_nil nonempty)]

theorem stripWhere_stripWhere : stripWhere drop (stripWhere drop chars) = stripWhere drop chars := by
  generalize stripped_eq : stripWhere drop chars = stripped
  rw [stripWhere_eq_rdropWhile] at stripped_eq
  refine stripWhere_eq_self ?_ ?_
  · intro c first
    obtain ⟨rest, rfl⟩ := List.head?_eq_some_iff.mp first
    obtain ⟨more, whole⟩ := List.rdropWhile_prefix drop (chars.dropWhile drop)
    rw [stripped_eq] at whole
    have stays := List.head?_dropWhile_not drop chars
    rw [← whole] at stays
    simpa using stays
  · intro c last
    have nonempty : stripped ≠ [] := by
      rintro rfl
      cases last
    subst stripped_eq
    have stays := List.rdropWhile_last_not drop _ nonempty
    rw [List.getLast?_eq_getLast_of_ne_nil nonempty, Option.mem_some_iff] at last
    simpa [last] using stays

theorem strip_strip : strip (strip text) = strip text := by
  rw [strip, strip, String.toList_ofList, stripWhere_stripWhere]

/-- A character that reads as text in a header value: a tab or a printable ASCII character. -/
def isVisible (c : Char) : Bool :=
  c.toNat == 9 || (32 ≤ c.toNat && c.toNat < 127)

theorem isVisible_iff : isVisible c ↔ c.toNat = 9 ∨ 32 ≤ c.toNat ∧ c.toNat < 127 := by
  simp [isVisible]

end Text

namespace Http.HeaderValue

variable {c : Char} {chars : List Char} {text : String} {value : HeaderValue}

/-- What is visible as a character is visible as an octet. -/
theorem isVisibleOctet_iff {octet : UInt8} :
    isVisibleOctet octet ↔ octet.toNat = 9 ∨ 32 ≤ octet.toNat ∧ octet.toNat < 127 := by
  simp [isVisibleOctet, ← UInt8.toNat_inj, UInt8.le_iff_toNat_le, UInt8.lt_iff_toNat_lt]

theorem isValueOctet_of_isVisibleOctet {octet : UInt8} (visible : isVisibleOctet octet) :
    isValueOctet octet := by
  have range := isVisibleOctet_iff.mp visible
  simp only [isValueOctet, ← UInt8.toNat_inj, UInt8.le_iff_toNat_le, Bool.or_eq_true, Bool.and_eq_true,
    beq_iff_eq, bne_iff_ne, decide_eq_true_eq, ne_eq]
  change octet.toNat = 9 ∨ 32 ≤ octet.toNat ∧ ¬octet.toNat = 127
  omega

theorem toNat_ofNat_of_visible (visible : Text.isVisible c) : (UInt8.ofNat c.toNat).toNat = c.toNat := by
  have range := Text.isVisible_iff.mp visible
  rw [UInt8.toNat_ofNat']
  omega

theorem encode_of_visible (visible : ∀ c ∈ chars, Text.isVisible c) :
    Text.encode chars = chars.map fun c => UInt8.ofNat c.toNat := by
  induction chars with
  | nil => rfl
  | cons c rest inductionHypothesis =>
    rw [List.forall_mem_cons] at visible
    have small : c.val.toNat ≤ 127 := by
      have range : c.val.toNat = 9 ∨ 32 ≤ c.val.toNat ∧ c.val.toNat < 127 := Text.isVisible_iff.mp visible.1
      omega
    have one : String.utf8EncodeChar c = [UInt8.ofNat c.toNat] := by
      simp only [String.utf8EncodeChar, small, ↓reduceIte]
      rfl
    rw [List.map_cons, ← inductionHypothesis visible.2, Text.encode, List.flatMap_cons, one]
    rfl

/-- A text of visible characters is a legal header value that reads back as the text. -/
theorem exists_of_visible (visible : ∀ c ∈ text.toList, Text.isVisible c) :
    ∃ value, ofString? text = some value ∧ value.toString? = some text := by
  have octets : Bytes.ofString text = text.toList.map fun c => UInt8.ofNat c.toNat :=
    encode_of_visible visible
  have reads : (Bytes.ofString text).all isVisibleOctet := by
    rw [octets, List.all_map, List.all_eq_true]
    intro c member
    rw [Function.comp_apply, isVisibleOctet_iff, toNat_ofNat_of_visible (visible c member)]
    exact Text.isVisible_iff.mp (visible c member)
  have legal : (Bytes.ofString text).all isValueOctet :=
    List.all_eq_true.mpr fun octet member =>
      isValueOctet_of_isVisibleOctet (List.all_eq_true.mp reads octet member)
  refine ⟨⟨Bytes.ofString text, legal⟩, ?_, ?_⟩
  · rw [ofString?, ofBytes?, dif_pos legal]
  · have back : (Bytes.ofString text).map (fun octet => Char.ofNat octet.toNat) = text.toList := by
      rw [octets, List.map_map]
      refine (List.map_congr_left fun c member => ?_).trans (List.map_id _)
      rw [Function.comp_apply, toNat_ofNat_of_visible (visible c member), Char.ofNat_toNat, id]
    rw [toString?, if_pos reads, back, String.ofList_toList]

theorem visible_of_toString? (reads : value.toString? = some text) :
    ∀ c ∈ text.toList, Text.isVisible c := by
  have small : ∀ number < 128, (Char.ofNat number).toNat = number := by decide
  obtain ⟨visible, text_eq⟩ := Option.ite_none_right_eq_some.mp reads
  rw [← Option.some.inj text_eq, String.toList_ofList]
  intro c member
  obtain ⟨octet, inValue, rfl⟩ := List.mem_map.mp member
  have range := isVisibleOctet_iff.mp (List.all_eq_true.mp visible octet inValue)
  rw [Text.isVisible_iff, small _ (by omega)]
  exact range

end Http.HeaderValue

/-- What counts as a trace id: visible characters without blanks at their ends, at least one of them. -/
structure IsTraceId (traceId : String) : Prop where
  visible : ∀ c ∈ traceId.toList, Text.isVisible c
  stripped : Text.strip traceId = traceId
  nonempty : traceId ≠ ""

variable {traceHeader : HeaderName} {request : Request} {traceId : String} {value : HeaderValue}

/-- What a request brings along is a trace id. -/
theorem isTraceId_of_traceId? (found : request.traceId? traceHeader = some traceId) : IsTraceId traceId := by
  unfold Request.traceId? at found
  cases header : request.headerText? traceHeader with
  | none =>
    rw [header] at found
    cases found
  | some text =>
    rw [header, Option.map_some] at found
    obtain ⟨nonempty, stripped⟩ := Option.ite_none_left_eq_some.mp found
    obtain rfl := Option.some.inj stripped
    obtain ⟨value, _, reads⟩ := Option.bind_eq_some_iff.mp header
    refine ⟨fun c member => ?_, Text.strip_strip, by simpa using nonempty⟩
    rw [Text.strip, String.toList_ofList] at member
    exact HeaderValue.visible_of_toString? reads c (Text.mem_of_mem_stripWhere member)

/-- The characters of identifiers: hexadecimal digits and hyphens. -/
theorem mem_hexPadded {width number : Nat} {c : Char} (member : c ∈ Text.hexPadded width number) :
    Text.isVisible c ∧ Text.isBlank c = false := by
  have digits : ∀ digit < 16, Text.isVisible (Nat.digitChar digit) ∧
      Text.isBlank (Nat.digitChar digit) = false := by decide
  induction width generalizing number with
  | zero => cases member
  | succ width inductionHypothesis =>
    rw [Text.hexPadded, List.mem_append, List.mem_singleton] at member
    rcases member with front | rfl
    · exact inductionHypothesis front
    · exact digits _ (Nat.mod_lt _ (by decide))

theorem isTraceId_timedId (instant : Log.Timestamp) (random : Nat) :
    IsTraceId (Text.timedId instant random) := by
  have chars : ∀ c ∈ (Text.timedId instant random).toList, Text.isVisible c ∧ Text.isBlank c = false := by
    have digits {width number : Nat} : ∀ c ∈ Text.hexPadded width number,
        Text.isVisible c ∧ Text.isBlank c = false := fun _ => mem_hexPadded
    have hyphen : ∀ c ∈ ['-'], Text.isVisible c ∧ Text.isBlank c = false := by
      rw [List.forall_mem_singleton]
      decide
    have version : ∀ c ∈ ['-', '7'], Text.isVisible c ∧ Text.isBlank c = false := by
      rw [List.forall_mem_cons, List.forall_mem_singleton]
      decide
    simp only [Text.timedId, String.toList_ofList, List.forall_mem_append]
    exact ⟨⟨⟨⟨⟨⟨⟨⟨digits, hyphen⟩, digits⟩, version⟩, digits⟩, hyphen⟩, digits⟩, hyphen⟩, digits⟩
  refine ⟨fun c member => (chars c member).1, ?_, ?_⟩
  · rw [Text.strip, Text.stripWhere_eq_self]
    · exact String.ofList_toList
    · exact fun c first => (chars c (List.mem_of_mem_head? first)).2
    · exact fun c last => (chars c (List.mem_of_getLast? last)).2
  · intro empty
    have length := congrArg (fun text => text.toList.length) empty
    simp [Text.timedId] at length

/-- A header value stands for a trace id: the id is written as the value, and the value reads as the id. -/
structure Http.HeaderValue.StandsFor (value : HeaderValue) (traceId : String) : Prop where
  isTraceId : IsTraceId traceId
  writes : HeaderValue.ofString? traceId = some value
  reads : value.toString? = some traceId

theorem IsTraceId.exists_standsFor (isTraceId : IsTraceId traceId) :
    ∃ value : HeaderValue, value.StandsFor traceId := by
  obtain ⟨value, writes, reads⟩ := HeaderValue.exists_of_visible isTraceId.visible
  exact ⟨value, isTraceId, writes, reads⟩

/-- From a request whose trace header has the value of a trace id, the same id is derived. -/
theorem Http.HeaderValue.StandsFor.traceId? (stands : value.StandsFor traceId)
    (carries : request.headers.values traceHeader = [value]) :
    request.traceId? traceHeader = some traceId := by
  have first : request.headers.get? traceHeader = some value := by rw [Headers.get?, carries, List.head?_cons]
  rw [Request.traceId?, Request.headerText?, first, Option.bind_some, stands.reads, Option.map_some,
    stands.isTraceId.stripped]
  exact if_neg (by simpa using stands.isTraceId.nonempty)

theorem Http.HeaderValue.StandsFor.values_tagRequest (stands : value.StandsFor traceId) :
    (tagRequest traceHeader traceId request).headers.values traceHeader = [value] := by
  rw [tagRequest, stands.writes]
  exact Headers.values_set ..

theorem Http.HeaderValue.StandsFor.values_tagResponse (stands : value.StandsFor traceId) {response : Response} :
    (tagResponse traceHeader traceId response).headers.values traceHeader = [value] := by
  rw [tagResponse, stands.writes]
  exact Headers.values_set ..

end ServiceHost

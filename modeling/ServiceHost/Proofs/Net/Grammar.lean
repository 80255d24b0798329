import ServiceHost.Net.Ip
import ServiceHost.Proofs.Text.Numeral
import ServiceHost.Proofs.Text.Splitting

/-!
The grammar of internet addresses. Which texts denote an address is said by their parts, without a word on how
they are read; that exactly these texts are read is proved from part to part. What makes an address in groups
unambiguous is that groups have no empty piece between them, so that their first double colon is the only one.
-/

namespace ServiceHost.Net

/-- A dotted address has four octets, each the numeral of a number below 256, which has no leading zeros. -/
def IsDotted (text : List Char) : Prop :=
  ∃ octets : List Nat, octets.length = 4 ∧ (∀ octet ∈ octets, octet < 256) ∧
    text = ['.'].intercalate (octets.map (Nat.toDigits 10))

/-- A digit of base sixteen, in either case. -/
def IsHexDigit (c : Char) : Prop :=
  c.isDigit ∨ ('a' ≤ c ∧ c ≤ 'f') ∨ ('A' ≤ c ∧ c ≤ 'F')

/-- A group has one to four hexadecimal digits. -/
structure IsGroup (text : List Char) : Prop where
  nonempty : text ≠ []
  short : text.length ≤ 4
  digits : ∀ c ∈ text, IsHexDigit c

/-- A number of groups with colons between them. A dotted address stands for the last two where it may. -/
inductive Groups (dotted : Bool) : Nat → List Char → Prop where
  | last {group : List Char} : IsGroup group → Groups dotted 1 group
  | dotted {address : List Char} : dotted = true → IsDotted address → Groups dotted 2 address
  | more {group rest : List Char} {count : Nat} :
      IsGroup group → Groups dotted count rest → Groups dotted (count + 1) (group ++ ':' :: rest)

/-- The groups on one side of a double colon, where there may be none. -/
inductive Side (dotted : Bool) : Nat → List Char → Prop where
  | empty : Side dotted 0 []
  | filled {count : Nat} {text : List Char} : Groups dotted count text → Side dotted count text

/-- The texts of IPv6 addresses: eight groups, or fewer with one double colon that stands for those left out. -/
inductive Ipv6.IsText : List Char → Prop where
  | full {text : List Char} : Groups true 8 text → IsText text
  | short {before after : List Char} {front back : Nat} :
      Side false front before → Side true back after → front + back ≤ 7 →
        IsText (before ++ ':' :: ':' :: after)

variable {bound value count : Nat} {text rest before after : List Char} {dotted : Bool}

/-! ### Dotted addresses -/

theorem number?_eq_some_iff (positive : 0 < bound) : number? bound text = some value ↔
    Text.IsNumeral text ∧ Text.numeralValue text = value ∧ value < bound := by
  cases text with
  | nil => exact iff_of_false (by simp [number?]) fun numeral => numeral.1.nonempty rfl
  | cons c rest =>
    have read : number? bound (c :: rest) = some value ↔ Text.readDigits bound 0 (c :: rest) = .ok value := by
      rw [number?, if_neg (by simp)]
      cases Text.readDigits bound 0 (c :: rest) <;> simp
    rw [read, Text.readDigits_eq_ok_iff positive]
    constructor
    · rintro ⟨digits, same⟩
      exact ⟨⟨List.cons_ne_nil c rest, digits⟩, same⟩
    · rintro ⟨numeral, same⟩
      exact ⟨numeral.digits, same⟩

/-- The octets that are read are the numerals of the numbers below 256. -/
theorem octet?_eq_some_iff : octet? text = some value ↔ value < 256 ∧ text = Nat.toDigits 10 value := by
  constructor
  · intro read
    unfold octet? at read
    split at read
    · exact absurd read (by simp)
    · rename_i noZero
      obtain ⟨numeral, rfl, small⟩ := (number?_eq_some_iff (by decide)).mp read
      refine ⟨small, ?_⟩
      cases text with
      | nil => exact absurd rfl numeral.nonempty
      | cons first rest =>
        by_cases zero : first = '0'
        · subst zero
          cases rest with
          | nil => rfl
          | cons second others => exact absurd rfl (noZero second others)
        · exact (Text.toDigits_numeralValue numeral fun leads => zero (Option.some.inj leads)).symm
  · have all : ∀ value < 256, octet? (Nat.toDigits 10 value) = some value := by decide +kernel
    rintro ⟨small, rfl⟩
    exact all value small

theorem mapM_octet?_eq_some_iff {pieces : List (List Char)} {octets : List Nat} :
    pieces.mapM octet? = some octets ↔
      (∀ octet ∈ octets, octet < 256) ∧ pieces = octets.map (Nat.toDigits 10) := by
  induction pieces generalizing octets with
  | nil => cases octets <;> simp
  | cons piece pieces inductionHypothesis =>
    cases octets with
    | nil => simp [List.mapM_cons, Option.bind_eq_some_iff]
    | cons octet octets =>
      have step : (piece :: pieces).mapM octet? = some (octet :: octets) ↔
          octet? piece = some octet ∧ pieces.mapM octet? = some octets := by
        simp only [List.mapM_cons, Option.bind_eq_bind, Option.bind_eq_some_iff, Option.pure_def, Option.some.injEq,
          List.cons.injEq]
        constructor
        · rintro ⟨_, read, _, others, rfl, rfl⟩
          exact ⟨read, others⟩
        · rintro ⟨read, others⟩
          exact ⟨octet, read, octets, others, rfl, rfl⟩
      rw [step, octet?_eq_some_iff, inductionHypothesis, List.forall_mem_cons, List.map_cons, List.cons.injEq]
      tauto

/-- A dotted address has a point and no colon, so that it is no group and stands between colons as a whole. -/
theorem IsDotted.separators (address : IsDotted text) : '.' ∈ text ∧ ':' ∉ text := by
  have noColon : ∀ octet, ':' ∉ Nat.toDigits 10 octet := fun octet =>
    (Text.isNumeral_toDigits octet).not_mem (by decide)
  obtain ⟨octets, four, -, rfl⟩ := address
  match octets, four with
  | [_, _, _, _], _ => simp [List.intercalate, noColon]

/-- The texts that are read as IPv4 addresses are exactly the dotted ones. -/
theorem Ipv4.isSome_ofChars?_iff : (Ipv4.ofChars? text).isSome ↔ IsDotted text := by
  constructor
  · intro read
    unfold Ipv4.ofChars? at read
    split at read
    · rename_i first second third fourth octets
      obtain ⟨small, cut⟩ := mapM_octet?_eq_some_iff.mp octets
      refine ⟨[first, second, third, fourth], rfl, small, ?_⟩
      rw [← cut, Text.pieces_eq_splitOn, List.intercalate_splitOn]
    · exact absurd read (by simp)
  · rintro ⟨octets, four, small, rfl⟩
    have noPoint : ∀ piece ∈ octets.map (Nat.toDigits 10), '.' ∉ piece :=
      List.forall_mem_map.mpr fun octet _ => (Text.isNumeral_toDigits octet).not_mem (by decide)
    have filled : octets.map (Nat.toDigits 10) ≠ [] := fun empty => by
      rw [List.map_eq_nil_iff.mp empty] at four
      cases four
    rw [Ipv4.ofChars?, Text.pieces_eq_splitOn, List.splitOn_intercalate '.' noPoint filled,
      mapM_octet?_eq_some_iff.mpr ⟨small, rfl⟩]
    match octets, four with
    | [_, _, _, _], _ => rfl

/-! ### Groups -/

theorem isSome_hexValue?_iff {c : Char} : (Text.hexValue? c).isSome ↔ IsHexDigit c := by
  unfold Text.hexValue? IsHexDigit
  split
  · simp_all
  · split
    · simp_all
    · split <;> simp_all

/-- Where all parts can be read, the whole can. -/
theorem isSome_mapM_iff {α β : Type} {f : α → Option β} {list : List α} :
    (list.mapM f).isSome ↔ ∀ x ∈ list, (f x).isSome := by
  induction list with
  | nil => simp
  | cons x rest inductionHypothesis =>
    rw [List.forall_mem_cons, ← inductionHypothesis, List.mapM_cons]
    cases f x with
    | none => simp
    | some y => cases rest.mapM f <;> simp

theorem isSome_group?_iff : (group? text).isSome ↔ IsGroup text := by
  rw [group?]
  split
  · rename_i outside
    refine iff_of_false (by simp) fun group => ?_
    simp only [Bool.or_eq_true, List.isEmpty_iff, decide_eq_true_eq] at outside
    exact outside.elim group.nonempty (Nat.not_lt.mpr group.short)
  · rename_i inside
    simp only [Bool.or_eq_true, List.isEmpty_iff, decide_eq_true_eq, not_or, Nat.not_lt] at inside
    rw [Option.isSome_map, isSome_mapM_iff]
    simp only [isSome_hexValue?_iff]
    exact ⟨fun digits => ⟨inside.1, inside.2, digits⟩, IsGroup.digits⟩

theorem IsGroup.not_mem {c : Char} (group : IsGroup text) (other : Text.hexValue? c = none) : c ∉ text := by
  intro member
  have digit := isSome_hexValue?_iff.mpr (group.digits c member)
  rw [other] at digit
  exact absurd digit (by simp)

theorem groups?_cons (dotted : Bool) (piece : List Char) {pieces : List (List Char)} (more : pieces ≠ []) :
    groups? dotted (piece :: pieces) =
      (group? piece).bind fun value => (groups? dotted pieces).map fun others => value :: others := by
  cases pieces with
  | nil => exact absurd rfl more
  | cons second others =>
    rw [groups?]
    · cases group? piece <;> cases groups? dotted (second :: others) <;> rfl
    · exact fun empty => absurd empty (List.cons_ne_nil second others)

/-- Pieces that are read as groups are groups between colons. -/
theorem groups_of_groups? {values : List Nat} {pieces : List (List Char)} (filled : pieces ≠ [])
    (read : groups? dotted pieces = some values) : Groups dotted values.length ([':'].intercalate pieces) := by
  induction pieces generalizing values with
  | nil => exact absurd rfl filled
  | cons piece pieces inductionHypothesis =>
    by_cases single : pieces = []
    · subst single
      rw [groups?] at read
      split at read
      · rename_i value group
        obtain rfl := Option.some.inj read
        simpa [List.intercalate] using
          Groups.last (isSome_group?_iff.mp (Option.isSome_of_eq_some group))
      · split at read
        · rename_i allowed
          obtain ⟨address, dotted, rfl⟩ := Option.map_eq_some_iff.mp read
          simpa [List.intercalate] using
            Groups.dotted allowed (Ipv4.isSome_ofChars?_iff.mp (Option.isSome_of_eq_some dotted))
        · exact absurd read (by simp)
    · rw [groups?_cons dotted piece single] at read
      obtain ⟨value, group, tail⟩ := Option.bind_eq_some_iff.mp read
      obtain ⟨others, groups, rfl⟩ := Option.map_eq_some_iff.mp tail
      rw [List.intercalate_cons_of_ne_nil single]
      simpa using
        Groups.more (isSome_group?_iff.mp (Option.isSome_of_eq_some group)) (inductionHypothesis single groups)

/-- Groups are read as that many numbers. -/
theorem Groups.read (groups : Groups dotted count text) :
    ∃ values, groups? dotted (Text.pieces ':' text) = some values ∧ values.length = count := by
  induction groups with
  | last group =>
    obtain ⟨value, read⟩ := Option.isSome_iff_exists.mp (isSome_group?_iff.mpr group)
    rw [Text.pieces_of_not_mem (group.not_mem (by decide)), groups?, read]
    exact ⟨[value], rfl, rfl⟩
  | dotted allowed address =>
    obtain ⟨value, read⟩ := Option.isSome_iff_exists.mp (Ipv4.isSome_ofChars?_iff.mpr address)
    obtain ⟨point, noColon⟩ := address.separators
    have noGroup : group? _ = none := Option.not_isSome_iff_eq_none.mp fun group =>
      (isSome_group?_iff.mp group).not_mem (by decide) point
    rw [Text.pieces_of_not_mem noColon, groups?, noGroup, if_pos allowed, read]
    exact ⟨_, rfl, rfl⟩
  | @more group rest count head groups inductionHypothesis =>
    obtain ⟨value, read⟩ := Option.isSome_iff_exists.mp (isSome_group?_iff.mpr head)
    obtain ⟨values, others, rfl⟩ := inductionHypothesis
    rw [Text.pieces_append, Text.pieces_of_not_mem (head.not_mem (by decide)), List.singleton_append,
      groups?_cons dotted group (Text.pieces_ne_nil ':' rest), read, others]
    exact ⟨value :: values, rfl, rfl⟩

theorem exists_cons_of_not_mem (filled : text ≠ []) (absent : ':' ∉ text) :
    ∃ c rest, text = c :: rest ∧ c ≠ ':' := by
  obtain ⟨c, rest, rfl⟩ := List.exists_cons_of_ne_nil filled
  exact ⟨c, rest, rfl, (List.ne_of_not_mem_cons absent).symm⟩

/-- Groups start with something else than a colon. -/
theorem Groups.head (groups : Groups dotted count text) : ∃ c rest, text = c :: rest ∧ c ≠ ':' := by
  cases groups with
  | last group => exact exists_cons_of_not_mem group.nonempty (group.not_mem (by decide))
  | dotted _ address =>
    obtain ⟨point, noColon⟩ := address.separators
    exact exists_cons_of_not_mem (List.ne_nil_of_mem point) noColon
  | more group groups =>
    obtain ⟨c, rest, rfl, other⟩ := exists_cons_of_not_mem group.nonempty (group.not_mem (by decide))
    exact ⟨c, _, rfl, other⟩

/-- What is read between colons is groups, as many as there are numbers. -/
theorem groups_iff : Groups dotted count text ↔
    ∃ values, groups? dotted (Text.pieces ':' text) = some values ∧ values.length = count := by
  refine ⟨Groups.read, ?_⟩
  rintro ⟨values, read, rfl⟩
  have groups := groups_of_groups? (Text.pieces_ne_nil ':' text) read
  rwa [Text.pieces_eq_splitOn, List.intercalate_splitOn] at groups

/-- What is read on one side of a double colon is what may stand there. -/
theorem side_iff :
    Side dotted count text ↔ ∃ values, side? dotted text = some values ∧ values.length = count := by
  constructor
  · intro side
    cases side with
    | empty => exact ⟨[], rfl, rfl⟩
    | filled groups =>
      obtain ⟨c, rest, rfl, -⟩ := groups.head
      exact groups.read
  · rintro ⟨values, read, rfl⟩
    cases text with
    | nil =>
      obtain rfl := Option.some.inj read
      exact .empty
    | cons c rest => exact .filled (groups_iff.mpr ⟨values, read, rfl⟩)

/-! ### The double colon -/

theorem splitDouble_cons {c : Char} (single : c = ':' → rest.head? ≠ some ':') :
    splitDouble (c :: rest) = (splitDouble rest).map fun (before, after) => (c :: before, after) := by
  rw [splitDouble]
  rintro others rfl rfl
  exact single rfl rfl

theorem splitDouble_eq_some (split : splitDouble text = some (before, after)) :
    text = before ++ ':' :: ':' :: after := by
  induction text generalizing before with
  | nil => exact absurd split (by simp [splitDouble])
  | cons c rest inductionHypothesis =>
    by_cases double : c = ':' ∧ rest.head? = some ':'
    · obtain ⟨rfl, second⟩ := double
      obtain ⟨others, rfl⟩ := List.head?_eq_some_iff.mp second
      obtain ⟨rfl, rfl⟩ := Prod.mk.inj (Option.some.inj split)
      rfl
    · rw [splitDouble_cons fun colon second => double ⟨colon, second⟩] at split
      obtain ⟨⟨front, back⟩, later, same⟩ := Option.map_eq_some_iff.mp split
      obtain ⟨rfl, rfl⟩ := Prod.mk.inj same
      rw [inductionHypothesis later, List.cons_append]

theorem splitDouble_append_of_not_mem (absent : ':' ∉ before) (rest : List Char) :
    splitDouble (before ++ rest) = (splitDouble rest).map fun (front, after) => (before ++ front, after) := by
  induction before with
  | nil => simp
  | cons c before inductionHypothesis =>
    have other := List.ne_of_not_mem_cons absent
    rw [List.cons_append, splitDouble_cons fun colon => absurd colon.symm other,
      inductionHypothesis (List.not_mem_of_not_mem_cons absent), Option.map_map]
    rfl

/-- Groups have no double colon within, so that the first one is looked for behind them. -/
theorem Groups.splitDouble_append (groups : Groups dotted count text) (rest : List Char) :
    splitDouble (text ++ rest) = (splitDouble rest).map fun (before, after) => (text ++ before, after) := by
  induction groups with
  | last group => exact splitDouble_append_of_not_mem (group.not_mem (by decide)) rest
  | dotted _ address => exact splitDouble_append_of_not_mem address.separators.2 rest
  | more group groups inductionHypothesis =>
    obtain ⟨c, others, rfl, other⟩ := groups.head
    have single : ((c :: others) ++ rest).head? ≠ some ':' := fun colon => other (Option.some.inj colon)
    rw [List.append_assoc, splitDouble_append_of_not_mem (group.not_mem (by decide)), List.cons_append,
      splitDouble_cons fun _ => single, inductionHypothesis, Option.map_map, Option.map_map]
    congr 1
    funext ⟨front, after⟩
    simp

theorem Side.splitDouble_append (side : Side dotted count before) (after : List Char) :
    splitDouble (before ++ ':' :: ':' :: after) = some (before, after) := by
  cases side with
  | empty => rfl
  | filled groups => simp only [groups.splitDouble_append, splitDouble, Option.map_some, List.append_nil]

theorem Ipv6.isSome_ofGroups?_iff {groups : List Nat} : (Ipv6.ofGroups? groups).isSome ↔ groups.length = 8 := by
  unfold Ipv6.ofGroups?
  split <;> simp_all

/-- The texts that are read as IPv6 addresses are exactly those of the grammar. -/
theorem Ipv6.isSome_ofChars?_iff : (Ipv6.ofChars? text).isSome ↔ Ipv6.IsText text := by
  constructor
  · intro read
    obtain ⟨address, read⟩ := Option.isSome_iff_exists.mp read
    unfold Ipv6.ofChars? at read
    split at read
    · obtain ⟨values, groups, eight⟩ := Option.bind_eq_some_iff.mp read
      exact .full (groups_iff.mpr ⟨values, groups, isSome_ofGroups?_iff.mp (Option.isSome_of_eq_some eight)⟩)
    · rename_i before after split
      obtain ⟨head, front, read⟩ := Option.bind_eq_some_iff.mp read
      obtain ⟨tail, back, read⟩ := Option.bind_eq_some_iff.mp read
      rw [splitDouble_eq_some split]
      refine .short (side_iff.mpr ⟨head, front, rfl⟩) (side_iff.mpr ⟨tail, back, rfl⟩) ?_
      by_contra many
      rw [if_neg many] at read
      exact absurd read (by simp)
  · intro written
    cases written with
    | full groups =>
      obtain ⟨values, read, eight⟩ := groups_iff.mp groups
      have single := groups.splitDouble_append []
      rw [List.append_nil, splitDouble, Option.map_none] at single
      rw [Ipv6.ofChars?, single]
      simp only [read, Option.bind_some]
      exact isSome_ofGroups?_iff.mpr eight
    | short front back most =>
      obtain ⟨head, readHead, rfl⟩ := side_iff.mp front
      obtain ⟨tail, readTail, rfl⟩ := side_iff.mp back
      rw [Ipv6.ofChars?, front.splitDouble_append]
      simp only [readHead, readTail, Option.bind_eq_bind, Option.bind_some, if_pos most]
      refine isSome_ofGroups?_iff.mpr ?_
      simp only [List.length_append, List.length_replicate]
      omega

end ServiceHost.Net

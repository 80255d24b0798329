import ServiceHost.Fleet
import ServiceHost.Proofs.Net.Grammar

/-!
The acceptance of bind addresses. How an address is written is said by a host and a numeral with a colon between
them; that exactly what is written so is read goes back to the last colon, behind which nothing but digits stand.
What is refused is refused before anything else happens: no routes are asked for and the fleet stays as it was.
-/

namespace ServiceHost.Address

/-- How a host is written: as it is, without colons and brackets, or as an IPv6 address within brackets. -/
inductive HostWritten : List Char → List Char → Prop where
  | plain {host : List Char} : ':' ∉ host → '[' ∉ host → ']' ∉ host → HostWritten host host
  | bracketed {host : List Char} : Net.Ipv6.IsText host → HostWritten ('[' :: host ++ [']']) host

/-- A text denotes an address: it has no blanks, and it is the host, a colon and the numeral of the port. -/
structure Written (text : List Char) (address : Address) : Prop where
  unblank : ∀ c ∈ text, ¬Text.isBlank c
  parts : ∃ hostText digits, text = hostText ++ ':' :: digits ∧ HostWritten hostText address.host ∧
    Text.IsNumeral digits ∧ Text.numeralValue digits = address.port
  port : 1 ≤ address.port ∧ address.port ≤ 65535

variable {separator : Char} {text before after digits host : List Char} {port : Nat} {address : Address}

theorem splitLast_of_not_mem (absent : separator ∉ text) : splitLast separator text = none := by
  induction text with
  | nil => rfl
  | cons c rest inductionHypothesis =>
    rw [splitLast, inductionHypothesis (List.not_mem_of_not_mem_cons absent),
      if_neg (List.ne_of_not_mem_cons absent).symm]

/-- A text is cut at a separator with none behind it. -/
theorem splitLast_append (absent : separator ∉ after) :
    splitLast separator (before ++ separator :: after) = some (before, after) := by
  induction before with
  | nil => rw [List.nil_append, splitLast, splitLast_of_not_mem absent, if_pos rfl]
  | cons c before inductionHypothesis => rw [List.cons_append, splitLast, inductionHypothesis]

/-- Ports are read from the numerals of the numbers from 1 to 65535. -/
theorem readPort_eq_ok_iff : readPort digits = .ok port ↔
    Text.IsNumeral digits ∧ Text.numeralValue digits = port ∧ 1 ≤ port ∧ port ≤ 65535 := by
  have numeral_iff : ¬(digits.isEmpty || !digits.all Char.isDigit) ↔ Text.IsNumeral digits := by
    simp only [Bool.or_eq_true, List.isEmpty_iff, Bool.not_eq_true', List.all_eq_false, not_or, not_exists, not_and,
      not_not]
    exact ⟨fun ⟨nonempty, digits⟩ => ⟨nonempty, digits⟩, fun numeral => ⟨numeral.nonempty, numeral.digits⟩⟩
  rw [readPort]
  by_cases numeral : Text.IsNumeral digits
  · rw [if_neg (numeral_iff.mpr numeral)]
    cases read : Text.readDigits 65536 0 digits with
    | ok value =>
      obtain ⟨-, same, small⟩ := (Text.readDigits_eq_ok_iff (by decide)).mp read
      cases value with
      | zero =>
        refine iff_of_false (by simp) ?_
        rintro ⟨-, rfl, positive, -⟩
        rw [Text.numeralValue, same] at positive
        exact absurd positive (by decide)
      | succ value =>
        constructor
        · intro read
          obtain rfl := Except.ok.inj read
          exact ⟨numeral, same, by omega, by omega⟩
        · rintro ⟨-, rfl, -⟩
          exact congrArg Except.ok same.symm
    | error fault =>
      have large : ¬Text.numeralValue digits < 65536 := fun small => by
        rw [(Text.readDigits_eq_ok_iff (by decide)).mpr ⟨numeral.digits, rfl, small⟩] at read
        exact absurd read (by simp)
      refine iff_of_false (by simp) ?_
      rintro ⟨-, rfl, -, small⟩
      omega
  · rw [if_pos (by_contra fun digitsOnly => numeral (numeral_iff.mp digitsOnly))]
    exact iff_of_false (by simp) fun valid => numeral valid.1

/-- Hosts are read from the texts that they are written as. -/
theorem readHost_eq_ok_iff : readHost text = .ok host ↔ HostWritten text host := by
  by_cases bracket : ∃ inside, text = '[' :: inside
  · obtain ⟨inside, rfl⟩ := bracket
    rw [readHost]
    constructor
    · intro read
      split at read
      · exact absurd read (by simp)
      · rename_i closed
        split at read
        · exact absurd read (by simp)
        · rename_i valid
          obtain rfl := Except.ok.inj read
          obtain ⟨host, rfl⟩ := List.getLast?_eq_some_iff.mp (not_not.mp closed)
          rw [List.dropLast_concat] at valid ⊢
          rw [Bool.not_eq_true, Option.isNone_eq_false_iff] at valid
          exact .bracketed (Net.Ipv6.isSome_ofChars?_iff.mp valid)
    · intro written
      generalize whole : '[' :: inside = text at written
      cases written with
      | plain _ noBracket _ => exact absurd (whole ▸ List.mem_cons_self) noBracket
      | bracketed address =>
        obtain rfl := (List.cons.inj whole).2
        have valid := Net.Ipv6.isSome_ofChars?_iff.mpr address
        simp [Option.isSome_iff_ne_none.mp valid]
  · have plain : readHost text =
        if text.any fun c => c == ':' || c == '[' || c == ']' then .error .unbracketedIpv6 else .ok text := by
      rw [readHost]
      exact fun inside same => bracket ⟨inside, same⟩
    have absent_iff : ¬(text.any fun c => c == ':' || c == '[' || c == ']') ↔
        ':' ∉ text ∧ '[' ∉ text ∧ ']' ∉ text := by
      simp only [List.any_eq_true, Bool.or_eq_true, beq_iff_eq]
      constructor
      · intro absent
        exact ⟨fun colon => absent ⟨_, colon, .inl (.inl rfl)⟩, fun opening => absent ⟨_, opening, .inl (.inr rfl)⟩,
          fun closing => absent ⟨_, closing, .inr rfl⟩⟩
      · rintro ⟨noColon, noOpening, noClosing⟩ ⟨c, member, (rfl | rfl) | rfl⟩
        · exact noColon member
        · exact noOpening member
        · exact noClosing member
    rw [plain]
    constructor
    · intro read
      split at read
      · exact absurd read (by simp)
      · rename_i absent
        obtain rfl := Except.ok.inj read
        obtain ⟨noColon, noOpening, noClosing⟩ := absent_iff.mp absent
        exact .plain noColon noOpening noClosing
    · intro written
      cases written with
      | plain noColon noOpening noClosing => rw [if_neg (absent_iff.mpr ⟨noColon, noOpening, noClosing⟩)]
      | bracketed address => exact absurd ⟨_, rfl⟩ bracket

/-- An address is read exactly from the texts that denote it. -/
theorem ofChars_eq_ok_iff : ofChars text = .ok address ↔ Written text address := by
  rw [ofChars]
  by_cases blank : text.any Text.isBlank
  · rw [if_pos blank]
    obtain ⟨c, member, blank⟩ := List.any_eq_true.mp blank
    exact iff_of_false (by simp) fun written => written.unblank c member blank
  · rw [if_neg blank]
    have unblank : ∀ c ∈ text, ¬Text.isBlank c := fun c member found =>
      blank (List.any_eq_true.mpr ⟨c, member, found⟩)
    constructor
    · intro read
      split at read
      · exact absurd read (by simp)
      · rename_i before after split
        obtain ⟨rfl, -⟩ := splitLast_eq_some split
        cases port : readPort after with
        | error fault => exact absurd (port ▸ read) (by simp [bind, Except.bind])
        | ok number =>
          cases host : readHost before with
          | error fault => exact absurd (host ▸ port ▸ read) (by simp [bind, Except.bind])
          | ok name =>
            rw [port, host] at read
            obtain rfl := Except.ok.inj read
            obtain ⟨numeral, value, range⟩ := readPort_eq_ok_iff.mp port
            exact ⟨unblank, ⟨before, after, rfl, readHost_eq_ok_iff.mp host, numeral, value⟩, range⟩
    · rintro ⟨-, ⟨hostText, digits, rfl, hostWritten, numeral, value⟩, range⟩
      rw [splitLast_append (numeral.not_mem (by decide))]
      simp only [readPort_eq_ok_iff.mpr ⟨numeral, value, range⟩, readHost_eq_ok_iff.mpr hostWritten]
      rfl

/-- Exactly the texts that denote an address are accepted. With any other text the configuration is invalid, and a
construction ends there, whatever the fleet and the machine: no routes were asked for, nothing was said and nothing
was bound. -/
theorem accepts_exactly (text : String) :
    (∀ address, Address.ofString text = .ok address ↔ Written text.toList address) ∧
      ((∀ address, ¬Written text.toList address) →
        ∃ fault, Address.ofString text = .error fault ∧
          ∀ builder : Builder, builder.address = text →
            builder.build = .error (.invalidAddress text fault.message) ∧
              ∀ (fleet : Fleet) (machine : Machine) (binder : Config → List Route),
                fleet.construct machine builder binder =
                  (fleet, ⟨.error (.config (.invalidAddress text fault.message)), false, []⟩)) := by
  refine ⟨fun address => ofChars_eq_ok_iff, fun unwritten => ?_⟩
  cases read : Address.ofString text with
  | ok address => exact absurd (ofChars_eq_ok_iff.mp read) (unwritten address)
  | error fault =>
    refine ⟨fault, rfl, fun builder same => ?_⟩
    have refused : builder.build = .error (.invalidAddress text fault.message) := by
      rw [Builder.build, same, read]
    refine ⟨refused, fun fleet machine binder => ?_⟩
    rw [Fleet.construct, refused]

example : ofString "[::ffff:192.0.2.1]:00080" = .ok ⟨"::ffff:192.0.2.1".toList, 80⟩ := by decide

example : ofString "[fe80::1%lo]:80" = .error .invalidIpv6 := by decide

end ServiceHost.Address

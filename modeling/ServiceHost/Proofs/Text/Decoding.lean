import Mathlib.Algebra.Group.Nat.Defs
import Mathlib.Data.List.Basic
import ServiceHost.Text.Utf8

/-!
Decoding: an ASCII character of a decoded text is one of the octets, since what several octets encode lies
beyond ASCII. A value of no character shows as NUL.
-/

namespace ServiceHost.Text

variable {reading : Option Pending} {pending : Pending} {octet : UInt8} {octets : Bytes} {c : Char}

/-- The least value that a character can have of which some octets were read. -/
def Pending.least (pending : Pending) : Nat :=
  (pending.value * 64 + (pending.low.toNat - 128)) * 64 ^ (pending.owed - 1)

/-- A character of which some octets were read lies beyond ASCII. -/
structure Pending.IsBeyond (pending : Pending) : Prop where
  owes : 0 < pending.owed
  least : 128 ≤ pending.least

theorem Pending.value_extend_mul (bound : pending.low ≤ octet) :
    pending.least ≤ (pending.extend octet).value * 64 ^ (pending.extend octet).owed := by
  have above : pending.low.toNat ≤ octet.toNat := UInt8.le_iff_toNat_le.mp bound
  apply Nat.mul_le_mul_right
  change _ ≤ pending.value * 64 + (octet.toNat - 128)
  omega

/-- The octet that ends a character leaves it beyond ASCII. -/
theorem Pending.IsBeyond.value_extend (beyond : pending.IsBeyond) (bound : pending.low ≤ octet)
    (ends : (pending.extend octet).owed = 0) : 128 ≤ (pending.extend octet).value := by
  have least := Nat.le_trans beyond.least (Pending.value_extend_mul bound)
  rwa [ends, Nat.pow_zero, Nat.mul_one] at least

/-- An octet that does not end a character leaves it beyond ASCII. -/
theorem Pending.IsBeyond.extend (beyond : pending.IsBeyond) (bound : pending.low ≤ octet)
    (goesOn : (pending.extend octet).owed ≠ 0) : (pending.extend octet).IsBeyond where
  owes := Nat.pos_of_ne_zero goesOn
  least := by
    obtain ⟨owed, more⟩ := Nat.exists_eq_succ_of_ne_zero goesOn
    have least := Nat.le_trans beyond.least (Pending.value_extend_mul bound)
    have low : (pending.extend octet).low.toNat - 128 = 0 := by simp [Pending.extend]
    rw [Pending.least, low, Nat.add_zero, Nat.mul_assoc, more, Nat.succ_sub_one, ← Nat.pow_succ']
    rwa [more] at least

/-- An octet stands for an ASCII character, starts none, or starts one beyond ASCII. -/
def Lead.Suits (octet : UInt8) (lead : Lead) : Prop :=
  lead = .whole (Char.ofNat octet.toNat) ∨ lead = .stray ∨ ∃ pending, lead = .more pending ∧ pending.IsBeyond

theorem suits_more {low high : UInt8} {owed value : Nat}
    (least : 128 ≤ (value * 64 + (low.toNat - 128)) * 64 ^ owed) :
    Lead.Suits octet (.more ⟨owed + 1, low, high, value⟩) :=
  .inr (.inr ⟨_, rfl, Nat.succ_pos owed, least⟩)

theorem suits_lead (octet : UInt8) : (lead octet).Suits octet := by
  have continuation : UInt8.toNat 0x80 = 128 := rfl
  unfold lead
  extract_lets value
  refine iteInduction (fun _ => .inl rfl) fun _ => ?_
  refine iteInduction (fun _ => .inr (.inl rfl)) fun _ => ?_
  refine iteInduction (fun _ => suits_more (by rw [continuation]; omega)) fun _ => ?_
  refine iteInduction (fun _ => suits_more (by decide)) fun _ => ?_
  refine iteInduction (fun _ => suits_more (by decide)) fun _ => ?_
  refine iteInduction (fun _ => suits_more (by rw [continuation]; omega)) fun _ => ?_
  refine iteInduction (fun _ => suits_more (by decide)) fun _ => ?_
  refine iteInduction (fun _ => suits_more (by rw [continuation]; omega)) fun _ => ?_
  exact iteInduction (fun _ => suits_more (by decide)) fun _ => .inr (.inl rfl)

theorem toNat_ofNat_or (value : Nat) : (Char.ofNat value).toNat = value ∨ Char.ofNat value = '\x00' := by
  by_cases valid : value.isValidChar
  · left
    rw [Char.ofNat, dif_pos valid]
    rfl
  · right
    rw [Char.ofNat, dif_neg valid]
    rfl

/-- An ASCII character is read from one octet only. -/
theorem mem_of_mem_readings (beyond : ∀ pending ∈ reading, pending.IsBeyond)
    (member : some c ∈ readings reading octets) (ascii : c.toNat < 128) (visible : c ≠ '\x00') :
    ∃ found ∈ octets, c = Char.ofNat found.toNat := by
  induction octets generalizing reading with
  | nil => cases reading <;> simp [readings] at member
  | cons octet octets inductionHypothesis =>
    have later {reading : Option Pending} (beyond : ∀ pending ∈ reading, pending.IsBeyond)
        (member : some c ∈ readings reading octets) :
        ∃ found ∈ octet :: octets, c = Char.ofNat found.toNat := by
      obtain ⟨found, inside, same⟩ := inductionHypothesis beyond member
      exact ⟨found, List.mem_cons_of_mem _ inside, same⟩
    have fresh : ∀ pending ∈ (none : Option Pending), pending.IsBeyond := by simp
    -- An octet at which a character may start.
    have starts (member : some c ∈ readings none (octet :: octets)) :
        ∃ found ∈ octet :: octets, c = Char.ofNat found.toNat := by
      rw [readings] at member
      rcases suits_lead octet with leads | leads | ⟨pending, leads, starts⟩ <;> rw [leads] at member
      · rcases List.mem_cons.mp member with here | behind
        · exact ⟨octet, List.mem_cons_self, Option.some.inj here⟩
        · exact later fresh behind
      · exact later fresh (by simpa using member)
      · exact later (by simpa using starts) member
    cases reading with
    | none => exact starts member
    | some pending =>
      have here := beyond pending rfl
      unfold readings at member
      split at member
      · rename_i within
        have bound : pending.low ≤ octet := by simpa using (Bool.and_eq_true_iff.mp within).1
        extract_lets longer at member
        split at member
        · rename_i ends
          rcases List.mem_cons.mp member with whole | behind
          · have value := here.value_extend bound ends
            rcases toNat_ofNat_or longer.value with same | none
            · rw [Option.some.inj whole, same] at ascii
              exact absurd value (Nat.not_le.mpr ascii)
            · exact absurd ((Option.some.inj whole).trans none) visible
          · exact later fresh behind
        · rename_i goesOn
          exact later (by simpa using here.extend bound goesOn) member
      · apply starts
        rw [readings]
        cases leads : lead octet <;> simp_all

/-- An ASCII character of a decoded text is one of the octets. -/
theorem mem_of_mem_decodeLenient (member : c ∈ decodeLenient octets) (ascii : c.toNat < 128)
    (visible : c ≠ '\x00') : ∃ found ∈ octets, c = Char.ofNat found.toNat := by
  obtain ⟨reading, read, shown⟩ := List.mem_map.mp member
  cases reading with
  | none =>
    subst shown
    exact absurd ascii (by decide)
  | some found =>
    obtain rfl : found = c := shown
    exact mem_of_mem_readings (by simp) read ascii visible

end ServiceHost.Text

import ServiceHost.Proofs.Fleet.Handles

/-!
Triggers: in every run the tokens at hand for everybody are cancelled by those who hold them, and nothing undoes
a cancellation.
-/

namespace ServiceHost.Fleet

open Lifecycle Shutdown

variable {machine : Machine} {fleet before after : Fleet} {taken : Step} {steps : List Step}
  {entries : List Log.Entry} {number token : Nat} {signal : Signal} {member : Member}

theorem Move.above_eq (moves : Move machine before taken after entries) (known : token < before.tokens.next) :
    after.tokens.above token = before.tokens.above token := by
  cases moves with
  | makeSignal => exact Tokens.above_make (Nat.ne_of_lt known)
  | enter => exact above_tokensFor
  | member => exact above_obey
  | trigger => exact Tokens.above_cancel
  | _ => rfl

/-- Nothing undoes a cancellation. -/
theorem Move.wasCancelled (moves : Move machine before taken after entries)
    (cancelled : before.tokens.wasCancelled token) : after.tokens.wasCancelled token := by
  cases moves with
  | makeSignal => exact Tokens.wasCancelled_make.trans cancelled
  | enter => exact wasCancelled_tokensFor.trans cancelled
  | member => exact wasCancelled_obey.mpr (.inl cancelled)
  | trigger => exact Tokens.wasCancelled_cancel.mpr (.inl cancelled)
  | _ => exact cancelled

theorem Move.isCancelled (moves : Move machine before taken after entries) (known : token < before.tokens.next)
    (cancelled : before.tokens.isCancelled token) : after.tokens.isCancelled token := by
  obtain ⟨upper, inLine, cancelled⟩ := Tokens.isCancelled_iff.mp cancelled
  refine Tokens.isCancelled_iff.mpr ⟨upper, ?_, moves.wasCancelled cancelled⟩
  rw [Tokens.line, moves.above_eq known]
  exact inLine

/-- What is at hand for everybody stays so. -/
theorem Move.isPublic (moves : Move machine before taken after entries) (isPublic : before.isPublic token) :
    after.isPublic token := by
  obtain ⟨known, unowned⟩ := isPublic_iff.mp isPublic
  refine isPublic_iff.mpr ⟨Nat.lt_of_lt_of_le known moves.next_le, ?_⟩
  rintro number signal ⟨isPrivate, member, here, rfl⟩
  rcases moves.member_cameFrom here with ⟨service, old⟩ | ⟨_, newcomer⟩
  · exact unowned number signal ⟨isPrivate, _, old, rfl⟩
  · exact newcomer.unknown isPrivate known

/-- What is at hand for everybody was so before, or it is new. -/
theorem Move.isPublic_or (moves : Move machine before taken after entries) (isPublic : after.isPublic token) :
    before.isPublic token ∨ before.tokens.next ≤ token := by
  by_cases known : token < before.tokens.next
  · refine .inl (isPublic_iff.mpr ⟨known, ?_⟩)
    rintro number signal ⟨isPrivate, member, here, rfl⟩
    obtain ⟨service, goesOn, _⟩ := moves.member_goesOn here
    exact (isPublic_iff.mp isPublic).2 number signal ⟨isPrivate, _, goesOn, rfl⟩
  · exact .inr (Nat.le_of_not_lt known)

/-- A token at hand for everybody is cancelled by a step that triggers it, and by no step of a member. -/
theorem Move.wasCancelled_iff (moves : Move machine before taken after entries) (isPublic : after.isPublic token) :
    after.tokens.wasCancelled token ↔ before.tokens.wasCancelled token ∨ taken = .trigger token := by
  cases moves with
  | makeSignal => simp [Tokens.wasCancelled_make]
  | enter => simp [enlist, wasCancelled_tokensFor]
  | @member number action member service effects here stepped =>
    rw [wasCancelled_obey]
    refine or_congr_right (iff_of_false ?_ (by simp))
    rintro ⟨_, signal, triggers, same⟩
    have isPrivate := ((Service.move_of_step stepped).acted_of_trigger triggers).1
    have goesOn : (before.members.set number { member with service })[number]? = some { member with service } :=
      (Roster.getElem?_set here).mpr (.inl ⟨rfl, rfl⟩)
    exact (isPublic_iff.mp isPublic).2 number signal ⟨isPrivate, _, goesOn, same⟩
  | @trigger other offered =>
    rw [Tokens.wasCancelled_cancel]
    refine or_congr_right ⟨fun same => by rw [same.1], fun same => ?_⟩
    obtain rfl := Step.trigger.inj same
    exact ⟨rfl, (isPublic_iff.mp offered).1⟩
  | _ => simp

/-- In every run a token at hand for everybody was cancelled if somebody who holds it triggered it, and only
then. -/
theorem wasCancelled_iff_of_run (ran : ({} : Fleet).run machine steps = some (fleet, entries)) :
    (.trigger token ∈ steps → fleet.isPublic token) ∧
      (fleet.isPublic token → (fleet.tokens.wasCancelled token ↔ .trigger token ∈ steps)) := by
  refine history_induction (motive := fun steps fleet =>
    (.trigger token ∈ steps → fleet.isPublic token) ∧
      (fleet.isPublic token → (fleet.tokens.wasCancelled token ↔ .trigger token ∈ steps))) ?_ ?_ ran
  · refine ⟨fun triggered => absurd triggered List.not_mem_nil, fun isPublic => ?_⟩
    exact absurd (isPublic_iff.mp isPublic).1 (Nat.not_lt_zero _)
  · intro steps taken before after said entries reached moves earlier
    constructor
    · intro triggered
      rcases List.mem_append.mp triggered with already | now
      · exact moves.isPublic (earlier.1 already)
      · obtain rfl := List.mem_singleton.mp now
        have offered : before.isPublic token := by
          cases moves with
          | trigger offered => exact offered
        exact moves.isPublic offered
    · intro isPublic
      rw [moves.wasCancelled_iff isPublic, List.mem_append, List.mem_singleton]
      refine or_congr ?_ eq_comm
      rcases moves.isPublic_or isPublic with already | new
      · exact earlier.2 already
      · refine iff_of_false (fun cancelled => ?_) (fun triggered => ?_)
        · exact absurd (Tokens.lt_next_of_wasCancelled cancelled) (Nat.not_lt.mpr new)
        · exact absurd (isPublic_iff.mp (earlier.1 triggered)).1 (Nat.not_lt.mpr new)

/-- A signal at hand for everybody is triggered if somebody triggered it or one above it, and only then. -/
theorem isCancelled_iff_of_run (ran : ({} : Fleet).run machine steps = some (fleet, entries))
    (isPublic : fleet.isPublic token) :
    fleet.tokens.isCancelled token ↔ ∃ upper ∈ fleet.tokens.line token, .trigger upper ∈ steps := by
  rw [Tokens.isCancelled_iff]
  refine exists_congr fun upper => and_congr_right fun inLine => ?_
  have separate := (separate_of_run ran).1
  exact (wasCancelled_iff_of_run ran).2 (separate.isPublic_of_mem_line isPublic inLine)

end ServiceHost.Fleet

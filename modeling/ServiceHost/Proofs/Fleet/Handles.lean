import ServiceHost.Proofs.Fleet.Move
import ServiceHost.Proofs.Lifecycle.Signals
import ServiceHost.Proofs.Shutdown.Tokens

/-!
Handles of members: each member has two tokens to itself, which nobody else ever gets hold of and which stand
neither above nor below another one. It alone triggers them.
-/

namespace ServiceHost.Fleet

open Lifecycle Shutdown

/-- A member has a token to itself. -/
def Owns (fleet : Fleet) (number : Nat) (signal : Signal) (token : Nat) : Prop :=
  signal.isPrivate ∧ ∃ member, fleet.members[number]? = some member ∧ member.handles.token signal = token

/-- The tokens and the wait groups of members were made, and a token that a member has to itself is in no other
hands. -/
structure Separate (fleet : Fleet) : Prop where
  grounded : fleet.tokens.Grounded
  known : ∀ (number : Nat) (member : Member), fleet.members[number]? = some member →
    (∀ signal, member.handles.token signal < fleet.tokens.next) ∧ member.handles.group < fleet.groups.length
  /-- It stands alone. -/
  alone : ∀ number signal token, fleet.Owns number signal token →
    fleet.tokens.above token = [] ∧ ∀ other, token ∉ fleet.tokens.above other
  sole : ∀ number signal token, fleet.Owns number signal token →
    ∀ (other : Nat) (member : Member) (another : Signal), fleet.members[other]? = some member →
      member.handles.token another = token → other = number ∧ another = signal

/-- A token that a member has to itself was cancelled if the member has triggered it, and only then. -/
def Faithful (fleet : Fleet) : Prop :=
  ∀ (number : Nat) (member : Member), fleet.members[number]? = some member → ∀ signal : Signal, signal.isPrivate →
    (fleet.tokens.wasCancelled (member.handles.token signal) ↔ member.service.hasTriggered signal)

/-- A member that a step brings into a fleet. -/
structure Newcomer (before after : Fleet) (member : Member) : Prop where
  handles : member.handles = before.handlesFor member.config.options
  offered : before.offers member.config.options
  fresh : member.service = Service.opened member.config.options.timeouts.shutdown
  known : (∀ signal, member.handles.token signal < after.tokens.next) ∧ member.handles.group < after.groups.length
  above : ∀ token, after.tokens.above token = before.tokens.above token
  cancelled : ∀ token, after.tokens.wasCancelled token = before.tokens.wasCancelled token

variable {machine : Machine} {fleet before after : Fleet} {taken : Step} {steps : List Step}
  {entries : List Log.Entry} {number token : Nat} {signal : Signal} {member : Member}

section Obey

variable {tokens : Tokens} {handles : Handles} {effects : List Service.Effect}

theorem next_obey : (obey tokens handles effects).next = tokens.next := by
  induction effects generalizing tokens with
  | nil => rfl
  | cons effect rest inductionHypothesis =>
    cases effect with
    | trigger signal => exact inductionHypothesis.trans Tokens.next_cancel
    | join | leave | say => exact inductionHypothesis

theorem above_obey : (obey tokens handles effects).above token = tokens.above token := by
  induction effects generalizing tokens with
  | nil => rfl
  | cons effect rest inductionHypothesis =>
    cases effect with
    | trigger signal => exact inductionHypothesis.trans Tokens.above_cancel
    | join | leave | say => exact inductionHypothesis

theorem wasCancelled_obey :
    (obey tokens handles effects).wasCancelled token ↔ tokens.wasCancelled token ∨
      token < tokens.next ∧ ∃ signal, .trigger signal ∈ effects ∧ handles.token signal = token := by
  induction effects generalizing tokens with
  | nil => simp [obey]
  | cons effect rest inductionHypothesis =>
    cases effect with
    | trigger first =>
      have reached : (obey tokens handles (.trigger first :: rest)).wasCancelled token ↔
          (obey (tokens.cancel (handles.token first)) handles rest).wasCancelled token := Iff.rfl
      rw [reached, inductionHypothesis, Tokens.wasCancelled_cancel, Tokens.next_cancel]
      constructor
      · rintro ((already | ⟨rfl, known⟩) | ⟨known, signal, triggers, same⟩)
        · exact .inl already
        · exact .inr ⟨known, first, by simp, rfl⟩
        · exact .inr ⟨known, signal, by simp [triggers], same⟩
      · rintro (already | ⟨known, signal, triggers, rfl⟩)
        · exact .inl (.inl already)
        · rcases List.mem_cons.mp triggers with same | triggers
          · obtain rfl := Service.Effect.trigger.inj same
            exact .inl (.inr ⟨rfl, known⟩)
          · exact .inr ⟨known, signal, triggers, rfl⟩
    | join | leave | say =>
      have reached := @inductionHypothesis tokens
      simpa [obey] using reached

theorem isCancelled_obey :
    (obey tokens handles effects).isCancelled token ↔ tokens.isCancelled token ∨
      ∃ signal, .trigger signal ∈ effects ∧ handles.token signal < tokens.next ∧
        handles.token signal ∈ tokens.line token := by
  have line : (obey tokens handles effects).line token = tokens.line token := by
    rw [Tokens.line, above_obey, Tokens.line]
  simp only [Tokens.isCancelled_iff, line, wasCancelled_obey]
  constructor
  · rintro ⟨upper, inLine, already | ⟨known, signal, triggers, rfl⟩⟩
    · exact .inl ⟨upper, inLine, already⟩
    · exact .inr ⟨signal, triggers, known, inLine⟩
  · rintro (⟨upper, inLine, already⟩ | ⟨signal, triggers, known, inLine⟩)
    · exact ⟨upper, inLine, .inl already⟩
    · exact ⟨_, inLine, .inr ⟨known, signal, triggers, rfl⟩⟩

end Obey

section Public

theorem isPublic_iff :
    fleet.isPublic token ↔ token < fleet.tokens.next ∧ ∀ number signal, ¬fleet.Owns number signal token := by
  simp only [isPublic, Bool.and_eq_true, decide_eq_true_iff, Bool.not_eq_true', List.any_eq_false,
    Bool.or_eq_true, beq_iff_eq, not_or]
  refine and_congr_right fun _ => ⟨?_, ?_⟩
  · rintro unowned number signal ⟨isPrivate, member, here, rfl⟩
    obtain ⟨other, another⟩ := unowned member (List.mem_of_getElem? here)
    cases signal with
    | shared => cases isPrivate
    | stop => exact other rfl
    | forceClose => exact another rfl
  · intro unowned member among
    obtain ⟨number, here⟩ := List.getElem?_of_mem among
    exact ⟨fun same => unowned number .stop ⟨rfl, member, here, same.symm⟩,
      fun same => unowned number .forceClose ⟨rfl, member, here, same.symm⟩⟩

/-- The shared token of a member is at hand for everybody. -/
theorem Separate.isPublic_shared (separate : fleet.Separate) (here : fleet.members[number]? = some member) :
    fleet.isPublic member.handles.shared := by
  refine isPublic_iff.mpr ⟨(separate.known number member here).1 .shared, fun other signal owns => ?_⟩
  obtain ⟨_, rfl⟩ := separate.sole other signal _ owns number member .shared here rfl
  exact absurd owns.1 Bool.false_ne_true

/-- What stands above a token at hand for everybody is at hand for everybody. -/
theorem Separate.isPublic_of_mem_line (separate : fleet.Separate) (isPublic : fleet.isPublic token) {upper : Nat}
    (inLine : upper ∈ fleet.tokens.line token) : fleet.isPublic upper := by
  rcases Tokens.mem_line.mp inLine with rfl | among
  · exact isPublic
  · refine isPublic_iff.mpr ⟨separate.grounded token upper among, fun number signal owns => ?_⟩
    exact (separate.alone number signal upper owns).2 token among

/-- A token of a member on its own has only itself in its line. -/
theorem Separate.line_eq (separate : fleet.Separate) (owns : fleet.Owns number signal token) :
    fleet.tokens.line token = [token] := by
  rw [Tokens.line, (separate.alone number signal token owns).1]

end Public

section Newcomer

variable {options : Builder}

theorem above_tokensFor : (fleet.tokensFor options).above token = fleet.tokens.above token := by
  unfold tokensFor
  split
  · rw [Tokens.above_make_none, Tokens.above_make_none]
  · rw [Tokens.above_make_none, Tokens.above_make_none, Tokens.above_make_none]

theorem wasCancelled_tokensFor :
    (fleet.tokensFor options).wasCancelled token = fleet.tokens.wasCancelled token := by
  unfold tokensFor
  split
  · rw [Tokens.wasCancelled_make, Tokens.wasCancelled_make]
  · rw [Tokens.wasCancelled_make, Tokens.wasCancelled_make, Tokens.wasCancelled_make]

theorem next_tokensFor :
    (fleet.tokensFor options).next = fleet.tokens.next + if options.shutdownSignal.isSome then 2 else 3 := by
  unfold tokensFor
  split
  · rw [Tokens.next_make, Tokens.next_make]
  · rw [Tokens.next_make, Tokens.next_make, Tokens.next_make]

theorem length_groupsFor :
    (fleet.groupsFor options).length = fleet.groups.length + if options.waitGroup.isSome then 0 else 1 := by
  unfold groupsFor
  split
  · rfl
  · exact List.length_append

theorem newcomer_enlist (offered : fleet.offers member.config.options)
    (handles : member.handles = fleet.handlesFor member.config.options)
    (fresh : member.service = Service.opened member.config.options.timeouts.shutdown) :
    Newcomer fleet (fleet.enlist member) member := by
  constructor
  case handles => exact handles
  case offered => exact offered
  case fresh => exact fresh
  case above => exact fun token => above_tokensFor
  case cancelled => exact fun token => wasCancelled_tokensFor
  case known =>
    obtain ⟨signalOffered, groupOffered⟩ := Bool.and_eq_true_iff.mp offered
    have tokens : (fleet.enlist member).tokens.next = _ := next_tokensFor
    have groups : (fleet.enlist member).groups.length = _ := length_groupsFor
    rw [tokens, groups, handles, handlesFor]
    refine ⟨fun signal => ?_, ?_⟩
    · cases signal with
      | stop | forceClose =>
        simp only [Handles.token]
        split <;> omega
      | shared =>
        simp only [Handles.token]
        cases named : member.config.options.shutdownSignal with
        | none => simp
        | some handle =>
          rw [named] at signalOffered
          have known := (isPublic_iff.mp signalOffered).1
          simp only [Option.map_some, Option.getD_some]
          omega
    · cases named : member.config.options.waitGroup with
      | none => simp
      | some handle =>
        rw [named] at groupOffered
        exact of_decide_eq_true groupOffered

/-- A token that a newcomer has to itself is new. -/
theorem Newcomer.next_le (newcomer : Newcomer before after member) (isPrivate : signal.isPrivate) :
    before.tokens.next ≤ member.handles.token signal := by
  rw [newcomer.handles]
  cases signal with
  | shared => cases isPrivate
  | stop => exact Nat.le_refl _
  | forceClose => exact Nat.le_succ _

/-- A token that a newcomer has to itself was not known before. -/
theorem Newcomer.unknown (newcomer : Newcomer before after member) (isPrivate : signal.isPrivate) :
    ¬member.handles.token signal < before.tokens.next :=
  Nat.not_lt.mpr (newcomer.next_le isPrivate)

/-- The shared token of a newcomer was at hand for everybody, or it is new as well. -/
theorem Newcomer.shared (newcomer : Newcomer before after member) :
    before.isPublic member.handles.shared ∨ member.handles.shared = before.tokens.next + 2 := by
  have signalOffered := (Bool.and_eq_true_iff.mp newcomer.offered).1
  rw [newcomer.handles, handlesFor]
  cases named : member.config.options.shutdownSignal with
  | none => exact .inr rfl
  | some handle =>
    rw [named] at signalOffered
    exact .inl signalOffered

/-- The tokens of a newcomer are distinct. -/
theorem Newcomer.token_inj (newcomer : Newcomer before after member) {another : Signal}
    (isPrivate : signal.isPrivate) (same : member.handles.token signal = member.handles.token another) :
    signal = another := by
  have shared : member.handles.shared ≠ member.handles.token signal := by
    rcases newcomer.shared with isPublic | new
    · exact fun same => newcomer.unknown isPrivate (same ▸ (isPublic_iff.mp isPublic).1)
    · rw [new, newcomer.handles]
      cases signal with
      | shared => cases isPrivate
      | stop | forceClose => simp [Handles.token, handlesFor]
  cases another with
  | shared => exact absurd same.symm shared
  | stop | forceClose =>
    rw [newcomer.handles] at same
    cases signal with
    | shared => cases isPrivate
    | stop | forceClose => simp_all [Handles.token, handlesFor]

end Newcomer

section Moves

theorem Move.member_cameFrom (moves : Move machine before taken after entries)
    (here : after.members[number]? = some member) :
    (∃ service, before.members[number]? = some { member with service }) ∨
      number = before.members.length ∧ Newcomer before after member := by
  cases moves with
  | enter offered handles fresh =>
    rcases Roster.getElem?_snoc.mp here with old | ⟨atEnd, rfl⟩
    · exact .inl ⟨member.service, old⟩
    · exact .inr ⟨atEnd, newcomer_enlist offered handles fresh⟩
  | @member other action found service effects there =>
    rcases (Roster.getElem?_set there).mp here with ⟨rfl, rfl⟩ | ⟨_, kept⟩
    · exact .inl ⟨found.service, there⟩
    · exact .inl ⟨member.service, kept⟩
  | _ => exact .inl ⟨member.service, here⟩

theorem Move.next_le (moves : Move machine before taken after entries) :
    before.tokens.next ≤ after.tokens.next := by
  cases moves with
  | makeSignal => exact Tokens.next_make ▸ Nat.le_succ _
  | enter => exact next_tokensFor ▸ Nat.le_add_right ..
  | member => exact Nat.le_of_eq next_obey.symm
  | trigger => exact Nat.le_of_eq Tokens.next_cancel.symm
  | _ => exact Nat.le_refl _

theorem Move.groups_le (moves : Move machine before taken after entries) :
    before.groups.length ≤ after.groups.length := by
  cases moves with
  | makeGroup => simp
  | enter => exact length_groupsFor ▸ Nat.le_add_right ..
  | member => simp
  | group => simp
  | _ => exact Nat.le_refl _

/-- Only a new token gets others above it: one at hand for everybody and those above that one. -/
theorem Move.mem_above (moves : Move machine before taken after entries) {upper : Nat}
    (among : upper ∈ after.tokens.above token) :
    upper ∈ before.tokens.above token ∨
      token = before.tokens.next ∧ ∃ parent, before.isPublic parent ∧ upper ∈ before.tokens.line parent := by
  cases moves with
  | makeSignal offered =>
    refine (Tokens.mem_above_make among).imp_right fun new => ?_
    obtain ⟨same, parent, given, inLine⟩ := new
    exact ⟨same, parent, offered parent given, inLine⟩
  | enter => exact .inl (above_tokensFor ▸ among)
  | member => exact .inl (above_obey ▸ among)
  | trigger => exact .inl (Tokens.above_cancel ▸ among)
  | _ => exact .inl among

/-- What a member has to itself it had to itself before, unless it is new. -/
theorem Move.owns_cameFrom (moves : Move machine before taken after entries)
    (owns : after.Owns number signal token) :
    before.Owns number signal token ∨ ∃ member, number = before.members.length ∧
      after.members[number]? = some member ∧ Newcomer before after member ∧
      member.handles.token signal = token := by
  obtain ⟨isPrivate, member, here, rfl⟩ := owns
  rcases moves.member_cameFrom here with ⟨service, old⟩ | ⟨atEnd, newcomer⟩
  · exact .inl ⟨isPrivate, _, old, rfl⟩
  · exact .inr ⟨member, atEnd, here, newcomer, rfl⟩

theorem Separate.lt_next_of_owns (separate : fleet.Separate) (owns : fleet.Owns number signal token) :
    token < fleet.tokens.next := by
  obtain ⟨_, member, here, rfl⟩ := owns
  exact (separate.known number member here).1 signal

/-- What a member has to itself stands alone after a step as well. -/
theorem Separate.alone_move (separate : before.Separate) (moves : Move machine before taken after entries)
    (owns : after.Owns number signal token) :
    after.tokens.above token = [] ∧ ∀ other, token ∉ after.tokens.above other := by
  rcases moves.owns_cameFrom owns with old | ⟨member, _, _, newcomer, rfl⟩
  · obtain ⟨none, nowhere⟩ := separate.alone number signal token old
    refine ⟨List.eq_nil_iff_forall_not_mem.mpr fun upper among => ?_, fun other among => ?_⟩
    · rcases moves.mem_above among with before | ⟨new, _⟩
      · rw [none] at before
        cases before
      · exact absurd (separate.lt_next_of_owns old) (new ▸ Nat.lt_irrefl _)
    · rcases moves.mem_above among with before | ⟨_, parent, isPublic, inLine⟩
      · exact nowhere other before
      · exact (isPublic_iff.mp (separate.isPublic_of_mem_line isPublic inLine)).2 number signal old
  · rw [newcomer.above, Tokens.above_eq_nil (newcomer.next_le owns.1)]
    refine ⟨rfl, fun other among => ?_⟩
    rw [newcomer.above] at among
    exact newcomer.unknown owns.1 (separate.grounded other _ among)

/-- No other signal of any member stands on what a member has to itself, after a step as well. -/
theorem Separate.sole_move (separate : before.Separate) (moves : Move machine before taken after entries)
    (owns : after.Owns number signal token) {other : Nat} {another : Signal}
    (there : after.members[other]? = some member) (same : member.handles.token another = token) :
    other = number ∧ another = signal := by
  rcases moves.member_cameFrom there with ⟨service, oldToo⟩ | ⟨atEnd, newcomer⟩
  · rcases moves.owns_cameFrom owns with old | ⟨owner, _, _, newcomer, rfl⟩
    · exact separate.sole number signal token old other _ another oldToo same
    · have known := (separate.known other _ oldToo).1 another
      exact absurd (same ▸ known) (newcomer.unknown owns.1)
  · rcases moves.owns_cameFrom owns with old | ⟨owner, atEndToo, here, _, rfl⟩
    · have known := separate.lt_next_of_owns old
      rw [← same] at old known
      cases isPrivate : another.isPrivate with
      | true => exact absurd known (newcomer.unknown isPrivate)
      | false =>
        obtain rfl := Signal.eq_shared isPrivate
        rcases newcomer.shared with isPublic | new
        · exact absurd old ((isPublic_iff.mp isPublic).2 number signal)
        · rw [Handles.token, new] at known
          omega
    · subst atEnd atEndToo
      obtain rfl := Option.some.inj (here.symm.trans there)
      exact ⟨rfl, (newcomer.token_inj owns.1 same.symm).symm⟩

/-- Handles stay in the hands that they are in. -/
theorem Separate.move (separate : before.Separate) (moves : Move machine before taken after entries) :
    after.Separate := by
  constructor
  case grounded =>
    intro token upper among
    rcases moves.mem_above among with old | ⟨_, parent, isPublic, inLine⟩
    · exact Nat.lt_of_lt_of_le (separate.grounded token upper old) moves.next_le
    · have upperPublic := separate.isPublic_of_mem_line isPublic inLine
      exact Nat.lt_of_lt_of_le (isPublic_iff.mp upperPublic).1 moves.next_le
  case known =>
    intro number member here
    rcases moves.member_cameFrom here with ⟨service, old⟩ | ⟨_, newcomer⟩
    · obtain ⟨tokens, group⟩ := separate.known number _ old
      exact ⟨fun signal => Nat.lt_of_lt_of_le (tokens signal) moves.next_le,
        Nat.lt_of_lt_of_le group moves.groups_le⟩
    · exact newcomer.known
  case alone => exact fun number signal token owns => separate.alone_move moves owns
  case sole =>
    exact fun number signal token owns other member another there same =>
      separate.sole_move moves owns there same

end Moves

section Faithful

/-- A signal that a member has to itself is triggered if the member has triggered it. -/
theorem Faithful.isCancelled_iff (faithful : fleet.Faithful) (separate : fleet.Separate)
    (here : fleet.members[number]? = some member) (isPrivate : signal.isPrivate) :
    fleet.tokens.isCancelled (member.handles.token signal) ↔ member.service.hasTriggered signal := by
  rw [Tokens.isCancelled, separate.line_eq ⟨isPrivate, member, here, rfl⟩, List.any_cons, List.any_nil,
    Bool.or_false]
  exact faithful number member here signal isPrivate

/-- A member finds its own signals as it left them. -/
theorem Faithful.found_eq (faithful : fleet.Faithful) (separate : fleet.Separate)
    (here : fleet.members[number]? = some member) : fleet.found member = member.service := by
  have stop : fleet.tokens.isCancelled member.handles.stop = member.service.stop :=
    Bool.eq_iff_iff.mpr (faithful.isCancelled_iff separate here (rfl : Signal.stop.isPrivate))
  have forceClose : fleet.tokens.isCancelled member.handles.forceClose = member.service.forceClose :=
    Bool.eq_iff_iff.mpr (faithful.isCancelled_iff separate here (rfl : Signal.forceClose.isPrivate))
  rw [found, stop, forceClose]

theorem Faithful.move (faithful : before.Faithful) (separate : before.Separate)
    (moves : Move machine before taken after entries) : after.Faithful := by
  cases moves with
  | makeSignal =>
    intro number member here signal isPrivate
    rw [Tokens.wasCancelled_make]
    exact faithful number member here signal isPrivate
  | enter offered handles fresh =>
    intro number member here signal isPrivate
    rw [(newcomer_enlist offered handles fresh).cancelled]
    rcases Roster.getElem?_snoc.mp here with old | ⟨_, rfl⟩
    · exact faithful number member old signal isPrivate
    · -- The tokens of a newcomer are new, and a fresh service has triggered nothing.
      have new := (newcomer_enlist offered handles fresh).unknown isPrivate
      have idle : member.service.hasTriggered signal = false := by
        rw [fresh]
        cases signal <;> rfl
      refine iff_of_false (fun cancelled => ?_) (by simp [idle])
      exact new (Tokens.lt_next_of_wasCancelled cancelled)
  | @member acting action actor service effects there stepped =>
    have acts := Service.move_of_step stepped
    rw [faithful.found_eq separate there] at acts
    have old := faithful acting actor there
    intro number member here signal isPrivate
    rw [wasCancelled_obey]
    rcases (Roster.getElem?_set there).mp here with ⟨rfl, rfl⟩ | ⟨apart, kept⟩
    · rw [old signal isPrivate, acts.hasTriggered_iff]
      have known := (separate.known _ actor there).1 signal
      constructor
      · rintro (already | ⟨_, another, triggers, same⟩)
        · exact .inl already
        · obtain ⟨_, rfl⟩ := separate.sole _ signal _ ⟨isPrivate, actor, there, rfl⟩ _ actor another there same
          exact .inr triggers
      · rintro (already | triggers)
        · exact .inl already
        · exact .inr ⟨known, signal, triggers, rfl⟩
    · rw [faithful number member kept signal isPrivate]
      refine or_iff_left ?_
      rintro ⟨_, another, _, same⟩
      obtain ⟨rfl, _⟩ := separate.sole number signal _ ⟨isPrivate, member, kept, rfl⟩ _ actor another there same
      exact apart rfl
  | @trigger other offered =>
    intro number member here signal isPrivate
    rw [Tokens.wasCancelled_cancel, faithful number member here signal isPrivate]
    refine or_iff_left ?_
    rintro ⟨rfl, _⟩
    exact (isPublic_iff.mp offered).2 number signal ⟨isPrivate, member, here, rfl⟩
  | _ => exact faithful

/-- Handles stay apart in every run, and no one but a member triggers what it has to itself. -/
theorem separate_of_run (ran : ({} : Fleet).run machine steps = some (fleet, entries)) :
    fleet.Separate ∧ fleet.Faithful := by
  refine history_induction (motive := fun _ fleet => fleet.Separate ∧ fleet.Faithful) ?_ ?_ ran
  · have nobody (number : Nat) (signal : Signal) (token : Nat) : ¬({} : Fleet).Owns number signal token := by
      rintro ⟨_, member, here, _⟩
      cases here
    constructor
    · constructor
      case grounded =>
        intro token upper among
        cases among
      case known =>
        intro number member here
        cases here
      case alone => exact fun number signal token owns => absurd owns (nobody number signal token)
      case sole => exact fun number signal token owns => absurd owns (nobody number signal token)
    · intro number member here
      cases here
  · intro steps taken before after said entries _ moves invariants
    exact ⟨invariants.1.move moves, invariants.2.move invariants.1 moves⟩

end Faithful

end ServiceHost.Fleet

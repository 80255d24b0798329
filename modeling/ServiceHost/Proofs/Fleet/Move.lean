import ServiceHost.Fleet
import ServiceHost.Proofs.Config.Settings
import ServiceHost.Proofs.Roster

/-!
Moves of a fleet: everything that one step can do to the fleet, with what allows it.
-/

namespace ServiceHost.Fleet

/-- A move of a fleet: the step, the fleet after it and what was said. -/
inductive Move (machine : Machine) (fleet : Fleet) : Step → Fleet → List Log.Entry → Prop where
  | makeSignal {parent : Option Nat} (offered : ∀ upper ∈ parent, fleet.isPublic upper) :
      Move machine fleet (.makeSignal parent) { fleet with tokens := fleet.tokens.make parent } []
  | makeGroup : Move machine fleet .makeGroup { fleet with groups := fleet.groups ++ [{}] } []
  /-- A construction that failed. -/
  | fail {builder : Builder} {binder : Config → List Route} {entries : List Log.Entry}
      (silent : WaitGroup.belowZero ∉ entries) : Move machine fleet (.construct builder binder) fleet entries
  | enter {binder : Config → List Route} {entries : List Log.Entry} {member : Member}
      (offered : fleet.offers member.config.options)
      (handles : member.handles = fleet.handlesFor member.config.options)
      (fresh : member.service = Service.opened member.config.options.timeouts.shutdown)
      (free : machine.bind fleet.inUse member.config.address.socketAddress = .ok ())
      (silent : WaitGroup.belowZero ∉ entries) :
      Move machine fleet (.construct member.config.options binder) (fleet.enlist member) entries
  | member {number : Nat} {action : Service.Action} {member : Member} {service : Service}
      {effects : List Service.Effect} (here : fleet.members[number]? = some member)
      (stepped : (fleet.found member).step (fleet.isSignalled member) action = some (service, effects)) :
      Move machine fleet (.member number action)
        { fleet with
          tokens := obey fleet.tokens member.handles effects
          groups := fleet.groups.modify member.handles.group fun group => absorb group effects
          members := fleet.members.set number { member with service } }
        (said (fleet.group member.handles.group) effects)
  | group {number : Nat} {taken : WaitGroup.Step} {group next : WaitGroup}
      (here : fleet.groups[number]? = some group) (stepped : group.step taken = some next) :
      Move machine fleet (.group number taken) { fleet with groups := fleet.groups.set number next }
        (if taken = .lower then said group [.leave] else [])
  | trigger {token : Nat} (offered : fleet.isPublic token) :
      Move machine fleet (.trigger token) { fleet with tokens := fleet.tokens.cancel token } []
  | bindOther {address : Net.SocketAddress} (free : machine.bind fleet.inUse address = .ok ()) :
      Move machine fleet (.bindOther address) { fleet with others := fleet.others ++ [address] } []
  | freeOther (address : Net.SocketAddress) :
      Move machine fleet (.freeOther address) { fleet with others := fleet.others.erase address } []

variable {machine : Machine} {fleet before after last : Fleet} {taken : Step} {steps later : List Step}
  {entries said others : List Log.Entry}

theorem move_of_construct {builder : Builder} (offered : before.offers builder) (binder : Config → List Route) :
    Move machine before (.construct builder binder) (before.construct machine builder binder).1
      (before.construct machine builder binder).2.entries := by
  unfold construct
  split
  · exact .fail List.not_mem_nil
  · rename_i config built
    obtain rfl := Builder.options_of_build built
    split
    · exact .fail (by simp [createdEntry, WaitGroup.belowZero])
    · rename_i opened
      have free : machine.bind before.inUse config.address.socketAddress = .ok () := by
        unfold openListener at opened
        split at opened
        · cases opened
        · cases bound : machine.bind before.inUse config.address.socketAddress with
          | ok _ => rfl
          | error reason =>
            rw [bound] at opened
            cases opened
      have silent : WaitGroup.belowZero ∉
          [createdEntry config, listeningEntry (before.memberFor config (binder config))] := by
        simp [createdEntry, listeningEntry, WaitGroup.belowZero]
      exact @Move.enter machine before binder _ (before.memberFor config (binder config)) offered rfl rfl free silent

/-- Every step is a move. -/
theorem move_of_step (stepped : before.step machine taken = some (after, entries)) :
    Move machine before taken after entries := by
  cases taken with
  | makeSignal parent =>
    simp only [step] at stepped
    split at stepped
    · rename_i offered
      cases stepped
      refine .makeSignal fun upper given => ?_
      rw [given] at offered
      exact offered
    · cases stepped
  | makeGroup => cases stepped; exact .makeGroup
  | construct builder binder =>
    simp only [step] at stepped
    split at stepped
    · rename_i offered
      cases stepped
      exact move_of_construct offered binder
    · cases stepped
  | member number action =>
    obtain ⟨member, here, continued⟩ := Option.bind_eq_some_iff.mp stepped
    obtain ⟨⟨service, effects⟩, moved, settled⟩ := Option.bind_eq_some_iff.mp continued
    cases settled
    exact .member here moved
  | group number taken =>
    obtain ⟨group, here, continued⟩ := Option.bind_eq_some_iff.mp stepped
    obtain ⟨next, moved, settled⟩ := Option.bind_eq_some_iff.mp continued
    cases settled
    exact .group here moved
  | trigger token =>
    simp only [step] at stepped
    split at stepped
    · rename_i offered
      cases stepped
      exact .trigger offered
    · cases stepped
  | bindOther address =>
    simp only [step] at stepped
    split at stepped
    · rename_i free
      cases stepped
      exact .bindOther free
    · cases stepped
  | freeOther address => cases stepped; exact .freeOther address

/-- A member stays in its fleet through a step. Its service takes the step or stays as it is. -/
theorem Move.member_goesOn (moves : Move machine before taken after entries) {number : Nat} {member : Member}
    (here : before.members[number]? = some member) :
    ∃ service, after.members[number]? = some { member with service } ∧ (service = member.service ∨
      ∃ action effects, taken = .member number action ∧
        (before.found member).step (before.isSignalled member) action = some (service, effects)) := by
  cases moves with
  | enter => exact ⟨member.service, Roster.getElem?_snoc.mpr (.inl here), .inl rfl⟩
  | @member other action found service effects there stepped =>
    by_cases own : number = other
    · subst own
      obtain rfl : found = member := Option.some.inj (there.symm.trans here)
      exact ⟨service, (Roster.getElem?_set there).mpr (.inl ⟨rfl, rfl⟩), .inr ⟨action, effects, rfl, stepped⟩⟩
    · exact ⟨member.service, (Roster.getElem?_set there).mpr (.inr ⟨own, here⟩), .inl rfl⟩
  | _ => exact ⟨member.service, here, .inl rfl⟩

/-- The first step of a run. -/
theorem run_cons {rest : List Step} :
    fleet.run machine (taken :: rest) = some (last, entries) ↔
      ∃ next said others, fleet.step machine taken = some (next, said) ∧
        next.run machine rest = some (last, others) ∧ entries = said ++ others := by
  constructor
  · intro ran
    obtain ⟨⟨next, said⟩, stepped, continued⟩ := Option.bind_eq_some_iff.mp ran
    obtain ⟨⟨_, others⟩, ranRest, result⟩ := Option.bind_eq_some_iff.mp continued
    cases result
    exact ⟨next, said, others, stepped, ranRest, rfl⟩
  · rintro ⟨next, said, others, stepped, ranRest, rfl⟩
    simp [run, stepped, ranRest]

/-- A run that goes on. -/
theorem run_append :
    fleet.run machine (steps ++ later) = some (last, entries) ↔
      ∃ before said others, fleet.run machine steps = some (before, said) ∧
        before.run machine later = some (last, others) ∧ entries = said ++ others := by
  induction steps generalizing fleet entries with
  | nil => simp [run]
  | cons first rest inductionHypothesis =>
    constructor
    · intro ran
      obtain ⟨next, said, _, stepped, continued, rfl⟩ := run_cons.mp ran
      obtain ⟨before, more, others, ranRest, ranLater, rfl⟩ := inductionHypothesis.mp continued
      have ranFirst := run_cons.mpr ⟨next, said, more, stepped, ranRest, rfl⟩
      exact ⟨before, said ++ more, others, ranFirst, ranLater, (List.append_assoc ..).symm⟩
    · rintro ⟨before, _, others, ranFirst, ranLater, rfl⟩
      obtain ⟨next, said, more, stepped, ranRest, rfl⟩ := run_cons.mp ranFirst
      have continued := inductionHypothesis.mpr ⟨before, more, others, ranRest, ranLater, rfl⟩
      exact run_cons.mpr ⟨next, said, _, stepped, continued, List.append_assoc ..⟩

theorem run_singleton : fleet.run machine [taken] = fleet.step machine taken := by
  cases stepped : fleet.step machine taken with
  | none => simp [run, stepped]
  | some reached => simp [run, stepped]

/-- The last step of a run. -/
theorem run_snoc :
    fleet.run machine (steps ++ [taken]) = some (last, entries) ↔
      ∃ before said others, fleet.run machine steps = some (before, said) ∧
        before.step machine taken = some (last, others) ∧ entries = said ++ others := by
  simp [run_append, run_singleton]

/-- What holds of a fresh fleet and is kept by every move holds at the end of every run. -/
theorem history_induction {motive : List Step → Fleet → Prop} (fresh : motive [] {})
    (moved : ∀ {steps : List Step} {taken : Step} {before after : Fleet} {said entries : List Log.Entry},
      ({} : Fleet).run machine steps = some (before, said) → Move machine before taken after entries →
        motive steps before → motive (steps ++ [taken]) after)
    (ran : ({} : Fleet).run machine steps = some (fleet, entries)) : motive steps fleet := by
  induction steps using List.reverseRecOn generalizing fleet entries with
  | nil =>
    cases ran
    exact fresh
  | append_singleton steps taken inductionHypothesis =>
    obtain ⟨before, said, others, reached, stepped, rfl⟩ := run_snoc.mp ran
    exact moved reached (move_of_step stepped) (inductionHypothesis reached)

end ServiceHost.Fleet

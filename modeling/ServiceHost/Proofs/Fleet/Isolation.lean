import ServiceHost.Proofs.Fleet.Accounting

/-!
Isolation: members share a signal and a wait group and nothing else. A member shuts down only where a caller
of it, its own cancellation or the shared signal asks it to. What a member does triggers the two signals that it
has to itself and no other one, leaves all other members as they are and moves the counter of its wait group by
its own one.
-/

namespace ServiceHost.Fleet

open Lifecycle Shutdown

variable {machine : Machine} {fleet before after last : Fleet} {taken : Step} {steps later : List Step}
  {entries said others : List Log.Entry} {number : Nat} {member : Member} {signal : Signal}

/-- Something asks a member to shut down: a caller of it, its own cancellation, or somebody who triggers its
shared signal or one above it. -/
inductive Summoned (fleet : Fleet) (number : Nat) (steps : List Step) : Prop where
  | called {limit : Duration} (called : .member number (.callShutdown limit) ∈ steps)
  | cancelled (cancelled : .member number .hearCancellation ∈ steps)
  | signalled {member : Member} {token : Nat} (here : fleet.members[number]? = some member)
      (inLine : token ∈ fleet.tokens.line member.handles.shared) (triggered : .trigger token ∈ steps)

/-- A member on which a shutdown was called was asked to shut down. -/
theorem summoned_of_shutdowns (ran : ({} : Fleet).run machine steps = some (fleet, entries))
    (here : fleet.members[number]? = some member) (asked : member.service.shutdowns ≠ []) :
    Summoned fleet number steps := by
  obtain ⟨course, effects, went⟩ := (follows_of_run ran).present number member here
  obtain ⟨⟨signalled, action⟩, among, asks⟩ := Service.asks_of_run went.ran asked
  have acted := went.mem_steps among
  unfold Service.Asks at asks
  split at asks
  · rename_i limit same
    cases same
    exact .called acted
  · rename_i same
    cases same
    exact .cancelled acted
  · rename_i same
    cases same
    rw [asks] at among
    have isPublic := (separate_of_run ran).1.isPublic_shared here
    obtain ⟨token, inLine, triggered⟩ := (isCancelled_iff_of_run ran isPublic).mp (went.told _ among)
    exact .signalled here inLine triggered
  · exact asks.elim

section Frame

/-- A step leaves every member that does not take it as it is. -/
theorem Move.keeps_member (moves : Move machine before taken after entries)
    (here : before.members[number]? = some member) (apart : ∀ action, taken ≠ .member number action) :
    after.members[number]? = some member := by
  obtain ⟨service, goesOn, rfl | ⟨action, _, acted, _⟩⟩ := moves.member_goesOn here
  · exact goesOn
  · exact absurd acted (apart action)

theorem member_of_run (continued : fleet.run machine later = some (last, others))
    (here : fleet.members[number]? = some member) (apart : ∀ action, .member number action ∉ later) :
    last.members[number]? = some member := by
  induction later generalizing fleet others with
  | nil =>
    cases continued
    exact here
  | cons taken rest inductionHypothesis =>
    obtain ⟨next, said, more, stepped, ranRest, rfl⟩ := run_cons.mp continued
    have kept := (move_of_step stepped).keeps_member here fun action same => apart action (by simp [same])
    exact inductionHypothesis ranRest kept fun action member => apart action (List.mem_cons_of_mem _ member)

/-- What each step of a service keeps holds of a member ever after. -/
theorem member_induction {motive : Service → Prop}
    (moved : ∀ {signalled : Bool} {action : Service.Action} {before after : Service}
      {effects : List Service.Effect},
      before.Sound → Service.Move signalled before action after effects → motive before → motive after)
    (ran : ({} : Fleet).run machine steps = some (fleet, entries))
    (continued : fleet.run machine later = some (last, others))
    (here : fleet.members[number]? = some member) (holds : motive member.service) :
    ∃ service, last.members[number]? = some { member with service } ∧ motive service := by
  induction later generalizing steps fleet entries others member with
  | nil =>
    cases continued
    exact ⟨member.service, here, holds⟩
  | cons taken rest inductionHypothesis =>
    obtain ⟨next, said, more, stepped, ranRest, rfl⟩ := run_cons.mp continued
    have extended := run_snoc.mpr ⟨fleet, entries, said, ran, stepped, rfl⟩
    obtain ⟨service, reached, goesOn⟩ := (move_of_step stepped).member_goesOn here
    have stays : motive service := by
      rcases goesOn with rfl | ⟨action, effects, _, acted⟩
      · exact holds
      · obtain ⟨separate, faithful⟩ := separate_of_run ran
        rw [faithful.found_eq separate here] at acted
        exact moved (sound_of_run ran here) (Service.move_of_step acted) holds
    obtain ⟨final, ended, holds⟩ := inductionHypothesis extended ranRest reached stays
    exact ⟨final, ended, holds⟩

theorem member_goesOn_of_run (ran : ({} : Fleet).run machine steps = some (fleet, entries))
    (continued : fleet.run machine later = some (last, others)) (here : fleet.members[number]? = some member) :
    ∃ service, last.members[number]? = some { member with service } ∧
      member.service.phase.rank ≤ service.phase.rank :=
  member_induction (motive := fun service => member.service.phase.rank ≤ service.phase.rank)
    (fun sound moves forward => Nat.le_trans forward (sound.rank_le_of_move moves)) ran continued here
    (Nat.le_refl _)

/-- What a service does to the counter of its wait group: it adds its own one, it takes its own one away, or
it does both. -/
inductive OwnOne (before after : Service) (count next : Nat) : Prop where
  | keeps (keeps : Service.Keeps before after) (same : next = count)
  | joins (unjoined : before.hasJoined = false) (joined : after.hasJoined = true)
      (stays : after.hasLeft = false) (raised : next = (count + 1) % UInt64.size)
  | leaves (joined : before.hasJoined = true) (aboard : before.hasLeft = false)
      (stays : after.hasJoined = true) (left : after.hasLeft = true) (lowered : next = count - 1)
  | passes (unjoined : before.hasJoined = false) (joined : after.hasJoined = true)
      (left : after.hasLeft = true) (passed : next = (count + 1) % UInt64.size - 1)

theorem OwnOne.refl (service : Service) (count : Nat) : OwnOne service service count count :=
  .keeps ⟨rfl, rfl⟩ rfl

theorem OwnOne.trans {first second third : Service} {count next final : Nat}
    (former : OwnOne first second count next) (latter : OwnOne second third next final) :
    OwnOne first third count final := by
  cases former with
  | keeps keeps same =>
    subst same
    cases latter with
    | keeps keepsOn same =>
      exact .keeps ⟨keepsOn.joined.trans keeps.joined, keepsOn.left.trans keeps.left⟩ same
    | joins unjoined joined stays raised => exact .joins (keeps.joined ▸ unjoined) joined stays raised
    | leaves joined aboard stays left lowered =>
      exact .leaves (keeps.joined ▸ joined) (keeps.left ▸ aboard) stays left lowered
    | passes unjoined joined left passed => exact .passes (keeps.joined ▸ unjoined) joined left passed
  | joins unjoined joined stays raised =>
    subst raised
    cases latter with
    | keeps keeps same =>
      exact .joins unjoined (keeps.joined.trans joined) (keeps.left.trans stays) same
    | joins again => rw [joined] at again; cases again
    | leaves _ _ joinedAfter left lowered => exact .passes unjoined joinedAfter left lowered
    | passes again => rw [joined] at again; cases again
  | leaves joined aboard stays left lowered =>
    subst lowered
    cases latter with
    | keeps keeps same =>
      exact .leaves joined aboard (keeps.joined.trans stays) (keeps.left.trans left) same
    | joins again => rw [stays] at again; cases again
    | leaves _ again => rw [left] at again; cases again
    | passes again => rw [stays] at again; cases again
  | passes unjoined joined left passed =>
    subst passed
    cases latter with
    | keeps keeps same => exact .passes unjoined (keeps.joined.trans joined) (keeps.left.trans left) same
    | joins again => rw [joined] at again; cases again
    | leaves _ again => rw [left] at again; cases again
    | passes again => rw [joined] at again; cases again

/-- What one member does changes itself, the two signals that it has to itself, and the counter of its wait group
by its own one. -/
structure Alone (before after : Fleet) (number : Nat) : Prop where
  /-- Every other signal stays as it is: the shared one, and those that other members have to themselves. -/
  signals : ∀ token, (∀ signal, ¬before.Owns number signal token) →
    after.tokens.isCancelled token = before.tokens.isCancelled token
  groups : ∀ group, (∀ member, before.members[number]? = some member → member.handles.group ≠ group) →
    after.group group = before.group group
  elsewhere : after.others = before.others
  others : ∀ other, other ≠ number → after.members[other]? = before.members[other]?
  own : ∀ member, before.members[number]? = some member →
    ∃ service, after.members[number]? = some { member with service } ∧
      OwnOne member.service service (before.group member.handles.group).count.toNat
        (after.group member.handles.group).count.toNat

theorem Alone.refl (fleet : Fleet) (number : Nat) : Alone fleet fleet number where
  signals := fun _ _ => rfl
  groups := fun _ _ => rfl
  elsewhere := rfl
  others := fun _ _ => rfl
  own := fun member here => ⟨member.service, here, .refl _ _⟩

theorem Alone.trans {first second third : Fleet} (former : Alone first second number)
    (latter : Alone second third number) (here : first.members[number]? = some member) :
    Alone first third number := by
  -- The member keeps its handles.
  obtain ⟨service, reached, moved⟩ := former.own member here
  have handles (found : Member) (there : second.members[number]? = some found) :
      found.handles = member.handles := by
    rw [Option.some.inj (there.symm.trans reached)]
  constructor
  case signals =>
    intro token apart
    refine (latter.signals token ?_).trans (former.signals token apart)
    rintro signal ⟨isPrivate, found, there, same⟩
    exact apart signal ⟨isPrivate, member, here, handles found there ▸ same⟩
  case groups =>
    intro group apart
    refine (latter.groups group fun found there => ?_).trans (former.groups group apart)
    rw [handles found there]
    exact apart member here
  case elsewhere => exact latter.elsewhere.trans former.elsewhere
  case others => exact fun other differs => (latter.others other differs).trans (former.others other differs)
  case own =>
    intro found there
    obtain rfl := Option.some.inj (here.symm.trans there)
    obtain ⟨final, ended, movedOn⟩ := latter.own _ reached
    exact ⟨final, ended, moved.trans movedOn⟩

/-- A step of a service changes a counter by its own one. -/
theorem ownOne_of_move {signalled : Bool} {action : Service.Action} {service next : Service}
    {effects : List Service.Effect} (sound : service.Sound)
    (moves : Service.Move signalled service action next effects) (group : WaitGroup) :
    OwnOne service next group.count.toNat (absorb group effects).count.toNat := by
  cases sound.ledger moves with
  | silent keeps | trigger keeps | say keeps other => exact .keeps keeps rfl
  | join unjoined joined stays => exact .joins unjoined joined stays toNat_count_absorb_join
  | leave acted closed joined stays aboard left =>
    exact .leaves joined aboard stays left toNat_count_absorb_leave

/-- A step of a member is its own affair. -/
theorem Move.alone {action : Service.Action} (moves : Move machine before (.member number action) after entries)
    (separate : before.Separate) (faithful : before.Faithful)
    (sound : ∀ member, before.members[number]? = some member → member.service.Sound) :
    Alone before after number := by
  cases moves with
  | @member _ _ member service effects here stepped =>
    rw [faithful.found_eq separate here] at stepped
    have acts := Service.move_of_step stepped
    constructor
    case signals =>
      intro token apart
      rw [Bool.eq_iff_iff, isCancelled_obey]
      refine or_iff_left ?_
      rintro ⟨signal, triggers, _, inLine⟩
      have owns : before.Owns number signal (member.handles.token signal) :=
        ⟨(acts.acted_of_trigger triggers).1, member, here, rfl⟩
      rcases Tokens.mem_line.mp inLine with same | among
      · exact apart signal (same ▸ owns)
      · exact (separate.alone number signal _ owns).2 token among
    case groups => exact fun group apart => group_of_modify_ne rfl (apart member here)
    case elsewhere => rfl
    case others => exact fun other differs => List.getElem?_set_ne differs.symm
    case own =>
      intro found there
      obtain rfl : member = found := Option.some.inj (here.symm.trans there)
      refine ⟨service, (Roster.getElem?_set here).mpr (.inl ⟨rfl, rfl⟩), ?_⟩
      have own (after : Fleet)
          (changed : after.groups = before.groups.modify member.handles.group fun group => absorb group effects) :
          OwnOne member.service service (before.group member.handles.group).count.toNat
            (after.group member.handles.group).count.toNat := by
        rw [group_of_modify changed (separate.known number member here).2]
        exact ownOne_of_move (sound member here) acts _
      exact own _ rfl

/-- What a member does for any number of steps is its own affair. -/
theorem alone_of_run (ran : ({} : Fleet).run machine steps = some (fleet, entries))
    (continued : fleet.run machine later = some (last, others))
    (own : ∀ taken ∈ later, ∃ action, taken = .member number action) : Alone fleet last number := by
  induction later generalizing steps fleet entries others with
  | nil =>
    cases continued
    exact .refl _ number
  | cons taken rest inductionHypothesis =>
    obtain ⟨next, said, more, stepped, ranRest, rfl⟩ := run_cons.mp continued
    obtain ⟨action, rfl⟩ := own taken List.mem_cons_self
    obtain ⟨separate, faithful⟩ := separate_of_run ran
    have moves := move_of_step stepped
    have first := moves.alone separate faithful fun member here => sound_of_run ran here
    have reached := run_snoc.mpr ⟨fleet, entries, said, ran, stepped, rfl⟩
    have rest := inductionHypothesis reached ranRest fun taken member => own taken (List.mem_cons_of_mem _ member)
    cases moves with
    | member here => exact first.trans rest here

end Frame

/-- The members of a fleet after some steps and then later ones: what they have to do with each other. -/
structure Isolated (steps later : List Step) (fleet last : Fleet) : Prop where
  /-- What a member has to itself is in no other hands. -/
  separate : last.Separate
  /-- A member that ran and does not any more was asked to shut down. -/
  leaves : ∀ (number : Nat) (member : Member), fleet.members[number]? = some member →
    ∃ service, last.members[number]? = some { member with service } ∧
      (member.service.phase = .running → service.phase ≠ .running → Summoned last number (steps ++ later))
  /-- The signals that stop a member and close its connections are triggered by its own shutdown, and only if
  it was asked to shut down. -/
  triggered : ∀ number signal token, last.Owns number signal token → last.tokens.isCancelled token →
    Summoned last number (steps ++ later) ∧ ∃ call, .member number (.shutdown call) ∈ steps ++ later
  /-- No member triggers the shared signal: those who hold it or one above it do. -/
  signalled : ∀ (number : Nat) (member : Member), last.members[number]? = some member →
    (last.isSignalled member ↔ ∃ token ∈ last.tokens.line member.handles.shared, .trigger token ∈ steps ++ later)
  /-- A member that takes no step is as it was, and so are its own signals, whatever the others do. -/
  undisturbed : ∀ (number : Nat) (member : Member), fleet.members[number]? = some member →
    (∀ action, .member number action ∉ later) → last.members[number]? = some member ∧
      ∀ signal : Signal, signal.isPrivate → last.tokens.isCancelled (member.handles.token signal) =
        fleet.tokens.isCancelled (member.handles.token signal)
  /-- What one member does, however much, is its own affair. -/
  alone : ∀ number, (∀ taken ∈ later, ∃ action, taken = .member number action) → Alone fleet last number

/-- Members that share a signal and a wait group are isolated, whatever order the steps of all members are
taken in. -/
theorem isolated (ran : ({} : Fleet).run machine steps = some (fleet, entries))
    (continued : fleet.run machine later = some (last, others)) : Isolated steps later fleet last := by
  have whole : ({} : Fleet).run machine (steps ++ later) = some (last, entries ++ others) :=
    run_append.mpr ⟨fleet, entries, others, ran, continued, rfl⟩
  obtain ⟨separate, faithful⟩ := separate_of_run whole
  constructor
  case separate => exact separate
  case leaves =>
    intro number member here
    obtain ⟨service, ended, forward⟩ := member_goesOn_of_run ran continued here
    refine ⟨service, ended, fun running changed => ?_⟩
    have late : service.phase = .shuttingDown ∨ service.phase = .closed := by
      rw [running] at forward
      cases phase : service.phase <;> simp_all [Phase.rank]
    exact summoned_of_shutdowns whole ended ((sound_of_run whole ended).shutdowns_ne_nil late)
  case triggered =>
    rintro number signal _ ⟨isPrivate, member, here, rfl⟩ cancelled
    have triggered := (faithful.isCancelled_iff separate here isPrivate).mp cancelled
    have asked := (sound_of_run whole here).shutdowns_ne_nil_of_hasTriggered triggered
    obtain ⟨course, effects, went⟩ := (follows_of_run whole).present number member here
    obtain ⟨signalled, call, among⟩ := Service.shutdown_of_hasTriggered went.ran triggered
    exact ⟨summoned_of_shutdowns whole here asked, call, went.mem_steps among⟩
  case signalled =>
    exact fun number member here => isCancelled_iff_of_run whole (separate.isPublic_shared here)
  case undisturbed =>
    intro number member here apart
    have stays := member_of_run continued here apart
    refine ⟨stays, fun signal isPrivate => ?_⟩
    obtain ⟨separateBefore, faithfulBefore⟩ := separate_of_run ran
    rw [Bool.eq_iff_iff, faithful.isCancelled_iff separate stays isPrivate,
      faithfulBefore.isCancelled_iff separateBefore here isPrivate]
  case alone => exact fun number own => alone_of_run ran continued own

/-- Two members run. -/
def bothRunning : List Step :=
  sharedPair ++
    stepsOf 0 [.callStart, .start 0, .start 0, .start 0, .start 0, .start 0, .start 0] ++
    stepsOf 1 [.callStart, .start 0, .start 0, .start 0, .start 0, .start 0, .start 0]

/-- The acceptor of the first member fails, and a caller shuts the member down. -/
def firstFails : List Step :=
  stepsOf 0 [.advance, .advance, .failAcceptor "too many open files", .advance, .advance,
    .callShutdown (.ofSeconds 5), .shutdown 0, .shutdown 0, .shutdown 0, .shutdown 0, .shutdown 0, .shutdown 0,
    .shutdown 0]

theorem isolated_first_fails :
    ∃ fleet entries last others, ({} : Fleet).run everyHost bothRunning = some (fleet, entries) ∧
      fleet.run everyHost firstFails = some (last, others) ∧ Isolated bothRunning firstFails fleet last ∧
      Alone fleet last 0 ∧ (fleet.group 0).count = 2 ∧ (last.group 0).count = 1 ∧
      (last.members.map fun member => (member.handles.shared, last.isSignalled member, member.service.phase)) =
        [(0, false, .closed), (0, false, .running)] ∧
      (last.members.map fun member =>
        (last.tokens.isCancelled member.handles.stop, last.tokens.isCancelled member.handles.forceClose)) =
        [(true, false), (false, false)] := by
  obtain ⟨⟨fleet, entries⟩, ran⟩ :=
    Option.isSome_iff_exists.mp (show (({} : Fleet).run everyHost bothRunning).isSome by decide +kernel)
  obtain ⟨⟨last, others⟩, continued⟩ : ∃ ended, fleet.run everyHost firstFails = some ended := by
    have goesOn : (({} : Fleet).run everyHost bothRunning).any fun ended =>
        (ended.1.run everyHost firstFails).isSome := by decide +kernel
    rw [ran, Option.any_some] at goesOn
    exact Option.isSome_iff_exists.mp goesOn
  have phases : (({} : Fleet).run everyHost bothRunning).bind (fun ended =>
      (ended.1.run everyHost firstFails).map fun final => ((ended.1.group 0).count, (final.1.group 0).count,
        final.1.members.map fun member =>
          (member.handles.shared, final.1.isSignalled member, member.service.phase))) =
      some (2, 1, [(0, false, .closed), (0, false, .running)]) := by decide +kernel
  have stopped : (({} : Fleet).run everyHost bothRunning).bind (fun ended =>
      (ended.1.run everyHost firstFails).map fun final => final.1.members.map fun member =>
        (final.1.tokens.isCancelled member.handles.stop,
          final.1.tokens.isCancelled member.handles.forceClose)) =
      some [(true, false), (false, false)] := by decide +kernel
  rw [ran, Option.bind_some, continued, Option.map_some, Option.some.injEq] at phases stopped
  obtain ⟨two, one, phases⟩ := by simpa only [Prod.mk.injEq] using phases
  have apart := isolated ran continued
  have own : ∀ taken ∈ firstFails, ∃ action, taken = .member 0 action := by
    intro taken present
    obtain ⟨action, _, rfl⟩ := List.mem_map.mp present
    exact ⟨action, rfl⟩
  exact ⟨fleet, entries, last, others, ran, continued, apart, apart.alone 0 own, two, one, phases, stopped⟩

end ServiceHost.Fleet

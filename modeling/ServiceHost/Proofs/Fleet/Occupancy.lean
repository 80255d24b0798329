import ServiceHost.Proofs.Fleet.Isolation
import ServiceHost.Proofs.Lifecycle.Retirement

/-!
Occupancy: which socket addresses the members of a fleet have bound. Only a construction that succeeds binds one,
a construction that fails leaves everything as it was, and a member that is shut down without ever being started
frees its address and does nothing else. What a TLS library accepts is its own affair, and a machine is taken to
refuse an address if it is in use, and only then.
-/

namespace ServiceHost

open Lifecycle Shutdown Net

/-- A machine binds an address if none clashes with it that is bound already, and only then. -/
structure Machine.Fair (machine : Machine) (clashes : SocketAddress → SocketAddress → Prop) : Prop where
  clashes_self : ∀ address, clashes address address
  clashes_symm : ∀ one other, clashes one other → clashes other one
  bind_eq_ok_iff : ∀ bound address, machine.bind bound address = .ok () ↔ ∀ other ∈ bound, ¬clashes address other

namespace Fleet

/-- The first stage of a construction that fails: the configuration, the TLS material, the address. -/
inductive Fails (machine : Machine) (clashes : SocketAddress → SocketAddress → Prop) (fleet : Fleet)
    (builder : Builder) : ServerError → Prop where
  | configuration {error : ConfigError} (invalid : builder.build = .error error) :
      Fails machine clashes fleet builder (.config error)
  | material {config : Config} {material : TlsMaterial} {reason : String} (valid : builder.build = .ok config)
      (given : config.options.tls = some material)
      (rejected : material.check machine.library = .error reason) :
      Fails machine clashes fleet builder (.tls reason)
  | address {config : Config} {reason : String} {other : SocketAddress} (valid : builder.build = .ok config)
      (accepted : ∀ material, config.options.tls = some material → material.check machine.library = .ok ())
      (inUse : other ∈ fleet.inUse) (clash : clashes config.address.socketAddress other)
      (refused : machine.bind fleet.inUse config.address.socketAddress = .error reason) :
      Fails machine clashes fleet builder (.listener config.options.address reason)

/-- No stage of a construction fails. -/
structure Accepts (machine : Machine) (clashes : SocketAddress → SocketAddress → Prop) (fleet : Fleet)
    (builder : Builder) (config : Config) : Prop where
  valid : builder.build = .ok config
  accepted : ∀ material, config.options.tls = some material → material.check machine.library = .ok ()
  free : ∀ other ∈ fleet.inUse, ¬clashes config.address.socketAddress other

/-- No two addresses in use clash. -/
def Exclusive (clashes : SocketAddress → SocketAddress → Prop) (fleet : Fleet) : Prop :=
  fleet.inUse.Pairwise fun one other => ¬clashes one other

variable {machine : Machine} {clashes : SocketAddress → SocketAddress → Prop} {fleet before after last : Fleet}
  {builder : Builder} {binder : Config → List Route} {config : Config} {taken : Step} {steps later : List Step}
  {entries said others : List Log.Entry} {number : Nat} {member : Member} {error : ServerError}

section Construction

theorem construct_of_fails (fails : Fails machine clashes fleet builder error) :
    (fleet.construct machine builder binder).1 = fleet ∧
      (fleet.construct machine builder binder).2.result = .error error := by
  cases fails with
  | configuration invalid => simp [construct, invalid]
  | material valid given rejected => simp [construct, valid, openListener, given, rejected]
  | @address config reason other valid accepted inUse clash refused =>
    cases given : config.options.tls with
    | none => simp [construct, valid, openListener, given, refused, Except.mapError]
    | some material =>
      simp [construct, valid, openListener, given, accepted material given, refused, Except.mapError]

theorem construct_of_accepts (fair : machine.Fair clashes) (accepts : Accepts machine clashes fleet builder config) :
    (fleet.construct machine builder binder).1 = fleet.enlist (fleet.memberFor config (binder config)) ∧
      (fleet.construct machine builder binder).2.result = .ok fleet.members.length := by
  obtain ⟨valid, accepted, free⟩ := accepts
  have bound := (fair.bind_eq_ok_iff _ _).mpr free
  cases given : config.options.tls with
  | none => simp [construct, valid, openListener, given, bound, Except.mapError]
  | some material =>
    simp [construct, valid, openListener, given, accepted material given, bound, Except.mapError]

/-- A construction fails at a stage or passes them all. -/
theorem fails_or_accepts (fair : machine.Fair clashes) (fleet : Fleet) (builder : Builder) :
    (∃ error, Fails machine clashes fleet builder error) ∨
      ∃ config, Accepts machine clashes fleet builder config := by
  cases built : builder.build with
  | error error => exact .inl ⟨_, .configuration built⟩
  | ok config =>
    by_cases accepted : ∀ material, config.options.tls = some material → material.check machine.library = .ok ()
    · by_cases free : ∀ other ∈ fleet.inUse, ¬clashes config.address.socketAddress other
      · exact .inr ⟨config, built, accepted, free⟩
      · have unbound := free
        rw [← fair.bind_eq_ok_iff] at unbound
        push Not at free
        obtain ⟨other, inUse, clash⟩ := free
        cases refused : machine.bind fleet.inUse config.address.socketAddress with
        | error reason => exact .inl ⟨_, .address built accepted inUse clash refused⟩
        | ok _ => exact absurd refused unbound
    · push Not at accepted
      obtain ⟨material, given, unusable⟩ := accepted
      cases checked : material.check machine.library with
      | error reason => exact .inl ⟨_, .material built given checked⟩
      | ok _ => exact absurd checked unusable

/-- A construction reports the first stage that fails. -/
theorem result_eq_error_iff (fair : machine.Fair clashes) :
    (fleet.construct machine builder binder).2.result = .error error ↔
      Fails machine clashes fleet builder error := by
  refine ⟨fun failed => ?_, fun fails => (construct_of_fails fails).2⟩
  rcases fails_or_accepts fair fleet builder with ⟨other, fails⟩ | ⟨config, accepts⟩
  · rw [(construct_of_fails fails).2] at failed
    exact Except.error.inj failed ▸ fails
  · rw [(construct_of_accepts fair accepts).2] at failed
    cases failed

theorem routed_iff :
    (fleet.construct machine builder binder).2.routed = true ↔ ∃ config, builder.build = .ok config := by
  unfold construct
  split
  · rename_i built
    simp [built]
  · rename_i built
    split <;> simp [built]

end Construction

section Bound

theorem bound_enlist (opened : member.service.isBound) :
    (fleet.enlist member).bound = fleet.bound ++ [member.config.address.socketAddress] := by
  simp [bound, enlist, opened]

/-- A member takes a step that binds no socket. -/
theorem bound_sublist_of_set (here : before.members[number]? = some member) {service : Service}
    (members : after.members = before.members.set number { member with service })
    (bound : service.isBound → member.service.isBound) : after.bound.Sublist before.bound := by
  rw [Fleet.bound, members]
  exact Roster.map_filter_set_sublist here fun isBound => ⟨bound isBound, rfl⟩

/-- A member lets go of its socket. -/
theorem bound_perm_of_set (here : before.members[number]? = some member) {service : Service}
    (members : after.members = before.members.set number { member with service })
    (bound : member.service.isBound) (unbound : service.isBound = false) :
    before.bound.Perm (member.config.address.socketAddress :: after.bound) := by
  have drops : (before.members.filter fun member => member.service.isBound).Perm (member ::
      (before.members.set number { member with service }).filter fun member => member.service.isBound) :=
    Roster.filter_perm_cons_set here bound unbound
  rw [Fleet.bound, Fleet.bound, members]
  exact drops.map fun member => member.config.address.socketAddress

/-- Where one address more is in use, none clash if none did before and it could be bound. -/
theorem exclusive_iff_of_perm (fair : machine.Fair clashes) {address : SocketAddress}
    (inUse : after.inUse.Perm (address :: before.inUse)) :
    after.Exclusive clashes ↔ machine.bind before.inUse address = .ok () ∧ before.Exclusive clashes := by
  have symm {one other : SocketAddress} (apart : ¬clashes one other) : ¬clashes other one :=
    fun clash => apart (fair.clashes_symm other one clash)
  rw [Exclusive, List.Perm.pairwise_iff symm inUse, List.pairwise_cons, ← fair.bind_eq_ok_iff, ← Exclusive]

/-- Each step keeps the addresses apart. -/
theorem Exclusive.move (fair : machine.Fair clashes) (exclusive : before.Exclusive clashes)
    (separate : before.Separate) (faithful : before.Faithful)
    (sound : ∀ (number : Nat) (member : Member), before.members[number]? = some member → member.service.Sound)
    (moves : Move machine before taken after entries) : after.Exclusive clashes := by
  cases moves with
  | @enter binder entries member offered handles fresh free =>
    refine (exclusive_iff_of_perm fair ?_).mpr ⟨free, exclusive⟩
    have opened : member.service.isBound := by
      rw [fresh]
      rfl
    have inUse : (before.enlist member).inUse =
        before.bound ++ member.config.address.socketAddress :: before.others := by
      rw [Fleet.inUse, bound_enlist opened, ← List.append_cons]
      rfl
    rw [inUse]
    exact List.perm_middle
  | @bindOther address free =>
    refine (exclusive_iff_of_perm fair ?_).mpr ⟨free, exclusive⟩
    exact (List.perm_append_singleton address before.others).append_left before.bound |>.trans List.perm_middle
  | freeOther address =>
    exact exclusive.sublist ((List.Sublist.refl before.bound).append (List.erase_sublist ..))
  | member here stepped =>
    rw [faithful.found_eq separate here] at stepped
    have bound := (sound _ _ here).isBound_of_move (Service.move_of_step stepped)
    exact exclusive.sublist ((bound_sublist_of_set here rfl bound).append (List.Sublist.refl before.others))
  | _ => exact exclusive

theorem exclusive_of_run (fair : machine.Fair clashes)
    (ran : ({} : Fleet).run machine steps = some (fleet, entries)) : fleet.Exclusive clashes := by
  refine history_induction (motive := fun _ fleet => fleet.Exclusive clashes) .nil ?_ ran
  intro steps taken before after said entries reached moves exclusive
  obtain ⟨separate, faithful⟩ := separate_of_run reached
  exact exclusive.move fair separate faithful (fun _ _ here => sound_of_run reached here) moves

end Bound

section Course

variable {tokens : Tokens} {handles : Handles} {effects more : List Service.Effect}

theorem absorb_append (group : WaitGroup) (effects more : List Service.Effect) :
    absorb group (effects ++ more) = absorb (absorb group effects) more :=
  List.foldl_append ..

/-- A service that neither joins nor leaves changes no wait group. -/
theorem modify_absorb (staysOut : .join ∉ effects ∧ .leave ∉ effects) (groups : List WaitGroup) (shared : Nat) :
    (groups.modify shared fun group => absorb group effects) = groups := by
  have idle : (fun group : WaitGroup => absorb group effects) = id := by
    funext group
    induction effects with
    | nil => rfl
    | cons effect rest inductionHypothesis =>
      simp only [List.mem_cons, not_or] at staysOut
      obtain ⟨⟨joins, later⟩, leaves, laterToo⟩ := staysOut
      have skipped := inductionHypothesis ⟨later, laterToo⟩
      cases effect with
      | join => exact absurd rfl joins
      | leave => exact absurd rfl leaves
      | trigger | say => exact skipped
  rw [idle, List.modify_id]

theorem obey_append : obey tokens handles (effects ++ more) = obey (obey tokens handles effects) handles more :=
  List.foldl_append ..

theorem step_member (faithful : fleet.Faithful) (separate : fleet.Separate)
    (here : fleet.members[number]? = some member) {action : Service.Action} {service : Service}
    (stepped : member.service.step (fleet.isSignalled member) action = some (service, effects)) :
    fleet.step machine (.member number action) = some (fleet.settleStep number member (service, effects)) := by
  simp [step, here, faithful.found_eq separate here, stepped]

/-- What a service can do in a row its member can do in the fleet. -/
theorem run_stepsOf (ran : ({} : Fleet).run machine steps = some (fleet, entries)) {actions : List Service.Action}
    {service : Service} (here : fleet.members[number]? = some member)
    (course : member.service.run (actions.map (fleet.isSignalled member, ·)) = some (service, effects)) :
    ∃ last said, fleet.run machine (stepsOf number actions) = some (last, said) ∧ last = { fleet with
      tokens := obey fleet.tokens member.handles effects
      groups := fleet.groups.modify member.handles.group fun group => absorb group effects
      members := fleet.members.set number { member with service } } := by
  induction actions generalizing steps fleet entries member effects with
  | nil =>
    cases course
    have same : fleet.members.set number member = fleet.members := by
      obtain ⟨inside, rfl⟩ := List.getElem?_eq_some_iff.mp here
      exact List.set_getElem_self inside
    have idle : (fun group : WaitGroup => absorb group []) = id := rfl
    refine ⟨fleet, [], rfl, ?_⟩
    simp [same, obey, idle]
  | cons action rest inductionHypothesis =>
    obtain ⟨next, first, others, stepped, courseRest, rfl⟩ := Service.run_cons.mp course
    obtain ⟨separate, faithful⟩ := separate_of_run ran
    have taken : fleet.step machine (.member number action) =
        some (fleet.settleStep number member (next, first)) := step_member faithful separate here stepped
    have moves := move_of_step taken
    have there : (fleet.settleStep number member (next, first)).1.members[number]? =
        some { member with service := next } := (Roster.getElem?_set here).mpr (.inl ⟨rfl, rfl⟩)
    have alone := moves.alone separate faithful fun member here => sound_of_run ran here
    have signalled : (fleet.settleStep number member (next, first)).1.isSignalled { member with service := next } =
        fleet.isSignalled member :=
      alone.signals member.handles.shared fun signal owns =>
        (isPublic_iff.mp (separate.isPublic_shared here)).2 number signal owns
    rw [← signalled] at courseRest
    have reached := run_snoc.mpr ⟨fleet, entries, _, ran, taken, rfl⟩
    obtain ⟨last, said, continued, ended⟩ := inductionHypothesis reached there courseRest
    refine ⟨last, _, run_cons.mpr ⟨_, _, said, taken, continued, rfl⟩, ?_⟩
    simp [ended, obey_append, absorb_append, List.modify_modify_eq, Function.comp_def]

end Course

/-- A member enters a fleet through a construction from a configuration. -/
structure Enters (clashes : SocketAddress → SocketAddress → Prop) (before after : Fleet) (config : Config)
    (number : Nat) : Prop where
  last : number = before.members.length
  earlier : ∃ router, after.members = before.members ++ [⟨config, router, before.handlesFor config.options,
    Service.opened config.options.timeouts.shutdown⟩]
  listening : ∃ member, after.members[number]? = some member ∧ member.config = config ∧
    member.service.phase = .listening
  /-- Exactly its address is newly occupied. -/
  free : ∀ other ∈ before.inUse, ¬clashes config.address.socketAddress other
  occupied : after.bound = before.bound ++ [config.address.socketAddress]
  others : after.others = before.others
  /-- No signal is triggered and no counter changes. -/
  signals : ∀ token, after.tokens.isCancelled token = before.tokens.isCancelled token
  counters : ∀ group, after.group group = before.group group

/-- A member that was never started and is shut down does nothing any more. -/
structure Retires (machine : Machine) (fleet : Fleet) (number : Nat) (member : Member) : Prop where
  unbound : member.service.phase = .closed → member.service.isBound = false
  /-- Its steps leave all wait groups alone. -/
  counters : ∀ action next entries, fleet.step machine (.member number action) = some (next, entries) →
    next.groups = fleet.groups
  /-- A start of it is refused. -/
  refused : ∀ call, member.service.starts[call]? = some .called → ∃ next service,
    fleet.step machine (.member number (.start call)) = some (next, []) ∧
    next.members[number]? = some { member with service } ∧
    service.startResultOf? call = some (.error (.invalidState "start" member.service.phase))
  /-- It stays so, and no start of it ever succeeds. -/
  stays : ∀ later last said, fleet.run machine later = some (last, said) → ∃ service,
    last.members[number]? = some { member with service } ∧ service.IsRetired ∧
    ∀ call result, service.startResultOf? call = some result →
      ∃ phase, result = .error (.invalidState "start" phase)

/-- A member that was never started is shut down. -/
structure Withdraws (machine : Machine) (before after : Fleet) (number : Nat) (member : Member) : Prop where
  closed : ∃ service, after.members = before.members.set number { member with service } ∧
    service.phase = .closed ∧ service.shutdownResult? member.service.shutdowns.length = some (.ok ()) ∧
    Retires machine after number { member with service }
  /-- Exactly its address is free again. -/
  freed : before.bound.Perm (member.config.address.socketAddress :: after.bound)
  free : machine.bind after.inUse member.config.address.socketAddress = .ok ()
  others : after.others = before.others
  /-- It triggers the signal that stops it, and no other one. -/
  signals : ∀ token, token ≠ member.handles.stop →
    after.tokens.isCancelled token = before.tokens.isCancelled token
  counters : after.groups = before.groups

/-- What constructions and shutdowns of members leave behind in a fleet. -/
structure LeavesNoTrace (machine : Machine) (clashes : SocketAddress → SocketAddress → Prop) (fleet : Fleet) :
    Prop where
  exclusive : fleet.Exclusive clashes
  /-- In particular no address is bound twice. -/
  distinct : fleet.inUse.Nodup
  /-- A construction reports the first stage that fails. -/
  reported : ∀ builder binder error, (fleet.construct machine builder binder).2.result = .error error ↔
    Fails machine clashes fleet builder error
  /-- It leaves nothing behind then. -/
  untouched : ∀ builder binder error, (fleet.construct machine builder binder).2.result = .error error →
    (fleet.construct machine builder binder).1 = fleet
  /-- The application is asked for its routes if the configuration is valid, and only then. -/
  routed : ∀ builder binder, (fleet.construct machine builder binder).2.routed = true ↔
    ∃ config, builder.build = .ok config
  entered : ∀ builder binder number, (fleet.construct machine builder binder).2.result = .ok number →
    ∃ config, Accepts machine clashes fleet builder config ∧
      Enters clashes fleet (fleet.construct machine builder binder).1 config number
  withdrawn : ∀ (number : Nat) (member : Member), fleet.members[number]? = some member →
    member.service.opening? = none → member.service.phase = .listening → ∀ limit, ∃ last entries,
      fleet.run machine (stepsOf number (.callShutdown limit ::
        List.replicate 6 (.shutdown member.service.shutdowns.length))) = some (last, entries) ∧
      Withdraws machine fleet last number member
  retired : ∀ (number : Nat) (member : Member), fleet.members[number]? = some member →
    member.service.IsRetired → Retires machine fleet number member

section Traces

theorem enters_of_accepts (fair : machine.Fair clashes) (accepts : Accepts machine clashes fleet builder config) :
    Enters clashes fleet (fleet.construct machine builder binder).1 config fleet.members.length := by
  rw [(construct_of_accepts fair accepts).1]
  constructor
  case last => rfl
  case earlier => exact ⟨_, rfl⟩
  case listening => exact ⟨_, List.getElem?_concat_length, rfl, rfl⟩
  case free => exact accepts.free
  case occupied => exact bound_enlist rfl
  case others => rfl
  case signals =>
    intro token
    have same : (fleet.tokensFor config.options).wasCancelled = fleet.tokens.wasCancelled :=
      funext fun _ => wasCancelled_tokensFor
    show (fleet.tokensFor config.options).isCancelled token = _
    rw [Tokens.isCancelled, Tokens.isCancelled, Tokens.line, above_tokensFor, same, Tokens.line]
  case counters => exact fun group => group_enlist

theorem retires_of_isRetired (ran : ({} : Fleet).run machine steps = some (fleet, entries))
    (here : fleet.members[number]? = some member) (retired : member.service.IsRetired) :
    Retires machine fleet number member := by
  have sound := sound_of_run ran here
  obtain ⟨separate, faithful⟩ := separate_of_run ran
  constructor
  case unbound => exact retired.isBound_of_closed sound
  case counters =>
    intro action next said stepped
    cases move_of_step stepped with
    | @member _ _ found service effects there moved =>
      obtain rfl := Option.some.inj (here.symm.trans there)
      rw [faithful.found_eq separate here] at moved
      exact modify_absorb (retired.stays_out_of_move sound (Service.move_of_step moved)) fleet.groups _
  case refused =>
    intro call called
    refine ⟨_, _, step_member faithful separate here (retired.step_start called (fleet.isSignalled member)),
      (Roster.getElem?_set here).mpr (.inl ⟨rfl, rfl⟩), ?_⟩
    rw [Service.startResultOf?, Service.getElem?_moveStart called]
    rfl
  case stays =>
    intro later last said continued
    obtain ⟨service, reached, stays⟩ := member_induction (motive := Service.IsRetired)
      (fun sound moves retired => retired.move sound moves) ran continued here retired
    exact ⟨service, reached, stays, fun call result => stays.startResultOf?⟩

theorem withdraws_of_unopened (fair : machine.Fair clashes)
    (ran : ({} : Fleet).run machine steps = some (fleet, entries)) (here : fleet.members[number]? = some member)
    (unopened : member.service.opening? = none) (listening : member.service.phase = .listening)
    (limit : Duration) :
    ∃ last said, fleet.run machine (stepsOf number (.callShutdown limit ::
        List.replicate 6 (.shutdown member.service.shutdowns.length))) = some (last, said) ∧
      Withdraws machine fleet last number member := by
  have held := (sound_of_run ran here).socket_held (Service.stateLocked_of_unopened unopened) listening
  have isBound : member.service.isBound := by
    rw [Service.isBound, held]
    rfl
  obtain ⟨last, said, continued, ended⟩ := run_stepsOf ran here
    (Service.run_withdrawn unopened listening held limit (fleet.isSignalled member))
  refine ⟨last, said, continued, ?_⟩
  have members : last.members = fleet.members.set number { member with service := member.service.withdrawn limit } :=
    congrArg Fleet.members ended
  have others : last.others = fleet.others := by rw [ended]
  have freed := bound_perm_of_set here members isBound rfl
  constructor
  case closed =>
    have returned : (member.service.withdrawn limit).shutdownResult? member.service.shutdowns.length =
        some (.ok ()) := by
      simp [Service.shutdownResult?, Service.withdrawn, ShutdownCall.result?]
    have retired : (member.service.withdrawn limit).IsRetired := ⟨unopened, .inr rfl⟩
    have stands : last.members[number]? = some { member with service := member.service.withdrawn limit } := by
      rw [members]
      exact (Roster.getElem?_set here).mpr (.inl ⟨rfl, rfl⟩)
    have whole := run_append.mpr ⟨fleet, entries, said, ran, continued, rfl⟩
    exact ⟨member.service.withdrawn limit, members, rfl, returned, retires_of_isRetired whole stands retired⟩
  case freed => exact freed
  case free =>
    have inUse : fleet.inUse.Perm (member.config.address.socketAddress :: last.inUse) := by
      rw [Fleet.inUse, Fleet.inUse, others]
      exact freed.append_right fleet.others
    exact ((exclusive_iff_of_perm fair inUse).mp (exclusive_of_run fair ran)).1
  case others => exact others
  case signals =>
    intro token apart
    have separate := (separate_of_run ran).1
    rw [ended, Bool.eq_iff_iff]
    refine Tokens.isCancelled_cancel.trans (or_iff_left ?_)
    rintro ⟨_, inLine⟩
    rcases Tokens.mem_line.mp inLine with same | among
    · exact apart same.symm
    · exact (separate.alone number .stop _ ⟨rfl, member, here, rfl⟩).2 token among
  case counters =>
    rw [ended]
    exact modify_absorb (by simp [Service.say]) fleet.groups _

/-- Whatever members were constructed, started and shut down before, a construction leaves no trace unless it
succeeds, and neither does a member that is shut down without ever being started. -/
theorem leaves_no_trace (fair : machine.Fair clashes)
    (ran : ({} : Fleet).run machine steps = some (fleet, entries)) : LeavesNoTrace machine clashes fleet := by
  constructor
  case exclusive => exact exclusive_of_run fair ran
  case distinct =>
    refine (exclusive_of_run fair ran).imp ?_
    rintro one other apart rfl
    exact apart (fair.clashes_self one)
  case reported => exact fun builder binder error => result_eq_error_iff fair
  case untouched =>
    exact fun builder binder error failed => (construct_of_fails ((result_eq_error_iff fair).mp failed)).1
  case routed => exact fun builder binder => routed_iff
  case entered =>
    intro builder binder number succeeded
    rcases fails_or_accepts fair fleet builder with ⟨error, fails⟩ | ⟨config, accepts⟩
    · rw [(construct_of_fails fails).2] at succeeded
      cases succeeded
    · rw [(construct_of_accepts fair accepts).2] at succeeded
      exact ⟨config, accepts, Except.ok.inj succeeded ▸ enters_of_accepts fair accepts⟩
  case withdrawn =>
    exact fun number member here unopened listening limit =>
      withdraws_of_unopened fair ran here unopened listening limit
  case retired => exact fun number member here retired => retires_of_isRetired ran here retired

/-- A machine that all addresses belong to is fair. -/
theorem fair_everyHost : everyHost.Fair fun one other => one.overlaps other where
  clashes_self := fun address => by simp [SocketAddress.overlaps]
  clashes_symm := by
    intro one other clash
    rw [SocketAddress.overlaps, Bool.and_eq_true, Bool.or_eq_true, Bool.or_eq_true, beq_iff_eq,
      beq_iff_eq] at clash ⊢
    obtain ⟨port, (host | takesIn) | takesIn⟩ := clash
    · exact ⟨port.symm, .inl (.inl host.symm)⟩
    · exact ⟨port.symm, .inr takesIn⟩
    · exact ⟨port.symm, .inl (.inr takesIn)⟩
  bind_eq_ok_iff := by
    intro bound address
    simp only [everyHost, Machine.owning, Bool.not_true, Bool.false_eq_true, if_false]
    split
    · rename_i taken
      obtain ⟨other, among, clash⟩ := List.any_eq_true.mp taken
      exact iff_of_false (by simp) fun free => free other among clash
    · rename_i free
      exact iff_of_true rfl fun other among clash => free (List.any_eq_true.mpr ⟨other, among, clash⟩)

/-- A member is shut down unstarted, after which another takes its address. Before that, a construction for the
same address with its host written out fails, and so does one without an address. -/
def addressReused : List Step :=
  [.makeSignal none, .makeGroup, .construct (sharing ":8017") fun _ => [],
    .construct (sharing "0.0.0.0:8017") fun _ => [], .construct (sharing "localhost") fun _ => []] ++
    stepsOf 0 [.callShutdown (.ofSeconds 5), .shutdown 0, .shutdown 0, .shutdown 0, .shutdown 0, .shutdown 0,
      .shutdown 0] ++
    [.construct (sharing ":8017") fun _ => []]

/-- Builders whose constructions fail at one stage after the other. -/
def failingBuilders : List Builder :=
  [{ sharing "localhost" with tls := some ⟨[], []⟩ }, { sharing ":8017" with tls := some ⟨[], []⟩ },
    sharing "0.0.0.0:8017"]

theorem leaves_no_trace_reused :
    ∃ fleet entries, everyHost.Fair (fun one other => one.overlaps other) ∧
      ({} : Fleet).run everyHost addressReused = some (fleet, entries) ∧
      LeavesNoTrace everyHost (fun one other => one.overlaps other) fleet ∧
      (fleet.members.map fun member => (member.handles.group, member.service.phase)) =
        [(0, .closed), (0, .listening)] ∧
      fleet.bound = [⟨"0.0.0.0", 8017⟩] ∧ (fleet.group 0).count = 0 ∧
      (failingBuilders.map fun builder => (fleet.construct everyHost builder fun _ => []).2.result) =
        [.error (.config (.invalidAddress "localhost" "missing port")), .error (.tls "no certificate found"),
          .error (.listener "0.0.0.0:8017" "address in use")] := by
  obtain ⟨⟨fleet, entries⟩, ran⟩ :=
    Option.isSome_iff_exists.mp (show (({} : Fleet).run everyHost addressReused).isSome by decide +kernel)
  have shown : (({} : Fleet).run everyHost addressReused).map (fun ended =>
      (ended.1.members.map fun member => (member.handles.group, member.service.phase), ended.1.bound,
        (ended.1.group 0).count,
        failingBuilders.map fun builder => (ended.1.construct everyHost builder fun _ => []).2.result)) =
      some ([(0, .closed), (0, .listening)], [⟨"0.0.0.0", 8017⟩], 0,
        [.error (.config (.invalidAddress "localhost" "missing port")), .error (.tls "no certificate found"),
          .error (.listener "0.0.0.0:8017" "address in use")]) := by decide +kernel
  rw [ran, Option.map_some, Option.some.injEq] at shown
  simp only [Prod.mk.injEq] at shown
  exact ⟨fleet, entries, fair_everyHost, ran, leaves_no_trace fair_everyHost ran, shown⟩

end Traces

end Fleet

end ServiceHost

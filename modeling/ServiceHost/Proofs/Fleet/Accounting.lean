import ServiceHost.Proofs.Fleet.Course
import ServiceHost.Proofs.Lifecycle.Membership
import ServiceHost.Proofs.Shutdown.Tally

/-!
Accounting: the counter of a shared wait group is what its owner added and has not taken away, and one for
each member that has joined and not left.
-/

namespace ServiceHost.Fleet

/-- The baseline of a wait group after a step of its owner: what it added, less what it took away. It takes away
only what it added. -/
def balance? (base : Nat) : WaitGroup.Step → Option Nat
  | .add amount => some (base + amount.toNat)
  | .lower => if base = 0 then none else some (base - 1)
  | .announce | .arrive | .enable _ | .check _ | .park _ | .wake _ => some base

/-- The baseline of a wait group after a step of its fleet. -/
def Step.baseline? (shared base : Nat) : Step → Option Nat
  | .group number taken => if number = shared then balance? base taken else some base
  | _ => some base

/-- The baseline at the end of a run, if it is balanced. -/
def baseline? (shared : Nat) (steps : List Step) : Option Nat := steps.foldlM (Step.baseline? shared) 0

/-- The number of members that hold a wait group and are in it. -/
def aboard (fleet : Fleet) (shared : Nat) : Nat :=
  fleet.members.countP fun member => member.handles.group == shared && member.service.isAboard

/-- The total of a run: the baseline and the members that are in the wait group. -/
def total? (machine : Machine) (shared : Nat) (steps : List Step) : Option Nat := do
  let (fleet, _) ← ({} : Fleet).run machine steps
  let base ← baseline? shared steps
  return base + fleet.aboard shared

/-- No total of a run reaches two to the sixty-fourth. -/
def Fits (machine : Machine) (shared : Nat) (steps : List Step) : Prop :=
  ∀ first, first <+: steps → ∀ total ∈ total? machine shared first, total < UInt64.size

instance (machine : Machine) (shared : Nat) (steps : List Step) : Decidable (Fits machine shared steps) :=
  decidable_of_iff (∀ first ∈ steps.inits, ∀ total ∈ total? machine shared first, total < UInt64.size)
    (by simp [Fits])

/-- Is a step one on a wait group: of its owner, or of a member that holds it? -/
def Concerns (fleet : Fleet) (shared : Nat) : Step → Prop
  | .group number _ => number = shared
  | .member number _ => ∃ member, fleet.members[number]? = some member ∧ member.handles.group = shared
  | _ => False

/-- No step of a run on a wait group takes it below zero. -/
def StaysUp (machine : Machine) (shared : Nat) (steps : List Step) : Prop :=
  ∀ first taken rest before said after entries, steps = first ++ taken :: rest →
    ({} : Fleet).run machine first = some (before, said) →
    before.step machine taken = some (after, entries) → before.Concerns shared taken →
    WaitGroup.belowZero ∉ entries

variable {machine : Machine} {fleet before after : Fleet} {taken : Step} {steps : List Step}
  {entries : List Log.Entry} {shared base next number : Nat} {member : Member}

theorem baseline?_group_self {taken : WaitGroup.Step} :
    (Step.group shared taken).baseline? shared base = balance? base taken := if_pos rfl

theorem baseline?_group_of_ne {taken : WaitGroup.Step} (apart : number ≠ shared) :
    (Step.group number taken).baseline? shared base = some base := if_neg apart

theorem baseline?_snoc :
    baseline? shared (steps ++ [taken]) = some next ↔
      ∃ base, baseline? shared steps = some base ∧ taken.baseline? shared base = some next := by
  simp [baseline?, List.foldlM_append, Option.bind_eq_some_iff]

theorem Fits.of_append {rest : List Step} (fits : Fits machine shared (steps ++ rest)) :
    Fits machine shared steps := by
  intro part within
  exact fits part (within.trans (List.prefix_append steps rest))

theorem Fits.lt (fits : Fits machine shared steps) (ran : ({} : Fleet).run machine steps = some (fleet, entries))
    (balanced : baseline? shared steps = some base) : base + fleet.aboard shared < UInt64.size := by
  refine fits steps (List.prefix_refl steps) (base + fleet.aboard shared) ?_
  simp [total?, ran, balanced]

section Groups

variable {other : Nat} {change : WaitGroup → WaitGroup}

/-- A new wait group is one that nobody has used. -/
theorem group_of_snoc (added : after.groups = before.groups ++ [({} : WaitGroup)]) :
    after.group number = before.group number := by
  rw [group, group, added, List.getElem?_append]
  split
  · rfl
  · rename_i outside
    rw [List.getElem?_eq_none (Nat.le_of_not_lt outside), List.getElem?_singleton]
    split <;> rfl

theorem group_enlist : (before.enlist member).group number = before.group number := by
  cases named : member.config.options.waitGroup with
  | some handle =>
    have same : (before.enlist member).groups = before.groups := by simp [enlist, groupsFor, named]
    rw [group, group, same]
  | none => exact group_of_snoc (by simp [enlist, groupsFor, named])

theorem group_of_modify (changed : after.groups = before.groups.modify number change)
    (known : number < before.groups.length) : after.group number = change (before.group number) := by
  rw [group, group, changed, List.getElem?_modify_eq, List.getElem?_eq_getElem known]
  rfl

theorem group_of_modify_ne (changed : after.groups = before.groups.modify number change) (apart : number ≠ other) :
    after.group other = before.group other := by
  rw [group, group, changed, List.getElem?_modify_ne _ _ apart]

end Groups

section Absorb

variable {group : WaitGroup}

theorem toNat_count_absorb_join :
    (absorb group [.join]).count.toNat = (group.count.toNat + 1) % UInt64.size := by
  have stepped : group.step (.add 1) = some (absorb group [.join]) := rfl
  exact WaitGroup.toNat_count_step stepped

theorem toNat_count_absorb_leave :
    (absorb group [.leave]).count.toNat = group.count.toNat - 1 := by
  have bounded := group.count.toNat_lt_size
  obtain ⟨lowered, stepped⟩ := group.exists_step_lower
  have absorbed : absorb group [.leave] = lowered := by
    simp [absorb, WaitGroup.attempt, stepped]
  have counted := WaitGroup.toNat_count_step stepped
  rw [WaitGroup.Step.tally, Nat.mod_eq_of_lt (by omega)] at counted
  rw [absorbed, counted]

/-- A balanced step of the owner changes the counter by what it changes the baseline. -/
theorem count_of_balanced {taken : WaitGroup.Step} {lowered : WaitGroup} {others : Nat}
    (stepped : group.step taken = some lowered)
    (balanced : balance? base taken = some next)
    (counted : group.count.toNat = base + others) (fits : next + others < UInt64.size) :
    lowered.count.toNat = next + others ∧ (taken = .lower → group.count ≠ 0) := by
  have accounted := WaitGroup.toNat_count_step stepped
  rw [counted] at accounted
  cases taken with
  | add amount =>
    cases balanced
    rw [WaitGroup.Step.tally, Nat.add_right_comm, Nat.mod_eq_of_lt fits] at accounted
    exact ⟨accounted, by simp⟩
  | lower =>
    have positive : base ≠ 0 := by
      rintro rfl
      cases balanced
    rw [balance?, if_neg positive, Option.some.injEq] at balanced
    subst balanced
    rw [WaitGroup.Step.tally, Nat.mod_eq_of_lt (by omega)] at accounted
    refine ⟨by omega, fun _ zero => ?_⟩
    rw [zero] at counted
    have none : 0 = base + others := counted
    omega
  | announce | arrive | enable | check | park | wake =>
    cases balanced
    exact ⟨accounted.trans (Nat.mod_eq_of_lt fits), by simp⟩

end Absorb

/-- A member that is in the wait group counts. -/
theorem aboard_ne_zero (here : before.members[number]? = some member) (holds : member.handles.group = shared)
    (isAboard : member.service.isAboard) : before.aboard shared ≠ 0 := by
  have counts : (member.handles.group == shared && member.service.isAboard) = true := by
    rw [holds, isAboard, beq_self_eq_true]
    rfl
  have positive : 0 < before.aboard shared :=
    List.countP_pos_iff.mpr ⟨member, List.mem_of_getElem? here, counts⟩
  omega

/-- A member moves on, which changes the number of members in the wait group if the member holds it. -/
theorem aboard_of_set (here : before.members[number]? = some member) {service : Service}
    (members : after.members = before.members.set number { member with service }) :
    after.aboard shared + (member.handles.group == shared && member.service.isAboard).toNat =
      before.aboard shared + (member.handles.group == shared && service.isAboard).toNat := by
  rw [aboard, members]
  exact Roster.countP_set here

theorem aboard_of_apart (here : before.members[number]? = some member) {service : Service}
    (members : after.members = before.members.set number { member with service })
    (apart : member.handles.group ≠ shared) : after.aboard shared = before.aboard shared := by
  have changed : after.aboard shared + _ = before.aboard shared + _ := aboard_of_set here members
  rwa [beq_eq_false_iff_ne.mpr apart, Bool.false_and, Bool.false_and, Nat.add_right_cancel_iff] at changed

/-- A member that holds the wait group takes a step that keeps the account. -/
theorem accounts_of_member (here : before.members[number]? = some member) (holds : member.handles.group = shared)
    (sound : member.service.Sound) {signalled : Bool} {action : Service.Action} {service : Service}
    {effects : List Service.Effect} (moves : Service.Move signalled member.service action service effects)
    (members : after.members = before.members.set number { member with service })
    (groups : after.groups = before.groups.modify member.handles.group fun group => absorb group effects)
    (known : member.handles.group < before.groups.length)
    (counted : (before.group shared).count.toNat = base + before.aboard shared)
    (fits : base + after.aboard shared < UInt64.size) :
    (after.group shared).count.toNat = base + after.aboard shared ∧
      WaitGroup.belowZero ∉ said (before.group shared) effects := by
  have changed : after.aboard shared + member.service.isAboard.toNat =
      before.aboard shared + service.isAboard.toNat := by
    have changed : after.aboard shared + _ = before.aboard shared + _ := aboard_of_set here members
    rwa [holds, beq_self_eq_true, Bool.true_and, Bool.true_and] at changed
  rw [← holds, group_of_modify groups known, holds]
  cases sound.ledger moves with
  | silent keeps | trigger keeps =>
    rw [Service.isAboard, Service.isAboard, keeps.joined, keeps.left, Nat.add_right_cancel_iff] at changed
    rw [changed]
    exact ⟨counted, List.not_mem_nil⟩
  | say keeps other =>
    rw [Service.isAboard, Service.isAboard, keeps.joined, keeps.left, Nat.add_right_cancel_iff] at changed
    rw [changed]
    exact ⟨counted, fun same => other (List.mem_singleton.mp same).symm⟩
  | join unjoined joined isAboard =>
    rw [Service.isAboard, Service.isAboard, unjoined, joined, isAboard] at changed
    have more : after.aboard shared = before.aboard shared + 1 := changed
    rw [more] at fits ⊢
    rw [toNat_count_absorb_join, counted, Nat.add_assoc, Nat.mod_eq_of_lt fits]
    exact ⟨rfl, List.not_mem_nil⟩
  | leave acted closed joined stays isAboard left =>
    have present := aboard_ne_zero here holds (by rw [Service.isAboard, joined, isAboard]; rfl)
    rw [Service.isAboard, Service.isAboard, joined, isAboard, stays, left] at changed
    have fewer : after.aboard shared + 1 = before.aboard shared := changed
    have positive : (before.group shared).count ≠ 0 := by
      intro zero
      rw [zero] at counted
      have none : 0 = base + before.aboard shared := counted
      omega
    rw [toNat_count_absorb_leave, counted, ← fewer]
    exact ⟨rfl, by simp [said, positive]⟩

/-- Each step keeps the account. -/
theorem Move.accounts (moves : Move machine before taken after entries) (separate : before.Separate)
    (faithful : before.Faithful)
    (sound : ∀ (number : Nat) (member : Member), before.members[number]? = some member → member.service.Sound)
    (balanced : taken.baseline? shared base = some next)
    (counted : (before.group shared).count.toNat = base + before.aboard shared)
    (fits : next + after.aboard shared < UInt64.size) :
    (after.group shared).count.toNat = next + after.aboard shared ∧
      (before.Concerns shared taken → WaitGroup.belowZero ∉ entries) := by
  cases moves with
  | fail | makeSignal | trigger | bindOther | freeOther =>
    cases balanced
    exact ⟨counted, False.elim⟩
  | makeGroup =>
    cases balanced
    refine ⟨?_, False.elim⟩
    rw [group_of_snoc rfl]
    exact counted
  | @enter binder entries member offered handles fresh =>
    cases balanced
    refine ⟨?_, False.elim⟩
    have ashore : member.service.isAboard = false := by
      rw [fresh]
      rfl
    rw [group_enlist]
    simpa [aboard, enlist, ashore] using counted
  | @group number taken group after here stepped =>
    by_cases same : number = shared
    · subst same
      have isThere : before.group number = group := by
        rw [Fleet.group, here]
        rfl
      have reached : (before.groups.set number after)[number]? = some after :=
        (Roster.getElem?_set here).mpr (.inl ⟨rfl, rfl⟩)
      rw [isThere] at counted
      rw [baseline?_group_self] at balanced
      obtain ⟨accounted, positive⟩ := count_of_balanced stepped balanced counted fits
      refine ⟨?_, fun _ => ?_⟩
      · rw [Fleet.group, reached]
        exact accounted
      · split
        · rename_i lowers
          simp [said, positive lowers]
        · exact List.not_mem_nil
    · have kept : next = base := by
        rw [baseline?_group_of_ne same] at balanced
        exact (Option.some.inj balanced).symm
      subst kept
      refine ⟨?_, fun concerns => absurd concerns same⟩
      rw [Fleet.group, List.getElem?_set_ne same]
      exact counted
  | @member number action member service effects here stepped =>
    cases balanced
    rw [faithful.found_eq separate here] at stepped
    have known := (separate.known number member here).2
    by_cases holds : member.handles.group = shared
    · have moves := Service.move_of_step stepped
      obtain ⟨accounted, silent⟩ :=
        accounts_of_member here holds (sound number member here) moves rfl rfl known counted fits
      exact ⟨accounted, fun _ => holds ▸ silent⟩
    · refine ⟨?_, ?_⟩
      · rw [group_of_modify_ne rfl holds, counted]
        exact congrArg (base + ·) (aboard_of_apart here rfl holds).symm
      · rintro ⟨found, there, same⟩
        obtain rfl := Option.some.inj (here.symm.trans there)
        exact absurd same holds

/-- In every run that is balanced and fits, the counter is the baseline with the members in the wait group. -/
theorem count_of_run (ran : ({} : Fleet).run machine steps = some (fleet, entries))
    (balanced : baseline? shared steps = some base) (fits : Fits machine shared steps) :
    (fleet.group shared).count.toNat = base + fleet.aboard shared := by
  induction steps using List.reverseRecOn generalizing fleet entries base with
  | nil =>
    cases ran
    cases balanced
    rfl
  | append_singleton steps taken inductionHypothesis =>
    have total := fits.lt ran balanced
    obtain ⟨before, said, others, reached, stepped, rfl⟩ := run_snoc.mp ran
    obtain ⟨former, balancedBefore, balancedStep⟩ := baseline?_snoc.mp balanced
    have counted := inductionHypothesis reached balancedBefore fits.of_append
    obtain ⟨separate, faithful⟩ := separate_of_run reached
    have sound (number : Nat) (member : Member) (here : before.members[number]? = some member) :
        member.service.Sound := sound_of_run reached here
    exact ((move_of_step stepped).accounts separate faithful sound balancedStep counted total).1

/-- A part of a balanced run is balanced. -/
theorem exists_baseline?_of_append {rest : List Step} (balanced : baseline? shared (steps ++ rest) = some base) :
    ∃ former, baseline? shared steps = some former := by
  rw [baseline?, List.foldlM_append] at balanced
  obtain ⟨former, balancedBefore, _⟩ := Option.bind_eq_some_iff.mp balanced
  exact ⟨former, balancedBefore⟩

/-- In a run that is balanced and fits, no step on the wait group takes it below zero. -/
theorem staysUp_of_balanced (balanced : baseline? shared steps = some base) (fits : Fits machine shared steps) :
    StaysUp machine shared steps := by
  intro first taken rest before said after entries whole reached stepped concerns
  rw [whole, List.append_cons] at fits
  rw [whole, List.append_cons] at balanced
  obtain ⟨next, balancedThen⟩ := exists_baseline?_of_append balanced
  obtain ⟨former, balancedBefore, balancedStep⟩ := baseline?_snoc.mp balancedThen
  have fitsThen : Fits machine shared (first ++ [taken]) := fits.of_append
  have counted := count_of_run reached balancedBefore fitsThen.of_append
  have total := fitsThen.lt (run_snoc.mpr ⟨before, said, entries, reached, stepped, rfl⟩) balancedThen
  obtain ⟨separate, faithful⟩ := separate_of_run reached
  have sound (number : Nat) (member : Member) (here : before.members[number]? = some member) :
      member.service.Sound := sound_of_run reached here
  exact ((move_of_step stepped).accounts separate faithful sound balancedStep counted total).2 concerns

/-- A member leaves its wait group by a step of its shutdown, after the drain and only if it is in it. -/
structure LeavesProperly (fleet : Fleet) (steps : List Step) (number : Nat) (member : Member)
    (action : Service.Action) : Prop where
  aboard : member.service.isAboard
  closed : member.service.phase = .closed
  above_zero : (fleet.group member.handles.group).count ≠ 0
  /-- The drain is over: it was completed or its deadline elapsed. -/
  drained : ∃ call drained, action = .shutdown call ∧
    member.service.shutdownPlace? call = some (.closed true drained) ∧
    (drained = true → member.service.isDrained) ∧
    (drained = false → .expire call ∈ actionsOf number steps)

theorem leavesProperly_of_step (ran : ({} : Fleet).run machine steps = some (fleet, entries))
    (counted : (fleet.group shared).count.toNat = base + fleet.aboard shared)
    (here : fleet.members[number]? = some member) (holds : member.handles.group = shared)
    {action : Service.Action} {service : Service} {effects : List Service.Effect}
    (stepped : member.service.step (fleet.isSignalled member) action = some (service, effects))
    (leaves : .leave ∈ effects) : LeavesProperly fleet steps number member action := by
  have sound := sound_of_run ran here
  obtain ⟨course, said, went⟩ := (follows_of_run ran).present number member here
  cases sound.ledger (Service.move_of_step stepped) with
  | silent keeps => cases leaves
  | trigger keeps | say keeps | join => cases List.mem_singleton.mp leaves
  | @leave call drained acted closed joined stays isAboard left =>
    have present : member.service.isAboard := by rw [Service.isAboard, joined, isAboard]; rfl
    have positive := aboard_ne_zero here holds present
    obtain ⟨request, found, place⟩ := Option.map_eq_some_iff.mp closed
    have active : request.isActive := by rw [Lifecycle.ShutdownCall.isActive, place]; rfl
    constructor
    case aboard => exact present
    case closed => exact sound.phase_of_hasClosed found active (by rw [place]; rfl)
    case above_zero =>
      intro zero
      rw [← holds, zero, holds] at counted
      have none : 0 = base + fleet.aboard shared := counted
      omega
    case drained =>
      refine ⟨call, drained, acted, closed, ?_, ?_⟩
      · rintro rfl
        exact sound.isDrained_of_hasDrained found (by rw [place]; rfl)
      · rintro rfl
        obtain ⟨signalled, among⟩ :=
          Service.expire_of_hasExpired went.ran call request found (by rw [place]; rfl)
        exact mem_actionsOf.mpr (went.mem_steps among)

/-- The counter of a shared wait group is the baseline of its owner with one for each member that has joined
and not left, whatever order the steps of all members are taken in. Each member joins at most once and leaves
at most once, and leaves only what it joined, so that the counter is never lowered below zero. Where the
counter is back at the baseline, every member that has joined is closed. -/
theorem count_eq_baseline_add_aboard (ran : ({} : Fleet).run machine steps = some (fleet, entries))
    (balanced : baseline? shared steps = some base) (fits : Fits machine shared steps) :
    (fleet.group shared).count.toNat = base + fleet.aboard shared ∧
    (∀ (number : Nat) (member : Member), fleet.members[number]? = some member →
      ∃ course effects, WentThrough fleet number steps member course effects ∧
        effects.count .join = member.service.hasJoined.toNat ∧
        effects.count .leave = member.service.hasLeft.toNat) ∧
    (∀ (number : Nat) (member : Member) action service effects, fleet.members[number]? = some member →
      member.handles.group = shared →
      member.service.step (fleet.isSignalled member) action = some (service, effects) → .leave ∈ effects →
      LeavesProperly fleet steps number member action) ∧
    StaysUp machine shared steps ∧
    ((fleet.group shared).count.toNat = base → ∀ member ∈ fleet.members, member.handles.group = shared →
      member.service.hasJoined → member.service.phase = .closed) := by
  have counted := count_of_run ran balanced fits
  refine ⟨counted, ?_, ?_, staysUp_of_balanced balanced fits, ?_⟩
  · intro number member here
    obtain ⟨course, effects, went⟩ := (follows_of_run ran).present number member here
    exact ⟨course, effects, went, Service.count_of_run went.ran⟩
  · intro number member action service effects here holds stepped leaves
    exact leavesProperly_of_step ran counted here holds stepped leaves
  · intro back member present holds joined
    obtain ⟨number, here⟩ := List.getElem?_of_mem present
    have ashore : ¬member.service.isAboard := fun isAboard => by
      have positive := aboard_ne_zero here holds isAboard
      omega
    have left : member.service.hasLeft := by
      rw [Service.isAboard, joined, Bool.true_and, Bool.not_eq_true', Bool.not_eq_false] at ashore
      exact ashore
    exact (sound_of_run ran here).phase_of_hasLeft left

/-- Some steps of a member in order. -/
def stepsOf (number : Nat) (actions : List Service.Action) : List Step := actions.map (.member number)

/-- A machine that all addresses belong to. -/
def everyHost : Machine := .owning .standard fun _ => true

/-- The options of a member that holds the first signal and the first wait group. -/
def sharing (address : String) : Builder :=
  { address, waitGroup := some ⟨0⟩, shutdownSignal := some ⟨0⟩ }

/-- Two members share a signal and a wait group. -/
def sharedPair : List Step :=
  [.makeSignal none, .makeGroup, .construct (sharing ":8017") fun _ => [], .construct (sharing ":8018") fun _ => []]

/-- The wait group has a baseline of one. The first member is stopped by the shared signal and drains, and the
second is shut down by a caller and misses its deadline. -/
def sharedCourse : List Step :=
  sharedPair ++ .group 0 (.add 1) ::
    stepsOf 0 [.callStart, .start 0, .start 0, .start 0, .start 0, .start 0, .start 0] ++
    stepsOf 1 [.callStart, .start 0, .start 0, .start 0, .start 0, .callShutdown (.ofSeconds 5), .shutdown 0,
      .shutdown 0, .start 0] ++
    .trigger 0 ::
    stepsOf 0 [.hearSignal, .shutdown 0, .shutdown 0, .advance, .advance, .advance, .advance, .shutdown 0,
      .shutdown 0, .shutdown 0, .shutdown 0] ++
    stepsOf 1 [.expire 0, .shutdown 0, .shutdown 0, .shutdown 0]

theorem count_eq_baseline_add_aboard_shared :
    ∃ fleet entries, ({} : Fleet).run everyHost sharedCourse = some (fleet, entries) ∧
      baseline? 0 sharedCourse = some 1 ∧ Fits everyHost 0 sharedCourse ∧
      (fleet.group 0).count.toNat = 1 + fleet.aboard 0 ∧ (fleet.group 0).count.toNat = 1 ∧
      (fleet.members.map fun member => (member.handles.group, member.service.hasJoined)) =
        [(0, true), (0, true)] ∧
      ∀ member ∈ fleet.members, member.handles.group = 0 → member.service.hasJoined →
        member.service.phase = .closed := by
  obtain ⟨⟨fleet, entries⟩, ran⟩ :=
    Option.isSome_iff_exists.mp (show (({} : Fleet).run everyHost sharedCourse).isSome by decide +kernel)
  have balanced : baseline? 0 sharedCourse = some 1 := by decide +kernel
  have fits : Fits everyHost 0 sharedCourse := by decide +kernel
  have back : (({} : Fleet).run everyHost sharedCourse).map (fun ended => (ended.1.group 0).count.toNat) =
      some 1 := by decide +kernel
  have joined : (({} : Fleet).run everyHost sharedCourse).map
      (fun ended => ended.1.members.map fun member => (member.handles.group, member.service.hasJoined)) =
        some [(0, true), (0, true)] := by decide +kernel
  rw [ran, Option.map_some, Option.some.injEq] at back joined
  obtain ⟨counted, _, _, _, closed⟩ := count_eq_baseline_add_aboard ran balanced fits
  exact ⟨fleet, entries, ran, balanced, fits, counted, back, joined, closed back⟩

end ServiceHost.Fleet

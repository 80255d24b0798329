import ServiceHost.Proofs.Fleet.Triggers

/-!
Courses of a fleet: what each member goes through in a run of its fleet is a run of its own, whatever the
other members and those who hold the shared handles do in between.
-/

namespace ServiceHost.Fleet

/-- The action that a member takes in a step. -/
def Step.actionOf? (number : Nat) : Step → Option Service.Action
  | .member other action => if other = number then some action else none
  | _ => none

/-- The actions of a member in a run of its fleet. -/
def actionsOf (number : Nat) (steps : List Step) : List Service.Action := steps.filterMap (Step.actionOf? number)

/-- A member went through a course: a run of its service on its own, with the same actions. Where it was told
that its shared signal was triggered, the signal was. -/
structure WentThrough (fleet : Fleet) (number : Nat) (steps : List Step) (member : Member)
    (course : List (Bool × Service.Action)) (effects : List Service.Effect) : Prop where
  actions : course.map Prod.snd = actionsOf number steps
  ran : (Service.opened member.config.options.timeouts.shutdown).run course = some (member.service, effects)
  told : ∀ action, (true, action) ∈ course → fleet.isSignalled member

/-- Each member of a fleet went through a course, and who is not there took no action. -/
structure Follows (steps : List Step) (fleet : Fleet) : Prop where
  absent : ∀ number : Nat, fleet.members[number]? = none → actionsOf number steps = []
  present : ∀ (number : Nat) (member : Member), fleet.members[number]? = some member →
    ∃ course effects, WentThrough fleet number steps member course effects

variable {machine : Machine} {fleet before after last : Fleet} {taken : Step} {steps : List Step}
  {entries others : List Log.Entry} {said : List Service.Effect} {number : Nat} {member : Member}

theorem actionsOf_snoc (number : Nat) (steps : List Step) (taken : Step) :
    actionsOf number (steps ++ [taken]) = actionsOf number steps ++ (taken.actionOf? number).toList := by
  rw [actionsOf, List.filterMap_append, ← actionsOf]
  cases acted : taken.actionOf? number <;> simp [acted]

theorem mem_actionsOf {action : Service.Action} : action ∈ actionsOf number steps ↔ .member number action ∈ steps := by
  simp only [actionsOf, List.mem_filterMap]
  constructor
  · rintro ⟨taken, among, acted⟩
    cases taken with
    | member other done =>
      simp only [Step.actionOf?] at acted
      split at acted
      · rename_i same
        cases acted
        exact same ▸ among
      · cases acted
    | _ => cases acted
  · exact fun among => ⟨_, among, if_pos rfl⟩

theorem WentThrough.mem_steps {course : List (Bool × Service.Action)} {effects : List Service.Effect}
    (went : WentThrough fleet number steps member course effects) {signalled : Bool} {action : Service.Action}
    (among : (signalled, action) ∈ course) : .member number action ∈ steps := by
  rw [← mem_actionsOf, ← went.actions]
  exact List.mem_map.mpr ⟨_, among, rfl⟩

/-- A step of others leaves the course of a member as it is. -/
theorem WentThrough.goesOn {course : List (Bool × Service.Action)} {effects : List Service.Effect}
    (went : WentThrough before number steps member course effects) (moves : Move machine before taken after entries)
    (known : member.handles.shared < before.tokens.next) (idle : taken.actionOf? number = none) :
    WentThrough after number (steps ++ [taken]) member course effects where
  actions := by rw [actionsOf_snoc, idle, went.actions]; simp
  ran := went.ran
  told := fun action among => moves.isCancelled known (went.told action among)

/-- A step of a member takes its course on. -/
theorem WentThrough.acts {course : List (Bool × Service.Action)} {effects : List Service.Effect}
    (went : WentThrough before number steps member course said) (separate : before.Separate)
    (faithful : before.Faithful) {action : Service.Action} {service : Service}
    (moves : Move machine before (.member number action) after entries)
    (here : before.members[number]? = some member)
    (stepped : (before.found member).step (before.isSignalled member) action = some (service, effects)) :
    WentThrough after number (steps ++ [.member number action]) { member with service }
      (course ++ [(before.isSignalled member, action)]) (said ++ effects) where
  actions := by
    have acted : Step.actionOf? number (.member number action) = some action := if_pos rfl
    rw [List.map_append, actionsOf_snoc, went.actions, acted]
    rfl
  ran := by
    rw [faithful.found_eq separate here] at stepped
    exact Service.run_snoc.mpr ⟨member.service, said, effects, went.ran, stepped, rfl⟩
  told := by
    intro other among
    have known := (separate.known number member here).1 .shared
    rcases List.mem_append.mp among with old | new
    · exact moves.isCancelled known (went.told other old)
    · have triggered := congrArg Prod.fst (List.mem_singleton.mp new)
      exact moves.isCancelled known triggered.symm

theorem Follows.move (follows : Follows steps before) (separate : before.Separate) (faithful : before.Faithful)
    (moves : Move machine before taken after entries) : Follows (steps ++ [taken]) after := by
  constructor
  case absent =>
    intro number gone
    have goneBefore : before.members[number]? = none := by
      cases here : before.members[number]? with
      | none => rfl
      | some member =>
        obtain ⟨service, goesOn, _⟩ := moves.member_goesOn here
        rw [gone] at goesOn
        cases goesOn
    have idle : taken.actionOf? number = none := by
      cases moves with
      | @member other _ _ _ _ there =>
        refine if_neg fun same => ?_
        rw [← same, there] at goneBefore
        cases goneBefore
      | _ => rfl
    rw [actionsOf_snoc, idle, follows.absent number goneBefore]
    rfl
  case present =>
    intro number member here
    by_cases own : ∃ action, taken = .member number action
    · obtain ⟨action, rfl⟩ := own
      cases followed : moves with
      | @member _ _ actor service effects there stepped =>
        obtain rfl : member = { actor with service } :=
          Option.some.inj (here.symm.trans ((Roster.getElem?_set there).mpr (.inl ⟨rfl, rfl⟩)))
        obtain ⟨course, said, went⟩ := follows.present number actor there
        exact ⟨_, _, went.acts separate faithful moves there stepped⟩
    · have idle : taken.actionOf? number = none := by
        cases taken with
        | member other action =>
          refine if_neg fun same => own ⟨action, ?_⟩
          rw [same]
        | _ => rfl
      cases there : before.members[number]? with
      | some old =>
        obtain ⟨service, goesOn, stays⟩ := moves.member_goesOn there
        obtain rfl := Option.some.inj (here.symm.trans goesOn)
        rcases stays with rfl | ⟨action, _, acted, _⟩
        · obtain ⟨course, said, went⟩ := follows.present number old there
          exact ⟨course, said, went.goesOn moves ((separate.known number old there).1 .shared) idle⟩
        · exact absurd ⟨action, acted⟩ own
      | none =>
        rcases moves.member_cameFrom here with ⟨service, old⟩ | ⟨_, newcomer⟩
        · rw [there] at old
          cases old
        · refine ⟨[], [], ?_, ?_, fun action among => by cases among⟩
          · rw [actionsOf_snoc, idle, follows.absent number there]
            rfl
          · rw [newcomer.fresh]
            rfl

/-- In every run of a fleet each member follows a run of its own. -/
theorem follows_of_run (ran : ({} : Fleet).run machine steps = some (fleet, entries)) : Follows steps fleet := by
  refine history_induction (motive := Follows) ?_ ?_ ran
  · exact ⟨fun _ _ => rfl, fun number member here => by cases here⟩
  · intro steps taken before after said entries reached moves follows
    obtain ⟨separate, faithful⟩ := separate_of_run reached
    exact follows.move separate faithful moves

/-- The services of a fleet are sound. -/
theorem sound_of_run (ran : ({} : Fleet).run machine steps = some (fleet, entries))
    (here : fleet.members[number]? = some member) : member.service.Sound := by
  obtain ⟨course, effects, went⟩ := (follows_of_run ran).present number member here
  exact ((Service.Reachable.opened _).run went.ran).sound

end ServiceHost.Fleet

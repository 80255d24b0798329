import Mathlib.Order.Nat
import ServiceHost.Proofs.Pipeline.Chronicle

/-!
Cuts: a course under a deadline next to the same one without it. What ends in time stays as it is, anything else
is cut at the deadline, and exactly those deeds are done that are done up to the deadline without it.
-/

namespace ServiceHost

open Http Log

/-- A course lies in a scene from a millisecond on. -/
structure Course.Timely {α : Type} (course : Course α) (scene : Scene) (now : Nat) : Prop where
  start : now ≤ course.finish
  allowed : scene.allows course.finish
  /-- Only at the deadline a course is cut. -/
  cut : course.outcome = .cut → scene.deadline = some course.finish

/-- A course next to the one under a deadline: the same if it ended in time, and else cut at the deadline. -/
structure Course.CutAt {α : Type} (own : Nat) (whole cut : Course α) : Prop where
  inTime : whole.finish ≤ own → cut = whole
  late : own < whole.finish → cut.outcome = .cut ∧ cut.finish = own

/-- The scene with a deadline of its own in place of the one around it. -/
def Scene.hurried (scene : Scene) (own : Nat) : Scene :=
  { scene with deadline := some own }

/-- The deadline around a scene lies beyond a millisecond. -/
def Scene.Outlasts (scene : Scene) (own : Nat) : Prop :=
  ∀ deadline ∈ scene.deadline, own < deadline

/-- A chronicle lies in a scene from a millisecond on. -/
def Chronicle.Timely (chronicle : Chronicle) (scene : Scene) (now : Nat) : Prop :=
  ∀ moment ∈ chronicle, now ≤ moment.time ∧ scene.allows moment.time

namespace Chronicle

/-- What was done up to a millisecond, including it. -/
def upTo (chronicle : Chronicle) (own : Nat) : Chronicle :=
  chronicle.filter (·.time ≤ own)

variable {chronicle other : Chronicle} {moment : Moment} {own : Nat}

@[simp] theorem upTo_nil : upTo [] own = [] := rfl

@[simp] theorem upTo_append : upTo (chronicle ++ other) own = upTo chronicle own ++ upTo other own :=
  List.filter_append ..

theorem timely_append {scene : Scene} {now : Nat} :
    Chronicle.Timely (chronicle ++ other) scene now ↔
      Chronicle.Timely chronicle scene now ∧ Chronicle.Timely other scene now :=
  List.forall_mem_append

theorem timely_cons {scene : Scene} {now : Nat} :
    Chronicle.Timely (moment :: chronicle) scene now ↔
      (now ≤ moment.time ∧ scene.allows moment.time) ∧ Chronicle.Timely chronicle scene now :=
  List.forall_mem_cons

theorem timely_nil {scene : Scene} {now : Nat} : Chronicle.Timely [] scene now :=
  List.forall_mem_nil _

/-- What is done at once lies in the scene. -/
theorem timely_of_now {scene : Scene} {now : Nat} (atOnce : ∀ moment ∈ chronicle, moment.time = now)
    (allowed : scene.allows now) : Chronicle.Timely chronicle scene now := by
  intro moment member
  rw [atOnce moment member]
  exact ⟨le_rfl, allowed⟩

theorem upTo_cons (soon : moment.time ≤ own) : upTo (moment :: chronicle) own = moment :: upTo chronicle own :=
  List.filter_cons_of_pos (decide_eq_true soon)

theorem upTo_of_soon (soon : ∀ moment ∈ chronicle, moment.time ≤ own) : upTo chronicle own = chronicle :=
  List.filter_eq_self.mpr fun moment member => decide_eq_true (soon moment member)

theorem upTo_of_late (late : ∀ moment ∈ chronicle, own < moment.time) : upTo chronicle own = [] :=
  List.filter_eq_nil_iff.mpr fun moment member => by simpa using late moment member

end Chronicle

namespace Course

variable {α β : Type} {scene : Scene} {own now : Nat} {course whole cut : Course α} {events : List Event}
  {next other : α → Nat → Context → Course β}

theorem Timely.precede (timely : course.Timely scene now) : (course.precede events).Timely scene now :=
  ⟨timely.start, timely.allowed, timely.cut⟩

theorem timely_returned (value : α) (context : Context) (allowed : scene.allows now) :
    (returned value now context).Timely scene now :=
  ⟨le_rfl, allowed, by simp [returned]⟩

theorem Timely.andThen (first : course.Timely scene now)
    (second : ∀ value, course.outcome = .returned value →
      (next value course.finish course.context).Timely scene course.finish) :
    (course.andThen next).Timely scene now := by
  unfold Course.andThen
  cases outcome : course.outcome with
  | returned value =>
    have rest := second value outcome
    exact ⟨first.start.trans rest.start, rest.allowed, rest.cut⟩
  | panicked panic => exact ⟨first.start, first.allowed, by simp⟩
  | cut => exact ⟨first.start, first.allowed, fun _ => first.cut outcome⟩

theorem CutAt.precede (cuts : whole.CutAt own cut) : (whole.precede events).CutAt own (cut.precede events) :=
  ⟨fun soon => congrArg (Course.precede events) (cuts.inTime soon), cuts.late⟩

theorem CutAt.rfl (soon : course.finish ≤ own) : course.CutAt own course :=
  ⟨fun _ => Eq.refl course, fun late => absurd soon (Nat.not_le.mpr late)⟩

/-- One course and then another is cut in the first or in the second. -/
theorem CutAt.andThen (first : whole.CutAt own cut)
    (second : ∀ value, whole.outcome = .returned value → whole.finish ≤ own →
      (next value whole.finish whole.context).CutAt own (other value whole.finish whole.context))
    (later : ∀ value, whole.outcome = .returned value →
      whole.finish ≤ (next value whole.finish whole.context).finish) :
    (whole.andThen next).CutAt own (cut.andThen other) := by
  rcases Nat.lt_or_ge own whole.finish with late | soon
  · obtain ⟨outcome, finish⟩ := first.late late
    have beyond : own < (whole.andThen next).finish := by
      unfold Course.andThen
      cases returned : whole.outcome with
      | returned value => exact late.trans_le (later value returned)
      | panicked | cut => exact late
    refine ⟨fun soon => absurd soon (Nat.not_le.mpr beyond), fun _ => ?_⟩
    simp [Course.andThen, outcome, finish]
  · rw [first.inTime soon]
    unfold Course.andThen
    cases outcome : whole.outcome with
    | returned value => exact (second value outcome soon).precede
    | panicked | cut => exact .rfl soon

end Course

namespace Scene

variable {α : Type} {scene : Scene} {acts : List Act} {now own : Nat} {context : Context}

theorem allows_iff {time : Nat} : scene.allows time ↔ ∀ deadline ∈ scene.deadline, time ≤ deadline := by
  unfold allows
  cases scene.deadline <;> simp

theorem Outlasts.allows (outlasts : scene.Outlasts own) (soon : now ≤ own) : scene.allows now :=
  allows_iff.mpr fun deadline around => soon.trans (outlasts deadline around).le

theorem allows_hurried {time : Nat} : (scene.hurried own).allows time ↔ time ≤ own := by
  simp [allows, hurried]

theorem timely_perform (acts : List Act) (context : Context) (allowed : scene.allows now) :
    (scene.perform acts now context).Timely scene now := by
  induction acts generalizing now context with
  | nil => exact Course.timely_returned () context allowed
  | cons act acts inductionHypothesis =>
    cases act with
    | note | log => exact (inductionHypothesis context allowed).precede
    | change change => exact inductionHypothesis (change context) allowed
    | rest millis =>
      rw [perform]
      split
      · rename_i further
        have rest := inductionHypothesis context further
        exact ⟨(Nat.le_add_right now millis).trans rest.start, rest.allowed, rest.cut⟩
      · rename_i stopped
        cases around : scene.deadline with
        | none => exact absurd (by simp [allows, around]) stopped
        | some deadline =>
          refine ⟨?_, ?_, fun _ => around⟩
          · exact allows_iff.mp allowed deadline around
          · simp [allows, around]

theorem timely_run (process : Process α) (context : Context) (allowed : scene.allows now) :
    (scene.run process now context).Timely scene now := by
  apply (timely_perform process.acts context allowed).andThen
  intro _ _
  have ended := (timely_perform process.acts context allowed).allowed
  cases process.result with
  | ok value => exact Course.timely_returned value _ ended
  | error panic => exact ⟨le_rfl, ended, by simp⟩

theorem time_of_mem_logged {entry : Entry} :
    ∀ moment ∈ (scene.logged now entry).map Moment.ofEvent, moment.time = now := by
  refine List.forall_mem_map.mpr fun event member => ?_
  obtain ⟨record, rfl⟩ := exists_record_of_mem_logged member
  rfl

theorem time_of_mem_loggedAll {entries : List Entry} :
    ∀ moment ∈ (scene.loggedAll now entries).map Moment.ofEvent, moment.time = now := by
  refine List.forall_mem_map.mpr fun event member => ?_
  obtain ⟨record, rfl⟩ := exists_record_of_mem_loggedAll member
  rfl

theorem timely_deeds (allowed : scene.allows now) : Chronicle.Timely (scene.deeds acts now) scene now := by
  induction acts generalizing now with
  | nil => exact Chronicle.timely_nil
  | cons act acts inductionHypothesis =>
    cases act with
    | note | change => exact Chronicle.timely_cons.mpr ⟨⟨le_rfl, allowed⟩, inductionHypothesis allowed⟩
    | log entry =>
      exact Chronicle.timely_append.mpr
        ⟨Chronicle.timely_of_now time_of_mem_logged allowed, inductionHypothesis allowed⟩
    | rest millis =>
      rw [deeds]
      split
      · rename_i further
        intro moment member
        obtain ⟨later, inside⟩ := inductionHypothesis further moment member
        exact ⟨by omega, inside⟩
      · exact Chronicle.timely_nil

theorem cutAt_perform (outlasts : scene.Outlasts own) (soon : now ≤ own) :
    (scene.perform acts now context).CutAt own ((scene.hurried own).perform acts now context) := by
  induction acts generalizing now context with
  | nil => exact .rfl soon
  | cons act acts inductionHypothesis =>
    cases act with
    | note | log => exact (inductionHypothesis soon).precede
    | change change => exact inductionHypothesis soon
    | rest millis =>
      rcases Nat.lt_or_ge own (now + millis) with late | inTime
      · have stopped : ¬(scene.hurried own).allows (now + millis) := by
          rw [allows_hurried]
          exact Nat.not_le.mpr late
        have beyond : own < (scene.perform (.rest millis :: acts) now context).finish := by
          rw [perform]
          split
          · exact late.trans_le (timely_perform acts context ‹_›).start
          · rename_i halted
            cases around : scene.deadline with
            | none => exact absurd (by simp [allows, around]) halted
            | some deadline => exact outlasts deadline around
        refine ⟨fun ended => absurd ended (Nat.not_le.mpr beyond), fun _ => ?_⟩
        rw [perform, if_neg stopped]
        exact ⟨rfl, rfl⟩
      · rw [perform, perform, if_pos (outlasts.allows inTime), if_pos (allows_hurried.mpr inTime)]
        exact inductionHypothesis inTime

theorem cutAt_run (process : Process α) (context : Context) (outlasts : scene.Outlasts own) (soon : now ≤ own) :
    (scene.run process now context).CutAt own ((scene.hurried own).run process now context) := by
  apply (cutAt_perform outlasts soon).andThen
  · intro _ _ inTime
    cases process.result <;> exact .rfl inTime
  · intro _ _
    cases process.result <;> exact le_rfl

/-- Under a deadline a scene does what it does without it up to the deadline. -/
theorem deeds_hurried (outlasts : scene.Outlasts own) (soon : now ≤ own) :
    (scene.hurried own).deeds acts now = Chronicle.upTo (scene.deeds acts now) own := by
  induction acts generalizing now with
  | nil => rfl
  | cons act acts inductionHypothesis =>
    cases act with
    | note label =>
      rw [deeds, deeds, inductionHypothesis soon]
      exact (Chronicle.upTo_cons soon).symm
    | log entry =>
      have logged : Chronicle.upTo ((scene.logged now entry).map Moment.ofEvent) own =
          (scene.logged now entry).map Moment.ofEvent := by
        apply Chronicle.upTo_of_soon
        intro moment member
        rwa [time_of_mem_logged moment member]
      rw [deeds, deeds, inductionHypothesis soon, Chronicle.upTo_append, logged]
      rfl
    | change change =>
      rw [deeds, deeds, inductionHypothesis soon]
      exact (Chronicle.upTo_cons soon).symm
    | rest millis =>
      rcases Nat.lt_or_ge own (now + millis) with late | inTime
      · have stopped : ¬(scene.hurried own).allows (now + millis) := by
          rw [allows_hurried]
          exact Nat.not_le.mpr late
        rw [deeds, deeds, if_neg stopped]
        split
        · rename_i further
          symm
          apply Chronicle.upTo_of_late
          exact fun moment member => late.trans_le (timely_deeds further moment member).1
        · rfl
      · rw [deeds, deeds, if_pos (outlasts.allows inTime), if_pos (allows_hurried.mpr inTime)]
        exact inductionHypothesis inTime

/-- A deadline within a later one takes effect. -/
theorem within_of_allows {scene : Scene} (allowed : scene.allows own) : scene.within own = scene.hurried own :=
  if_pos allowed

theorem within_of_not_allows {scene : Scene} (refused : ¬scene.allows own) : scene.within own = scene :=
  if_neg refused

/-- A deadline and the one around it both count. -/
theorem allows_within {time : Nat} : (scene.within own).allows time ↔ scene.allows time ∧ time ≤ own := by
  by_cases allowed : scene.allows own
  · rw [within_of_allows allowed, allows_hurried]
    refine ⟨fun soon => ⟨?_, soon⟩, And.right⟩
    exact allows_iff.mpr fun deadline around => soon.trans (allows_iff.mp allowed deadline around)
  · rw [within_of_not_allows allowed]
    refine ⟨fun inside => ⟨inside, ?_⟩, And.left⟩
    by_contra late
    apply allowed
    exact allows_iff.mpr fun deadline around => (Nat.le_of_not_le late).trans (allows_iff.mp inside deadline around)

/-- A later deadline changes nothing under an earlier one. -/
theorem within_hurried_of_lt {limit : Nat} (later : own < limit) :
    (scene.hurried own).within limit = (scene.within limit).hurried own := by
  have refused : ¬(scene.hurried own).allows limit := by
    rw [allows_hurried]
    omega
  rw [within_of_not_allows refused, within]
  split <;> rfl

/-- Under an earlier deadline a later one around it does not matter. -/
theorem within_hurried_of_le {limit : Nat} (outlasts : scene.Outlasts own) (earlier : limit ≤ own) :
    (scene.hurried own).within limit = scene.within limit := by
  rw [within_of_allows (allows_hurried.mpr earlier), within_of_allows (outlasts.allows earlier)]
  rfl

theorem Outlasts.within {limit : Nat} (outlasts : scene.Outlasts own) (later : own < limit) :
    (scene.within limit).Outlasts own := by
  unfold Scene.within
  split
  · rintro _ ⟨⟩
    exact later
  · exact outlasts

theorem Outlasts.not_cut {course : Course α} (outlasts : scene.Outlasts own) (timely : course.Timely scene now)
    (soon : course.finish ≤ own) : course.outcome ≠ .cut := by
  intro cut
  have := outlasts _ (timely.cut cut)
  omega

/-- A deadline that did not cut its inner part leaves it alone. -/
theorem expire_of_uncut {args : RouteArgs} {limit : Duration} {inner : Course Response}
    (uncut : inner.outcome ≠ .cut) : scene.expire args limit inner = inner := by
  unfold expire
  split
  · contradiction
  · rfl

theorem expire_of_cut {args : RouteArgs} {limit : Duration} {inner : Course Response}
    (cut : inner.outcome = .cut) : scene.expire args limit inner =
      ⟨.returned (deadlineAnswer scene.world.clock inner.context).response, inner.finish, inner.context,
        inner.events ++ scene.loggedAll inner.finish
          (deadlineEntry args limit :: (deadlineAnswer scene.world.clock inner.context).entries)⟩ := by
  unfold expire
  rw [cut]

theorem finish_expire {args : RouteArgs} {limit : Duration} {inner : Course Response} :
    (scene.expire args limit inner).finish = inner.finish := by
  unfold expire
  split <;> rfl

end Scene

section Expiry

variable {scene : Scene} {args : RouteArgs} {limit : Duration} {own now : Nat} {inner cut : Course Response}

/-- With the answer of its deadline a course lies in the scene around the deadline. -/
theorem Course.Timely.expire (timely : inner.Timely (scene.within own) now) :
    (scene.expire args limit inner).Timely scene now := by
  have around := (Scene.allows_within.mp timely.allowed).1
  refine ⟨timely.start.trans_eq Scene.finish_expire.symm, by rwa [Scene.finish_expire], fun cut => ?_⟩
  rcases scene.expire_cases args limit inner with ⟨uncut, stays⟩ | ⟨response, entries, answers⟩
  · rw [stays] at cut
    contradiction
  · rw [answers] at cut
    cases cut

/-- Under an earlier deadline it does not matter whether a later one has its answer. -/
theorem Course.CutAt.expire (cuts : inner.CutAt own cut) (uncut : inner.finish ≤ own → inner.outcome ≠ .cut) :
    (scene.expire args limit inner).CutAt own cut := by
  refine ⟨fun inTime => ?_, fun late => cuts.late (late.trans_eq Scene.finish_expire)⟩
  rw [Scene.finish_expire] at inTime
  rw [Scene.expire_of_uncut (uncut inTime)]
  exact cuts.inTime inTime

end Expiry

namespace Station

/-- The station with a deadline of its own in place of the one around it. -/
def hurried (station : Station) (own : Nat) : Station :=
  { station with scene := station.scene.hurried own }

variable {args : RouteArgs} {handler : Handler} {station next : Station} {own : Nat} {limit : Duration}
  {stage : CallerStage} {rest : List Stage}

/-- A run lies in the scene in which it starts, and ends by the deadline around it. -/
theorem timely_course (args : RouteArgs) (handler : Handler) (allowed : station.scene.allows station.now) :
    (station.course args handler).Timely station.scene station.now := by
  induction station using inward_induction args with
  | step station inductionHypothesis =>
  cases stages : station.stages with
  | nil =>
    rw [course_handler stages]
    have handled := Scene.timely_run
      (handler ⟨station.scene.world, station.context, station.request⟩) station.context allowed
    exact ⟨handled.start, handled.allowed, handled.cut⟩
  | cons stage rest =>
    cases stage with
    | caller stage =>
      have entered : (station.entered args stage rest).Timely station.scene station.now :=
        Scene.timely_run _ _ allowed
      rw [course_caller stages]
      apply entered.andThen
      intro verdict outcome
      cases verdict with
      | answer response => exact Course.timely_returned response _ entered.allowed
      | proceed request after =>
        have inner := inductionHypothesis _ (.caller stages outcome) entered.allowed
        exact inner.andThen fun _ _ => Scene.timely_run _ _ inner.allowed
    | logging =>
      obtain ⟨dump, course_eq⟩ := course_logging handler stages
      have recorded := inductionHypothesis _ (.logging stages) allowed
      have inner : ((station.recorded args rest).course args handler).Timely station.scene station.now :=
        ⟨recorded.start, recorded.allowed, recorded.cut⟩
      rw [course_eq]
      apply inner.andThen
      intro response _
      exact (Course.timely_returned _ _ inner.allowed).precede
    | timeout limit =>
      have reaches := Scene.allows_within.mpr ⟨allowed, Nat.le_add_right station.now limit.timerMillis⟩
      have inner : ((station.limited limit rest).course args handler).Timely
          (station.scene.within (station.now + limit.timerMillis)) station.now :=
        inductionHypothesis _ (.timeout stages) reaches
      rw [course_timeout stages]
      split
      · exact inner.expire
      · rename_i refused
        rwa [Scene.within_of_not_allows refused] at inner
    | instrument =>
      have inner := inductionHypothesis _ (.instrument stages) allowed
      rw [course_instrument stages]
      exact ⟨inner.start, inner.allowed, inner.cut⟩

theorem finish_limited_le (args : RouteArgs) (handler : Handler) (limit : Duration) (rest : List Stage)
    (allowed : station.scene.allows station.now) :
    ((station.limited limit rest).course args handler).finish ≤ station.now + limit.timerMillis := by
  have reaches := Scene.allows_within.mpr ⟨allowed, Nat.le_add_right station.now limit.timerMillis⟩
  have inner : ((station.limited limit rest).course args handler).Timely
      (station.scene.within (station.now + limit.timerMillis)) station.now :=
    timely_course args handler reaches
  exact (Scene.allows_within.mp inner.allowed).2

/-- A station that is hurried by a deadline hurries the next ones, save behind an earlier deadline. -/
theorem limited_hurried_of_lt (later : own < station.now + limit.timerMillis) :
    (station.hurried own).limited limit rest = (station.limited limit rest).hurried own := by
  simp only [limited, hurried, Scene.within_hurried_of_lt later]

theorem limited_hurried_of_le (outlasts : station.scene.Outlasts own)
    (earlier : station.now + limit.timerMillis ≤ own) :
    (station.hurried own).limited limit rest = station.limited limit rest := by
  simp only [limited, hurried, Scene.within_hurried_of_le outlasts earlier]

/-- A run under a deadline is the run without it, cut at the deadline. -/
theorem cutAt_course (args : RouteArgs) (handler : Handler)
    (outlasts : station.scene.Outlasts own) (soon : station.now ≤ own) :
    (station.course args handler).CutAt own ((station.hurried own).course args handler) := by
  induction station using inward_induction args with
  | step station inductionHypothesis =>
  cases stages : station.stages with
  | nil =>
    have hurriedStages : (station.hurried own).stages = [] := stages
    have cuts := Scene.cutAt_run
      (handler ⟨station.scene.world, station.context, station.request⟩) station.context outlasts soon
    rw [course_handler stages, course_handler hurriedStages]
    exact ⟨fun inTime => congrArg (fun course => { course with context := station.context }) (cuts.inTime inTime),
      cuts.late⟩
  | cons stage rest =>
    have hurriedStages : (station.hurried own).stages = stage :: rest := stages
    have starts : station.scene.allows station.now := outlasts.allows soon
    cases stage with
    | caller stage =>
      have entered : (station.entered args stage rest).Timely station.scene station.now :=
        Scene.timely_run _ _ starts
      rw [course_caller stages, course_caller hurriedStages]
      apply (Scene.cutAt_run _ _ outlasts soon).andThen
      · intro verdict outcome inTime
        cases verdict with
        | answer response => exact .rfl inTime
        | proceed request after =>
          have inner := inductionHypothesis _ (.caller stages outcome) outlasts inTime
          apply inner.andThen
          · exact fun response _ ended => Scene.cutAt_run _ _ outlasts ended
          · have reaches : (station.behind args stage rest request).scene.allows
                (station.behind args stage rest request).now := entered.allowed
            have allowed := (timely_course args handler reaches).allowed
            exact fun response _ => (Scene.timely_run _ _ allowed).start
      · intro verdict outcome
        cases verdict with
        | answer response => exact le_rfl
        | proceed request after =>
          have reaches : (station.behind args stage rest request).scene.allows
              (station.behind args stage rest request).now := entered.allowed
          have inner := timely_course args handler reaches
          exact (inner.andThen fun _ _ => Scene.timely_run _ _ inner.allowed).start
    | logging =>
      have inner := inductionHypothesis _ (.logging stages) outlasts soon
      rw [course, stages, runChain, course, hurriedStages, runChain]
      apply Course.CutAt.andThen inner
      · intro response _ ended
        exact .rfl ended
      · intro response _
        exact le_rfl
    | timeout limit =>
      rw [course_timeout stages, course_timeout hurriedStages]
      rcases Nat.lt_or_ge own (station.now + limit.timerMillis) with later | earlier
      · have around : (station.limited limit rest).scene.Outlasts own := outlasts.within later
        have inner := inductionHypothesis _ (.timeout stages) around soon
        have timely := timely_course args handler (around.allows soon)
        have refused : ¬(station.hurried own).scene.allows ((station.hurried own).now + limit.timerMillis) := by
          rw [hurried, Scene.allows_hurried]
          exact Nat.not_le.mpr later
        rw [if_neg refused, limited_hurried_of_lt later]
        split
        · exact inner.expire (around.not_cut timely)
        · exact inner
      · have allowed : station.scene.allows (station.now + limit.timerMillis) := outlasts.allows earlier
        have hurriedAllowed :
            (station.hurried own).scene.allows ((station.hurried own).now + limit.timerMillis) :=
          Scene.allows_hurried.mpr earlier
        rw [if_pos allowed, if_pos hurriedAllowed, limited_hurried_of_le outlasts earlier]
        apply Course.CutAt.rfl
        rw [Scene.finish_expire]
        exact (finish_limited_le args handler limit rest starts).trans earlier
    | instrument =>
      have inner := inductionHypothesis _ (.instrument stages) outlasts soon
      rw [course_instrument stages, course_instrument hurriedStages]
      refine ⟨fun inTime => ?_, inner.late⟩
      have same : ((station.hurried own).measured rest).course args handler =
          (station.measured rest).course args handler := inner.inTime inTime
      rw [same]
      rfl

end Station

end ServiceHost

import Mathlib.Data.List.Basic
import ServiceHost.Handlers
import ServiceHost.Proofs.Pipeline.Cut

/-!
Deadlines: which of the deadlines around a run decides, and what then remains of the run. What ends in time is
left alone. Of anything else exactly the deeds up to the deadline remain, the measured passes that were open end
without an answer, and the deadline answers in place of the rest.
-/

namespace ServiceHost

open Http Log

namespace Moment

/-- A measured pass begins at the moment. -/
def begins (moment : Moment) : Bool :=
  match moment.deed with
  | .shows .began => true
  | _ => false

/-- A measured pass ends at the moment. -/
def ends (moment : Moment) : Bool :=
  match moment.deed with
  | .shows (.ended _ _) => true
  | _ => false

end Moment

namespace Chronicle

/-- The number of measured passes that begin. -/
def begun (chronicle : Chronicle) : Nat :=
  chronicle.countP Moment.begins

/-- The number of measured passes that end. -/
def ended (chronicle : Chronicle) : Nat :=
  chronicle.countP Moment.ends

variable {chronicle other : Chronicle} {moment : Moment}

@[simp] theorem begun_append : begun (chronicle ++ other) = begun chronicle + begun other :=
  List.countP_append

@[simp] theorem ended_append : ended (chronicle ++ other) = ended chronicle + ended other :=
  List.countP_append

/-- No measured pass begins or ends. -/
def Unmeasured (chronicle : Chronicle) : Prop :=
  ∀ moment ∈ chronicle, moment.begins = false ∧ moment.ends = false

theorem unmeasured_nil : Unmeasured [] :=
  List.forall_mem_nil _

theorem unmeasured_cons :
    Unmeasured (moment :: chronicle) ↔ (moment.begins = false ∧ moment.ends = false) ∧ Unmeasured chronicle :=
  List.forall_mem_cons

theorem Unmeasured.begun_ended (unmeasured : Unmeasured chronicle) : begun chronicle = 0 ∧ ended chronicle = 0 := by
  constructor
  · exact List.countP_eq_zero.mpr fun moment member => by simp [(unmeasured moment member).1]
  · exact List.countP_eq_zero.mpr fun moment member => by simp [(unmeasured moment member).2]

end Chronicle

theorem Scene.unmeasured_logged {scene : Scene} {now : Nat} {entry : Entry} :
    Chronicle.Unmeasured ((scene.logged now entry).map Moment.ofEvent) := by
  refine List.forall_mem_map.mpr fun event member => ?_
  obtain ⟨record, rfl⟩ := exists_record_of_mem_logged member
  exact ⟨rfl, rfl⟩

theorem Scene.unmeasured_loggedAll {scene : Scene} {now : Nat} {entries : List Entry} :
    Chronicle.Unmeasured ((scene.loggedAll now entries).map Moment.ofEvent) := by
  refine List.forall_mem_map.mpr fun event member => ?_
  obtain ⟨record, rfl⟩ := exists_record_of_mem_loggedAll member
  exact ⟨rfl, rfl⟩

/-- A process begins and ends no measured pass. -/
theorem Scene.unmeasured_deeds {scene : Scene} {acts : List Act} {now : Nat} :
    Chronicle.Unmeasured (scene.deeds acts now) := by
  rintro ⟨time, deed⟩ member
  cases isAct_of_mem_deeds _ member with
  | note | record | change => exact ⟨rfl, rfl⟩

namespace Station

variable {args : RouteArgs} {handler : Handler} {outset station next : Station} {own : Nat} {limit : Duration}
  {stage : CallerStage} {rest : List Stage} {inner cut : Course Response}

/-- The number of measured passes that the first stage of a station begins. -/
def passes (station : Station) : Nat :=
  match station.stages with
  | .instrument :: _ => 1
  | _ => 0

/-- A stage that does not measure begins and ends no pass. -/
theorem unmeasured_entering (args : RouteArgs) (handler : Handler) (other : station.passes = 0) :
    Chronicle.Unmeasured (station.entering args handler) := by
  unfold passes at other
  unfold entering
  cases stages : station.stages with
  | nil =>
    refine Chronicle.unmeasured_cons.mpr ⟨⟨rfl, rfl⟩, fun moment member => ?_⟩
    exact Scene.unmeasured_deeds moment (List.mem_filter.mp member).1
  | cons stage rest =>
    cases stage with
    | caller stage => exact Chronicle.unmeasured_cons.mpr ⟨⟨rfl, rfl⟩, Scene.unmeasured_deeds⟩
    | logging => exact Chronicle.unmeasured_cons.mpr ⟨⟨rfl, rfl⟩, List.forall_mem_singleton.mpr ⟨rfl, rfl⟩⟩
    | timeout limit => exact List.forall_mem_singleton.mpr ⟨rfl, rfl⟩
    | instrument => simp [stages] at other

theorem unmeasured_leaving (args : RouteArgs) (inner : Course Response) (other : station.passes = 0) :
    Chronicle.Unmeasured (station.leaving args inner) := by
  unfold passes at other
  unfold leaving
  cases stages : station.stages with
  | nil => exact Chronicle.unmeasured_nil
  | cons stage rest =>
    cases stage with
    | caller stage =>
      cases inner.outcome with
      | returned response => exact Chronicle.unmeasured_cons.mpr ⟨⟨rfl, rfl⟩, Scene.unmeasured_deeds⟩
      | panicked | cut => exact Chronicle.unmeasured_nil
    | logging =>
      cases inner.outcome with
      | returned response => exact Chronicle.unmeasured_cons.mpr ⟨⟨rfl, rfl⟩, Scene.unmeasured_logged⟩
      | panicked | cut => exact Chronicle.unmeasured_nil
    | timeout limit =>
      cases inner.outcome with
      | returned response => exact List.forall_mem_singleton.mpr ⟨rfl, rfl⟩
      | panicked panic => exact Chronicle.unmeasured_nil
      | cut =>
        dsimp only
        split
        · exact Scene.unmeasured_loggedAll
        · exact Chronicle.unmeasured_nil
    | instrument => simp [stages] at other

/-- Either the first stage of a station measures or it begins and ends no pass. -/
theorem passes_cases (station : Station) :
    station.passes = 0 ∨ station.passes = 1 ∧ ∃ rest, station.stages = .instrument :: rest := by
  unfold passes
  cases stages : station.stages with
  | nil => exact .inl rfl
  | cons stage rest =>
    cases stage with
    | instrument => exact .inr ⟨rfl, rest, rfl⟩
    | caller | logging | timeout => exact .inl rfl

theorem begun_ended_entering (station : Station) (args : RouteArgs) (handler : Handler) :
    Chronicle.begun (station.entering args handler) = station.passes ∧
      Chronicle.ended (station.entering args handler) = 0 := by
  rcases station.passes_cases with other | ⟨measures, rest, first⟩
  · rw [other]
    exact (unmeasured_entering args handler other).begun_ended
  · rw [measures, entering, first]
    exact ⟨rfl, rfl⟩

theorem begun_ended_leaving (station : Station) (args : RouteArgs) (inner : Course Response) :
    Chronicle.begun (station.leaving args inner) = 0 ∧
      Chronicle.ended (station.leaving args inner) = station.passes := by
  rcases station.passes_cases with other | ⟨measures, rest, first⟩
  · rw [other]
    exact (unmeasured_leaving args inner other).begun_ended
  · rw [measures, leaving, first]
    cases inner.outcome <;> exact ⟨rfl, rfl⟩

/-- As many measured passes end as begin. -/
theorem begun_eq_ended (station : Station) (args : RouteArgs) (handler : Handler) :
    Chronicle.begun (station.chronicle args handler) = Chronicle.ended (station.chronicle args handler) := by
  induction station using inward_induction args with
  | step station inductionHypothesis =>
  obtain ⟨entering_begun, entering_ended⟩ := begun_ended_entering station args handler
  cases goesOn : station.next? args with
  | none =>
    have none : station.passes = 0 := station.passes_cases.resolve_right fun ⟨_, rest, first⟩ => by
      simp [next?, first] at goesOn
    rw [chronicle_of_none goesOn, entering_begun, entering_ended, none]
  | some next =>
    obtain ⟨leaving_begun, leaving_ended⟩ := begun_ended_leaving station args (next.course args handler)
    have inner := inductionHypothesis next (inward_of_next? goesOn)
    simp only [chronicle_of_some goesOn, Chronicle.begun_append, Chronicle.ended_append]
    omega

theorem timely_entering (args : RouteArgs) (handler : Handler) (allowed : station.scene.allows station.now) :
    Chronicle.Timely (station.entering args handler) station.scene station.now := by
  have here : station.now ≤ station.now ∧ station.scene.allows station.now := ⟨le_rfl, allowed⟩
  refine Chronicle.timely_cons.mpr ⟨here, ?_⟩
  cases stages : station.stages with
  | nil => exact fun moment member => Scene.timely_deeds allowed moment (List.mem_filter.mp member).1
  | cons stage rest =>
    cases stage with
    | caller stage => exact Scene.timely_deeds allowed
    | logging | instrument => exact Chronicle.timely_cons.mpr ⟨here, Chronicle.timely_nil⟩
    | timeout limit => exact Chronicle.timely_nil

theorem timely_leaving (args : RouteArgs) (allowed : station.scene.allows inner.finish) :
    Chronicle.Timely (station.leaving args inner) station.scene inner.finish := by
  have here : inner.finish ≤ inner.finish ∧ station.scene.allows inner.finish := ⟨le_rfl, allowed⟩
  unfold leaving
  cases stages : station.stages with
  | nil => exact Chronicle.timely_nil
  | cons stage rest =>
    cases outcome : inner.outcome with
    | returned response =>
      cases stage with
      | caller stage => exact Chronicle.timely_cons.mpr ⟨here, Scene.timely_deeds allowed⟩
      | logging =>
        exact Chronicle.timely_cons.mpr ⟨here, Chronicle.timely_of_now Scene.time_of_mem_logged allowed⟩
      | timeout limit => exact Chronicle.timely_cons.mpr ⟨here, Chronicle.timely_nil⟩
      | instrument =>
        exact Chronicle.timely_cons.mpr ⟨here, Chronicle.timely_cons.mpr ⟨here, Chronicle.timely_nil⟩⟩
    | panicked panic =>
      cases stage with
      | caller | logging | timeout => exact Chronicle.timely_nil
      | instrument => exact Chronicle.timely_cons.mpr ⟨here, Chronicle.timely_nil⟩
    | cut =>
      cases stage with
      | caller | logging => exact Chronicle.timely_nil
      | timeout limit =>
        dsimp only
        split
        · exact Chronicle.timely_of_now Scene.time_of_mem_loggedAll allowed
        · exact Chronicle.timely_nil
      | instrument => exact Chronicle.timely_cons.mpr ⟨here, Chronicle.timely_nil⟩

/-- A deadline that elapsed makes its answer at once. -/
theorem time_of_mem_leaving (first : station.stages = .timeout limit :: rest) :
    ∀ moment ∈ station.leaving args inner, moment.time = inner.finish := by
  unfold leaving
  rw [first]
  cases inner.outcome with
  | returned response => exact List.forall_mem_singleton.mpr rfl
  | panicked panic => exact List.forall_mem_nil _
  | cut =>
    dsimp only
    split
    · exact Scene.time_of_mem_loggedAll
    · exact List.forall_mem_nil _

/-- A run does not end before its inner part. -/
theorem le_finish_back (args : RouteArgs) (allowed : station.scene.allows inner.finish) :
    inner.finish ≤ (station.back args inner).finish := by
  unfold back
  cases station.stages with
  | nil => exact le_rfl
  | cons stage rest =>
    cases stage with
    | caller stage =>
      dsimp only
      unfold Course.andThen
      cases inner.outcome with
      | returned response => exact (Scene.timely_run _ _ allowed).start
      | panicked | cut => exact le_rfl
    | logging =>
      dsimp only
      unfold Course.andThen
      cases inner.outcome <;> exact le_rfl
    | timeout limit =>
      dsimp only
      split
      · exact Scene.finish_expire.ge
      · exact le_rfl
    | instrument => exact le_rfl

/-- Time goes on from station to station, and no deadline around a station is given up behind it. -/
theorem timely_next (allowed : station.scene.allows station.now) (goesOn : station.next? args = some next) :
    station.now ≤ next.now ∧ next.scene.allows next.now ∧
      ∀ time, next.scene.allows time → station.scene.allows time := by
  cases inward_of_next? goesOn with
  | @caller stage rest _ _ first proceeds =>
    have entered : (station.entered args stage rest).Timely station.scene station.now :=
      Scene.timely_run _ _ allowed
    exact ⟨entered.start, entered.allowed, fun _ => id⟩
  | logging first => exact ⟨le_rfl, allowed, fun _ => id⟩
  | timeout first =>
    rename_i limit rest
    refine ⟨le_rfl, ?_, fun time inside => ?_⟩
    · exact Scene.allows_within.mpr ⟨allowed, Nat.le_add_right ..⟩
    · exact (Scene.allows_within.mp inside).1
  | instrument first => exact ⟨le_rfl, allowed, fun _ => id⟩

/-- All that a run does lies within its scene. -/
theorem timely_chronicle (args : RouteArgs) (handler : Handler) (allowed : station.scene.allows station.now) :
    Chronicle.Timely (station.chronicle args handler) station.scene station.now := by
  induction station using inward_induction args with
  | step station inductionHypothesis =>
  have entering := timely_entering args handler allowed
  cases goesOn : station.next? args with
  | none =>
    rw [chronicle_of_none goesOn]
    exact entering
  | some next =>
    obtain ⟨later, reaches, around⟩ := timely_next allowed goesOn
    have inner := inductionHypothesis next (inward_of_next? goesOn) reaches
    have course := timely_course args handler reaches
    have leaving := timely_leaving args (around _ course.allowed)
    rw [chronicle_of_some goesOn, Chronicle.timely_append, Chronicle.timely_append]
    refine ⟨entering, fun moment member => ?_, fun moment member => ?_⟩
    · have inside := inner moment member
      exact ⟨by omega, around _ inside.2⟩
    · have inside := leaving moment member
      have start := course.start
      exact ⟨by omega, inside.2⟩

/-- Under a deadline a stage does with the request what it does without it up to the deadline. -/
theorem entering_hurried (args : RouteArgs) (handler : Handler)
    (outlasts : station.scene.Outlasts own) (soon : station.now ≤ own) :
    (station.hurried own).entering args handler = Chronicle.upTo (station.entering args handler) own := by
  have same : (station.hurried own).stages = station.stages := rfl
  rw [entering, entering, same, Chronicle.upTo_cons soon]
  apply congrArg (_ :: ·)
  cases stages : station.stages with
  | nil =>
    simp only [hurried, Scene.deeds_hurried outlasts soon, Chronicle.upTo]
    exact List.filter_comm ..
  | cons stage rest =>
    cases stage with
    | caller stage => exact Scene.deeds_hurried outlasts soon
    | logging | instrument => exact (Chronicle.upTo_of_soon (List.forall_mem_singleton.mpr soon)).symm
    | timeout limit => rfl

/-- Behind an inner part that ended in time, a stage does up to the deadline what it does without it. -/
theorem leaving_hurried (outlasts : station.scene.Outlasts own) (soon : inner.finish ≤ own)
    (uncut : inner.outcome ≠ .cut)
    (entered : ∀ stage rest, station.stages = .caller stage :: rest →
      (station.hurried own).entered args stage rest = station.entered args stage rest) :
    (station.hurried own).leaving args inner = Chronicle.upTo (station.leaving args inner) own := by
  have same : (station.hurried own).stages = station.stages := rfl
  unfold leaving
  rw [same]
  cases stages : station.stages with
  | nil => rfl
  | cons stage rest =>
    cases outcome : inner.outcome with
    | cut => exact absurd outcome uncut
    | panicked panic =>
      cases stage with
      | caller | logging | timeout => rfl
      | instrument => exact (Chronicle.upTo_of_soon (List.forall_mem_singleton.mpr soon)).symm
    | returned response =>
      cases stage with
      | caller stage =>
        have after : (station.hurried own).after args stage rest = station.after args stage rest := by
          unfold Station.after
          rw [entered stage rest stages]
        dsimp only
        rw [Chronicle.upTo_cons soon, after]
        exact congrArg (_ :: ·) (Scene.deeds_hurried outlasts soon)
      | logging =>
        dsimp only
        rw [Chronicle.upTo_cons soon, Chronicle.upTo_of_soon]
        · rfl
        · intro moment member
          rwa [Scene.time_of_mem_logged moment member]
      | timeout limit => exact (Chronicle.upTo_of_soon (List.forall_mem_singleton.mpr soon)).symm
      | instrument =>
        symm
        apply Chronicle.upTo_of_soon
        simpa using soon

/-- A measured pass that ends without an answer. -/
def lostPass (args : RouteArgs) (time : Nat) : Moment :=
  ⟨time, .shows (.ended args.endpoint none)⟩

theorem replicate_lostPass {time lost : Nat} : List.replicate lost (lostPass args time) =
    (List.replicate lost ⟨time, .ended args.endpoint none⟩).map Moment.ofEvent := by
  rw [List.map_replicate]
  rfl

theorem begun_ended_lost (args : RouteArgs) (time lost : Nat) :
    Chronicle.begun (List.replicate lost (lostPass args time)) = 0 ∧
      Chronicle.ended (List.replicate lost (lostPass args time)) = lost := by
  simp [Chronicle.begun, Chronicle.ended, List.countP_replicate, lostPass, Moment.begins, Moment.ends]

/-- Behind an inner part that was cut, a stage does nothing, save that a measured pass ends. -/
theorem leaving_cut (outcome : inner.outcome = .cut)
    (refused : ∀ limit rest, station.stages = .timeout limit :: rest →
      ¬station.scene.allows (station.now + limit.timerMillis)) :
    station.leaving args inner = List.replicate station.passes (lostPass args inner.finish) := by
  unfold leaving passes
  cases stages : station.stages with
  | nil => rfl
  | cons stage rest =>
    rw [outcome]
    cases stage with
    | caller | logging => rfl
    | timeout limit =>
      dsimp only
      rw [if_neg (refused limit rest stages)]
      rfl
    | instrument => simp [lostPass, Course.answered, outcome]

/-- The next station under a deadline, where the run goes on in time. -/
theorem next?_hurried (outlasts : station.scene.Outlasts own) (soon : station.now ≤ own)
    (goesOn : station.next? args = some next) (inTime : next.now ≤ own) :
    (∃ limit rest, station.stages = .timeout limit :: rest ∧ station.now + limit.timerMillis ≤ own) ∨
    ((station.hurried own).next? args = some (next.hurried own) ∧ next.scene.Outlasts own ∧
      (∀ stage rest, station.stages = .caller stage :: rest →
        (station.hurried own).entered args stage rest = station.entered args stage rest) ∧
      ∀ limit rest, station.stages = .timeout limit :: rest → own < station.now + limit.timerMillis) := by
  have same : (station.hurried own).stages = station.stages := rfl
  cases inward_of_next? goesOn with
  | @caller stage rest request after first proceeds =>
    have entered : (station.hurried own).entered args stage rest = station.entered args stage rest :=
      (Scene.cutAt_run _ _ outlasts soon).inTime inTime
    refine .inr ⟨?_, outlasts, ?_, ?_⟩
    · unfold next?
      rw [same, first]
      dsimp only
      rw [entered, proceeds]
      dsimp only [behind]
      rw [entered]
      rfl
    · intro stage rest stages
      rw [first] at stages
      cases stages
      exact entered
    · simp [first]
  | logging first =>
    refine .inr ⟨?_, outlasts, by simp [first], by simp [first]⟩
    simp [next?, same, first]
    rfl
  | @timeout limit rest first =>
    rcases Nat.lt_or_ge own (station.now + limit.timerMillis) with later | earlier
    · refine .inr ⟨?_, outlasts.within later, by simp [first], ?_⟩
      · simp [next?, same, first, limited_hurried_of_lt later]
      · intro limit rest stages
        rw [first] at stages
        cases stages
        exact later
    · exact .inl ⟨limit, rest, first, earlier⟩
  | instrument first =>
    refine .inr ⟨?_, outlasts, by simp [first], by simp [first]⟩
    simp [next?, same, first]
    rfl

/-- Where a run does not go on in time, it does not go on under a deadline. -/
theorem next?_hurried_of_late (outlasts : station.scene.Outlasts own) (soon : station.now ≤ own)
    (late : ∀ next, station.next? args = some next → own < next.now) :
    (station.hurried own).next? args = none := by
  have same : (station.hurried own).stages = station.stages := rfl
  have stays (next : Station) (here : next.now = station.now) : station.next? args ≠ some next := by
    intro goesOn
    have := late next goesOn
    omega
  unfold next? at *
  rw [same]
  cases stages : station.stages with
  | nil => rfl
  | cons stage rest =>
    rw [stages] at late stays
    cases stage with
    | caller stage =>
      have cuts : (station.entered args stage rest).CutAt own ((station.hurried own).entered args stage rest) :=
        Scene.cutAt_run _ _ outlasts soon
      rcases Nat.lt_or_ge own (station.entered args stage rest).finish with after | inTime
      · simp [(cuts.late after).1]
      · dsimp only at late ⊢
        rw [cuts.inTime inTime]
        cases outcome : (station.entered args stage rest).outcome with
        | returned verdict =>
          cases verdict with
          | answer response => rfl
          | proceed request after =>
            rw [outcome] at late
            have := late _ rfl
            exact absurd inTime (Nat.not_le.mpr this)
        | panicked | cut => rfl
    | logging | timeout | instrument => exact absurd rfl (stays _ rfl)

/-- Under a deadline, what lies within an earlier one is done as without it. -/
theorem chronicle_hurried_of_le (outlasts : station.scene.Outlasts own) (soon : station.now ≤ own)
    (first : station.stages = .timeout limit :: rest) (earlier : station.now + limit.timerMillis ≤ own) :
    (station.hurried own).chronicle args handler = Chronicle.upTo (station.chronicle args handler) own := by
  have goesOn : station.next? args = some (station.limited limit rest) := by
    rw [next?, first]
  have hurriedOn : (station.hurried own).next? args = some (station.limited limit rest) := by
    rw [← limited_hurried_of_le outlasts earlier, next?, hurried, first]
  have starts : station.scene.allows station.now := outlasts.allows soon
  have allowed := outlasts.allows earlier
  have reaches := (timely_next starts goesOn).2.1
  have leaving (inner : Course Response) :
      (station.hurried own).leaving args inner = station.leaving args inner := by
    have same : (station.hurried own).stages = .timeout limit :: rest := first
    have hurriedAllowed : (station.scene.hurried own).allows (station.now + limit.timerMillis) :=
      Scene.allows_hurried.mpr earlier
    unfold Station.leaving
    rw [same, first]
    cases inner.outcome with
    | returned | panicked => rfl
    | cut => exact (if_pos hurriedAllowed).trans (if_pos allowed).symm
  rw [chronicle_of_some goesOn, chronicle_of_some hurriedOn, leaving, entering_hurried args handler outlasts soon,
    Chronicle.upTo_append]
  congr 1
  symm
  apply Chronicle.upTo_of_soon
  intro moment member
  rcases List.mem_append.mp member with inside | back
  · have limited := (Scene.allows_within.mp (timely_chronicle args handler reaches moment inside).2).2
    omega
  · have ended := finish_limited_le args handler limit rest starts
    rw [time_of_mem_leaving first moment back]
    omega

/-- Under a deadline a run does what it does without it up to the deadline, and then the measured passes that
are open end. -/
theorem exists_chronicle_hurried (args : RouteArgs) (handler : Handler)
    (outlasts : station.scene.Outlasts own) (soon : station.now ≤ own) :
    ∃ lost, (station.hurried own).chronicle args handler =
        Chronicle.upTo (station.chronicle args handler) own ++ List.replicate lost (lostPass args own) ∧
      ((station.course args handler).finish ≤ own → lost = 0) := by
  induction station using inward_induction args with
  | step station inductionHypothesis =>
  have starts : station.scene.allows station.now := outlasts.allows soon
  have entering := entering_hurried args handler outlasts soon
  by_cases further : ∃ next, station.next? args = some next ∧ next.now ≤ own
  · obtain ⟨next, goesOn, inTime⟩ := further
    obtain ⟨later, reaches, around⟩ := timely_next starts goesOn
    have course := timely_course args handler reaches
    have leaving := timely_leaving args (around _ course.allowed)
    rcases next?_hurried outlasts soon goesOn inTime with
      ⟨limit, rest, stages, earlier⟩ | ⟨hurriedOn, beyond, entered, refused⟩
    · refine ⟨0, ?_, fun _ => rfl⟩
      rw [chronicle_hurried_of_le outlasts soon stages earlier, List.replicate_zero, List.append_nil]
    · obtain ⟨lost, chronicle, none⟩ := inductionHypothesis next (inward_of_next? goesOn) beyond inTime
      have cuts := cutAt_course args handler beyond inTime
      rw [chronicle_of_some goesOn, chronicle_of_some hurriedOn, entering, chronicle]
      simp only [Chronicle.upTo_append, List.append_assoc]
      rcases Nat.lt_or_ge own (next.course args handler).finish with late | ended
      · obtain ⟨outcome, finish⟩ := cuts.late late
        have nothing : Chronicle.upTo (station.leaving args (next.course args handler)) own = [] :=
          Chronicle.upTo_of_late fun moment member => late.trans_le (leaving moment member).1
        refine ⟨lost + station.passes, ?_, fun soon => absurd ?_ (Nat.not_le.mpr late)⟩
        · rw [nothing, leaving_cut outcome, finish, List.nil_append, List.replicate_add]
          · rfl
          · intro limit rest stages
            rw [hurried, Scene.allows_hurried, Nat.not_le]
            exact refused limit rest stages
        · have back := le_finish_back args (around _ course.allowed)
          rw [course_of_some goesOn] at soon
          exact back.trans soon
      · have uncut := beyond.not_cut course ended
        refine ⟨0, ?_, fun _ => rfl⟩
        rw [none ended, cuts.inTime ended, leaving_hurried outlasts ended uncut entered]
        simp
  · have late : ∀ next, station.next? args = some next → own < next.now := by
      intro next goesOn
      by_contra soon
      exact further ⟨next, goesOn, Nat.not_lt.mp soon⟩
    refine ⟨0, ?_, fun _ => rfl⟩
    rw [chronicle_of_none (next?_hurried_of_late outlasts soon late), entering, List.replicate_zero,
      List.append_nil]
    cases goesOn : station.next? args with
    | none => rw [chronicle_of_none goesOn]
    | some next =>
      obtain ⟨_, reaches, around⟩ := timely_next starts goesOn
      have course := timely_course args handler reaches
      have leaving := timely_leaving args (around _ course.allowed)
      have beyond : ∀ moment ∈ next.chronicle args handler ++ station.leaving args (next.course args handler),
          own < moment.time := by
        intro moment member
        have start := course.start
        have after := late next goesOn
        rcases List.mem_append.mp member with inside | back
        · have := (timely_chronicle args handler reaches moment inside).1
          omega
        · have := (leaving moment back).1
          omega
      rw [chronicle_of_some goesOn, Chronicle.upTo_append, Chronicle.upTo_of_late beyond, List.append_nil]

/-- A run came from an outset to a station, and these are the deadlines that lie around it, the innermost
first. -/
inductive Enclosed (args : RouteArgs) (outset : Station) : List Nat → Station → Prop where
  | outset : Enclosed args outset [] outset
  | deadline {deadlines : List Nat} {station : Station} {limit : Duration} {rest : List Stage}
      (before : Enclosed args outset deadlines station) (first : station.stages = .timeout limit :: rest) :
      Enclosed args outset ((station.now + limit.timerMillis) :: deadlines) (station.limited limit rest)
  | onward {deadlines : List Nat} {station next : Station} (before : Enclosed args outset deadlines station)
      (inward : Inward args station next) (other : ∀ limit rest, station.stages ≠ .timeout limit :: rest) :
      Enclosed args outset deadlines next

/-- The scene of a station ends with the earliest of the deadlines around it. -/
theorem Enclosed.allows_iff {deadlines : List Nat} (enclosed : Enclosed args outset deadlines station)
    (endless : outset.scene.deadline = none) (time : Nat) :
    station.scene.allows time ↔ ∀ deadline ∈ deadlines, time ≤ deadline := by
  induction enclosed with
  | outset => simp [Scene.allows, endless]
  | deadline before first inductionHypothesis =>
    rw [limited, Scene.allows_within, inductionHypothesis, List.forall_mem_cons]
    exact and_comm
  | onward before inward other inductionHypothesis =>
    rw [← inductionHypothesis]
    cases inward with
    | timeout first => exact absurd first (other _ _)
    | caller | logging | instrument => exact Iff.rfl

/-- The inner part of a station on its own, without any deadline around it. -/
def alone (station : Station) (rest : List Stage) : Station :=
  { station with stages := rest, scene := { station.scene with deadline := none } }

/-- A deadline decides the run from its stage on: it ends exactly then with the answer of the deadline, and
exactly what its inner part did up to then on its own remains. -/
structure Expires (station : Station) (args : RouteArgs) (handler : Handler) (limit : Duration)
    (rest : List Stage) : Prop where
  finish : (station.course args handler).finish = station.now + limit.timerMillis
  answer : ∃ response, (station.course args handler).outcome = .returned response ∧
    response.status = Status.serviceUnavailable ∧ response.body = Bytes.ofString "timeout" ∧
    response.timedOut = true
  context : (station.course args handler).context =
    Chronicle.context
      (Chronicle.upTo ((station.alone rest).chronicle args handler) (station.now + limit.timerMillis))
      station.context
  /-- The measured passes that were open then end without an answer, and the deadline makes its records. -/
  events : ∃ lost,
    (let kept := Chronicle.upTo ((station.alone rest).chronicle args handler) (station.now + limit.timerMillis)
    Chronicle.begun kept = Chronicle.ended kept + lost ∧
      (station.course args handler).events = Chronicle.events kept ++
        List.replicate lost ⟨station.now + limit.timerMillis, .ended args.endpoint none⟩ ++
        station.scene.loggedAll (station.now + limit.timerMillis)
          (deadlineEntry args limit ::
            (deadlineAnswer station.scene.world.clock (station.course args handler).context).entries))

/-- Where no deadline around it is earlier, a deadline leaves alone what ends in time and cuts all else. -/
theorem course_of_earliest (first : station.stages = .timeout limit :: rest)
    (earliest : station.scene.allows (station.now + limit.timerMillis)) :
    (((station.alone rest).course args handler).finish ≤ station.now + limit.timerMillis →
        station.course args handler = (station.alone rest).course args handler) ∧
      (station.now + limit.timerMillis < ((station.alone rest).course args handler).finish →
        station.Expires args handler limit rest) := by
  have outlasts : (station.alone rest).scene.Outlasts (station.now + limit.timerMillis) := by
    simp [Scene.Outlasts, alone]
  have soon : (station.alone rest).now ≤ station.now + limit.timerMillis := Nat.le_add_right ..
  have limited_eq : station.limited limit rest = (station.alone rest).hurried (station.now + limit.timerMillis) := by
    simp only [limited, Scene.within_of_allows earliest]
    rfl
  have cuts := cutAt_course args handler outlasts soon
  have course_eq : station.course args handler = _ := course_timeout first
  rw [if_pos earliest, limited_eq] at course_eq
  refine ⟨fun inTime => ?_, fun late => ?_⟩
  · have timely := timely_course args handler (outlasts.allows soon)
    rw [course_eq, cuts.inTime inTime, Scene.expire_of_uncut (outlasts.not_cut timely inTime)]
  · obtain ⟨outcome, finish⟩ := cuts.late late
    obtain ⟨lost, chronicle, _⟩ := exists_chronicle_hurried args handler outlasts soon
    have balance := begun_eq_ended ((station.alone rest).hurried (station.now + limit.timerMillis)) args handler
    obtain ⟨events, context⟩ :
        (((station.alone rest).hurried (station.now + limit.timerMillis)).course args handler).events = _ ∧ _ :=
      events_context_course ((station.alone rest).hurried (station.now + limit.timerMillis))
    obtain ⟨lost_begun, lost_ended⟩ :=
      begun_ended_lost args (station.now + limit.timerMillis) lost
    rw [chronicle, Chronicle.begun_append, Chronicle.ended_append, lost_begun, lost_ended] at balance
    rw [chronicle, replicate_lostPass] at events context
    simp only [Chronicle.events_append, Chronicle.events_ofEvents, Chronicle.context_append,
      Chronicle.context_ofEvents] at events context
    rw [Scene.expire_of_cut outcome, finish] at course_eq
    constructor
    · rw [course_eq]
    · rw [course_eq]
      exact ⟨_, rfl, rfl, rfl, rfl⟩
    · rw [course_eq]
      exact context
    · refine ⟨lost, balance, ?_⟩
      rw [course_eq]
      simp only [events]

/-- Of the deadlines around a place in a run the earliest one decides, and the inner one at a tie: it leaves
alone what ends in time on its own, and else ends it with its answer and keeps exactly what was done up to then.
A later one changes nothing, and what comes of a deadline goes on outward like any course. -/
theorem earliest_deadline_decides {deadlines : List Nat} (handler : Handler)
    (endless : outset.scene.deadline = none) (enclosed : Enclosed args outset deadlines station)
    (first : station.stages = .timeout limit :: rest) :
    ((∀ deadline ∈ deadlines, station.now + limit.timerMillis ≤ deadline) →
        (((station.alone rest).course args handler).finish ≤ station.now + limit.timerMillis →
          station.course args handler = (station.alone rest).course args handler) ∧
        (station.now + limit.timerMillis < ((station.alone rest).course args handler).finish →
          station.Expires args handler limit rest)) ∧
      ((∃ earlier ∈ deadlines, earlier < station.now + limit.timerMillis) →
        station.course args handler = { station with stages := rest }.course args handler) ∧
      ∀ outer, Inward args outer station →
        outer.course args handler =
          (outer.back args (station.course args handler)).precede
            (Chronicle.events (outer.entering args handler)) := by
  have allows_iff := enclosed.allows_iff endless (station.now + limit.timerMillis)
  refine ⟨fun earliest => ?_, fun ⟨earlier, around, before⟩ => ?_, fun outer inward => ?_⟩
  · exact course_of_earliest first (allows_iff.mpr earliest)
  · have refused : ¬station.scene.allows (station.now + limit.timerMillis) := by
      intro allowed
      have := allows_iff.mp allowed earlier around
      omega
    rw [course_timeout first, if_neg refused, limited, Scene.within_of_not_allows refused]
  · exact course_of_some (inward_iff.mp inward)

/-- Two deadlines that elapse together around a handler that rests longer. -/
def tied : Station where
  stages := [.timeout (.ofMillis 10), .instrument, .timeout (.ofMillis 10)]
  scene := { capture := ⟨some .info⟩, world := {} }
  now := 0
  context := {}
  request := { target := .origin ⟨"/a", none⟩ }

theorem earliest_deadline_decides_tied :
    let args : RouteArgs := { path := "/a" }
    let handler : Handler := Handler.afterActs [.note "early", .rest 11, .note "late"] (Handler.status Status.ok)
    let inner := ((tied.limited (.ofMillis 10) [.instrument, .timeout (.ofMillis 10)]).measured
      [.timeout (.ofMillis 10)])
    tied.scene.deadline = none ∧ Enclosed args tied [10] inner ∧ inner.Expires args handler (.ofMillis 10) [] := by
  intro args handler inner
  have millis : tied.now + (Duration.ofMillis 10).timerMillis = 10 := by decide
  have outer : Enclosed args tied [tied.now + (Duration.ofMillis 10).timerMillis]
      (tied.limited (.ofMillis 10) [.instrument, .timeout (.ofMillis 10)]) := .deadline .outset rfl
  have enclosed : Enclosed args tied [10] inner :=
    .onward (millis ▸ outer) (.instrument rfl) (by simp [limited])
  have decides := (earliest_deadline_decides handler rfl enclosed rfl).1
  refine ⟨rfl, enclosed, (decides ?_).2 ?_⟩
  · decide
  · decide

end Station

end ServiceHost

import ServiceHost.Http.HeaderName
import ServiceHost.Http.HeaderValue

/-!
Header fields in order. The fields of one name stand together where the first of them was put, a field
that is set keeps that place, and a new name goes to the end.
-/

namespace ServiceHost.Http

/-- A header field. -/
abbrev Field := HeaderName × HeaderValue

namespace Headers

/-- Do the fields of a name stand together at the start? -/
abbrev Leads (name : HeaderName) (fields : List Field) : Prop :=
  fields.Pairwise fun earlier later => later.1 = name → earlier.1 = name

/-- Do the fields of every name stand together? -/
def Grouped : List Field → Prop
  | [] => True
  | field :: rest => Leads field.1 rest ∧ Grouped rest

instance decidableGrouped : (fields : List Field) → Decidable (Grouped fields)
  | [] => .isTrue trivial
  | field :: rest =>
    letI := decidableGrouped rest
    inferInstanceAs (Decidable (Leads field.1 rest ∧ Grouped rest))

/-- The fields with one value for a name at the place of its first field, or at the end. -/
def setIn (name : HeaderName) (value : HeaderValue) : List Field → List Field
  | [] => [(name, value)]
  | field :: rest =>
    if field.1 = name then (name, value) :: rest.filter (·.1 ≠ name)
    else field :: setIn name value rest

/-- The fields with one more value for a name, behind its last field or at the end. -/
def addIn (name : HeaderName) (value : HeaderValue) : List Field → List Field
  | [] => [(name, value)]
  | field :: rest =>
    if field.1 = name ∧ ∀ later ∈ rest, later.1 ≠ name then field :: (name, value) :: rest
    else field :: addIn name value rest

section Grouping

variable {leader name : HeaderName} {value : HeaderValue} {fields : List Field} {field : Field}

theorem mem_setIn (among : field ∈ setIn name value fields) : field = (name, value) ∨ field ∈ fields := by
  induction fields with
  | nil => exact .inl (List.mem_singleton.mp among)
  | cons first rest inductionHypothesis =>
    unfold setIn at among
    split at among
    · refine (List.mem_cons.mp among).imp_right fun later => ?_
      exact List.mem_cons_of_mem _ (List.mem_filter.mp later).1
    · rcases List.mem_cons.mp among with rfl | later
      · exact .inr List.mem_cons_self
      · exact (inductionHypothesis later).imp_right (List.mem_cons_of_mem _)

theorem mem_addIn (among : field ∈ addIn name value fields) : field = (name, value) ∨ field ∈ fields := by
  induction fields with
  | nil => exact .inl (List.mem_singleton.mp among)
  | cons first rest inductionHypothesis =>
    unfold addIn at among
    split at among
    · rcases List.mem_cons.mp among with rfl | later
      · exact .inr List.mem_cons_self
      · exact (List.mem_cons.mp later).imp_right (List.mem_cons_of_mem _)
    · rcases List.mem_cons.mp among with rfl | later
      · exact .inr List.mem_cons_self
      · exact (inductionHypothesis later).imp_right (List.mem_cons_of_mem _)

theorem leads_of_absent (absent : ∀ later ∈ fields, later.1 ≠ leader) : Leads leader fields :=
  List.pairwise_iff_forall_sublist.mpr fun pair same => absurd same (absent _ (pair.subset (by simp)))

theorem leads_setIn (leads : Leads leader fields) (other : name ≠ leader) :
    Leads leader (setIn name value fields) := by
  induction fields with
  | nil => exact List.pairwise_singleton ..
  | cons field rest inductionHypothesis =>
    obtain ⟨first, others⟩ := List.pairwise_cons.mp leads
    unfold setIn
    split
    · rename_i here
      refine List.pairwise_cons.mpr ⟨fun later among same => ?_, others.filter _⟩
      exact absurd (here.symm.trans (first later (List.mem_filter.mp among).1 same)) other
    · refine List.pairwise_cons.mpr ⟨fun later among same => ?_, inductionHypothesis others⟩
      rcases mem_setIn among with rfl | old
      · exact absurd same other
      · exact first later old same

theorem leads_addIn (leads : Leads leader fields) (other : name ≠ leader) :
    Leads leader (addIn name value fields) := by
  induction fields with
  | nil => exact List.pairwise_singleton ..
  | cons field rest inductionHypothesis =>
    obtain ⟨first, others⟩ := List.pairwise_cons.mp leads
    have new (later : Field) (among : later = (name, value) ∨ later ∈ rest) (same : later.1 = leader) :
        field.1 = leader := by
      rcases among with rfl | old
      · exact absurd same other
      · exact first later old same
    unfold addIn
    split
    · rename_i last
      have second (later : Field) (among : later ∈ rest) (same : later.1 = leader) : name = leader :=
        last.1.symm.trans (first later among same)
      exact List.pairwise_cons.mpr
        ⟨fun later among => new later (List.mem_cons.mp among), List.pairwise_cons.mpr ⟨second, others⟩⟩
    · exact List.pairwise_cons.mpr
        ⟨fun later among => new later (mem_addIn among), inductionHypothesis others⟩

/-- A name that stands together at the start does so with one more value. -/
theorem leads_addIn_self (leads : Leads name fields) (known : ∃ field ∈ fields, field.1 = name) :
    Leads name (addIn name value fields) := by
  induction fields with
  | nil => exact List.pairwise_singleton ..
  | cons field rest inductionHypothesis =>
    obtain ⟨first, others⟩ := List.pairwise_cons.mp leads
    have here : field.1 = name := by
      obtain ⟨known, among, same⟩ := known
      rcases List.mem_cons.mp among with rfl | later
      · exact same
      · exact first known later same
    unfold addIn
    split
    · exact List.pairwise_cons.mpr ⟨fun _ _ _ => here, List.pairwise_cons.mpr ⟨fun _ _ _ => rfl, others⟩⟩
    · rename_i notLast
      have more : ∃ later ∈ rest, later.1 = name := Classical.byContradiction fun none =>
        notLast ⟨here, fun later among same => none ⟨later, among, same⟩⟩
      exact List.pairwise_cons.mpr ⟨fun _ _ _ => here, inductionHypothesis others more⟩

theorem grouped_filter (grouped : Grouped fields) (keep : Field → Bool) : Grouped (fields.filter keep) := by
  induction fields with
  | nil => exact trivial
  | cons field rest inductionHypothesis =>
    rw [List.filter_cons]
    split
    · exact ⟨grouped.1.filter keep, inductionHypothesis grouped.2⟩
    · exact inductionHypothesis grouped.2

theorem grouped_setIn (grouped : Grouped fields) : Grouped (setIn name value fields) := by
  induction fields with
  | nil => exact ⟨.nil, trivial⟩
  | cons field rest inductionHypothesis =>
    unfold setIn
    split
    · refine ⟨leads_of_absent fun later among => ?_, grouped_filter grouped.2 _⟩
      exact of_decide_eq_true (List.mem_filter.mp among).2
    · rename_i other
      exact ⟨leads_setIn grouped.1 (Ne.symm other), inductionHypothesis grouped.2⟩

theorem grouped_addIn (grouped : Grouped fields) : Grouped (addIn name value fields) := by
  induction fields with
  | nil => exact ⟨.nil, trivial⟩
  | cons field rest inductionHypothesis =>
    unfold addIn
    split
    · rename_i last
      obtain ⟨here, absent⟩ := last
      have first : Leads field.1 ((name, value) :: rest) :=
        List.pairwise_cons.mpr ⟨fun _ _ _ => here.symm, grouped.1⟩
      exact ⟨first, leads_of_absent absent, grouped.2⟩
    · rename_i notLast
      refine ⟨?_, inductionHypothesis grouped.2⟩
      by_cases here : field.1 = name
      · subst here
        have more : ∃ later ∈ rest, later.1 = field.1 := Classical.byContradiction fun none =>
          notLast ⟨rfl, fun later among same => none ⟨later, among, same⟩⟩
        exact leads_addIn_self grouped.1 more
      · exact leads_addIn grouped.1 (Ne.symm here)

end Grouping

end Headers

/-- The header fields of a message, in order. -/
@[ext] structure Headers where
  fields : List Field := []
  grouped : Headers.Grouped fields := by decide
  deriving DecidableEq, Repr

namespace Headers

def empty : Headers := {}

instance : Inhabited Headers := ⟨empty⟩

/-- The values of a name, in order. -/
def values (headers : Headers) (name : HeaderName) : List HeaderValue :=
  (headers.fields.filter (·.1 = name)).map Prod.snd

/-- The first value of a name. -/
def get? (headers : Headers) (name : HeaderName) : Option HeaderValue :=
  (headers.values name).head?

/-- Gives a name this value and no other. -/
def set (headers : Headers) (name : HeaderName) (value : HeaderValue) : Headers :=
  ⟨setIn name value headers.fields, grouped_setIn headers.grouped⟩

/-- Gives a name one more value. -/
def add (headers : Headers) (name : HeaderName) (value : HeaderValue) : Headers :=
  ⟨addIn name value headers.fields, grouped_addIn headers.grouped⟩

theorem values_setIn (name : HeaderName) (value : HeaderValue) (fields : List Field) :
    ((setIn name value fields).filter (·.1 = name)).map Prod.snd = [value] := by
  induction fields with
  | nil => simp [setIn]
  | cons field rest inductionHypothesis =>
    unfold setIn
    split
    · simp [List.filter_filter]
    · rename_i other
      rw [List.filter_cons_of_neg (by simpa using other), inductionHypothesis]

/-- A name that was set has exactly the one value. -/
@[simp] theorem values_set (headers : Headers) (name : HeaderName) (value : HeaderValue) :
    (headers.set name value).values name = [value] :=
  values_setIn name value headers.fields

theorem values_setIn_of_ne {name other : HeaderName} (value : HeaderValue) (fields : List Field)
    (different : other ≠ name) :
    ((setIn name value fields).filter (·.1 = other)).map Prod.snd =
      (fields.filter (·.1 = other)).map Prod.snd := by
  have flipped : name ≠ other := fun same => different same.symm
  induction fields with
  | nil => simp [setIn, flipped]
  | cons field rest inductionHypothesis =>
    unfold setIn
    split
    · rename_i here
      rw [List.filter_cons_of_neg (by simpa using flipped),
        List.filter_cons_of_neg (by simpa [here] using flipped), List.filter_filter]
      congr 1
      apply List.filter_congr
      intro later _
      by_cases same : later.1 = other
      · simp [same, different]
      · simp [same]
    · by_cases same : field.1 = other
      · rw [List.filter_cons_of_pos (by simpa using same),
          List.filter_cons_of_pos (by simpa using same), List.map_cons, List.map_cons,
          inductionHypothesis]
      · rw [List.filter_cons_of_neg (by simpa using same),
          List.filter_cons_of_neg (by simpa using same), inductionHypothesis]

/-- Setting a name leaves every other name alone. -/
theorem values_set_of_ne {name other : HeaderName} (headers : Headers) (value : HeaderValue)
    (different : other ≠ name) :
    (headers.set name value).values other = headers.values other :=
  values_setIn_of_ne value headers.fields different

@[simp] theorem get?_set (headers : Headers) (name : HeaderName) (value : HeaderValue) :
    (headers.set name value).get? name = some value := by
  simp [get?]

/-- The fields in ascending order of their names. Fields of one name keep their order. -/
def sorted (headers : Headers) : List Field :=
  headers.fields.mergeSort fun first second => decide (first.1.text ≤ second.1.text)

end Headers

end ServiceHost.Http

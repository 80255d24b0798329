/-!
Rosters: lists of calls that grow at the end and whose entries are replaced one at a time. Where at most
one entry is marked, that entry is the leader of the roster, and only a replacement of a marked entry or by
a marked entry changes the leader.
-/

namespace ServiceHost.Roster

variable {Entry : Type} {entries : List Entry} {marked : Entry → Bool} {number : Nat}

theorem getElem?_snoc {new entry : Entry} :
    (entries ++ [new])[number]? = some entry ↔
      entries[number]? = some entry ∨ (number = entries.length ∧ entry = new) := by
  rw [List.getElem?_append]
  split
  · rename_i inside
    constructor
    · exact .inl
    · rintro (old | ⟨atEnd, _⟩)
      · exact old
      · omega
  · rename_i outside
    have absent : entries[number]? = none := List.getElem?_eq_none (by omega)
    rw [absent, List.getElem?_singleton]
    constructor
    · intro found
      split at found
      · exact .inr ⟨by omega, (Option.some.inj found).symm⟩
      · exact absurd found (by simp)
    · rintro (old | ⟨atEnd, rfl⟩)
      · exact absurd old (by simp)
      · simp [atEnd]

theorem getElem?_set {old new entry : Entry} {other : Nat} (found : entries[number]? = some old) :
    (entries.set number new)[other]? = some entry ↔
      (other = number ∧ entry = new) ∨ (other ≠ number ∧ entries[other]? = some entry) := by
  obtain ⟨inside, _⟩ := List.getElem?_eq_some_iff.mp found
  rw [List.getElem?_set]
  by_cases same : number = other
  · subst same
    simp [inside, eq_comm]
  · simp [same, Ne.symm same]

/-- To change an entry is to replace it. -/
theorem modify_eq_set {old : Entry} (found : entries[number]? = some old) (change : Entry → Entry) :
    entries.modify number change = entries.set number (change old) := by
  apply List.ext_getElem?
  intro other
  rw [List.getElem?_modify, List.getElem?_set]
  by_cases same : number = other
  · subst same
    obtain ⟨inside, value⟩ := List.getElem?_eq_some_iff.mp found
    simp [inside, value]
  · simp [same]

theorem modify_snoc (entry : Entry) (change : Entry → Entry) :
    (entries ++ [entry]).modify entries.length change = entries ++ [change entry] := by
  have found : (entries ++ [entry])[entries.length]? = some entry := List.getElem?_concat_length
  rw [modify_eq_set found, List.set_append_right _ _ (Nat.le_refl _), Nat.sub_self, List.set_cons_zero]

/-- At most one entry is marked. -/
def Sole (marked : Entry → Bool) (entries : List Entry) : Prop :=
  ∀ (number other : Nat) (entry another : Entry), entries[number]? = some entry →
    entries[other]? = some another → marked entry → marked another → number = other

/-- Only the entry of a number may be marked. -/
def SoleAt (marked : Entry → Bool) (entries : List Entry) (number : Nat) : Prop :=
  ∀ (other : Nat) (entry : Entry), entries[other]? = some entry → marked entry → other = number

theorem sole_nil : Sole marked [] := by
  intro number other entry another found
  simp at found

theorem Sole.snoc {new : Entry} (sole : Sole marked entries) (unmarked : marked new = false) :
    Sole marked (entries ++ [new]) := by
  intro number other entry another found foundOther isMarked otherMarked
  rcases getElem?_snoc.mp found with old | ⟨_, rfl⟩
  · rcases getElem?_snoc.mp foundOther with oldOther | ⟨_, rfl⟩
    · exact sole number other entry another old oldOther isMarked otherMarked
    · simp [unmarked] at otherMarked
  · simp [unmarked] at isMarked

theorem Sole.soleAt {entry : Entry} (sole : Sole marked entries) (found : entries[number]? = some entry)
    (isMarked : marked entry) : SoleAt marked entries number :=
  fun other another foundOther otherMarked =>
    sole other number another entry foundOther found otherMarked isMarked

theorem soleAt_of_find?_eq_none (none : entries.find? marked = none) (number : Nat) :
    SoleAt marked entries number := by
  intro other entry found isMarked
  have unmarked := List.find?_eq_none.mp none entry (List.mem_of_getElem? found)
  exact absurd isMarked unmarked

theorem find?_eq_some {entry : Entry} (leads : entries.find? marked = some entry) :
    marked entry ∧ ∃ number : Nat, entries[number]? = some entry :=
  ⟨List.find?_some leads, List.getElem?_of_mem (List.mem_of_find?_eq_some leads)⟩

/-- The marked entry leads. -/
theorem SoleAt.find?_eq {entry : Entry} (sole : SoleAt marked entries number)
    (found : entries[number]? = some entry) (isMarked : marked entry) :
    entries.find? marked = some entry := by
  cases leads : entries.find? marked with
  | none => exact absurd isMarked (List.find?_eq_none.mp leads entry (List.mem_of_getElem? found))
  | some leader =>
    obtain ⟨leaderMarked, other, foundLeader⟩ := find?_eq_some leads
    rw [sole other leader foundLeader leaderMarked, found] at foundLeader
    exact foundLeader.symm

theorem SoleAt.set {old new : Entry} (sole : SoleAt marked entries number)
    (found : entries[number]? = some old) : SoleAt marked (entries.set number new) number := by
  intro other entry foundOther isMarked
  rcases (getElem?_set found).mp foundOther with ⟨same, _⟩ | ⟨_, kept⟩
  · exact same
  · exact sole other entry kept isMarked

theorem SoleAt.sole (sole : SoleAt marked entries number) : Sole marked entries := by
  intro one other entry another found foundOther isMarked otherMarked
  exact (sole one entry found isMarked).trans (sole other another foundOther otherMarked).symm

/-- The entry that replaces the leader, or the first to be marked, leads if it is marked. -/
theorem SoleAt.find?_set {old new : Entry} (sole : SoleAt marked entries number)
    (found : entries[number]? = some old) :
    (entries.set number new).find? marked = if marked new then some new else none := by
  have placed : (entries.set number new)[number]? = some new := (getElem?_set found).mpr (.inl ⟨rfl, rfl⟩)
  split
  · rename_i isMarked
    exact (sole.set found).find?_eq placed isMarked
  · rename_i unmarked
    refine List.find?_eq_none.mpr fun entry member isMarked => unmarked ?_
    obtain ⟨other, foundOther⟩ := List.getElem?_of_mem member
    rw [sole.set found other entry foundOther isMarked, placed] at foundOther
    rw [Option.some.inj foundOther]
    exact isMarked

theorem find?_snoc {new : Entry} (unmarked : marked new = false) :
    (entries ++ [new]).find? marked = entries.find? marked := by
  simp [List.find?_append, unmarked]

/-- To replace an entry that does not lead by one that does not either changes nothing. -/
theorem find?_set_of_unmarked {old new : Entry} (found : entries[number]? = some old)
    (oldUnmarked : marked old = false) (newUnmarked : marked new = false) :
    (entries.set number new).find? marked = entries.find? marked := by
  induction entries generalizing number with
  | nil => simp at found
  | cons first rest inductionHypothesis =>
    cases number with
    | zero =>
      simp only [List.getElem?_cons_zero, Option.some.injEq] at found
      simp [found, oldUnmarked, newUnmarked]
    | succ number =>
      simp only [List.getElem?_cons_succ] at found
      simp only [List.set_cons_succ, List.find?_cons, inductionHypothesis found]

theorem Sole.set_of_unmarked {old new : Entry} (sole : Sole marked entries)
    (found : entries[number]? = some old) (newUnmarked : marked new = false) :
    Sole marked (entries.set number new) := by
  intro one other entry another foundOne foundOther isMarked otherMarked
  rcases (getElem?_set found).mp foundOne with ⟨_, rfl⟩ | ⟨_, kept⟩
  · simp [newUnmarked] at isMarked
  · rcases (getElem?_set found).mp foundOther with ⟨_, rfl⟩ | ⟨_, keptOther⟩
    · simp [newUnmarked] at otherMarked
    · exact sole one other entry another kept keptOther isMarked otherMarked

/-- What holds of marked entries only holds of one if it holds of the leader. -/
theorem SoleAt.any_eq {entry : Entry} {holds : Entry → Bool} (sole : SoleAt marked entries number)
    (found : entries[number]? = some entry) (implies : ∀ entry, holds entry → marked entry) :
    entries.any holds = holds entry := by
  cases value : holds entry with
  | true => exact List.any_eq_true.mpr ⟨entry, List.mem_of_getElem? found, value⟩
  | false =>
    refine List.any_eq_false.mpr fun another member anotherHolds => ?_
    obtain ⟨other, foundOther⟩ := List.getElem?_of_mem member
    rw [sole other another foundOther (implies another anotherHolds), found] at foundOther
    rw [← Option.some.inj foundOther, value] at anotherHolds
    cases anotherHolds

theorem any_set_of_unmarked {old new : Entry} (found : entries[number]? = some old)
    (oldUnmarked : marked old = false) (newUnmarked : marked new = false) :
    (entries.set number new).any marked = entries.any marked := by
  rw [← List.isSome_find?, find?_set_of_unmarked found oldUnmarked newUnmarked, List.isSome_find?]

/-- How many entries are marked changes by the one that is replaced. -/
theorem countP_set {old new : Entry} (found : entries[number]? = some old) :
    (entries.set number new).countP marked + (marked old).toNat =
      entries.countP marked + (marked new).toNat := by
  induction entries generalizing number with
  | nil => simp at found
  | cons first rest inductionHypothesis =>
    cases number with
    | zero =>
      simp only [List.getElem?_cons_zero, Option.some.injEq] at found
      subst found
      rw [List.set_cons_zero, List.countP_cons, List.countP_cons]
      cases marked first <;> cases marked new <;> simp
    | succ number =>
      have counted := inductionHypothesis (List.getElem?_cons_succ ▸ found)
      rw [List.set_cons_succ, List.countP_cons, List.countP_cons]
      omega

/-- An entry that replaces another may be marked only if that one was. -/
theorem map_filter_set_sublist {Value : Type} {value : Entry → Value} {old new : Entry}
    (found : entries[number]? = some old) (kept : marked new → marked old ∧ value new = value old) :
    (((entries.set number new).filter marked).map value).Sublist ((entries.filter marked).map value) := by
  induction entries generalizing number with
  | nil => simp at found
  | cons first rest inductionHypothesis =>
    cases number with
    | zero =>
      obtain rfl : first = old := by simpa using found
      rw [List.set_cons_zero, List.filter_cons, List.filter_cons]
      cases isMarked : marked new with
      | true =>
        obtain ⟨wasMarked, same⟩ := kept isMarked
        simp [wasMarked, same]
      | false =>
        cases marked first with
        | true => simp
        | false => simp
    | succ number =>
      have foundRest : rest[number]? = some old := by simpa using found
      rw [List.set_cons_succ, List.filter_cons, List.filter_cons]
      cases marked first with
      | true => simpa using inductionHypothesis foundRest
      | false => simpa using inductionHypothesis foundRest

/-- A marked entry that is replaced by an unmarked one drops out of the marked ones. -/
theorem filter_perm_cons_set {old new : Entry} (found : entries[number]? = some old) (isMarked : marked old)
    (unmarked : marked new = false) : (entries.filter marked).Perm (old :: (entries.set number new).filter marked) := by
  induction entries generalizing number with
  | nil => simp at found
  | cons first rest inductionHypothesis =>
    cases number with
    | zero =>
      obtain rfl : first = old := by simpa using found
      simp [isMarked, unmarked]
    | succ number =>
      have foundRest : rest[number]? = some old := by simpa using found
      have shorter := inductionHypothesis foundRest
      rw [List.set_cons_succ, List.filter_cons, List.filter_cons]
      cases marked first with
      | true => exact (shorter.cons first).trans (.swap old first _)
      | false => exact shorter

end ServiceHost.Roster

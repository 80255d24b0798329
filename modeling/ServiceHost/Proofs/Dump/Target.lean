import Mathlib.Data.List.TakeWhile
import ServiceHost.Http.Target
import ServiceHost.Text.Word

/-!
Targets in a line: a target that was read from a text has neither spaces nor control characters, whatever its form,
so that it is one word of the line in which it stands.
-/

namespace ServiceHost.Http

variable {c : Char} {text rest : List Char} {host scheme : String} {location : Location} {target : Target}
  {scan : Target.AuthorityScan}

/-- A text without spaces and ASCII control characters. -/
def IsClear (text : List Char) : Prop := ∀ c ∈ text, 32 < c.toNat

theorem IsClear.append {front back : List Char} (front_clear : IsClear front) (back_clear : IsClear back) :
    IsClear (front ++ back) :=
  List.forall_mem_append.mpr ⟨front_clear, back_clear⟩

theorem isClear_of_all (every : text.all fun c => decide (32 < c.toNat)) : IsClear text := by
  simpa [IsClear] using every

theorem isClear_takeWhile {kind : Char → Bool} (above : ∀ c, kind c → 32 < c.toNat) (text : List Char) :
    IsClear (text.takeWhile kind) :=
  fun c member => above c (List.mem_takeWhile_imp member)

theorem lt_of_isPathChar (c : Char) (legal : isPathChar c) : 32 < c.toNat := by
  simpa using (Bool.and_eq_true_iff.mp legal).1

theorem lt_of_isQueryChar (c : Char) (legal : isQueryChar c) : 32 < c.toNat := by
  simpa using (Bool.and_eq_true_iff.mp legal).1

/-- ASCII letters and digits lie above the space, and so do all marks of a list that does. -/
theorem lt_of_isAlphanum_or (c : Char) (marks : String) (above : marks.toList.all fun c => decide (32 < c.toNat))
    (legal : c.isAlphanum || marks.toList.contains c) : 32 < c.toNat := by
  rcases Bool.or_eq_true_iff.mp legal with alphanumeric | mark
  · have bounds := Text.toNat_of_isAlphanum alphanumeric
    omega
  · exact isClear_of_all above c (List.contains_iff_mem.mp mark)

theorem lt_of_isAuthorityChar (c : Char) (legal : isAuthorityChar c) : 32 < c.toNat :=
  lt_of_isAlphanum_or c _ (by decide) legal

theorem lt_of_isSchemeChar (c : Char) (legal : isSchemeChar c) : 32 < c.toNat :=
  lt_of_isAlphanum_or c _ (by decide) legal

theorem Target.AuthorityScan.lt_of_step (stepped : (scan.step c).isSome) : 32 < c.toNat := by
  unfold step at stepped
  split at stepped
  case h_6 =>
    split at stepped
    · rename_i legal
      exact lt_of_isAuthorityChar c legal
    · cases stepped
  all_goals decide

theorem Target.AuthorityScan.isClear_of_foldlM {final : AuthorityScan}
    (scanned : text.foldlM step scan = some final) : IsClear text := by
  induction text generalizing scan with
  | nil => simp [IsClear]
  | cons c text inductionHypothesis =>
    rw [List.foldlM_cons] at scanned
    obtain ⟨next, stepped, later⟩ := Option.bind_eq_some_iff.mp scanned
    have here : 32 < c.toNat := lt_of_step (by rw [stepped]; rfl)
    exact List.forall_mem_cons.mpr ⟨here, inductionHypothesis later⟩

/-- What is an authority is clear. -/
theorem Target.isClear_of_isAuthority (legal : isAuthority text) : IsClear text := by
  unfold isAuthority at legal
  cases scanned : text.foldlM AuthorityScan.step {} with
  | none => simp [scanned] at legal
  | some final => exact AuthorityScan.isClear_of_foldlM scanned

/-- A location whose path and query are clear. -/
structure Location.IsClear (location : Location) : Prop where
  path : Http.IsClear location.path.toList
  query : ∀ query ∈ location.query, Http.IsClear query.toList

theorem Target.isClear_of_readLocation (read : readLocation text = some location) : location.IsClear := by
  have path : Http.IsClear (String.ofList (text.takeWhile isPathChar)).toList := by
    rw [String.toList_ofList]
    exact isClear_takeWhile lt_of_isPathChar text
  have query (rest : List Char) : Http.IsClear (String.ofList (rest.takeWhile isQueryChar)).toList := by
    rw [String.toList_ofList]
    exact isClear_takeWhile lt_of_isQueryChar rest
  unfold readLocation at read
  split at read
  · cases read
    exact ⟨path, by simp⟩
  · cases read
    exact ⟨path, by simp⟩
  · rename_i rest _
    simp only at read
    split at read
    · cases read
      exact ⟨path, by simpa using query rest⟩
    · cases read
      exact ⟨path, by simpa using query rest⟩
    · cases read
  · cases read

/-- A scheme, in lower case or as it stands, is clear. -/
theorem Target.isClear_of_splitScheme (split : splitScheme text = some (scheme, rest)) : IsClear scheme.toList := by
  unfold splitScheme at split
  simp only at split
  split at split
  · obtain ⟨rfl, _⟩ := Prod.mk.inj (Option.some.inj split)
    split
    · rename_i known
      rcases known with same | same <;> rw [same] <;> exact isClear_of_all (by decide)
    · rw [String.toList_ofList]
      exact isClear_takeWhile lt_of_isSchemeChar text
  · cases split

/-- A target whose parts are clear. -/
def Target.IsClear : Target → Prop
  | .origin location => location.IsClear
  | .authority host => Http.IsClear host.toList
  | .absolute scheme host location => Http.IsClear scheme.toList ∧ Http.IsClear host.toList ∧ location.IsClear

theorem Target.isClear_of_readFull (read : readFull text = some target) : target.IsClear := by
  unfold readFull at read
  split at read
  · simp only at read
    split at read
    · rename_i legal
      cases read
      rw [IsClear, String.toList_ofList]
      exact isClear_of_isAuthority (Bool.and_eq_true_iff.mp legal).2
    · cases read
  · rename_i scheme rest split
    simp only at read
    split at read
    · cases read
    · rename_i legal
      obtain ⟨location, located, rfl⟩ := Option.map_eq_some_iff.mp read
      obtain ⟨_, authority⟩ : _ ∧ isAuthority _ := by simpa using legal
      refine ⟨isClear_of_splitScheme split, ?_, isClear_of_readLocation located⟩
      rw [String.toList_ofList]
      exact isClear_of_isAuthority authority

theorem Target.isClear_of_ofString? {text : String} (read : ofString? text = some target) : target.IsClear := by
  unfold ofString? at read
  split at read
  · cases read
  · split at read
    · cases read
    · cases read
      exact ⟨isClear_of_all (by decide), by simp⟩
    · obtain ⟨location, located, rfl⟩ := Option.map_eq_some_iff.mp read
      exact isClear_of_readLocation located
    · exact isClear_of_readFull read

theorem Target.isClear_querySuffix (clear : ∀ query ∈ target.query, Http.IsClear query.toList) :
    Http.IsClear target.querySuffix.toList := by
  unfold querySuffix
  cases queried : target.query with
  | none => exact isClear_of_all (by decide)
  | some query =>
    rw [String.toList_append]
    exact (isClear_of_all (by decide)).append (clear query queried)

/-- The text of a clear target is clear. -/
theorem Target.IsClear.render (clear : target.IsClear) : Http.IsClear target.render.toList := by
  cases target with
  | origin location =>
    rw [Target.render, String.toList_append]
    exact clear.path.append (isClear_querySuffix clear.query)
  | authority host => exact clear
  | absolute scheme host location =>
    obtain ⟨scheme_clear, host_clear, location_clear⟩ := clear
    have path : Http.IsClear (Target.absolute scheme host location).path.toList := by
      rw [Target.path]
      split
      · exact isClear_of_all (by decide)
      · exact location_clear.path
    simp only [Target.render, String.toList_append]
    have mark : Http.IsClear "://".toList := isClear_of_all (by decide)
    exact ((((scheme_clear.append mark).append host_clear).append path).append
      (isClear_querySuffix location_clear.query))

end ServiceHost.Http

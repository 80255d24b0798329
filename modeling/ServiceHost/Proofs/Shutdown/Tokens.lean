import ServiceHost.Shutdown.Signal

/-!
Tokens: what making and cancelling one does to all others. A new token is above no other one, and a
cancellation reaches the tokens below, and no others.
-/

namespace ServiceHost.Shutdown.Tokens

/-- Only tokens that were made stand above others. -/
def Grounded (tokens : Tokens) : Prop :=
  ∀ token, ∀ upper ∈ tokens.above token, upper < tokens.next

variable {tokens : Tokens} {parent : Option Nat} {token number : Nat}

theorem mem_line : number ∈ tokens.line token ↔ number = token ∨ number ∈ tokens.above token :=
  List.mem_cons

theorem isCancelled_iff :
    tokens.isCancelled token ↔ ∃ upper ∈ tokens.line token, tokens.wasCancelled upper :=
  List.any_eq_true

theorem lt_next_of_wasCancelled (cancelled : tokens.wasCancelled token) : token < tokens.next := by
  obtain ⟨node, here, _⟩ := (Option.any_eq_true _ _).mp cancelled
  exact (List.getElem?_eq_some_iff.mp here).1

theorem wasCancelled_next : tokens.wasCancelled tokens.next = false := by
  rw [Bool.eq_false_iff]
  exact fun cancelled => Nat.lt_irrefl _ (lt_next_of_wasCancelled cancelled)

theorem above_eq_nil (unknown : tokens.next ≤ token) : tokens.above token = [] := by
  rw [above, List.getElem?_eq_none unknown]
  rfl

section Make

theorem next_make : (tokens.make parent).next = tokens.next + 1 := List.length_append

theorem getElem?_make (other : token ≠ tokens.next) :
    (tokens.make parent).nodes[token]? = tokens.nodes[token]? := by
  rw [make, List.getElem?_append]
  split
  · rfl
  · rename_i outside
    have beyond : tokens.nodes.length < token := by
      have apart : token ≠ tokens.nodes.length := other
      omega
    rw [List.getElem?_eq_none (by simp; omega), List.getElem?_eq_none (by omega)]

theorem above_make (other : token ≠ tokens.next) : (tokens.make parent).above token = tokens.above token := by
  rw [above, above, getElem?_make other]

theorem above_make_next : (tokens.make parent).above tokens.next = (parent.map tokens.line).getD [] := by
  rw [above, make, next, List.getElem?_concat_length]
  rfl

/-- To make a token below none changes what stands above no token. -/
theorem above_make_none : (tokens.make none).above token = tokens.above token := by
  by_cases new : token = tokens.next
  · rw [new, above_make_next, above_eq_nil (Nat.le_refl _)]
    rfl
  · exact above_make new

theorem wasCancelled_make : (tokens.make parent).wasCancelled token = tokens.wasCancelled token := by
  by_cases new : token = tokens.next
  · rw [new, wasCancelled_next, wasCancelled, make, next, List.getElem?_concat_length]
    rfl
  · rw [wasCancelled, wasCancelled, getElem?_make new]

/-- What stands above a token after another was made. -/
theorem mem_above_make (among : number ∈ (tokens.make parent).above token) :
    number ∈ tokens.above token ∨ token = tokens.next ∧ ∃ upper ∈ parent, number ∈ tokens.line upper := by
  by_cases new : token = tokens.next
  · subst new
    rw [above_make_next] at among
    cases parent with
    | none => cases among
    | some upper => exact .inr ⟨rfl, upper, rfl, among⟩
  · rw [above_make new] at among
    exact .inl among

end Make

section Cancel

theorem next_cancel : (tokens.cancel number).next = tokens.next := List.length_modify ..

theorem above_cancel : (tokens.cancel number).above token = tokens.above token := by
  rw [above, above, cancel, List.getElem?_modify]
  cases tokens.nodes[token]? with
  | none => rfl
  | some node => split <;> rfl

theorem line_cancel : (tokens.cancel number).line token = tokens.line token := by
  rw [line, line, above_cancel]

theorem wasCancelled_cancel :
    (tokens.cancel number).wasCancelled token ↔
      tokens.wasCancelled token ∨ token = number ∧ number < tokens.next := by
  by_cases same : token = number
  · subst same
    rw [wasCancelled, cancel, List.getElem?_modify_eq]
    by_cases known : token < tokens.nodes.length
    · simp [next, known]
    · simp [wasCancelled, next, known]
  · rw [wasCancelled, cancel, List.getElem?_modify_ne _ _ (Ne.symm same)]
    simp [wasCancelled, same]

/-- A cancellation reaches the tokens that stand below, and the token itself. -/
theorem isCancelled_cancel :
    (tokens.cancel number).isCancelled token ↔
      tokens.isCancelled token ∨ number < tokens.next ∧ number ∈ tokens.line token := by
  simp only [isCancelled_iff, line_cancel, wasCancelled_cancel]
  constructor
  · rintro ⟨upper, inLine, already | ⟨rfl, known⟩⟩
    · exact .inl ⟨upper, inLine, already⟩
    · exact .inr ⟨known, inLine⟩
  · rintro (⟨upper, inLine, already⟩ | ⟨known, inLine⟩)
    · exact ⟨upper, inLine, .inl already⟩
    · exact ⟨number, inLine, .inr ⟨rfl, known⟩⟩

end Cancel

end ServiceHost.Shutdown.Tokens

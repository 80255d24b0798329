/-!
Lists cut into runs of one length, of which only the last may be shorter.
-/

namespace ServiceHost

/-- The runs of a list. -/
def runs (length : Nat) : List α → List (List α)
  | [] => []
  | first :: rest => (first :: rest.take (length - 1)) :: runs length (rest.drop (length - 1))
termination_by items => items.length
decreasing_by simp only [List.length_drop, List.length_cons]; omega

end ServiceHost

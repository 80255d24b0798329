import ServiceHost.Http.Token

/-!
Request methods.
-/

namespace ServiceHost.Http

/-- A method is a token; its case counts. -/
structure Method where
  name : String
  token : isToken name.toList := by decide
  deriving DecidableEq, Repr

namespace Method

def get : Method := ⟨"GET", by decide⟩

def post : Method := ⟨"POST", by decide⟩

instance : Inhabited Method := ⟨get⟩

/-- The method of a name, if the name is a token. -/
def ofString? (name : String) : Option Method :=
  if token : isToken name.toList then some ⟨name, token⟩ else none

@[ext] theorem ext {first second : Method} (same : first.name = second.name) : first = second := by
  cases first
  cases second
  simp_all

theorem ofString?_eq_some_iff {name : String} {method : Method} :
    ofString? name = some method ↔ method.name = name := by
  unfold ofString?
  constructor
  · intro found
    split at found
    · simp only [Option.some.injEq] at found
      rw [← found]
    · simp at found
  · rintro rfl
    rw [dif_pos method.token]

end Method

end ServiceHost.Http

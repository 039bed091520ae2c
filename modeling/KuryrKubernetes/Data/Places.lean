import Mathlib.Data.List.Basic

/-!
# Places of a list

A place of a list is one of its items together with the items before it.  A loop meets each item
in a state that the earlier ones have left.
-/

namespace KuryrKubernetes.Data

/-- What holds at each place of a list holds at the first one, and at each of the rest. -/
theorem forall_places_cons {ι : Type*} (property : List ι → ι → Prop) (first : ι)
    (rest : List ι) :
    (∀ earlier item later, first :: rest = earlier ++ item :: later → property earlier item) ↔
      property [] first ∧
        ∀ earlier item later, rest = earlier ++ item :: later →
          property (first :: earlier) item := by
  constructor
  · intro all
    refine ⟨all [] first rest rfl, ?_⟩
    rintro earlier item later rfl
    exact all (first :: earlier) item later rfl
  · rintro ⟨head, tail⟩ earlier item later same
    cases earlier with
    | nil =>
        cases same
        exact head
    | cons other earlier =>
        cases same
        exact tail earlier item later rfl

end KuryrKubernetes.Data

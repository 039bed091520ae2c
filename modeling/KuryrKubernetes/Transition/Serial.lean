import Mathlib.Data.List.Perm.Basic

/-!
# Serial orders

Parties change a value one after the other.  An order of the changes is a list of the parties,
each with the value it leaves.  A change may be appended; one that leaves the value as it finds
it may be put wherever that value was there.
-/

namespace KuryrKubernetes.Transition

universe u v

variable {ι : Type u} {α : Type v}

/-- The changes lead from the first value to the last, each from what the one before left. -/
def Serial (made : ι → α → α → Prop) : α → List (ι × α) → α → Prop
  | first, [], last => first = last
  | first, change :: rest, last =>
      made change.1 first change.2 ∧ Serial made change.2 rest last

/-- The values that were there at some time. -/
def visited (first : α) (changes : List (ι × α)) : List α :=
  first :: changes.map Prod.snd

variable {made : ι → α → α → Prop} {first last next value : α} {changes : List (ι × α)}
  {party : ι}

theorem Serial.last_mem (serial : Serial made first changes last) :
    last ∈ visited first changes := by
  induction changes generalizing first with
  | nil =>
      cases serial
      exact List.mem_cons_self
  | cons change rest ih => exact List.mem_cons_of_mem first (ih serial.2)

/-- A change of the last value is the last change. -/
theorem Serial.append (serial : Serial made first changes last) (makes : made party last next) :
    Serial made first (changes ++ [(party, next)]) next := by
  induction changes generalizing first with
  | nil =>
      cases serial
      exact ⟨makes, rfl⟩
  | cons change rest ih => exact ⟨serial.1, ih serial.2⟩

/-- A party that leaves a value as it is has its place where the value was there. -/
theorem Serial.insert (serial : Serial made first changes last)
    (there : value ∈ visited first changes) (makes : made party value value) :
    ∃ inserted, Serial made first inserted last ∧
      (inserted.map Prod.fst).Perm (party :: changes.map Prod.fst) ∧
      ∀ other ∈ visited first changes, other ∈ visited first inserted := by
  induction changes generalizing first with
  | nil =>
      cases serial
      cases List.mem_singleton.mp there
      refine ⟨[(party, _)], ⟨makes, rfl⟩, List.Perm.refl _, ?_⟩
      intro other member
      cases List.mem_singleton.mp member
      exact List.mem_cons_self
  | cons change rest ih =>
      rcases List.mem_cons.mp there with rfl | later
      · refine ⟨(party, value) :: change :: rest, ⟨makes, serial⟩, List.Perm.refl _, ?_⟩
        intro other member
        exact List.mem_cons_of_mem value member
      · rcases ih serial.2 later with ⟨inserted, continued, parties, kept⟩
        refine ⟨change :: inserted, ⟨serial.1, continued⟩, ?_, ?_⟩
        · exact (parties.cons change.1).trans (List.Perm.swap party change.1 _)
        · intro other member
          rcases List.mem_cons.mp member with rfl | after
          · exact List.mem_cons_self
          · exact List.mem_cons_of_mem first (kept other after)

end KuryrKubernetes.Transition

import Mathlib.Data.Option.Basic

/-!
# A value behind a lock

Parties change a shared value in sections: take the lock and read a copy, then
write a changed copy and give the lock back.  The cell remembers the holder with
its copy, so that there is one holder at a time, and nobody else writes.  Then the
copy is never out of date and a section acts like one atomic change.
-/

namespace KuryrKubernetes.Transition

universe u v

/-- A value with its lock. -/
structure Locked (ρ : Type u) (α : Type v) where
  value : α
  holder : Option (ρ × α) := none
  /-- The copy of the holder is up to date. -/
  upToDate : ∀ party copy, holder = some (party, copy) → copy = value := by
    intro _ _ held
    cases held

namespace Locked

variable {ρ : Type u} {α : Type v}

/-- Take a free lock and read the value. -/
def acquire (cell : Locked ρ α) (party : ρ) : Option (Locked ρ α) :=
  match cell.holder with
  | some _ => none
  | none =>
      some
        { value := cell.value
          holder := some (party, cell.value)
          upToDate := by
            intro _ _ held
            cases held
            rfl }

variable [DecidableEq ρ]

/-- Write the changed copy and give the lock back. -/
def commit (cell : Locked ρ α) (party : ρ) (change : α → α) : Option (Locked ρ α) :=
  match cell.holder with
  | none => none
  | some (holder, copy) => if holder = party then some { value := change copy } else none

omit [DecidableEq ρ] in
/-- Taking the lock does not change the value. -/
theorem value_acquire {cell after : Locked ρ α} {party : ρ}
    (taken : cell.acquire party = some after) : after.value = cell.value := by
  unfold acquire at taken
  split at taken
  · cases taken
  · cases taken
    rfl

/-- A section changes the value as if it were one step. -/
theorem value_commit {cell after : Locked ρ α} {party : ρ} {change : α → α}
    (taken : cell.commit party change = some after) : after.value = change cell.value := by
  unfold commit at taken
  split at taken
  · cases taken
  · rename_i holder copy held
    split at taken
    · cases taken
      exact congrArg change (cell.upToDate holder copy held)
    · cases taken

end Locked

end KuryrKubernetes.Transition

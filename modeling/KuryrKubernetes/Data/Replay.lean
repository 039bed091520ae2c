import Mathlib.Data.List.Basic
import Mathlib.Order.Lattice

/-!
# Replaying a log

The entries of a log carry increasing keys.  A reader that has seen entries up to
some key and then replays what lies above it reads the log in order.
-/

namespace KuryrKubernetes.Data

universe u v

variable {α : Type u} {κ : Type v} [LinearOrder κ]

/-- The keys of a log increase. -/
def IncreasingBy (key : α → κ) (log : List α) : Prop :=
  log.Pairwise fun first second => key first < key second

/-- The entries above a key, in the order of the log. -/
def replay (key : α → κ) (above : κ) (log : List α) : List α :=
  log.filter fun entry => above < key entry

variable {key : α → κ} {log : List α}

theorem mem_replay {above : κ} {entry : α} :
    entry ∈ replay key above log ↔ entry ∈ log ∧ above < key entry := by
  simp [replay]

/-- A new entry above all others extends the log. -/
theorem IncreasingBy.snoc (increasing : IncreasingBy key log) {entry : α}
    (above : ∀ other ∈ log, key other < key entry) : IncreasingBy key (log ++ [entry]) := by
  apply List.pairwise_append.mpr
  constructor
  · exact increasing
  · constructor
    · exact List.pairwise_singleton _ entry
    · intro other member last same
      rw [List.mem_singleton.mp same]
      exact above other member

/-- What was seen up to a key and what is replayed above it are in the order of the
log. -/
theorem IncreasingBy.append_replay_sublist (increasing : IncreasingBy key log)
    {seen : List α} (order : seen.Sublist log) {upTo : κ}
    (below : ∀ entry ∈ seen, key entry ≤ upTo) :
    (seen ++ replay key upTo log).Sublist log := by
  induction order with
  | slnil => exact List.Sublist.refl []
  | @cons seen rest entry order ih =>
      have later := (List.pairwise_cons.mp increasing).2
      by_cases above : upTo < key entry
      · -- everything seen lies behind this entry, so nothing was seen
        have unseen : seen = [] := by
          apply List.eq_nil_iff_forall_not_mem.mpr
          intro other member
          have behind := (List.pairwise_cons.mp increasing).1 other (order.subset member)
          exact absurd (below other member) (not_le_of_gt (above.trans behind))
        subst unseen
        exact List.filter_sublist
      · have same : replay key upTo (entry :: rest) = replay key upTo rest := by
          simp [replay, above]
        rw [same]
        exact (ih later below).cons entry
  | @cons_cons seen rest entry order ih =>
      have later := (List.pairwise_cons.mp increasing).2
      have atMost := below entry List.mem_cons_self
      have same : replay key upTo (entry :: rest) = replay key upTo rest := by
        simp [replay, not_lt_of_ge atMost]
      rw [same, List.cons_append]
      exact (ih later fun other member => below other (List.mem_cons_of_mem entry member)).cons_cons
        entry

/-- The last entry seen has the greatest key. -/
theorem IncreasingBy.le_getLast (increasing : IncreasingBy key log) {last : α}
    (final : log.getLast? = some last) : ∀ entry ∈ log, key entry ≤ key last := by
  intro entry member
  obtain ⟨front, rfl⟩ := List.getLast?_eq_some_iff.mp final
  rcases List.mem_append.mp member with earlier | same
  · exact le_of_lt ((List.pairwise_append.mp increasing).2.2 entry earlier last
      List.mem_cons_self)
  · rw [List.mem_singleton.mp same]

end KuryrKubernetes.Data

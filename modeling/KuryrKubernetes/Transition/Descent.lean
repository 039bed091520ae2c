import Mathlib.Logic.Function.Iterate
import Mathlib.Tactic.Choose

/-!
# Recursion without a measure

A recursive function is run with a bound on the depth of its calls.  Each call ends without
another one or passes its outcome on from the call that it leads to.  Such a function
returns from a call exactly where no endless chain of calls starts there.
-/

namespace KuryrKubernetes.Transition

universe u v

variable {σ : Type u} {ρ : Type v}

/-- How the calls of a recursive function follow one another. -/
structure Descends (run : Nat → σ → Option ρ) (next : σ → σ → Prop) : Prop where
  zero : ∀ call, run 0 call = none
  ends : ∀ call, (∀ later, ¬next call later) → ∃ depth, (run depth call).isSome
  passes : ∀ call later, next call later → ∀ depth,
    (run (depth + 1) call).isSome ↔ (run depth later).isSome

namespace Descends

variable {run : Nat → σ → Option ρ} {next : σ → σ → Prop}

/-- On an endless chain no bound on the depth is enough. -/
theorem none_of_chain (descends : Descends run next) {chain : Nat → σ}
    (follows : ∀ level, next (chain level) (chain (level + 1))) (depth level : Nat) :
    ¬(run depth (chain level)).isSome := by
  induction depth generalizing level with
  | zero =>
      rw [descends.zero]
      exact Bool.false_ne_true
  | succ depth ih =>
      rw [descends.passes _ _ (follows level)]
      exact ih (level + 1)

/-- A call that does not return leads to one that does not return. -/
theorem exists_next (descends : Descends run next) {call : σ}
    (never : ∀ depth, ¬(run depth call).isSome) :
    ∃ later, next call later ∧ ∀ depth, ¬(run depth later).isSome := by
  by_contra none
  have stops : ∀ later, ¬next call later := by
    intro later leads
    apply none
    refine ⟨later, leads, ?_⟩
    intro depth
    rw [← descends.passes call later leads]
    exact never (depth + 1)
  rcases descends.ends call stops with ⟨depth, returns⟩
  exact never depth returns

/-- A call returns exactly where no endless chain starts. -/
theorem returns_iff (descends : Descends run next) (call : σ) :
    (∃ depth, (run depth call).isSome) ↔
      ¬∃ chain : Nat → σ, chain 0 = call ∧ ∀ level, next (chain level) (chain (level + 1)) := by
  constructor
  · rintro ⟨depth, returns⟩ ⟨chain, rfl, follows⟩
    exact descends.none_of_chain follows depth 0 returns
  · intro finite
    by_contra never
    apply finite
    have unbounded : ∀ depth, ¬(run depth call).isSome := fun depth returns =>
      never ⟨depth, returns⟩
    let Stuck := { call : σ // ∀ depth, ¬(run depth call).isSome }
    have leads (stuck : Stuck) : ∃ later : Stuck, next stuck.val later.val := by
      rcases descends.exists_next stuck.property with ⟨later, follows, still⟩
      exact ⟨⟨later, still⟩, follows⟩
    choose later follows using leads
    let chain (level : Nat) : Stuck := later^[level] ⟨call, unbounded⟩
    refine ⟨fun level => (chain level).val, rfl, ?_⟩
    intro level
    have step : chain (level + 1) = later (chain level) := Function.iterate_succ_apply' later level _
    change next (chain level).val (chain (level + 1)).val
    rw [step]
    exact follows (chain level)

end Descends

end KuryrKubernetes.Transition

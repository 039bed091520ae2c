import KuryrKubernetes.Transition.Run
import Mathlib.Logic.Function.Basic

/-!
# Families of systems

One system for every key, each step taking place at one key.  Labels that concern
one key only are available there and nowhere else.  What the steps of one system
preserve holds at all keys along the runs of the family.
-/

namespace KuryrKubernetes.Transition

universe u v w

variable {κ : Type u} {σ : Type v} {α : Type w} [DecidableEq κ]

/-- A step at one key. -/
def keyed (concerns : α → κ → Bool) (step : Step σ α) : Step (κ → σ) (κ × α) :=
  fun states (key, label) =>
    if concerns label key then
      (step (states key) label).map (Function.update states key)
    else
      none

/-- A condition on the state at the key of a step. -/
def AtKey (guard : σ → α → Prop) (states : κ → σ) (label : κ × α) : Prop :=
  guard (states label.1) label.2

instance (guard : σ → α → Prop) [∀ state label, Decidable (guard state label)]
    (states : κ → σ) (label : κ × α) : Decidable (AtKey guard states label) :=
  inferInstanceAs (Decidable (guard (states label.1) label.2))

/-- What a guarded step preserves, a guarded step of the family preserves at all
keys. -/
theorem PreservedBy.keyed {concerns : α → κ → Bool} {step : Step σ α}
    {guard : σ → α → Prop} {property : σ → Prop}
    (preserved : PreservedBy step guard property) :
    PreservedBy (Transition.keyed concerns step) (AtKey guard)
      fun states => ∀ key, property (states key) := by
  rintro states ⟨key, label⟩ after allowed holds taken other
  simp only [Transition.keyed, Option.ite_none_right_eq_some] at taken
  obtain ⟨_, taken⟩ := taken
  obtain ⟨target, stepped, rfl⟩ := Option.map_eq_some_iff.mp taken
  by_cases here : other = key
  · subst other
    rw [Function.update_self]
    exact preserved allowed (holds key) stepped
  · rw [Function.update_of_ne here]
    exact holds other

/-- Invariant rule for families. -/
theorem GuardedRun.invariant_keyed {concerns : α → κ → Bool} {step : Step σ α}
    {guard : σ → α → Prop} {property : σ → Prop} {source target : κ → σ}
    {labels : List (κ × α)}
    (guarded : GuardedRun (keyed concerns step) (AtKey guard) source labels target)
    (preserved : PreservedBy step guard property) (initial : ∀ key, property (source key))
    (key : κ) : property (target key) :=
  guarded.invariant preserved.keyed initial key

/-- A guarded run of one system is a guarded run of the family at its key. -/
theorem GuardedRun.keyed {concerns : α → κ → Bool} {step : Step σ α}
    {guard : σ → α → Prop} {source target : σ} {labels : List α} {key : κ}
    (guarded : GuardedRun step guard source labels target)
    (own : ∀ label ∈ labels, concerns label key) (states : κ → σ)
    (here : states key = source) :
    GuardedRun (Transition.keyed concerns step) (AtKey guard) states (labels.map (key, ·))
      (Function.update states key target) := by
  induction guarded generalizing states with
  | nil source =>
      rw [← here, Function.update_eq_self]
      exact .nil states
  | @cons source middle target label rest allowed taken _ ih =>
      subst here
      have concerned := own label List.mem_cons_self
      have later := ih (fun other member => own other (List.mem_cons_of_mem label member))
        (Function.update states key middle) (Function.update_self key middle states)
      rw [Function.update_idem] at later
      have here : AtKey guard states (key, label) := allowed
      refine GuardedRun.cons here ?_ later
      simp [Transition.keyed, concerned, taken]

/-- A run of one system is a run of the family at its key. -/
theorem run_keyed {concerns : α → κ → Bool} {step : Step σ α} {target : σ}
    {labels : List α} {key : κ} (states : κ → σ)
    (executed : run step labels (states key) = some target)
    (own : ∀ label ∈ labels, concerns label key) :
    run (keyed concerns step) (labels.map (key, ·)) states =
      some (Function.update states key target) :=
  ((guardedRun_of_run executed).keyed own states rfl).run_eq_some

end KuryrKubernetes.Transition

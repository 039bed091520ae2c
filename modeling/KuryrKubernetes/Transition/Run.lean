import Mathlib.Data.List.Basic

/-!
# Labelled partial transitions and guarded runs

A step takes a state and a label and may be unavailable.  Labels carry every
choice of the environment, so a run is determined by its list of labels and can
be executed.  A guarded run is a run each of whose steps meets a condition on
the label and on the state before the step; invariants are carried along guarded
runs by one induction, stated here once.
-/

namespace KuryrKubernetes.Transition

universe u v

/-- One labelled step; `none` means that the label is not available. -/
abbrev Step (σ : Type u) (α : Type v) :=
  σ → α → Option σ

variable {σ : Type u} {α : Type v}

/-- Execute a list of labels, failing at the first unavailable one. -/
def run (step : Step σ α) : List α → σ → Option σ
  | [], state => some state
  | label :: rest, state => (step state label).bind (run step rest)

@[simp]
theorem run_nil (step : Step σ α) (state : σ) : run step [] state = some state :=
  rfl

@[simp]
theorem run_cons (step : Step σ α) (label : α) (rest : List α) (state : σ) :
    run step (label :: rest) state = (step state label).bind (run step rest) :=
  rfl

/-- A run goes through the end of its first part. -/
theorem run_append (step : Step σ α) (labels more : List α) (state : σ) :
    run step (labels ++ more) state = (run step labels state).bind (run step more) := by
  induction labels generalizing state with
  | nil => rfl
  | cons label rest ih =>
      cases taken : step state label with
      | none => simp [taken]
      | some middle => simp [taken, ih]

/-- A run whose every step meets `guard` in the state it starts from. -/
inductive GuardedRun (step : Step σ α) (guard : σ → α → Prop) :
    σ → List α → σ → Prop
  | nil (state : σ) : GuardedRun step guard state [] state
  | cons {source middle target : σ} {label : α} {rest : List α}
      (allowed : guard source label)
      (taken : step source label = some middle)
      (remaining : GuardedRun step guard middle rest target) :
      GuardedRun step guard source (label :: rest) target

/-- A property kept by every step that meets `guard`. -/
def PreservedBy (step : Step σ α) (guard : σ → α → Prop) (property : σ → Prop) : Prop :=
  ∀ ⦃source label target⦄, guard source label → property source →
    step source label = some target → property target

namespace GuardedRun

variable {step : Step σ α} {guard : σ → α → Prop} {source middle target : σ}
  {labels more : List α}

/-- Forgetting the guard leaves an executable run. -/
theorem run_eq_some (guarded : GuardedRun step guard source labels target) :
    run step labels source = some target := by
  induction guarded with
  | nil => rfl
  | cons _ taken _ ih => simp [taken, ih]

/-- Invariant rule: what holds at the start and is preserved by every guarded
step holds at the end of every guarded run. -/
theorem invariant {property : σ → Prop}
    (guarded : GuardedRun step guard source labels target)
    (preserved : PreservedBy step guard property) (initial : property source) :
    property target := by
  induction guarded with
  | nil => exact initial
  | cons allowed taken _ ih => exact ih (preserved allowed initial taken)

/-- A guard may be weakened along a run. -/
theorem mono {weaker : σ → α → Prop}
    (guarded : GuardedRun step guard source labels target)
    (implies : ∀ state label, guard state label → weaker state label) :
    GuardedRun step weaker source labels target := by
  induction guarded with
  | nil => exact .nil _
  | cons allowed taken _ ih => exact .cons (implies _ _ allowed) taken ih

end GuardedRun

/-- Execute a list of labels, failing also where the guard fails. -/
def runIf (step : Step σ α) (guard : σ → α → Prop)
    [∀ state label, Decidable (guard state label)] : List α → σ → Option σ
  | [], state => some state
  | label :: rest, state =>
      if guard state label then (step state label).bind (runIf step guard rest) else none

/-- What `runIf` executes is a guarded run. -/
theorem guardedRun_of_runIf {step : Step σ α} {guard : σ → α → Prop}
    [∀ state label, Decidable (guard state label)] {labels : List α} {source target : σ}
    (executed : runIf step guard labels source = some target) :
    GuardedRun step guard source labels target := by
  induction labels generalizing source with
  | nil =>
      have equal : source = target := by simpa [runIf] using executed
      subst target
      exact .nil source
  | cons label rest ih =>
      simp only [runIf, Option.ite_none_right_eq_some] at executed
      obtain ⟨allowed, continued⟩ := executed
      obtain ⟨middle, taken, remaining⟩ := Option.bind_eq_some_iff.mp continued
      exact .cons allowed taken (ih remaining)

/-- Every run is a guarded run under the trivial guard. -/
theorem guardedRun_of_run {step : Step σ α} {labels : List α} {source target : σ}
    (executed : run step labels source = some target) :
    GuardedRun step (fun _ _ => True) source labels target := by
  induction labels generalizing source with
  | nil =>
      have equal : source = target := by simpa using executed
      subst target
      exact .nil source
  | cons label rest ih =>
      obtain ⟨middle, taken, remaining⟩ := Option.bind_eq_some_iff.mp executed
      exact .cons trivial taken (ih remaining)

end KuryrKubernetes.Transition

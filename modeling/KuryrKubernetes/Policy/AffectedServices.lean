import KuryrKubernetes.Effect.Program
import KuryrKubernetes.Policy.ServiceGroups

/-!
# Services affected by a policy

When rules of a policy change, the handlers update the groups of those services whose
selector is matched by the selector of a policy.  That compares two selectors: pods of the
service may have further labels, and these decide about the selector of the policy.
-/

namespace KuryrKubernetes.Policy

open KuryrKubernetes.Data
open KuryrKubernetes.Effect

/-! ## The check -/

/-- `service_matches_affected_pods`. -/
def serviceMatchesAffectedPods (service : Service) (podSelectors : List LabelSelector) : Bool :=
  if service.selector.items.isEmpty then
    false
  else
    podSelectors.any fun selector => matchSelector selector service.selector

/-- `_update_services` of the handlers; `updateLbaasSg` is what is done for a service. -/
def updateServices {ε σ : Type} (updateLbaasSg : Service → Program ε σ PUnit)
    (services : List Service) (podSelectors : List LabelSelector) : Program ε σ PUnit :=
  services.forM fun service =>
    if !serviceMatchesAffectedPods service podSelectors then
      pure ⟨⟩
    else
      updateLbaasSg service

/-- Whatever pods there are: if the service and some selector have one in common, the check
finds the service. -/
def NeverSkips (service : Service) (podSelectors : List LabelSelector) : Prop :=
  ∀ pods : List Pod,
    (∃ pod ∈ service.pods pods, ∃ selector ∈ podSelectors, selector.Accepts (podLabels pod)) →
      serviceMatchesAffectedPods service podSelectors = true

/-! ## Labels that meet two selectors -/

/-- An expression holds of the value of its label, which may be absent. -/
def Expression.HoldsOf (exp : Expression) (value : Option String) : Prop :=
  match exp.operator with
  | .isIn => ∃ given ∈ value, given ∈ exp.values
  | .notIn => ∀ given ∈ value, given ∉ exp.values
  | .exist => value.isSome
  | .doesNotExist => value.isNone

theorem Expression.holds_iff (exp : Expression) (labels : Labels) :
    exp.Holds labels ↔ exp.HoldsOf (labels.get? exp.key) :=
  Iff.rfl

/-- A value of one label, or its absence, is what some labels and a selector ask for. -/
structure LabelSelector.Admits (selector : LabelSelector) (required : Labels) (key : String)
    (value : Option String) : Prop where
  required : ∀ given ∈ required.get? key, value = some given
  matchLabels : ∀ given ∈ selector.matchLabels.get? key, value = some given
  expressions : ∀ exp ∈ selector.matchExpressions, exp.key = key → exp.HoldsOf value

/-- Some labels and a selector do not contradict each other at any label. -/
def LabelSelector.Compatible (selector : LabelSelector) (required : Labels) : Prop :=
  ∀ key, ∃ value, selector.Admits required key value

/-- There are labels with chosen values at some keys. -/
theorem exists_labels_of_choice (choice : String → Option String) (keys : List String) :
    ∃ labels : Labels, ∀ key, labels.get? key = if key ∈ keys then choice key else none := by
  induction keys with
  | nil => exact ⟨∅, fun key => by simp⟩
  | cons first rest ih =>
      rcases ih with ⟨labels, chosen⟩
      cases value : choice first with
      | none =>
          refine ⟨labels, ?_⟩
          intro key
          rw [chosen]
          by_cases same : key = first
          · subst same
            simp [value]
          · simp [same]
      | some given =>
          refine ⟨labels.set first given, ?_⟩
          intro key
          rw [Dict.get?_set, chosen]
          by_cases same : key = first
          · subst same
            simp [value]
          · simp [same]

/-- A selector accepts some labels with the required ones among them exactly where it is
compatible with these. -/
theorem exists_accepted_iff (selector : LabelSelector) (required : Labels) :
    (∃ labels : Labels, (∀ item ∈ required.items, labels.get? item.1 = some item.2) ∧
      selector.Accepts labels) ↔ selector.Compatible required := by
  constructor
  · rintro ⟨labels, carries, accepts⟩ key
    refine ⟨labels.get? key, ?_, ?_, ?_⟩
    · intro given found
      exact carries (key, given) (Dict.mem_items_iff.mpr found)
    · intro given found
      exact accepts.1 (key, given) (Dict.mem_items_iff.mpr found)
    · intro exp listed same
      rw [← same]
      exact accepts.2 exp listed
  · intro compatible
    choose choice admits using compatible
    rcases exists_labels_of_choice choice
      (required.keys ++ selector.matchLabels.keys ++ selector.matchExpressions.map (·.key)) with
      ⟨labels, chosen⟩
    refine ⟨labels, ?_, ?_, ?_⟩
    · intro item listed
      have key : item.1 ∈ required.keys := List.mem_map_of_mem listed
      rw [chosen, if_pos (List.mem_append_left _ (List.mem_append_left _ key))]
      exact (admits item.1).required item.2 (Dict.mem_items_iff.mp listed)
    · intro item listed
      have key : item.1 ∈ selector.matchLabels.keys := List.mem_map_of_mem listed
      rw [chosen, if_pos (List.mem_append_left _ (List.mem_append_right _ key))]
      exact (admits item.1).matchLabels item.2 (Dict.mem_items_iff.mp listed)
    · intro exp listed
      have key : exp.key ∈ selector.matchExpressions.map (·.key) := List.mem_map_of_mem listed
      rw [exp.holds_iff, chosen, if_pos (List.mem_append_right _ key)]
      exact (admits exp.key).expressions exp listed rfl

/-! ## Services that are never skipped -/

/-- A pod with some labels in the namespace of a service. -/
def Service.podWith (service : Service) (labels : Labels) : Pod :=
  { name := "pod", namespaceName := service.namespaceName, uid := "pod", labels := some labels }

theorem Service.mem_pods_iff {service : Service} (selects : service.selector.items ≠ [])
    {pods : List Pod} {pod : Pod} :
    pod ∈ service.pods pods ↔ pod ∈ pods ∧ pod.namespaceName = service.namespaceName ∧
      ∀ item ∈ service.selector.items, (podLabels pod).get? item.1 = some item.2 := by
  rw [Service.pods, if_neg (mt List.isEmpty_iff.mp selects), List.mem_filter, decide_eq_true_iff]
  apply and_congr_right
  intro _
  apply and_congr_right
  intro _
  constructor
  · intro selected
    exact (of_decide_eq_true selected).1
  · intro carries
    exact decide_eq_true ⟨carries, by rintro exp ⟨⟩⟩

/-- A selector asks for nothing but what the selector of a service asks for. -/
def LabelSelector.AsksOnly (selector : LabelSelector) (required : Labels) : Prop :=
  (∀ exp ∈ selector.matchExpressions, exp.Holds required) ∧
    ∀ item ∈ selector.matchLabels.items, required.get? item.1 = some item.2 ∧ item.2 ≠ ""

theorem serviceMatchesAffectedPods_iff (service : Service) (podSelectors : List LabelSelector) :
    serviceMatchesAffectedPods service podSelectors ↔
      service.selector.items ≠ [] ∧
        ∃ selector ∈ podSelectors, selector.AsksOnly service.selector := by
  unfold serviceMatchesAffectedPods
  by_cases selects : service.selector.items = []
  · simp [selects]
  · rw [if_neg (mt List.isEmpty_iff.mp selects), List.any_eq_true]
    simp only [matchSelector_iff, List.isEmpty_iff, selects, ne_eq, not_false_eq_true, true_and,
      false_or, LabelSelector.AsksOnly]
    apply exists_congr
    intro selector
    rw [and_congr_right_iff, and_congr_right_iff]
    intro _ _
    constructor
    · rintro (nothing | asked)
      · rw [nothing]
        rintro item ⟨⟩
      · exact asked
    · exact .inr

/-- The check never skips a service with a pod in common with a selector exactly where no
selector is compatible with the service, or one asks for nothing but what the service asks
for. -/
theorem service_matches_affected_pods_iff (service : Service)
    (podSelectors : List LabelSelector) :
    NeverSkips service podSelectors ↔
      (service.selector.items ≠ [] →
        (∃ selector ∈ podSelectors, selector.Compatible service.selector) →
          ∃ selector ∈ podSelectors, selector.AsksOnly service.selector) := by
  constructor
  · rintro never selects ⟨selector, listed, compatible⟩
    rcases (exists_accepted_iff selector service.selector).mpr compatible with
      ⟨labels, carries, accepts⟩
    have selected : service.podWith labels ∈ service.pods [service.podWith labels] :=
      (Service.mem_pods_iff selects).mpr ⟨List.mem_singleton.mpr rfl, rfl, carries⟩
    have found := never [service.podWith labels]
      ⟨service.podWith labels, selected, selector, listed, accepts⟩
    exact ((serviceMatchesAffectedPods_iff service podSelectors).mp found).2
  · rintro covered pods ⟨pod, selected, selector, listed, accepts⟩
    have selects : service.selector.items ≠ [] := by
      intro nothing
      rw [Service.pods, if_pos (List.isEmpty_iff.mpr nothing)] at selected
      cases selected
    rcases (Service.mem_pods_iff selects).mp selected with ⟨_, _, carries⟩
    have compatible := (exists_accepted_iff selector service.selector).mp
      ⟨podLabels pod, carries, accepts⟩
    exact (serviceMatchesAffectedPods_iff service podSelectors).mpr
      ⟨selects, covered selects ⟨selector, listed, compatible⟩⟩

/-- A pod of the service that the policy selects by another label. -/
theorem service_matches_affected_pods_skips :
    ¬NeverSkips { namespaceName := "shop", selector := (∅ : Labels).set "app" "web" }
      [{ matchLabels := (∅ : Labels).set "tier" "front" }] := by
  intro never
  have found := never
    [{ name := "pod", namespaceName := "shop", uid := "pod"
       labels := some (((∅ : Labels).set "app" "web").set "tier" "front") }] (by decide)
  exact absurd found (by decide)

/-! ## The loop over the services -/

/-- `_update_services` does for the services that the check finds what it does for them. -/
theorem updateServices_eq {ε σ : Type} (updateLbaasSg : Service → Program ε σ PUnit)
    (services : List Service) (podSelectors : List LabelSelector) :
    updateServices updateLbaasSg services podSelectors =
      (services.filter (serviceMatchesAffectedPods · podSelectors)).forM updateLbaasSg := by
  induction services with
  | nil => rfl
  | cons service rest ih =>
      unfold updateServices at ih ⊢
      rw [forM_cons_eq, ih]
      cases found : serviceMatchesAffectedPods service podSelectors with
      | false => simp [found]
      | true => simp [found]

end KuryrKubernetes.Policy

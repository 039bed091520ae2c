import KuryrKubernetes.Objects

/-!
# Label selectors

How the drivers decide whether a selector matches some labels, the meaning of a
selector in Kubernetes, and the queries by which the drivers leave the matching to
the API server.  Absent labels and selector parts are empty ones, as in the code.
-/

namespace KuryrKubernetes.Policy

open KuryrKubernetes.Data

/-- Labels of an object. -/
abbrev Labels :=
  Dict String String

inductive Operator where
  | isIn
  | notIn
  | exist
  | doesNotExist
  deriving DecidableEq

/-- An element of `matchExpressions`. -/
structure Expression where
  key : String
  operator : Operator
  values : List String := []
  deriving DecidableEq

structure LabelSelector where
  matchLabels : Labels := ∅
  matchExpressions : List Expression := []
  deriving DecidableEq

namespace LabelSelector

/-- The selector is `{}`. -/
def isEmpty (selector : LabelSelector) : Bool :=
  selector.matchLabels.items.isEmpty && selector.matchExpressions.isEmpty

end LabelSelector

/-! ## Matching in the drivers -/

/-- One turn of `match_expressions`. -/
def matchExpression (labels : Labels) (exp : Expression) : Bool :=
  if labels.items.isEmpty then
    match exp.operator with
    | .isIn | .exist => false
    | .notIn | .doesNotExist => true
  else
    match exp.operator, labels.get? exp.key with
    | .isIn, some value => exp.values.contains value
    | .isIn, none => false
    | .notIn, some value => !exp.values.contains value
    | .notIn, none => true
    | .exist, value => value.isSome
    | .doesNotExist, value => value.isNone

/-- `match_expressions`. -/
def matchExpressions (expressions : List Expression) (labels : Labels) : Bool :=
  expressions.all (matchExpression labels)

/-- `match_labels`. -/
def matchLabels (crdLabels labels : Labels) : Bool :=
  crdLabels.items.all fun (crdKey, crdValue) =>
    match labels.get? crdKey with
    | none => false
    | some value => value ≠ "" ∧ crdValue = value

/-- `match_selector`. -/
def matchSelector (selector : LabelSelector) (labels : Labels) : Bool :=
  matchExpressions selector.matchExpressions labels &&
    (selector.matchLabels.items.isEmpty || labels.items.isEmpty ||
      matchLabels selector.matchLabels labels)

/-! ## The meaning of a selector -/

/-- An expression holds of some labels. -/
def Expression.Holds (exp : Expression) (labels : Labels) : Prop :=
  match exp.operator with
  | .isIn => ∃ value ∈ labels.get? exp.key, value ∈ exp.values
  | .notIn => ∀ value ∈ labels.get? exp.key, value ∉ exp.values
  | .exist => (labels.get? exp.key).isSome
  | .doesNotExist => (labels.get? exp.key).isNone

/-- A selector accepts some labels. -/
def LabelSelector.Accepts (selector : LabelSelector) (labels : Labels) : Prop :=
  (∀ item ∈ selector.matchLabels.items, labels.get? item.1 = some item.2) ∧
    ∀ exp ∈ selector.matchExpressions, exp.Holds labels

instance (exp : Expression) (labels : Labels) : Decidable (exp.Holds labels) :=
  match exp with
  | ⟨_, .isIn, _⟩ => inferInstanceAs (Decidable (∃ value ∈ labels.get? _, _))
  | ⟨_, .notIn, _⟩ => inferInstanceAs (Decidable (∀ value ∈ labels.get? _, _))
  | ⟨_, .exist, _⟩ => inferInstanceAs (Decidable (_ = true))
  | ⟨_, .doesNotExist, _⟩ => inferInstanceAs (Decidable (_ = true))

instance (selector : LabelSelector) (labels : Labels) : Decidable (selector.Accepts labels) :=
  inferInstanceAs (Decidable
    ((∀ item ∈ selector.matchLabels.items, _) ∧ ∀ exp ∈ selector.matchExpressions, _))

/-- The empty selector accepts everything. -/
theorem accepts_of_isEmpty {selector : LabelSelector} (empty : selector.isEmpty)
    (labels : Labels) : selector.Accepts labels := by
  obtain ⟨noLabels, noExpressions⟩ := Bool.and_eq_true_iff.mp empty
  constructor
  · rw [List.isEmpty_iff.mp noLabels]
    rintro item ⟨⟩
  · rw [List.isEmpty_iff.mp noExpressions]
    rintro exp ⟨⟩

theorem get?_eq_none_of_isEmpty {labels : Labels} (empty : labels.items.isEmpty)
    (key : String) : labels.get? key = none := by
  rw [Dict.get?, List.isEmpty_iff.mp empty]
  rfl

/-- The drivers evaluate an expression as Kubernetes does. -/
theorem matchExpression_iff_holds (labels : Labels) (exp : Expression) :
    matchExpression labels exp ↔ exp.Holds labels := by
  obtain ⟨key, operator, values⟩ := exp
  unfold matchExpression
  by_cases empty : labels.items.isEmpty
  · have absent := get?_eq_none_of_isEmpty empty key
    rw [if_pos empty]
    cases operator <;> simp [Expression.Holds, absent]
  · rw [if_neg empty]
    cases found : labels.get? key <;> cases operator <;> simp [Expression.Holds, found]

theorem matchExpressions_iff (expressions : List Expression) (labels : Labels) :
    matchExpressions expressions labels ↔ ∀ exp ∈ expressions, exp.Holds labels := by
  rw [matchExpressions, List.all_eq_true]
  exact forall₂_congr fun exp _ => matchExpression_iff_holds labels exp

/-- Labels that the drivers match are equal. -/
theorem get?_of_matchLabels {crdLabels labels : Labels} (matched : matchLabels crdLabels labels)
    {item : String × String} (listed : item ∈ crdLabels.items) :
    labels.get? item.1 = some item.2 := by
  have turn := List.all_eq_true.mp matched item listed
  cases found : labels.get? item.1 with
  | none => simp [found] at turn
  | some value =>
      simp only [found, decide_eq_true_eq] at turn
      rw [turn.2]

/-- A match of the drivers is one of Kubernetes, unless the labels that are asked for
are skipped because there are no labels at all. -/
theorem accepts_of_matchSelector {selector : LabelSelector} {labels : Labels}
    (matched : matchSelector selector labels)
    (read : ¬labels.items.isEmpty ∨ selector.matchLabels.items.isEmpty) :
    selector.Accepts labels := by
  simp only [matchSelector, Bool.and_eq_true, Bool.or_eq_true] at matched
  obtain ⟨expressions, labelsMatch⟩ := matched
  refine ⟨?_, (matchExpressions_iff _ _).mp expressions⟩
  intro item listed
  have asked : ¬selector.matchLabels.items.isEmpty := by
    intro empty
    rw [List.isEmpty_iff.mp empty] at listed
    cases listed
  rcases labelsMatch with (empty | unlabelled) | matches_
  · exact absurd empty asked
  · exact absurd (read.resolve_right asked) (not_not_intro unlabelled)
  · exact get?_of_matchLabels matches_ listed

theorem matchLabels_iff (crdLabels labels : Labels) :
    matchLabels crdLabels labels ↔
      ∀ item ∈ crdLabels.items, labels.get? item.1 = some item.2 ∧ item.2 ≠ "" := by
  constructor
  · intro matched item listed
    have turn := List.all_eq_true.mp matched item listed
    have found := get?_of_matchLabels matched listed
    simp only [found, decide_eq_true_eq] at turn
    exact ⟨found, turn.1⟩
  · intro each
    apply List.all_eq_true.mpr
    intro item listed
    rcases each item listed with ⟨found, filled⟩
    simp [found, filled]

theorem matchSelector_iff (selector : LabelSelector) (labels : Labels) :
    matchSelector selector labels ↔
      (∀ exp ∈ selector.matchExpressions, exp.Holds labels) ∧
        (selector.matchLabels.items.isEmpty ∨ labels.items.isEmpty ∨
          ∀ item ∈ selector.matchLabels.items,
            labels.get? item.1 = some item.2 ∧ item.2 ≠ "") := by
  simp only [matchSelector, Bool.and_eq_true, Bool.or_eq_true, matchExpressions_iff,
    matchLabels_iff, or_assoc]

/-- Labels on which truthiness makes no difference, once the expressions hold: there are
some if any are asked for, and none that is asked for and there is empty, unless another
one is missing. -/
def LabelSelector.Plain (selector : LabelSelector) (labels : Labels) : Prop :=
  (∀ exp ∈ selector.matchExpressions, exp.Holds labels) →
    (labels.items.isEmpty → selector.matchLabels.items.isEmpty) ∧
      ((∀ item ∈ selector.matchLabels.items, labels.get? item.1 = some item.2) →
        ∀ item ∈ selector.matchLabels.items, item.2 ≠ "")

/-- The drivers match the labels that Kubernetes accepts exactly where truthiness makes no
difference. -/
theorem match_selector_iff (selector : LabelSelector) (labels : Labels) :
    (matchSelector selector labels ↔ selector.Accepts labels) ↔ selector.Plain labels := by
  rw [matchSelector_iff, LabelSelector.Accepts, LabelSelector.Plain]
  by_cases hold : ∀ exp ∈ selector.matchExpressions, exp.Holds labels
  · rw [eq_true hold, true_and, and_true, true_implies]
    by_cases nothing : selector.matchLabels.items.isEmpty
    · have none_asked : selector.matchLabels.items = [] := List.isEmpty_iff.mp nothing
      simp [none_asked]
    · by_cases unlabelled : labels.items.isEmpty
      · have refused : ¬∀ item ∈ selector.matchLabels.items,
            labels.get? item.1 = some item.2 := by
          intro each
          apply nothing
          apply List.isEmpty_iff.mpr
          apply List.eq_nil_iff_forall_not_mem.mpr
          intro item listed
          have found := each item listed
          rw [get?_eq_none_of_isEmpty unlabelled] at found
          cases found
        rw [eq_false refused]
        simp [unlabelled, nothing]
      · simp only [nothing, unlabelled, Bool.false_eq_true, false_or, false_implies, true_and]
        constructor
        · intro agrees found item listed
          exact (agrees.mpr found item listed).2
        · intro filled
          constructor
          · intro each item listed
            exact (each item listed).1
          · intro found item listed
            exact ⟨found item listed, filled found item listed⟩
  · rw [eq_false hold]
    simp

/-- A pod without labels is taken for one with any label. -/
theorem match_selector_unlabelled :
    let selector : LabelSelector := { matchLabels := (∅ : Labels).set "app" "web" }
    matchSelector selector ∅ = true ∧ ¬selector.Accepts ∅ := by
  decide

/-! ## Queries -/

/-- A `labelSelector` query; without any requirement the drivers ask for a label of the
name `None`. -/
inductive Query where
  | requirements (selector : LabelSelector)
  | noneLabel
  deriving DecidableEq

/-- The answer of the API server. -/
def Query.selects (query : Query) (labels : Labels) : Bool :=
  match query with
  | requirements selector => selector.Accepts labels
  | noneLabel => labels.get? "None" |>.isSome

/-- `pod-template-hash`, a label that pods of Kuryr do not have. -/
def podTemplateHash : String :=
  "pod-template-hash"

/-- What `get_pods` leaves of the selector it is given. -/
def LabelSelector.withoutTemplateHash (selector : LabelSelector) : LabelSelector :=
  { selector with matchLabels := selector.matchLabels.erase podTemplateHash }

/-- The query of `get_pods`. -/
def podQuery (selector : LabelSelector) : Query :=
  if selector.isEmpty then .noneLabel else .requirements selector.withoutTemplateHash

theorem accepts_withoutTemplateHash {selector : LabelSelector} (empty : selector.isEmpty)
    (labels : Labels) : selector.withoutTemplateHash.Accepts labels := by
  obtain ⟨noLabels, noExpressions⟩ := Bool.and_eq_true_iff.mp empty
  have nothing : selector.matchLabels = ∅ := Dict.ext_items (List.isEmpty_iff.mp noLabels)
  apply accepts_of_isEmpty
  rw [LabelSelector.isEmpty, LabelSelector.withoutTemplateHash, noExpressions, nothing]
  rfl

/-- What the query selects, the selector accepts without the template hash. -/
theorem accepts_of_podQuery {selector : LabelSelector} {labels : Labels}
    (selected : (podQuery selector).selects labels) :
    selector.withoutTemplateHash.Accepts labels := by
  unfold podQuery at selected
  split at selected
  · rename_i empty
    exact accepts_withoutTemplateHash empty labels
  · exact of_decide_eq_true selected

end KuryrKubernetes.Policy

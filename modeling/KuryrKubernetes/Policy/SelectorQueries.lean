import KuryrKubernetes.Policy.Selector
import KuryrKubernetes.Query.Labels
import KuryrKubernetes.Query.Url

/-!
# Queries for pods and namespaces

The `labelSelector` that `get_pods` and `get_namespaces` write into a URL, and what the API
server reads.  Labels are encoded as a form whose `&` becomes a comma; expressions are
written in the grammar of selectors and quoted.  What a selector does not have is not
checked before it is written.
-/

namespace KuryrKubernetes.Policy

open KuryrKubernetes.Data
open KuryrKubernetes.Query

/-! ## Writing -/

/-- The dictionary that is passed as a selector: a `LabelSelector`, or what holds the
selector of a service. -/
structure SelectorDict where
  selector : Option Labels := none
  matchLabels : Option Labels := none
  matchExpressions : Option (List Expression) := none
  deriving DecidableEq

/-- The operator in lower case. -/
def Operator.lower : Operator → String
  | .isIn => "in"
  | .notIn => "notin"
  | .exist => "exists"
  | .doesNotExist => "doesnotexist"

/-- `format_expression`. -/
def formatExpression (expression : Expression) : String :=
  match expression.operator with
  | .isIn | .notIn =>
      expression.key ++ " " ++ expression.operator.lower ++ " " ++
        ("(" ++ ", ".intercalate expression.values ++ ")")
  | .doesNotExist => "!" ++ expression.key
  | .exist => expression.key

/-- `replace_encoded_characters`. -/
def replaceEncodedCharacters (labels : Labels) : String :=
  (urlencode labels.items).map fun char => if char = '&' then ',' else char

/-- The values of the variable `labels`. -/
inductive LabelsValue where
  | none
  | emptyDict
  | text (written : String)

/-- The value in a formatted string. -/
def LabelsValue.format : LabelsValue → String
  | none => "None"
  | emptyDict => "\x7b\x7d"
  | text written => written

/-- The expressions of a selector after its labels, if there are any. -/
def addExpressions (labels : LabelsValue) (matchExpressions : Option (List Expression)) :
    LabelsValue :=
  match matchExpressions.getD [] with
  | [] => labels
  | expression :: expressions =>
      let exps := ", ".intercalate ((expression :: expressions).map formatExpression)
      match labels with
      | .text written =>
          if written = "" then .text (quote exps) else .text (written ++ quote ("," ++ exps))
      | .none | .emptyDict => .text (quote exps)

/-- The URL from its path on. -/
def labelSelectorQuery (labels : LabelsValue) : String :=
  "labelSelector=" ++ labels.format

/-- `get_pods`: the query, and the selector afterwards. -/
def getPods (selector : SelectorDict) : String × SelectorDict :=
  match selector.selector.filter fun labels => !labels.items.isEmpty with
  | some svcSelector => (labelSelectorQuery (.text (replaceEncodedCharacters svcSelector)), selector)
  | none =>
      match selector.matchLabels with
      | none => (labelSelectorQuery (addExpressions .none selector.matchExpressions), selector)
      | some labels =>
          if labels.items.isEmpty then
            (labelSelectorQuery (addExpressions .emptyDict selector.matchExpressions), selector)
          else
            -- The label is taken out of the dictionary of the caller.
            let labels := labels.erase podTemplateHash
            (labelSelectorQuery (addExpressions (.text (replaceEncodedCharacters labels))
              selector.matchExpressions), { selector with matchLabels := some labels })

/-- `get_namespaces`: the query, and the selector afterwards. -/
def getNamespaces (selector : SelectorDict) : String × SelectorDict :=
  match selector.matchLabels with
  | none => (labelSelectorQuery (addExpressions .none selector.matchExpressions), selector)
  | some labels =>
      if labels.items.isEmpty then
        (labelSelectorQuery (addExpressions .emptyDict selector.matchExpressions), selector)
      else
        (labelSelectorQuery (addExpressions (.text (replaceEncodedCharacters labels))
          selector.matchExpressions), selector)

/-! ## Reading -/

/-- The API server selects by the query exactly what is accepted. -/
def SelectsExactly (query : String) (accepts : Labels → Prop) : Prop :=
  ∃ text requirements, parameter "labelSelector" query.toList = some text ∧
    parseSelector text = some requirements ∧
    ∀ labels : Labels, (∀ requirement ∈ requirements, requirement.Holds labels.get?) ↔
      accepts labels

/-- The requirement of a label. -/
def labelRequirement (item : String × String) : Requirement :=
  ⟨item.1, .among [item.2]⟩

/-- The requirement of an expression. -/
def Expression.requirement (exp : Expression) : Requirement :=
  match exp.operator with
  | .isIn => ⟨exp.key, .among exp.values⟩
  | .notIn => ⟨exp.key, .notAmong exp.values⟩
  | .exist => ⟨exp.key, .present⟩
  | .doesNotExist => ⟨exp.key, .absent⟩

/-- The requirements of a selector. -/
def LabelSelector.requirements (selector : LabelSelector) : List Requirement :=
  selector.matchLabels.items.map labelRequirement ++
    selector.matchExpressions.map Expression.requirement

/-- What the API server admits: keys and values are words, keys are not empty, and an
operator with values has some. -/
structure LabelSelector.Admitted (selector : LabelSelector) : Prop where
  labels : ∀ item ∈ selector.matchLabels.items,
    IsWord item.1.toList ∧ item.1.toList ≠ [] ∧ IsWord item.2.toList
  keys : ∀ exp ∈ selector.matchExpressions, IsWord exp.key.toList ∧ exp.key.toList ≠ []
  values : ∀ exp ∈ selector.matchExpressions, ∀ value ∈ exp.values, IsWord value.toList
  several : ∀ exp ∈ selector.matchExpressions, exp.operator = .isIn ∨ exp.operator = .notIn →
    exp.values ≠ []

theorem Expression.holds_requirement_iff (exp : Expression) (labels : Labels) :
    exp.requirement.Holds labels.get? ↔ exp.Holds labels := by
  obtain ⟨key, operator, values⟩ := exp
  cases operator with
  | isIn =>
      simp only [Expression.requirement, Requirement.Holds, Expression.Holds, Option.mem_def]
      constructor
      · rintro ⟨value, listed, found⟩
        exact ⟨value, found, listed⟩
      · rintro ⟨value, found, listed⟩
        exact ⟨value, listed, found⟩
  | notIn =>
      simp only [Expression.requirement, Requirement.Holds, Expression.Holds, Option.mem_def]
      constructor
      · intro others value found listed
        exact others value listed found
      · intro others value listed found
        exact others value found listed
  | exist => rfl
  | doesNotExist => rfl

theorem labelRequirement_holds_iff (item : String × String) (labels : Labels) :
    (labelRequirement item).Holds labels.get? ↔ labels.get? item.1 = some item.2 := by
  simp [labelRequirement, Requirement.Holds]

/-- The requirements say what the selector says. -/
theorem LabelSelector.requirements_hold_iff (selector : LabelSelector) (labels : Labels) :
    (∀ requirement ∈ selector.requirements, requirement.Holds labels.get?) ↔
      selector.Accepts labels := by
  rw [LabelSelector.requirements, List.forall_mem_append, List.forall_mem_map, List.forall_mem_map]
  simp only [labelRequirement_holds_iff, Expression.holds_requirement_iff]
  rfl

/-! ## The text of a selector -/

/-- The labels as they are read. -/
def labelsText (labels : Labels) : List Char :=
  [','].intercalate (labels.items.map fun item => item.1.toList ++ '=' :: item.2.toList)

/-- The expressions as they are read. -/
def expressionsText (expressions : List Expression) : List Char :=
  [',', ' '].intercalate (expressions.map fun exp => (formatExpression exp).toList)

/-- `KEY=VALUE` as a form writes it. -/
def encodedPair (item : String × String) : List Char :=
  (quotePlus item.1 ++ "=" ++ quotePlus item.2).toList

theorem amp_not_mem_encodedPair (item : String × String) : '&' ∉ encodedPair item := by
  simp only [encodedPair, String.toList_append, List.mem_append, not_or]
  exact ⟨⟨amp_not_mem_quotePlus _, by decide⟩, amp_not_mem_quotePlus _⟩

/-- Only the `&` between the labels are replaced. -/
theorem toList_replaceEncodedCharacters (labels : Labels) :
    (replaceEncodedCharacters labels).toList = [','].intercalate (labels.items.map encodedPair) := by
  have separator : "&".toList.map (fun char => if char = '&' then ',' else char) = [','] := by
    decide
  have kept : ∀ item ∈ labels.items,
      (encodedPair item).map (fun char => if char = '&' then ',' else char) = encodedPair item := by
    intro item _
    have same : ∀ char ∈ encodedPair item, (if char = '&' then ',' else char) = char := by
      intro char listed
      apply if_neg
      rintro rfl
      exact amp_not_mem_encodedPair item listed
    exact (List.map_congr_left same).trans (List.map_id' _)
  have pairs := List.map_congr_left kept
  rw [replaceEncodedCharacters, String.toList_map, urlencode, String.toList_intercalate,
    map_intercalate, separator]
  simp only [List.map_map, Function.comp_def]
  simp only [encodedPair] at pairs ⊢
  rw [pairs]

theorem encodes_encodedPair (item : String × String) :
    Encodes (encodedPair item) (utf8 (item.1.toList ++ '=' :: item.2.toList)) := by
  have bytes : utf8 (item.1.toList ++ '=' :: item.2.toList) =
      utf8 item.1.toList ++ utf8 ['='] ++ utf8 item.2.toList := by
    rw [← utf8_append, ← utf8_append, List.append_assoc]
    rfl
  rw [encodedPair, String.toList_append, String.toList_append, bytes]
  have equals : Encodes "=".toList (utf8 ['=']) := encodes_char (by decide)
  exact ((encodes_quotePlus item.1).append equals).append (encodes_quotePlus item.2)

theorem replaceEncodedCharacters_encodes (labels : Labels) :
    Encodes (replaceEncodedCharacters labels).toList (utf8 (labelsText labels)) := by
  rw [toList_replaceEncodedCharacters, labelsText]
  exact encodes_intercalate (encodes_char (by decide)) fun item _ => encodes_encodedPair item

theorem amp_not_mem_replaceEncodedCharacters (labels : Labels) :
    '&' ∉ (replaceEncodedCharacters labels).toList := by
  rw [replaceEncodedCharacters, String.toList_map, List.mem_map]
  rintro ⟨char, _, replaced⟩
  split at replaced
  · exact absurd replaced (by decide)
  · contradiction

/-! ## Reading the text -/

section Admitted

variable {selector : LabelSelector}

theorem LabelSelector.Admitted.reads_labels (admitted : selector.Admitted)
    (some_ : selector.matchLabels.items ≠ []) :
    Reads (lex (labelsText selector.matchLabels))
      (selector.matchLabels.items.map labelRequirement) := by
  have blank : ∀ text, lex ([] ++ text) = lex text := fun _ => rfl
  apply reads_intercalate blank _ some_
  intro item listed
  obtain ⟨isKey, key, isValue⟩ := admitted.labels item listed
  have reads := reads_equals isKey key isValue
  rw [String.ofList_toList, String.ofList_toList] at reads
  exact reads

theorem toList_formatExpression {exp : Expression}
    (withValues : exp.operator = .isIn ∨ exp.operator = .notIn) :
    (formatExpression exp).toList =
      parenthesized exp.key.toList exp.operator.lower.toList (exp.values.map String.toList) := by
  have text : formatExpression exp = exp.key ++ " " ++ exp.operator.lower ++ " " ++
      ("(" ++ ", ".intercalate exp.values ++ ")") := by
    unfold formatExpression
    rcases withValues with same | same <;> rw [same]
  have blank : " ".toList = [' '] := by decide
  have opening : "(".toList = ['('] := by decide
  have closing : ")".toList = [')'] := by decide
  have between : ", ".toList = [',', ' '] := by decide
  rw [text, parenthesized]
  simp only [String.toList_append, String.toList_intercalate, blank, opening, closing, between,
    List.append_assoc, List.cons_append, List.nil_append]

/-- An expression is read as it is meant. -/
theorem LabelSelector.Admitted.reads_expression (admitted : selector.Admitted) {exp : Expression}
    (listed : exp ∈ selector.matchExpressions) :
    Reads (lex (formatExpression exp).toList) [exp.requirement] := by
  obtain ⟨isKey, key⟩ := admitted.keys exp listed
  have areValues : ∀ value ∈ exp.values.map String.toList, IsWord value := by
    intro value among
    obtain ⟨written, present, rfl⟩ := List.mem_map.mp among
    exact admitted.values exp listed written present
  have same : (exp.values.map String.toList).map String.ofList = exp.values := by
    rw [List.map_map]
    exact (List.map_congr_left fun _ _ => String.ofList_toList).trans (List.map_id' _)
  have several := admitted.several exp listed
  obtain ⟨name, operator, values⟩ := exp
  cases operator with
  | isIn =>
      have reads := reads_in isKey key areValues (by simpa using several (.inl rfl))
      rw [same, String.ofList_toList] at reads
      have lower : Operator.isIn.lower.toList = ['i', 'n'] := by decide
      rw [toList_formatExpression (.inl rfl), lower]
      exact reads
  | notIn =>
      have reads := reads_notin isKey key areValues (by simpa using several (.inr rfl))
      rw [same, String.ofList_toList] at reads
      have lower : Operator.notIn.lower.toList = ['n', 'o', 't', 'i', 'n'] := by decide
      rw [toList_formatExpression (.inr rfl), lower]
      exact reads
  | exist =>
      have reads := reads_key isKey key
      rw [String.ofList_toList] at reads
      exact reads
  | doesNotExist =>
      have reads := reads_bang isKey key
      rw [String.ofList_toList] at reads
      have text : (formatExpression ⟨name, .doesNotExist, values⟩).toList = '!' :: name.toList := by
        rw [formatExpression, String.toList_append]
        rfl
      rw [text]
      exact reads

theorem LabelSelector.Admitted.reads_expressions (admitted : selector.Admitted)
    (some_ : selector.matchExpressions ≠ []) :
    Reads (lex (expressionsText selector.matchExpressions))
      (selector.matchExpressions.map Expression.requirement) :=
  reads_intercalate lex_space (fun _ listed => admitted.reads_expression listed) some_

/-! ## The query of a selector -/

/-- A value that stands for a text with the requirements of the selector. -/
theorem selectsExactly_of_encodes {value : String} {text : List Char}
    (encodes : Encodes value.toList (utf8 text)) (single : '&' ∉ value.toList)
    (parsed : parseSelector (String.ofList text) = some selector.requirements) :
    SelectsExactly (labelSelectorQuery (.text value)) selector.Accepts := by
  have name : "labelSelector=".toList = "labelSelector".toList ++ ['='] := by decide
  have query : (labelSelectorQuery (.text value)).toList =
      "labelSelector".toList ++ '=' :: value.toList := by
    rw [labelSelectorQuery, String.toList_append, name, List.append_assoc]
    rfl
  have shown : Encodes value.toList (utf8 (String.ofList text).toList) := by
    rw [String.toList_ofList]
    exact encodes
  refine ⟨String.ofList text, selector.requirements, ?_, parsed, ?_⟩
  · have letters : "labelSelector".toList =
        ['l', 'a', 'b', 'e', 'l', 'S', 'e', 'l', 'e', 'c', 't', 'o', 'r'] := by decide
    have plain : ∀ char ∈ "labelSelector".toList,
        char ≠ '%' ∧ char ≠ '+' ∧ char ≠ '=' ∧ char ≠ '&' := by
      rw [letters]
      simp
    rw [query, parameter_of_single plain single]
    exact shown.decode
  · exact selector.requirements_hold_iff

theorem parseSelector_of_reads {text : List Char} {requirements : List Requirement}
    (reads : Reads (lex text) requirements) :
    parseSelector (String.ofList text) = some requirements := by
  apply Reads.parseSelector
  rw [String.toList_ofList]
  exact reads

theorem labelsText_ne_nil {labels : Labels} (some_ : labels.items ≠ []) : labelsText labels ≠ [] := by
  unfold labelsText
  cases written : labels.items with
  | nil => exact absurd written some_
  | cons item items => cases items <;> simp

theorem replaceEncodedCharacters_ne_empty {labels : Labels} (some_ : labels.items ≠ []) :
    replaceEncodedCharacters labels ≠ "" := by
  intro empty
  have encodes := replaceEncodedCharacters_encodes labels
  rw [empty, ← String.toList_ofList (l := labelsText labels)] at encodes
  have nothing : some "" = some (String.ofList (labelsText labels)) := encodes.decode
  have text : labelsText labels = "".toList := by
    rw [Option.some.inj nothing, String.toList_ofList]
  exact labelsText_ne_nil some_ text

theorem replaceEncodedCharacters_of_empty {labels : Labels} (empty : labels.items = []) :
    replaceEncodedCharacters labels = "" := by
  apply String.toList_inj.mp
  rw [toList_replaceEncodedCharacters, empty]
  rfl

theorem toList_expressions (expressions : List Expression) :
    (", ".intercalate (expressions.map formatExpression)).toList = expressionsText expressions := by
  have between : ", ".toList = [',', ' '] := by decide
  rw [String.toList_intercalate, List.map_map, between]
  rfl

theorem LabelSelector.Admitted.query_selects (admitted : selector.Admitted) :
    SelectsExactly (labelSelectorQuery (addExpressions
      (.text (replaceEncodedCharacters selector.matchLabels)) (some selector.matchExpressions)))
      selector.Accepts := by
  obtain ⟨labels, expressions⟩ := selector
  cases expressions with
  | nil =>
      apply selectsExactly_of_encodes (replaceEncodedCharacters_encodes labels)
        (amp_not_mem_replaceEncodedCharacters labels)
      by_cases empty : labels.items = []
      · rw [labelsText, LabelSelector.requirements, empty]
        rfl
      · rw [LabelSelector.requirements, List.map_nil, List.append_nil]
        exact parseSelector_of_reads (admitted.reads_labels empty)
  | cons expression rest =>
      have reads := admitted.reads_expressions (List.cons_ne_nil expression rest)
      by_cases empty : labels.items = []
      · have value : addExpressions (.text (replaceEncodedCharacters labels))
            (some (expression :: rest)) =
              .text (quote (", ".intercalate ((expression :: rest).map formatExpression))) := by
          rw [replaceEncodedCharacters_of_empty empty]
          rfl
        have encodes := encodes_quote (", ".intercalate ((expression :: rest).map formatExpression))
        rw [toList_expressions] at encodes
        rw [value]
        apply selectsExactly_of_encodes encodes (amp_not_mem_quote _)
        rw [LabelSelector.requirements, empty, List.map_nil, List.nil_append]
        exact parseSelector_of_reads reads
      · have filled := replaceEncodedCharacters_ne_empty empty
        have value : addExpressions (.text (replaceEncodedCharacters labels))
            (some (expression :: rest)) =
              .text (replaceEncodedCharacters labels ++
                quote ("," ++ ", ".intercalate ((expression :: rest).map formatExpression))) := by
          simp only [addExpressions, Option.getD_some, if_neg filled]
        have encodes := (replaceEncodedCharacters_encodes labels).append
          (encodes_quote ("," ++ ", ".intercalate ((expression :: rest).map formatExpression)))
        have comma : ",".toList = [','] := by decide
        rw [← utf8_append, String.toList_append, toList_expressions, comma,
          List.singleton_append, ← String.toList_append] at encodes
        rw [value]
        apply selectsExactly_of_encodes encodes
        · rw [String.toList_append, List.mem_append, not_or]
          exact ⟨amp_not_mem_replaceEncodedCharacters labels, amp_not_mem_quote _⟩
        · apply parseSelector_of_reads
          rw [lex_append_comma]
          exact (admitted.reads_labels empty).comma reads

end Admitted

/-! ## Selectors without requirements -/

/-- Expressions are written the same way after labels that are not there. -/
theorem addExpressions_of_missing {value : LabelsValue} (missing : value = .none ∨ value = .emptyDict)
    {matchExpressions : Option (List Expression)} (some_ : matchExpressions.getD [] ≠ []) :
    addExpressions value matchExpressions =
      addExpressions (.text (replaceEncodedCharacters ∅)) (some (matchExpressions.getD [])) := by
  have nothing : replaceEncodedCharacters ∅ = "" := replaceEncodedCharacters_of_empty rfl
  rw [nothing]
  unfold addExpressions
  cases written : matchExpressions.getD [] with
  | nil => exact absurd written some_
  | cons expression rest => rcases missing with rfl | rfl <;> rfl

/-- `None` is read as a label that has to be there. -/
theorem none_selects :
    SelectsExactly (labelSelectorQuery .none) fun labels => (labels.get? "None").isSome := by
  refine ⟨"None", [⟨"None", .present⟩], by decide +kernel, by decide, ?_⟩
  intro labels
  rw [List.forall_mem_singleton]
  rfl

theorem SelectsExactly.iff {query : String} {accepts also : Labels → Prop}
    (selects : SelectsExactly query accepts) (others : SelectsExactly query also)
    (labels : Labels) : accepts labels ↔ also labels := by
  obtain ⟨text, requirements, read, parsed, holds⟩ := selects
  obtain ⟨other, same, readOther, parsedOther, holdsOther⟩ := others
  rw [read] at readOther
  cases readOther
  rw [parsed] at parsedOther
  cases parsedOther
  exact (holds labels).symm.trans (holdsOther labels)

/-- Neither `None` nor `{}` selects everything. -/
theorem not_selectsExactly_of_missing {value : LabelsValue}
    (missing : value = .none ∨ value = .emptyDict) {selector : LabelSelector}
    (empty : selector.isEmpty) : ¬SelectsExactly (labelSelectorQuery value) selector.Accepts := by
  intro selects
  rcases missing with rfl | rfl
  · have labelled := (selects.iff none_selects ∅).mp (accepts_of_isEmpty empty ∅)
    cases labelled
  · obtain ⟨text, requirements, read, parsed, _⟩ := selects
    have braces : parameter "labelSelector" (labelSelectorQuery .emptyDict).toList = some "\x7b\x7d" := by
      decide +kernel
    rw [braces] at read
    cases read
    cases parsed

/-! ## The functions -/

/-- The selector with the parts of a dictionary. -/
def LabelSelector.ofParts (matchLabels : Option Labels)
    (matchExpressions : Option (List Expression)) : LabelSelector :=
  { matchLabels := matchLabels.getD ∅, matchExpressions := matchExpressions.getD [] }

/-- The query selects exactly what is accepted, and the dictionary stays as it is. -/
structure Serves (build : SelectorDict → String × SelectorDict) (selector : SelectorDict)
    (accepts : Labels → Prop) : Prop where
  selects : SelectsExactly (build selector).1 accepts
  kept : (build selector).2 = selector

section Functions

variable {matchLabels service : Option Labels} {matchExpressions : Option (List Expression)}

/-- Without labels, a query is right if there are expressions. -/
theorem selectsExactly_of_missing_iff {value : LabelsValue}
    (missing : value = .none ∨ value = .emptyDict) (empty : matchLabels.getD ∅ = ∅)
    (admitted : (LabelSelector.ofParts matchLabels matchExpressions).Admitted) :
    SelectsExactly (labelSelectorQuery (addExpressions value matchExpressions))
        (LabelSelector.ofParts matchLabels matchExpressions).Accepts ↔
      (LabelSelector.ofParts matchLabels matchExpressions).isEmpty = false := by
  by_cases some_ : matchExpressions.getD [] = []
  · have nothing : (LabelSelector.ofParts matchLabels matchExpressions).isEmpty = true := by
      rw [LabelSelector.isEmpty, LabelSelector.ofParts, empty, some_]
      rfl
    have value_eq : addExpressions value matchExpressions = value := by
      rw [addExpressions, some_]
    rw [value_eq, nothing]
    constructor
    · intro selects
      exact absurd selects (not_selectsExactly_of_missing missing nothing)
    · intro impossible
      cases impossible
  · have query := admitted.query_selects
    rw [LabelSelector.ofParts, empty] at query
    rw [addExpressions_of_missing missing some_, LabelSelector.ofParts, empty]
    constructor
    · intro _
      rw [LabelSelector.isEmpty, List.isEmpty_eq_false_iff.mpr some_, Bool.and_false]
    · exact fun _ => query

theorem isEmpty_ofParts_of_labels {labels : Labels} (some_ : ¬labels.items.isEmpty) :
    (LabelSelector.ofParts (some labels) matchExpressions).isEmpty = false := by
  rw [LabelSelector.isEmpty, LabelSelector.ofParts, Option.getD_some,
    Bool.eq_false_iff.mpr some_, Bool.false_and]

theorem addExpressions_getD (value : LabelsValue) :
    addExpressions value matchExpressions = addExpressions value (some (matchExpressions.getD [])) := by
  cases matchExpressions <;> rfl

/-- The dictionary stays as it is, so that it depends on the query. -/
theorem serves_iff_of_built {build : SelectorDict → String × SelectorDict}
    {selector : SelectorDict} {query : String} {accepts : Labels → Prop}
    (built : build selector = (query, selector)) :
    Serves build selector accepts ↔ SelectsExactly query accepts := by
  constructor
  · intro serves
    have selects := serves.selects
    rw [built] at selects
    exact selects
  · intro selects
    constructor
    · rw [built]
      exact selects
    · rw [built]

/-- `get_namespaces` serves the selectors that are not empty. -/
theorem getNamespaces_serves_iff
    (admitted : (LabelSelector.ofParts matchLabels matchExpressions).Admitted) :
    Serves getNamespaces { matchLabels, matchExpressions }
        (LabelSelector.ofParts matchLabels matchExpressions).Accepts ↔
      (LabelSelector.ofParts matchLabels matchExpressions).isEmpty = false := by
  cases matchLabels with
  | none =>
      have built : getNamespaces { matchExpressions } =
          (labelSelectorQuery (addExpressions .none matchExpressions), { matchExpressions }) := rfl
      rw [serves_iff_of_built built]
      exact selectsExactly_of_missing_iff (.inl rfl) rfl admitted
  | some labels =>
      by_cases empty : labels.items.isEmpty
      · have same : (some labels).getD ∅ = ∅ := Dict.ext_items (List.isEmpty_iff.mp empty)
        have built : getNamespaces { matchLabels := some labels, matchExpressions } =
            (labelSelectorQuery (addExpressions .emptyDict matchExpressions),
              { matchLabels := some labels, matchExpressions }) := by
          simp only [getNamespaces, if_pos empty]
        rw [serves_iff_of_built built]
        exact selectsExactly_of_missing_iff (.inr rfl) same admitted
      · have built : getNamespaces { matchLabels := some labels, matchExpressions } =
            (labelSelectorQuery (addExpressions (.text (replaceEncodedCharacters labels))
              matchExpressions), { matchLabels := some labels, matchExpressions }) := by
          simp only [getNamespaces, if_neg empty]
        rw [serves_iff_of_built built, addExpressions_getD]
        exact iff_of_true admitted.query_selects (isEmpty_ofParts_of_labels empty)

/-- `get_pods` serves the selectors that are not empty and do not ask for the template
hash, which it takes out of the dictionary. -/
theorem getPods_serves_iff
    (admitted : (LabelSelector.ofParts matchLabels matchExpressions).Admitted) :
    Serves getPods { matchLabels, matchExpressions }
        (LabelSelector.ofParts matchLabels matchExpressions).Accepts ↔
      (LabelSelector.ofParts matchLabels matchExpressions).isEmpty = false ∧
        podTemplateHash ∉ matchLabels.getD ∅ := by
  cases matchLabels with
  | none =>
      have built : getPods { matchExpressions } =
          (labelSelectorQuery (addExpressions .none matchExpressions), { matchExpressions }) := rfl
      rw [serves_iff_of_built built, Option.getD_none,
        and_iff_left (Dict.not_mem_empty podTemplateHash)]
      exact selectsExactly_of_missing_iff (.inl rfl) rfl admitted
  | some labels =>
      by_cases empty : labels.items.isEmpty
      · have same : (some labels).getD ∅ = ∅ := Dict.ext_items (List.isEmpty_iff.mp empty)
        have built : getPods { matchLabels := some labels, matchExpressions } =
            (labelSelectorQuery (addExpressions .emptyDict matchExpressions),
              { matchLabels := some labels, matchExpressions }) := by
          simp only [getPods, Option.filter_none, if_pos empty]
        rw [serves_iff_of_built built, same, and_iff_left (Dict.not_mem_empty podTemplateHash)]
        exact selectsExactly_of_missing_iff (.inr rfl) same admitted
      · have built : getPods { matchLabels := some labels, matchExpressions } =
            (labelSelectorQuery (addExpressions
              (.text (replaceEncodedCharacters (labels.erase podTemplateHash))) matchExpressions),
              { matchLabels := some (labels.erase podTemplateHash), matchExpressions }) := by
          simp only [getPods, Option.filter_none, if_neg empty]
        rw [and_iff_right (isEmpty_ofParts_of_labels empty), Option.getD_some]
        constructor
        · intro serves present
          have kept := serves.kept
          rw [built] at kept
          have erased : labels.erase podTemplateHash = labels :=
            Option.some.inj (congrArg SelectorDict.matchLabels kept)
          rw [← erased, Dict.mem_erase] at present
          exact present.1 rfl
        · intro absent
          rw [Dict.erase_of_not_mem absent] at built
          rw [serves_iff_of_built built, addExpressions_getD]
          exact admitted.query_selects

/-- `get_pods` serves the selectors of services that are not empty. -/
theorem getPods_serves_service_iff (admitted : (LabelSelector.ofParts service none).Admitted) :
    Serves getPods { selector := service } (LabelSelector.ofParts service none).Accepts ↔
      (LabelSelector.ofParts service none).isEmpty = false := by
  cases service with
  | none =>
      have built : getPods {} = (labelSelectorQuery (addExpressions .none none), {}) := rfl
      rw [serves_iff_of_built built]
      exact selectsExactly_of_missing_iff (.inl rfl) rfl admitted
  | some labels =>
      by_cases empty : labels.items.isEmpty
      · have same : (some labels).getD ∅ = ∅ := Dict.ext_items (List.isEmpty_iff.mp empty)
        have built : getPods { selector := some labels } =
            (labelSelectorQuery (addExpressions .none none), { selector := some labels }) := by
          simp [getPods, Option.filter, empty]
        rw [serves_iff_of_built built]
        exact selectsExactly_of_missing_iff (.inl rfl) same admitted
      · have built : getPods { selector := some labels } =
            (labelSelectorQuery (addExpressions (.text (replaceEncodedCharacters labels)) none),
              { selector := some labels }) := by
          simp [getPods, Option.filter, empty, addExpressions]
        rw [serves_iff_of_built built, addExpressions_getD]
        exact iff_of_true admitted.query_selects (isEmpty_ofParts_of_labels empty)

/-- The queries select what the selectors accept, and leave them as they are, exactly for
selectors that are not empty and, for pods, do not ask for the template hash. -/
theorem label_selector_queries_iff
    (admitted : (LabelSelector.ofParts matchLabels matchExpressions).Admitted)
    (admittedService : (LabelSelector.ofParts service none).Admitted) :
    (Serves getPods { matchLabels, matchExpressions }
        (LabelSelector.ofParts matchLabels matchExpressions).Accepts ↔
      (LabelSelector.ofParts matchLabels matchExpressions).isEmpty = false ∧
        podTemplateHash ∉ matchLabels.getD ∅) ∧
    (Serves getNamespaces { matchLabels, matchExpressions }
        (LabelSelector.ofParts matchLabels matchExpressions).Accepts ↔
      (LabelSelector.ofParts matchLabels matchExpressions).isEmpty = false) ∧
    (Serves getPods { selector := service } (LabelSelector.ofParts service none).Accepts ↔
      (LabelSelector.ofParts service none).isEmpty = false) :=
  ⟨getPods_serves_iff admitted, getNamespaces_serves_iff admitted,
    getPods_serves_service_iff admittedService⟩

end Functions

/-! ## What the translation of policies assumes -/

/-- A selector as the API server gives it: parts that are empty are left out. -/
def LabelSelector.dict (selector : LabelSelector) : SelectorDict :=
  { matchLabels := if selector.matchLabels.items.isEmpty then none else some selector.matchLabels
    matchExpressions :=
      if selector.matchExpressions.isEmpty then none else some selector.matchExpressions }

/-- The API server answers `get_pods` as `podQuery` says. -/
theorem getPods_selects_podQuery {selector : LabelSelector}
    (admitted : selector.withoutTemplateHash.Admitted) :
    SelectsExactly (getPods selector.dict).1 fun labels => (podQuery selector).selects labels := by
  by_cases empty : selector.isEmpty
  · obtain ⟨noLabels, noExpressions⟩ := Bool.and_eq_true_iff.mp empty
    have built : (getPods selector.dict).1 = labelSelectorQuery .none := by
      rw [LabelSelector.dict, if_pos noLabels, if_pos noExpressions]
      rfl
    rw [built, podQuery, if_pos empty]
    exact none_selects
  · have query := admitted.query_selects
    have accepts : (fun labels => (podQuery selector).selects labels = true) =
        selector.withoutTemplateHash.Accepts := by
      funext labels
      rw [podQuery, if_neg empty]
      exact propext decide_eq_true_iff
    have expressions : (if selector.matchExpressions.isEmpty then none
        else some selector.matchExpressions).getD [] = selector.matchExpressions := by
      split
      · rename_i nothing
        exact (List.isEmpty_iff.mp nothing).symm
      · rfl
    rw [accepts]
    by_cases noLabels : selector.matchLabels.items.isEmpty
    · have some_ : selector.matchExpressions ≠ [] := by
        intro nothing
        apply empty
        rw [LabelSelector.isEmpty, noLabels, nothing]
        rfl
      have nothing : selector.matchLabels = ∅ := Dict.ext_items (List.isEmpty_iff.mp noLabels)
      have labels : selector.matchLabels.erase podTemplateHash = ∅ := by
        rw [nothing]
        rfl
      have built : (getPods selector.dict).1 = labelSelectorQuery (addExpressions .none
          (if selector.matchExpressions.isEmpty then none else some selector.matchExpressions)) := by
        rw [LabelSelector.dict, if_pos noLabels]
        rfl
      rw [built, addExpressions_of_missing (.inl rfl) (by rw [expressions]; exact some_),
        expressions, ← labels]
      exact query
    · have built : (getPods selector.dict).1 = labelSelectorQuery (addExpressions
          (.text (replaceEncodedCharacters (selector.matchLabels.erase podTemplateHash)))
          (if selector.matchExpressions.isEmpty then none else some selector.matchExpressions)) := by
        simp only [LabelSelector.dict, getPods, Option.filter_none, if_neg noLabels]
      rw [built, addExpressions_getD, expressions]
      exact query

/-! ## Pods that are not canaries -/

namespace Canary

def labels : Labels :=
  (∅ : Labels).set "app.kubernetes.io/name" "web"

def expressions : List Expression :=
  [{ key := "tier", operator := .notIn, values := ["db", ""] }, { key := "canary", operator := .doesNotExist }]

theorem admitted : (LabelSelector.ofParts (some labels) (some expressions)).Admitted where
  labels := by decide
  keys := by decide
  values := by decide
  several := by decide

theorem admittedService : (LabelSelector.ofParts (some labels) none).Admitted where
  labels := by decide
  keys := by decide
  values := by decide
  several := by decide

end Canary

/-- Labels and expressions together. -/
theorem canary_query_serves :
    Serves getPods { matchLabels := some Canary.labels, matchExpressions := some Canary.expressions }
      (LabelSelector.ofParts (some Canary.labels) (some Canary.expressions)).Accepts :=
  (label_selector_queries_iff Canary.admitted Canary.admittedService).1.mpr ⟨by decide, by decide⟩

/-- The empty selector asks for a label named `None`. -/
theorem get_pods_of_empty_selector :
    ¬∀ (matchLabels : Option Labels) (matchExpressions : Option (List Expression)),
      (LabelSelector.ofParts matchLabels matchExpressions).Admitted →
      Serves getPods { matchLabels, matchExpressions }
        (LabelSelector.ofParts matchLabels matchExpressions).Accepts := by
  intro serves
  have admitted : (LabelSelector.ofParts none none).Admitted := by
    constructor <;> decide
  have selects := (serves none none admitted).selects
  exact not_selectsExactly_of_missing (.inl rfl) rfl selects

end KuryrKubernetes.Policy

import KuryrKubernetes.Policy.GroupUpdate
import KuryrKubernetes.Policy.ParseShape

/-!
# What the comparisons give

A rule that is to be kept has its id again when the rules to delete are worked out, and is
equal to no new rule any more.  A rule that is not to be kept is equal to none anyway.  So the
positions to delete are those of rules with the bodies of all rules of the resource.
-/

namespace KuryrKubernetes.Policy.GroupUpdate

open KuryrKubernetes.Data
open KuryrKubernetes.Effect
open KuryrKubernetes.Policy.GroupCreation

/-! ## Equality -/

/-- The pods that a rule is made for. -/
def podsOf : ParsedRule → List (Option String × String)
  | .rule _ pods => (pods.pods ∅).items
  | .everything _ _ | .nested _ => []

/-- Bodies are compared by what they are without their pods, and by the pods in any order. -/
theorem same_body_iff {rule other : ParsedRule} :
    rule.same ∅ other ↔ rule.element = other.element ∧ (podsOf rule).Perm (podsOf other) := by
  cases rule <;> cases other <;> simp [ParsedRule.same, ParsedRule.element, podsOf]

theorem same_body_refl (rule : ParsedRule) : rule.same ∅ rule :=
  same_body_iff.mpr ⟨rfl, .refl _⟩

theorem same_body_symm {rule other : ParsedRule} (equal : rule.same ∅ other) :
    other.same ∅ rule := by
  rcases same_body_iff.mp equal with ⟨elements, pods⟩
  exact same_body_iff.mpr ⟨elements.symm, pods.symm⟩

theorem same_body_trans {first second third : ParsedRule} (equal : first.same ∅ second)
    (further : second.same ∅ third) : first.same ∅ third := by
  rcases same_body_iff.mp equal with ⟨elements, pods⟩
  rcases same_body_iff.mp further with ⟨elementsToo, podsToo⟩
  exact same_body_iff.mpr ⟨elements.trans elementsToo, pods.trans podsToo⟩

/-- Equal bodies ask Neutron for the same rule. -/
theorem ofParsed_of_same {rule other : ParsedRule} (equal : rule.same ∅ other) :
    RuleRequest.ofParsed rule = RuleRequest.ofParsed other := by
  have elements := (same_body_iff.mp equal).1
  cases rule <;> cases other <;> simp_all [ParsedRule.element, RuleRequest.ofParsed]

theorem same_iff {rule other : SgRuleEntry} :
    same rule other ↔ rule.body.same ∅ other.body ∧ rule.id = other.id := by
  rw [same, Bool.and_eq_true, decide_eq_true_iff]

theorem same_refl (rule : SgRuleEntry) : same rule rule :=
  same_iff.mpr ⟨same_body_refl rule.body, rfl⟩

theorem contains_iff {rules : List SgRuleEntry} {rule : SgRuleEntry} :
    contains rules rule ↔ ∃ other ∈ rules, same other rule :=
  List.any_eq_true

/-- The position of a rule in a list that has it. -/
theorem get_index {rules : List SgRuleEntry} {rule : SgRuleEntry} (member : rule ∈ rules) :
    ∃ found, rules[index rules rule]? = some found ∧ same found rule := by
  have exists_ : index rules rule < rules.length :=
    List.findIdx_lt_length_of_exists ⟨rule, member, same_refl rule⟩
  have equal : same rules[index rules rule] rule := List.findIdx_getElem (w := exists_)
  exact ⟨rules[index rules rule], List.getElem?_eq_getElem exists_, equal⟩

/-! ## The ids -/

theorem popId_eq_ok_iff {rule : SgRuleEntry} {id : Nat} :
    popId rule = .ok id ↔
      rule.id = some id ∧ ∃ request, RuleRequest.ofParsed rule.body = .ok request := by
  rcases rule with ⟨body, ruleId⟩
  cases body <;> cases ruleId <;> simp [popId, RuleRequest.ofParsed]

theorem map_id_of_popIds {rules : List SgRuleEntry} {ids : List Nat}
    (popped : popIds rules = .ok ids) : rules.map SgRuleEntry.id = ids.map some := by
  induction rules generalizing ids with
  | nil =>
      cases popped
      rfl
  | cons rule rest ih =>
      rw [popIds.eq_def] at popped
      dsimp only at popped
      rcases first : popId rule with ex | id
      · rw [first] at popped
        cases popped
      · rcases later : popIds rest with ex | others
        · rw [first, later] at popped
          cases popped
        · rw [first, later] at popped
          cases popped
          rw [List.map_cons, List.map_cons, ih later, (popId_eq_ok_iff.mp first).1]

/-- The ids of rules that have one, and a body for Neutron. -/
theorem popIds_eq_ok {rules : List SgRuleEntry}
    (named : ∀ rule ∈ rules, ∃ id, popId rule = .ok id) : ∃ ids, popIds rules = .ok ids := by
  induction rules with
  | nil => exact ⟨[], rfl⟩
  | cons rule rest ih =>
      rcases named rule List.mem_cons_self with ⟨id, given⟩
      rcases ih fun other member => named other (List.mem_cons_of_mem rule member) with
        ⟨ids, popped⟩
      refine ⟨id :: ids, ?_⟩
      rw [popIds, given, popped]
      rfl

/-- The ids are put back at the positions, and nowhere else. -/
theorem getElem?_putBack (sgrIds : List Nat) (rules : List SgRuleEntry) (positions : List Nat)
    (position : Nat) :
    (putBack sgrIds rules positions)[position]? =
      if position ∈ positions then
        rules[position]?.map fun rule => { rule with id := sgrIds[position]? }
      else rules[position]? := by
  induction positions generalizing rules with
  | nil => rfl
  | cons first rest ih =>
      change (putBack sgrIds (rules.modify first fun rule =>
        { rule with id := sgrIds[first]? }) rest)[position]? = _
      rw [ih, List.getElem?_modify]
      by_cases here : first = position
      · subst here
        cases rules[first]? <;> simp
      · have elsewhere : position ≠ first := fun equal => here equal.symm
        simp [here, elsewhere]

/-- Bodies do not change: a rule that has its id or not is one of the resource. -/
theorem exists_of_getElem?_putBack {sgrIds : List Nat} {existing : List SgRuleEntry}
    {positions : List Nat} {position : Nat} {found : SgRuleEntry}
    (there : (putBack sgrIds (existing.map withoutId) positions)[position]? = some found) :
    ∃ original, existing[position]? = some original ∧ original.body = found.body := by
  rw [getElem?_putBack, List.getElem?_map] at there
  rcases original : existing[position]? with _ | entry
  · rw [original] at there
    split at there <;> cases there
  · rw [original] at there
    split at there <;> cases there <;> exact ⟨entry, rfl, rfl⟩

/-! ## The positions to delete -/

/-- A rule that is equal to no new one is deleted by the id of a rule with its body. -/
theorem exists_position_of_not_contains {compared current : List SgRuleEntry}
    {rule : SgRuleEntry} (member : rule ∈ compared) (other : contains current rule = false) :
    ∃ position ∈ sgRulesToDelete compared current, ∃ found,
      compared[position]? = some found ∧ found.body.same ∅ rule.body := by
  rcases get_index member with ⟨found, there, equal⟩
  refine ⟨index compared rule, ?_, found, there, (same_iff.mp equal).1⟩
  apply List.mem_map.mpr
  refine ⟨rule, List.mem_filter.mpr ⟨member, ?_⟩, rfl⟩
  rw [other]
  rfl

/-- Rules that are equal to new ones by their bodies. -/
theorem contains_withoutId_of_same {current : List SgRuleEntry} {rule other : SgRuleEntry}
    (equal : rule.body.same ∅ other.body) (contained : contains current (withoutId rule)) :
    contains current (withoutId other) := by
  rcases contains_iff.mp contained with ⟨new, member, sameAsNew⟩
  rcases same_iff.mp sameAsNew with ⟨body, id⟩
  exact contains_iff.mpr ⟨new, member, same_iff.mpr ⟨same_body_trans body equal, id⟩⟩

/-- Whether a rule is to be kept or not, there is a rule with its body among those that are
deleted. -/
theorem exists_position (existing current : List SgRuleEntry) (sgrIds : List Nat)
    (named : sgrIds.length = existing.length) (plain : ∀ rule ∈ current, rule.id = none)
    {rule : SgRuleEntry} (member : rule ∈ existing) :
    ∃ position ∈ sgRulesToDelete
        (putBack sgrIds (existing.map withoutId)
          (sgRulesToKeep (existing.map withoutId) current)) current,
      ∃ found, existing[position]? = some found ∧ found.body.same ∅ rule.body := by
  let popped := existing.map withoutId
  let keep := sgRulesToKeep popped current
  let compared := putBack sgrIds popped keep
  have comparedIs (position : Nat) := getElem?_putBack sgrIds popped keep position
  suffices found : ∃ other ∈ compared, other.body.same ∅ rule.body ∧ contains current other = false by
    rcases found with ⟨other, listed, equal, missing⟩
    rcases exists_position_of_not_contains listed missing with
      ⟨position, toDelete, found, there, sameBody⟩
    rcases exists_of_getElem?_putBack there with ⟨original, originalThere, bodies⟩
    refine ⟨position, toDelete, original, originalThere, ?_⟩
    rw [bodies]
    exact same_body_trans sameBody equal
  have memberPopped : withoutId rule ∈ popped := List.mem_map_of_mem member
  by_cases kept : contains current (withoutId rule)
  · -- The first rule with the body has its id again.
    rcases get_index memberPopped with ⟨first, there, equal⟩
    let position := index popped (withoutId rule)
    have listed : position ∈ keep :=
      List.mem_map.mpr ⟨withoutId rule, List.mem_filter.mpr ⟨memberPopped, kept⟩, rfl⟩
    have bound : position < sgrIds.length := by
      rw [named]
      have inPopped := (List.getElem?_eq_some_iff.mp there).1
      rwa [List.length_map] at inPopped
    let other : SgRuleEntry := { first with id := some sgrIds[position] }
    have placed : compared[position]? = some other := by
      rw [comparedIs position, if_pos listed, there, Option.map_some,
        List.getElem?_eq_getElem bound]
    refine ⟨other, List.mem_of_getElem? placed, (same_iff.mp equal).1, ?_⟩
    rw [Bool.eq_false_iff]
    intro contained
    rcases contains_iff.mp contained with ⟨new, memberNew, sameAsNew⟩
    have ids := (same_iff.mp sameAsNew).2
    rw [plain new memberNew] at ids
    cases ids
  · -- No other rule with the body is kept either.
    rcases List.getElem_of_mem memberPopped with ⟨position, bound, there⟩
    have notKept : position ∉ keep := by
      intro listed
      rcases List.mem_map.mp listed with ⟨other, filtered, placed⟩
      rcases List.mem_filter.mp filtered with ⟨otherMember, contained⟩
      rcases get_index otherMember with ⟨first, firstThere, equal⟩
      rw [placed, List.getElem?_eq_getElem bound, there] at firstThere
      cases firstThere
      have otherPlain : withoutId other = other := by
        rcases List.mem_map.mp otherMember with ⟨original, _, rfl⟩
        rfl
      rw [← otherPlain] at contained
      exact kept (contains_withoutId_of_same (same_body_symm (same_iff.mp equal).1) contained)
    have unchanged : compared[position]? = some (withoutId rule) := by
      rw [comparedIs position, if_neg notKept, List.getElem?_eq_getElem bound, there]
    refine ⟨withoutId rule, List.mem_of_getElem? unchanged, same_body_refl _, ?_⟩
    exact Bool.eq_false_iff.mpr kept

/-- The positions to delete are positions of rules. -/
theorem lt_of_mem_sgRulesToDelete {compared current : List SgRuleEntry} {position : Nat}
    (listed : position ∈ sgRulesToDelete compared current) : position < compared.length := by
  rcases List.mem_map.mp listed with ⟨rule, filtered, rfl⟩
  rcases get_index (List.mem_filter.mp filtered).1 with ⟨found, there, _⟩
  exact (List.getElem?_eq_some_iff.mp there).1

theorem length_putBack (sgrIds : List Nat) (rules : List SgRuleEntry) (positions : List Nat) :
    (putBack sgrIds rules positions).length = rules.length := by
  induction positions generalizing rules with
  | nil => rfl
  | cons first rest ih =>
      change (putBack sgrIds (rules.modify first fun rule =>
        { rule with id := sgrIds[first]? }) rest).length = _
      rw [ih, List.length_modify]

/-! ## Ids of new rules -/

namespace NewRules

/-- Ids are written into rules with a body, and nothing else changes. -/
structure Assigned (body : ParsedRule) (id : Nat) (before after : NewRules) : Prop where
  bodies : ∀ direction, (after.list direction).map SgRuleEntry.body =
    (before.list direction).map SgRuleEntry.body
  ids : ∀ reference rule, after.get? reference = some rule →
    ∃ old, before.get? reference = some old ∧
      (rule.id = old.id ∨ rule.id = some id ∧ old.body.same ∅ body)

/-- The rule of a reference once bodies have stayed. -/
theorem get?_of_bodies {before after : NewRules}
    (bodies : ∀ direction, (after.list direction).map SgRuleEntry.body =
      (before.list direction).map SgRuleEntry.body)
    {reference : Reference} {rule : SgRuleEntry} (there : before.get? reference = some rule) :
    ∃ later, after.get? reference = some later ∧ later.body = rule.body := by
  have mapped : ((after.list reference.1).map SgRuleEntry.body)[reference.2]? = some rule.body := by
    rw [bodies, List.getElem?_map]
    exact congrArg (Option.map SgRuleEntry.body) there
  rw [List.getElem?_map] at mapped
  exact Option.map_eq_some_iff.mp mapped

namespace Assigned

variable {body : ParsedRule} {id : Nat}

theorem refl (rules : NewRules) : Assigned body id rules rules :=
  ⟨fun _ => rfl, fun _ rule there => ⟨rule, there, .inl rfl⟩⟩

theorem trans {before middle after : NewRules} (first : Assigned body id before middle)
    (second : Assigned body id middle after) : Assigned body id before after where
  bodies direction := (second.bodies direction).trans (first.bodies direction)
  ids reference rule there := by
    rcases second.ids reference rule there with ⟨later, laterThere, laterId⟩
    rcases first.ids reference later laterThere with ⟨old, oldThere, oldId⟩
    refine ⟨old, oldThere, ?_⟩
    rcases get?_of_bodies first.bodies oldThere with ⟨other, otherThere, bodies⟩
    rw [laterThere] at otherThere
    cases otherThere
    rcases laterId with kept | ⟨written, equal⟩
    · rw [kept]
      exact oldId
    · rw [bodies] at equal
      exact .inr ⟨written, equal⟩

/-- A rule keeps an id that is the one written. -/
theorem id_of_id {before after : NewRules} (assigned : Assigned body id before after)
    {reference : Reference} {old rule : SgRuleEntry} (was : before.get? reference = some old)
    (there : after.get? reference = some rule) (had : old.id = some id) : rule.id = some id := by
  rcases assigned.ids reference rule there with ⟨other, otherThere, kept | ⟨written, _⟩⟩
  · rw [was] at otherThere
    cases otherThere
    exact kept.trans had
  · exact written

end Assigned

theorem get?_setId (rules : NewRules) (reference other : Reference) (id : Nat) :
    (rules.setId reference id).get? other =
      if reference = other then (rules.get? other).map fun rule => { rule with id := some id }
      else rules.get? other := by
  rcases reference with ⟨towards, position⟩
  rcases other with ⟨otherTowards, otherPosition⟩
  by_cases here : position = otherPosition <;> cases towards <;> cases otherTowards <;>
    simp [setId, get?, list, here]

theorem bodies_setId (rules : NewRules) (reference : Reference) (id : Nat) (direction : Direction) :
    ((rules.setId reference id).list direction).map SgRuleEntry.body =
      (rules.list direction).map SgRuleEntry.body := by
  apply List.ext_getElem?
  intro position
  have written := rules.get?_setId reference (direction, position) id
  unfold get? at written
  rw [List.getElem?_map, List.getElem?_map, written]
  split
  · rw [Option.map_map]
    rfl
  · rfl

/-- A turn of the loop writes the id into a rule with the body. -/
theorem assigned_assignAt {rules : NewRules} {reference : Reference} {sgRule : SgRuleEntry}
    (there : rules.get? reference = some sgRule) (direction : Direction) (id position : Nat) :
    Assigned sgRule.body id rules (rules.assignAt reference direction id position) := by
  unfold assignAt
  rw [there]
  rcases compared : rules.get? (direction, position) with _ | rule
  · exact .refl rules
  · dsimp only
    split
    · rename_i equal
      constructor
      · exact bodies_setId rules (direction, position) id
      · intro other later written
        rw [get?_setId] at written
        split at written
        · rename_i here
          rw [← here, compared, Option.map_some] at written
          cases written
          exact ⟨rule, here ▸ compared, .inr ⟨rfl, same_body_symm (same_iff.mp equal).1⟩⟩
        · exact ⟨later, written, .inl rfl⟩
    · exact .refl rules

/-- The loop writes the id into rules with the body only. -/
theorem assigned_foldl {reference : Reference} {direction : Direction} {id : Nat}
    {positions : List Nat} {rules : NewRules} {sgRule : SgRuleEntry}
    (there : rules.get? reference = some sgRule) :
    Assigned sgRule.body id rules (positions.foldl (assignAt reference direction id) rules) := by
  induction positions generalizing rules sgRule with
  | nil => exact .refl rules
  | cons position rest ih =>
      have first := assigned_assignAt there direction id position
      rcases get?_of_bodies first.bodies there with ⟨later, laterThere, body⟩
      have others := ih laterThere
      rw [body] at others
      exact first.trans others

/-- The loop finds the rule itself in its list. -/
theorem id_foldl {reference : Reference} {id : Nat} {positions : List Nat} {rules : NewRules}
    {sgRule : SgRuleEntry} (there : rules.get? reference = some sgRule)
    (listed : reference.2 ∈ positions) :
    ∃ rule, (positions.foldl (assignAt reference reference.1 id) rules).get? reference = some rule ∧
      rule.id = some id := by
  induction positions generalizing rules sgRule with
  | nil => cases listed
  | cons position rest ih =>
      have first := assigned_assignAt there reference.1 id position
      rcases get?_of_bodies first.bodies there with ⟨later, laterThere, body⟩
      by_cases here : reference.2 = position
      · have written : (rules.assignAt reference reference.1 id position).get? reference =
            some { sgRule with id := some id } := by
          have self : (reference.1, position) = reference := by rw [← here]
          unfold assignAt
          rw [self, there]
          dsimp only
          rw [if_pos (same_refl sgRule), get?_setId, if_pos rfl, there, Option.map_some]
        have others : Assigned _ id _
            (rest.foldl (assignAt reference reference.1 id)
              (rules.assignAt reference reference.1 id position)) :=
          assigned_foldl written
        rcases get?_of_bodies others.bodies written with ⟨final, finalThere, _⟩
        exact ⟨final, finalThere, others.id_of_id written finalThere rfl⟩
      · rcases List.mem_cons.mp listed with now | later
        · exact absurd now here
        · exact ih laterThere later

theorem assigned_assign {rules : NewRules} {reference : Reference} {sgRule : SgRuleEntry}
    (there : rules.get? reference = some sgRule) (direction : Direction) (id : Nat) :
    Assigned sgRule.body id rules (rules.assign reference direction id) :=
  assigned_foldl there

theorem id_assign {rules : NewRules} {reference : Reference} {sgRule : SgRuleEntry}
    (there : rules.get? reference = some sgRule) (id : Nat) :
    ∃ rule, (rules.assign reference reference.1 id).get? reference = some rule ∧
      rule.id = some id :=
  id_foldl there (List.mem_range.mpr (List.getElem?_eq_some_iff.mp there).1)

end NewRules

end KuryrKubernetes.Policy.GroupUpdate

import KuryrKubernetes.Policy.GroupReplaced

/-!
# What an update should do

A rule whose body is in the resource and in the new policy keeps its id, every other rule of
the resource goes, every new one comes, and the resource names the rules that Neutron has.
-/

namespace KuryrKubernetes.Policy.GroupUpdate

open KuryrKubernetes.Data
open KuryrKubernetes.Effect
open KuryrKubernetes.Policy.GroupCreation

/-- A resource is in step with its group: the ids of its rules are those of rules at Neutron,
which has no rule twice, and besides them there are only the rules for the CIDRs of
`_add_default_np_rules`. -/
structure InStep (site : Site) (policy : NetworkPolicy) (crd : KuryrNetPolicy) : Prop where
  found : site.resources.find? (NetworkPolicyDriver.isFor policy) = some crd
  group : crd.securityGroupId ∈ site.groups
  rules : ∀ entry ∈ crd.entries, ∃ id request, entry.id = some id ∧
    RuleRequest.ofParsed entry.body = .ok request ∧
      (site.rules crd.securityGroupId).get? id = some request
  covered : ∀ id request, (site.rules crd.securityGroupId).get? id = some request →
    (∃ cidr, request = .fromCidr cidr) ∨ ∃ entry ∈ crd.entries, entry.id = some id
  distinct : ∀ id other request, (site.rules crd.securityGroupId).get? id = some request →
    (site.rules crd.securityGroupId).get? other = some request → id = other
  below : ∀ id ∈ site.rules crd.securityGroupId, id < site.nextRule

/-- The parser has given a body for a rule of the resource. -/
def Occurs (parsed : List ParsedRule × List ParsedRule) (entry : SgRuleEntry) : Prop :=
  ∃ rule ∈ parsed.1 ++ parsed.2, entry.body.same ∅ rule

/-- What an update should do to a group and to the resource. -/
structure Updated (crd : KuryrNetPolicy) (parsed : List ParsedRule × List ParsedRule)
    (before after : Site) (updated : KuryrNetPolicy) : Prop where
  kept : ∀ entry ∈ crd.entries, Occurs parsed entry → ∀ id, entry.id = some id →
    (after.rules crd.securityGroupId).get? id = (before.rules crd.securityGroupId).get? id ∧
      ∃ later ∈ updated.entries, later.body.same ∅ entry.body ∧ later.id = some id
  deleted : ∀ entry ∈ crd.entries, ¬Occurs parsed entry → ∀ id, entry.id = some id →
    id ∉ after.rules crd.securityGroupId
  rules : ∀ request, (∃ id, (after.rules crd.securityGroupId).get? id = some request) ↔
    (∃ cidr id, request = .fromCidr cidr ∧
      (before.rules crd.securityGroupId).get? id = some request) ∨
        ∃ rule ∈ parsed.1 ++ parsed.2, RuleRequest.ofParsed rule = .ok request
  ingress : updated.ingressSgRules.map SgRuleEntry.body = parsed.1
  egress : updated.egressSgRules.map SgRuleEntry.body = parsed.2
  ids : ∀ entry ∈ updated.entries, ∃ id request, entry.id = some id ∧
    RuleRequest.ofParsed entry.body = .ok request ∧
      (after.rules crd.securityGroupId).get? id = some request

/-- An update returns, and does what it should. -/
def UpdatesRules (cluster : Cluster) (text : AddressText) (policy : NetworkPolicy) (site : Site)
    (crd : KuryrNetPolicy) : Prop :=
  ∃ parsed result after updated,
    GroupCreation.NetworkPolicyDriver.parsing cluster text policy site.answers.queries
      crd.securityGroupId = .ok parsed ∧
    exec (NetworkPolicyDriver.updateSecurityGroupRulesFromNetworkPolicy cluster text policy) site =
      (.ok result, after) ∧
    after.resources.find? (GroupCreation.NetworkPolicyDriver.isFor policy) = some updated ∧
    Updated crd parsed site after updated

/-! ## Deletions -/

theorem ofParsed_ne_fromCidr {rule : ParsedRule} {request : RuleRequest}
    (made : RuleRequest.ofParsed rule = .ok request) (cidr : String) :
    request ≠ .fromCidr cidr := by
  cases rule <;> cases made <;> exact nofun

section Steps

variable {site : Site} {policy : NetworkPolicy} {crd : KuryrNetPolicy}

theorem InStep.popIds (inStep : InStep site policy crd) :
    ∃ sgrIds, GroupUpdate.popIds crd.entries = .ok sgrIds := by
  apply popIds_eq_ok
  intro entry listed
  rcases inStep.rules entry listed with ⟨id, request, named, made, _⟩
  exact ⟨id, popId_eq_ok_iff.mpr ⟨named, request, made⟩⟩

/-- Of the rules only those for CIDRs are left. -/
theorem InStep.exec_deletions (inStep : InStep site policy crd) (served : Served site.answers)
    {sgrIds : List Nat} (popped : GroupUpdate.popIds crd.entries = .ok sgrIds)
    {current : List SgRuleEntry} (plain : ∀ rule ∈ current, rule.id = none) :
    ∃ middle, exec (deleteRules crd.securityGroupId sgrIds
        (sgRulesToDelete (putBack sgrIds (crd.entries.map withoutId)
          (sgRulesToKeep (crd.entries.map withoutId) current)) current)) site = (.ok ⟨⟩, middle) ∧
      Changed crd.securityGroupId site middle ∧
      ∀ id request, (middle.rules crd.securityGroupId).get? id = some request ↔
        (site.rules crd.securityGroupId).get? id = some request ∧
          ∃ cidr, request = .fromCidr cidr := by
  have names := map_id_of_popIds popped
  have named : sgrIds.length = crd.entries.length := by
    have lengths := congrArg List.length names
    rw [List.length_map, List.length_map] at lengths
    exact lengths.symm
  have nameAt : ∀ (position : Nat) (entry : SgRuleEntry), crd.entries[position]? = some entry →
      sgrIds[position]?.map some = some entry.id := by
    intro position entry there
    rw [← List.getElem?_map, ← names, List.getElem?_map, there]
    rfl
  have inRange : ∀ position ∈ sgRulesToDelete (putBack sgrIds (crd.entries.map withoutId)
      (sgRulesToKeep (crd.entries.map withoutId) current)) current, position < sgrIds.length := by
    intro position listed
    have bound := lt_of_mem_sgRulesToDelete listed
    rw [length_putBack, List.length_map] at bound
    rw [named]
    exact bound
  rcases exec_deleteRules crd.securityGroupId sgrIds inRange served inStep.group with
    ⟨middle, ran, changed, rules⟩
  refine ⟨middle, ran, changed, ?_⟩
  intro id request
  rw [rules id request]
  constructor
  · rintro ⟨has, stays⟩
    refine ⟨has, ?_⟩
    rcases inStep.covered id request has with base | ⟨entry, listed, entryId⟩
    · exact base
    · -- A rule with the body of the entry is deleted, and Neutron has it once.
      rcases exists_position crd.entries current sgrIds named plain listed with
        ⟨position, toDelete, found, there, equal⟩
      rcases inStep.rules found (List.mem_of_getElem? there) with
        ⟨foundId, asked, foundNamed, made, foundHas⟩
      rcases inStep.rules entry listed with ⟨entryOwn, entryAsked, entryNamed, entryMade, entryHas⟩
      rw [entryId] at entryNamed
      cases entryNamed
      rw [ofParsed_of_same equal, entryMade] at made
      cases made
      have sameId := inStep.distinct _ _ _ foundHas entryHas
      have atPosition := nameAt position found there
      rw [foundNamed, sameId] at atPosition
      rcases Option.map_eq_some_iff.mp atPosition with ⟨deletedId, deletedAt, equalId⟩
      cases equalId
      exact absurd deletedAt (stays position toDelete)
  · rintro ⟨has, cidr, rfl⟩
    refine ⟨has, ?_⟩
    intro position _ deletedAt
    have bound : position < crd.entries.length := by
      rw [← named]
      exact (List.getElem?_eq_some_iff.mp deletedAt).1
    have there := List.getElem?_eq_getElem bound
    rcases inStep.rules _ (List.getElem_mem bound) with ⟨entryId, asked, entryNamed, made, entryHas⟩
    have atPosition := nameAt position _ there
    rw [deletedAt, entryNamed] at atPosition
    cases atPosition
    rw [has] at entryHas
    cases entryHas
    exact ofParsed_ne_fromCidr made cidr rfl

/-! ## The new rules -/

/-- The rules of a direction. -/
def parsedList (parsed : List ParsedRule × List ParsedRule) : Direction → List ParsedRule
  | .ingress => parsed.1
  | .egress => parsed.2

theorem list_parsedRules (parsed : List ParsedRule × List ParsedRule) (towards : Direction) :
    (parsedRules parsed).list towards =
      (parsedList parsed towards).map fun body => { body, id := none } := by
  cases towards <;> rfl

theorem mem_parsed_iff {parsed : List ParsedRule × List ParsedRule} {rule : ParsedRule} :
    rule ∈ parsed.1 ++ parsed.2 ↔ ∃ towards, rule ∈ parsedList parsed towards := by
  rw [List.mem_append]
  constructor
  · rintro (inward | outward)
    · exact ⟨.ingress, inward⟩
    · exact ⟨.egress, outward⟩
  · rintro ⟨_ | _, listed⟩
    · exact .inl listed
    · exact .inr listed

/-- New rules have no id at first. -/
theorem get?_parsedRules {parsed : List ParsedRule × List ParsedRule} {reference : Reference}
    {rule : SgRuleEntry} (there : (parsedRules parsed).get? reference = some rule) :
    rule.id = none ∧ rule.body ∈ parsedList parsed reference.1 := by
  unfold NewRules.get? at there
  rw [list_parsedRules, List.getElem?_map] at there
  rcases Option.map_eq_some_iff.mp there with ⟨body, listed, rfl⟩
  exact ⟨rfl, List.mem_of_getElem? listed⟩

theorem exists_reference {rules : NewRules} {towards : Direction} {rule : SgRuleEntry}
    (listed : rule ∈ rules.list towards) :
    ∃ reference, reference.1 = towards ∧ rules.get? reference = some rule := by
  rcases List.getElem?_of_mem listed with ⟨position, there⟩
  exact ⟨(towards, position), rfl, there⟩

theorem mem_references {rules : NewRules} {reference : Reference} {rule : SgRuleEntry}
    (there : rules.get? reference = some rule) : reference ∈ rules.references := by
  have bound := (List.getElem?_eq_some_iff.mp there).1
  rcases reference with ⟨_ | _, position⟩
  · apply List.mem_append_left
    exact List.mem_map.mpr ⟨position, List.mem_range.mpr bound, rfl⟩
  · apply List.mem_append_right
    exact List.mem_map.mpr ⟨position, List.mem_range.mpr bound, rfl⟩

theorem plain_current (parsed : List ParsedRule × List ParsedRule) :
    ∀ rule ∈ (parsedRules parsed).current, rule.id = none := by
  intro rule listed
  rcases List.mem_append.mp listed with inward | outward
  · rcases List.mem_map.mp inward with ⟨body, _, rfl⟩
    rfl
  · rcases List.mem_map.mp outward with ⟨body, _, rfl⟩
    rfl

/-- Rules of a direction are looked for in its list. -/
theorem directed_parsedRules {parsed : List ParsedRule × List ParsedRule} {sgId : String}
    (shaped : ∀ towards, ∀ rule ∈ parsedList parsed towards, rule.For sgId towards)
    (reference : Reference) : Directed (parsedRules parsed) reference := by
  intro rule there
  have fits := shaped reference.1 rule.body (get?_parsedRules there).2
  rcases body : rule.body with ⟨made, pods⟩ | ⟨id, towards⟩ | bodies
  · rw [body] at fits
    exact ⟨.parsed made.rule, rfl, fits.2⟩
  · rw [body] at fits
    exact ⟨.everything towards, rfl, fits.2⟩
  · rw [body] at fits
    exact fits.elim

/-! ## The run -/

/-- How far an update has got when the resource is patched. -/
structure Replaced (crd : KuryrNetPolicy) (parsed : List ParsedRule × List ParsedRule)
    (added : List Reference) (before after : Site) (final : NewRules) : Prop where
  answers : after.answers = before.answers
  resources : after.resources = before.resources
  base : ∀ id cidr, (before.rules crd.securityGroupId).get? id = some (.fromCidr cidr) →
    (after.rules crd.securityGroupId).get? id = some (.fromCidr cidr)
  new : ∀ id request, (after.rules crd.securityGroupId).get? id = some request →
    ((before.rules crd.securityGroupId).get? id = some request ∧ ∃ cidr, request = .fromCidr cidr) ∨
      AskedBy (parsedRules parsed) added request ∧ before.nextRule ≤ id
  bodies : ∀ towards, (final.list towards).map SgRuleEntry.body = parsedList parsed towards
  valid : Valid crd.securityGroupId final after
  ids : ∀ reference ∈ added, ∀ rule, final.get? reference = some rule → rule.id.isSome

/-- The rules that the comparisons are made with in the end. -/
def comparedRules (crd : KuryrNetPolicy) (sgrIds : List Nat)
    (parsed : List ParsedRule × List ParsedRule) : List SgRuleEntry :=
  putBack sgrIds (crd.entries.map withoutId)
    (sgRulesToKeep (crd.entries.map withoutId) (parsedRules parsed).current)

theorem InStep.exec_replaceRules (inStep : InStep site policy crd) (served : Served site.answers)
    {sgrIds : List Nat} (popped : GroupUpdate.popIds crd.entries = .ok sgrIds)
    {parsed : List ParsedRule × List ParsedRule} {sgId : String}
    (shaped : ∀ towards, ∀ rule ∈ parsedList parsed towards, rule.For sgId towards) :
    ∃ final after, exec (NetworkPolicyDriver.replaceRules crd.securityGroupId crd.entries sgrIds (parsedRules parsed))
        site = (.ok final, after) ∧
      Replaced crd parsed (sgRulesToAdd (parsedRules parsed) (comparedRules crd sgrIds parsed))
        site after final := by
  rcases inStep.exec_deletions served popped (plain_current parsed) with
    ⟨middle, deleted, changed, left⟩
  have servedMiddle : Served middle.answers := by
    rw [changed.answers]
    exact served
  have below : ∀ id ∈ middle.rules crd.securityGroupId, id < middle.nextRule := by
    intro id used
    rcases Dict.mem_iff_exists_get?.mp used with ⟨request, there⟩
    have was := ((left id request).mp there).1
    exact (inStep.below id (Dict.mem_iff_exists_get?.mpr ⟨request, was⟩)).trans_le changed.nextRule
  have valid : Valid crd.securityGroupId (parsedRules parsed) middle := by
    intro reference rule id there hasId
    rw [(get?_parsedRules there).1] at hasId
    cases hasId
  rcases exec_addRules (sgRulesToAdd (parsedRules parsed) (comparedRules crd sgrIds parsed))
      (fun reference _ => directed_parsedRules shaped reference) servedMiddle changed.group below
      valid with
    ⟨final, after, added, grown, bodies, stillValid, ids⟩
  refine ⟨final, after, ?_, ?_⟩
  · rw [NetworkPolicyDriver.replaceRules, exec_bind_of_ok deleted]
    exact added
  · constructor
    · exact grown.changed.answers.trans changed.answers
    · exact grown.changed.resources.trans changed.resources
    · intro id cidr there
      exact grown.kept id _ ((left id _).mpr ⟨there, cidr, rfl⟩)
    · intro id request there
      rcases grown.new id request there with old | ⟨asked, fresh⟩
      · exact .inl ((left id request).mp old)
      · exact .inr ⟨asked, changed.nextRule.trans fresh⟩
    · intro towards
      rw [bodies, list_parsedRules, List.map_map]
      exact List.map_id _
    · exact stillValid
    · intro reference listed rule there
      rcases NewRules.get?_of_bodies (fun towards => (bodies towards).symm) there with
        ⟨old, oldThere, _⟩
      exact ids reference old rule oldThere there (.inl listed)

/-- The resource is patched. -/
theorem exec_patchKuryrnetworkpolicyCrd (rules : NewRules) (served : Served site.answers)
    (found : site.resources.find? (NetworkPolicyDriver.isFor policy) = some crd) :
    ∃ resources, exec (NetworkPolicyDriver.patchKuryrnetworkpolicyCrd policy crd rules) site =
        (.ok ⟨⟩, { site with resources }) ∧
      resources.find? (NetworkPolicyDriver.isFor policy) =
        some (NetworkPolicyDriver.patched policy crd rules) := by
  have named : NetworkPolicyDriver.isFor policy crd := List.find?_some found
  let replace (other : KuryrNetPolicy) : KuryrNetPolicy :=
    if NetworkPolicyDriver.sameResource crd other then NetworkPolicyDriver.patched policy other rules
    else other
  have ran : exec (NetworkPolicyDriver.patchCrd policy crd rules) site =
      (.ok ⟨⟩, { site with resources := site.resources.map replace }) := by
    have there : site.resources.any (NetworkPolicyDriver.sameResource crd) :=
      List.any_eq_true.mpr ⟨crd, List.mem_of_find?_eq_some found, by
        simp [NetworkPolicyDriver.sameResource]⟩
    unfold NetworkPolicyDriver.patchCrd kubernetes
    rw [exec_serve_of_served, exec_get_bind, if_pos there]
    · rfl
    · rw [served.kubernetes]
      rfl
  have sameName (other : KuryrNetPolicy) : NetworkPolicyDriver.isFor policy (replace other) =
      NetworkPolicyDriver.isFor policy other := by
    unfold replace
    split <;> rfl
  refine ⟨site.resources.map replace, ?_, ?_⟩
  · unfold NetworkPolicyDriver.patchKuryrnetworkpolicyCrd
    rw [exec_tryCatch, ran]
  · have samePredicate : NetworkPolicyDriver.isFor policy ∘ replace =
        NetworkPolicyDriver.isFor policy := funext sameName
    rw [List.find?_map, samePredicate, found, Option.map_some]
    simp [replace, NetworkPolicyDriver.sameResource]

/-- The resource is read. -/
theorem exec_getKuryrnetpolicyCrd (served : Served site.answers)
    (found : site.resources.find? (NetworkPolicyDriver.isFor policy) = some crd) :
    exec (GroupCreation.NetworkPolicyDriver.getKuryrnetpolicyCrd policy) site =
      (.ok (some crd), site) := by
  have ran : exec (GroupCreation.NetworkPolicyDriver.getCrd policy) site = (.ok (some crd), site) := by
    unfold GroupCreation.NetworkPolicyDriver.getCrd kubernetes
    rw [exec_serve_of_served, exec_get_bind, found]
    · rfl
    · rw [served.kubernetes]
      rfl
  unfold GroupCreation.NetworkPolicyDriver.getKuryrnetpolicyCrd
  rw [exec_tryCatch, ran]

/-! ## The update -/

section Update

variable {cluster : Cluster} {text : AddressText}
  {parsed : List ParsedRule × List ParsedRule} {sgrIds : List Nat}

/-- The parser gives rules for the directions, where it gives no list. -/
theorem shaped_of_parsing {queries : List (Option K8sException)} {sgId : Nat}
    (made : GroupCreation.NetworkPolicyDriver.parsing cluster text policy queries sgId = .ok parsed)
    (plain : ∀ bodies, ParsedRule.nested bodies ∉ parsed.1 ++ parsed.2) :
    ∀ towards, ∀ rule ∈ parsedList parsed towards, rule.For (toString sgId) towards := by
  unfold GroupCreation.NetworkPolicyDriver.parsing at made
  split at made
  · cases made
  · rcases parsed with ⟨ingress, egress⟩
    rcases (parseNetworkPolicyRules_eq_ok_iff _ _ _ _ _ _).mp made with ⟨⟨_, inward⟩, _, outward⟩
    rintro (_ | _)
    · exact for_of_plain inward fun bodies listed => plain bodies (List.mem_append_left _ listed)
    · exact for_of_plain outward fun bodies listed => plain bodies (List.mem_append_right _ listed)

/-- A new rule with a body that no rule of the resource has is to be added. -/
theorem mem_sgRulesToAdd {reference : Reference} {rule : SgRuleEntry}
    (there : (parsedRules parsed).get? reference = some rule)
    (other : ∀ entry ∈ crd.entries, ¬entry.body.same ∅ rule.body) :
    reference ∈ sgRulesToAdd (parsedRules parsed) (comparedRules crd sgrIds parsed) := by
  apply List.mem_filter.mpr
  constructor
  · exact mem_references there
  · rw [there, Option.any_some, Bool.not_eq_true', Bool.eq_false_iff]
    intro contained
    rcases contains_iff.mp contained with ⟨compared, listed, equal⟩
    rcases List.getElem?_of_mem listed with ⟨position, placed⟩
    rcases exists_of_getElem?_putBack placed with ⟨entry, entryPlaced, body⟩
    apply other entry (List.mem_of_getElem? entryPlaced)
    rw [body]
    exact (same_iff.mp equal).1

/-- An update that returns has replaced the rules. -/
theorem InStep.exists_replaced_of_ok (inStep : InStep site policy crd)
    (served : Served site.answers)
    (made : GroupCreation.NetworkPolicyDriver.parsing cluster text policy site.answers.queries
      crd.securityGroupId = .ok parsed)
    (popped : GroupUpdate.popIds crd.entries = .ok sgrIds) {result : Option LabelSelector}
    {after : Site}
    (ran : exec (NetworkPolicyDriver.updateSecurityGroupRulesFromNetworkPolicy cluster text policy)
      site = (.ok result, after)) :
    ∃ final middle, exec (NetworkPolicyDriver.replaceRules crd.securityGroupId crd.entries sgrIds
      (parsedRules parsed)) site = (.ok final, middle) := by
  unfold NetworkPolicyDriver.updateSecurityGroupRulesFromNetworkPolicy at ran
  rw [exec_bind_of_ok (exec_getKuryrnetpolicyCrd served inStep.found)] at ran
  dsimp only at ran
  unfold NetworkPolicyDriver.updateCrd at ran
  rw [exec_get_bind, made, settle_ok, exec_pure_bind, popped, settle_ok, exec_pure_bind] at ran
  rcases exec_bind_eq_ok ran with ⟨final, middle, replaced, _⟩
  exact ⟨final, middle, replaced⟩

/-- An update that returns has met no list. -/
theorem InStep.plain_of_ok (inStep : InStep site policy crd) {final : NewRules} {middle : Site}
    (ran : exec (NetworkPolicyDriver.replaceRules crd.securityGroupId crd.entries sgrIds
      (parsedRules parsed)) site = (.ok final, middle)) :
    ∀ bodies, ParsedRule.nested bodies ∉ parsed.1 ++ parsed.2 := by
  intro bodies listed
  rcases mem_parsed_iff.mp listed with ⟨towards, member⟩
  have inList : { body := .nested bodies, id := none } ∈ (parsedRules parsed).list towards := by
    rw [list_parsedRules]
    exact List.mem_map_of_mem member
  rcases exists_reference inList with ⟨reference, _, there⟩
  rcases exec_bind_eq_ok ran with ⟨_, deleted, _, added⟩
  have toAdd : reference ∈ sgRulesToAdd (parsedRules parsed) (comparedRules crd sgrIds parsed) := by
    apply mem_sgRulesToAdd there
    intro entry entryListed equal
    rcases inStep.rules entry entryListed with ⟨_, request, _, entryMade, _⟩
    rw [ofParsed_of_same equal] at entryMade
    cases entryMade
  rcases asked_of_addRules added reference toAdd _ there with ⟨request, asked⟩
  cases asked

/-- No id of the resource is left once the rules are replaced. -/
theorem InStep.gone (inStep : InStep site policy crd) {added : List Reference} {final : NewRules}
    {after : Site} (replaced : Replaced crd parsed added site after final) {entry : SgRuleEntry}
    (listed : entry ∈ crd.entries) {id : Nat} (named : entry.id = some id) :
    id ∉ after.rules crd.securityGroupId := by
  intro left
  rcases Dict.mem_iff_exists_get?.mp left with ⟨request, there⟩
  rcases inStep.rules entry listed with ⟨own, asked, ownNamed, made, has⟩
  rw [named] at ownNamed
  cases ownNamed
  rcases replaced.new id request there with ⟨was, cidr, base⟩ | ⟨_, fresh⟩
  · rw [has] at was
    cases was
    exact ofParsed_ne_fromCidr made cidr base
  · have used := inStep.below id (Dict.mem_iff_exists_get?.mpr ⟨asked, has⟩)
    exact absurd used (Nat.not_lt.mpr fresh)

/-- Where no body is both in the resource and in the new policy, the replacement of the rules
is what an update should do. -/
theorem InStep.updated_of_replaced (inStep : InStep site policy crd) {final : NewRules}
    {middle after : Site}
    (replaced : Replaced crd parsed (sgRulesToAdd (parsedRules parsed)
      (comparedRules crd sgrIds parsed)) site middle final)
    (other : ∀ entry ∈ crd.entries, ¬Occurs parsed entry) (groups : after.groups = middle.groups) :
    Updated crd parsed site after (NetworkPolicyDriver.patched policy crd final) := by
  have sameRules : after.rules crd.securityGroupId = middle.rules crd.securityGroupId := by
    unfold Site.rules
    rw [groups]
  -- Every new rule is added, so that it has an id.
  have listedNew : ∀ reference rule, (parsedRules parsed).get? reference = some rule →
      reference ∈ sgRulesToAdd (parsedRules parsed) (comparedRules crd sgrIds parsed) := by
    intro reference rule there
    apply mem_sgRulesToAdd there
    intro entry listed equal
    exact other entry listed
      ⟨rule.body, mem_parsed_iff.mpr ⟨reference.1, (get?_parsedRules there).2⟩, equal⟩
  have bodies : ∀ towards, (final.list towards).map SgRuleEntry.body =
      ((parsedRules parsed).list towards).map SgRuleEntry.body := by
    intro towards
    rw [replaced.bodies, list_parsedRules, List.map_map]
    exact (List.map_id _).symm
  have ids : ∀ towards, ∀ entry ∈ final.list towards, ∃ id request, entry.id = some id ∧
      RuleRequest.ofParsed entry.body = .ok request ∧
        (middle.rules crd.securityGroupId).get? id = some request := by
    intro towards entry listed
    rcases exists_reference listed with ⟨reference, _, there⟩
    rcases NewRules.get?_of_bodies (fun towards => (bodies towards).symm) there with
      ⟨old, oldThere, _⟩
    rcases Option.isSome_iff_exists.mp
      (replaced.ids reference (listedNew reference old oldThere) entry there) with ⟨id, hasId⟩
    rcases replaced.valid reference entry id there hasId with ⟨request, made, has⟩
    exact ⟨id, request, hasId, made, has⟩
  constructor
  · intro entry listed occurs
    exact absurd occurs (other entry listed)
  · intro entry listed _ id named
    rw [sameRules]
    exact inStep.gone replaced listed named
  · intro request
    rw [sameRules]
    constructor
    · rintro ⟨id, there⟩
      rcases replaced.new id request there with ⟨was, cidr, rfl⟩ | ⟨asked, _⟩
      · exact .inl ⟨cidr, id, rfl, was⟩
      · rcases asked with ⟨reference, _, rule, ruleThere, made⟩
        exact .inr ⟨rule.body, mem_parsed_iff.mpr ⟨_, (get?_parsedRules ruleThere).2⟩, made⟩
    · rintro (⟨cidr, id, rfl, was⟩ | ⟨rule, listed, made⟩)
      · exact ⟨id, replaced.base id cidr was⟩
      · rcases mem_parsed_iff.mp listed with ⟨towards, member⟩
        rw [← replaced.bodies towards] at member
        rcases List.mem_map.mp member with ⟨entry, entryListed, rfl⟩
        rcases ids towards entry entryListed with ⟨id, asked, _, entryMade, has⟩
        rw [made] at entryMade
        cases entryMade
        exact ⟨id, has⟩
  · exact replaced.bodies .ingress
  · exact replaced.bodies .egress
  · intro entry listed
    rw [sameRules]
    rcases List.mem_append.mp listed with inward | outward
    · exact ids .ingress entry inward
    · exact ids .egress entry outward

/-- What an update does where the parser gives no list. -/
theorem InStep.exec_update (inStep : InStep site policy crd) (served : Served site.answers)
    (popped : GroupUpdate.popIds crd.entries = .ok sgrIds)
    (made : GroupCreation.NetworkPolicyDriver.parsing cluster text policy site.answers.queries
      crd.securityGroupId = .ok parsed)
    (plain : ∀ bodies, ParsedRule.nested bodies ∉ parsed.1 ++ parsed.2) :
    ∃ result final middle resources,
      exec (NetworkPolicyDriver.updateSecurityGroupRulesFromNetworkPolicy cluster text policy) site =
        (.ok result, { middle with resources }) ∧
      Replaced crd parsed (sgRulesToAdd (parsedRules parsed) (comparedRules crd sgrIds parsed))
        site middle final ∧
      resources.find? (NetworkPolicyDriver.isFor policy) =
        some (NetworkPolicyDriver.patched policy crd final) := by
  rcases inStep.exec_replaceRules served popped (shaped_of_parsing made plain) with
    ⟨final, middle, ran, replaced⟩
  have servedMiddle : Served middle.answers := by
    rw [replaced.answers]
    exact served
  have foundMiddle : middle.resources.find? (NetworkPolicyDriver.isFor policy) = some crd := by
    rw [replaced.resources]
    exact inStep.found
  rcases exec_patchKuryrnetworkpolicyCrd final servedMiddle foundMiddle with
    ⟨resources, patched, found⟩
  refine ⟨if crd.podSelector.same policy.selectorAfterIngress then none else some crd.podSelector,
    final, middle, resources, ?_, replaced, found⟩
  unfold NetworkPolicyDriver.updateSecurityGroupRulesFromNetworkPolicy
  rw [exec_bind_of_ok (exec_getKuryrnetpolicyCrd served inStep.found)]
  dsimp only
  unfold NetworkPolicyDriver.updateCrd
  rw [exec_get_bind, made, settle_ok, exec_pure_bind, popped, settle_ok, exec_pure_bind,
    exec_bind_of_ok ran, exec_bind_of_ok patched]
  rfl

/-- A rule that is both in the resource and in the new policy does not keep its id. -/
theorem InStep.other_of_updatesRules (inStep : InStep site policy crd)
    (served : Served site.answers) (updates : UpdatesRules cluster text policy site crd) :
    ∃ parsed, GroupCreation.NetworkPolicyDriver.parsing cluster text policy
        site.answers.queries crd.securityGroupId = .ok parsed ∧
      (∀ bodies, ParsedRule.nested bodies ∉ parsed.1 ++ parsed.2) ∧
        ∀ entry ∈ crd.entries, ¬Occurs parsed entry := by
  rcases updates with ⟨parsed, result, after, updated, made, ran, found, correct⟩
  rcases inStep.popIds with ⟨sgrIds, popped⟩
  rcases inStep.exists_replaced_of_ok served made popped ran with ⟨_, _, replacedRan⟩
  have plain := inStep.plain_of_ok replacedRan
  refine ⟨parsed, made, plain, ?_⟩
  intro entry listed occurs
  rcases inStep.exec_update served popped made plain with
    ⟨_, final, middle, resources, ranToo, replaced, _⟩
  rw [ran] at ranToo
  cases ranToo
  rcases inStep.rules entry listed with ⟨id, request, named, _, has⟩
  have kept := (correct.kept entry listed occurs id named).1
  rw [has] at kept
  exact inStep.gone replaced listed named (Dict.mem_iff_exists_get?.mpr ⟨request, kept⟩)

/-- An update deletes every rule of the resource and creates every new rule.  So it does what
it should exactly where the parser returns, without a list among its rules, and gives no body
that the resource has. -/
theorem update_security_group_rules_iff (inStep : InStep site policy crd)
    (served : Served site.answers) :
    UpdatesRules cluster text policy site crd ↔
      ∃ parsed, GroupCreation.NetworkPolicyDriver.parsing cluster text policy
          site.answers.queries crd.securityGroupId = .ok parsed ∧
        (∀ bodies, ParsedRule.nested bodies ∉ parsed.1 ++ parsed.2) ∧
          ∀ entry ∈ crd.entries, ¬Occurs parsed entry := by
  constructor
  · exact inStep.other_of_updatesRules served
  · rintro ⟨parsed, made, plain, other⟩
    rcases inStep.popIds with ⟨sgrIds, popped⟩
    rcases inStep.exec_update served popped made plain with
      ⟨result, final, middle, resources, ran, replaced, found⟩
    exact ⟨parsed, result, _, _, made, ran, found, inStep.updated_of_replaced replaced other rfl⟩

end Update

end Steps

/-! A policy that opens one port to everyone; its group was made for port 8010. -/

namespace OnePort

def body (port : PortNumber) : RuleBody :=
  createSecurityGroupRuleBody (toString 0) .ingress (some port.val) none (some .tcp) none none ∅

def policy (port : PortNumber) : NetworkPolicy where
  name := "web"
  namespaceName := "shop"
  spec :=
    { ingress := [{ ports := some [{ port := some (.number port), protocol := some .tcp }] }] }
  policyTypes := some [.ingress, .egress]

def oldPort : PortNumber := ⟨8010, by decide⟩

def newPort : PortNumber := ⟨8011, by decide⟩

def entry : SgRuleEntry where
  body := (body oldPort).parsed
  id := some 5

def crd : KuryrNetPolicy where
  name := "np-web"
  namespaceName := "shop"
  securityGroupName := "sg-web"
  securityGroupId := 0
  ingressSgRules := [entry]
  egressSgRules := []
  podSelector := {}
  networkpolicySpec := (policy oldPort).spec

def group : SecurityGroup where
  name := "sg-shop-web"
  projectId := "project"
  rules := Dict.ofList [(5, .parsed (body oldPort).rule)]

def site : Site where
  groups := Dict.ofList [(0, group)]
  nextRule := 6
  resources := [crd]

theorem served : Served site.answers :=
  ⟨fun _ => rfl, fun _ => rfl⟩

theorem get?_rules {id : Nat} {request : RuleRequest}
    (there : (site.rules crd.securityGroupId).get? id = some request) :
    id = 5 ∧ request = .parsed (body oldPort).rule := by
  have member := Dict.mem_items_iff.mpr there
  rcases List.mem_singleton.mp member with ⟨⟩
  exact ⟨rfl, rfl⟩

theorem inStep (port : PortNumber) : InStep site (policy port) crd where
  found := rfl
  group := by decide
  rules := by
    intro other listed
    rw [List.mem_singleton.mp listed]
    exact ⟨5, _, rfl, rfl, rfl⟩
  covered := by
    intro id request there
    rw [(get?_rules there).1]
    exact .inr ⟨entry, List.mem_singleton_self _, rfl⟩
  distinct := by
    intro id other request first second
    rw [(get?_rules first).1, (get?_rules second).1]
  below := by
    intro id used
    rcases Dict.mem_iff_exists_get?.mp used with ⟨request, there⟩
    rw [(get?_rules there).1]
    decide

end OnePort

/-- The other port replaces the old one. -/
theorem update_security_group_rules_to_new_port :
    UpdatesRules {} ⟨fun _ _ => none, fun _ _ => []⟩ (OnePort.policy OnePort.newPort) OnePort.site
      OnePort.crd := by
  apply (update_security_group_rules_iff (OnePort.inStep OnePort.newPort) OnePort.served).mpr
  refine ⟨([(OnePort.body OnePort.newPort).parsed], []), rfl, ?_, ?_⟩
  · intro bodies listed
    cases List.mem_singleton.mp listed
  · intro entry listed occurs
    rw [List.mem_singleton.mp listed] at occurs
    rcases occurs with ⟨rule, new, equal⟩
    rw [List.mem_singleton.mp new] at equal
    exact absurd equal (by decide)

/-- The policy is updated without a change of its rules, and its rule does not keep its id. -/
theorem update_security_group_rules_recreates :
    ¬UpdatesRules {} ⟨fun _ _ => none, fun _ _ => []⟩ (OnePort.policy OnePort.oldPort)
      OnePort.site OnePort.crd := by
  intro updates
  rcases (OnePort.inStep OnePort.oldPort).other_of_updatesRules OnePort.served updates with
    ⟨parsed, made, _, other⟩
  cases made
  exact other OnePort.entry (List.mem_singleton_self _)
    ⟨OnePort.entry.body, List.mem_singleton_self _, same_body_refl _⟩

end KuryrKubernetes.Policy.GroupUpdate

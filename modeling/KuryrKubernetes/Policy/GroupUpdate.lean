import KuryrKubernetes.Policy.GroupCreation
import KuryrKubernetes.Policy.Handler

/-!
# The update of a policy

`update_security_group_rules_from_network_policy` parses a policy again and compares the
rules with those of its `KuryrNetPolicy`.  The comparisons are between bodies that have their
`id` in them or not: it is taken out of all rules of the resource, and put back into the
rules that are to be kept before the rules to delete and the rules to add are worked out.
-/

namespace KuryrKubernetes.Policy.GroupUpdate

open KuryrKubernetes.Data
open KuryrKubernetes.Effect
open KuryrKubernetes.Policy.GroupCreation

/-! ## Comparisons -/

/-- Equality of rules as Python objects, the ids included. -/
def same (rule other : SgRuleEntry) : Bool :=
  rule.body.same ∅ other.body && rule.id = other.id

/-- `rule in rules`. -/
def contains (rules : List SgRuleEntry) (rule : SgRuleEntry) : Bool :=
  rules.any (same · rule)

/-- `rules.index(rule)`: the first equal one. -/
def index (rules : List SgRuleEntry) (rule : SgRuleEntry) : Nat :=
  rules.findIdx (same · rule)

/-- `pop('id')`. -/
def popId (rule : SgRuleEntry) : Except PyException Nat :=
  match rule.body, rule.id with
  | .nested _, _ => .error .typeError
  | _, none => .error .keyError
  | _, some id => .ok id

/-- `sgr_ids`. -/
def popIds : List SgRuleEntry → Except PyException (List Nat)
  | [] => .ok []
  | rule :: rest => do
      let id ← popId rule
      let ids ← popIds rest
      return id :: ids

/-- A rule after `pop('id')`. -/
def withoutId (rule : SgRuleEntry) : SgRuleEntry :=
  { rule with id := none }

/-- `sg_rules_to_keep`. -/
def sgRulesToKeep (existing current : List SgRuleEntry) : List Nat :=
  (existing.filter (contains current)).map (index existing)

/-- The ids are put back into the rules at the positions to keep. -/
def putBack (sgrIds : List Nat) (existing : List SgRuleEntry) (positions : List Nat) :
    List SgRuleEntry :=
  positions.foldl
    (fun existing position =>
      existing.modify position fun rule => { rule with id := sgrIds[position]? })
    existing

/-- `sg_rules_to_delete`. -/
def sgRulesToDelete (existing current : List SgRuleEntry) : List Nat :=
  (existing.filter fun rule => !contains current rule).map (index existing)

/-! ## The new rules -/

/-- `i_rules` and `e_rules`, while ids are written into them. -/
structure NewRules where
  iRules : List SgRuleEntry
  eRules : List SgRuleEntry

/-- A rule object: the list that it is in and its position. -/
abbrev Reference := Direction × Nat

namespace NewRules

def list (rules : NewRules) : Direction → List SgRuleEntry
  | .ingress => rules.iRules
  | .egress => rules.eRules

/-- `current_sg_rules`. -/
def current (rules : NewRules) : List SgRuleEntry :=
  rules.iRules ++ rules.eRules

def get? (rules : NewRules) (reference : Reference) : Option SgRuleEntry :=
  (rules.list reference.1)[reference.2]?

/-- Write an id into a rule. -/
def setId (rules : NewRules) (reference : Reference) (id : Nat) : NewRules :=
  let written (list : List SgRuleEntry) : List SgRuleEntry :=
    list.modify reference.2 fun rule => { rule with id := some id }
  match reference.1 with
  | .ingress => { rules with iRules := written rules.iRules }
  | .egress => { rules with eRules := written rules.eRules }

/-- The objects of `current_sg_rules`. -/
def references (rules : NewRules) : List Reference :=
  ((List.range rules.iRules.length).map fun position => (.ingress, position)) ++
    (List.range rules.eRules.length).map fun position => (.egress, position)

/-- One turn of the loop that looks for `sg_rule` in a list.  The rule is compared as it is by
then, with the id that an earlier turn may have written into it. -/
def assignAt (reference : Reference) (direction : Direction) (id : Nat) (rules : NewRules)
    (position : Nat) : NewRules :=
  match rules.get? reference, rules.get? (direction, position) with
  | some sgRule, some rule =>
      if same sgRule rule then rules.setId (direction, position) id else rules
  | _, _ => rules

/-- The loop itself, over `i_rules` or `e_rules`. -/
def assign (rules : NewRules) (reference : Reference) (direction : Direction) (id : Nat) :
    NewRules :=
  (List.range (rules.list direction).length).foldl (assignAt reference direction id) rules

end NewRules

/-- `sg_rules_to_add`. -/
def sgRulesToAdd (rules : NewRules) (existing : List SgRuleEntry) : List Reference :=
  rules.references.filter fun reference =>
    (rules.get? reference).any fun rule => !contains existing rule

/-- Rules as the parser gives them, without ids. -/
def parsedRules (rules : List ParsedRule × List ParsedRule) : NewRules where
  iRules := rules.1.map fun body => { body, id := none }
  eRules := rules.2.map fun body => { body, id := none }

/-! ## The driver -/

/-- The list that a rule is looked for in. -/
def direction : RuleRequest → Direction
  | .parsed rule => rule.direction
  | .everything direction => direction
  | .fromCidr _ => .ingress

/-- A turn of the loop over the rules to add. -/
def addRule (sgId : Nat) (reference : Reference) (sgRule : SgRuleEntry) (rules : NewRules) :
    SiteM NewRules := do
  let request ← settle (RuleRequest.ofParsed sgRule.body)
  let sgrId ← GroupCreation.createSecurityGroupRule (.createRule reference.1 reference.2) sgId request
  return rules.assign reference (direction request) sgrId

/-- The loop over the rules to add. -/
def addRules (sgId : Nat) : List Reference → NewRules → SiteM NewRules
  | [], rules => return rules
  | reference :: rest, rules =>
      match rules.get? reference with
      | none => addRules sgId rest rules
      | some sgRule => do
          let rules ← addRule sgId reference sgRule rules
          addRules sgId rest rules

/-- The loop over the rules to delete. -/
def deleteRules (sgId : Nat) (sgrIds : List Nat) : List Nat → SiteM PUnit
  | [] => pure ⟨⟩
  | position :: rest => do
      let id ← settle (sgrIds[position]?.elim (.error .indexError) .ok)
      NetworkClient.deleteSecurityGroupRule (.deleteRule position) sgId id
      deleteRules sgId sgrIds rest

namespace NetworkPolicyDriver

variable (cluster : Cluster) (text : AddressText) (policy : NetworkPolicy)

/-- What is left of a resource, and what it gets. -/
def patched (crd : KuryrNetPolicy) (rules : NewRules) : KuryrNetPolicy :=
  { crd with
    ingressSgRules := rules.iRules
    egressSgRules := rules.eRules
    podSelector := policy.selectorAfterIngress
    networkpolicySpec := policy.spec }

/-- Two resources have the same name. -/
def sameResource (crd other : KuryrNetPolicy) : Bool :=
  crd.name = other.name ∧ crd.namespaceName = other.namespaceName

/-- The request of `patch_kuryrnetworkpolicy_crd`. -/
def patchCrd (crd : KuryrNetPolicy) (rules : NewRules) : SiteM PUnit :=
  kubernetes .patch do
    let site ← get
    if site.resources.any (sameResource crd) then
      set { site with
        resources := site.resources.map fun other =>
          if sameResource crd other then patched policy other rules else other }
    else
      throw .k8sResourceNotFound

/-- `patch_kuryrnetworkpolicy_crd`; a resource that is gone is no error. -/
def patchKuryrnetworkpolicyCrd (crd : KuryrNetPolicy) (rules : NewRules) : SiteM PUnit :=
  tryCatch (patchCrd policy crd rules) fun ex =>
    if ex = .k8sResourceNotFound then pure ⟨⟩ else throw ex

/-- The changes at Neutron, where the rules of the resource have been compared with the new
ones. -/
def replaceRules (sgId : Nat) (existing : List SgRuleEntry) (sgrIds : List Nat)
    (rules : NewRules) : SiteM NewRules := do
  let popped := existing.map withoutId
  let compared := putBack sgrIds popped (sgRulesToKeep popped rules.current)
  deleteRules sgId sgrIds (sgRulesToDelete compared rules.current)
  addRules sgId (sgRulesToAdd rules compared) rules

/-- What follows once the resource is read. -/
def updateCrd (crd : KuryrNetPolicy) : SiteM (Option LabelSelector) := do
  let site ← get
  let parsed ← settle (GroupCreation.NetworkPolicyDriver.parsing cluster text policy
    site.answers.queries crd.securityGroupId)
  let sgrIds ← settle (popIds crd.entries)
  let rules ← replaceRules crd.securityGroupId crd.entries sgrIds (parsedRules parsed)
  patchKuryrnetworkpolicyCrd policy crd rules
  return if crd.podSelector.same policy.selectorAfterIngress then none else some crd.podSelector

/-- `update_security_group_rules_from_network_policy`; `None` has no `metadata`. -/
def updateSecurityGroupRulesFromNetworkPolicy : SiteM (Option LabelSelector) := do
  let found ← GroupCreation.NetworkPolicyDriver.getKuryrnetpolicyCrd policy
  match found with
  | none => throw .typeError
  | some crd => updateCrd cluster text policy crd

end NetworkPolicyDriver

end KuryrKubernetes.Policy.GroupUpdate

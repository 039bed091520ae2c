import KuryrKubernetes.Policy.Create

/-!
# The driver for network policies

`NetworkPolicySecurityGroupsDriver`: every method goes through the `KuryrNetPolicy`
resources, works out the rules of both directions and patches the resource when a rule
was found.
-/

namespace KuryrKubernetes.Policy

open KuryrKubernetes.Data
open KuryrKubernetes.Effect

/-- The rules at Neutron and the resources of all policies. -/
structure World where
  neutron : Dict Nat SgRule := ∅
  crds : List Crd := []
  deriving DecidableEq

abbrev DriverM := Program PyException World

/-- `_parse_rules` on the rules of a resource: `matched` and the rules for its patch. -/
def parseCrdRules (snapshot : Snapshot) (subject : Subject) (direction : Direction) (crd : Crd) :
    DriverM (Bool × List CrdRule) := do
  let world ← get
  let ended := exec (parseRules snapshot direction crd subject)
    { neutron := world.neutron, crdRules := crd.sgRules direction }
  set { world with neutron := ended.2.neutron }
  match ended.1 with
  | .ok matched => return (matched, ended.2.crdRules)
  | .error ex => throw ex

/-! ## Deletion -/

/-- `delete_security_group_rule`; a rule that is gone is no error. -/
def deleteSecurityGroupRule (snapshot : Snapshot) (id : Nat) : DriverM Unit :=
  match snapshot.refusesDelete id with
  | some ex => throw ex
  | none => modify fun world => { world with neutron := world.neutron.erase id }

/-- A loop over the rules of a resource: whether a turn matched, and the rules kept. -/
def overCrdRules (turn : CrdRule → DriverM (Bool × List CrdRule)) :
    List CrdRule → DriverM (Bool × List CrdRule)
  | [] => return (false, [])
  | entry :: rest => do
      let (matched, kept) ← turn entry
      let (matchedLater, rules) ← overCrdRules turn rest
      return (matched || matchedLater, kept ++ rules)

/-- A turn of `_parse_rules_on_delete_namespace`. -/
def parseRuleOnDeleteNamespace (snapshot : Snapshot) (nsName : String) (entry : CrdRule) :
    DriverM (Bool × List CrdRule) :=
  if entry.namespaceName = some nsName then do
    deleteSecurityGroupRule snapshot entry.id
    return (true, [])
  else if entry.remoteIpPrefixes.items.isEmpty then
    return (false, [entry])
  else
    let remoteIpPrefixes := entry.remoteIpPrefixes.filter fun _ namespaceName =>
      namespaceName ≠ nsName
    let matched := entry.remoteIpPrefixes.values.contains nsName
    if remoteIpPrefixes.items.isEmpty then
      return (matched, [])
    else
      return (matched, [{ entry with remoteIpPrefixes }])

/-- `_parse_rules_on_delete_namespace`. -/
def parseRulesOnDeleteNamespace (snapshot : Snapshot) (nsName : String) :
    List CrdRule → DriverM (Bool × List CrdRule) :=
  overCrdRules (parseRuleOnDeleteNamespace snapshot nsName)

/-- A turn of `_parse_rules_on_delete_pod`. -/
def parseRuleOnDeletePod (snapshot : Snapshot) (podIp : String) (entry : CrdRule) :
    DriverM (Bool × List CrdRule) :=
  if entry.rule.remoteIpPrefix = some podIp then do
    deleteSecurityGroupRule snapshot entry.id
    return (true, [])
  else if entry.remoteIpPrefixes.items.isEmpty then
    return (false, [entry])
  else if podIp ∈ entry.remoteIpPrefixes then
    let remoteIpPrefixes := entry.remoteIpPrefixes.erase podIp
    if remoteIpPrefixes.items.isEmpty then
      return (true, [])
    else
      return (true, [{ entry with remoteIpPrefixes }])
  else
    -- The entry is not appended here, unlike for a namespace.
    return (false, [])

/-- `_parse_rules_on_delete_pod`. -/
def parseRulesOnDeletePod (snapshot : Snapshot) (podIp : String) :
    List CrdRule → DriverM (Bool × List CrdRule) :=
  overCrdRules (parseRuleOnDeletePod snapshot podIp)

/-! ## The loop over the resources -/

/-- Two resources are the same one. -/
def Crd.sameResource (crd other : Crd) : Bool :=
  crd.namespaceName = other.namespaceName ∧ crd.name = other.name

/-- A resource with other rules. -/
def Crd.withRules (crd : Crd) (iRules eRules : List CrdRule) : Crd :=
  { crd with ingressSgRules := iRules, egressSgRules := eRules }

/-- `patch_kuryrnetworkpolicy_crd`; a resource that is gone is no error. -/
def patchKuryrnetworkpolicyCrd (snapshot : Snapshot) (crd : Crd)
    (iRules eRules : List CrdRule) : DriverM Unit :=
  match snapshot.refusesPatch crd with
  | some .k8sResourceNotFound => pure ()
  | some ex => throw ex
  | none => modify fun world =>
      { world with
        crds := world.crds.map fun other =>
          if crd.sameResource other then other.withRules iRules eRules else other }

/-- A turn of the loop over the resources: the selector of the resource if a rule for
ingress was found. -/
def updateCrd (snapshot : Snapshot) (parse : Direction → Crd → DriverM (Bool × List CrdRule))
    (crd : Crd) : DriverM (List LabelSelector) := do
  let (iMatched, iRules) ← parse .ingress crd
  let (eMatched, eRules) ← parse .egress crd
  if iMatched ∨ eMatched then
    patchKuryrnetworkpolicyCrd snapshot crd iRules eRules
  else
    pure ()
  return if iMatched then [crd.podSelector] else []

/-- The loop over the resources. -/
def overCrds (turn : Crd → DriverM (List LabelSelector)) :
    List Crd → DriverM (List LabelSelector)
  | [] => return []
  | crd :: rest => do
      let selectors ← turn crd
      let more ← overCrds turn rest
      return selectors ++ more

/-- The loop over the resources that are there. -/
def overKnpCrds (turn : Crd → DriverM (List LabelSelector)) : DriverM (List LabelSelector) := do
  let world ← get
  overCrds turn world.crds

namespace NetworkPolicySecurityGroupsDriver

/-- `create_sg_rules`. -/
def createSgRules (snapshot : Snapshot) (pod : Pod) : DriverM (List LabelSelector) :=
  overKnpCrds (updateCrd snapshot (parseCrdRules snapshot (.pod pod)))

/-- `delete_sg_rules`; nothing is given back for a pod without an address. -/
def deleteSgRules (snapshot : Snapshot) (pod : Pod) : DriverM (Option (List LabelSelector)) :=
  match pod.podIp with
  | none => return none
  | some podIp => do
      let selectors ← overKnpCrds (updateCrd snapshot fun direction crd =>
        parseRulesOnDeletePod snapshot podIp (crd.sgRules direction))
      return some selectors

/-- `update_sg_rules`. -/
def updateSgRules (snapshot : Snapshot) (pod : Pod) : DriverM (List LabelSelector) := do
  match ← deleteSgRules snapshot pod with
  | none => throw .typeError
  | some deleted => do
      let created ← createSgRules snapshot pod
      return deleted ++ created

/-- `delete_namespace_sg_rules`. -/
def deleteNamespaceSgRules (snapshot : Snapshot) (namespaceObj : Namespace) :
    DriverM (List LabelSelector) :=
  overKnpCrds (updateCrd snapshot fun direction crd =>
    parseRulesOnDeleteNamespace snapshot namespaceObj.name (crd.sgRules direction))

/-- `create_namespace_sg_rules`. -/
def createNamespaceSgRules (snapshot : Snapshot) (namespaceObj : Namespace) :
    DriverM (List LabelSelector) :=
  overKnpCrds (updateCrd snapshot (parseCrdRules snapshot (.namespaceObj namespaceObj)))

/-- `update_namespace_sg_rules`. -/
def updateNamespaceSgRules (snapshot : Snapshot) (namespaceObj : Namespace) :
    DriverM (List LabelSelector) := do
  let deleted ← deleteNamespaceSgRules snapshot namespaceObj
  let created ← createNamespaceSgRules snapshot namespaceObj
  return deleted ++ created

end NetworkPolicySecurityGroupsDriver

end KuryrKubernetes.Policy

import KuryrKubernetes.Effect.Program
import KuryrKubernetes.Policy.Selector

/-!
# Security group rules of network policies

Network policies, the custom resource that keeps the rules made for one, and the
rules at Neutron.  A program works on the rules at Neutron and on the rule list of
the resource for one direction.
-/

namespace KuryrKubernetes.Policy

open KuryrKubernetes.Data
open KuryrKubernetes.Effect

/-! ## Policies -/

inductive Direction where
  | ingress
  | egress
  deriving DecidableEq

/-- Protocols of a policy port; rules have their names in lower case. -/
inductive Protocol where
  | tcp
  | udp
  | sctp
  deriving DecidableEq

/-- The value of `port` in a policy port. -/
inductive PortValue where
  | number (number : PortNumber)
  | name (name : String)
  deriving DecidableEq

/-- An element of `ports`. -/
structure PolicyPort where
  port : Option PortValue := none
  protocol : Option Protocol := none
  deriving DecidableEq

structure IpBlock where
  cidr : String
  excepted : List String := []
  deriving DecidableEq

/-- An element of `from` or `to`. -/
structure Peer where
  podSelector : Option LabelSelector := none
  namespaceSelector : Option LabelSelector := none
  ipBlock : Option IpBlock := none
  deriving DecidableEq

/-- A rule of a policy; `peers` is its `from` or `to`. -/
structure RuleBlock where
  peers : List Peer := []
  ports : Option (List PolicyPort) := none
  deriving DecidableEq

structure PolicySpec where
  ingress : List RuleBlock := []
  egress : List RuleBlock := []
  deriving DecidableEq

/-- The rules of one direction. -/
def PolicySpec.blocks (spec : PolicySpec) : Direction → List RuleBlock
  | .ingress => spec.ingress
  | .egress => spec.egress

/-! ## Rules -/

/-- A security group rule. -/
structure SgRule where
  ethertype : String := "IPv4"
  securityGroupId : String
  description : String := "Kuryr-Kubernetes NetPolicy SG rule"
  direction : Direction
  protocol : Protocol
  portRangeMin : Nat
  portRangeMax : Nat
  remoteIpPrefix : Option String := none
  deriving DecidableEq

/-- Neutron takes two rules for one: the description makes no difference. -/
def SgRule.duplicates (rule other : SgRule) : Bool :=
  rule = { other with description := rule.description }

/-- A rule with what the custom resource notes about it. -/
structure RuleBody where
  rule : SgRule
  namespaceName : Option String := none
  remoteIpPrefixes : Dict String String := ∅
  deriving DecidableEq

/-- A rule in the custom resource, with its id at Neutron. -/
structure CrdRule extends RuleBody where
  id : Nat
  deriving DecidableEq

/-- Equality of the entries, where the order of the prefixes makes no difference. -/
def CrdRule.same (first second : CrdRule) : Bool :=
  first.id = second.id ∧ first.rule = second.rule ∧
    first.namespaceName = second.namespaceName ∧
    first.remoteIpPrefixes.items.Perm second.remoteIpPrefixes.items

/-- A `KuryrNetPolicy` resource. -/
structure Crd where
  namespaceName : String
  name : String
  securityGroupId : String
  podSelector : LabelSelector := {}
  spec : PolicySpec := {}
  ingressSgRules : List CrdRule := []
  egressSgRules : List CrdRule := []
  deriving DecidableEq

/-- The rules of one direction in the resource. -/
def Crd.sgRules (crd : Crd) : Direction → List CrdRule
  | .ingress => crd.ingressSgRules
  | .egress => crd.egressSgRules

/-- `create_security_group_rule_body`. -/
def createSecurityGroupRuleBody (securityGroupId : String) (direction : Direction)
    (portRangeMin portRangeMax : Option Nat) (protocol : Option Protocol)
    (cidr namespaceName : Option String) (pods : Dict String String) : RuleBody :=
  let range :=
    match portRangeMin with
    | none | some 0 => (1, 65535)
    | some first =>
        match portRangeMax with
        | none | some 0 => (first, first)
        | some last => (first, last)
  { rule :=
      { securityGroupId
        direction
        protocol := protocol.getD .tcp
        portRangeMin := range.1
        portRangeMax := range.2
        remoteIpPrefix := cidr }
    namespaceName
    remoteIpPrefixes := pods }

/-! ## The cluster -/

/-- A namespace with the subnet in its `KuryrNetwork` resource. -/
structure Namespace where
  name : String
  labels : Labels := ∅
  subnetCidr : Option String := none
  deriving DecidableEq

/-- What the API server and Neutron answer while one event is handled, and the calls that
they refuse. -/
structure Snapshot where
  pods : List Pod := []
  namespaces : List Namespace := []
  refuses : SgRule → Option PyException := fun _ => none
  refusesDelete : Nat → Option PyException := fun _ => none
  refusesPatch : Crd → Option PyException := fun _ => none

/-- The labels of a pod. -/
def podLabels (pod : Pod) : Labels :=
  pod.labels.getD ∅

namespace Snapshot

/-- `get_pods` in a namespace. -/
def getPods (snapshot : Snapshot) (selector : LabelSelector) (namespaceName : String) :
    List Pod :=
  snapshot.pods.filter fun pod =>
    pod.namespaceName = namespaceName ∧ (podQuery selector).selects (podLabels pod)

/-- `get_pods` in all namespaces. -/
def getAllPods (snapshot : Snapshot) (selector : LabelSelector) : List Pod :=
  snapshot.pods.filter fun pod => (podQuery selector).selects (podLabels pod)

/-- `get_namespace`. -/
def getNamespace (snapshot : Snapshot) (name : String) : Option Namespace :=
  snapshot.namespaces.find? (·.name = name)

end Snapshot

/-- `get_container_ports` for all containers of a pod; ports that are asked for
without a name are those without a name. -/
def getPorts (pod : Pod) (port : Option String) : List (Pod × PortNumber) :=
  if pod.isHostNetwork then
    []
  else
    (pod.containers.flatMap Container.ports).filterMap fun containerPort =>
      if containerPort.name = port then some (pod, containerPort.containerPort) else none

/-! ## Programs -/

/-- The rules at Neutron and the rules of the resource for one direction. -/
structure ParseState where
  neutron : Dict Nat SgRule := ∅
  crdRules : List CrdRule := []
  deriving DecidableEq

abbrev PolicyM := Program PyException ParseState

/-- An id that Neutron has not given yet. -/
def freshId (neutron : Dict Nat SgRule) : Nat :=
  neutron.keys.foldr max 0 + 1

/-- The id of a rule that Neutron takes for the given one. -/
def existingId (neutron : Dict Nat SgRule) (rule : SgRule) : Option Nat :=
  (neutron.items.find? fun item => item.2.duplicates rule).map Prod.fst

/-- `create_security_group_rule`: the id of a new rule, or of the one there is. -/
def createSecurityGroupRule (snapshot : Snapshot) (rule : SgRule) : PolicyM Nat := do
  let state ← get
  match existingId state.neutron rule with
  | some id => return id
  | none =>
      match snapshot.refuses rule with
      | some ex => throw ex
      | none => do
          let id := freshId state.neutron
          set { state with neutron := state.neutron.set id rule }
          return id

/-- Create the rule of a body and give the entry for the resource. -/
def createRule (snapshot : Snapshot) (body : RuleBody) : PolicyM CrdRule := do
  let id ← createSecurityGroupRule snapshot body.rule
  return { body with id }

/-- Append an entry unless it is there. -/
def appendCrdRule (entry : CrdRule) : PolicyM Unit :=
  modify fun state =>
    if state.crdRules.any (·.same entry) then
      state
    else
      { state with crdRules := state.crdRules ++ [entry] }

/-- Create the rule of a body and append its entry. -/
def addRule (snapshot : Snapshot) (body : RuleBody) : PolicyM Unit := do
  let entry ← createRule snapshot body
  appendCrdRule entry

end KuryrKubernetes.Policy

import KuryrKubernetes.Effect.Returns
import KuryrKubernetes.Handlers.Async
import KuryrKubernetes.Policy.Driver
import KuryrKubernetes.Policy.Parse
import KuryrKubernetes.Policy.ServiceGroups

/-!
# The handler of network policies

`NetworkPolicyHandler` keeps the security group of a policy and the resource that notes
which pods it was enforced for, and puts the groups on the ports of the pods.  What the
policy allows, the rules of the group, is left out here.  Events of one policy come
through `Async`, which hands over the last one of a burst only.
-/

namespace KuryrKubernetes.Policy

open KuryrKubernetes.Data
open KuryrKubernetes.Effect
open KuryrKubernetes.Transition

/-- The resources of all policies, and at Neutron the ports with their security groups
and the groups made for policies. -/
structure GroupWorld where
  crds : List Crd := []
  ports : Dict String (List String) := ∅
  groups : List String := []
  deriving DecidableEq

abbrev HandlerM := Program PyException GroupWorld

/-- Two selectors are equal as Python objects. -/
def LabelSelector.same (first second : LabelSelector) : Bool :=
  first.matchLabels.items.Perm second.matchLabels.items ∧
    first.matchExpressions = second.matchExpressions

/-- The default port of a pod, in its VIF annotation. -/
def portId (pod : Pod) : Option String :=
  pod.podState.bind fun state => (state.vifs.get? defaultIfname).map Vif.id

/-- `pod_security_groups` and the pods of the cluster. -/
structure PodCluster where
  defaults : List String
  snapshot : Snapshot

namespace NetworkPolicyDriver

/-- `namespaced_pods`. -/
def namespacedPods (cluster : PodCluster) (policy : NetworkPolicy) : List Pod :=
  cluster.snapshot.pods.filter (·.namespaceName = policy.namespaceName)

/-- `affected_pods`. -/
def affectedPods (cluster : PodCluster) (policy : NetworkPolicy)
    (selector : Option LabelSelector) : List Pod :=
  let podSelector := selector.getD policy.podSelector
  if podSelector.isEmpty then
    namespacedPods cluster policy
  else
    cluster.snapshot.getPods podSelector policy.namespaceName

/-- The resource is the one of the policy. -/
def isCrdOf (policy : NetworkPolicy) (crd : Crd) : Bool :=
  crd.namespaceName = policy.namespaceName ∧ crd.name = "np-" ++ policy.name

/-- `get_kuryrnetpolicy_crd`. -/
def getKuryrnetpolicyCrd (policy : NetworkPolicy) : HandlerM (Option Crd) := do
  let world ← get
  return world.crds.find? (isCrdOf policy)

/-- `update_security_group_rules_from_network_policy`: the selector there was, if it is
another one. -/
def updateSecurityGroupRulesFromNetworkPolicy (policy : NetworkPolicy) (crd : Crd) :
    HandlerM (Option LabelSelector) := do
  modify fun world =>
    { world with
      crds := world.crds.map fun other =>
        if crd.sameResource other then { other with podSelector := policy.podSelector }
        else other }
  return if crd.podSelector.same policy.podSelector then none else some crd.podSelector

/-- `create_security_group_rules_from_network_policy`; Neutron gives the group the name
`newGroup`. -/
def createSecurityGroupRulesFromNetworkPolicy (policy : NetworkPolicy) (newGroup : String) :
    HandlerM PUnit :=
  modify fun world =>
    { world with
      groups := world.groups ++ [newGroup]
      crds := world.crds ++
        [{ namespaceName := policy.namespaceName
           name := "np-" ++ policy.name
           securityGroupId := newGroup
           podSelector := policy.podSelector }] }

/-- `ensure_network_policy`: the pods that the selector there was selects. -/
def ensureNetworkPolicy (cluster : PodCluster) (policy : NetworkPolicy) (newGroup : String) :
    HandlerM (List Pod) := do
  match ← getKuryrnetpolicyCrd policy with
  | some crd => do
      match ← updateSecurityGroupRulesFromNetworkPolicy policy crd with
      | some previousSelector => return affectedPods cluster policy (some previousSelector)
      | none => return []
  | none => do
      createSecurityGroupRulesFromNetworkPolicy policy newGroup
      return []

/-- `delete_np_sg`: Neutron refuses while a port has the group. -/
def deleteNpSg (sgId : String) : HandlerM PUnit := do
  let world ← get
  if world.ports.values.any (·.contains sgId) then
    throw .resourceNotReady
  else
    set { world with groups := world.groups.erase sgId }

/-- `release_network_policy`. -/
def releaseNetworkPolicy (crd : Crd) : HandlerM PUnit := do
  deleteNpSg crd.securityGroupId
  modify fun world => { world with crds := world.crds.filter (!crd.sameResource ·) }

end NetworkPolicyDriver

/-- `update_port`. -/
def updatePort (id : String) (groups : List String) : HandlerM PUnit := do
  let world ← get
  if id ∈ world.ports then
    set { world with ports := world.ports.set id groups }
  else
    throw .neutronNotFound

/-- `update_vif_sgs`. -/
def updateVifSgs (pod : Pod) (groups : List String) : HandlerM PUnit :=
  match portId pod with
  | none => pure ⟨⟩
  | some id => updatePort id groups

namespace NetworkPolicyHandler

open NetworkPolicyDriver

/-- A turn of the loop of `on_present`. -/
def updatePod (cluster : PodCluster) (pod : Pod) : HandlerM PUnit :=
  if pod.isHostNetwork then
    pure ⟨⟩
  else do
    let world ← get
    let podSgs ← settle (getPodSgs cluster.defaults world.crds pod)
    updateVifSgs pod podSgs

/-- `on_present`. -/
def onPresent (cluster : PodCluster) (policy : NetworkPolicy) (newGroup : String) :
    HandlerM PUnit := do
  let modifiedPods ← ensureNetworkPolicy cluster policy newGroup
  let matchedPods := affectedPods cluster policy none
  (modifiedPods ++ matchedPods).forM (updatePod cluster)

/-- The groups of a pod without the one of the policy. -/
def withoutSg (defaults : List String) (crdSg : String) (podSgs : List String) :
    Except PyException (List String) :=
  let left := podSgs.erase crdSg
  if !left.isEmpty then .ok left
  else if defaults.isEmpty then .error .requiredOpt
  else .ok defaults

/-- A turn of the loop of `on_deleted`. -/
def stripPod (cluster : PodCluster) (crdSg : String) (pod : Pod) : HandlerM PUnit :=
  if pod.isHostNetwork then
    pure ⟨⟩
  else do
    let world ← get
    let podSgs ← settle (getPodSgs cluster.defaults world.crds pod)
    let left ← settle (withoutSg cluster.defaults crdSg podSgs)
    tryCatch (updateVifSgs pod left) fun ex =>
      throw (if ex = .neutronNotFound then .resourceNotReady else ex)

/-- `on_deleted`. -/
def onDeleted (cluster : PodCluster) (policy : NetworkPolicy) : HandlerM PUnit := do
  let podsToUpdate := affectedPods cluster policy none
  match ← getKuryrnetpolicyCrd policy with
  | none => pure ⟨⟩
  | some crd => do
      podsToUpdate.forM (stripPod cluster crd.securityGroupId)
      releaseNetworkPolicy crd

end NetworkPolicyHandler

/-! ## Events -/

/-- An event of the policy, with the selector of the version it carries. -/
inductive PolicyEvent where
  | present (podSelector : LabelSelector)
  | deleted (podSelector : LabelSelector)
  deriving DecidableEq

/-- The policy that the events are about. -/
structure PolicyKey where
  namespaceName : String
  name : String
  deriving DecidableEq

/-- A version of the policy, without its rules. -/
def PolicyKey.version (key : PolicyKey) (podSelector : LabelSelector) : NetworkPolicy where
  namespaceName := key.namespaceName
  name := key.name
  podSelector := podSelector

/-- What handling an event leaves, whether or not an exception was raised. -/
def handlePolicy (cluster : PodCluster) (key : PolicyKey) (newGroup : String)
    (world : GroupWorld) : PolicyEvent → GroupWorld
  | .present podSelector =>
      (exec (NetworkPolicyHandler.onPresent cluster (key.version podSelector) newGroup)
        world).2
  | .deleted podSelector =>
      (exec (NetworkPolicyHandler.onDeleted cluster (key.version podSelector)) world).2

/-- The events of the policy at `Async`, and what the handler works on. -/
structure PolicySite where
  lane : Handlers.Async.Lane PolicyEvent := {}
  world : GroupWorld := {}
  deriving DecidableEq

/-- Neutron has not given a group this name. -/
def GroupWorld.isNew (world : GroupWorld) (defaults : List String) (group : String) : Bool :=
  group ∉ defaults ∧ group ∉ world.groups ∧ (∀ crd ∈ world.crds, crd.securityGroupId ≠ group) ∧
    ∀ groups ∈ world.ports.values, group ∉ groups

/-- One step of `Async`; where it calls the handler, the event is handled, and a group
that the handler creates is called `newGroup`. -/
def policyStep (depth : Nat) (cluster : PodCluster) (key : PolicyKey) (site : PolicySite)
    (label : Handlers.Async.Action PolicyEvent × String) : Option PolicySite :=
  if site.world.isNew cluster.defaults label.2 then do
    let lane ← Handlers.Async.Lane.step depth site.lane label.1
    let handed := (lane.handled.drop site.lane.handled.length).map (·.event)
    some ⟨lane, handed.foldl (handlePolicy cluster key label.2) site.world⟩
  else
    none

end KuryrKubernetes.Policy

import KuryrKubernetes.Effect.Returns
import KuryrKubernetes.Policy.Create
import KuryrKubernetes.Policy.ServiceGroups

/-!
# Translation of a whole policy

`parse_network_policy_rules`: the rule bodies for a policy as the cluster is when the
policy is handled.  The functions append to the rule list of one direction.  Pods have
containers and namespaces have a `spec`, as the API server gives them, so that what the
code asks of a resource tells the three kinds of resources apart.
-/

namespace KuryrKubernetes.Policy

open KuryrKubernetes.Data
open KuryrKubernetes.Effect

/-! ## Inputs -/

inductive PolicyType where
  | ingress
  | egress
  deriving DecidableEq

structure NetworkPolicy where
  name : String
  namespaceName : String
  podSelector : LabelSelector := {}
  spec : PolicySpec := {}
  policyTypes : Option (List PolicyType) := none
  deriving DecidableEq

/-- A service with its address. -/
structure ClusterService extends Service where
  clusterIp : Option String := none
  deriving DecidableEq

/-- A snapshot with what else the translation of a whole policy asks for:
`statusPodIp` is `status.podIP` of a pod, and `serviceSubnet` the CIDR of the subnet of
the services. -/
structure Cluster extends Snapshot where
  services : List ClusterService := []
  statusPodIp : Pod → Option String := Pod.podIp
  serviceSubnet : String := ""

/-- Arithmetic on the text of addresses: `ip_address(address) in ip_network(cidr)` where
both are well formed, and `netaddr.cidr_exclude`. -/
structure AddressText where
  contains : String → String → Option Bool
  exclude : String → String → List String

/-- What a peer stands for. -/
inductive Resource where
  | pod (pod : Pod)
  | namespaceObj (namespaceObj : Namespace)
  | cidr (cidr : String)

namespace Cluster

/-- `get_namespaces`. -/
def getNamespaces (cluster : Cluster) (selector : LabelSelector) : List Namespace :=
  let query := if selector.isEmpty then .noneLabel else Query.requirements selector
  cluster.namespaces.filter fun namespaceObj => query.selects namespaceObj.labels

/-- `get_pods` for the selector of a service. -/
def getServicePods (cluster : Cluster) (service : Service) : List Pod :=
  let query :=
    if service.selector.items.isEmpty then
      .noneLabel
    else
      Query.requirements { matchLabels := service.selector }
  cluster.pods.filter fun pod =>
    pod.namespaceName = service.namespaceName ∧ query.selects (podLabels pod)

end Cluster

/-! ## Rule bodies -/

/-- Port numbers with the pods that have them, `matched_pods`. -/
abbrev PodsOfPorts :=
  Dict Nat (Dict (Option String) String)

/-- `remote_ip_prefixes` of a body.  The loops over pods put the dictionary of a port into
the bodies and go on adding to it. -/
inductive RemotePods where
  | shared (containerPort : Nat)
  | settled (pods : Dict (Option String) String)
  deriving DecidableEq

/-- The dictionary itself. -/
def RemotePods.pods (matchedPods : PodsOfPorts) : RemotePods → Dict (Option String) String
  | shared containerPort => matchedPods.getD containerPort ∅
  | settled pods => pods

/-- An element of the rule lists: a body of `create_security_group_rule_body` with the
pods it is made for, or the body of `_create_default_sg_rule`, which has neither a
protocol nor ports.  In one place a whole list of bodies becomes an element. -/
inductive ParsedRule where
  | rule (body : RuleBody) (remotePods : RemotePods)
  | everything (securityGroupId : String) (direction : Direction)
  | nested (bodies : List RuleBody)
  deriving DecidableEq

namespace ParsedRule

/-- Equality of elements, where the order of the pods makes no difference. -/
def same (matchedPods : PodsOfPorts) : ParsedRule → ParsedRule → Bool
  | rule body pods, rule other otherPods =>
      body = other ∧ (pods.pods matchedPods).items.Perm (otherPods.pods matchedPods).items
  | everything id direction, everything otherId other => id = otherId ∧ direction = other
  | nested bodies, nested others => bodies = others
  | _, _ => false

/-- The loops over pods are done. -/
def settle (matchedPods : PodsOfPorts) : ParsedRule → ParsedRule
  | rule body pods => rule body (.settled (pods.pods matchedPods))
  | everything id direction => everything id direction
  | nested bodies => nested bodies

end ParsedRule

/-- A body without pods. -/
def RuleBody.parsed (body : RuleBody) : ParsedRule :=
  .rule body (.settled ∅)

/-- The rule list of one direction, `sg_rule_body_list`. -/
abbrev ParseM := Program PyException (List ParsedRule)

def append (rule : ParsedRule) : ParseM PUnit :=
  modify (· ++ [rule])

def extend (bodies : List RuleBody) : ParseM PUnit :=
  modify (· ++ bodies.map RuleBody.parsed)

/-- Append a rule that is not in the list. -/
def appendNew (matchedPods : PodsOfPorts) (rule : ParsedRule) : ParseM PUnit :=
  modify fun rules => if rules.any (·.same matchedPods rule) then rules else rules ++ [rule]

/-- What the functions are called with for one direction of a policy. -/
structure Translation where
  cluster : Cluster
  text : AddressText
  policyNamespace : String
  podSelector : LabelSelector
  securityGroupId : String
  direction : Direction

namespace Translation

variable (translation : Translation)

/-- `create_security_group_rule_body` for this group. -/
def body (direction : Direction) (portRangeMin portRangeMax : Option Nat)
    (protocol : Option Protocol) (cidr namespaceName : Option String) : RuleBody :=
  createSecurityGroupRuleBody translation.securityGroupId direction portRangeMin portRangeMax
    protocol cidr namespaceName ∅

/-- `_get_resource_details`. -/
def getResourceDetails : Resource → ParseM (Option String × Option String)
  | .pod pod => return (translation.cluster.statusPodIp pod, some pod.namespaceName)
  | .cidr cidr => return (some cidr, none)
  | .namespaceObj namespaceObj =>
      match namespaceObj.subnetCidr with
      | some cidr => return (some cidr, some namespaceObj.name)
      | none => throw .resourceNotReady

/-! ## Rules for services -/

/-- `_pods_in_ip_block`. -/
def podsInIpBlock (cidr : String) : List Pod → Except PyException Bool
  | [] => .ok false
  | pod :: rest =>
      -- `ip_address(None)` and texts that are no address raise alike.
      match pod.podIp.bind fun podIp => translation.text.contains cidr podIp with
      | none => .error (.other "ValueError")
      | some true => .ok true
      | some false => podsInIpBlock cidr rest

/-- The turn for a service goes on to its address. -/
def servesResource (resource : Resource) (service : ClusterService) : Except PyException Bool :=
  match resource with
  | .pod pod =>
      .ok (!service.selector.items.isEmpty && !(podLabels pod).items.isEmpty &&
        matchLabels service.selector (podLabels pod))
  | .cidr cidr =>
      if service.namespaceName = translation.policyNamespace then
        translation.podsInIpBlock cidr (translation.cluster.getServicePods service.toService)
      else
        .ok false
  | .namespaceObj namespaceObj => .ok (service.namespaceName = namespaceObj.name)

/-- The loop over the services. -/
def svcRules (resource : Resource) (port : Option Nat) (protocol : Option Protocol) :
    List ClusterService → Except PyException (List RuleBody)
  | [] => .ok []
  | service :: rest => do
      let serves ← translation.servesResource resource service
      let rules ← svcRules resource port protocol rest
      if serves then
        match service.clusterIp with
        | none => return rules
        | some clusterIp =>
            return translation.body .egress port none protocol (some clusterIp) none :: rules
      else
        return rules

/-- `_create_svc_egress_sg_rule`. -/
def createSvcEgressSgRule (resource : Option Resource) (port : Option Nat)
    (protocol : Option Protocol) : Except PyException (List RuleBody) :=
  match resource with
  | none =>
      .ok [translation.body .egress port none protocol
        (some translation.cluster.serviceSubnet) none]
  | some resource => translation.svcRules resource port protocol translation.cluster.services

/-- The rules for services are added to those for egress. -/
def extendSvcRules (resource : Option Resource) (port : Option Nat)
    (protocol : Option Protocol) : ParseM PUnit :=
  match translation.direction with
  | .ingress => pure ⟨⟩
  | .egress => do
      let rules ← settle (translation.createSvcEgressSgRule resource port protocol)
      extend rules

/-! ## Named ports -/

/-- No egress to the pods that the policy is enforced on. -/
def skips (pod : Pod) : Bool :=
  translation.direction = .egress ∧ matchSelector translation.podSelector (podLabels pod) ∧
    translation.policyNamespace = pod.namespaceName

/-- The loop over the container ports. -/
def notePods (containerPorts : List (Pod × PortNumber)) (matchedPods : PodsOfPorts) :
    PodsOfPorts :=
  containerPorts.foldl
    (fun matchedPods (pod, containerPort) =>
      if translation.skips pod then
        matchedPods
      else
        matchedPods.alter containerPort.val ∅
          (·.set (translation.cluster.statusPodIp pod) pod.namespaceName))
    matchedPods

/-- `_create_sg_rules_with_container_ports`. -/
def createSgRulesWithContainerPorts (port : PolicyPort) (allowAll : Bool) (resource : Resource)
    (containerPorts : List (Pod × PortNumber)) (matchedPods : PodsOfPorts) :
    ParseM PodsOfPorts := do
  let details ← translation.getResourceDetails resource
  let matchedPods := translation.notePods containerPorts matchedPods
  match details.1, allowAll with
  | some cidr, false =>
      matchedPods.keys.forM fun containerPort => do
        appendNew matchedPods (.rule (translation.body translation.direction (some containerPort)
          none port.protocol (some cidr) none) (.shared containerPort))
        translation.extendSvcRules (some resource) (some containerPort) port.protocol
      return matchedPods
  | _, _ => return matchedPods

/-- The name that is asked for. -/
def portName (port : PolicyPort) : Option String :=
  match port.port with
  | some (.name name) => some name
  | _ => none

/-- `get_ports`. -/
def getPortsOf (port : PolicyPort) : Resource → List (Pod × PortNumber)
  | .pod pod => getPorts pod (portName port)
  | .namespaceObj namespaceObj =>
      (translation.cluster.pods.filter (·.namespaceName = namespaceObj.name)).flatMap fun pod =>
        getPorts pod (portName port)
  | .cidr _ => []

/-- The turns of the loops over pods and resources.  Named ports of blocks of addresses
are not supported for egress. -/
def textPortTurns (port : PolicyPort) (resources : List Resource) :
    List (Resource × List (Pod × PortNumber)) :=
  match translation.direction with
  | .ingress =>
      (translation.cluster.getPods translation.podSelector translation.policyNamespace).flatMap
        fun selectedPod =>
          resources.map fun resource => (resource, getPorts selectedPod (portName port))
  | .egress =>
      resources.filterMap fun resource =>
        match resource with
        | .cidr _ => none
        | _ => some (resource, translation.getPortsOf port resource)

/-- The loops over pods and resources. -/
def createSgRulesOnTurns (port : PolicyPort) (allowAll : Bool) :
    List (Resource × List (Pod × PortNumber)) → PodsOfPorts → ParseM PodsOfPorts
  | [], matchedPods => return matchedPods
  | (resource, containerPorts) :: rest, matchedPods => do
      let matchedPods ←
        translation.createSgRulesWithContainerPorts port allowAll resource containerPorts
          matchedPods
      createSgRulesOnTurns port allowAll rest matchedPods

/-- `_create_sg_rule_body_on_text_port`. -/
def createSgRuleBodyOnTextPort (port : PolicyPort) (resources : List Resource)
    (allowAll : Bool) : ParseM PUnit := do
  let matchedPods ←
    translation.createSgRulesOnTurns port allowAll (translation.textPortTurns port resources) ∅
  modify fun rules => rules.map (·.settle matchedPods)
  if allowAll then do
    matchedPods.items.forM fun item =>
      append (.rule (translation.body translation.direction (some item.1) none port.protocol
        none none) (.settled item.2))
    match translation.direction, matchedPods.items.getLast? with
    | .ingress, _ => pure ⟨⟩
    -- `container_port` is what the loop has left, if it was entered.
    | .egress, none => throw (.other "UnboundLocalError")
    | .egress, some (containerPort, _) =>
        translation.extendSvcRules none (some containerPort) port.protocol
  else
    pure ⟨⟩

/-! ## Numbers and all ports -/

/-- The rule for a resource that has an address: for one port, or for all. -/
def createSgRuleOnResource (port : Option (PortNumber × Option Protocol)) (resource : Resource) :
    ParseM PUnit := do
  let details ← translation.getResourceDetails resource
  match details.1 with
  | none => pure ⟨⟩
  | some cidr =>
      match port with
      | some (number, protocol) => do
          append (translation.body translation.direction (some number.val) none protocol
            (some cidr) details.2).parsed
          translation.extendSvcRules (some resource) (some number.val) protocol
      | none => do
          append (translation.body translation.direction (some 1) (some 65535) none
            (some cidr) details.2).parsed
          translation.extendSvcRules (some resource) none none

/-- `_create_sg_rule_on_number_port`. -/
def createSgRuleOnNumberPort (resources : List Resource) (number : PortNumber)
    (protocol : Option Protocol) : ParseM PUnit :=
  resources.forM (translation.createSgRuleOnResource (some (number, protocol)))

/-- `_create_all_pods_sg_rules`. -/
def createAllPodsSgRules (port : PolicyPort) : ParseM PUnit :=
  match port.port with
  | some (.number number) => do
      append (translation.body translation.direction (some number.val) none port.protocol
        none none).parsed
      translation.extendSvcRules none (some number.val) port.protocol
  | _ => translation.createSgRuleBodyOnTextPort port (translation.cluster.pods.map .pod) true

/-! ## Peers -/

/-- `_get_pods`; of the pods in several namespaces the last ones remain. -/
def getSelectedPods (podSelector : LabelSelector) (namespaceSelector : LabelSelector) :
    List Pod :=
  match (translation.cluster.getNamespaces namespaceSelector).getLast? with
  | none => []
  | some namespaceObj => translation.cluster.getPods podSelector namespaceObj.name

/-- What one peer adds in `_parse_selectors`. -/
def peerResources (peer : Peer) : Except PyException (List Resource) :=
  match peer.namespaceSelector with
  | some selector =>
      match presentSelector peer.podSelector with
      | some podSelector =>
          if selector.isEmpty then
            .ok ((translation.cluster.getAllPods podSelector).map .pod)
          else
            .ok ((translation.getSelectedPods podSelector selector).map .pod)
      | none =>
          if selector.isEmpty then
            .ok []
          else
            .ok ((translation.cluster.getNamespaces selector).map .namespaceObj)
  | none =>
      match peer.podSelector with
      | none => .ok []
      | some podSelector =>
          if podSelector.isEmpty then
            match translation.cluster.getNamespace translation.policyNamespace with
            | some namespaceObj => .ok [.namespaceObj namespaceObj]
            | none => .error .k8sResourceNotFound
          else
            .ok ((translation.cluster.getPods podSelector translation.policyNamespace).map .pod)

/-- The resources that `_parse_selectors` collects. -/
def selectorResources : List Peer → Except PyException (List Resource)
  | [] => .ok []
  | peer :: rest => do
      let resources ← translation.peerResources peer
      let others ← selectorResources rest
      return resources ++ others

/-- The resources for an `ipBlock`. -/
def blockResources (block : IpBlock) : List Resource :=
  if block.excepted.isEmpty then
    [.cidr block.cidr]
  else
    block.excepted.flatMap fun excepted =>
      (translation.text.exclude block.cidr excepted).map .cidr

/-! ## Blocks -/

/-- `selectors` of `_parse_selectors`. -/
def hasSelectors (block : RuleBlock) : Bool :=
  block.peers.any fun peer => peer.namespaceSelector.isSome || peer.podSelector.isSome

/-- `allow_all` of `_parse_selectors`. -/
def allowsAll (block : RuleBlock) : Bool :=
  block.peers.any fun peer =>
    peer.namespaceSelector.any (·.isEmpty) && (presentSelector peer.podSelector).isNone

/-- The rules of a port for the resources of a block. -/
def createSgRulesOnPort (resources : List Resource) (port : PolicyPort) : ParseM PUnit :=
  match port.port with
  | some (.number number) => translation.createSgRuleOnNumberPort resources number port.protocol
  | _ => translation.createSgRuleBodyOnTextPort port resources false

/-- One turn of the loop over `ports`. -/
def parsePort (block : RuleBlock) (resources : List Resource) (port : PolicyPort) :
    ParseM PUnit := do
  if !resources.isEmpty || allowsAll block || hasSelectors block then do
    translation.createSgRulesOnPort resources port
    if allowsAll block then
      translation.createAllPodsSgRules port
    else
      pure ⟨⟩
  else
    translation.createAllPodsSgRules port

/-- All ports for everyone.  For `egress` the rules for services are bound to the name of
the rule for all ports, and appended once more in its place, as one element. -/
def createAllPortsSgRule : ParseM PUnit :=
  match translation.direction with
  | .ingress =>
      append (translation.body .ingress (some 1) (some 65535) none none none).parsed
  | .egress => do
      let rules ← settle (translation.createSvcEgressSgRule none none none)
      extend rules
      append (.nested rules)

/-- A block without `ports`. -/
def parseAllPorts (block : RuleBlock) (resources : List Resource) : ParseM PUnit := do
  resources.forM (translation.createSgRuleOnResource none)
  if allowsAll block then
    translation.createAllPortsSgRule
  else
    pure ⟨⟩

/-- One turn of the loop over the blocks. -/
def parseBlock (block : RuleBlock) : ParseM PUnit := do
  let selected ← settle (translation.selectorResources block.peers)
  let resources :=
    selected ++ (block.peers.filterMap (·.ipBlock)).flatMap translation.blockResources
  match block.ports with
  | some ports => ports.forM (translation.parsePort block resources)
  | none => translation.parseAllPorts block resources

end Translation

/-! ## Policies -/

/-- The rules of a direction that a policy does not name. -/
def parseNoRules (translation : Translation) (policyTypes : Option (List PolicyType)) :
    ParseM PUnit :=
  match translation.direction, policyTypes with
  | .ingress, none => throw .typeError
  | .ingress, some types =>
      if types = [.egress] then
        append (.everything translation.securityGroupId .ingress)
      else
        pure ⟨⟩
  | .egress, none => pure ⟨⟩
  | .egress, some types =>
      if !types.isEmpty && !types.contains .egress then
        append (.everything translation.securityGroupId .egress)
      else
        pure ⟨⟩

/-- A policy whose first block is `{}` opens all ports. -/
def parseOpenPolicy (translation : Translation) (first : RuleBlock) : ParseM PUnit :=
  if first = {} then
    append (translation.body translation.direction none none none none none).parsed
  else
    pure ⟨⟩

/-- `_parse_sg_rules`. -/
def parseSgRules (translation : Translation) (policy : NetworkPolicy) : ParseM PUnit :=
  match policy.spec.blocks translation.direction with
  | [] => parseNoRules translation policy.policyTypes
  | first :: rest => do
      parseOpenPolicy translation first
      (first :: rest).forM translation.parseBlock

/-- A port that the translation looks up by name, also when it has none. -/
def PolicyPort.isText (port : PolicyPort) : Bool :=
  match port.port with
  | some (.number _) => false
  | _ => true

/-- The selector of the policy when `egress` is parsed: `get_pods` has popped the
template hash from it, if it was called for a named port of `ingress`. -/
def NetworkPolicy.selectorAfterIngress (policy : NetworkPolicy) : LabelSelector :=
  if policy.spec.ingress.any fun block => (block.ports.getD []).any PolicyPort.isText then
    policy.podSelector.withoutTemplateHash
  else
    policy.podSelector

/-- The translation of one direction of a policy. -/
def NetworkPolicy.translation (policy : NetworkPolicy) (cluster : Cluster) (text : AddressText)
    (securityGroupId : String) (direction : Direction) : Translation where
  cluster
  text
  policyNamespace := policy.namespaceName
  podSelector :=
    match direction with
    | .ingress => policy.podSelector
    | .egress => policy.selectorAfterIngress
  securityGroupId
  direction

/-- `parse_network_policy_rules`. -/
def parseNetworkPolicyRules (cluster : Cluster) (text : AddressText) (policy : NetworkPolicy)
    (securityGroupId : String) : Except PyException (List ParsedRule × List ParsedRule) :=
  let parse direction :=
    exec (parseSgRules (policy.translation cluster text securityGroupId direction) policy) []
  match parse .ingress with
  | (.error exception, _) => .error exception
  | (.ok _, ingress) =>
      match parse .egress with
      | (.error exception, _) => .error exception
      | (.ok _, egress) => .ok (ingress, egress)

end KuryrKubernetes.Policy

import KuryrKubernetes.Policy.Create

/-!
# Traffic

What a policy allows and what a rule at Neutron admits, as relations on the address
at the other end, the protocol and the port.  The meaning of a policy is stated here
without reference to the translation.
-/

namespace KuryrKubernetes.Policy

open KuryrKubernetes.Data

universe u

/-! ## Sources and destinations -/

/-- What a peer stands for. -/
inductive Source where
  | anyone
  | pod (pod : Pod)
  | namespaceObj (namespaceObj : Namespace)
  | ipBlock (block : IpBlock)

section

variable {Address : Type u} (covers : String → Address → Prop)

/-- Addresses at a source; `covers` tells which ones a prefix covers. -/
def Source.Covers (source : Source) (address : Address) : Prop :=
  match source with
  | .anyone => True
  | .pod known => ∃ ip ∈ known.podIp, covers ip address
  | .namespaceObj known => ∃ cidr ∈ known.subnetCidr, covers cidr address
  | .ipBlock block => covers block.cidr address ∧ ∀ prefix_ ∈ block.excepted, ¬covers prefix_ address

/-- The traffic that a rule admits. -/
def SgRule.Admits (rule : SgRule) (address : Address) (protocol : Protocol) (port : Nat) : Prop :=
  rule.protocol = protocol ∧ rule.portRangeMin ≤ port ∧ port ≤ rule.portRangeMax ∧
    ∀ prefix_ ∈ rule.remoteIpPrefix, covers prefix_ address

end

/-- A pod that there is while the event of a pod is handled. -/
def Snapshot.Knows (snapshot : Snapshot) (event pod : Pod) : Prop :=
  pod = event ∨ pod ∈ snapshot.pods

/-- The pods at a source. -/
def Source.Has (source : Source) (snapshot : Snapshot) (event pod : Pod) : Prop :=
  match source with
  | .anyone => snapshot.Knows event pod
  | .pod other => pod = other
  | .namespaceObj known => snapshot.Knows event pod ∧ pod.namespaceName = known.name
  | .ipBlock _ => False

/-! ## Peers -/

/-- A namespace is one of those that a peer is about. -/
def Peer.InNamespace (peer : Peer) (policyNamespace : String) (namespaceObj : Namespace) : Prop :=
  match peer.namespaceSelector with
  | some selector => selector.Accepts namespaceObj.labels
  | none => peer.podSelector.isSome ∧ namespaceObj.name = policyNamespace

/-- The peer is all namespaces with all their pods. -/
def Peer.isEveryone (peer : Peer) : Bool :=
  (presentSelector peer.podSelector).isNone && peer.namespaceSelector.any (·.isEmpty)

/-- A peer stands for a source. -/
def Peer.Denotes (peer : Peer) (snapshot : Snapshot) (event : Pod) (policyNamespace : String)
    (source : Source) : Prop :=
  match source with
  | .anyone => peer.isEveryone
  | .pod pod =>
      snapshot.Knows event pod ∧
        (∃ selector ∈ presentSelector peer.podSelector, selector.Accepts (podLabels pod)) ∧
        ∃ namespaceObj ∈ snapshot.namespaces, namespaceObj.name = pod.namespaceName ∧
          peer.InNamespace policyNamespace namespaceObj
  | .namespaceObj namespaceObj =>
      presentSelector peer.podSelector = none ∧ namespaceObj ∈ snapshot.namespaces ∧
        peer.InNamespace policyNamespace namespaceObj
  | .ipBlock block => peer.ipBlock = some block

/-- A block is about a source: about anyone if it has no peers. -/
def RuleBlock.Denotes (block : RuleBlock) (snapshot : Snapshot) (event : Pod)
    (policyNamespace : String) (source : Source) : Prop :=
  (block.peers = [] ∧ source = .anyone) ∨
    ∃ peer ∈ block.peers, peer.Denotes snapshot event policyNamespace source

/-! ## Ports -/

/-- A pod has a container port of the given name and number. -/
def Exposes (pod : Pod) (name : String) (port : Nat) : Prop :=
  pod.isHostNetwork = false ∧ ∃ container ∈ pod.containers, ∃ containerPort ∈ container.ports,
    containerPort.name = some name ∧ containerPort.containerPort.val = port

/-- A pod is one that the policy is enforced on. -/
def Crd.Selects (crd : Crd) (pod : Pod) : Prop :=
  pod.namespaceName = crd.namespaceName ∧
    crd.podSelector.withoutTemplateHash.Accepts (podLabels pod)

/-- A policy port allows a protocol and a port.  A name stands for the numbers that it
has at the pods which the traffic goes to. -/
def PolicyPort.Allows (policyPort : PolicyPort) (snapshot : Snapshot) (event : Pod) (crd : Crd)
    (direction : Direction) (source : Source) (protocol : Protocol) (port : Nat) : Prop :=
  policyPort.protocol.getD .tcp = protocol ∧
    match policyPort.port with
    | none => True
    | some (.number number) => port = number.val
    | some (.name name) =>
        match direction with
        | .ingress => ∃ pod ∈ snapshot.pods, crd.Selects pod ∧ Exposes pod name port
        | .egress => ∃ pod, source.Has snapshot event pod ∧ Exposes pod name port

/-- A block allows a protocol and a port; without ports it allows all. -/
def RuleBlock.AllowsPort (block : RuleBlock) (snapshot : Snapshot) (event : Pod) (crd : Crd)
    (direction : Direction) (source : Source) (protocol : Protocol) (port : Nat) : Prop :=
  match block.ports with
  | none => True
  | some ports => ports = [] ∨ ∃ policyPort ∈ ports,
      policyPort.Allows snapshot event crd direction source protocol port

/-! ## Rules that a policy allows -/

/-- A block allows some traffic. -/
def RuleBlock.Allows {Address : Type u} (block : RuleBlock) (covers : String → Address → Prop)
    (snapshot : Snapshot) (event : Pod) (crd : Crd) (direction : Direction) (address : Address)
    (protocol : Protocol) (port : Nat) : Prop :=
  ∃ source, block.Denotes snapshot event crd.namespaceName source ∧
    source.Covers covers address ∧
    block.AllowsPort snapshot event crd direction source protocol port

/-- A block is about a pod: it has no peers, or one of them includes the pod. -/
def RuleBlock.Concerns (block : RuleBlock) (snapshot : Snapshot) (crd : Crd) (pod : Pod) : Prop :=
  block.peers = [] ∨ ∃ peer ∈ block.peers, ∃ source : Source,
    peer.Denotes snapshot pod crd.namespaceName source ∧ source.Has snapshot pod pod

/-- A rule of a policy opens nothing but what one of its blocks allows, a block that is
about the pod of the event, and without a prefix only what is allowed to everyone. -/
def AllowedRule {Address : Type u} (covers : String → Address → Prop) (snapshot : Snapshot)
    (pod : Pod) (crd : Crd) (rule : SgRule) : Prop :=
  rule.securityGroupId = crd.securityGroupId ∧
    ∃ block ∈ crd.spec.blocks rule.direction,
      block.Concerns snapshot crd pod ∧
        (rule.remoteIpPrefix = none → block.peers = [] ∨ ∃ peer ∈ block.peers, peer.isEveryone) ∧
        ∀ address protocol port, rule.Admits covers address protocol port →
          block.Allows covers snapshot pod crd rule.direction address protocol port

end KuryrKubernetes.Policy

import KuryrKubernetes.Policy.Rules

/-!
# Translation of a policy for one pod or namespace

`_parse_rules`: the rules that a policy needs because of a pod or a namespace.  Each
function gives back `matched`, which tells whether a rule was found for the pod or
namespace; `None` is a `matched` that is false.
-/

namespace KuryrKubernetes.Policy

open KuryrKubernetes.Data
open KuryrKubernetes.Effect

/-! ## Named ports -/

/-- The parameters of a call for a named port. -/
structure TextPort where
  crd : Crd
  direction : Direction
  port : PolicyPort
  allowAll : Bool := false
  namespaceName : Option String := none

namespace TextPort

/-- The name that is asked for. -/
def portName (call : TextPort) : Option String :=
  match call.port.port with
  | some (.name name) => some name
  | _ => none

/-- The body of a rule for one port number. -/
def body (call : TextPort) (containerPort : Nat) (cidr : Option String)
    (pods : Dict String String) : RuleBody :=
  createSecurityGroupRuleBody call.crd.securityGroupId call.direction (some containerPort) none
    call.port.protocol cidr none pods

end TextPort

/-- `_get_crd_rule` and the update of the entry it gives, if it gives one. -/
def extendCrdRule (containerPort : Nat) (podIp podNamespace : String) :
    List CrdRule → Option (List CrdRule)
  | [] => none
  | entry :: rest =>
      if ¬entry.remoteIpPrefixes.items.isEmpty ∧ entry.rule.portRangeMin ≥ containerPort ∧
          containerPort ≤ entry.rule.portRangeMax then
        some ({ entry with
          remoteIpPrefixes := entry.remoteIpPrefixes.set podIp podNamespace } :: rest)
      else
        (extendCrdRule containerPort podIp podNamespace rest).map (entry :: ·)

/-- Port numbers with the pods that have them. -/
abbrev MatchedPods :=
  Dict Nat (Dict String String)

/-- `_create_sg_rules_with_container_ports`, on the pods matched so far. -/
def createSgRulesWithContainerPorts (snapshot : Snapshot) (call : TextPort)
    (ruleSelectedPod : Pod) :
    List (Pod × PortNumber) → Bool → MatchedPods → PolicyM (Bool × MatchedPods)
  | [], matched, matchedPods => return (matched, matchedPods)
  | (pod, containerPort) :: rest, matched, matchedPods =>
      match pod.podIp with
      | none => createSgRulesWithContainerPorts snapshot call ruleSelectedPod rest matched matchedPods
      | some podIp =>
          if call.allowAll ∨ call.namespaceName.isSome then do
            let state ← get
            match extendCrdRule containerPort podIp pod.namespaceName state.crdRules with
            | some crdRules => do
                set { state with crdRules }
                createSgRulesWithContainerPorts snapshot call ruleSelectedPod rest true matchedPods
            | none =>
                createSgRulesWithContainerPorts snapshot call ruleSelectedPod rest true
                  (matchedPods.alter containerPort ∅ (·.set podIp pod.namespaceName))
          else
            match ruleSelectedPod.podIp with
            | none =>
                createSgRulesWithContainerPorts snapshot call ruleSelectedPod rest true matchedPods
            | some ruleIp => do
                addRule snapshot (call.body containerPort (some ruleIp)
                  ((∅ : Dict String String).set podIp pod.namespaceName))
                createSgRulesWithContainerPorts snapshot call ruleSelectedPod rest true matchedPods

/-- The turns of the loops over pods: the ports to look at and the pod that the rules
select. -/
def textPortTurns (snapshot : Snapshot) (call : TextPort) (ruleSelectedPods : List Pod) :
    List (List (Pod × PortNumber) × Pod) :=
  match call.direction with
  | .ingress =>
      (snapshot.getPods call.crd.podSelector call.crd.namespaceName).flatMap fun specPod =>
        ruleSelectedPods.map fun pod => (getPorts specPod call.portName, pod)
  | .egress =>
      -- No egress to the pods that the policy is enforced on.
      (ruleSelectedPods.filter fun pod =>
        !(matchSelector call.crd.podSelector.withoutTemplateHash (podLabels pod) ∧
          call.crd.namespaceName = pod.namespaceName)).map fun pod =>
            (getPorts pod call.portName, pod)

/-- The loops over pods. -/
def createSgRulesOnTurns (snapshot : Snapshot) (call : TextPort) :
    List (List (Pod × PortNumber) × Pod) → Bool → MatchedPods → PolicyM (Bool × MatchedPods)
  | [], matched, matchedPods => return (matched, matchedPods)
  | (containerPorts, ruleSelectedPod) :: rest, matched, matchedPods => do
      let (matched, matchedPods) ←
        createSgRulesWithContainerPorts snapshot call ruleSelectedPod containerPorts matched
          matchedPods
      createSgRulesOnTurns snapshot call rest matched matchedPods

/-- `get_namespace_subnet_cidr`. -/
def getNamespaceSubnetCidr (namespaceObj : Namespace) : PolicyM String :=
  match namespaceObj.subnetCidr with
  | some cidr => return cidr
  | none => throw .resourceNotReady

/-- The rule for one port number and its pods: open to everyone, or to a namespace if
that exists. -/
def createSgRuleOnMatchedPods (snapshot : Snapshot) (call : TextPort) (containerPort : Nat)
    (pods : Dict String String) : PolicyM Unit :=
  if call.allowAll then
    addRule snapshot (call.body containerPort none pods)
  else
    match call.namespaceName.bind snapshot.getNamespace with
    | none => pure ()
    | some namespaceObj => do
        let namespaceCidr ← getNamespaceSubnetCidr namespaceObj
        addRule snapshot (call.body containerPort (some namespaceCidr) pods)

/-- `_create_sg_rule_on_text_port`. -/
def createSgRuleOnTextPort (snapshot : Snapshot) (call : TextPort)
    (ruleSelectedPods : List Pod) (matched : Bool) : PolicyM Bool := do
  let (matched, matchedPods) ←
    createSgRulesOnTurns snapshot call (textPortTurns snapshot call ruleSelectedPods) matched ∅
  matchedPods.items.forM fun item => createSgRuleOnMatchedPods snapshot call item.1 item.2
  return matched

/-! ## Peers -/

/-- `_create_sg_rule`. -/
def createSgRule (snapshot : Snapshot) (crd : Crd) (direction : Direction) (cidr : String)
    (port : Option (PortNumber × Option Protocol)) (namespaceName : Option String) :
    PolicyM CrdRule :=
  match port with
  | some (number, protocol) =>
      createRule snapshot (createSecurityGroupRuleBody crd.securityGroupId direction
        (some number) none protocol (some cidr) namespaceName ∅)
  | none =>
      createRule snapshot (createSecurityGroupRuleBody crd.securityGroupId direction
        (some 1) (some 65535) none (some cidr) namespaceName ∅)

/-- Create the rules for one address and one policy port, or for all ports. -/
def createSgRuleFor (snapshot : Snapshot) (crd : Crd) (direction : Direction) (cidr : String)
    (port : Option (PortNumber × Option Protocol)) (namespaceName : Option String) :
    PolicyM Unit := do
  let entry ← createSgRule snapshot crd direction cidr port namespaceName
  appendCrdRule entry

/-- A loop over policy ports: named ports and numbers are handled apart. -/
def overPorts (named : PolicyPort → Bool → PolicyM Bool)
    (numeric : PortNumber × Option Protocol → Bool → PolicyM Bool) :
    List PolicyPort → Bool → PolicyM Bool
  | [], matched => return matched
  | port :: rest, matched => do
      let matched ←
        match port.port with
        | some (.number number) => numeric (number, port.protocol) matched
        | _ => named port matched
      overPorts named numeric rest matched

/-- A selector that is there and not `{}`. -/
def presentSelector (selector : Option LabelSelector) : Option LabelSelector :=
  selector.filter fun selector => !selector.isEmpty

/-- `_create_sg_rules`. -/
def createSgRules (snapshot : Snapshot) (crd : Crd) (pod : Pod)
    (podSelector : Option LabelSelector) (block : RuleBlock) (direction : Direction)
    (matched : Bool) (namespaceName : Option String) (allowAll : Bool) : PolicyM Bool :=
  match pod.podIp with
  | none => return false
  | some podIp =>
      match presentSelector podSelector with
      | some selector =>
          if matchSelector selector (podLabels pod) then
            match block.ports with
            | some ports =>
                overPorts
                  (fun port matched =>
                    createSgRuleOnTextPort snapshot { crd, direction, port } [pod] matched)
                  (fun port _ => do
                    createSgRuleFor snapshot crd direction podIp (some port) namespaceName
                    return true)
                  ports matched
            | none => do
                createSgRuleFor snapshot crd direction podIp none namespaceName
                return true
          else
            return matched
      | none =>
          match block.ports with
          | some ports =>
              overPorts
                (fun port matched =>
                  createSgRuleOnTextPort snapshot
                    { crd, direction, port, allowAll, namespaceName } [pod] matched)
                (fun _ matched => return matched) ports matched
          | none => return matched

/-- `_get_namespace_labels`. -/
def getNamespaceLabels (snapshot : Snapshot) (namespaceName : String) : PolicyM Labels :=
  match snapshot.getNamespace namespaceName with
  | some namespaceObj => return namespaceObj.labels
  | none => throw .k8sResourceNotFound

/-- `_parse_selectors_on_pod`. -/
def parseSelectorsOnPod (snapshot : Snapshot) (crd : Crd) (pod : Pod) (peer : Peer)
    (block : RuleBlock) (direction : Direction) (matched : Bool) : PolicyM Bool := do
  let podNamespaceLabels ← getNamespaceLabels snapshot pod.namespaceName
  match peer.namespaceSelector with
  | some selector =>
      if selector.isEmpty then
        createSgRules snapshot crd pod peer.podSelector block direction matched none true
      else if ¬podNamespaceLabels.items.isEmpty ∧ matchSelector selector podNamespaceLabels then
        createSgRules snapshot crd pod peer.podSelector block direction matched
          (some pod.namespaceName) false
      else
        return matched
  | none =>
      if pod.namespaceName = crd.namespaceName then
        createSgRules snapshot crd pod peer.podSelector block direction matched
          (some pod.namespaceName) false
      else
        return matched

/-- Rules for the addresses of all pods that have one. -/
def createSgRulesForPods (snapshot : Snapshot) (crd : Crd) (direction : Direction)
    (port : Option (PortNumber × Option Protocol)) (namespaceName : Option String) :
    List Pod → Bool → PolicyM Bool
  | [], matched => return matched
  | pod :: rest, matched =>
      match pod.podIp with
      | none => createSgRulesForPods snapshot crd direction port namespaceName rest matched
      | some podIp => do
          createSgRuleFor snapshot crd direction podIp port namespaceName
          createSgRulesForPods snapshot crd direction port namespaceName rest true

/-- `_parse_selectors_on_namespace`. -/
def parseSelectorsOnNamespace (snapshot : Snapshot) (crd : Crd) (direction : Direction)
    (peer : Peer) (block : RuleBlock) (namespaceObj : Namespace) (matched : Bool) :
    PolicyM Bool :=
  let namespaceName := some namespaceObj.name
  match presentSelector peer.namespaceSelector with
  | none => return matched
  | some selector =>
      if namespaceObj.labels.items.isEmpty ∨ !matchSelector selector namespaceObj.labels then
        return matched
      else
        match presentSelector peer.podSelector with
        | some podSelector =>
            let pods := snapshot.getPods podSelector namespaceObj.name
            match block.ports with
            | some ports =>
                overPorts
                  (fun port matched =>
                    createSgRuleOnTextPort snapshot { crd, direction, port } pods matched)
                  (fun port _ =>
                    createSgRulesForPods snapshot crd direction (some port) namespaceName pods true)
                  ports matched
            | none =>
                createSgRulesForPods snapshot crd direction none namespaceName pods matched
        | none => do
            -- The namespace selector is used to list pods here.
            let nsPods := snapshot.getAllPods selector
            let nsCidr ← getNamespaceSubnetCidr namespaceObj
            match block.ports with
            | some ports =>
                overPorts
                  (fun port matched =>
                    createSgRuleOnTextPort snapshot { crd, direction, port } nsPods matched)
                  (fun port _ => do
                    createSgRuleFor snapshot crd direction nsCidr (some port) namespaceName
                    return true)
                  ports matched
            | none => do
                createSgRuleFor snapshot crd direction nsCidr none namespaceName
                return true

/-! ## Policies -/

/-- What a policy is parsed for. -/
inductive Subject where
  | pod (pod : Pod)
  | namespaceObj (namespaceObj : Namespace)

/-- The loop over the peers of a block. -/
def parsePeers (snapshot : Snapshot) (direction : Direction) (crd : Crd) (subject : Subject)
    (block : RuleBlock) : List Peer → Bool → PolicyM Bool
  | [], matched => return matched
  | peer :: rest, matched => do
      let matched ←
        match subject with
        | .pod pod => parseSelectorsOnPod snapshot crd pod peer block direction matched
        | .namespaceObj namespaceObj =>
            parseSelectorsOnNamespace snapshot crd direction peer block namespaceObj matched
      parsePeers snapshot direction crd subject block rest matched

/-- The end of the turn for a block: named ports that are allowed from everywhere. -/
def parseOpenPorts (snapshot : Snapshot) (direction : Direction) (crd : Crd)
    (subject : Subject) (block : RuleBlock) (matched : Bool) : PolicyM Bool :=
  match subject with
  | .pod pod =>
      if matched then
        return matched
      else
        overPorts
          (fun port matched =>
            if block.peers.isEmpty ∨ direction = .ingress then
              createSgRuleOnTextPort snapshot { crd, direction, port, allowAll := true } [pod]
                matched
            else
              return matched)
          (fun _ matched => return matched) (block.ports.getD []) matched
  | .namespaceObj _ => return matched

/-- The loop over the blocks of a policy. -/
def parseBlocks (snapshot : Snapshot) (direction : Direction) (crd : Crd)
    (subject : Subject) : List RuleBlock → Bool → PolicyM Bool
  | [], matched => return matched
  | block :: rest, matched => do
      let matched ← parsePeers snapshot direction crd subject block block.peers matched
      let matched ← parseOpenPorts snapshot direction crd subject block matched
      parseBlocks snapshot direction crd subject rest matched

/-- `_parse_rules`. -/
def parseRules (snapshot : Snapshot) (direction : Direction) (crd : Crd)
    (subject : Subject) : PolicyM Bool :=
  parseBlocks snapshot direction crd subject (crd.spec.blocks direction) false

end KuryrKubernetes.Policy

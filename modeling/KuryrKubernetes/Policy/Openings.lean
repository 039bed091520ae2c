import KuryrKubernetes.Policy.Traffic

/-!
# What a pod opens

Where the translation of a policy finds something to open for a pod, read off the
policy, the pod and the cluster, and the inputs for which this agrees with the policy.
-/

namespace KuryrKubernetes.Policy

open KuryrKubernetes.Data

/-! ## Named ports -/

/-- The numbers of ports of pods that have an address. -/
def liveNumbers (ports : List (Pod × PortNumber)) : List Nat :=
  (ports.filter (·.1.podIp.isSome)).map (·.2.val)

/-- The numbers that the loops over pods find for a named port. -/
def foundNumbers (snapshot : Snapshot) (call : TextPort) (ruleSelectedPods : List Pod) :
    List Nat :=
  (textPortTurns snapshot call ruleSelectedPods).flatMap fun turn => liveNumbers turn.1

variable (snapshot : Snapshot) (crd : Crd) (direction : Direction) (pod : Pod)

/-- A policy port opens something for the pod; `numbers` tells whether numbers do. -/
def PolicyPort.opens (policyPort : PolicyPort) (numbers : Bool) : Bool :=
  match policyPort.port with
  | some (.number _) => numbers
  | _ => !(foundNumbers snapshot { crd, direction, port := policyPort } [pod]).isEmpty

/-- A named port of the block opens something for the pod. -/
def RuleBlock.opensNamed (block : RuleBlock) : Bool :=
  (block.ports.getD []).any fun port => port.opens snapshot crd direction pod false

/-! ## Peers -/

/-- The drivers look at the pod for a peer, because of the namespace of the pod. -/
def Peer.reaches (peer : Peer) : Bool :=
  match snapshot.getNamespace pod.namespaceName with
  | none => false
  | some namespaceObj =>
      match peer.namespaceSelector with
      | some selector =>
          selector.isEmpty ||
            !namespaceObj.labels.items.isEmpty && matchSelector selector namespaceObj.labels
      | none => pod.namespaceName = crd.namespaceName

/-- The selectors of a peer open something for the pod. -/
def Peer.opens (peer : Peer) (block : RuleBlock) : Bool :=
  match presentSelector peer.podSelector with
  | some selector =>
      matchSelector selector (podLabels pod) &&
        block.ports.all fun ports => ports.any fun port =>
          port.opens snapshot crd direction pod true
  | none => block.opensNamed snapshot crd direction pod

/-- `matched` after the turn for a peer. -/
def Peer.matchedAfter (peer : Peer) (block : RuleBlock) (matched : Bool) : Bool :=
  if peer.reaches snapshot crd pod then
    match pod.podIp with
    | none => false
    | some _ => matched || peer.opens snapshot crd direction pod block
  else
    matched

/-! ## Blocks -/

/-- `matched` after the peers of a block. -/
def RuleBlock.matchedByPeers (block : RuleBlock) (matched : Bool) : Bool :=
  block.peers.foldl (fun matched peer => peer.matchedAfter snapshot crd direction pod block matched)
    matched

/-- `matched` after the turn for a block. -/
def RuleBlock.matchedAfter (block : RuleBlock) (matched : Bool) : Bool :=
  let matched := block.matchedByPeers snapshot crd direction pod matched
  matched || (block.peers.isEmpty || direction = .ingress) &&
    block.opensNamed snapshot crd direction pod

/-- No block with peers falls back to everyone: named ports are opened at the end of its
turn only if one of its peers is everyone. -/
def NoFallback : List RuleBlock → Bool → Prop
  | [], _ => True
  | block :: rest, matched =>
      (direction = .ingress → block.peers ≠ [] →
        (snapshot.getNamespace pod.namespaceName).isSome →
        block.matchedByPeers snapshot crd direction pod matched = false →
        block.opensNamed snapshot crd direction pod →
        ∃ peer ∈ block.peers, peer.isEveryone) ∧
      NoFallback rest (block.matchedAfter snapshot crd direction pod matched)

/-- The drivers read the peers of a policy as they are written, as far as they open
something for the pod. -/
structure ReadsPeers : Prop where
  /-- A selector that asks for labels opens nothing for a pod without labels. -/
  podSelectors : ∀ block ∈ crd.spec.blocks direction, ∀ peer ∈ block.peers,
    pod.podIp.isSome → peer.reaches snapshot crd pod → peer.opens snapshot crd direction pod block →
    ∀ selector ∈ presentSelector peer.podSelector,
      ¬(podLabels pod).items.isEmpty ∨ selector.matchLabels.items.isEmpty
  /-- A peer without selectors, an `ipBlock`, opens nothing. -/
  ipBlocks : ∀ block ∈ crd.spec.blocks direction, ∀ peer ∈ block.peers,
    pod.podIp.isSome → peer.reaches snapshot crd pod → peer.opens snapshot crd direction pod block →
    peer.podSelector.isSome ∨ peer.namespaceSelector.isSome
  noFallback : NoFallback snapshot crd direction pod (crd.spec.blocks direction) false

instance noFallbackDecidable : (blocks : List RuleBlock) → (matched : Bool) →
    Decidable (NoFallback snapshot crd direction pod blocks matched)
  | [], _ => inferInstanceAs (Decidable True)
  | block :: rest, matched =>
      @instDecidableAnd _ _ inferInstance
        (noFallbackDecidable rest (block.matchedAfter snapshot crd direction pod matched))

instance : Decidable (ReadsPeers snapshot crd direction pod) :=
  decidable_of_iff
    ((∀ block ∈ crd.spec.blocks direction, ∀ peer ∈ block.peers,
        ¬(pod.podIp.isSome ∧ peer.reaches snapshot crd pod ∧
          peer.opens snapshot crd direction pod block) ∨
        (∀ selector ∈ presentSelector peer.podSelector,
          ¬(podLabels pod).items.isEmpty ∨ selector.matchLabels.items.isEmpty) ∧
        (peer.podSelector.isSome ∨ peer.namespaceSelector.isSome)) ∧
      NoFallback snapshot crd direction pod (crd.spec.blocks direction) false)
    ⟨fun ⟨peers, closed⟩ =>
      { podSelectors := fun block listed peer among addressed reaches opens =>
          ((peers block listed peer among).resolve_left
            (not_not_intro ⟨addressed, reaches, opens⟩)).1
        ipBlocks := fun block listed peer among addressed reaches opens =>
          ((peers block listed peer among).resolve_left
            (not_not_intro ⟨addressed, reaches, opens⟩)).2
        noFallback := closed },
    fun reads =>
      ⟨fun block listed peer among => Classical.or_iff_not_imp_left.mpr fun open_ =>
        have ⟨addressed, reaches, opens⟩ := Classical.not_not.mp open_
        ⟨reads.podSelectors block listed peer among addressed reaches opens,
          reads.ipBlocks block listed peer among addressed reaches opens⟩,
        reads.noFallback⟩⟩

end KuryrKubernetes.Policy

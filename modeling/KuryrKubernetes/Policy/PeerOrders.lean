import KuryrKubernetes.Data.Arrangement
import KuryrKubernetes.Policy.BlockReturns

/-!
# The order of the peers in a block

What a block adds for each of its peers does not depend on the other peers, and neither does
what it adds for everyone.  Only for a named port of `egress` a peer borrows the numbers that
the peers before it bring.
-/

namespace KuryrKubernetes.Policy

open KuryrKubernetes.Data
open KuryrKubernetes.Effect

namespace Translation

variable (translation : Translation)

/-! ## Peers -/

/-- What the selectors of a peer give. -/
def selectedOf (peer : Peer) : List Resource :=
  match translation.peerResources peer with
  | .ok resources => resources
  | .error _ => []

/-- What a peer stands for, its `ipBlock` included. -/
def peerOwn (peer : Peer) : List Resource :=
  translation.selectedOf peer ++ (peer.ipBlock.map translation.blockResources).getD []

/-- The selectors of the peers are resolved. -/
def Resolved (peers : List Peer) : Prop :=
  ∀ peer ∈ peers, ∃ resources, translation.peerResources peer = .ok resources

variable {translation}

theorem selectorResources_eq_ok_iff {peers : List Peer} {selected : List Resource} :
    translation.selectorResources peers = .ok selected ↔
      translation.Resolved peers ∧ selected = peers.flatMap translation.selectedOf := by
  induction peers generalizing selected with
  | nil => simp [selectorResources, Resolved, eq_comm]
  | cons peer rest ih =>
      cases own : translation.peerResources peer with
      | error exception =>
          have raises : translation.selectorResources (peer :: rest) = .error exception := by
            simp only [selectorResources, own]
            rfl
          rw [raises]
          constructor
          · rintro ⟨⟩
          · rintro ⟨resolved, _⟩
            rcases resolved peer List.mem_cons_self with ⟨resources, found⟩
            rw [own] at found
            cases found
      | ok resources =>
          have known : translation.selectedOf peer = resources := by rw [selectedOf, own]
          have first : translation.Resolved (peer :: rest) ↔ translation.Resolved rest := by
            simp [Resolved, own]
          rw [List.flatMap_cons, known, first]
          cases others : translation.selectorResources rest with
          | error exception =>
              have raises : translation.selectorResources (peer :: rest) = .error exception := by
                simp only [selectorResources, own, others]
                rfl
              rw [raises]
              constructor
              · rintro ⟨⟩
              · rintro ⟨resolved, _⟩
                have found := ih.mpr ⟨resolved, rfl⟩
                rw [others] at found
                cases found
          | ok more =>
              have both : translation.selectorResources (peer :: rest) =
                  .ok (resources ++ more) := by
                simp only [selectorResources, own, others]
                rfl
              rcases ih.mp others with ⟨resolved, rfl⟩
              rw [both]
              simp [resolved, eq_comm]

/-- The resources of a block are those of its peers. -/
theorem blockPeers_perm (block : RuleBlock) :
    (translation.blockPeers block (block.peers.flatMap translation.selectedOf)).Perm
      (block.peers.flatMap translation.peerOwn) := by
  have blocks : (block.peers.filterMap (·.ipBlock)).flatMap translation.blockResources =
      block.peers.flatMap fun peer => (peer.ipBlock.map translation.blockResources).getD [] := by
    induction block.peers with
    | nil => rfl
    | cons peer rest ih => cases given : peer.ipBlock <;> simp [given, ih]
  rw [blockPeers, blocks]
  exact List.flatMap_append_perm _ _ _

/-! ## Named ports -/

/-- The rules of a named port are those for the numbers that the turns find. -/
theorem mem_textPortElements_iff {port : PolicyPort} {resources : List Resource}
    {element : Element} :
    element ∈ translation.textPortElements port resources false ↔
      ∃ turn number, translation.Finds (translation.textPortTurns port resources) ∅ turn number ∧
        element ∈ translation.numberElements port false turn.1 number := by
  rw [textPortElements, Set.mem_union, mem_inTurns_iff]
  simp

/-- For `ingress` every peer is paired with every number that a selected pod exposes. -/
theorem mem_textPortElements_of_ingress (ingress : translation.direction = .ingress)
    {port : PolicyPort} {resources : List Resource} {element : Element} :
    element ∈ translation.textPortElements port resources false ↔
      ∃ resource ∈ resources,
        ∃ pod ∈ translation.cluster.getPods translation.podSelector translation.policyNamespace,
          ∃ number, translation.Notes (resource, getPorts pod (portName port)) number ∧
            element ∈ translation.numberElements port false resource number := by
  rw [mem_textPortElements_iff]
  constructor
  · rintro ⟨turn, number, finds, made⟩
    rcases (mem_textPortTurns_of_ingress ingress).mp (mem_of_finds finds) with
      ⟨_, _, resource, listed, rfl⟩
    rcases notes_of_finds finds with ⟨noting, member, notes⟩
    rcases (mem_textPortTurns_of_ingress ingress).mp member with ⟨pod, queried, _, _, rfl⟩
    exact ⟨resource, listed, pod, queried, number, notes, made⟩
  · rintro ⟨resource, listed, pod, queried, number, notes, made⟩
    have member : (resource, getPorts pod (portName port)) ∈
        translation.textPortTurns port resources :=
      (mem_textPortTurns_of_ingress ingress).mpr ⟨pod, queried, resource, listed, rfl⟩
    exact ⟨_, number, .inl ⟨member, .inr notes⟩, made⟩

/-- For `egress` the turns of a block are those of its peers. -/
theorem textPortTurns_flatMap (egress : translation.direction = .egress) (port : PolicyPort)
    (block : RuleBlock) :
    translation.textPortTurns port
        (translation.blockPeers block (block.peers.flatMap translation.selectedOf)) =
      block.peers.flatMap fun peer =>
        translation.textPortTurns port (translation.peerOwn peer) := by
  have blocks (ipBlock : IpBlock) :
      (translation.blockResources ipBlock).filterMap (translation.egressTurn port) = [] := by
    apply List.filterMap_eq_nil_iff.mpr
    intro resource listed
    unfold blockResources at listed
    split at listed
    · rw [List.mem_singleton.mp listed]
      rfl
    · rcases List.mem_flatMap.mp listed with ⟨excepted, _, member⟩
      rcases List.mem_map.mp member with ⟨cidr, _, rfl⟩
      rfl
  have nothing : ((block.peers.filterMap (·.ipBlock)).flatMap translation.blockResources).filterMap
      (translation.egressTurn port) = [] := by
    rw [List.filterMap_flatMap]
    exact List.flatMap_eq_nil_iff.mpr fun ipBlock _ => blocks ipBlock
  have own (peer : Peer) : (translation.peerOwn peer).filterMap (translation.egressTurn port) =
      (translation.selectedOf peer).filterMap (translation.egressTurn port) := by
    rw [peerOwn, List.filterMap_append]
    cases peer.ipBlock with
    | none => simp
    | some ipBlock => simp [blocks]
  simp only [textPortTurns_of_egress egress]
  rw [blockPeers, List.filterMap_append, nothing, List.append_nil, List.filterMap_flatMap]
  congr 1
  funext peer
  exact (own peer).symm

/-- A number is found among the turns of one peer, or was noted for a peer before. -/
theorem finds_flatMap_iff {own : Peer → List (Resource × List (Pod × PortNumber))}
    {peers : List Peer} {turn : Resource × List (Pod × PortNumber)} {number : Nat} :
    translation.Finds (peers.flatMap own) ∅ turn number ↔
      (∃ peer ∈ peers, translation.Finds (own peer) ∅ turn number) ∨
        ∃ first second, [first, second].Sublist peers ∧
          (∃ earlier ∈ own first, translation.Notes earlier number) ∧ turn ∈ own second := by
  have unknown : number ∉ (∅ : PodsOfPorts).keys := by
    rintro ⟨⟩
  simp only [Finds, unknown, false_or, List.mem_flatMap, pair_sublist_flatMap_iff]
  constructor
  · rintro (⟨⟨peer, listed, member⟩, notes⟩ | ⟨earlier, inside | across, notes⟩)
    · exact .inl ⟨peer, listed, .inl ⟨member, notes⟩⟩
    · rcases inside with ⟨peer, listed, pair⟩
      exact .inl ⟨peer, listed, .inr ⟨earlier, pair, notes⟩⟩
    · rcases across with ⟨first, second, pair, inFirst, inSecond⟩
      exact .inr ⟨first, second, pair, ⟨earlier, inFirst, notes⟩, inSecond⟩
  · rintro (⟨peer, listed, ⟨member, notes⟩ | ⟨earlier, pair, notes⟩⟩ |
      ⟨first, second, pair, ⟨earlier, inFirst, notes⟩, inSecond⟩)
    · exact .inl ⟨⟨peer, listed, member⟩, notes⟩
    · exact .inr ⟨earlier, .inl ⟨peer, listed, pair⟩, notes⟩
    · exact .inr ⟨earlier, .inr ⟨first, second, pair, inFirst, inSecond⟩, notes⟩

variable (translation) in
/-- A rule of a named port for the second peer, and a number that the first one brings. -/
def BorrowsOn (port : PolicyPort) (element : Element) (first second : Peer) : Prop :=
  ∃ number ∈ (translation.podsOfTextPort port (translation.peerOwn first)).keys,
    ∃ resource ∈ translation.peerOwn second, resource.hasPods = true ∧
      element ∈ translation.numberElements port false resource number

/-- For `egress` a peer gets rules for its own numbers, and borrows those of the peers
before it. -/
theorem mem_textPortElements_of_egress (egress : translation.direction = .egress)
    {port : PolicyPort} {block : RuleBlock} {element : Element} :
    element ∈ translation.textPortElements port
        (translation.blockPeers block (block.peers.flatMap translation.selectedOf)) false ↔
      (∃ peer ∈ block.peers,
        element ∈ translation.textPortElements port (translation.peerOwn peer) false) ∨
        Meets (translation.BorrowsOn port element) block.peers := by
  have noted (peer : Peer) (number : Nat) :
      number ∈ (translation.podsOfTextPort port (translation.peerOwn peer)).keys ↔
        ∃ turn ∈ translation.textPortTurns port (translation.peerOwn peer),
          translation.Notes turn number := by
    rw [podsOfTextPort, mem_keys_notedPods_iff]
    apply or_iff_right
    rintro ⟨⟩
  have turns (peer : Peer) (turn : Resource × List (Pod × PortNumber)) :
      turn ∈ translation.textPortTurns port (translation.peerOwn peer) ↔
        ∃ resource ∈ translation.peerOwn peer, resource.hasPods = true ∧
          turn = (resource, translation.getPortsOf port resource) := by
    rw [textPortTurns_of_egress egress, List.mem_filterMap]
    simp only [egressTurn_eq_some_iff]
  simp only [mem_textPortElements_iff, textPortTurns_flatMap egress, finds_flatMap_iff]
  constructor
  · rintro ⟨turn, number, ⟨peer, listed, finds⟩ | ⟨first, second, pair, notes, member⟩, made⟩
    · exact .inl ⟨peer, listed, turn, number, finds, made⟩
    · rcases (turns second turn).mp member with ⟨resource, own, podded, rfl⟩
      exact .inr ⟨first, second, pair, number, (noted first number).mpr notes, resource, own,
        podded, made⟩
  · rintro (⟨peer, listed, turn, number, finds, made⟩ |
      ⟨first, second, pair, number, known, resource, own, podded, made⟩)
    · exact ⟨turn, number, .inl ⟨peer, listed, finds⟩, made⟩
    · have member := (turns second _).mpr ⟨resource, own, podded, rfl⟩
      exact ⟨_, number, .inr ⟨first, second, pair, (noted first number).mp known, member⟩, made⟩

/-! ## Blocks -/

theorem mem_blockPeers_iff {block : RuleBlock} {resource : Resource} :
    resource ∈ translation.blockPeers block (block.peers.flatMap translation.selectedOf) ↔
      ∃ peer ∈ block.peers, resource ∈ translation.peerOwn peer := by
  rw [(blockPeers_perm block).mem_iff, List.mem_flatMap]

theorem mem_onPortElements_iff {block : RuleBlock} {port : PolicyPort} {element : Element} :
    element ∈ translation.onPortElements
        (translation.blockPeers block (block.peers.flatMap translation.selectedOf)) port ↔
      (∃ peer ∈ block.peers,
        element ∈ translation.onPortElements (translation.peerOwn peer) port) ∨
        translation.direction = .egress ∧ port.isText = true ∧
          Meets (translation.BorrowsOn port element) block.peers := by
  have text (named : port.isText = true)
      (onPort : ∀ resources, translation.onPortElements resources port =
        translation.textPortElements port resources false) :
      element ∈ translation.onPortElements
          (translation.blockPeers block (block.peers.flatMap translation.selectedOf)) port ↔
        (∃ peer ∈ block.peers,
          element ∈ translation.onPortElements (translation.peerOwn peer) port) ∨
          translation.direction = .egress ∧ port.isText = true ∧
            Meets (translation.BorrowsOn port element) block.peers := by
    simp only [onPort, named, true_and]
    cases towards : translation.direction with
    | egress => simp [mem_textPortElements_of_egress towards]
    | ingress =>
        simp only [mem_textPortElements_of_ingress towards, mem_blockPeers_iff, reduceCtorEq,
          false_and, or_false]
        constructor
        · rintro ⟨resource, ⟨peer, listed, own⟩, made⟩
          exact ⟨peer, listed, resource, own, made⟩
        · rintro ⟨peer, listed, resource, own, made⟩
          exact ⟨resource, ⟨peer, listed, own⟩, made⟩
  rcases given : port.port with _ | number | name
  · apply text
    · rw [PolicyPort.isText, given]
    · intro resources
      rw [onPortElements, given]
  · have numbered : port.isText = false := by rw [PolicyPort.isText, given]
    have onPort (resources : List Resource) : element ∈ translation.onPortElements resources port ↔
        ∃ resource ∈ resources,
          element ∈ translation.resourceElements (some (number, port.protocol)) resource := by
      rw [onPortElements, given]
      rfl
    simp only [onPort, numbered, mem_blockPeers_iff, Bool.false_eq_true, false_and, and_false,
      or_false]
    constructor
    · rintro ⟨resource, ⟨peer, listed, own⟩, made⟩
      exact ⟨peer, listed, resource, own, made⟩
    · rintro ⟨peer, listed, resource, own, made⟩
      exact ⟨resource, ⟨peer, listed, own⟩, made⟩
  · apply text
    · rw [PolicyPort.isText, given]
    · intro resources
      rw [onPortElements, given]

variable (translation)

/-- A block is for everyone. -/
def ForEveryone (block : RuleBlock) : Prop :=
  restricts block (block.peers.flatMap translation.peerOwn) = false ∨ allowsAll block = true

/-- A rule of a block for one of its peers alone, or for everyone. -/
def Firm (block : RuleBlock) (element : Element) : Prop :=
  match block.ports with
  | none =>
      (∃ peer ∈ block.peers, ∃ resource ∈ translation.peerOwn peer,
        element ∈ translation.resourceElements none resource) ∨
      allowsAll block = true ∧ element ∈ translation.allPortsElements
  | some ports => ∃ port ∈ ports,
      (∃ peer ∈ block.peers,
        element ∈ translation.onPortElements (translation.peerOwn peer) port) ∨
      translation.ForEveryone block ∧ element ∈ translation.allPodsElements port

/-- For `egress`, a rule for the second peer and a number that a named port of the block
gets from the first one. -/
def Borrows (block : RuleBlock) (element : Element) (first second : Peer) : Prop :=
  translation.direction = .egress ∧ ∃ port ∈ block.ports.getD [],
    port.isText = true ∧ translation.BorrowsOn port element first second

variable {translation}

theorem restricts_perm {resources others : List Resource} (same : resources.Perm others)
    (block : RuleBlock) : restricts block resources = restricts block others := by
  rw [restricts, restricts, same.isEmpty_eq]

theorem not_mem_onPortElements_nil (port : PolicyPort) (element : Element) :
    element ∉ translation.onPortElements [] port := by
  have text : element ∉ translation.textPortElements port [] false := by
    rw [mem_textPortElements_iff]
    rintro ⟨turn, number, finds, _⟩
    have member := mem_of_finds finds
    unfold textPortTurns at member
    split at member <;> simp at member
  unfold onPortElements
  split
  · rintro ⟨resource, listed, _⟩
    cases listed
  · exact text

/-- The rules of a block: those that it has in any order of its peers, and those for
numbers that a peer borrows from one before it. -/
theorem mem_blockElements_iff {block : RuleBlock} {element : Element}
    (resolved : translation.Resolved block.peers) :
    element ∈ translation.blockElements block ↔
      translation.Firm block element ∨ Meets (translation.Borrows block element) block.peers := by
  have found := selectorResources_eq_ok_iff.mpr ⟨resolved, rfl⟩
  have onPeers : element ∈ translation.blockElements block ↔
      element ∈ translation.elementsOnPeers block
        (translation.blockPeers block (block.peers.flatMap translation.selectedOf)) := by
    simp [blockElements, found]
  rw [onPeers, elementsOnPeers, Firm]
  cases given : block.ports with
  | none =>
      have lent : ¬Meets (translation.Borrows block element) block.peers := by
        rintro ⟨first, second, _, _, port, listed, _⟩
        rw [given] at listed
        cases listed
      simp only [withoutPortsElements, mem_blockPeers_iff, lent, or_false, Set.mem_ofPred_eq]
      constructor
      · rintro (⟨resource, ⟨peer, listed, own⟩, made⟩ | everyone)
        · exact .inl ⟨peer, listed, resource, own, made⟩
        · exact .inr everyone
      · rintro (⟨peer, listed, resource, own, made⟩ | everyone)
        · exact .inl ⟨resource, ⟨peer, listed, own⟩, made⟩
        · exact .inr everyone
  | some ports =>
      have lent : Meets (translation.Borrows block element) block.peers ↔
          ∃ port ∈ ports, translation.direction = .egress ∧ port.isText = true ∧
            Meets (translation.BorrowsOn port element) block.peers := by
        constructor
        · rintro ⟨first, second, pair, egress, port, listed, named, borrows⟩
          rw [given] at listed
          exact ⟨port, listed, egress, named, first, second, pair, borrows⟩
        · rintro ⟨port, listed, egress, named, first, second, pair, borrows⟩
          refine ⟨first, second, pair, egress, port, ?_, named, borrows⟩
          rw [given]
          exact listed
      have onPort (port : PolicyPort) :
          element ∈ translation.portElements block
              (translation.blockPeers block (block.peers.flatMap translation.selectedOf)) port ↔
            element ∈ translation.onPortElements
                (translation.blockPeers block (block.peers.flatMap translation.selectedOf)) port ∨
              translation.ForEveryone block ∧ element ∈ translation.allPodsElements port := by
        rw [ForEveryone, ← restricts_perm (blockPeers_perm block)]
        simp only [portElements, Set.mem_ofPred_eq]
        apply or_congr_left
        apply and_iff_right_of_imp
        intro member
        generalize translation.blockPeers block _ = resources at member
        cases resources with
        | nil => exact absurd member (not_mem_onPortElements_nil port element)
        | cons resource rest => simp [restricts]
      rw [lent]
      simp only [Set.mem_ofPred_eq, onPort, mem_onPortElements_iff]
      constructor
      · rintro ⟨port, listed, (own | borrowed) | everyone⟩
        · exact .inl ⟨port, listed, .inl own⟩
        · exact .inr ⟨port, listed, borrowed⟩
        · exact .inl ⟨port, listed, .inr everyone⟩
      · rintro (⟨port, listed, own | everyone⟩ | ⟨port, listed, borrowed⟩)
        · exact ⟨port, listed, .inl (.inl own)⟩
        · exact ⟨port, listed, .inr everyone⟩
        · exact ⟨port, listed, .inl (.inr borrowed)⟩

end Translation

end KuryrKubernetes.Policy

import KuryrKubernetes.Policy.Created

/-!
# Rules that a policy allows

A rule for a source that a block is about is allowed by the policy.  With the peers of a
policy read as they are written, all rules that its translation creates for a pod are of
that kind.
-/

namespace KuryrKubernetes.Policy

open KuryrKubernetes.Data
open KuryrKubernetes.Effect

universe u

/-! ## Sources and prefixes -/

/-- A rule is limited to a source by a prefix, or by none if the source is anyone. -/
def Source.HasPrefix (source : Source) (cidr : Option String) : Prop :=
  match source with
  | .anyone => cidr = none
  | .pod known => ∃ ip ∈ known.podIp, cidr = some ip
  | .namespaceObj known => ∃ subnet ∈ known.subnetCidr, cidr = some subnet
  | .ipBlock _ => False

theorem Source.HasPrefix.anyone {source : Source} {cidr : Option String}
    (limited : source.HasPrefix cidr) (absent : cidr = none) : source = .anyone := by
  subst absent
  cases source with
  | anyone => rfl
  | pod known =>
      obtain ⟨ip, _, impossible⟩ := limited
      cases impossible
  | namespaceObj known =>
      obtain ⟨subnet, _, impossible⟩ := limited
      cases impossible
  | ipBlock block => exact limited.elim

variable {Address : Type u} {covers : String → Address → Prop}

theorem Source.HasPrefix.reaches {source : Source} {cidr : Option String} {address : Address}
    (limited : source.HasPrefix cidr) (covered : ∀ prefix_ ∈ cidr, covers prefix_ address) :
    source.Covers covers address := by
  cases source with
  | anyone => trivial
  | pod known =>
      obtain ⟨ip, found, rfl⟩ := limited
      exact ⟨ip, found, covered ip rfl⟩
  | namespaceObj known =>
      obtain ⟨subnet, found, rfl⟩ := limited
      exact ⟨subnet, found, covered subnet rfl⟩
  | ipBlock block => exact limited.elim

variable {snapshot : Snapshot} {crd : Crd} {direction : Direction} {pod : Pod}
  {block : RuleBlock} {source : Source}

/-- A block is about a pod and a source that has it. -/
structure About (snapshot : Snapshot) (crd : Crd) (direction : Direction) (pod : Pod)
    (block : RuleBlock) (source : Source) : Prop where
  listed : block ∈ crd.spec.blocks direction
  denotes : block.Denotes snapshot pod crd.namespaceName source
  has : source.Has snapshot pod pod

/-- A rule for a source that a block is about, and for ports of the block, is allowed. -/
theorem About.allowedRule (rule : SgRule)
    (about : About snapshot crd rule.direction pod block source)
    (group : rule.securityGroupId = crd.securityGroupId)
    (limited : source.HasPrefix rule.remoteIpPrefix)
    (ports : ∀ port, rule.portRangeMin ≤ port → port ≤ rule.portRangeMax →
      block.AllowsPort snapshot pod crd rule.direction source rule.protocol port) :
    AllowedRule covers snapshot pod crd rule := by
  refine ⟨group, block, about.listed, ?_, ?_, ?_⟩
  · rcases about.denotes with ⟨noPeers, _⟩ | ⟨peer, among, denotes⟩
    · exact .inl noPeers
    · exact .inr ⟨peer, among, source, denotes, about.has⟩
  · intro absent
    have everyone := limited.anyone absent
    rcases about.denotes with ⟨noPeers, _⟩ | ⟨peer, among, denotes⟩
    · exact .inl noPeers
    · rw [everyone] at denotes
      exact .inr ⟨peer, among, denotes⟩
  · rintro address protocol port ⟨rfl, lower, upper, covered⟩
    exact ⟨source, about.denotes, limited.reaches covered, ports port lower upper⟩

/-! ## Ports -/

theorem mem_getPorts {name : Option String} {owner : Pod} {containerPort : PortNumber} :
    (owner, containerPort) ∈ getPorts pod name ↔
      owner = pod ∧ pod.isHostNetwork = false ∧ ∃ container ∈ pod.containers,
        ∃ port ∈ container.ports, port.name = name ∧ port.containerPort = containerPort := by
  rw [getPorts]
  split
  · rename_i host
    simp [host]
  · rename_i notHost
    rw [List.mem_filterMap]
    constructor
    · rintro ⟨port, listed, taken⟩
      obtain ⟨container, among, exposed⟩ := List.mem_flatMap.mp listed
      split at taken
      · rename_i named
        cases taken
        exact ⟨rfl, Bool.eq_false_iff.mpr notHost, container, among, port, exposed, named, rfl⟩
      · cases taken
    · rintro ⟨rfl, _, container, among, port, exposed, named, rfl⟩
      exact ⟨port, List.mem_flatMap.mpr ⟨container, among, exposed⟩, if_pos named⟩

/-- A pod exposes what is found for a named port at it. -/
theorem exposes_of_mem_liveNumbers {name : String} {number : Nat}
    (live : number ∈ liveNumbers (getPorts pod (some name))) : Exposes pod name number := by
  obtain ⟨owner, containerPort, listed, _, rfl⟩ := mem_liveNumbers.mp live
  obtain ⟨_, notHost, container, among, port, exposed, named, rfl⟩ := mem_getPorts.mp listed
  exact ⟨notHost, container, among, port, exposed, named, rfl⟩

/-- A policy port without a number allows what is found for it at pods of the source. -/
theorem allows_of_turn {call : TextPort} {pods : List Pod}
    {turn : List (Pod × PortNumber) × Pod} {number : Nat}
    (taken : turn ∈ textPortTurns snapshot call pods) (live : number ∈ liveNumbers turn.1)
    (unnumbered : ∀ value, call.port.port ≠ some (.number value))
    (has : ∀ other ∈ pods, source.Has snapshot pod other) :
    call.port.Allows snapshot pod call.crd call.direction source (call.port.protocol.getD .tcp)
      number := by
  refine ⟨rfl, ?_⟩
  cases written : call.port.port with
  | none => trivial
  | some value =>
      cases value with
      | number value => exact absurd written (unnumbered value)
      | name name =>
          have asked : call.portName = some name := by rw [TextPort.portName, written]
          rw [textPortTurns, asked] at taken
          dsimp only
          cases toward : call.direction with
          | ingress =>
              rw [toward] at taken
              obtain ⟨specPod, selected, turned⟩ := List.mem_flatMap.mp taken
              obtain ⟨_, _, rfl⟩ := List.mem_map.mp turned
              obtain ⟨known, inNamespace⟩ := List.mem_filter.mp selected
              have comes := of_decide_eq_true inNamespace
              exact ⟨specPod, known, ⟨comes.1, accepts_of_podQuery comes.2⟩,
                exposes_of_mem_liveNumbers live⟩
          | egress =>
              rw [toward] at taken
              obtain ⟨other, filtered, rfl⟩ := List.mem_map.mp taken
              have among := (List.mem_filter.mp filtered).1
              exact ⟨other, has other among, exposes_of_mem_liveNumbers live⟩

/-- The rules for a named port of a block are allowed. -/
theorem About.textPortRule {call : TextPort} {ports : List PolicyPort}
    {turn : List (Pod × PortNumber) × Pod} {number : Nat} {cidr : Option String}
    (about : About snapshot call.crd call.direction pod block source)
    (written : block.ports = some ports) (listed : call.port ∈ ports)
    (unnumbered : ∀ value, call.port.port ≠ some (.number value))
    (taken : turn ∈ textPortTurns snapshot call [pod]) (live : number ∈ liveNumbers turn.1)
    (limited : source.HasPrefix cidr) :
    AllowedRule covers snapshot pod call.crd (call.rule number cidr) := by
  have positive : 0 < number := by
    obtain ⟨_, containerPort, _, _, rfl⟩ := mem_liveNumbers.mp live
    exact containerPort.2.1
  have range : (call.rule number cidr).portRangeMin = number ∧
      (call.rule number cidr).portRangeMax = number := by
    cases number with
    | zero => exact absurd positive (Nat.lt_irrefl 0)
    | succ number => exact ⟨rfl, rfl⟩
  apply About.allowedRule (call.rule number cidr) about rfl limited
  intro port lower upper
  have exactly : port = number := Nat.le_antisymm (range.2 ▸ upper) (range.1 ▸ lower)
  rw [exactly, RuleBlock.AllowsPort, written]
  have has : ∀ other ∈ [pod], source.Has snapshot pod other := by
    intro other among
    rw [List.mem_singleton.mp among]
    exact about.has
  exact .inr ⟨call.port, listed, allows_of_turn taken live unnumbered has⟩

/-- The rules for an address and a numbered port of a block, or all ports, are allowed. -/
theorem About.addressRule {cidr : String} {port : Option (PortNumber × Option Protocol)}
    (about : About snapshot crd direction pod block source) (limited : source.HasPrefix (some cidr))
    (allows : match port with
      | some (value, protocol) => ∃ ports, block.ports = some ports ∧
          { port := some (.number value), protocol } ∈ ports
      | none => block.ports = none) :
    AllowedRule covers snapshot pod crd (addressRule crd direction cidr port) := by
  cases port with
  | none =>
      apply About.allowedRule (Policy.addressRule crd direction cidr none) about rfl limited
      intro port _ _
      rw [RuleBlock.AllowsPort, allows]
      trivial
  | some port =>
      obtain ⟨⟨number, positive, bounded⟩, protocol⟩ := port
      obtain ⟨ports, written, listed⟩ := allows
      cases number with
      | zero => exact absurd positive (Nat.lt_irrefl 0)
      | succ number =>
          apply About.allowedRule
            (Policy.addressRule crd direction cidr (some (⟨number + 1, positive, bounded⟩, protocol)))
            about rfl limited
          intro port lower upper
          rw [RuleBlock.AllowsPort, written]
          exact .inr ⟨_, listed, rfl, Nat.le_antisymm upper lower⟩

/-! ## Peers -/

theorem opens_of_unnumbered {policyPort : PolicyPort} {numbers : Bool}
    (unnumbered : ∀ value, policyPort.port ≠ some (.number value)) :
    policyPort.opens snapshot crd direction pod numbers =
      !(foundNumbers snapshot { crd, direction, port := policyPort } [pod]).isEmpty := by
  unfold PolicyPort.opens
  split
  · rename_i value numbered
    exact absurd numbered (unnumbered value)
  · rfl

theorem opens_of_live {call : TextPort} {turn : List (Pod × PortNumber) × Pod} {number : Nat}
    (numbers : Bool) (unnumbered : ∀ value, call.port.port ≠ some (.number value))
    (taken : turn ∈ textPortTurns snapshot call [pod]) (live : number ∈ liveNumbers turn.1) :
    call.port.opens snapshot call.crd call.direction pod numbers := by
  have found : number ∈ foundNumbers snapshot
      { crd := call.crd, direction := call.direction, port := call.port } [pod] :=
    List.mem_flatMap.mpr ⟨turn, taken, live⟩
  rw [opens_of_unnumbered unnumbered, Bool.not_eq_true', List.isEmpty_eq_false_iff]
  exact List.ne_nil_of_mem found

theorem mem_of_turn {call : TextPort} {pods : List Pod} {turn : List (Pod × PortNumber) × Pod}
    (taken : turn ∈ textPortTurns snapshot call pods) : turn.2 ∈ pods := by
  unfold textPortTurns at taken
  split at taken
  · obtain ⟨specPod, _, turned⟩ := List.mem_flatMap.mp taken
    obtain ⟨selected, among, rfl⟩ := List.mem_map.mp turned
    exact among
  · obtain ⟨selected, filtered, rfl⟩ := List.mem_map.mp taken
    exact (List.mem_filter.mp filtered).1

/-- A named port of a block whose rules are limited to sources of the block. -/
theorem createSgRuleOnTextPort_allowed (call : TextPort) {ports : List PolicyPort} {matched : Bool}
    {numbers : Bool} (written : block.ports = some ports) (listed : call.port ∈ ports)
    (unnumbered : ∀ value, call.port.port ≠ some (.number value))
    (sources : call.port.opens snapshot call.crd call.direction pod numbers →
      ∀ cidr, call.Remote snapshot pod cidr → ∃ source,
        About snapshot call.crd call.direction pod block source ∧ source.HasPrefix cidr) :
    (creating (AllowedRule covers snapshot pod call.crd)).Ensures
      (createSgRuleOnTextPort snapshot call [pod] matched)
      (· = (matched || call.port.opens snapshot call.crd call.direction pod numbers)) := by
  rw [opens_of_unnumbered unnumbered]
  apply createSgRuleOnTextPort_creates
  intro turn taken number live cidr remote
  have opens := opens_of_live numbers unnumbered taken live
  rw [List.mem_singleton.mp (mem_of_turn taken)] at remote
  obtain ⟨source, about, limited⟩ := sources opens cidr remote
  exact about.textPortRule written listed unnumbered taken live limited

/-- `_create_sg_rules` for a pod that the drivers look at. -/
theorem createSgRules_allowed {peer : Peer} {podIp : String} (matched allowAll : Bool)
    (namespaceName : Option String) (address : pod.podIp = some podIp)
    (onPod : peer.opens snapshot crd direction pod block →
      ∀ selector ∈ presentSelector peer.podSelector, About snapshot crd direction pod block (.pod pod))
    (onNamespace : peer.opens snapshot crd direction pod block →
      presentSelector peer.podSelector = none → ∀ cidr,
        TextPort.Remote { crd, direction, port := {}, allowAll, namespaceName } snapshot pod cidr →
        ∃ source, About snapshot crd direction pod block source ∧ source.HasPrefix cidr) :
    (creating (AllowedRule covers snapshot pod crd)).Ensures
      (createSgRules snapshot crd pod peer.podSelector block direction matched namespaceName allowAll)
      (· = (matched || peer.opens snapshot crd direction pod block)) := by
  rw [createSgRules, address]
  dsimp only
  cases present : presentSelector peer.podSelector with
  | some selector =>
      dsimp only
      have limited : Source.HasPrefix (.pod pod) (some podIp) := ⟨podIp, address, rfl⟩
      by_cases selects : matchSelector selector (podLabels pod)
      · rw [if_pos selects]
        cases written : block.ports with
        | none =>
            have opens : peer.opens snapshot crd direction pod block := by
              simp [Peer.opens, present, selects, written]
            have about := onPod opens selector present
            apply Frame.Keeps.before
            · exact createSgRuleFor_creates (about.addressRule limited written)
            · intro _
              apply Frame.ensures_pure
              rw [opens, Bool.or_true]
        | some ports =>
            have value : peer.opens snapshot crd direction pod block =
                ports.any fun port => port.opens snapshot crd direction pod true := by
              simp [Peer.opens, present, selects, written]
            have opensOf {port : PolicyPort} (listed : port ∈ ports)
                (opens : port.opens snapshot crd direction pod true) :
                peer.opens snapshot crd direction pod block := by
              rw [value]
              exact List.any_eq_true.mpr ⟨port, listed, opens⟩
            rw [value]
            apply overPorts_creates
            · intro port listed number numbered matched
              have opens : port.opens snapshot crd direction pod true := by
                rw [PolicyPort.opens, numbered]
              have about := onPod (opensOf listed opens) selector present
              apply Frame.Keeps.before
              · apply createSgRuleFor_creates
                refine about.addressRule limited ⟨ports, written, ?_⟩
                rw [← numbered]
                exact listed
              · intro _
                apply Frame.ensures_pure
                rw [opens, Bool.or_true]
            · intro port listed unnumbered matched
              apply createSgRuleOnTextPort_allowed { crd, direction, port } written listed unnumbered
              rintro opens cidr ⟨ip, found, rfl⟩
              exact ⟨.pod pod, onPod (opensOf listed opens) selector present, ip, found, rfl⟩
      · rw [if_neg selects]
        apply Frame.ensures_pure
        simp [Peer.opens, present, selects]
  | none =>
      dsimp only
      have value : peer.opens snapshot crd direction pod block =
          (block.ports.getD []).any fun port => port.opens snapshot crd direction pod false := by
        rw [Peer.opens, present]
        rfl
      cases written : block.ports with
      | none =>
          apply Frame.ensures_pure
          simp [value, written]
      | some ports =>
          rw [written, Option.getD_some] at value
          rw [value]
          apply overPorts_creates
          · intro port listed number numbered matched
            apply Frame.ensures_pure
            rw [PolicyPort.opens, numbered, Bool.or_false]
          · intro port listed unnumbered matched
            apply createSgRuleOnTextPort_allowed
              { crd, direction, port, allowAll, namespaceName } written listed unnumbered
            intro opens
            apply onNamespace _ present
            rw [value]
            exact List.any_eq_true.mpr ⟨port, listed, opens⟩

theorem parseSelectorsOnPod_of_unknown {peer : Peer} {matched : Bool}
    (unknown : snapshot.getNamespace pod.namespaceName = none) :
    parseSelectorsOnPod snapshot crd pod peer block direction matched =
      throw .k8sResourceNotFound := by
  rw [parseSelectorsOnPod, getNamespaceLabels, unknown]
  rfl

/-- `_parse_selectors_on_pod` in a namespace that exists. -/
theorem parseSelectorsOnPod_of_known {namespaceObj : Namespace} {peer : Peer} {matched : Bool}
    (known : snapshot.getNamespace pod.namespaceName = some namespaceObj) :
    parseSelectorsOnPod snapshot crd pod peer block direction matched =
      if peer.reaches snapshot crd pod then
        if peer.namespaceSelector.any (·.isEmpty) then
          createSgRules snapshot crd pod peer.podSelector block direction matched none true
        else
          createSgRules snapshot crd pod peer.podSelector block direction matched
            (some pod.namespaceName) false
      else
        pure matched := by
  rw [parseSelectorsOnPod, getNamespaceLabels, known, Peer.reaches, known]
  dsimp only
  rw [pure_bind]
  cases peer.namespaceSelector with
  | none => simp
  | some selector => by_cases everyone : selector.isEmpty <;> simp [everyone]

/-- A peer because of which the drivers look at a pod is about the namespace of the pod. -/
theorem inNamespace_of_reaches {namespaceObj : Namespace} {peer : Peer}
    (known : snapshot.getNamespace pod.namespaceName = some namespaceObj)
    (reaches : peer.reaches snapshot crd pod)
    (selects : peer.podSelector.isSome ∨ peer.namespaceSelector.isSome) :
    peer.InNamespace crd.namespaceName namespaceObj := by
  have named : namespaceObj.name = pod.namespaceName := by
    simpa using List.find?_some known
  rw [Peer.reaches, known] at reaches
  unfold Peer.InNamespace
  cases written : peer.namespaceSelector with
  | none =>
      rw [written] at reaches selects
      constructor
      · exact selects.resolve_right Bool.false_ne_true
      · rw [named]
        exact of_decide_eq_true reaches
  | some selector =>
      simp only [written, Bool.or_eq_true, Bool.and_eq_true, Bool.not_eq_true'] at reaches
      rcases reaches with everyone | ⟨labelled, selected⟩
      · exact accepts_of_isEmpty everyone _
      · apply accepts_of_matchSelector selected
        rw [labelled]
        exact .inl Bool.false_ne_true

/-- A peer that opens something for a pod is about the pod, or about its namespace. -/
theorem ReadsPeers.about {namespaceObj : Namespace} {peer : Peer} {podIp : String}
    (reads : ReadsPeers snapshot crd direction pod) (listed : block ∈ crd.spec.blocks direction)
    (among : peer ∈ block.peers) (address : pod.podIp = some podIp)
    (known : snapshot.getNamespace pod.namespaceName = some namespaceObj)
    (reaches : peer.reaches snapshot crd pod)
    (opens : peer.opens snapshot crd direction pod block) :
    About snapshot crd direction pod block
      (match presentSelector peer.podSelector with
        | some _ => .pod pod
        | none => .namespaceObj namespaceObj) := by
  have addressed : pod.podIp.isSome := by rw [address]; rfl
  have named : namespaceObj.name = pod.namespaceName := by
    simpa using List.find?_some known
  have exists_ : namespaceObj ∈ snapshot.namespaces := List.mem_of_find?_eq_some known
  have inNamespace := inNamespace_of_reaches known reaches
    (reads.ipBlocks block listed peer among addressed reaches opens)
  cases present : presentSelector peer.podSelector with
  | none =>
      refine ⟨listed, .inr ⟨peer, among, present, exists_, inNamespace⟩, .inl rfl, named.symm⟩
  | some selector =>
      have selected : matchSelector selector (podLabels pod) := by
        rw [Peer.opens, present] at opens
        exact (Bool.and_eq_true_iff.mp opens).1
      have accepts := accepts_of_matchSelector selected
        (reads.podSelectors block listed peer among addressed reaches opens selector present)
      refine ⟨listed, .inr ⟨peer, among, .inl rfl, ⟨selector, present, accepts⟩, ?_⟩, rfl⟩
      exact ⟨namespaceObj, exists_, named, inNamespace⟩

theorem About.everyone {peer : Peer} (listed : block ∈ crd.spec.blocks direction)
    (among : peer ∈ block.peers) (everyone : peer.isEveryone) :
    About snapshot crd direction pod block .anyone :=
  ⟨listed, .inr ⟨peer, among, everyone⟩, .inl rfl⟩

theorem parseSelectorsOnPod_allowed {peer : Peer} {matched : Bool}
    (reads : ReadsPeers snapshot crd direction pod) (listed : block ∈ crd.spec.blocks direction)
    (among : peer ∈ block.peers) :
    (creating (AllowedRule covers snapshot pod crd)).Ensures
      (parseSelectorsOnPod snapshot crd pod peer block direction matched)
      (fun result => result = peer.matchedAfter snapshot crd direction pod block matched ∧
        (snapshot.getNamespace pod.namespaceName).isSome) := by
  cases known : snapshot.getNamespace pod.namespaceName with
  | none =>
      rw [parseSelectorsOnPod_of_unknown known]
      exact Frame.ensures_throw _
  | some namespaceObj =>
      rw [parseSelectorsOnPod_of_known known, Peer.matchedAfter]
      by_cases reaches : peer.reaches snapshot crd pod
      · rw [if_pos reaches, if_pos reaches]
        cases address : pod.podIp with
        | none =>
            have skipped (namespaceName : Option String) (allowAll : Bool) :
                createSgRules snapshot crd pod peer.podSelector block direction matched
                  namespaceName allowAll = pure false := by
              rw [createSgRules, address]
            rw [skipped, skipped, ite_self]
            exact Frame.ensures_pure ⟨rfl, rfl⟩
        | some podIp =>
            have about := reads.about listed among address known reaches
            have onPod (opens : peer.opens snapshot crd direction pod block) (selector)
                (present : selector ∈ presentSelector peer.podSelector) :
                About snapshot crd direction pod block (.pod pod) := by
              have source := about opens
              rw [present] at source
              exact source
            split
            · rename_i open_
              apply Frame.Ensures.mono (createSgRules_allowed matched true none address onPod ?_)
              · exact fun result found => ⟨found, rfl⟩
              · rintro opens absent cidr rfl
                refine ⟨.anyone, About.everyone listed among ?_, rfl⟩
                rw [Peer.isEveryone, absent, open_]
                rfl
            · apply Frame.Ensures.mono
                (createSgRules_allowed matched false (some pod.namespaceName) address onPod ?_)
              · exact fun result found => ⟨found, rfl⟩
              · rintro opens absent cidr ⟨sameNamespace, found, subnet, has, rfl⟩
                have source := about opens
                rw [absent] at source
                rw [known] at found
                cases found
                exact ⟨.namespaceObj namespaceObj, source, subnet, has, rfl⟩
      · rw [if_neg reaches, if_neg reaches]
        exact Frame.ensures_pure ⟨rfl, rfl⟩

/-! ## Blocks -/

theorem parsePeers_allowed {peers : List Peer} {matched : Bool}
    (reads : ReadsPeers snapshot crd direction pod) (listed : block ∈ crd.spec.blocks direction)
    (among : ∀ peer ∈ peers, peer ∈ block.peers) :
    (creating (AllowedRule covers snapshot pod crd)).Ensures
      (parsePeers snapshot direction crd (.pod pod) block peers matched)
      (fun result =>
        result = peers.foldl
          (fun matched peer => peer.matchedAfter snapshot crd direction pod block matched) matched ∧
        (peers ≠ [] → (snapshot.getNamespace pod.namespaceName).isSome)) := by
  induction peers generalizing matched with
  | nil => exact Frame.ensures_pure ⟨rfl, fun nonempty => absurd rfl nonempty⟩
  | cons peer rest ih =>
      apply Frame.Ensures.bind
        (parseSelectorsOnPod_allowed reads listed (among peer List.mem_cons_self))
      rintro halfway ⟨rfl, known⟩
      apply Frame.Ensures.mono (ih fun other member => among other (List.mem_cons_of_mem peer member))
      exact fun result found => ⟨found.1, fun _ => known⟩

theorem overPorts_idle (ports : List PolicyPort) (matched : Bool) :
    overPorts (fun _ matched => pure matched) (fun _ matched => pure matched) ports matched =
      pure matched := by
  induction ports with
  | nil => rfl
  | cons port rest ih =>
      rw [overPorts]
      split
      · exact ih
      · exact ih

/-- The end of a block's turn opens named ports only if the block is about everyone. -/
theorem parseOpenPorts_allowed {matched : Bool}
    (everyone : matched = false → block.peers = [] ∨ direction = .ingress →
      block.opensNamed snapshot crd direction pod →
      About snapshot crd direction pod block .anyone) :
    (creating (AllowedRule covers snapshot pod crd)).Ensures
      (parseOpenPorts snapshot direction crd (.pod pod) block matched)
      (· = (matched || (block.peers.isEmpty || direction = .ingress) &&
        block.opensNamed snapshot crd direction pod)) := by
  unfold parseOpenPorts
  cases matched with
  | true => exact Frame.ensures_pure rfl
  | false =>
      by_cases falls : block.peers.isEmpty ∨ direction = .ingress
      · have value : (block.peers.isEmpty || direction = .ingress) = true := by
          simpa using falls
        rw [value, Bool.true_and, RuleBlock.opensNamed]
        simp only [if_pos falls, if_neg Bool.false_ne_true]
        apply overPorts_creates
        · intro port among number numbered matched
          apply Frame.ensures_pure
          rw [PolicyPort.opens, numbered, Bool.or_false]
        · intro port among unnumbered matched
          cases written : block.ports with
          | none =>
              rw [written] at among
              cases among
          | some ports =>
              rw [written, Option.getD_some] at among
              apply createSgRuleOnTextPort_allowed { crd, direction, port, allowAll := true } written
                among unnumbered
              rintro opens cidr rfl
              refine ⟨.anyone, everyone rfl (falls.imp_left List.isEmpty_iff.mp) ?_, rfl⟩
              rw [RuleBlock.opensNamed, written]
              exact List.any_eq_true.mpr ⟨port, among, opens⟩
      · have value : (block.peers.isEmpty || direction = .ingress) = false := by
          simpa using falls
        rw [value, Bool.false_and]
        simp only [if_neg falls, if_neg Bool.false_ne_true]
        rw [overPorts_idle]
        exact Frame.ensures_pure rfl

theorem parseBlocks_allowed {blocks : List RuleBlock} {matched : Bool}
    (reads : ReadsPeers snapshot crd direction pod)
    (listed : ∀ block ∈ blocks, block ∈ crd.spec.blocks direction)
    (closed : NoFallback snapshot crd direction pod blocks matched) :
    (creating (AllowedRule covers snapshot pod crd)).Keeps
      (parseBlocks snapshot direction crd (.pod pod) blocks matched) := by
  induction blocks generalizing matched with
  | nil => exact Frame.keeps_pure _
  | cons block rest ih =>
      obtain ⟨open_, later⟩ := closed
      have here := listed block List.mem_cons_self
      have rest_ := fun other member => listed other (List.mem_cons_of_mem block member)
      suffices (creating (AllowedRule covers snapshot pod crd)).Ensures
          (parseBlocks snapshot direction crd (.pod pod) (block :: rest) matched)
          (fun _ => True) from this.keeps
      apply Frame.Ensures.bind (parsePeers_allowed reads here fun _ => id)
      rintro halfway ⟨rfl, known⟩
      apply Frame.Ensures.bind (parseOpenPorts_allowed ?_)
      · rintro result rfl
        exact (ih rest_ later).ensures fun _ => trivial
      · intro unmatched falls opens
        by_cases noPeers : block.peers = []
        · exact ⟨here, .inl ⟨noPeers, rfl⟩, .inl rfl⟩
        · obtain ⟨peer, among, everyone⟩ := open_ (falls.resolve_left noPeers) noPeers
            (known noPeers) unmatched opens
          exact About.everyone here among everyone

/-- Parsing a policy for a pod creates only rules that the policy allows, if its peers are
read as they are written. -/
theorem parseRules_allowed (reads : ReadsPeers snapshot crd direction pod) :
    (creating (AllowedRule covers snapshot pod crd)).Keeps
      (parseRules snapshot direction crd (.pod pod)) :=
  parseBlocks_allowed reads (fun _ => id) reads.noFallback

end KuryrKubernetes.Policy

import KuryrKubernetes.Policy.Lookups

/-!
# The rules and calls of a policy for a pod

The rules that `_parse_rules` adds for the address of a pod, and the calls for named
ports that it makes, in their order, read off the policy, the pod and the cluster.
-/

namespace KuryrKubernetes.Policy

open KuryrKubernetes.Data
open KuryrKubernetes.Effect

/-! ## Read off the policy -/

/-- The port is a number. -/
def PolicyPort.isNumbered (policyPort : PolicyPort) : Bool :=
  match policyPort.port with
  | some (.number _) => true
  | _ => false

/-- The ports of a block that are no numbers. -/
def RuleBlock.namedPorts (block : RuleBlock) : List PolicyPort :=
  (block.ports.getD []).filter (!·.isNumbered)

/-- The rules for an address: one for all ports, or one for each number. -/
def RuleBlock.RuleFor (block : RuleBlock) (crd : Crd) (direction : Direction) (cidr : String)
    (rule : SgRule) : Prop :=
  match block.ports with
  | none => rule = addressRule crd direction cidr none
  | some ports => ∃ port ∈ ports, ∃ number, port.port = some (.number number) ∧
      rule = addressRule crd direction cidr (some (number, port.protocol))

variable (snapshot : Snapshot) (crd : Crd) (direction : Direction) (pod : Pod)

/-- The drivers match the pod with the selectors of a peer that has a `podSelector`. -/
def Peer.takes (peer : Peer) : Bool :=
  peer.reaches snapshot crd pod &&
    (presentSelector peer.podSelector).any fun selector => matchSelector selector (podLabels pod)

/-- The rules that a peer adds for the address of the pod. -/
def Peer.Adds (peer : Peer) (block : RuleBlock) (rule : SgRule) : Prop :=
  peer.takes snapshot crd pod ∧ ∃ podIp ∈ pod.podIp, block.RuleFor crd direction podIp rule

/-- The calls for named ports that a peer makes. -/
def Peer.calls (peer : Peer) (block : RuleBlock) : List TextPort :=
  if peer.reaches snapshot crd pod then
    match presentSelector peer.podSelector with
    | some selector =>
        if matchSelector selector (podLabels pod) then
          block.namedPorts.map fun port => { crd, direction, port }
        else []
    | none =>
        if peer.namespaceSelector.any (·.isEmpty) then
          block.namedPorts.map fun port => { crd, direction, port, allowAll := true }
        else
          block.namedPorts.map fun port =>
            { crd, direction, port, namespaceName := some pod.namespaceName }
  else []

/-- The calls for named ports that are allowed from everywhere, while nothing matched. -/
def RuleBlock.openCalls (block : RuleBlock) (matched : Bool) : List TextPort :=
  if !matched ∧ (block.peers.isEmpty ∨ direction = .ingress) then
    block.namedPorts.map fun port => { crd, direction, port, allowAll := true }
  else []

/-- The calls of a block. -/
def RuleBlock.calls (block : RuleBlock) (matched : Bool) : List TextPort :=
  block.peers.flatMap (·.calls snapshot crd direction pod block) ++
    block.openCalls crd direction (block.matchedByPeers snapshot crd direction pod matched)

/-- The calls of all blocks. -/
def blockCalls : List RuleBlock → Bool → List TextPort
  | [], _ => []
  | block :: rest, matched =>
      block.calls snapshot crd direction pod matched ++
        blockCalls rest (block.matchedAfter snapshot crd direction pod matched)

/-! ## Ports -/

section

variable {snapshot : Snapshot} {crd : Crd} {direction : Direction} {pod : Pod} {podIp : String}
  {block : RuleBlock}

theorem PolicyPort.isNumbered_eq_false {policyPort : PolicyPort}
    (unnumbered : ∀ value, policyPort.port ≠ some (.number value)) :
    policyPort.isNumbered = false := by
  unfold PolicyPort.isNumbered
  split
  · rename_i value numbered
    exact absurd numbered (unnumbered value)
  · rfl

/-- The rule for one address, without prefixes. -/
theorem createSgRuleFor_adds (cidr : String) (port : Option (PortNumber × Option Protocol))
    (namespaceName : Option String) :
    Adds snapshot pod (· = addressRule crd direction cidr port) []
      (createSgRuleFor snapshot crd direction cidr port namespaceName) ⟨⟩ := by
  intro before value after ran
  have entered : ∃ body : RuleBody, Entered body before after ∧
      body.rule = addressRule crd direction cidr port ∧ body.remoteIpPrefixes = ∅ := by
    cases port with
    | none => exact ⟨_, addRule_enters ran, rfl, rfl⟩
    | some port => exact ⟨_, addRule_enters ran, rfl, rfl⟩
  obtain ⟨body, entered, sameRule, bare⟩ := entered
  constructor
  · rfl
  · constructor
    · intro rule
      rw [entered.holds, sameRule]
      simp [TextPort.OpenInTurn]
    · funext number
      rw [List.flatMap_nil, raised_nil]
      apply propext
      rw [entered.shadows, bare]
      simp

theorem createSgRuleFor_matches (cidr : String) (port : Option (PortNumber × Option Protocol))
    (namespaceName : Option String) :
    Adds snapshot pod (· = addressRule crd direction cidr port) []
      (do
        createSgRuleFor snapshot crd direction cidr port namespaceName
        return true) true := by
  apply ((createSgRuleFor_adds cidr port namespaceName).bind (adds_pure true)).congr
  intro rule
  rw [or_false]

/-- A loop over policy ports whose turns tell what they add. -/
theorem overPorts_adds {named : PolicyPort → Bool → PolicyM Bool}
    {numeric : PortNumber × Option Protocol → Bool → PolicyM Bool} {opens : PolicyPort → Bool}
    {plain : PolicyPort → SgRule → Prop} {calls : PolicyPort → List TextPort}
    {ports : List PolicyPort} {matched : Bool}
    (number : ∀ port ∈ ports, ∀ value, port.port = some (.number value) → ∀ matched,
      Adds snapshot pod (plain port) (calls port) (numeric (value, port.protocol) matched)
        (matched || opens port))
    (name : ∀ port ∈ ports, (∀ value, port.port ≠ some (.number value)) → ∀ matched,
      Adds snapshot pod (plain port) (calls port) (named port matched) (matched || opens port)) :
    Adds snapshot pod (fun rule => ∃ port ∈ ports, plain port rule) (ports.flatMap calls)
      (overPorts named numeric ports matched) (matched || ports.any opens) := by
  induction ports generalizing matched with
  | nil =>
      rw [List.any_nil, Bool.or_false]
      apply (adds_pure matched).congr
      simp
  | cons port rest ih =>
      have later := @ih (matched || opens port)
        (fun other listed => number other (List.mem_cons_of_mem port listed))
        (fun other listed => name other (List.mem_cons_of_mem port listed))
      rw [List.any_cons, ← Bool.or_assoc, overPorts]
      have goesOn {turn : PolicyM Bool}
          (adds : Adds snapshot pod (plain port) (calls port) turn (matched || opens port)) :
          Adds snapshot pod (fun rule => ∃ other ∈ port :: rest, plain other rule)
            ((port :: rest).flatMap calls)
            (turn >>= overPorts named numeric rest)
            (matched || opens port || rest.any opens) := by
        apply (adds.bind later).congr
        intro rule
        rw [List.exists_mem_cons_iff]
      split
      · rename_i value numbered
        exact goesOn (number port List.mem_cons_self value numbered matched)
      · rename_i unnumbered
        exact goesOn (name port List.mem_cons_self unnumbered matched)

/-- A named port of the block as a call. -/
theorem createSgRuleOnTextPort_opens (address : pod.podIp = some podIp) {port : PolicyPort}
    (unnumbered : ∀ value, port.port ≠ some (.number value)) (numbers allowAll : Bool)
    (namespaceName : Option String)
    (placed : TextPort.Placed { crd, direction, port, allowAll, namespaceName } snapshot ∨
      allowAll = false ∧ namespaceName = none) (matched : Bool) :
    Adds snapshot pod (fun _ => False) [{ crd, direction, port, allowAll, namespaceName }]
      (createSgRuleOnTextPort snapshot { crd, direction, port, allowAll, namespaceName } [pod]
        matched)
      (matched || port.opens snapshot crd direction pod numbers) := by
  rw [opens_of_unnumbered unnumbered]
  apply createSgRuleOnTextPort_adds address
  intro lookup
  rcases placed with placed | ⟨rfl, rfl⟩
  · exact placed
  · cases lookup

theorem flatMap_isNumbered (ports : List PolicyPort) (callFor : PolicyPort → TextPort) :
    (ports.flatMap fun port => if port.isNumbered then [] else [callFor port]) =
      (ports.filter (!·.isNumbered)).map callFor := by
  induction ports with
  | nil => rfl
  | cons port rest ih =>
      rw [List.flatMap_cons, ih]
      cases numbered : port.isNumbered <;> simp [numbered]

theorem isNumbered_of_number {port : PolicyPort} {value : PortNumber}
    (numbered : port.port = some (.number value)) : port.isNumbered = true := by
  rw [PolicyPort.isNumbered, numbered]

/-- A loop over policy ports that leaves numbers alone. -/
theorem overPorts_calls (address : pod.podIp = some podIp) (allowAll : Bool)
    (namespaceName : Option String)
    (placed : ∀ port, TextPort.Placed { crd, direction, port, allowAll, namespaceName } snapshot)
    (ports : List PolicyPort) (matched : Bool) :
    Adds snapshot pod (fun _ => False)
      ((ports.filter (!·.isNumbered)).map fun port =>
        { crd, direction, port, allowAll, namespaceName })
      (overPorts
        (fun port matched => createSgRuleOnTextPort snapshot
          { crd, direction, port, allowAll, namespaceName } [pod] matched)
        (fun _ matched => pure matched) ports matched)
      (matched || ports.any fun port => port.opens snapshot crd direction pod false) := by
  rw [← flatMap_isNumbered]
  suffices adds : Adds snapshot pod
      (fun rule => ∃ port ∈ ports, (fun _ _ => False) port rule) _ _ _ by
    apply adds.congr
    simp
  apply overPorts_adds
  · intro port _ value numbered matched
    rw [isNumbered_of_number numbered, if_pos rfl, PolicyPort.opens, numbered, Bool.or_false]
    exact adds_pure matched
  · intro port _ unnumbered matched
    rw [PolicyPort.isNumbered_eq_false unnumbered, if_neg Bool.false_ne_true]
    exact createSgRuleOnTextPort_opens address unnumbered false allowAll namespaceName
      (.inl (placed port)) matched

/-- A loop over policy ports for the address of the pod. -/
theorem overPorts_address (address : pod.podIp = some podIp) (namespaceName : Option String)
    (ports : List PolicyPort) (matched : Bool) :
    Adds snapshot pod
      (fun rule => ∃ port ∈ ports, ∃ number, port.port = some (.number number) ∧
        rule = addressRule crd direction podIp (some (number, port.protocol)))
      ((ports.filter (!·.isNumbered)).map fun port => { crd, direction, port })
      (overPorts
        (fun port matched =>
          createSgRuleOnTextPort snapshot { crd, direction, port } [pod] matched)
        (fun port _ => do
          createSgRuleFor snapshot crd direction podIp (some port) namespaceName
          return true)
        ports matched)
      (matched || ports.any fun port => port.opens snapshot crd direction pod true) := by
  rw [← flatMap_isNumbered]
  apply overPorts_adds
  · intro port _ value numbered matched
    rw [isNumbered_of_number numbered, if_pos rfl, PolicyPort.opens, numbered, Bool.or_true]
    apply (createSgRuleFor_matches podIp (some (value, port.protocol)) namespaceName).congr
    intro rule
    constructor
    · rintro rfl
      exact ⟨value, rfl, rfl⟩
    · rintro ⟨number, same, rfl⟩
      cases same
      rfl
  · intro port _ unnumbered matched
    rw [PolicyPort.isNumbered_eq_false unnumbered, if_neg Bool.false_ne_true]
    apply (createSgRuleOnTextPort_opens address unnumbered true false none (.inr ⟨rfl, rfl⟩)
      matched).congr
    intro rule
    constructor
    · exact False.elim
    · rintro ⟨number, numbered, _⟩
      exact unnumbered number numbered

/-! ## Peers -/

theorem createSgRules_adds {peer : Peer} (matched allowAll : Bool) (namespaceName : Option String)
    (address : pod.podIp = some podIp)
    (placed : ∀ port, TextPort.Placed { crd, direction, port, allowAll, namespaceName } snapshot) :
    Adds snapshot pod
      (fun rule => (∃ selector ∈ presentSelector peer.podSelector,
        matchSelector selector (podLabels pod)) ∧ block.RuleFor crd direction podIp rule)
      (match presentSelector peer.podSelector with
        | some selector =>
            if matchSelector selector (podLabels pod) then
              block.namedPorts.map fun port => { crd, direction, port }
            else []
        | none => block.namedPorts.map fun port =>
            { crd, direction, port, allowAll, namespaceName })
      (createSgRules snapshot crd pod peer.podSelector block direction matched namespaceName
        allowAll)
      (matched || peer.opens snapshot crd direction pod block) := by
  rw [createSgRules, address, Peer.opens]
  dsimp only
  cases present : presentSelector peer.podSelector with
  | some selector =>
      dsimp only
      by_cases selects : matchSelector selector (podLabels pod)
      · rw [if_pos selects, if_pos selects, selects, Bool.true_and]
        have selected : ∃ other ∈ some selector, matchSelector other (podLabels pod) :=
          ⟨selector, rfl, selects⟩
        cases written : block.ports with
        | none =>
            rw [Option.all_none, Bool.or_true, RuleBlock.namedPorts, written]
            apply (createSgRuleFor_matches podIp none namespaceName).congr
            intro rule
            rw [RuleBlock.RuleFor, written]
            exact (and_iff_right selected).symm
        | some ports =>
            rw [Option.all_some, RuleBlock.namedPorts, written]
            apply (overPorts_address address namespaceName ports matched).congr
            intro rule
            rw [RuleBlock.RuleFor, written]
            exact (and_iff_right selected).symm
      · rw [if_neg selects, if_neg selects, Bool.eq_false_iff.mpr selects, Bool.false_and,
          Bool.or_false]
        apply (adds_pure matched).congr
        intro rule
        simp [selects]
  | none =>
      dsimp only
      rw [RuleBlock.opensNamed, RuleBlock.namedPorts]
      cases written : block.ports with
      | none =>
          rw [Option.getD_none, List.any_nil, Bool.or_false]
          apply (adds_pure matched).congr
          simp
      | some ports =>
          rw [Option.getD_some]
          apply (overPorts_calls address allowAll namespaceName placed ports matched).congr
          simp

theorem parseSelectorsOnPod_adds {peer : Peer} (matched : Bool) (address : pod.podIp = some podIp) :
    Adds snapshot pod (peer.Adds snapshot crd direction pod block)
      (peer.calls snapshot crd direction pod block)
      (parseSelectorsOnPod snapshot crd pod peer block direction matched)
      (peer.matchedAfter snapshot crd direction pod block matched) := by
  cases known : snapshot.getNamespace pod.namespaceName with
  | none =>
      rw [parseSelectorsOnPod_of_unknown known]
      intro before value after ran
      cases ran
  | some namespaceObj =>
      rw [parseSelectorsOnPod_of_known known, Peer.matchedAfter, Peer.calls, address]
      by_cases reaches : peer.reaches snapshot crd pod
      · rw [if_pos reaches, if_pos reaches, if_pos reaches]
        have adds_iff : ∀ rule, (∃ selector ∈ presentSelector peer.podSelector,
            matchSelector selector (podLabels pod)) ∧ block.RuleFor crd direction podIp rule ↔
            peer.Adds snapshot crd direction pod block rule := by
          intro rule
          rw [Peer.Adds, Peer.takes, reaches, Bool.true_and, address, Option.any_eq_true]
          simp
        by_cases everyone : peer.namespaceSelector.any (·.isEmpty)
        · rw [if_pos everyone, if_pos everyone]
          apply Adds.congr _ adds_iff
          apply createSgRules_adds matched true none address
          exact fun port => .inl rfl
        · rw [if_neg everyone, if_neg everyone]
          apply Adds.congr _ adds_iff
          apply createSgRules_adds matched false (some pod.namespaceName) address
          exact fun port => .inr ⟨pod.namespaceName, namespaceObj, rfl, known⟩
      · rw [if_neg reaches, if_neg reaches, if_neg reaches]
        apply (adds_pure matched).congr
        intro rule
        simp [Peer.Adds, Peer.takes, reaches]

/-! ## Blocks -/

theorem parsePeers_adds {peers : List Peer} (matched : Bool) (address : pod.podIp = some podIp) :
    Adds snapshot pod (fun rule => ∃ peer ∈ peers, peer.Adds snapshot crd direction pod block rule)
      (peers.flatMap (·.calls snapshot crd direction pod block))
      (parsePeers snapshot direction crd (.pod pod) block peers matched)
      (peers.foldl
        (fun matched peer => peer.matchedAfter snapshot crd direction pod block matched)
        matched) := by
  induction peers generalizing matched with
  | nil =>
      apply (adds_pure matched).congr
      simp
  | cons peer rest ih =>
      rw [parsePeers]
      apply ((parseSelectorsOnPod_adds matched address).bind (ih _)).congr
      intro rule
      rw [List.exists_mem_cons_iff]

theorem parseOpenPorts_adds (matched : Bool) (address : pod.podIp = some podIp) :
    Adds snapshot pod (fun _ => False) (block.openCalls crd direction matched)
      (parseOpenPorts snapshot direction crd (.pod pod) block matched)
      (matched || (block.peers.isEmpty || direction = .ingress) &&
        block.opensNamed snapshot crd direction pod) := by
  unfold parseOpenPorts RuleBlock.openCalls
  cases matched with
  | true => exact adds_pure true
  | false =>
      by_cases falls : block.peers.isEmpty ∨ direction = .ingress
      · have value : (block.peers.isEmpty || direction = .ingress) = true := by
          simpa using falls
        rw [value, Bool.true_and, if_pos ⟨rfl, falls⟩]
        simp only [if_pos falls, if_neg Bool.false_ne_true]
        exact overPorts_calls address true none (fun _ => .inl rfl) (block.ports.getD []) false
      · have value : (block.peers.isEmpty || direction = .ingress) = false := by
          simpa using falls
        rw [value, Bool.false_and, if_neg fun both => falls both.2]
        simp only [if_neg falls, if_neg Bool.false_ne_true]
        rw [overPorts_idle]
        exact adds_pure false

theorem parseBlocks_adds {blocks : List RuleBlock} (matched : Bool)
    (address : pod.podIp = some podIp) :
    Adds snapshot pod
      (fun rule => ∃ block ∈ blocks, ∃ peer ∈ block.peers,
        peer.Adds snapshot crd direction pod block rule)
      (blockCalls snapshot crd direction pod blocks matched)
      (parseBlocks snapshot direction crd (.pod pod) blocks matched)
      (blocks.foldl
        (fun matched block => block.matchedAfter snapshot crd direction pod matched) matched) := by
  induction blocks generalizing matched with
  | nil =>
      apply (adds_pure matched).congr
      simp
  | cons block rest ih =>
      rw [parseBlocks, blockCalls, RuleBlock.calls, List.append_assoc]
      apply ((parsePeers_adds matched address).bind
        ((parseOpenPorts_adds _ address).bind (ih _))).congr
      intro rule
      rw [List.exists_mem_cons_iff, false_or]

/-- What `_parse_rules` leaves of a policy for a pod with an address. -/
theorem parseRules_follows (address : pod.podIp = some podIp) {before after : ParseState}
    {matched : Bool}
    (ran : exec (parseRules snapshot direction crd (.pod pod)) before = (.ok matched, after)) :
    Follows snapshot pod
      (fun rule => ∃ block ∈ crd.spec.blocks direction, ∃ peer ∈ block.peers,
        peer.Adds snapshot crd direction pod block rule)
      (blockCalls snapshot crd direction pod (crd.spec.blocks direction) false) before after :=
  (parseBlocks_adds false address before matched after ran).2

end

end KuryrKubernetes.Policy

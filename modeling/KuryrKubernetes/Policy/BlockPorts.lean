import KuryrKubernetes.Policy.TextPorts
import KuryrKubernetes.Policy.Traffic

/-!
# The ports of a block

What the rules of one block open to those it allows, against its `ports`.  Without `ports`
the rules are for TCP only, and a port without a number is looked up among the container
ports without a name.
-/

namespace KuryrKubernetes.Policy

open KuryrKubernetes.Data
open KuryrKubernetes.Effect

/-- A prefix in a rule is the address of a peer; a rule without one is for everyone. -/
def atPeer (cidr : String) (target : Option String) : Prop :=
  some cidr = target

namespace Translation

variable (translation : Translation)

/-- The first block of a policy is looked at before the loop. -/
def parseFirst (leads : Bool) (block : RuleBlock) : ParseM PUnit :=
  if leads then parseOpenPolicy translation block else pure ⟨⟩

/-- The part of the translation that is about one block. -/
def parseOneBlock (leads : Bool) (block : RuleBlock) : ParseM PUnit := do
  translation.parseFirst leads block
  translation.parseBlock block

/-- A policy is translated block by block. -/
theorem parseSgRules_eq {policy : NetworkPolicy} {first : RuleBlock} {rest : List RuleBlock}
    (blocks : policy.spec.blocks translation.direction = first :: rest) :
    parseSgRules translation policy =
      (do
        translation.parseOneBlock true first
        rest.forM (translation.parseOneBlock false)) := by
  unfold parseSgRules
  rw [blocks]
  simp only [parseOneBlock, bind_assoc]
  rfl

/-! ## Peers and ports -/

/-- The resources of a block. -/
def resourcesOf (block : RuleBlock) : List Resource :=
  match translation.selectorResources block.peers with
  | .ok selected => translation.blockPeers block selected
  | .error _ => []

/-- A block allows an address, or everyone. -/
def AllowsTarget (block : RuleBlock) : Option String → Prop
  | some address => ∃ resource ∈ translation.resourcesOf block,
      translation.address resource = some address
  | none => block.peers = [] ∨ allowsAll block = true

/-- Rules for a resource have this prefix: its address, or the one of a service that goes
with it. -/
def Reaches (resource : Resource) (target : Option String) : Prop :=
  ∃ cidr ∈ translation.address resource,
    some cidr = target ∨
      translation.direction = .egress ∧ ∃ service ∈ translation.cluster.services,
        translation.servesResource resource service = .ok true ∧
          target.isSome ∧ service.clusterIp = target

/-- A number is found for a port that is looked up: in a turn for a peer, or in one for
everyone. -/
def LooksUp (block : RuleBlock) (port : PolicyPort) (target : Option String) (number : Nat) :
    Prop :=
  (restricts block (translation.resourcesOf block) = true ∧
    ∃ turn, translation.Finds
        (translation.textPortTurns port (translation.resourcesOf block)) ∅ turn number ∧
      translation.Reaches turn.1 target) ∨
  ((restricts block (translation.resourcesOf block) = false ∨ allowsAll block = true) ∧
    ∃ turn ∈ translation.textPortTurns port (translation.cluster.pods.map .pod),
      translation.Notes turn number)

/-- The protocols and ports that `ports` stands for.  A name stands for what is looked up. -/
def DenotesPorts (block : RuleBlock) (target : Option String) (protocol : Protocol)
    (number : Nat) : Prop :=
  match block.ports with
  | none => 0 < number ∧ number < 65536
  | some ports => ∃ port ∈ ports, port.protocol.getD .tcp = protocol ∧
      match port.port with
      | none => 0 < number ∧ number < 65536
      | some (.number only) => number = only.val
      | some (.name _) => translation.LooksUp block port target number

/-- The rules admit a protocol and a port to those whom a block allows. -/
def AdmitsPorts (rules : List ParsedRule) (target : Option String) (protocol : Protocol)
    (number : Nat) : Prop :=
  ∃ body, .body body ∈ elements rules ∧ body.rule.Admits atPeer target protocol number

/-- The condition: `ports` is there, unless nobody is allowed, and each entry has a port,
unless the other entries and the unnamed container ports are all 65535 of its protocol. -/
def PortsGiven (block : RuleBlock) : Prop :=
  ∀ target, translation.AllowsTarget block target →
    ∃ ports, block.ports = some ports ∧
      ∀ port ∈ ports, port.port = none → ∀ number, 0 < number → number < 65536 →
        ∃ other ∈ ports, other.protocol.getD .tcp = port.protocol.getD .tcp ∧
          match other.port with
          | some (.number only) => number = only.val
          | _ => translation.LooksUp block other target number

variable {translation}

/-! ## Single rules -/

theorem admits_body_iff {direction : Direction} {portRangeMin portRangeMax : Option Nat}
    {protocol : Option Protocol} {cidr namespaceName target : Option String} {other : Protocol}
    {number : Nat} :
    (translation.body direction portRangeMin portRangeMax protocol cidr namespaceName).rule.Admits
        atPeer target other number ↔
      protocol.getD .tcp = other ∧ (∀ prefix_ ∈ cidr, some prefix_ = target) ∧
        (translation.body direction portRangeMin portRangeMax protocol cidr
          namespaceName).rule.portRangeMin ≤ number ∧
        number ≤ (translation.body direction portRangeMin portRangeMax protocol cidr
          namespaceName).rule.portRangeMax := by
  constructor
  · rintro ⟨same, first, last, at_⟩
    exact ⟨same, at_, first, last⟩
  · rintro ⟨same, at_, first, last⟩
    exact ⟨same, first, last, at_⟩

/-- A rule for one port. -/
theorem admits_one_iff {direction : Direction} {only : Nat} (positive : 0 < only)
    {protocol : Option Protocol} {cidr namespaceName target : Option String} {other : Protocol}
    {number : Nat} :
    (translation.body direction (some only) none protocol cidr namespaceName).rule.Admits
        atPeer target other number ↔
      protocol.getD .tcp = other ∧ (∀ prefix_ ∈ cidr, some prefix_ = target) ∧ number = only := by
  rw [admits_body_iff]
  cases only with
  | zero => cases positive
  | succ only =>
      have range : (only + 1 ≤ number ∧ number ≤ only + 1) ↔ number = only + 1 := by omega
      exact and_congr_right fun _ => and_congr_right fun _ => range

/-! ## Sets of rules -/

/-- Some rule of a set admits a protocol and a port. -/
def Admitted (made : Set Element) (target : Option String) (protocol : Protocol) (number : Nat) :
    Prop :=
  ∃ body, .body body ∈ made ∧ body.rule.Admits atPeer target protocol number

/-- What a rule for a service of a resource admits. -/
theorem admits_of_svcElements {resource : Resource} {only : Nat} (positive : 0 < only)
    {given : Option Protocol} {body : RuleBody}
    (made : .body body ∈ translation.svcElements (some resource) (some only) given)
    {target : Option String} {protocol : Protocol} {number : Nat}
    (admits : body.rule.Admits atPeer target protocol number) :
    given.getD .tcp = protocol ∧ number = only ∧ translation.direction = .egress ∧
      ∃ service ∈ translation.cluster.services,
        translation.servesResource resource service = .ok true ∧
          target.isSome ∧ service.clusterIp = target := by
  rcases made with ⟨egress, bodies, created, found, listed, same⟩
  cases same
  rcases (mem_svcRules_iff created body).mp listed with
    ⟨service, member, serves, clusterIp, located, rfl⟩
  rcases (admits_one_iff positive).mp admits with ⟨same, at_, numbered⟩
  have here := at_ clusterIp rfl
  refine ⟨same, numbered, egress, service, member, serves, ?_, ?_⟩
  · rw [← here]
    rfl
  · rw [← here]
    exact located

/-- The rules for a resource and a number are for that number. -/
theorem admitted_numberElements_iff {port : PolicyPort} {resource : Resource} {only : Nat}
    (positive : 0 < only)
    (scanned : translation.direction = .egress → translation.Scannable resource)
    {target : Option String} {protocol : Protocol} {number : Nat} :
    Admitted (translation.numberElements port false resource only) target protocol number ↔
      port.protocol.getD .tcp = protocol ∧ number = only ∧ translation.Reaches resource target := by
  constructor
  · rintro ⟨body, ⟨_, cidr, located, own | service⟩, admits⟩
    · cases own
      rcases (admits_one_iff positive).mp admits with ⟨same, at_, numbered⟩
      exact ⟨same, numbered, cidr, located, .inl (at_ cidr rfl)⟩
    · rcases admits_of_svcElements positive service admits with ⟨same, numbered, served⟩
      exact ⟨same, numbered, cidr, located, .inr served⟩
  · rintro ⟨same, rfl, cidr, located, rfl | ⟨egress, service, member, serves, there, at_⟩⟩
    · refine ⟨_, ⟨rfl, cidr, located, .inl rfl⟩, (admits_one_iff positive).mpr ⟨same, ?_, rfl⟩⟩
      intro prefix_ given
      rw [Option.mem_some.mp given]
    · rcases Option.isSome_iff_exists.mp there with ⟨clusterIp, rfl⟩
      have created := (createSvcEgressSgRule_eq_ok_iff (some resource) (some number)
        port.protocol).mpr (fun known given => Option.some.inj given ▸ scanned egress)
      rcases created with ⟨bodies, created⟩
      let body := translation.body .egress (some number) none port.protocol (some clusterIp) none
      have listed : body ∈ bodies :=
        (mem_svcRules_iff created body).mpr ⟨service, member, serves, clusterIp, at_, rfl⟩
      refine ⟨body, ⟨rfl, cidr, located, .inr ⟨egress, bodies, created, body, listed, rfl⟩⟩,
        (admits_one_iff positive).mpr ⟨same, ?_, rfl⟩⟩
      intro prefix_ given
      rw [Option.mem_some.mp given]

/-- The rules for the peers of a port that is looked up. -/
theorem admitted_peers_iff {port : PolicyPort} {resources : List Resource}
    {target : Option String} {protocol : Protocol} {number : Nat} :
    Admitted (translation.textPortElements port resources false) target protocol number ↔
      port.protocol.getD .tcp = protocol ∧
        ∃ turn, translation.Finds (translation.textPortTurns port resources) ∅ turn number ∧
          translation.Reaches turn.1 target := by
  have one {turn : Resource × List (Pod × PortNumber)} {only : Nat}
      (finds : translation.Finds (translation.textPortTurns port resources) ∅ turn only) :=
    @admitted_numberElements_iff translation port turn.1 only
      (by
        rcases notes_of_finds finds with ⟨noting, _, notes⟩
        exact pos_of_notes notes)
      (scannable_of_mem_textPortTurns (mem_of_finds finds)) target protocol number
  constructor
  · rintro ⟨body, made | ⟨everyone, _⟩, admits⟩
    · rcases mem_inTurns_iff.mp made with ⟨turn, only, finds, inTurn⟩
      rcases (one finds).mp ⟨body, inTurn, admits⟩ with ⟨same, rfl, reaches⟩
      exact ⟨same, turn, finds, reaches⟩
    · cases everyone
  · rintro ⟨same, turn, finds, reaches⟩
    rcases (one finds).mpr ⟨same, rfl, reaches⟩ with ⟨body, inTurn, admits⟩
    exact ⟨body, .inl (mem_inTurns_iff.mpr ⟨turn, number, finds, inTurn⟩), admits⟩

/-- The rules for everyone of a port that is looked up. -/
theorem admitted_everyone_iff {port : PolicyPort} {resources : List Resource}
    {target : Option String} {protocol : Protocol} {number : Nat} :
    Admitted (translation.textPortElements port resources true) target protocol number ↔
      port.protocol.getD .tcp = protocol ∧
        ∃ turn ∈ translation.textPortTurns port resources, translation.Notes turn number := by
  have noted {only : Nat}
      (listed : only ∈ (translation.podsOfTextPort port resources).keys) :
      ∃ turn ∈ translation.textPortTurns port resources, translation.Notes turn only := by
    rcases (mem_keys_notedPods_iff _ _ _).mp listed with nothing | noted
    · cases nothing
    · exact noted
  constructor
  · rintro ⟨body, made | ⟨_, made⟩, admits⟩
    · rcases mem_inTurns_iff.mp made with ⟨turn, only, _, restricted, _⟩
      cases restricted
    · rcases made with ⟨only, listed, same⟩ | ⟨last, found, _, bodies, created, rule, listed, same⟩
      · cases same
        rcases noted listed with ⟨turn, member, notes⟩
        rcases (admits_one_iff (pos_of_notes notes)).mp admits with ⟨proto, _, rfl⟩
        exact ⟨proto, turn, member, notes⟩
      · cases same
        cases created
        rw [List.mem_singleton.mp listed] at admits
        have key : last.1 ∈ (translation.podsOfTextPort port resources).keys :=
          List.mem_map_of_mem (List.mem_of_getLast? found)
        rcases noted key with ⟨turn, member, notes⟩
        rcases (admits_one_iff (pos_of_notes notes)).mp admits with ⟨proto, _, rfl⟩
        exact ⟨proto, turn, member, notes⟩
  · rintro ⟨same, turn, member, notes⟩
    refine ⟨translation.bodyOnTextPort port number none, ?_,
      (admits_one_iff (pos_of_notes notes)).mpr ⟨same, by rintro _ ⟨⟩, rfl⟩⟩
    right
    refine ⟨rfl, .inl ⟨number, ?_, rfl⟩⟩
    exact (mem_keys_notedPods_iff _ _ _).mpr (.inr ⟨turn, member, notes⟩)

/-- The rules for a resource and a number are for that number. -/
theorem admits_of_resourceElements {only : PortNumber} {given : Option Protocol}
    {resource : Resource} {body : RuleBody}
    (made : .body body ∈ translation.resourceElements (some (only, given)) resource)
    {target : Option String} {protocol : Protocol} {number : Nat}
    (admits : body.rule.Admits atPeer target protocol number) :
    given.getD .tcp = protocol ∧ number = only.val := by
  rcases made with ⟨cidr, _, same | service⟩
  · cases same
    rcases (admits_one_iff only.property.1).mp admits with ⟨proto, _, numbered⟩
    exact ⟨proto, numbered⟩
  · rcases admits_of_svcElements only.property.1 service admits with ⟨proto, numbered, _⟩
    exact ⟨proto, numbered⟩

/-! ## Ports of a block -/

theorem restricts_of_mem {block : RuleBlock} {resources : List Resource} {resource : Resource}
    (member : resource ∈ resources) : restricts block resources = true := by
  have nonempty : resources.isEmpty = false := by
    rw [List.isEmpty_eq_false_iff]
    exact List.ne_nil_of_mem member
  simp [restricts, nonempty]

/-- A block without peers restricts nobody. -/
theorem restricts_of_no_peers {block : RuleBlock} (nobody : block.peers = []) :
    restricts block (translation.resourcesOf block) = false := by
  simp [restricts, resourcesOf, blockPeers, allowsAll, hasSelectors, nobody, selectorResources]

/-- The rules for a port admit its number, or what is looked up for it. -/
theorem admitted_portElements_iff {block : RuleBlock} {target : Option String}
    (allowed : translation.AllowsTarget block target) (port : PolicyPort) {protocol : Protocol}
    {number : Nat} :
    Admitted (translation.portElements block (translation.resourcesOf block) port) target protocol
        number ↔
      port.protocol.getD .tcp = protocol ∧
        match port.port with
        | some (.number only) => number = only.val
        | _ => translation.LooksUp block port target number := by
  have text (onPort : translation.onPortElements (translation.resourcesOf block) port =
        translation.textPortElements port (translation.resourcesOf block) false)
      (allPods : translation.allPodsElements port =
        translation.textPortElements port (translation.cluster.pods.map .pod) true) :
      Admitted (translation.portElements block (translation.resourcesOf block) port) target
          protocol number ↔
        port.protocol.getD .tcp = protocol ∧ translation.LooksUp block port target number := by
    unfold portElements LooksUp
    rw [onPort, allPods]
    constructor
    · rintro ⟨body, ⟨restricted, made⟩ | ⟨everyone, made⟩, admits⟩
      · rcases admitted_peers_iff.mp ⟨body, made, admits⟩ with ⟨same, found⟩
        exact ⟨same, .inl ⟨restricted, found⟩⟩
      · rcases admitted_everyone_iff.mp ⟨body, made, admits⟩ with ⟨same, found⟩
        exact ⟨same, .inr ⟨everyone, found⟩⟩
    · rintro ⟨same, ⟨restricted, found⟩ | ⟨everyone, found⟩⟩
      · rcases admitted_peers_iff.mpr ⟨same, found⟩ with ⟨body, made, admits⟩
        exact ⟨body, .inl ⟨restricted, made⟩, admits⟩
      · rcases admitted_everyone_iff.mpr ⟨same, found⟩ with ⟨body, made, admits⟩
        exact ⟨body, .inr ⟨everyone, made⟩, admits⟩
  rcases value : port.port with _ | only | name
  · exact text (by simp [onPortElements, value]) (by simp [allPodsElements, value])
  · simp only
    have onPort : translation.onPortElements (translation.resourcesOf block) port =
        {element | ∃ resource ∈ translation.resourcesOf block,
          element ∈ translation.resourceElements (some (only, port.protocol)) resource} := by
      simp [onPortElements, value]
    have allPods : translation.allPodsElements port =
        {.body (translation.body translation.direction (some only.val) none port.protocol
            none none)} ∪
          translation.svcElements none (some only.val) port.protocol := by
      simp [allPodsElements, value]
    unfold portElements
    rw [onPort, allPods]
    constructor
    · rintro ⟨body, ⟨_, resource, _, made⟩ | ⟨_, own | service⟩, admits⟩
      · exact admits_of_resourceElements made admits
      · cases own
        rcases (admits_one_iff only.property.1).mp admits with ⟨same, _, numbered⟩
        exact ⟨same, numbered⟩
      · rcases service with ⟨_, bodies, created, rule, listed, same⟩
        cases same
        cases created
        rw [List.mem_singleton.mp listed] at admits
        rcases (admits_one_iff only.property.1).mp admits with ⟨same, _, numbered⟩
        exact ⟨same, numbered⟩
    · rintro ⟨same, rfl⟩
      cases target with
      | some address =>
          rcases allowed with ⟨resource, member, located⟩
          refine ⟨_, .inl ⟨restricts_of_mem member, resource, member, address, located, .inl rfl⟩,
            (admits_one_iff only.property.1).mpr ⟨same, ?_, rfl⟩⟩
          intro prefix_ given
          rw [Option.mem_some.mp given]
      | none =>
          refine ⟨_, .inr ⟨?_, .inl rfl⟩,
            (admits_one_iff only.property.1).mpr ⟨same, by rintro _ ⟨⟩, rfl⟩⟩
          rcases allowed with nobody | everyone
          · exact .inl (restricts_of_no_peers nobody)
          · exact .inr everyone
  · exact text (by simp [onPortElements, value]) (by simp [allPodsElements, value])

/-- Without `ports` all rules are for TCP. -/
theorem tcp_of_withoutPorts {block : RuleBlock} {resources : List Resource} {body : RuleBody}
    (made : .body body ∈ translation.withoutPortsElements block resources) :
    body.rule.protocol = .tcp := by
  rcases made with ⟨resource, _, cidr, _, same | service⟩ | ⟨_, everyone⟩
  · cases same
    rfl
  · rcases service with ⟨_, bodies, created, rule, listed, same⟩
    cases same
    rcases (mem_svcRules_iff created body).mp listed with ⟨_, _, _, _, _, rfl⟩
    rfl
  · unfold allPortsElements at everyone
    cases towards : translation.direction with
    | ingress =>
        rw [towards] at everyone
        cases everyone
        rfl
    | egress =>
        rw [towards] at everyone
        rcases everyone with same | same
        · cases same
          rfl
        · cases same

theorem tcp_of_openElements {block : RuleBlock} {body : RuleBody}
    (made : .body body ∈ translation.openElements block) : body.rule.protocol = .tcp := by
  rcases made with ⟨_, same⟩
  cases same
  rfl

/-! ## One block -/

theorem parseOneBlock_adds (leads : Bool) (block : RuleBlock) :
    AddsElements (translation.parseOneBlock leads block)
      ({element | leads = true ∧ element ∈ translation.openElements block} ∪
        translation.blockElements block) := by
  have opened : AddsElements (translation.parseFirst leads block)
      {element | leads = true ∧ element ∈ translation.openElements block} := by
    apply Adds.ite
    · intro first
      apply (parseOpenPolicy_adds translation block).congr
      simp [first]
    · intro later
      apply (adds_pure PUnit.unit).congr
      simp [later]
  exact opened.bind fun _ _ => translation.parseBlock_adds block

/-- The rules of a block whose translation returns. -/
theorem elements_of_parseOneBlock {leads : Bool} {block : RuleBlock} {done : PUnit}
    {rules : List ParsedRule}
    (ran : exec (translation.parseOneBlock leads block) [] = (.ok done, rules)) :
    elements rules = {element | leads = true ∧ element ∈ translation.openElements block} ∪
      translation.elementsOnPeers block (translation.resourcesOf block) := by
  have added := translation.parseOneBlock_adds leads block [] done rules ran
  rw [readings_nil, Set.empty_union] at added
  rcases exec_bind_eq_ok ran with ⟨_, _, _, parsed⟩
  rcases exec_bind_eq_ok parsed with ⟨_, _, settled, _⟩
  change readings ParsedRule.element rules = _
  rw [added]
  congr 1
  unfold resourcesOf
  cases resolved : translation.selectorResources block.peers with
  | error exception =>
      rw [resolved] at settled
      cases settled
  | ok selected =>
      ext element
      simp [blockElements, resolved]

/-- The rules of a block with `ports` admit what its entries admit. -/
theorem admitsPorts_iff {leads : Bool} {block : RuleBlock} {ports : List PolicyPort}
    (given : block.ports = some ports) {done : PUnit} {rules : List ParsedRule}
    (ran : exec (translation.parseOneBlock leads block) [] = (.ok done, rules))
    {target : Option String} (allowed : translation.AllowsTarget block target)
    {protocol : Protocol} {number : Nat} :
    AdmitsPorts rules target protocol number ↔
      ∃ port ∈ ports, port.protocol.getD .tcp = protocol ∧
        match port.port with
        | some (.number only) => number = only.val
        | _ => translation.LooksUp block port target number := by
  have filled : block ≠ {} := by
    intro bare
    rw [bare] at given
    cases given
  unfold AdmitsPorts
  rw [elements_of_parseOneBlock ran]
  simp only [← admitted_portElements_iff allowed, elementsOnPeers, given]
  constructor
  · rintro ⟨body, ⟨_, bare, _⟩ | ⟨port, member, made⟩, admits⟩
    · exact absurd bare filled
    · exact ⟨port, member, body, made, admits⟩
  · rintro ⟨port, member, body, made, admits⟩
    exact ⟨body, .inr ⟨port, member, made⟩, admits⟩

/-- The rules of a block without `ports` do not admit UDP. -/
theorem not_admitsPorts_udp {leads : Bool} {block : RuleBlock} (absent : block.ports = none)
    {done : PUnit} {rules : List ParsedRule}
    (ran : exec (translation.parseOneBlock leads block) [] = (.ok done, rules))
    (target : Option String) (number : Nat) : ¬AdmitsPorts rules target .udp number := by
  rintro ⟨body, made, admits⟩
  rw [elements_of_parseOneBlock ran] at made
  simp only [elementsOnPeers, absent] at made
  have tcp : body.rule.protocol = .tcp := by
    rcases made with ⟨_, opened⟩ | made
    · exact tcp_of_openElements opened
    · exact tcp_of_withoutPorts made
  have udp : body.rule.protocol = .udp := admits.1
  rw [tcp] at udp
  cases udp

theorem range_of_looksUp {block : RuleBlock} {port : PolicyPort} {target : Option String}
    {number : Nat} (found : translation.LooksUp block port target number) :
    0 < number ∧ number < 65536 := by
  rcases found with ⟨_, turn, finds, _⟩ | ⟨_, turn, _, notes⟩
  · rcases notes_of_finds finds with ⟨noting, _, notes⟩
    exact ⟨pos_of_notes notes, lt_of_notes notes⟩
  · exact ⟨pos_of_notes notes, lt_of_notes notes⟩

/-- The rules of a block admit what its `ports` stand for exactly where `ports` is there and
its entries have ports. -/
theorem block_ports_iff {leads : Bool} {block : RuleBlock} {done : PUnit}
    {rules : List ParsedRule}
    (ran : exec (translation.parseOneBlock leads block) [] = (.ok done, rules)) :
    (∀ target, translation.AllowsTarget block target → ∀ protocol number,
        AdmitsPorts rules target protocol number ↔
          translation.DenotesPorts block target protocol number) ↔
      translation.PortsGiven block := by
  apply forall₂_congr
  intro target allowed
  cases given : block.ports with
  | none =>
      simp only [reduceCtorEq, false_and, exists_false, iff_false]
      intro same
      apply not_admitsPorts_udp given ran target 1
      apply (same .udp 1).mpr
      unfold DenotesPorts
      rw [given]
      exact ⟨Nat.one_pos, by omega⟩
  | some ports =>
      have denotes (protocol : Protocol) (number : Nat) :
          translation.DenotesPorts block target protocol number ↔
            ∃ port ∈ ports, port.protocol.getD .tcp = protocol ∧
              match port.port with
              | none => 0 < number ∧ number < 65536
              | some (.number only) => number = only.val
              | some (.name _) => translation.LooksUp block port target number := by
        unfold DenotesPorts
        rw [given]
      simp only [admitsPorts_iff given ran allowed, denotes, Option.some.injEq, exists_eq_left']
      constructor
      · intro same port member bare number positive bounded
        have denoted := (same (port.protocol.getD .tcp) number).mpr
          ⟨port, member, rfl, by simp only [bare]; exact ⟨positive, bounded⟩⟩
        exact denoted
      · intro covered protocol number
        constructor
        · rintro ⟨port, member, same, admitted⟩
          refine ⟨port, member, same, ?_⟩
          rcases value : port.port with _ | only | name
          · simp only [value] at admitted
            exact range_of_looksUp admitted
          · simpa only [value] using admitted
          · simpa only [value] using admitted
        · rintro ⟨port, member, same, denoted⟩
          rcases value : port.port with _ | only | name
          · simp only [value] at denoted
            rcases covered port member value number denoted.1 denoted.2 with
              ⟨other, otherMember, alike, admitted⟩
            exact ⟨other, otherMember, alike.trans same, admitted⟩
          · refine ⟨port, member, same, ?_⟩
            simpa only [value] using denoted
          · refine ⟨port, member, same, ?_⟩
            simpa only [value] using denoted

end Translation

/-! ## Blocks for everyone -/

namespace Resolver

/-- `ingress` in a cluster without pods. -/
def translation : Translation where
  cluster := {}
  text := { contains := fun _ _ => some false, exclude := fun cidr _ => [cidr] }
  policyNamespace := "default"
  podSelector := {}
  securityGroupId := "sg"
  direction := .ingress

/-- Port 53 of UDP is open. -/
def block : RuleBlock where
  ports := some [{ port := some (.number ⟨53, by decide⟩), protocol := some .udp }]

/-- The rules of a first block. -/
def rulesFor (block : RuleBlock) : List ParsedRule :=
  (exec (translation.parseOneBlock true block) []).2

end Resolver

/-- A block with one number is open for that number. -/
theorem block_ports_of_one_number :
    Translation.AdmitsPorts (Resolver.rulesFor Resolver.block) none .udp 53 ↔
      Resolver.translation.DenotesPorts Resolver.block none .udp 53 := by
  have ran : exec (Resolver.translation.parseOneBlock true Resolver.block) [] =
      (.ok ⟨⟩, Resolver.rulesFor Resolver.block) := rfl
  have given : Resolver.translation.PortsGiven Resolver.block := by
    intro target allowed
    refine ⟨_, rfl, ?_⟩
    intro port member bare
    rw [List.mem_singleton.mp member] at bare
    cases bare
  exact (Translation.block_ports_iff ran).mpr given none (.inl rfl) .udp 53

/-- The block `{}` is not open for UDP. -/
theorem block_ports_of_bare_block :
    exec (Resolver.translation.parseOneBlock true {}) [] = (.ok ⟨⟩, Resolver.rulesFor {}) ∧
      Resolver.translation.AllowsTarget {} none ∧
      Resolver.translation.DenotesPorts {} none .udp 53 ∧
      ¬Translation.AdmitsPorts (Resolver.rulesFor {}) none .udp 53 := by
  have ran : exec (Resolver.translation.parseOneBlock true {}) [] =
      (.ok ⟨⟩, Resolver.rulesFor {}) := rfl
  refine ⟨ran, .inl rfl, ⟨by omega, by omega⟩, ?_⟩
  exact Translation.not_admitsPorts_udp rfl ran none 53

end KuryrKubernetes.Policy

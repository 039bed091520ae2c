import KuryrKubernetes.Policy.TextPorts

/-!
# Blocks of addresses with exceptions

The blocks of addresses that an `ipBlock` is turned into, and the rules for them.  Each
exception is taken out of the whole block, and what is left is put together: an address
stays out where it lies in all of the exceptions.
-/

namespace KuryrKubernetes.Policy

open KuryrKubernetes.Data
open KuryrKubernetes.Effect

/-- `netaddr.cidr_exclude` leaves blocks that make up the addresses of the first block which
are not in the second one. -/
def AddressText.Excludes {Address : Type} (text : AddressText) (denotes : String → Set Address)
    (cidr excepted : String) : Prop :=
  {address | ∃ part ∈ text.exclude cidr excepted, address ∈ denotes part} =
    denotes cidr \ denotes excepted

/-- The prefix of a rule. -/
def ParsedRule.remoteIpPrefix : ParsedRule → Option String
  | .rule body _ => body.rule.remoteIpPrefix
  | .everything _ _ | .nested _ => none

namespace Translation

variable (translation : Translation)

/-- The addresses of the blocks that an `ipBlock` is turned into and that have rules. -/
def ruledAddresses {Address : Type} (denotes : String → Set Address) (ipBlock : IpBlock)
    (rules : List ParsedRule) : Set Address :=
  {address | ∃ cidr, .cidr cidr ∈ translation.blockResources ipBlock ∧
    (∃ rule ∈ rules, rule.remoteIpPrefix = some cidr) ∧ address ∈ denotes cidr}

/-- Some port of a block gets rules for blocks of addresses: all ports, a number, or for
`ingress` a name that a pod of the policy has.  Names for `egress` are not supported. -/
def RulesCidrs (block : RuleBlock) : Prop :=
  ∀ ports ∈ block.ports, ∃ port ∈ ports, port.isText = false ∨
    translation.direction = .ingress ∧
      ∃ pod ∈ translation.cluster.getPods translation.podSelector translation.policyNamespace,
        getPorts pod (portName port) ≠ []

variable {translation}

/-! ## Rules for blocks of addresses -/

/-- A number and all ports get a rule for each block of addresses. -/
theorem resourceElements_of_cidr (port : Option (PortNumber × Option Protocol)) (cidr : String) :
    ∃ body : RuleBody, .body body ∈ translation.resourceElements port (.cidr cidr) ∧
      body.rule.remoteIpPrefix = some cidr := by
  refine ⟨translation.bodyOnResource port (.cidr cidr) cidr, ⟨cidr, rfl, .inl rfl⟩, ?_⟩
  cases port <;> rfl

/-- A name that a pod of the policy has gets a rule for each block of addresses. -/
theorem textPortElements_of_cidr (ingress : translation.direction = .ingress) {port : PolicyPort}
    {pod : Pod}
    (queried : pod ∈ translation.cluster.getPods translation.podSelector
      translation.policyNamespace)
    (exposed : getPorts pod (portName port) ≠ []) {resources : List Resource} {cidr : String}
    (listed : .cidr cidr ∈ resources) :
    ∃ body : RuleBody, .body body ∈ translation.textPortElements port resources false ∧
      body.rule.remoteIpPrefix = some cidr := by
  rcases List.exists_mem_of_ne_nil _ exposed with ⟨entry, member⟩
  have notes : translation.Notes (.cidr cidr, getPorts pod (portName port)) entry.2.val :=
    ⟨entry, member, by simp [skips, ingress], rfl⟩
  have turn : (.cidr cidr, getPorts pod (portName port)) ∈
      translation.textPortTurns port resources := by
    rw [textPortTurns, ingress]
    exact List.mem_flatMap.mpr ⟨pod, queried, List.mem_map.mpr ⟨_, listed, rfl⟩⟩
  refine ⟨translation.bodyOnTextPort port entry.2.val (some cidr), ?_, rfl⟩
  left
  exact mem_inTurns_iff.mpr
    ⟨_, entry.2.val, .inl ⟨turn, .inr notes⟩, rfl, cidr, rfl, .inl rfl⟩

/-- Every block of addresses of a block gets a rule. -/
theorem blockElements_of_cidr {block : RuleBlock} {selected : List Resource}
    (resolved : translation.selectorResources block.peers = .ok selected)
    (ruled : translation.RulesCidrs block) {cidr : String}
    (listed : .cidr cidr ∈ translation.blockPeers block selected) :
    ∃ body : RuleBody, .body body ∈ translation.blockElements block ∧
      body.rule.remoteIpPrefix = some cidr := by
  have inBlock {body : RuleBody}
      (made : .body body ∈ translation.elementsOnPeers block
        (translation.blockPeers block selected))
      (same : body.rule.remoteIpPrefix = some cidr) :
      ∃ body : RuleBody, .body body ∈ translation.blockElements block ∧
        body.rule.remoteIpPrefix = some cidr :=
    ⟨body, ⟨selected, resolved, made⟩, same⟩
  unfold elementsOnPeers at inBlock
  cases given : block.ports with
  | none =>
      simp only [given] at inBlock
      rcases @resourceElements_of_cidr translation none cidr with ⟨body, made, same⟩
      exact inBlock (.inl ⟨_, listed, made⟩) same
  | some ports =>
      simp only [given] at inBlock
      have restricted : restricts block (translation.blockPeers block selected) = true := by
        have nonempty : (translation.blockPeers block selected).isEmpty = false := by
          rw [List.isEmpty_eq_false_iff]
          exact List.ne_nil_of_mem listed
        simp [restricts, nonempty]
      rcases ruled ports given with ⟨port, member, ports_⟩
      have onPort : ∃ body : RuleBody,
          .body body ∈ translation.onPortElements (translation.blockPeers block selected) port ∧
            body.rule.remoteIpPrefix = some cidr := by
        unfold onPortElements
        rcases value : port.port with _ | number | name
        · rcases ports_ with numbered | ⟨ingress, pod, queried, exposed⟩
          · simp [PolicyPort.isText, value] at numbered
          · exact textPortElements_of_cidr ingress queried exposed listed
        · rcases @resourceElements_of_cidr translation (some (number, port.protocol)) cidr with
            ⟨body, made, same⟩
          exact ⟨body, ⟨_, listed, made⟩, same⟩
        · rcases ports_ with numbered | ⟨ingress, pod, queried, exposed⟩
          · simp [PolicyPort.isText, value] at numbered
          · exact textPortElements_of_cidr ingress queried exposed listed
      rcases onPort with ⟨body, made, same⟩
      exact inBlock ⟨port, member, .inl ⟨restricted, made⟩⟩ same

/-- Every block of addresses that an `ipBlock` is turned into gets a rule. -/
theorem rule_of_blockResources {policy : NetworkPolicy} {block : RuleBlock}
    (listed : block ∈ policy.spec.blocks translation.direction) {peer : Peer}
    (among : peer ∈ block.peers) {ipBlock : IpBlock} (given : peer.ipBlock = some ipBlock)
    (ruled : translation.RulesCidrs block) {done : PUnit} {rules : List ParsedRule}
    (ran : exec (parseSgRules translation policy) [] = (.ok done, rules)) {cidr : String}
    (member : .cidr cidr ∈ translation.blockResources ipBlock) :
    ∃ rule ∈ rules, rule.remoteIpPrefix = some cidr := by
  rcases selected_of_parseSgRules ran listed with ⟨selected, resolved⟩
  have resource : .cidr cidr ∈ translation.blockPeers block selected := by
    apply List.mem_append_right
    apply List.mem_flatMap.mpr
    exact ⟨ipBlock, List.mem_filterMap.mpr ⟨peer, among, given⟩, member⟩
  rcases blockElements_of_cidr resolved ruled resource with ⟨body, made, same⟩
  have added : Element.body body ∈ elements rules := by
    rw [elements_of_parseSgRules (List.ne_nil_of_mem listed) ran]
    exact .inr ⟨block, listed, made⟩
  rcases added with ⟨rule, present, equal⟩
  refine ⟨rule, present, ?_⟩
  cases rule with
  | rule own pods =>
      cases equal
      exact same
  | everything id direction => cases equal
  | nested bodies => cases equal

/-! ## The addresses -/

theorem mem_blockResources_iff {ipBlock : IpBlock} {cidr : String} :
    .cidr cidr ∈ translation.blockResources ipBlock ↔
      (ipBlock.excepted = [] ∧ cidr = ipBlock.cidr) ∨
        ∃ excepted ∈ ipBlock.excepted, cidr ∈ translation.text.exclude ipBlock.cidr excepted := by
  unfold blockResources
  by_cases nothing : ipBlock.excepted = []
  · simp [nothing]
  · have some_ : ipBlock.excepted.isEmpty = false := by
      rw [List.isEmpty_eq_false_iff]
      exact nothing
    simp [nothing, some_]

/-- The addresses of the blocks that an `ipBlock` is turned into: those outside of one of the
exceptions. -/
theorem mem_ruledAddresses_iff {Address : Type} {denotes : String → Set Address}
    {ipBlock : IpBlock} {rules : List ParsedRule}
    (excludes : ∀ excepted ∈ ipBlock.excepted,
      translation.text.Excludes denotes ipBlock.cidr excepted)
    (ruled : ∀ cidr, .cidr cidr ∈ translation.blockResources ipBlock →
      ∃ rule ∈ rules, rule.remoteIpPrefix = some cidr) (address : Address) :
    address ∈ translation.ruledAddresses denotes ipBlock rules ↔
      address ∈ denotes ipBlock.cidr ∧
        (ipBlock.excepted = [] ∨ ∃ excepted ∈ ipBlock.excepted, address ∉ denotes excepted) := by
  have left (excepted : String) (listed : excepted ∈ ipBlock.excepted) :
      (∃ part ∈ translation.text.exclude ipBlock.cidr excepted, address ∈ denotes part) ↔
        address ∈ denotes ipBlock.cidr ∧ address ∉ denotes excepted := by
    have same := congrArg (fun addresses => address ∈ addresses) (excludes excepted listed)
    simpa using same
  have turned : address ∈ translation.ruledAddresses denotes ipBlock rules ↔
      ∃ cidr, .cidr cidr ∈ translation.blockResources ipBlock ∧ address ∈ denotes cidr := by
    constructor
    · rintro ⟨cidr, member, _, inside⟩
      exact ⟨cidr, member, inside⟩
    · rintro ⟨cidr, member, inside⟩
      exact ⟨cidr, member, ruled cidr member, inside⟩
  rw [turned]
  simp only [mem_blockResources_iff]
  constructor
  · rintro ⟨cidr, ⟨nothing, rfl⟩ | ⟨excepted, listed, part⟩, inside⟩
    · exact ⟨inside, .inl nothing⟩
    · rcases (left excepted listed).mp ⟨cidr, part, inside⟩ with ⟨whole, outside⟩
      exact ⟨whole, .inr ⟨excepted, listed, outside⟩⟩
  · rintro ⟨whole, nothing | ⟨excepted, listed, outside⟩⟩
    · exact ⟨ipBlock.cidr, .inl ⟨nothing, rfl⟩, whole⟩
    · rcases (left excepted listed).mpr ⟨whole, outside⟩ with ⟨part, member, inside⟩
      exact ⟨part, .inr ⟨excepted, listed, member⟩, inside⟩

/-- The rules for an `ipBlock` are for the addresses of its block outside of all exceptions
exactly where its exceptions have the same addresses of the block. -/
theorem ip_block_addresses_iff {Address : Type} (denotes : String → Set Address)
    {policy : NetworkPolicy} {block : RuleBlock}
    (listed : block ∈ policy.spec.blocks translation.direction) {peer : Peer}
    (among : peer ∈ block.peers) {ipBlock : IpBlock} (given : peer.ipBlock = some ipBlock)
    (ruled : translation.RulesCidrs block)
    (excludes : ∀ excepted ∈ ipBlock.excepted,
      translation.text.Excludes denotes ipBlock.cidr excepted)
    {done : PUnit} {rules : List ParsedRule}
    (ran : exec (parseSgRules translation policy) [] = (.ok done, rules)) :
    translation.ruledAddresses denotes ipBlock rules =
        denotes ipBlock.cidr \ {address | ∃ excepted ∈ ipBlock.excepted, address ∈ denotes excepted} ↔
      ∀ first ∈ ipBlock.excepted, ∀ second ∈ ipBlock.excepted,
        denotes ipBlock.cidr ∩ denotes first ⊆ denotes second := by
  have addresses := fun address => mem_ruledAddresses_iff excludes
    (fun cidr member => rule_of_blockResources listed among given ruled ran member) address
  constructor
  · intro same first firstListed second secondListed address ⟨whole, inFirst⟩
    by_contra outside
    have present := (addresses address).mpr ⟨whole, .inr ⟨second, secondListed, outside⟩⟩
    rw [same] at present
    exact present.2 ⟨first, firstListed, inFirst⟩
  · intro alike
    ext address
    rw [addresses]
    constructor
    · rintro ⟨whole, nothing | ⟨excepted, member, outside⟩⟩
      · refine ⟨whole, ?_⟩
        rintro ⟨excepted, member, _⟩
        rw [nothing] at member
        cases member
      · refine ⟨whole, ?_⟩
        rintro ⟨other, otherMember, inside⟩
        exact outside (alike other otherMember excepted member ⟨whole, inside⟩)
    · rintro ⟨whole, outside⟩
      refine ⟨whole, ?_⟩
      cases exceptions : ipBlock.excepted with
      | nil => exact .inl rfl
      | cons first rest =>
          right
          refine ⟨first, List.mem_cons_self, fun inside => outside ⟨first, ?_, inside⟩⟩
          rw [exceptions]
          exact List.mem_cons_self

end Translation

/-! ## The two halves of a block -/

namespace Halves

def whole : String := "10.0.0.0/24"

def lower : String := "10.0.0.0/25"

def upper : String := "10.0.0.128/25"

/-- The last byte of the addresses. -/
def denotes (cidr : String) : Set Nat :=
  {byte | byte < 256 ∧ (cidr = whole ∨ cidr = lower ∧ byte < 128 ∨ cidr = upper ∧ 128 ≤ byte)}

def text : AddressText where
  contains _ _ := some false
  exclude cidr excepted :=
    if cidr ≠ whole then
      []
    else if excepted = lower then
      [upper]
    else
      [lower]

/-- `ingress` from a block of addresses. -/
def policy (excepted : List String) : NetworkPolicy where
  name := "halves"
  namespaceName := "default"
  spec := { ingress := [{ peers := [{ ipBlock := some { cidr := whole, excepted } }] }] }
  policyTypes := some [.ingress]

def translation (excepted : List String) : Translation :=
  (policy excepted).translation {} text "sg" .ingress

/-- The rules for a list of exceptions. -/
def rulesFor (excepted : List String) : List ParsedRule :=
  (exec (parseSgRules (translation excepted) (policy excepted)) []).2

theorem excludes {excepted : String} (half : excepted = lower ∨ excepted = upper) :
    text.Excludes denotes whole excepted := by
  have apart : whole ≠ lower ∧ whole ≠ upper ∧ lower ≠ upper := by decide
  rcases apart with ⟨notLower, notUpper, different⟩
  unfold AddressText.Excludes
  ext byte
  rcases half with rfl | rfl
  · simp [text, denotes, notLower, notUpper, Ne.symm notLower, Ne.symm notUpper, different,
      Ne.symm different]
    omega
  · simp [text, denotes, notLower, notUpper, Ne.symm notLower, Ne.symm notUpper, different,
      Ne.symm different]
    omega

end Halves

/-- With one exception the rules are for the other half. -/
theorem ip_block_addresses_of_one_exception :
    (Halves.translation [Halves.lower]).ruledAddresses Halves.denotes
        { cidr := Halves.whole, excepted := [Halves.lower] } (Halves.rulesFor [Halves.lower]) =
      Halves.denotes Halves.whole \
        {byte | ∃ excepted ∈ [Halves.lower], byte ∈ Halves.denotes excepted} := by
  have ran : exec (parseSgRules (Halves.translation [Halves.lower])
      (Halves.policy [Halves.lower])) [] = (.ok ⟨⟩, Halves.rulesFor [Halves.lower]) := rfl
  have excludes : ∀ excepted ∈ [Halves.lower],
      Halves.text.Excludes Halves.denotes Halves.whole excepted := by
    intro excepted listed
    exact Halves.excludes (.inl (List.mem_singleton.mp listed))
  refine (Translation.ip_block_addresses_iff Halves.denotes List.mem_cons_self
    List.mem_cons_self rfl (by rintro ports ⟨⟩) excludes ran).mpr ?_
  intro first firstListed second secondListed address ⟨_, inside⟩
  rw [List.mem_singleton.mp firstListed] at inside
  rw [List.mem_singleton.mp secondListed]
  exact inside

/-- With both halves excepted the rules are for all addresses. -/
theorem ip_block_addresses_of_two_exceptions :
    let excepted := [Halves.lower, Halves.upper]
    (∀ half ∈ excepted, Halves.text.Excludes Halves.denotes Halves.whole half) ∧
      exec (parseSgRules (Halves.translation excepted) (Halves.policy excepted)) [] =
        (.ok ⟨⟩, Halves.rulesFor excepted) ∧
      0 ∈ (Halves.translation excepted).ruledAddresses Halves.denotes
        { cidr := Halves.whole, excepted } (Halves.rulesFor excepted) ∧
      0 ∉ Halves.denotes Halves.whole \ {byte | ∃ half ∈ excepted, byte ∈ Halves.denotes half} := by
  refine ⟨?_, rfl, ?_, ?_⟩
  · intro half listed
    apply Halves.excludes
    simpa using listed
  · refine ⟨Halves.lower, ?_, ?_, by omega, .inr (.inl ⟨rfl, by omega⟩)⟩
    · exact List.mem_cons_of_mem _ List.mem_cons_self
    · exact ⟨_, List.mem_cons_of_mem _ List.mem_cons_self, rfl⟩
  · rintro ⟨_, outside⟩
    exact outside ⟨Halves.lower, List.mem_cons_self, by omega, .inr (.inl ⟨rfl, by omega⟩)⟩

end KuryrKubernetes.Policy

import KuryrKubernetes.Policy.PeerOrders

/-!
# The order of the blocks of a policy

Which rules a policy is translated to must not depend on the order of its blocks, nor on
that of the peers in a block.  It does in two places: a block `{}` counts only where it is
the first one, and the numbers that a peer borrows for `egress` are those of the peers
before it.  The rules are the same in every order if and only if both make no difference.
-/

namespace KuryrKubernetes.Policy

open KuryrKubernetes.Data
open KuryrKubernetes.Effect

/-! ## Other orders -/

/-- The same block with its peers in another order. -/
structure SamePeers (block other : RuleBlock) : Prop where
  ports : other.ports = block.ports
  peers : block.peers.Perm other.peers

/-- The same blocks in another order, each with its peers in another order. -/
def Reordered (blocks others : List RuleBlock) : Prop :=
  ∃ middle, blocks.Perm middle ∧ List.Forall₂ SamePeers middle others

theorem SamePeers.refl (block : RuleBlock) : SamePeers block block :=
  ⟨rfl, List.Perm.refl _⟩

theorem SamePeers.symm {block other : RuleBlock} (same : SamePeers block other) :
    SamePeers other block :=
  ⟨same.ports.symm, same.peers.symm⟩

theorem SamePeers.eq_bare {other : RuleBlock} (same : SamePeers {} other) : other = {} := by
  rcases other with ⟨peers, ports⟩
  rcases same with ⟨rfl, reordered⟩
  have none : peers = [] := reordered.nil_eq.symm
  rw [none]

theorem Reordered.of_perm {blocks others : List RuleBlock} (perm : blocks.Perm others) :
    Reordered blocks others :=
  ⟨others, perm, List.forall₂_same.mpr fun block _ => SamePeers.refl block⟩

theorem Reordered.eq_nil {others : List RuleBlock} (reordered : Reordered [] others) :
    others = [] := by
  rcases reordered with ⟨middle, perm, pairs⟩
  rw [perm.nil_eq.symm] at pairs
  exact List.forall₂_nil_left_iff.mp pairs

theorem Reordered.exists_right {blocks others : List RuleBlock}
    (reordered : Reordered blocks others) {block : RuleBlock} (listed : block ∈ blocks) :
    ∃ other ∈ others, SamePeers block other := by
  rcases reordered with ⟨middle, perm, pairs⟩
  rcases List.forall₂_iff_get.mp pairs with ⟨lengths, each⟩
  rcases List.mem_iff_get.mp (perm.subset listed) with ⟨position, rfl⟩
  have inside : position.val < others.length := by
    rw [← lengths]
    exact position.isLt
  exact ⟨others.get ⟨position, inside⟩, List.get_mem others _, each position position.isLt inside⟩

theorem Reordered.exists_left {blocks others : List RuleBlock}
    (reordered : Reordered blocks others) {other : RuleBlock} (listed : other ∈ others) :
    ∃ block ∈ blocks, SamePeers block other := by
  rcases reordered with ⟨middle, perm, pairs⟩
  rcases List.forall₂_iff_get.mp pairs with ⟨lengths, each⟩
  rcases List.mem_iff_get.mp listed with ⟨position, rfl⟩
  have inside : position.val < middle.length := by
    rw [lengths]
    exact position.isLt
  exact ⟨middle.get ⟨position, inside⟩, perm.symm.subset (List.get_mem middle _),
    each position inside position.isLt⟩

/-- The policy with other blocks for a direction. -/
def NetworkPolicy.withBlocks (policy : NetworkPolicy) (direction : Direction)
    (blocks : List RuleBlock) : NetworkPolicy :=
  match direction with
  | .ingress => { policy with spec := { policy.spec with ingress := blocks } }
  | .egress => { policy with spec := { policy.spec with egress := blocks } }

@[simp]
theorem blocks_withBlocks (policy : NetworkPolicy) (direction : Direction)
    (blocks : List RuleBlock) :
    (policy.withBlocks direction blocks).spec.blocks direction = blocks := by
  cases direction <;> rfl

@[simp]
theorem policyTypes_withBlocks (policy : NetworkPolicy) (direction : Direction)
    (blocks : List RuleBlock) :
    (policy.withBlocks direction blocks).policyTypes = policy.policyTypes := by
  cases direction <;> rfl

namespace Translation

variable {translation : Translation}

/-! ## A block with its peers in another order -/

theorem restricts_of_samePeers {block other : RuleBlock} (same : SamePeers block other)
    {resources others : List Resource} (perm : resources.Perm others) :
    restricts other others = restricts block resources := by
  unfold restricts allowsAll hasSelectors
  rw [perm.isEmpty_eq, same.peers.any_eq, same.peers.any_eq]

theorem allowsAll_of_samePeers {block other : RuleBlock} (same : SamePeers block other) :
    allowsAll other = allowsAll block :=
  same.peers.symm.any_eq

theorem peerOwn_perm {block other : RuleBlock} (same : SamePeers block other) :
    (block.peers.flatMap translation.peerOwn).Perm (other.peers.flatMap translation.peerOwn) :=
  same.peers.flatMap_right _

theorem resolved_of_samePeers {block other : RuleBlock} (same : SamePeers block other)
    (resolved : translation.Resolved block.peers) : translation.Resolved other.peers :=
  fun peer listed => resolved peer (same.peers.symm.subset listed)

/-- What a block has in any order of its peers does not depend on their order. -/
theorem Firm.of_samePeers {block other : RuleBlock} (same : SamePeers block other)
    {element : Element} (firm : translation.Firm block element) :
    translation.Firm other element := by
  unfold Firm at firm ⊢
  rw [same.ports]
  cases given : block.ports with
  | none =>
      rw [given] at firm
      rcases firm with ⟨peer, listed, made⟩ | ⟨everyone, made⟩
      · exact .inl ⟨peer, same.peers.subset listed, made⟩
      · rw [← allowsAll_of_samePeers same] at everyone
        exact .inr ⟨everyone, made⟩
  | some ports =>
      rw [given] at firm
      rcases firm with ⟨port, listed, ⟨peer, member, made⟩ | ⟨everyone, made⟩⟩
      · exact ⟨port, listed, .inl ⟨peer, same.peers.subset member, made⟩⟩
      · have open_ : translation.ForEveryone other := by
          rw [ForEveryone, restricts_of_samePeers same (peerOwn_perm same),
            allowsAll_of_samePeers same]
          exact everyone
        exact ⟨port, listed, .inr ⟨open_, made⟩⟩

theorem borrows_of_samePeers {block other : RuleBlock} (same : SamePeers block other)
    (element : Element) : translation.Borrows other element = translation.Borrows block element := by
  funext first second
  rw [Borrows, Borrows, same.ports]

theorem PortUsable.of_perm {resources others : List Resource} (perm : resources.Perm others)
    {port : PolicyPort} (usable : translation.PortUsable resources port) :
    translation.PortUsable others port := by
  have turns : (translation.textPortTurns port others).Perm
      (translation.textPortTurns port resources) :=
    textPortTurns_perm perm.symm port
  revert usable
  unfold PortUsable
  rcases port.port with _ | number | name
  · exact fun usable turn listed => usable turn (turns.subset listed)
  · exact fun usable resource listed => usable resource (perm.symm.subset listed)
  · exact fun usable turn listed => usable turn (turns.subset listed)

/-- Whether the rules of a block can be made does not depend on the order of its peers. -/
theorem BlockUsable.of_samePeers {block other : RuleBlock} (same : SamePeers block other)
    (usable : translation.BlockUsable block) : translation.BlockUsable other := by
  rcases usable with ⟨selected, found, fits⟩
  rcases selectorResources_eq_ok_iff.mp found with ⟨resolved, rfl⟩
  have perm : (translation.blockPeers block (block.peers.flatMap translation.selectedOf)).Perm
      (translation.blockPeers other (other.peers.flatMap translation.selectedOf)) :=
    (blockPeers_perm block).trans ((peerOwn_perm same).trans (blockPeers_perm other).symm)
  refine ⟨_, selectorResources_eq_ok_iff.mpr ⟨resolved_of_samePeers same resolved, rfl⟩, ?_⟩
  unfold PeersUsable at fits ⊢
  rw [same.ports]
  cases given : block.ports with
  | none =>
      rw [given] at fits
      exact fun resource listed => fits resource (perm.symm.subset listed)
  | some ports =>
      rw [given] at fits
      intro port listed
      rw [restricts_of_samePeers same perm, allowsAll_of_samePeers same]
      rcases fits port listed with ⟨own, everyone⟩
      exact ⟨fun restricted => (own restricted).of_perm perm, everyone⟩

/-! ## Borrowed numbers -/

theorem body_of_same_protocol {direction : Direction} {portRangeMin portRangeMax : Option Nat}
    {protocol other : Option Protocol} {cidr namespaceName : Option String}
    (same : protocol.getD .tcp = other.getD .tcp) :
    translation.body direction portRangeMin portRangeMax protocol cidr namespaceName =
      translation.body direction portRangeMin portRangeMax other cidr namespaceName := by
  unfold body createSecurityGroupRuleBody
  rw [same]

theorem svcRules_of_same_protocol {resource : Resource} {port : Option Nat}
    {protocol other : Option Protocol} (same : protocol.getD .tcp = other.getD .tcp)
    (services : List ClusterService) :
    translation.svcRules resource port protocol services =
      translation.svcRules resource port other services := by
  induction services with
  | nil => rfl
  | cons service rest ih =>
      rw [svcRules.eq_def, svcRules.eq_def translation resource port other]
      simp only [body_of_same_protocol same, ih]

theorem numberElements_of_same_protocol {port other : PolicyPort}
    (same : port.protocol.getD .tcp = other.protocol.getD .tcp) (resource : Resource)
    (number : Nat) :
    translation.numberElements port false resource number =
      translation.numberElements other false resource number := by
  simp only [numberElements, bodyOnTextPort, svcElements, createSvcEgressSgRule,
    body_of_same_protocol same, svcRules_of_same_protocol same]

/-- A rule for a number of a named port shows the number and the protocol. -/
theorem shows_of_numberElements {port : PolicyPort} {resource : Resource} {number : Nat}
    (positive : 0 < number) {element : Element}
    (made : element ∈ translation.numberElements port false resource number) :
    ∃ body, element = .body body ∧ body.rule.portRangeMin = number ∧
      body.rule.protocol = port.protocol.getD .tcp ∧ body.rule.remoteIpPrefix ≠ none := by
  have shown (direction : Direction) (cidr : String) :
      (translation.body direction (some number) none port.protocol (some cidr) none).rule.portRangeMin
        = number := by
    cases number with
    | zero => cases positive
    | succ number => rfl
  rcases made with ⟨_, cidr, _, rfl | ⟨_, bodies, created, body, listed, rfl⟩⟩
  · exact ⟨_, rfl, shown _ cidr, rfl, by rintro ⟨⟩⟩
  · rcases (mem_svcRules_iff created body).mp listed with ⟨_, _, _, clusterIp, _, rfl⟩
    exact ⟨_, rfl, shown _ clusterIp, rfl, by rintro ⟨⟩⟩

theorem pos_of_mem_podsOfTextPort {port : PolicyPort} {resources : List Resource} {number : Nat}
    (listed : number ∈ (translation.podsOfTextPort port resources).keys) : 0 < number := by
  rcases (mem_keys_notedPods_iff _ _ _).mp listed with nothing | ⟨turn, _, notes⟩
  · cases nothing
  · exact pos_of_notes notes

/-- A rule can be borrowed from whoever lends its number, by whoever has a use for it. -/
theorem Borrows.rectangular {block : RuleBlock} {element : Element}
    {first second third fourth : Peer} (one : translation.Borrows block element first second)
    (other : translation.Borrows block element third fourth) :
    translation.Borrows block element first fourth := by
  rcases one with ⟨egress, port, listed, named, number, lent, resource, _, _, made⟩
  rcases other with ⟨_, otherPort, _, _, otherNumber, otherLent, otherResource, own, podded,
    otherMade⟩
  rcases shows_of_numberElements (pos_of_mem_podsOfTextPort lent) made with
    ⟨body, rfl, sameNumber, sameProtocol, _⟩
  rcases shows_of_numberElements (pos_of_mem_podsOfTextPort otherLent) otherMade with
    ⟨otherBody, equal, otherSameNumber, otherSameProtocol, _⟩
  cases equal
  have numbers : otherNumber = number := otherSameNumber.symm.trans sameNumber
  have protocols : otherPort.protocol.getD .tcp = port.protocol.getD .tcp :=
    otherSameProtocol.symm.trans sameProtocol
  rw [numbers, numberElements_of_same_protocol protocols] at otherMade
  exact ⟨egress, port, listed, named, number, lent, otherResource, own, podded, otherMade⟩

/-! ## The rule of a block `{}` -/

/-- A rule has an address, or is for one port. -/
def Narrow : Element → Prop
  | .body body =>
      body.rule.remoteIpPrefix ≠ none ∨ body.rule.portRangeMin = body.rule.portRangeMax
  | .everything _ _ | .nested _ => True

theorem narrow_one {number : Nat} (positive : 0 < number) (direction : Direction)
    (protocol : Option Protocol) (cidr namespaceName : Option String) :
    Narrow (.body (translation.body direction (some number) none protocol cidr namespaceName)) := by
  cases number with
  | zero => cases positive
  | succ number => exact .inr rfl

theorem narrow_of_svcElements {resource : Option Resource} {port : Option Nat}
    {protocol : Option Protocol} {element : Element}
    (made : element ∈ translation.svcElements resource port protocol) : Narrow element := by
  rcases made with ⟨_, bodies, created, body, listed, rfl⟩
  left
  cases resource with
  | none =>
      cases created
      rw [List.mem_singleton.mp listed]
      rintro ⟨⟩
  | some resource =>
      rcases (mem_svcRules_iff created body).mp listed with ⟨_, _, _, clusterIp, _, rfl⟩
      rintro ⟨⟩

theorem narrow_of_resourceElements {port : Option (PortNumber × Option Protocol)}
    {resource : Resource} {element : Element}
    (made : element ∈ translation.resourceElements port resource) : Narrow element := by
  rcases made with ⟨cidr, _, rfl | service⟩
  · left
    cases port <;> rintro ⟨⟩
  · exact narrow_of_svcElements service

theorem narrow_of_textPortElements {port : PolicyPort} {resources : List Resource}
    {allowAll : Bool} {element : Element}
    (made : element ∈ translation.textPortElements port resources allowAll) : Narrow element := by
  rcases made with inTurn | ⟨_, ⟨number, listed, rfl⟩ | ⟨_, _, service⟩⟩
  · rcases mem_inTurns_iff.mp inTurn with ⟨_, _, _, _, cidr, _, rfl | service⟩
    · left
      rintro ⟨⟩
    · exact narrow_of_svcElements service
  · exact narrow_one (pos_of_mem_podsOfTextPort listed) _ _ _ _
  · exact narrow_of_svcElements service

theorem narrow_of_onPortElements {port : PolicyPort} {resources : List Resource}
    {element : Element} (made : element ∈ translation.onPortElements resources port) :
    Narrow element := by
  unfold onPortElements at made
  split at made
  · rcases made with ⟨resource, _, own⟩
    exact narrow_of_resourceElements own
  · exact narrow_of_textPortElements made

theorem narrow_of_allPodsElements {port : PolicyPort} {element : Element}
    (made : element ∈ translation.allPodsElements port) : Narrow element := by
  unfold allPodsElements at made
  split at made
  · rename_i number _
    rcases made with rfl | service
    · exact narrow_one number.property.1 _ _ _ _
    · exact narrow_of_svcElements service
  · exact narrow_of_textPortElements made

/-- Only a block without `ports` that is for everyone has a rule for everyone and all ports. -/
theorem narrow_or_all_of_firm {block : RuleBlock} {element : Element}
    (firm : translation.Firm block element) :
    Narrow element ∨
      translation.direction = .ingress ∧ block.ports = none ∧ allowsAll block = true := by
  unfold Firm at firm
  split at firm
  · rename_i portless
    rcases firm with ⟨_, _, resource, _, own⟩ | ⟨everyone, made⟩
    · exact .inl (narrow_of_resourceElements own)
    · cases towards : translation.direction with
      | ingress => exact .inr ⟨rfl, portless, everyone⟩
      | egress =>
          left
          simp only [allPortsElements, towards] at made
          rcases made with rfl | rfl
          · left
            rintro ⟨⟩
          · trivial
  · rcases firm with ⟨port, _, ⟨_, _, own⟩ | ⟨_, made⟩⟩
    · exact .inl (narrow_of_onPortElements own)
    · exact .inl (narrow_of_allPodsElements made)

/-! ## Blocks in any order -/

variable (translation) in
/-- A block has a rule in every order of its peers. -/
def Lasts (block : RuleBlock) (element : Element) : Prop :=
  translation.Firm block element ∨ MustMeet (translation.Borrows block element) block.peers

theorem resolved_of_blockUsable {block : RuleBlock} (usable : translation.BlockUsable block) :
    translation.Resolved block.peers := by
  rcases usable with ⟨selected, found, _⟩
  exact (selectorResources_eq_ok_iff.mp found).1

theorem Lasts.mem_blockElements {block other : RuleBlock} (same : SamePeers block other)
    (resolved : translation.Resolved block.peers) {element : Element}
    (lasts : translation.Lasts block element) : element ∈ translation.blockElements other := by
  rw [mem_blockElements_iff (resolved_of_samePeers same resolved), borrows_of_samePeers same]
  rcases lasts with firm | must
  · exact .inl (firm.of_samePeers same)
  · exact .inr (must.meets same.peers)

/-- What a block has in some order of its peers, it has in any order, or some peer may
borrow it. -/
theorem firm_or_mayMeet {block other : RuleBlock} (same : SamePeers block other)
    (resolved : translation.Resolved block.peers) {element : Element}
    (made : element ∈ translation.blockElements other) :
    translation.Firm block element ∨
      MayMeet (translation.Borrows block element) block.peers := by
  rw [mem_blockElements_iff (resolved_of_samePeers same resolved),
    borrows_of_samePeers same] at made
  rcases made with firm | meets
  · exact .inl (firm.of_samePeers same.symm)
  · exact .inr (meets.mayMeet same.peers)

/-- A rule that a block does not have in every order, it lacks in some order. -/
theorem exists_not_mem_blockElements {block : RuleBlock}
    (resolved : translation.Resolved block.peers) {element : Element}
    (loose : ¬translation.Lasts block element) :
    ∃ other, SamePeers block other ∧ element ∉ translation.blockElements other := by
  have never : ¬MustMeet (translation.Borrows block element) block.peers :=
    fun must => loose (.inr must)
  have order : ∃ peers, block.peers.Perm peers ∧
      ¬Meets (translation.Borrows block element) peers :=
    exists_not_meets (fun one other => one.rectangular other) never
  rcases order with ⟨peers, perm, apart⟩
  have same : SamePeers block { block with peers } := ⟨rfl, perm⟩
  refine ⟨_, same, ?_⟩
  rw [mem_blockElements_iff (resolved_of_samePeers same resolved), borrows_of_samePeers same]
  rintro (firm | meets)
  · exact loose (.inl (firm.of_samePeers same.symm))
  · exact apart meets

/-! ## Policies in any order -/

variable (translation) in
/-- The condition: a block `{}` stands among its like, or for `ingress` next to a block that
opens all ports to everyone.  A rule that one peer of a block may borrow from another is
there in every order. -/
structure OrderFree (blocks : List RuleBlock) : Prop where
  bare : {} ∈ blocks → (∀ block ∈ blocks, block = {}) ∨
    translation.direction = .ingress ∧
      ∃ block ∈ blocks, block.ports = none ∧ allowsAll block = true
  borrowed : ∀ block ∈ blocks, ∀ element,
    MayMeet (translation.Borrows block element) block.peers →
      ∃ other ∈ blocks, translation.Lasts other element

variable (translation) in
/-- The rule of a block `{}` that comes first. -/
def openElement : Element :=
  .body (translation.body translation.direction none none none none none)

theorem not_narrow_openElement : ¬Narrow translation.openElement := by
  rintro (addressed | single)
  · exact addressed rfl
  · have range : (1 : Nat) = 65535 := single
    omega

/-- A rule of the blocks is there in every order, or it is that of a policy of blocks `{}`. -/
theorem mem_policyElements_iff {blocks others : List RuleBlock}
    (free : translation.OrderFree blocks) (reordered : Reordered blocks others)
    (resolved : ∀ block ∈ blocks, translation.Resolved block.peers) {element : Element} :
    element ∈ translation.policyElements others ↔
      (∃ block ∈ blocks, translation.Lasts block element) ∨
        blocks ≠ [] ∧ (∀ block ∈ blocks, block = {}) ∧ element = translation.openElement := by
  constructor
  · rintro (⟨first, leads, bare, rfl⟩ | ⟨other, listed, made⟩)
    · rcases reordered.exists_left (List.mem_of_head? leads) with ⟨block, member, same⟩
      rw [bare] at same
      rw [same.symm.eq_bare] at member
      rcases free.bare member with alike | ⟨ingress, wide, inside, portless, everyone⟩
      · exact .inr ⟨List.ne_nil_of_mem member, alike, rfl⟩
      · left
        refine ⟨wide, inside, .inl ?_⟩
        rw [Firm, portless]
        refine .inr ⟨everyone, ?_⟩
        rw [allPortsElements, ingress]
        rfl
    · rcases reordered.exists_left listed with ⟨block, member, same⟩
      left
      rcases firm_or_mayMeet same (resolved block member) made with firm | may
      · exact ⟨block, member, .inl firm⟩
      · exact free.borrowed block member element may
  · rintro (⟨block, listed, lasts⟩ | ⟨filled, alike, rfl⟩)
    · rcases reordered.exists_right listed with ⟨other, member, same⟩
      exact .inr ⟨other, member, lasts.mem_blockElements same (resolved block listed)⟩
    · rcases List.exists_mem_of_ne_nil blocks filled with ⟨block, listed⟩
      rcases reordered.exists_right listed with ⟨other, member, _⟩
      rcases others with _ | ⟨first, rest⟩
      · cases member
      rcases reordered.exists_left List.mem_cons_self with ⟨own, inside, same⟩
      rw [alike own inside] at same
      exact .inl ⟨first, rfl, same.eq_bare, rfl⟩

/-- Where a block has the rule of a block `{}`, some block is for everyone and all ports. -/
theorem wide_of_openElement {blocks : List RuleBlock} {block : RuleBlock} (listed : block ∈ blocks)
    (resolved : translation.Resolved block.peers)
    (made : translation.openElement ∈ translation.blockElements block) :
    translation.direction = .ingress ∧
      ∃ wide ∈ blocks, wide.ports = none ∧ allowsAll wide = true := by
  rcases (mem_blockElements_iff resolved).mp made with firm | ⟨first, second, _, borrows⟩
  · rcases narrow_or_all_of_firm firm with narrow | ⟨ingress, portless, everyone⟩
    · exact absurd narrow not_narrow_openElement
    · exact ⟨ingress, block, listed, portless, everyone⟩
  · rcases borrows with ⟨_, _, _, _, _, lent, _, _, _, own⟩
    rcases shows_of_numberElements (pos_of_mem_podsOfTextPort lent) own with
      ⟨_, same, _, _, addressed⟩
    cases same
    exact absurd rfl addressed

/-- The rules are the same in every order only if the condition holds. -/
theorem orderFree_of_same_elements {blocks : List RuleBlock}
    (resolved : ∀ block ∈ blocks, translation.Resolved block.peers)
    (alike : ∀ others, Reordered blocks others →
      translation.policyElements others = translation.policyElements blocks) :
    translation.OrderFree blocks := by
  constructor
  · intro bare
    by_contra fails
    rcases not_or.mp fails with ⟨mixed, narrow⟩
    rcases not_forall.mp mixed with ⟨block, other⟩
    rcases Classical.not_imp.mp other with ⟨listed, filled⟩
    have opened : translation.openElement ∈
        translation.policyElements ({} :: blocks.erase {}) :=
      .inl ⟨{}, rfl, rfl, rfl⟩
    have closed : translation.openElement ∉
        translation.policyElements (block :: blocks.erase block) := by
      rintro (⟨first, leads, first_bare, _⟩ | ⟨other, member, made⟩)
      · cases leads
        exact filled first_bare
      · have inBlocks := (List.perm_cons_erase listed).symm.subset member
        exact narrow (wide_of_openElement inBlocks (resolved other inBlocks) made)
    apply closed
    rw [alike _ (Reordered.of_perm (List.perm_cons_erase listed)),
      ← alike _ (Reordered.of_perm (List.perm_cons_erase bare))]
    exact opened
  · intro block listed element may
    by_contra loose
    have lacking : ∀ other ∈ blocks, ∃ changed, SamePeers other changed ∧
        element ∉ translation.blockElements changed :=
      fun other member => exists_not_mem_blockElements (resolved other member)
        fun lasts => loose ⟨other, member, lasts⟩
    rcases exists_forall₂ lacking with ⟨without, pairs⟩
    have withoutOrder : Reordered blocks without :=
      ⟨blocks, List.Perm.refl _, pairs.imp fun _ _ both => both.1⟩
    rcases may.exists_meets with ⟨peers, perm, meets⟩
    have same : SamePeers block { block with peers } := ⟨rfl, perm⟩
    have withOrder : Reordered blocks ({ block with peers } :: blocks.erase block) :=
      ⟨block :: blocks.erase block, List.perm_cons_erase listed,
        .cons same (List.forall₂_same.mpr fun other _ => SamePeers.refl other)⟩
    have there : element ∈ translation.policyElements ({ block with peers } ::
        blocks.erase block) := by
      refine .inr ⟨_, List.mem_cons_self, ?_⟩
      rw [mem_blockElements_iff (resolved_of_samePeers same (resolved block listed)),
        borrows_of_samePeers same]
      exact .inr meets
    rw [alike _ withOrder, ← alike _ withoutOrder] at there
    rcases there with ⟨first, leads, _, rfl⟩ | ⟨other, member, made⟩
    · rcases meets with ⟨_, _, _, _, _, _, _, _, lent, _, _, _, own⟩
      rcases shows_of_numberElements (pos_of_mem_podsOfTextPort lent) own with
        ⟨_, shape, _, _, addressed⟩
      cases shape
      exact addressed rfl
    · rcases List.forall₂_iff_get.mp pairs with ⟨lengths, each⟩
      rcases List.mem_iff_get.mp member with ⟨position, rfl⟩
      have inside : position.val < blocks.length := by
        rw [lengths]
        exact position.isLt
      exact (each position inside position.isLt).2 made

variable (translation) in
/-- Whatever the order of its blocks and of their peers, a policy is translated to the rules
that are given. -/
def SameInAnyOrder (policy : NetworkPolicy) (rules : List ParsedRule) : Prop :=
  ∀ others, Reordered (policy.spec.blocks translation.direction) others →
    ∃ reordered, exec (parseSgRules translation
        (policy.withBlocks translation.direction others)) [] = (.ok ⟨⟩, reordered) ∧
      elements reordered = elements rules

/-- The translation returns in every order if it does in one, with the rules of the blocks. -/
theorem exists_elements_of_reordered {policy : NetworkPolicy} {rules : List ParsedRule}
    (ran : exec (parseSgRules translation policy) [] = (.ok ⟨⟩, rules))
    (ruled : policy.spec.blocks translation.direction ≠ []) {others : List RuleBlock}
    (reordered : Reordered (policy.spec.blocks translation.direction) others) :
    ∃ found, exec (parseSgRules translation
        (policy.withBlocks translation.direction others)) [] = (.ok ⟨⟩, found) ∧
      elements found = translation.policyElements others := by
  have usable := ((parseSgRules_gives_usable ruled).exists_ok_iff []).mp ⟨⟨⟩, rules, ran⟩
  have filled : (policy.withBlocks translation.direction others).spec.blocks
      translation.direction ≠ [] := by
    rw [blocks_withBlocks]
    rintro rfl
    rcases List.exists_mem_of_ne_nil _ ruled with ⟨block, listed⟩
    rcases reordered.exists_right listed with ⟨other, member, _⟩
    cases member
  have usableToo : ∀ other ∈ (policy.withBlocks translation.direction others).spec.blocks
      translation.direction, translation.BlockUsable other := by
    intro other member
    rw [blocks_withBlocks] at member
    rcases reordered.exists_left member with ⟨block, listed, same⟩
    exact (usable block listed).of_samePeers same
  rcases ((parseSgRules_gives_usable filled) []).1 usableToo with ⟨found, ranToo⟩
  have made := elements_of_parseSgRules filled ranToo
  rw [blocks_withBlocks] at made
  exact ⟨found, ranToo, made⟩

end Translation

/-- The rules that `_parse_sg_rules` makes are the same in every order of the blocks and of
their peers if and only if the blocks `{}` and the borrowed numbers make no difference. -/
theorem parse_sg_rules_in_any_order_iff {translation : Translation} {policy : NetworkPolicy}
    {rules : List ParsedRule}
    (ran : exec (parseSgRules translation policy) [] = (.ok ⟨⟩, rules)) :
    translation.SameInAnyOrder policy rules ↔
      translation.OrderFree (policy.spec.blocks translation.direction) := by
  cases blocks : policy.spec.blocks translation.direction with
  | nil =>
      constructor
      · intro _
        constructor
        · rintro ⟨⟩
        · rintro block ⟨⟩
      · intro _ others reordered
        rw [blocks] at reordered
        have none : others = [] := reordered.eq_nil
        have same : parseSgRules translation (policy.withBlocks translation.direction others) =
            parseSgRules translation policy := by
          unfold parseSgRules
          rw [blocks_withBlocks, policyTypes_withBlocks, none, blocks]
        rw [same]
        exact ⟨rules, ran, rfl⟩
  | cons first rest =>
      have ruled : policy.spec.blocks translation.direction ≠ [] := by
        rw [blocks]
        exact List.cons_ne_nil first rest
      have resolved : ∀ block ∈ policy.spec.blocks translation.direction,
          translation.Resolved block.peers := by
        intro block listed
        have usable := ((parseSgRules_gives_usable ruled).exists_ok_iff []).mp ⟨⟨⟩, rules, ran⟩
        exact Translation.resolved_of_blockUsable (usable block listed)
      have own := elements_of_parseSgRules ruled ran
      rw [← blocks]
      constructor
      · intro same
        apply Translation.orderFree_of_same_elements resolved
        intro others reordered
        rcases Translation.exists_elements_of_reordered ran ruled reordered with
          ⟨found, ranToo, made⟩
        rcases same others reordered with ⟨given, ranGiven, equal⟩
        rw [ranToo] at ranGiven
        cases ranGiven
        rw [← made, equal, own]
      · intro free others reordered
        rcases Translation.exists_elements_of_reordered ran ruled reordered with
          ⟨found, ranToo, made⟩
        refine ⟨found, ranToo, ?_⟩
        rw [made, own]
        ext element
        rw [Translation.mem_policyElements_iff free reordered resolved,
          Translation.mem_policyElements_iff free (Reordered.of_perm (List.Perm.refl _)) resolved]

/-! ## Blocks and peers that change places -/

namespace Shifts

/-- A pod of an app that has `http` under a number. -/
def pod (name : String) (number : PortNumber) : Pod where
  name
  namespaceName := "shop"
  uid := name
  labels := some ((∅ : Labels).set "app" name)
  containers := [{ ports := [{ name := some "http", containerPort := number }] }]

def oldPod : Pod :=
  pod "old" ⟨7070, by decide⟩

def newPod : Pod :=
  pod "new" ⟨7071, by decide⟩

/-- A policy for the clients of two pods. -/
def translation (direction : Direction) : Translation where
  cluster :=
    { pods := [oldPod, newPod]
      statusPodIp := fun pod => if pod.name = "old" then some "10.0.0.1" else some "10.0.0.2" }
  text := { contains := fun _ _ => some false, exclude := fun cidr _ => [cidr] }
  policyNamespace := "shop"
  podSelector := { matchLabels := (∅ : Labels).set "app" "client" }
  securityGroupId := "sg"
  direction

def peer (name : String) : Peer where
  podSelector := some { matchLabels := (∅ : Labels).set "app" name }

/-- The pod `old` and one number. -/
def numberBlock : RuleBlock where
  peers := [peer "old"]
  ports := some [{ port := some (.number ⟨7072, by decide⟩) }]

/-- Some pods and a named port. -/
def nameBlock (names : List String) : RuleBlock where
  peers := names.map peer
  ports := some [{ port := some (.name "http") }]

def policy (direction : Direction) (blocks : List RuleBlock) : NetworkPolicy :=
  NetworkPolicy.withBlocks { name := "shop", namespaceName := "shop" } direction blocks

/-- What a run leaves. -/
def rulesFor (direction : Direction) (blocks : List RuleBlock) : List ParsedRule :=
  (exec (parseSgRules (translation direction) (policy direction blocks)) []).2

end Shifts

/-- The rules of two blocks with a number or one peer each are the same in both orders. -/
theorem parse_sg_rules_of_two_blocks :
    (Shifts.translation .egress).SameInAnyOrder
      (Shifts.policy .egress [Shifts.numberBlock, Shifts.nameBlock ["new"]])
      (Shifts.rulesFor .egress [Shifts.numberBlock, Shifts.nameBlock ["new"]]) := by
  have ran : exec (parseSgRules (Shifts.translation .egress)
      (Shifts.policy .egress [Shifts.numberBlock, Shifts.nameBlock ["new"]])) [] =
        (.ok ⟨⟩, Shifts.rulesFor .egress [Shifts.numberBlock, Shifts.nameBlock ["new"]]) := rfl
  apply (parse_sg_rules_in_any_order_iff ran).mpr
  constructor
  · intro bare
    rcases List.mem_cons.mp bare with impossible | other
    · cases impossible
    · cases List.mem_singleton.mp other
  · intro block listed element may
    rcases may with ⟨first, second, pair, _⟩
    have short : block.peers.length = 1 := by
      rcases List.mem_cons.mp listed with rfl | other
      · rfl
      · rw [List.mem_singleton.mp other]
        rfl
    have long := pair.length_le
    rw [short] at long
    cases Nat.not_succ_le_self 1 long

/-- A block `{}` that comes second opens nothing, and of two peers with a named port for
`egress` only the second one gets the numbers of both. -/
theorem parse_sg_rules_of_exchanged :
    exec (parseSgRules (Shifts.translation .ingress)
        (Shifts.policy .ingress [Shifts.numberBlock, {}])) [] =
          (.ok ⟨⟩, Shifts.rulesFor .ingress [Shifts.numberBlock, {}]) ∧
      ¬(Shifts.translation .ingress).SameInAnyOrder
        (Shifts.policy .ingress [Shifts.numberBlock, {}])
        (Shifts.rulesFor .ingress [Shifts.numberBlock, {}]) ∧
      exec (parseSgRules (Shifts.translation .egress)
        (Shifts.policy .egress [Shifts.nameBlock ["old", "new"]])) [] =
          (.ok ⟨⟩, Shifts.rulesFor .egress [Shifts.nameBlock ["old", "new"]]) ∧
      ¬(Shifts.translation .egress).SameInAnyOrder
        (Shifts.policy .egress [Shifts.nameBlock ["old", "new"]])
        (Shifts.rulesFor .egress [Shifts.nameBlock ["old", "new"]]) := by
  refine ⟨rfl, ?_, rfl, ?_⟩
  · intro same
    rcases same [{}, Shifts.numberBlock] (Reordered.of_perm (List.Perm.swap _ _ _)) with
      ⟨found, ran, equal⟩
    have exchanged : exec (parseSgRules (Shifts.translation .ingress)
        (Shifts.policy .ingress [{}, Shifts.numberBlock])) [] =
          (.ok ⟨⟩, Shifts.rulesFor .ingress [{}, Shifts.numberBlock]) := rfl
    have there : (Shifts.translation .ingress).openElement ∈
        elements (Shifts.rulesFor .ingress [{}, Shifts.numberBlock]) :=
      ⟨_, List.mem_cons_self, rfl⟩
    rw [show found = _ from (Prod.mk.inj (ran.symm.trans exchanged)).2] at equal
    rw [equal] at there
    rcases there with ⟨rule, listed, shape⟩
    rw [List.mem_singleton.mp listed] at shape
    cases shape
  · intro same
    have turned : SamePeers (Shifts.nameBlock ["old", "new"]) (Shifts.nameBlock ["new", "old"]) :=
      ⟨rfl, List.Perm.swap _ _ _⟩
    rcases same [Shifts.nameBlock ["new", "old"]]
      ⟨_, List.Perm.refl _, .cons turned .nil⟩ with ⟨found, ran, equal⟩
    have exchanged : exec (parseSgRules (Shifts.translation .egress)
        (Shifts.policy .egress [Shifts.nameBlock ["new", "old"]])) [] =
          (.ok ⟨⟩, Shifts.rulesFor .egress [Shifts.nameBlock ["new", "old"]]) := rfl
    have there : Element.body ((Shifts.translation .egress).body .egress (some 7071) none none
          (some "10.0.0.1") none) ∈
        elements (Shifts.rulesFor .egress [Shifts.nameBlock ["new", "old"]]) :=
      ⟨_, List.mem_cons_of_mem _ List.mem_cons_self, rfl⟩
    rw [show found = _ from (Prod.mk.inj (ran.symm.trans exchanged)).2] at equal
    rw [equal] at there
    rcases there with ⟨rule, listed, shape⟩
    -- The pod `old` is first in the given order, so only its own number is there for it.
    have kept : rule.element = .body ((Shifts.translation .egress).body .egress (some 7070) none
          none (some "10.0.0.1") none) ∨
        rule.element = .body ((Shifts.translation .egress).body .egress (some 7070) none none
          (some "10.0.0.2") none) ∨
        rule.element = .body ((Shifts.translation .egress).body .egress (some 7071) none none
          (some "10.0.0.2") none) := by
      rcases List.mem_cons.mp listed with rfl | later
      · exact .inl rfl
      rcases List.mem_cons.mp later with rfl | last
      · exact .inr (.inl rfl)
      · rw [List.mem_singleton.mp last]
        exact .inr (.inr rfl)
    let shown (body : RuleBody) := (body.rule.remoteIpPrefix, body.rule.portRangeMin)
    rw [shape] at kept
    rcases kept with old | borrowed | new
    · exact absurd (congrArg shown (Element.body.inj old)) (by decide)
    · exact absurd (congrArg shown (Element.body.inj borrowed)) (by decide)
    · exact absurd (congrArg shown (Element.body.inj new)) (by decide)

end KuryrKubernetes.Policy

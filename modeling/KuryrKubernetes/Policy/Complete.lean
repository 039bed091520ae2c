import KuryrKubernetes.Policy.PodRules

/-!
# Complete rules

The traffic that the blocks of a policy allow in a cluster, the part of it that a pod is
at one end of, and the rules of the custom resource that admit it.  Rules are complete
if they admit all of it.
-/

namespace KuryrKubernetes.Policy

open KuryrKubernetes.Data
open KuryrKubernetes.Effect

universe u

/-! ## Traffic in a cluster -/

/-- The cluster without a pod. -/
def Snapshot.without (snapshot : Snapshot) (pod : Pod) : Snapshot :=
  { snapshot with pods := snapshot.pods.filter (· ≠ pod) }

/-- The pods that are at a source. -/
def Source.Includes (source : Source) (snapshot : Snapshot) (pod : Pod) : Prop :=
  pod ∈ snapshot.pods ∧
    match source with
    | .anyone => True
    | .pod other => pod = other
    | .namespaceObj known => pod.namespaceName = known.name
    | .ipBlock _ => False

/-- A peer stands for a source in a cluster. -/
def Peer.StandsFor (peer : Peer) (snapshot : Snapshot) (policyNamespace : String)
    (source : Source) : Prop :=
  match source with
  | .anyone => peer.isEveryone
  | .pod pod =>
      pod ∈ snapshot.pods ∧
        (∃ selector ∈ presentSelector peer.podSelector, selector.Accepts (podLabels pod)) ∧
        ∃ namespaceObj ∈ snapshot.namespaces, namespaceObj.name = pod.namespaceName ∧
          peer.InNamespace policyNamespace namespaceObj
  | .namespaceObj namespaceObj =>
      presentSelector peer.podSelector = none ∧ namespaceObj ∈ snapshot.namespaces ∧
        peer.InNamespace policyNamespace namespaceObj
  | .ipBlock block => peer.ipBlock = some block

/-- A block without peers is about anyone. -/
def RuleBlock.StandsFor (block : RuleBlock) (snapshot : Snapshot) (policyNamespace : String)
    (source : Source) : Prop :=
  (block.peers = [] ∧ source = .anyone) ∨
    ∃ peer ∈ block.peers, peer.StandsFor snapshot policyNamespace source

/-- A policy port allows a protocol and a port.  A name stands for the numbers that it has
at the pods, with an address, that the traffic may go to. -/
def PolicyPort.AllowsTo (policyPort : PolicyPort) (target : Pod → Prop) (protocol : Protocol)
    (port : PortNumber) : Prop :=
  policyPort.protocol.getD .tcp = protocol ∧
    match policyPort.port with
    | none => True
    | some (.number number) => number = port
    | some (.name name) => ∃ pod, target pod ∧ pod.podIp.isSome ∧ Exposes pod name port

/-- A block allows a protocol and a port; without ports it allows all. -/
def RuleBlock.AllowsTo (block : RuleBlock) (target : Pod → Prop) (protocol : Protocol)
    (port : PortNumber) : Prop :=
  match block.ports with
  | none => True
  | some ports => ports = [] ∨ ∃ policyPort ∈ ports, policyPort.AllowsTo target protocol port

theorem RuleBlock.AllowsTo.mono {block : RuleBlock} {target wider : Pod → Prop}
    {protocol : Protocol} {port : PortNumber} (allows : block.AllowsTo target protocol port)
    (included : ∀ pod, target pod → wider pod) : block.AllowsTo wider protocol port := by
  unfold RuleBlock.AllowsTo at allows ⊢
  cases written : block.ports with
  | none => trivial
  | some ports =>
      rw [written] at allows
      rcases allows with empty | ⟨policyPort, listed, sameProtocol, allowed⟩
      · exact .inl empty
      · refine .inr ⟨policyPort, listed, sameProtocol, ?_⟩
        split at allowed
        · trivial
        · exact allowed
        · obtain ⟨pod, at_, addressed, exposed⟩ := allowed
          exact ⟨pod, included pod at_, addressed, exposed⟩

/-- What is allowed to one of two kinds of pods is allowed to one of them alone. -/
theorem RuleBlock.AllowsTo.or {block : RuleBlock} {first second : Pod → Prop}
    {protocol : Protocol} {port : PortNumber}
    (allows : block.AllowsTo (fun pod => first pod ∨ second pod) protocol port) :
    block.AllowsTo first protocol port ∨ block.AllowsTo second protocol port := by
  unfold RuleBlock.AllowsTo at allows ⊢
  cases written : block.ports with
  | none => exact .inl trivial
  | some ports =>
      rw [written] at allows
      rcases allows with empty | ⟨policyPort, listed, sameProtocol, allowed⟩
      · exact .inl (.inl empty)
      · cases asked : policyPort.port with
        | none => exact .inl (.inr ⟨policyPort, listed, sameProtocol, by rw [asked]; trivial⟩)
        | some value =>
            rw [asked] at allowed
            cases value with
            | number number =>
                exact .inl (.inr ⟨policyPort, listed, sameProtocol, by rw [asked]; exact allowed⟩)
            | name name =>
                obtain ⟨pod, here | there, addressed, exposed⟩ := allowed
                · left
                  right
                  refine ⟨policyPort, listed, sameProtocol, ?_⟩
                  rw [asked]
                  exact ⟨pod, here, addressed, exposed⟩
                · right
                  right
                  refine ⟨policyPort, listed, sameProtocol, ?_⟩
                  rw [asked]
                  exact ⟨pod, there, addressed, exposed⟩

section

variable {Address : Type u} (covers : String → Address → Prop)

/-- An address is that of a pod. -/
def At (pod : Pod) (address : Address) : Prop :=
  ∃ ip ∈ pod.podIp, covers ip address

/-- The pods that traffic with an address at a source may go to. -/
def Crd.Target (crd : Crd) (snapshot : Snapshot) (direction : Direction) (source : Source)
    (address : Address) (pod : Pod) : Prop :=
  match direction with
  | .ingress => pod ∈ snapshot.pods ∧ crd.Selects pod
  | .egress => source.Includes snapshot pod ∧ At covers pod address

/-- A block allows traffic in a cluster. -/
def RuleBlock.AllowsIn (block : RuleBlock) (snapshot : Snapshot) (crd : Crd)
    (direction : Direction) (address : Address) (protocol : Protocol) (port : PortNumber) : Prop :=
  ∃ source, block.StandsFor snapshot crd.namespaceName source ∧ source.Covers covers address ∧
    block.AllowsTo (crd.Target covers snapshot direction source address) protocol port

/-- A block allows traffic between the pods of the policy and a pod, which is the remote
end or a pod of the policy itself. -/
def RuleBlock.AllowsBetween (block : RuleBlock) (snapshot : Snapshot) (crd : Crd)
    (direction : Direction) (pod : Pod) (address : Address) (protocol : Protocol)
    (port : PortNumber) : Prop :=
  ∃ source, block.StandsFor snapshot crd.namespaceName source ∧ source.Covers covers address ∧
    ((source.Includes snapshot pod ∧ At covers pod address) ∧
        block.AllowsTo (crd.Target covers snapshot direction source address) protocol port ∨
      crd.Selects pod ∧
        block.AllowsTo (fun target => crd.Target covers snapshot direction source address target ∧
          (direction = .ingress → target = pod)) protocol port)

/-- A rule of the policy's group, for the direction, admits traffic. -/
def ParseState.Admits (state : ParseState) (crd : Crd) (direction : Direction)
    (address : Address) (protocol : Protocol) (port : PortNumber) : Prop :=
  ∃ rule, state.Holds rule ∧ rule.securityGroupId = crd.securityGroupId ∧
    rule.direction = direction ∧ rule.Admits covers address protocol port

/-- The rules admit all that the blocks allow in a cluster. -/
def CompleteFor (snapshot : Snapshot) (crd : Crd) (direction : Direction)
    (state : ParseState) : Prop :=
  ∀ block ∈ crd.spec.blocks direction, ∀ address protocol port,
    block.AllowsIn covers snapshot crd direction address protocol port →
      state.Admits covers crd direction address protocol port

end

/-! ## Traffic that a pod brings -/

section

variable {Address : Type u} {covers : String → Address → Prop} {snapshot : Snapshot} {crd : Crd}
  {direction : Direction} {pod : Pod} {block : RuleBlock} {address : Address}
  {protocol : Protocol} {port : PortNumber}

theorem Source.includes_without {source : Source} {other : Pod}
    (includes : source.Includes snapshot other) (different : other ≠ pod) :
    source.Includes (snapshot.without pod) other :=
  ⟨List.mem_filter.mpr ⟨includes.1, decide_eq_true different⟩, includes.2⟩

/-- Sources other than the pod are there without it. -/
theorem RuleBlock.standsFor_without {source : Source}
    (stands : block.StandsFor snapshot crd.namespaceName source) (other : source ≠ .pod pod) :
    block.StandsFor (snapshot.without pod) crd.namespaceName source := by
  rcases stands with none | ⟨peer, among, stands⟩
  · exact .inl none
  · refine .inr ⟨peer, among, ?_⟩
    cases source with
    | pod known =>
        obtain ⟨listed, accepted, located⟩ := stands
        have different : known ≠ pod := fun same => other (same ▸ rfl)
        exact ⟨List.mem_filter.mpr ⟨listed, decide_eq_true different⟩, accepted, located⟩
    | anyone => exact stands
    | namespaceObj known => exact stands
    | ipBlock known => exact stands

/-- Traffic in the cluster is between the policy's pods and the pod, or is there without
it. -/
theorem RuleBlock.AllowsIn.without_or_between
    (allows : block.AllowsIn covers snapshot crd direction address protocol port) :
    block.AllowsIn covers (snapshot.without pod) crd direction address protocol port ∨
      block.AllowsBetween covers snapshot crd direction pod address protocol port := by
  obtain ⟨source, stands, covered, allows⟩ := allows
  by_cases itself : source = .pod pod
  · subst itself
    have listed : pod ∈ snapshot.pods := by
      rcases stands with ⟨_, impossible⟩ | ⟨_, _, known, _⟩
      · cases impossible
      · exact known
    exact .inr ⟨.pod pod, stands, covered, .inl ⟨⟨⟨listed, rfl⟩, covered⟩, allows⟩⟩
  · have elsewhere (allowed : block.AllowsTo (fun target =>
        crd.Target covers snapshot direction source address target ∧ target ≠ pod) protocol port) :
        block.AllowsIn covers (snapshot.without pod) crd direction address protocol port := by
      refine ⟨source, standsFor_without stands itself, covered, allowed.mono ?_⟩
      rintro target ⟨at_, different⟩
      cases direction with
      | ingress => exact ⟨List.mem_filter.mpr ⟨at_.1, decide_eq_true different⟩, at_.2⟩
      | egress => exact ⟨source.includes_without at_.1 different, at_.2⟩
    have split : block.AllowsTo (fun target =>
        (crd.Target covers snapshot direction source address target ∧ target ≠ pod) ∨
          (crd.Target covers snapshot direction source address target ∧ target = pod))
        protocol port := by
      apply allows.mono
      intro target at_
      by_cases same : target = pod
      · exact .inr ⟨at_, same⟩
      · exact .inl ⟨at_, same⟩
    by_cases aimed : crd.Target covers snapshot direction source address pod
    · cases direction with
      | ingress =>
          rcases split.or with others | here
          · exact .inl (elsewhere others)
          · right
            refine ⟨source, stands, covered, .inr ⟨aimed.2, here.mono ?_⟩⟩
            exact fun target at_ => ⟨at_.1, fun _ => at_.2⟩
      | egress => exact .inr ⟨source, stands, covered, .inl ⟨aimed, allows⟩⟩
    · left
      apply elsewhere
      apply allows.mono
      intro target at_
      refine ⟨at_, ?_⟩
      rintro rfl
      exact aimed at_

/-! ## What admits it -/

/-- The numbers of a block, as the drivers read them, have a protocol and a port; a block
without ports is read as TCP. -/
def RuleBlock.ReadsPort (block : RuleBlock) (protocol : Protocol) (port : PortNumber) : Prop :=
  match block.ports with
  | none => protocol = .tcp
  | some ports => ∃ policyPort ∈ ports, policyPort.port = some (.number port) ∧
      policyPort.protocol.getD .tcp = protocol

/-- A call finds a port for its protocol, and its rules reach an address. -/
def TextPort.Finds (covers : String → Address → Prop) (call : TextPort) (snapshot : Snapshot)
    (pod : Pod) (address : Address) (protocol : Protocol) (port : PortNumber) : Prop :=
  call.port.protocol.getD .tcp = protocol ∧ port.val ∈ foundNumbers snapshot call [pod] ∧
    ∃ cidr, call.Remote snapshot pod cidr ∧ ∀ prefix_ ∈ cidr, covers prefix_ address

theorem admits_addressRule {cidr : String} {number : PortNumber} {asked : Option Protocol} :
    (addressRule crd direction cidr (some (number, asked))).Admits covers address protocol port ↔
      covers cidr address ∧ number = port ∧ asked.getD .tcp = protocol := by
  obtain ⟨number, positive, bounded⟩ := number
  cases number with
  | zero => exact absurd positive (Nat.lt_irrefl 0)
  | succ number =>
      simp only [SgRule.Admits, addressRule, createSecurityGroupRuleBody, Option.mem_some_iff,
        forall_eq', Subtype.ext_iff]
      constructor
      · rintro ⟨sameProtocol, lower, upper, covered⟩
        exact ⟨covered, Nat.le_antisymm lower upper, sameProtocol⟩
      · rintro ⟨covered, same, sameProtocol⟩
        exact ⟨sameProtocol, same.le, same.ge, covered⟩

/-- The rules for an address admit what the drivers read. -/
theorem admits_ruleFor_iff {cidr : String} :
    (∃ rule, block.RuleFor crd direction cidr rule ∧ rule.Admits covers address protocol port) ↔
      covers cidr address ∧ block.ReadsPort protocol port := by
  unfold RuleBlock.RuleFor RuleBlock.ReadsPort
  cases block.ports with
  | none =>
      simp only [exists_eq_left, SgRule.Admits, addressRule, createSecurityGroupRuleBody,
        Option.mem_some_iff, forall_eq']
      constructor
      · rintro ⟨rfl, _, _, covered⟩
        exact ⟨covered, rfl⟩
      · rintro ⟨covered, rfl⟩
        exact ⟨rfl, port.2.1, Nat.le_of_lt_succ port.2.2, covered⟩
  | some ports =>
      constructor
      · rintro ⟨rule, ⟨policyPort, listed, number, numbered, rfl⟩, admits⟩
        obtain ⟨covered, rfl, sameProtocol⟩ := admits_addressRule.mp admits
        exact ⟨covered, policyPort, listed, numbered, sameProtocol⟩
      · rintro ⟨covered, policyPort, listed, numbered, sameProtocol⟩
        exact ⟨_, ⟨policyPort, listed, port, numbered, rfl⟩,
          admits_addressRule.mpr ⟨covered, rfl, sameProtocol⟩⟩

/-- What a call opens admits what it finds, where no entry is taken for the port. -/
theorem TextPort.admits_opens_iff {call : TextPort} {shadows : Nat → Prop} :
    (∃ rule, call.Opens snapshot pod shadows rule ∧ rule.Admits covers address protocol port) ↔
      call.Finds covers snapshot pod address protocol port ∧
        (call.looksUp = true → ¬shadows port) := by
  constructor
  · rintro ⟨_, ⟨number, found, cidr, remote, rfl, clear⟩, sameProtocol, lower, upper, covered⟩
    have range := call.range_body (positive_of_mem_foundNumbers found) cidr ∅
    have same : number = port.val := Nat.le_antisymm (range.1 ▸ lower) (range.2 ▸ upper)
    subst same
    exact ⟨⟨sameProtocol, found, cidr, remote, covered⟩, clear⟩
  · rintro ⟨⟨sameProtocol, found, cidr, remote, covered⟩, clear⟩
    have range := call.range_body port.2.1 cidr ∅
    exact ⟨_, ⟨port, found, cidr, remote, rfl, clear⟩, sameProtocol, range.1.le, range.2.ge,
      covered⟩

/-- A peer with a `podSelector` that the drivers match with the pod lets its address
through. -/
def TakesAt (covers : String → Address → Prop) (snapshot : Snapshot) (crd : Crd)
    (direction : Direction) (pod : Pod) (address : Address) (protocol : Protocol)
    (port : PortNumber) : Prop :=
  ∃ block ∈ crd.spec.blocks direction, ∃ peer ∈ block.peers, peer.takes snapshot crd pod ∧
    At covers pod address ∧ block.ReadsPort protocol port

/-- A call for a named port finds the port, and if it looks for an entry there is none for
as high a port: neither at the start nor for a number found before. -/
def FindsInTurn (covers : String → Address → Prop) (snapshot : Snapshot) (crd : Crd)
    (direction : Direction) (pod : Pod) (before : ParseState) (address : Address)
    (protocol : Protocol) (port : PortNumber) : Prop :=
  ∃ earlier call later,
    blockCalls snapshot crd direction pod (crd.spec.blocks direction) false =
      earlier ++ call :: later ∧
    call.Finds covers snapshot pod address protocol port ∧
    (call.looksUp = true →
      ¬raised before.Shadows (earlier.flatMap (foundNumbers snapshot · [pod])) port)

/-- The calls are for the policy and the direction. -/
theorem mem_blockCalls {blocks : List RuleBlock} {matched : Bool} {call : TextPort}
    (member : call ∈ blockCalls snapshot crd direction pod blocks matched) :
    call.crd = crd ∧ call.direction = direction := by
  induction blocks generalizing matched with
  | nil => cases member
  | cons block rest ih =>
      rcases List.mem_append.mp member with here | later
      · rcases List.mem_append.mp here with ofPeer | open_
        · obtain ⟨peer, _, made⟩ := List.mem_flatMap.mp ofPeer
          unfold Peer.calls at made
          split at made
          · split at made
            · split at made
              · obtain ⟨port, _, rfl⟩ := List.mem_map.mp made
                exact ⟨rfl, rfl⟩
              · cases made
            · split at made
              · obtain ⟨port, _, rfl⟩ := List.mem_map.mp made
                exact ⟨rfl, rfl⟩
              · obtain ⟨port, _, rfl⟩ := List.mem_map.mp made
                exact ⟨rfl, rfl⟩
          · cases made
        · unfold RuleBlock.openCalls at open_
          split at open_
          · obtain ⟨port, _, rfl⟩ := List.mem_map.mp open_
            exact ⟨rfl, rfl⟩
          · cases open_
      · exact ih later

/-- The rules that `_parse_rules` leaves for a pod admit what was admitted, what peers
with a `podSelector` let through, and what the calls for named ports find. -/
theorem admits_after_iff {podIp : String} (addressed : pod.podIp = some podIp)
    {before after : ParseState} {matched : Bool}
    (ran : exec (parseRules snapshot direction crd (.pod pod)) before = (.ok matched, after)) :
    after.Admits covers crd direction address protocol port ↔
      before.Admits covers crd direction address protocol port ∨
        TakesAt covers snapshot crd direction pod address protocol port ∨
        FindsInTurn covers snapshot crd direction pod before address protocol port := by
  have follows := parseRules_follows addressed ran
  constructor
  · rintro ⟨rule, holds, group, toward, admits⟩
    rcases (follows.holds rule).mp holds with old | ⟨block, listed, peer, among, adds⟩ | opened
    · exact .inl ⟨rule, old, group, toward, admits⟩
    · obtain ⟨takes, ip, known, ruleFor⟩ := adds
      obtain ⟨covered, reads⟩ := admits_ruleFor_iff.mp ⟨rule, ruleFor, admits⟩
      exact .inr (.inl ⟨block, listed, peer, among, takes, ⟨ip, known, covered⟩, reads⟩)
    · obtain ⟨earlier, call, later, split, opens⟩ := TextPort.openInTurn_iff.mp opened
      obtain ⟨finds, clear⟩ := TextPort.admits_opens_iff.mp ⟨rule, opens, admits⟩
      exact .inr (.inr ⟨earlier, call, later, split, finds, clear⟩)
  · rintro (⟨rule, old, rest⟩ | taken | ⟨earlier, call, later, split, finds, clear⟩)
    · exact ⟨rule, (follows.holds rule).mpr (.inl old), rest⟩
    · obtain ⟨block, listed, peer, among, takes, ⟨ip, known, covered⟩, reads⟩ := taken
      obtain ⟨rule, ruleFor, admits⟩ := admits_ruleFor_iff.mpr ⟨covered, reads⟩
      have own : rule.securityGroupId = crd.securityGroupId ∧ rule.direction = direction := by
        unfold RuleBlock.RuleFor at ruleFor
        split at ruleFor
        · subst ruleFor
          exact ⟨rfl, rfl⟩
        · obtain ⟨_, _, number, _, rfl⟩ := ruleFor
          exact ⟨rfl, rfl⟩
      refine ⟨rule, (follows.holds rule).mpr (.inr (.inl ?_)), own.1, own.2, admits⟩
      exact ⟨block, listed, peer, among, takes, ip, known, ruleFor⟩
    · obtain ⟨rule, opens, admits⟩ := TextPort.admits_opens_iff.mpr ⟨finds, clear⟩
      have member : call ∈ blockCalls snapshot crd direction pod (crd.spec.blocks direction)
          false := by
        rw [split]
        exact List.mem_append_right earlier List.mem_cons_self
      obtain ⟨sameCrd, sameDirection⟩ := mem_blockCalls member
      have opened := TextPort.openInTurn_iff.mpr ⟨earlier, call, later, split, opens⟩
      obtain ⟨number, _, cidr, _, rfl, _⟩ := opens
      exact ⟨_, (follows.holds _).mpr (.inr (.inr opened)), congrArg Crd.securityGroupId sameCrd,
        sameDirection, admits⟩

/-! ## Completeness -/

/-- What the pod brings is admitted already, is let through for the address of the pod,
or is found for a named port. -/
def Provided (covers : String → Address → Prop) (snapshot : Snapshot) (crd : Crd)
    (direction : Direction) (pod : Pod) (before : ParseState) : Prop :=
  ∀ block ∈ crd.spec.blocks direction, ∀ address protocol port,
    block.AllowsBetween covers snapshot crd direction pod address protocol port →
      before.Admits covers crd direction address protocol port ∨
        TakesAt covers snapshot crd direction pod address protocol port ∨
        FindsInTurn covers snapshot crd direction pod before address protocol port

end

/-! ## Two blocks for one pod -/

namespace Fleet

/-- The number of the named port. -/
def httpPort : PortNumber :=
  ⟨8443, by decide⟩

/-- A pod of the policy that has a named port. -/
def web : Pod where
  name := "web"
  namespaceName := "fleet"
  uid := "web"
  labels := some ((∅ : Labels).set "app" "web")
  vifAnnotation := some {
    defaultVif := {
      id := "web"
      network := ⟨"net"⟩
      ipAddress := "10.0.0.5" } }
  containers := [{ ports := [{
    name := some "http"
    containerPort := httpPort }] }]

/-- The block lets the pods of the policy talk to each other. -/
def amongThem : RuleBlock where
  peers := [{ podSelector := some { matchLabels := (∅ : Labels).set "app" "web" } }]
  ports := some [{ port := some (.number ⟨80, by decide⟩) }]

/-- The block opens a named port to everyone. -/
def toEveryone : RuleBlock where
  ports := some [{ port := some (.name "http") }]

def policy (blocks : List RuleBlock) : Crd where
  namespaceName := "fleet"
  name := "web"
  securityGroupId := "group"
  podSelector := { matchLabels := (∅ : Labels).set "app" "web" }
  spec := { ingress := blocks }

def cluster : Snapshot where
  pods := [web]
  namespaces := [{ name := "fleet" }]

/-- Addresses are told apart by their texts. -/
def exactly (prefix_ address : String) : Prop :=
  prefix_ = address

theorem without_web : (cluster.without web).pods = [] := by
  decide

/-- Without the pod there is nothing to admit. -/
theorem completeFor_without_web (blocks : List RuleBlock)
    (among : ∀ block ∈ blocks, block = amongThem ∨ block = toEveryone) :
    CompleteFor exactly (cluster.without web) (policy blocks) .ingress {} := by
  rintro block listed address protocol port ⟨source, stands, _, allows⟩
  rcases among block listed with rfl | rfl
  · rcases stands with ⟨impossible, _⟩ | ⟨peer, written, stands⟩
    · cases impossible
    · obtain rfl := List.mem_singleton.mp written
      cases source with
      | anyone =>
          have everyone : Peer.isEveryone
              { podSelector := some { matchLabels := (∅ : Labels).set "app" "web" } } = true := stands
          exact absurd everyone (by decide)
      | pod pod =>
          have known := stands.1
          rw [without_web] at known
          exact absurd known List.not_mem_nil
      | namespaceObj namespaceObj => exact absurd stands.1 (by decide)
      | ipBlock block => exact absurd stands (by simp [Peer.StandsFor])
  · rcases allows with impossible | ⟨policyPort, written, _, allows⟩
    · cases impossible
    · obtain rfl := List.mem_singleton.mp written
      obtain ⟨pod, ⟨known, _⟩, _⟩ := allows
      rw [without_web] at known
      exact absurd known List.not_mem_nil

/-- Traffic among the pods is for the numbered port, from the only pod there is. -/
theorem takesAt_amongThem {blocks : List RuleBlock} (written : amongThem ∈ blocks)
    {address : String} {protocol : Protocol} {port : PortNumber}
    (brings : amongThem.AllowsBetween exactly cluster (policy blocks) .ingress web address protocol
      port) :
    TakesAt exactly cluster (policy blocks) .ingress web address protocol port := by
  obtain ⟨source, stands, covered, allows⟩ := brings
  have reads : amongThem.ReadsPort protocol port := by
    have allowed : ∃ target, amongThem.AllowsTo target protocol port := by
      rcases allows with ⟨_, allowed⟩ | ⟨_, allowed⟩
      · exact ⟨_, allowed⟩
      · exact ⟨_, allowed⟩
    obtain ⟨target, impossible | ⟨policyPort, listed, sameProtocol, numbered⟩⟩ := allowed
    · cases impossible
    · obtain rfl := List.mem_singleton.mp listed
      cases numbered
      exact ⟨_, List.mem_singleton.mpr rfl, rfl, sameProtocol⟩
  have at_ : At exactly web address := by
    rcases stands with ⟨impossible, _⟩ | ⟨peer, listed, stands⟩
    · cases impossible
    · obtain rfl := List.mem_singleton.mp listed
      cases source with
      | anyone =>
          have everyone : Peer.isEveryone
              { podSelector := some { matchLabels := (∅ : Labels).set "app" "web" } } = true := stands
          exact absurd everyone (by decide)
      | pod pod =>
          obtain rfl := List.mem_singleton.mp stands.1
          exact covered
      | namespaceObj namespaceObj => exact absurd stands.1 (by decide)
      | ipBlock block => exact absurd stands (by simp [Peer.StandsFor])
  exact ⟨amongThem, written, _, List.mem_singleton.mpr rfl, rfl, at_, reads⟩

/-- Where the block with the named port comes first, nothing has matched before it. -/
theorem provided_named_first :
    Provided exactly cluster (policy [toEveryone, amongThem]) .ingress web {} := by
  intro block listed address protocol port brings
  rcases List.mem_cons.mp listed with rfl | rest
  · right
    right
    obtain ⟨_, _, _, allows⟩ := brings
    have allowed : ∃ target, (∀ pod, target pod → pod = web) ∧
        toEveryone.AllowsTo target protocol port := by
      rcases allows with ⟨_, allowed⟩ | ⟨_, allowed⟩
      · exact ⟨_, fun pod at_ => List.mem_singleton.mp at_.1, allowed⟩
      · exact ⟨_, fun pod at_ => List.mem_singleton.mp at_.1.1, allowed⟩
    obtain ⟨target, only, impossible | ⟨policyPort, written, rfl, allowed⟩⟩ := allowed
    · cases impossible
    · obtain rfl := List.mem_singleton.mp written
      obtain ⟨pod, at_, _, exposed⟩ := allowed
      obtain rfl := only pod at_
      obtain ⟨_, container, among, containerPort, exposes, _, same⟩ := exposed
      obtain rfl := List.mem_singleton.mp among
      obtain rfl := List.mem_singleton.mp exposes
      refine ⟨[], _, [], rfl, ⟨rfl, ?_, none, rfl, ?_⟩, ?_⟩
      · rw [← same]
        decide
      · intro prefix_ impossible
        cases impossible
      · rintro _ (⟨entry, impossible, _⟩ | ⟨found, impossible, _⟩)
        · exact absurd impossible List.not_mem_nil
        · exact absurd impossible List.not_mem_nil
  · obtain rfl := List.mem_singleton.mp rest
    exact .inr (.inl (takesAt_amongThem (List.mem_cons_of_mem _ rest) brings))

end Fleet

end KuryrKubernetes.Policy

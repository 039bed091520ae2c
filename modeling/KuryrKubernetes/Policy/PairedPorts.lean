import KuryrKubernetes.Policy.Allowed
import KuryrKubernetes.Policy.NamedPorts

/-!
# Named ports are exact

A named port of a policy asks for pairs of addresses and numbers: for `egress` a peer with
the numbers that its own pods expose under the name, for `ingress` every peer with those
that the pods of the policy expose.  The rules are for these pairs where no peer comes
after one that exposes another number, and where the query for the pods of the policy
finds them.
-/

namespace KuryrKubernetes.Policy

open KuryrKubernetes.Data
open KuryrKubernetes.Effect

/-! ## What a named port asks for -/

theorem exposes_iff (pod : Pod) (name : String) (number : Nat) :
    Exposes pod name number ↔ ∃ entry ∈ getPorts pod (some name), entry.2.val = number := by
  constructor
  · rintro ⟨notHost, container, among, port, listed, named, numbered⟩
    exact ⟨(pod, port.containerPort),
      mem_getPorts.mpr ⟨rfl, notHost, container, among, port, listed, named, rfl⟩, numbered⟩
  · rintro ⟨⟨owner, containerPort⟩, listed, rfl⟩
    rcases mem_getPorts.mp listed with ⟨_, notHost, container, among, port, exposed, named, rfl⟩
    exact ⟨notHost, container, among, port, exposed, named, rfl⟩

/-- The pods of a peer. -/
def Resource.pods (cluster : Cluster) : Resource → List Pod
  | .pod peer => [peer]
  | .namespaceObj peer => cluster.pods.filter (·.namespaceName = peer.name)
  | .cidr _ => []

namespace Translation

variable (translation : Translation)

/-- A peer offers a number: one of its pods, which the policy is not enforced on, exposes
it. -/
def Offers (name : String) (resource : Resource) (number : Nat) : Prop :=
  ∃ pod ∈ resource.pods translation.cluster, translation.skips pod = false ∧
    Exposes pod name number

/-- The policy selects a pod. -/
def Selects (pod : Pod) : Prop :=
  pod ∈ translation.cluster.pods ∧ pod.namespaceName = translation.policyNamespace ∧
    translation.podSelector.withoutTemplateHash.Accepts (podLabels pod)

/-- The address that rules for a peer have; rules for everyone have none. -/
def Addresses (allowAll : Bool) (resource : Resource) (address : Option String) : Prop :=
  if allowAll then address = none else ∃ cidr ∈ translation.address resource, address = some cidr

/-- The pairs of addresses and numbers that a named port asks for. -/
def Requires (name : String) (resources : List Resource) (allowAll : Bool)
    (address : Option String) (number : Nat) : Prop :=
  match translation.direction with
  | .ingress =>
      (∃ resource ∈ resources, translation.Addresses allowAll resource address) ∧
        ∃ pod, translation.Selects pod ∧ Exposes pod name number
  | .egress =>
      ∃ resource ∈ resources, translation.Addresses allowAll resource address ∧
        translation.Offers name resource number

/-! ## The condition -/

/-- No peer comes after one that offers another number than those offered at its own
address. -/
def Unmixed (name : String) (resources : List Resource) : Prop :=
  resources.Pairwise fun earlier later =>
    ∀ number, translation.Offers name earlier number → later.hasPods →
      ∀ cidr ∈ translation.address later,
        ∃ resource ∈ resources, translation.address resource = some cidr ∧
          translation.Offers name resource number

/-- The query for the pods of the policy does not hide a number: for an empty selector only
pods with a label `None` are found. -/
def FindsPods (name : String) : Prop :=
  translation.podSelector.isEmpty → ∀ pod number, translation.Selects pod →
    Exposes pod name number →
      ∃ found, translation.Selects found ∧ ((podLabels found).get? "None").isSome ∧
        Exposes found name number

/-- The condition under which a named port is exact. -/
def ExactPorts (name : String) (resources : List Resource) (allowAll : Bool) : Prop :=
  match translation.direction with
  | .ingress =>
      (∃ resource ∈ resources, ∃ address, translation.Addresses allowAll resource address) →
        translation.FindsPods name
  | .egress => allowAll = false → translation.Unmixed name resources

variable {translation}

/-! ## The pairs of the rules -/

/-- The pairs of the rules: in the turns those that are found, for everyone all that are
noted. -/
theorem pairs_iff {port : PolicyPort} {resources : List Resource} {allowAll : Bool}
    {rules : List ParsedRule} {done : PUnit}
    (ran : exec (translation.createSgRuleBodyOnTextPort port resources allowAll) [] =
      (.ok done, rules)) (address : Option String) (number : Nat) :
    (∃ rule ∈ rules, rule.Pairs address number) ↔
      (allowAll = false ∧ ∃ turn,
        translation.Finds (translation.textPortTurns port resources) ∅ turn number ∧
          translation.Addresses false turn.1 address) ∨
      (allowAll = true ∧ address = none ∧
        ∃ turn ∈ translation.textPortTurns port resources, translation.Notes turn number) := by
  have settled := settled_of_createSgRuleBodyOnTextPort ran
  have labels := translation.createSgRuleBodyOnTextPort_addsLabels port resources allowAll [] done
    rules ran
  rw [readings_nil, Set.empty_union] at labels
  have read : (∃ rule ∈ rules, rule.Pairs address number) ↔
      ∃ body : RuleBody, ((.body body, true) : Element × Bool) ∈
          readings (ParsedRule.label (translation.podsOfTextPort port resources)) rules ∧
        body.rule.remoteIpPrefix = address ∧
        body.rule.portRangeMin = number ∧ body.rule.portRangeMax = number := by
    constructor
    · rintro ⟨rule, listed, pairs⟩
      rcases ((settled rule listed).pairs_iff _ address number).mp pairs with ⟨body, same, fits⟩
      exact ⟨body, ⟨rule, listed, same⟩, fits⟩
    · rintro ⟨body, ⟨rule, listed, same⟩, fits⟩
      exact ⟨rule, listed, ((settled rule listed).pairs_iff _ address number).mpr ⟨body, same, fits⟩⟩
  rw [read, labels]
  constructor
  · rintro ⟨body, made, located, first, last⟩
    rcases made with inTurn | ⟨everyone, made⟩
    · rcases mem_inTurns_iff.mp inTurn with
        ⟨turn, found, finds, restricted, cidr, addressed, same | service⟩
      · cases (Prod.mk.inj same).1
        rcases bodyOnTextPort_of_pos (pos_of_finds finds) port (some cidr) with ⟨at_, min, _⟩
        have number_eq : found = number := min.symm.trans first
        subst number_eq
        exact .inl ⟨restricted, turn, finds, cidr, addressed, located.symm.trans at_⟩
      · cases service.1
    · rcases made with ⟨found, listed, same⟩ | ⟨last, _, service⟩
      · cases (Prod.mk.inj same).1
        rcases (mem_keys_notedPods_iff _ _ _).mp listed with nothing | ⟨turn, member, notes⟩
        · cases nothing
        · rcases bodyOnTextPort_of_pos (pos_of_notes notes) port none with ⟨at_, min, _⟩
          have number_eq : found = number := min.symm.trans first
          subst number_eq
          exact .inr ⟨everyone, located.symm.trans at_, turn, member, notes⟩
      · cases service.1
  · rintro (⟨restricted, turn, finds, cidr, addressed, rfl⟩ | ⟨everyone, rfl, turn, member, notes⟩)
    · refine ⟨translation.bodyOnTextPort port number (some cidr), ?_,
        bodyOnTextPort_of_pos (pos_of_finds finds) port (some cidr)⟩
      left
      exact mem_inTurns_iff.mpr ⟨turn, number, finds, restricted, cidr, addressed, .inl rfl⟩
    · refine ⟨translation.bodyOnTextPort port number none, ?_,
        bodyOnTextPort_of_pos (pos_of_notes notes) port none⟩
      right
      refine ⟨everyone, .inl ⟨number, ?_, rfl⟩⟩
      exact (mem_keys_notedPods_iff _ _ _).mpr (.inr ⟨turn, member, notes⟩)

/-! ## Turns and peers -/

section

variable {port : PolicyPort} {name : String} (named : port.port = some (.name name))
include named

theorem portName_of_named : portName port = some name := by
  rw [portName, named]

/-- A turn for `egress` enters the numbers that its peer offers. -/
theorem notes_getPortsOf_iff (resource : Resource) (number : Nat) :
    translation.Notes (resource, translation.getPortsOf port resource) number ↔
      translation.Offers name resource number := by
  have asked : portName port = some name := portName_of_named named
  unfold Notes Offers
  simp only [exposes_iff]
  cases resource with
  | cidr cidr => simp [getPortsOf, Resource.pods]
  | pod pod =>
      simp only [getPortsOf, asked, Resource.pods, List.mem_singleton, exists_eq_left]
      constructor
      · rintro ⟨entry, listed, kept, numbered⟩
        rw [fst_of_mem_getPorts listed] at kept
        exact ⟨kept, entry, listed, numbered⟩
      · rintro ⟨kept, entry, listed, numbered⟩
        rw [← fst_of_mem_getPorts listed] at kept
        exact ⟨entry, listed, kept, numbered⟩
  | namespaceObj namespaceObj =>
      simp only [getPortsOf, asked, Resource.pods, List.mem_flatMap]
      constructor
      · rintro ⟨entry, ⟨pod, member, listed⟩, kept, numbered⟩
        rw [fst_of_mem_getPorts listed] at kept
        exact ⟨pod, member, kept, entry, listed, numbered⟩
      · rintro ⟨pod, member, kept, entry, listed, numbered⟩
        rw [← fst_of_mem_getPorts listed] at kept
        exact ⟨entry, ⟨pod, member, listed⟩, kept, numbered⟩

/-- A turn for `ingress` enters the numbers that its selected pod exposes. -/
theorem notes_getPorts_iff (ingress : translation.direction = .ingress) (resource : Resource)
    (pod : Pod) (number : Nat) :
    translation.Notes (resource, getPorts pod (portName port)) number ↔
      Exposes pod name number := by
  have kept (other : Pod) : translation.skips other = false := by
    simp [skips, ingress]
  rw [portName_of_named named, exposes_iff]
  simp [Notes, kept]

end

/-! ## Named ports for `egress` -/

theorem hasPods_of_offers {name : String} {resource : Resource} {number : Nat}
    (offers : translation.Offers name resource number) : resource.hasPods = true := by
  rcases offers with ⟨pod, member, _⟩
  cases resource with
  | cidr cidr => cases member
  | pod peer => rfl
  | namespaceObj peer => rfl

theorem unmixed_iff (egress : translation.direction = .egress) {port : PolicyPort} {name : String}
    (named : port.port = some (.name name)) (resources : List Resource) :
    translation.Unmixed name resources ↔
      ∀ earlier turn, [earlier, turn].Sublist (translation.textPortTurns port resources) →
        ∀ number, translation.Notes earlier number → ∀ cidr ∈ translation.address turn.1,
          ∃ resource ∈ resources, translation.address resource = some cidr ∧
            translation.Offers name resource number := by
  have turned : translation.Unmixed name resources ↔
      (translation.textPortTurns port resources).Pairwise fun earlier turn =>
        ∀ number, translation.Notes earlier number → ∀ cidr ∈ translation.address turn.1,
          ∃ resource ∈ resources, translation.address resource = some cidr ∧
            translation.Offers name resource number := by
    rw [textPortTurns_of_egress egress, List.pairwise_filterMap, Unmixed]
    have same (earlier later : Resource) :
        (∀ number, translation.Offers name earlier number → later.hasPods →
          ∀ cidr ∈ translation.address later,
            ∃ resource ∈ resources, translation.address resource = some cidr ∧
              translation.Offers name resource number) ↔
          ∀ first, translation.egressTurn port earlier = some first →
            ∀ second, translation.egressTurn port later = some second →
              ∀ number, translation.Notes first number →
                ∀ cidr ∈ translation.address second.1,
                  ∃ resource ∈ resources, translation.address resource = some cidr ∧
                    translation.Offers name resource number := by
      simp only [egressTurn_eq_some_iff]
      constructor
      · rintro apart first ⟨_, rfl⟩ second ⟨served, rfl⟩ number notes
        exact apart number ((notes_getPortsOf_iff named earlier number).mp notes) served
      · intro apart number offers served
        exact apart _ ⟨hasPods_of_offers offers, rfl⟩ _ ⟨served, rfl⟩ number
          ((notes_getPortsOf_iff named earlier number).mpr offers)
    simp only [same]
  rw [turned, List.pairwise_iff_forall_sublist]

/-- The rules for the peers of `egress`: what a peer offers itself, and what those before it
offer. -/
theorem pairs_exact_iff_of_egress {port : PolicyPort} {name : String}
    (named : port.port = some (.name name)) {resources : List Resource} {allowAll : Bool}
    {rules : List ParsedRule} {done : PUnit}
    (ran : exec (translation.createSgRuleBodyOnTextPort port resources allowAll) [] =
      (.ok done, rules)) (egress : translation.direction = .egress) :
    (∀ address number, (∃ rule ∈ rules, rule.Pairs address number) ↔
        translation.Requires name resources allowAll address number) ↔
      (allowAll = false → translation.Unmixed name resources) := by
  have listed (turn : Resource × List (Pod × PortNumber)) :
      turn ∈ translation.textPortTurns port resources ↔
        ∃ resource ∈ resources, resource.hasPods = true ∧
          turn = (resource, translation.getPortsOf port resource) := by
    simp only [textPortTurns_of_egress egress, List.mem_filterMap, egressTurn_eq_some_iff]
  have noted (address : Option String) (number : Nat) :
      (∃ turn ∈ translation.textPortTurns port resources,
          translation.Notes turn number ∧ translation.Addresses allowAll turn.1 address) ↔
        translation.Requires name resources allowAll address number := by
    simp only [Requires, egress, listed]
    constructor
    · rintro ⟨turn, ⟨resource, member, _, rfl⟩, notes, addressed⟩
      exact ⟨resource, member, addressed, (notes_getPortsOf_iff named resource number).mp notes⟩
    · rintro ⟨resource, member, addressed, offers⟩
      exact ⟨_, ⟨resource, member, hasPods_of_offers offers, rfl⟩,
        (notes_getPortsOf_iff named resource number).mpr offers, addressed⟩
  cases allowAll with
  | true =>
      simp only [Bool.true_eq_false, false_implies, iff_true]
      intro address number
      rw [pairs_iff ran, ← noted]
      simp only [Bool.true_eq_false, false_and, false_or, true_and, Addresses, if_true]
      constructor
      · rintro ⟨everyone, turn, member, notes⟩
        exact ⟨turn, member, notes, everyone⟩
      · rintro ⟨turn, member, notes, everyone⟩
        exact ⟨everyone, turn, member, notes⟩
  | false =>
      simp only [true_implies, unmixed_iff egress named]
      have found (address : Option String) (number : Nat) :
          (∃ rule ∈ rules, rule.Pairs address number) ↔
            translation.Requires name resources false address number ∨
              ∃ earlier turn,
                [earlier, turn].Sublist (translation.textPortTurns port resources) ∧
                  translation.Notes earlier number ∧
                  translation.Addresses false turn.1 address := by
        rw [pairs_iff ran, ← noted]
        simp only [true_and, Bool.false_eq_true, false_and, or_false, Finds]
        constructor
        · rintro ⟨turn, ⟨member, nothing | notes⟩ | ⟨earlier, before, notes⟩, addressed⟩
          · cases nothing
          · exact .inl ⟨turn, member, notes, addressed⟩
          · exact .inr ⟨earlier, turn, before, notes, addressed⟩
        · rintro (⟨turn, member, notes, addressed⟩ | ⟨earlier, turn, before, notes, addressed⟩)
          · exact ⟨turn, .inl ⟨member, .inr notes⟩, addressed⟩
          · exact ⟨turn, .inr ⟨earlier, before, notes⟩, addressed⟩
      constructor
      · intro exact_ earlier turn before number notes cidr located
        have pairs := (found (some cidr) number).mpr
          (.inr ⟨earlier, turn, before, notes, cidr, located, rfl⟩)
        have required := (exact_ (some cidr) number).mp pairs
        simp only [Requires, egress] at required
        rcases required with ⟨resource, member, ⟨other, same, equal⟩, offers⟩
        cases equal
        exact ⟨resource, member, same, offers⟩
      · intro apart address number
        rw [found]
        constructor
        · rintro (required | ⟨earlier, turn, before, notes, cidr, located, rfl⟩)
          · exact required
          · rcases apart earlier turn before number notes cidr located with
              ⟨resource, member, same, offers⟩
            simp only [Requires, egress]
            exact ⟨resource, member, ⟨cidr, same, rfl⟩, offers⟩
        · exact .inl

/-! ## Named ports for `ingress` -/

/-- The query for the pods of the policy finds the selected ones, for an empty selector only
those with a label `None`. -/
theorem mem_getPods_iff (pod : Pod) :
    pod ∈ translation.cluster.getPods translation.podSelector translation.policyNamespace ↔
      translation.Selects pod ∧
        (translation.podSelector.isEmpty → ((podLabels pod).get? "None").isSome) := by
  unfold Snapshot.getPods Selects podQuery
  rw [List.mem_filter]
  by_cases empty : translation.podSelector.isEmpty = true
  · have accepts := accepts_withoutTemplateHash empty (podLabels pod)
    simp [empty, Query.selects, accepts, and_assoc]
  · simp [empty, Query.selects]

/-- The rules for the peers of `ingress`: what the queried pods expose. -/
theorem pairs_exact_iff_of_ingress {port : PolicyPort} {name : String}
    (named : port.port = some (.name name)) {resources : List Resource} {allowAll : Bool}
    {rules : List ParsedRule} {done : PUnit}
    (ran : exec (translation.createSgRuleBodyOnTextPort port resources allowAll) [] =
      (.ok done, rules)) (ingress : translation.direction = .ingress) :
    (∀ address number, (∃ rule ∈ rules, rule.Pairs address number) ↔
        translation.Requires name resources allowAll address number) ↔
      ((∃ resource ∈ resources, ∃ address, translation.Addresses allowAll resource address) →
        translation.FindsPods name) := by
  have found (address : Option String) (number : Nat) :
      (∃ rule ∈ rules, rule.Pairs address number) ↔
        (∃ resource ∈ resources, translation.Addresses allowAll resource address) ∧
          ∃ pod ∈ translation.cluster.getPods translation.podSelector translation.policyNamespace,
            Exposes pod name number := by
    have turned (resource : Resource) (member : resource ∈ resources) (pod : Pod)
        (queried : pod ∈ translation.cluster.getPods translation.podSelector
          translation.policyNamespace) :
        (resource, getPorts pod (portName port)) ∈ translation.textPortTurns port resources :=
      (mem_textPortTurns_of_ingress ingress).mpr ⟨pod, queried, resource, member, rfl⟩
    have noted {turn : Resource × List (Pod × PortNumber)}
        (member : turn ∈ translation.textPortTurns port resources)
        (notes : translation.Notes turn number) :
        ∃ pod ∈ translation.cluster.getPods translation.podSelector translation.policyNamespace,
          Exposes pod name number := by
      rcases (mem_textPortTurns_of_ingress ingress).mp member with
        ⟨pod, queried, resource, _, rfl⟩
      exact ⟨pod, queried, (notes_getPorts_iff named ingress resource pod number).mp notes⟩
    have peer {turn : Resource × List (Pod × PortNumber)}
        (member : turn ∈ translation.textPortTurns port resources) : turn.1 ∈ resources := by
      rcases (mem_textPortTurns_of_ingress ingress).mp member with ⟨_, _, resource, listed, rfl⟩
      exact listed
    rw [pairs_iff ran]
    constructor
    · rintro (⟨rfl, turn, finds, addressed⟩ | ⟨rfl, rfl, turn, member, notes⟩)
      · rcases finds with ⟨member, nothing | notes⟩ | ⟨earlier, before, notes⟩
        · cases nothing
        · exact ⟨⟨turn.1, peer member, addressed⟩, noted member notes⟩
        · have both := before.subset
          exact ⟨⟨turn.1, peer (both (by simp)), addressed⟩, noted (both (by simp)) notes⟩
      · exact ⟨⟨turn.1, peer member, rfl⟩, noted member notes⟩
    · rintro ⟨⟨resource, member, addressed⟩, pod, queried, exposes⟩
      have turn := turned resource member pod queried
      have notes := (notes_getPorts_iff named ingress resource pod number).mpr exposes
      cases allowAll with
      | false => exact .inl ⟨rfl, _, .inl ⟨turn, .inr notes⟩, addressed⟩
      | true => exact .inr ⟨rfl, addressed, _, turn, notes⟩
  simp only [found, Requires, ingress, mem_getPods_iff]
  constructor
  · rintro exact_ ⟨resource, member, address, addressed⟩ empty pod number selects exposes
    have queried := ((exact_ address number).mpr
      ⟨⟨resource, member, addressed⟩, pod, selects, exposes⟩).2
    rcases queried with ⟨other, ⟨selected, labelled⟩, shown⟩
    exact ⟨other, selected, labelled empty, shown⟩
  · intro finds address number
    constructor
    · rintro ⟨⟨resource, member, addressed⟩, pod, ⟨selects, _⟩, exposes⟩
      exact ⟨⟨resource, member, addressed⟩, pod, selects, exposes⟩
    · rintro ⟨⟨resource, member, addressed⟩, pod, selects, exposes⟩
      constructor
      · exact ⟨resource, member, addressed⟩
      · by_cases empty : translation.podSelector.isEmpty = true
        · rcases finds ⟨resource, member, address, addressed⟩ empty pod number selects exposes with
            ⟨other, selected, labelled, shown⟩
          exact ⟨other, ⟨selected, fun _ => labelled⟩, shown⟩
        · exact ⟨pod, ⟨selects, fun nothing => absurd nothing empty⟩, exposes⟩

/-- The rules of a named port are for the pairs that it asks for exactly where, for `egress`,
no peer comes after one that offers another number and, for `ingress`, the query for the
pods of the policy hides no number. -/
theorem text_port_pairs_iff {port : PolicyPort} {name : String}
    (named : port.port = some (.name name)) {resources : List Resource} {allowAll : Bool}
    {rules : List ParsedRule} {done : PUnit}
    (ran : exec (translation.createSgRuleBodyOnTextPort port resources allowAll) [] =
      (.ok done, rules)) :
    (∀ address number, (∃ rule ∈ rules, rule.Pairs address number) ↔
        translation.Requires name resources allowAll address number) ↔
      translation.ExactPorts name resources allowAll := by
  unfold ExactPorts
  cases towards : translation.direction with
  | ingress => exact pairs_exact_iff_of_ingress named ran towards
  | egress => exact pairs_exact_iff_of_egress named ran towards

end Translation

/-! ## Two peers with different numbers -/

namespace Rollout

/-- A pod that has `http` under a number. -/
def pod (name : String) (number : PortNumber) : Pod where
  name
  namespaceName := "shop"
  uid := name
  containers := [{ ports := [{ name := some "http", containerPort := number }] }]

def oldPod : Pod :=
  pod "old" ⟨8000, by decide⟩

def newPod : Pod :=
  pod "new" ⟨8001, by decide⟩

/-- `egress` of a policy of another namespace. -/
def translation : Translation where
  cluster :=
    { pods := [oldPod, newPod]
      statusPodIp := fun pod => if pod.name = "old" then some "10.0.0.1" else some "10.0.0.2" }
  text := { contains := fun _ _ => some false, exclude := fun cidr _ => [cidr] }
  policyNamespace := "default"
  podSelector := {}
  securityGroupId := "sg"
  direction := .egress

def port : PolicyPort where
  port := some (.name "http")

/-- What a run for some peers leaves. -/
def rulesFor (resources : List Resource) : List ParsedRule :=
  (exec (translation.createSgRuleBodyOnTextPort port resources false) []).2

end Rollout

/-- One peer is paired with its own number. -/
theorem text_port_pairs_of_one_peer :
    (∃ rule ∈ Rollout.rulesFor [.pod Rollout.oldPod], rule.Pairs (some "10.0.0.1") 8000) ↔
      Rollout.translation.Requires "http" [.pod Rollout.oldPod] false (some "10.0.0.1") 8000 := by
  have ran : exec (Rollout.translation.createSgRuleBodyOnTextPort Rollout.port
      [.pod Rollout.oldPod] false) [] =
        (.ok ⟨⟩, Rollout.rulesFor [.pod Rollout.oldPod]) := rfl
  have unmixed : Rollout.translation.ExactPorts "http" [.pod Rollout.oldPod] false :=
    fun _ => List.pairwise_singleton _ _
  exact (Translation.text_port_pairs_iff rfl ran).mpr unmixed (some "10.0.0.1") 8000

/-- Of two peers the second one is paired with the number of the first one as well. -/
theorem text_port_pairs_second_peer :
    exec (Rollout.translation.createSgRuleBodyOnTextPort Rollout.port
        [.pod Rollout.oldPod, .pod Rollout.newPod] false) [] =
          (.ok ⟨⟩, Rollout.rulesFor [.pod Rollout.oldPod, .pod Rollout.newPod]) ∧
      (∃ rule ∈ Rollout.rulesFor [.pod Rollout.oldPod, .pod Rollout.newPod],
        rule.Pairs (some "10.0.0.2") 8000) ∧
      ¬Rollout.translation.Requires "http" [.pod Rollout.oldPod, .pod Rollout.newPod] false
        (some "10.0.0.2") 8000 := by
  refine ⟨rfl, ?_, ?_⟩
  · refine ⟨.rule _ _, List.mem_cons_of_mem _ List.mem_cons_self, ?_, rfl, rfl, rfl⟩
    rintro ⟨⟩
  · rintro ⟨resource, member, ⟨cidr, located, same⟩, pod, listed, _, exposes⟩
    cases same
    rcases List.mem_cons.mp member with rfl | other
    · have elsewhere : some "10.0.0.1" = some "10.0.0.2" := located
      exact absurd elsewhere (by decide)
    · rw [List.mem_singleton.mp other] at listed
      rw [List.mem_singleton.mp listed] at exposes
      rcases exposes with ⟨_, container, inside, port, open_, _, number⟩
      rw [List.mem_singleton.mp inside] at open_
      rw [List.mem_singleton.mp open_] at number
      cases number

end KuryrKubernetes.Policy

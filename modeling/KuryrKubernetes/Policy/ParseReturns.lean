import KuryrKubernetes.Effect.Ensures
import KuryrKubernetes.Policy.Parse

/-!
# Where a policy is translated

The translation raises in three places: for a policy without types and without
`ingress`, for a named `egress` port that is open to everyone and that no pod has, and for
an `egress` block of addresses where a service of the namespace has a pod without an
address.  Everywhere else it returns.
-/

namespace KuryrKubernetes.Policy

open KuryrKubernetes.Data
open KuryrKubernetes.Effect

/-! ## The condition -/

/-- The pods of a service can be compared with a block of addresses: up to the first one
inside, each has an address. -/
def AddressText.Scannable (text : AddressText) (cidr : String) : List Pod → Prop
  | [] => True
  | pod :: rest =>
      ∃ inside, (pod.podIp.bind fun podIp => text.contains cidr podIp) = some inside ∧
        (inside = false → text.Scannable cidr rest)

/-- All services of the policy's namespace can be compared with a block of addresses. -/
def Cluster.Scannable (cluster : Cluster) (text : AddressText) (policyNamespace cidr : String) :
    Prop :=
  ∀ service ∈ cluster.services, service.namespaceName = policyNamespace →
    text.Scannable cidr (cluster.getServicePods service.toService)

/-- The blocks of addresses that the rules of a policy block are made for. -/
def RuleBlock.cidrs (block : RuleBlock) (text : AddressText) : List String :=
  (block.peers.filterMap (·.ipBlock)).flatMap fun ipBlock =>
    if ipBlock.excepted.isEmpty then
      [ipBlock.cidr]
    else
      ipBlock.excepted.flatMap (text.exclude ipBlock.cidr)

/-- The block is open to everyone: one of its peers is, or it has no peers but blocks of
addresses that leave nothing. -/
def RuleBlock.Open (block : RuleBlock) (text : AddressText) : Prop :=
  Translation.allowsAll block ∨ Translation.hasSelectors block = false ∧ block.cidrs text = []

/-- A pod that the policy is not enforced on has a port of the name that is asked for. -/
def NetworkPolicy.PortFound (policy : NetworkPolicy) (cluster : Cluster) (port : PolicyPort) :
    Prop :=
  ∃ pod ∈ cluster.pods, getPorts pod (Translation.portName port) ≠ [] ∧
    ¬(matchSelector policy.selectorAfterIngress (podLabels pod) ∧
      policy.namespaceName = pod.namespaceName)

/-- The policies that are translated to rule bodies. -/
structure NetworkPolicy.Translatable (policy : NetworkPolicy) (cluster : Cluster)
    (text : AddressText) : Prop where
  policyTypes : policy.spec.ingress = [] → policy.policyTypes ≠ none
  allPorts : ∀ block ∈ policy.spec.egress, block.ports = none →
    Translation.allowsAll block = false
  namedPorts : ∀ block ∈ policy.spec.egress, ∀ port ∈ block.ports.getD [],
    port.isText → block.Open text → policy.PortFound cluster port
  ipBlocks : ∀ block ∈ policy.spec.egress,
    (∀ ports ∈ block.ports, ∃ port ∈ ports, port.isText = false) →
    ∀ cidr ∈ block.cidrs text, cluster.Scannable text policy.namespaceName cidr

/-- The namespaces of the cluster have their networks. -/
def Cluster.Ready (cluster : Cluster) : Prop :=
  ∀ namespaceObj ∈ cluster.namespaces, namespaceObj.subnetCidr.isSome

namespace Translation

variable {translation : Translation}

/-- The details of a resource are there. -/
def Ready (resource : Resource) : Prop :=
  match resource with
  | .namespaceObj namespaceObj => namespaceObj.subnetCidr.isSome
  | .pod _ | .cidr _ => True

/-- The services can be compared with a resource. -/
def Scannable (translation : Translation) (resource : Resource) : Prop :=
  match resource with
  | .cidr cidr =>
      translation.cluster.Scannable translation.text translation.policyNamespace cidr
  | .pod _ | .namespaceObj _ => True

/-! ## Rules for services -/

theorem podsInIpBlock_eq_ok_iff (cidr : String) (pods : List Pod) :
    (∃ inside, translation.podsInIpBlock cidr pods = .ok inside) ↔
      translation.text.Scannable cidr pods := by
  induction pods with
  | nil => simp [podsInIpBlock, AddressText.Scannable]
  | cons pod rest ih =>
      unfold podsInIpBlock AddressText.Scannable
      rcases compared : pod.podIp.bind fun podIp => translation.text.contains cidr podIp with
        _ | inside
      · simp
      · cases inside with
        | true => simp
        | false => simpa using ih

theorem servesResource_eq_ok_iff (resource : Resource) (service : ClusterService) :
    (∃ serves, translation.servesResource resource service = .ok serves) ↔
      match resource with
      | .cidr cidr =>
          service.namespaceName = translation.policyNamespace →
            translation.text.Scannable cidr
              (translation.cluster.getServicePods service.toService)
      | .pod _ | .namespaceObj _ => True := by
  cases resource with
  | pod pod => simp [servesResource]
  | namespaceObj namespaceObj => simp [servesResource]
  | cidr cidr =>
      unfold servesResource
      by_cases own : service.namespaceName = translation.policyNamespace
      · simp only [own, if_true, true_implies]
        exact podsInIpBlock_eq_ok_iff cidr _
      · simp [own]

theorem svcRules_eq_ok_iff (resource : Resource) (port : Option Nat)
    (protocol : Option Protocol) (services : List ClusterService) :
    (∃ rules, translation.svcRules resource port protocol services = .ok rules) ↔
      ∀ service ∈ services, ∃ serves, translation.servesResource resource service = .ok serves := by
  induction services with
  | nil => simp [svcRules]
  | cons service rest ih =>
      rw [List.forall_mem_cons, ← ih, svcRules.eq_def]
      dsimp only
      cases translation.servesResource resource service with
      | error exception => simp [bind, Except.bind]
      | ok serves =>
          cases translation.svcRules resource port protocol rest with
          | error exception => simp [bind, Except.bind]
          | ok rules =>
              cases serves <;> cases service.clusterIp <;>
                simp [bind, Except.bind, pure, Except.pure]

/-- The rules are those for the services that go with the resource. -/
theorem mem_svcRules_iff {resource : Resource} {port : Option Nat} {protocol : Option Protocol}
    {services : List ClusterService} {rules : List RuleBody}
    (made : translation.svcRules resource port protocol services = .ok rules) (body : RuleBody) :
    body ∈ rules ↔ ∃ service ∈ services, translation.servesResource resource service = .ok true ∧
      ∃ clusterIp ∈ service.clusterIp,
        body = translation.body .egress port none protocol (some clusterIp) none := by
  induction services generalizing rules with
  | nil =>
      cases made
      simp
  | cons service rest ih =>
      rw [svcRules.eq_def] at made
      dsimp only at made
      rw [List.exists_mem_cons_iff]
      cases served : translation.servesResource resource service with
      | error exception =>
          rw [served] at made
          cases made
      | ok serves =>
          cases others : translation.svcRules resource port protocol rest with
          | error exception =>
              rw [served, others] at made
              cases made
          | ok found =>
              rw [served, others] at made
              rw [← ih others]
              cases serves with
              | false =>
                  cases made
                  simp
              | true =>
                  cases located : service.clusterIp with
                  | none =>
                      simp only [located] at made
                      cases made
                      simp
                  | some clusterIp =>
                      simp only [located] at made
                      cases made
                      simp

theorem createSvcEgressSgRule_eq_ok_iff (resource : Option Resource) (port : Option Nat)
    (protocol : Option Protocol) :
    (∃ rules, translation.createSvcEgressSgRule resource port protocol = .ok rules) ↔
      ∀ known ∈ resource, translation.Scannable known := by
  cases resource with
  | none => simp [createSvcEgressSgRule]
  | some resource =>
      rw [createSvcEgressSgRule, svcRules_eq_ok_iff]
      simp only [servesResource_eq_ok_iff, Option.mem_def, Option.some.injEq, forall_eq']
      cases resource <;> simp [Scannable, Cluster.Scannable]

theorem extendSvcRules_gives (resource : Option Resource) (port : Option Nat)
    (protocol : Option Protocol) :
    Gives (translation.extendSvcRules resource port protocol)
      (translation.direction = .egress → ∀ known ∈ resource, translation.Scannable known) ⟨⟩ := by
  unfold extendSvcRules
  split
  · rename_i ingress
    apply (gives_pure PUnit.unit).congr
    simp [ingress]
  · rename_i egress
    have extended : ∀ rules, translation.createSvcEgressSgRule resource port protocol = .ok rules →
        Gives (extend rules) True ⟨⟩ := fun rules _ => gives_modify _
    apply (Gives.settle_bind extended).congr
    rw [createSvcEgressSgRule_eq_ok_iff]
    simp [egress]

/-! ## Resources -/

/-- What `getResourceDetails` gives for a resource whose details are there. -/
def details (translation : Translation) : Resource → Option String × Option String
  | .pod pod => (translation.cluster.statusPodIp pod, some pod.namespaceName)
  | .cidr cidr => (some cidr, none)
  | .namespaceObj namespaceObj => (namespaceObj.subnetCidr, some namespaceObj.name)

theorem getResourceDetails_gives {resource : Resource} (ready : Ready resource) :
    Gives (translation.getResourceDetails resource) True (translation.details resource) := by
  cases resource with
  | pod pod => exact gives_pure _
  | cidr cidr => exact gives_pure _
  | namespaceObj namespaceObj =>
      obtain ⟨cidr, found⟩ := Option.isSome_iff_exists.mp ready
      simp only [getResourceDetails, details, found]
      exact gives_pure _

/-- The rules for the services of a resource. -/
theorem extendSvcRules_some_gives (resource : Resource) (port : Option Nat)
    (protocol : Option Protocol) :
    Gives (translation.extendSvcRules (some resource) port protocol)
      (translation.direction = .egress → translation.Scannable resource) ⟨⟩ := by
  apply (extendSvcRules_gives (some resource) port protocol).congr
  simp

theorem extendSvcRules_none_gives (port : Option Nat) (protocol : Option Protocol) :
    Gives (translation.extendSvcRules none port protocol) True ⟨⟩ := by
  apply (extendSvcRules_gives none port protocol).congr
  simp

theorem createSgRuleOnResource_gives (port : Option (PortNumber × Option Protocol))
    {resource : Resource} (ready : Ready resource) :
    Gives (translation.createSgRuleOnResource port resource)
      (translation.direction = .egress → translation.Scannable resource) ⟨⟩ := by
  unfold createSgRuleOnResource
  refine ((getResourceDetails_gives ready).bind
    (show Gives _ (translation.direction = .egress → translation.Scannable resource) _ from
      ?_)).congr ?_
  · cases address : (translation.details resource).1 with
    | none =>
        apply (gives_pure PUnit.unit).congr
        -- only a pod may be without an address
        cases resource with
        | pod pod => simp [Translation.Scannable]
        | namespaceObj namespaceObj => simp [Translation.Scannable]
        | cidr cidr => cases address
    | some cidr =>
        cases port with
        | none =>
            apply ((gives_modify _).bind (extendSvcRules_some_gives resource none none)).congr
            rw [true_and]
        | some port =>
            apply ((gives_modify _).bind
              (extendSvcRules_some_gives resource (some port.1.val) port.2)).congr
            rw [true_and]
  · rw [true_and]

/-! ## Named ports -/

theorem createSgRulesWithContainerPorts_gives (translation : Translation) (port : PolicyPort) (allowAll : Bool)
    {resource : Resource} (ready : Ready resource)
    (scannable : translation.direction = .egress → translation.Scannable resource)
    (containerPorts : List (Pod × PortNumber)) (matchedPods : PodsOfPorts) :
    Gives
      (translation.createSgRulesWithContainerPorts port allowAll resource containerPorts
        matchedPods)
      True (translation.notePods containerPorts matchedPods) := by
  unfold createSgRulesWithContainerPorts
  refine ((getResourceDetails_gives ready).bind
    (show Gives _ True (translation.notePods containerPorts matchedPods) from ?_)).congr ?_
  · dsimp only
    generalize translation.notePods containerPorts matchedPods = noted
    split
    · rename_i cidr _
      have turns : Gives
          (noted.keys.forM fun containerPort => do
            appendNew noted (.rule (translation.body translation.direction (some containerPort)
              none port.protocol (some cidr) none) (.shared containerPort))
            translation.extendSvcRules (some resource) (some containerPort) port.protocol)
          (∀ containerPort ∈ noted.keys,
            translation.direction = .egress → translation.Scannable resource) ⟨⟩ := by
        apply Gives.forM
        intro containerPort _
        apply ((gives_modify _).bind
          (extendSvcRules_some_gives resource (some containerPort) port.protocol)).congr
        rw [true_and]
      have ended : Gives (pure noted : ParseM PodsOfPorts) True noted := gives_pure noted
      apply (turns.bind ended).congr
      simp only [and_true, iff_true]
      intro containerPort _
      exact scannable
    · exact gives_pure noted
  · rw [true_and]

/-- The pods noted over all turns. -/
def notedPods (translation : Translation) (turns : List (Resource × List (Pod × PortNumber)))
    (matchedPods : PodsOfPorts) : PodsOfPorts :=
  turns.foldl (fun matchedPods turn => translation.notePods turn.2 matchedPods) matchedPods

theorem createSgRulesOnTurns_gives (translation : Translation) (port : PolicyPort) (allowAll : Bool)
    {turns : List (Resource × List (Pod × PortNumber))}
    (ready : ∀ turn ∈ turns, Ready turn.1)
    (scannable : ∀ turn ∈ turns, translation.direction = .egress →
      translation.Scannable turn.1) (matchedPods : PodsOfPorts) :
    Gives (translation.createSgRulesOnTurns port allowAll turns matchedPods) True
      (translation.notedPods turns matchedPods) := by
  induction turns generalizing matchedPods with
  | nil => exact gives_pure _
  | cons turn rest ih =>
      have first := createSgRulesWithContainerPorts_gives translation port allowAll
        (ready turn List.mem_cons_self) (scannable turn List.mem_cons_self) turn.2 matchedPods
      have others := ih (fun other member => ready other (List.mem_cons_of_mem turn member))
        (fun other member => scannable other (List.mem_cons_of_mem turn member))
        (translation.notePods turn.2 matchedPods)
      apply (first.bind others).congr
      rw [true_and]

/-- The turns are over resources that have details and may be compared with services. -/
theorem textPortTurns_fit (translation : Translation) {port : PolicyPort} {resources : List Resource}
    (ready : ∀ resource ∈ resources, Ready resource)
    {turn : Resource × List (Pod × PortNumber)}
    (listed : turn ∈ translation.textPortTurns port resources) :
    Ready turn.1 ∧ (translation.direction = .egress → translation.Scannable turn.1) := by
  unfold textPortTurns at listed
  split at listed
  · rename_i ingress
    obtain ⟨selectedPod, _, listed⟩ := List.mem_flatMap.mp listed
    obtain ⟨resource, member, rfl⟩ := List.mem_map.mp listed
    constructor
    · exact ready resource member
    · intro egress
      rw [ingress] at egress
      cases egress
  · obtain ⟨resource, member, kept⟩ := List.mem_filterMap.mp listed
    cases resource with
    | cidr cidr => cases kept
    | pod pod =>
        cases kept
        exact ⟨ready _ member, fun _ => trivial⟩
    | namespaceObj namespaceObj =>
        cases kept
        exact ⟨ready _ member, fun _ => trivial⟩

/-- The pods noted for a named port. -/
def podsOfTextPort (translation : Translation) (port : PolicyPort) (resources : List Resource) :
    PodsOfPorts :=
  translation.notedPods (translation.textPortTurns port resources) ∅

theorem createSgRuleBodyOnTextPort_gives (port : PolicyPort) {resources : List Resource}
    (allowAll : Bool) (ready : ∀ resource ∈ resources, Ready resource) :
    Gives (translation.createSgRuleBodyOnTextPort port resources allowAll)
      (allowAll = true → translation.direction = .egress →
        (translation.podsOfTextPort port resources).items ≠ []) ⟨⟩ := by
  unfold createSgRuleBodyOnTextPort
  have fits : ∀ turn ∈ translation.textPortTurns port resources,
      Ready turn.1 ∧ (translation.direction = .egress → translation.Scannable turn.1) :=
    fun _ listed => textPortTurns_fit translation ready listed
  have turns := createSgRulesOnTurns_gives translation port allowAll
    (fun turn listed => (fits turn listed).1) (fun turn listed => (fits turn listed).2) ∅
  refine (turns.bind (show Gives _ (allowAll = true → translation.direction = .egress →
    (translation.podsOfTextPort port resources).items ≠ []) _ from ?_)).congr ?_
  · change Gives _ (allowAll = true → translation.direction = .egress →
      (translation.notedPods (translation.textPortTurns port resources) ∅).items ≠ []) _
    generalize translation.notedPods (translation.textPortTurns port resources) ∅ = noted
    have settled : Gives
        (modify fun rules => rules.map (·.settle noted) : ParseM PUnit) True ⟨⟩ :=
      gives_modify _
    cases allowAll with
    | false =>
        have skipped : Gives (pure ⟨⟩ : ParseM PUnit) True ⟨⟩ := gives_pure _
        apply (settled.bind skipped).congr
        simp
    | true =>
        have loop : Gives
            (noted.items.forM fun item =>
              append (.rule (translation.body translation.direction (some item.1) none
                port.protocol none none) (.settled item.2)))
            (∀ item ∈ noted.items, True) ⟨⟩ :=
          Gives.forM fun item _ => gives_modify _
        refine (settled.bind (loop.bind
          (show Gives _ (translation.direction = .egress → noted.items ≠ []) _ from ?_))).congr ?_
        · split
          · rename_i ingress
            apply (gives_pure PUnit.unit).congr
            simp [ingress]
          · rename_i egress unbound
            apply (gives_throw _ PUnit.unit).congr
            simp [egress, List.getLast?_eq_none_iff.mp unbound]
          · rename_i containerPort _ egress bound
            have filled : noted.items ≠ [] := by
              intro empty
              rw [empty] at bound
              cases bound
            apply (extendSvcRules_none_gives (some containerPort) port.protocol).congr
            simp [filled]
        · simp
  · rw [true_and]

/-! ## Pods of a named port -/

/-- What is kept by the loop over the container ports holds of what was there, or a number that
counts is entered. -/
theorem notePods_iff (holds : PodsOfPorts → Prop) (counts : Nat → Prop)
    (entered : ∀ matchedPods number podIp namespaceName,
      holds (matchedPods.alter number ∅ (·.set podIp namespaceName)) ↔
        holds matchedPods ∨ counts number)
    (containerPorts : List (Pod × PortNumber)) (matchedPods : PodsOfPorts) :
    holds (translation.notePods containerPorts matchedPods) ↔
      holds matchedPods ∨
        ∃ entry ∈ containerPorts, translation.skips entry.1 = false ∧ counts entry.2.val := by
  induction containerPorts generalizing matchedPods with
  | nil => simp [notePods]
  | cons entry rest ih =>
      rcases entry with ⟨pod, containerPort⟩
      have turn : translation.notePods ((pod, containerPort) :: rest) matchedPods =
          translation.notePods rest
            (if translation.skips pod then
              matchedPods
            else
              matchedPods.alter containerPort.val ∅
                (·.set (translation.cluster.statusPodIp pod) pod.namespaceName)) := rfl
      rw [turn, ih, List.exists_mem_cons_iff]
      by_cases skipped : translation.skips pod = true
      · simp [skipped]
      · have kept : translation.skips pod = false := by simpa using skipped
        rw [if_neg skipped, entered, or_assoc]
        simp [kept]

/-- And over all turns. -/
theorem notedPods_iff (holds : PodsOfPorts → Prop) (counts : Nat → Prop)
    (entered : ∀ matchedPods number podIp namespaceName,
      holds (matchedPods.alter number ∅ (·.set podIp namespaceName)) ↔
        holds matchedPods ∨ counts number)
    (turns : List (Resource × List (Pod × PortNumber))) (matchedPods : PodsOfPorts) :
    holds (translation.notedPods turns matchedPods) ↔
      holds matchedPods ∨ ∃ turn ∈ turns, ∃ entry ∈ turn.2,
        translation.skips entry.1 = false ∧ counts entry.2.val := by
  induction turns generalizing matchedPods with
  | nil => simp [notedPods]
  | cons turn rest ih =>
      have step : translation.notedPods (turn :: rest) matchedPods =
          translation.notedPods rest (translation.notePods turn.2 matchedPods) := rfl
      rw [step, ih, notePods_iff holds counts entered, List.exists_mem_cons_iff, or_assoc]

theorem alter_ne_nil (matchedPods : PodsOfPorts) (number : Nat) (podIp : Option String)
    (namespaceName : String) :
    (matchedPods.alter number ∅ (·.set podIp namespaceName)).items ≠ [] ↔
      matchedPods.items ≠ [] ∨ True := by
  rw [or_true, iff_true]
  intro empty
  have member : number ∈ matchedPods.alter number ∅ (·.set podIp namespaceName) :=
    Dict.mem_set.mpr (.inl rfl)
  obtain ⟨pods, found⟩ := Dict.mem_iff_exists_get?.mp member
  rw [← Dict.mem_items_iff, empty] at found
  cases found

theorem notedPods_ne_nil_iff (turns : List (Resource × List (Pod × PortNumber)))
    (matchedPods : PodsOfPorts) :
    (translation.notedPods turns matchedPods).items ≠ [] ↔
      matchedPods.items ≠ [] ∨
        ∃ turn ∈ turns, ∃ entry ∈ turn.2, translation.skips entry.1 = false := by
  apply (notedPods_iff (fun pods => pods.items ≠ []) (fun _ => True) alter_ne_nil turns
    matchedPods).trans
  simp only [and_true]

/-- The ports of a pod come with the pod. -/
theorem fst_of_mem_getPorts {pod : Pod} {name : Option String} {entry : Pod × PortNumber}
    (listed : entry ∈ getPorts pod name) : entry.1 = pod := by
  unfold getPorts at listed
  split at listed
  · cases listed
  · obtain ⟨containerPort, _, kept⟩ := List.mem_filterMap.mp listed
    split at kept
    · cases kept
      rfl
    · cases kept

/-- For `egress` to everyone, the pods noted are those that have the port and are not
skipped. -/
theorem podsOfTextPort_ne_nil_iff (port : PolicyPort) (egress : translation.direction = .egress) :
    (translation.podsOfTextPort port (translation.cluster.pods.map .pod)).items ≠ [] ↔
      ∃ pod ∈ translation.cluster.pods,
        getPorts pod (portName port) ≠ [] ∧ translation.skips pod = false := by
  have turns : translation.textPortTurns port (translation.cluster.pods.map .pod) =
      translation.cluster.pods.map fun pod => (.pod pod, getPorts pod (portName port)) := by
    unfold textPortTurns
    rw [egress]
    dsimp only
    rw [List.filterMap_map, ← List.filterMap_eq_map]
    rfl
  rw [podsOfTextPort, notedPods_ne_nil_iff, turns]
  constructor
  · rintro (absurd_ | ⟨turn, listed, entry, member, kept⟩)
    · exact absurd rfl absurd_
    · obtain ⟨pod, known, rfl⟩ := List.mem_map.mp listed
      rw [fst_of_mem_getPorts member] at kept
      exact ⟨pod, known, List.ne_nil_of_mem member, kept⟩
  · rintro ⟨pod, known, ports, kept⟩
    obtain ⟨entry, member⟩ := List.exists_mem_of_ne_nil _ ports
    right
    refine ⟨_, List.mem_map_of_mem known, entry, member, ?_⟩
    rw [fst_of_mem_getPorts member]
    exact kept

/-! ## Blocks -/

/-- A pod that is not skipped has the port that is asked for. -/
def PortFound (translation : Translation) (port : PolicyPort) : Prop :=
  ∃ pod ∈ translation.cluster.pods,
    getPorts pod (portName port) ≠ [] ∧ translation.skips pod = false

theorem createAllPodsSgRules_gives (translation : Translation) (port : PolicyPort) :
    Gives (translation.createAllPodsSgRules port)
      (translation.direction = .egress → port.isText → translation.PortFound port) ⟨⟩ := by
  have named : Gives
      (translation.createSgRuleBodyOnTextPort port (translation.cluster.pods.map .pod) true)
      (translation.direction = .egress → translation.PortFound port) ⟨⟩ := by
    have ready : ∀ resource ∈ translation.cluster.pods.map Resource.pod, Ready resource := by
      intro resource member
      obtain ⟨pod, _, rfl⟩ := List.mem_map.mp member
      trivial
    apply (createSgRuleBodyOnTextPort_gives port true ready).congr
    constructor
    · intro filled egress
      exact (podsOfTextPort_ne_nil_iff port egress).mp (filled rfl egress)
    · intro found _ egress
      exact (podsOfTextPort_ne_nil_iff port egress).mpr (found egress)
  unfold createAllPodsSgRules PolicyPort.isText
  split
  · rename_i number _
    apply ((gives_modify _).bind
      (extendSvcRules_none_gives (some number.val) port.protocol)).congr
    simp
  · apply named.congr
    simp

/-- The condition on one port of a block. -/
def PortFits (translation : Translation) (block : RuleBlock) (resources : List Resource)
    (port : PolicyPort) : Prop :=
  (port.isText → allowsAll block ∨ resources = [] ∧ hasSelectors block = false →
      translation.PortFound port) ∧
    (port.isText = false → ∀ resource ∈ resources, translation.Scannable resource)

theorem createAllPortsSgRule_gives (translation : Translation) :
    Gives translation.createAllPortsSgRule True ⟨⟩ := by
  unfold createAllPortsSgRule
  split
  · exact gives_modify _
  · apply ((gives_pure _).bind ((gives_modify _).bind (gives_modify _))).congr
    simp only [and_self]

/-- A peer without selectors adds nothing, and no peer adds blocks of addresses. -/
theorem peerResources_eq_ok (ready : translation.cluster.Ready)
    (known : (translation.cluster.getNamespace translation.policyNamespace).isSome)
    (peer : Peer) :
    ∃ resources, translation.peerResources peer = .ok resources ∧
      (∀ resource ∈ resources, Ready resource ∧ translation.Scannable resource) ∧
      (peer.namespaceSelector = none → peer.podSelector = none → resources = []) := by
  have ofPods (pods : List Pod) : ∀ resource ∈ pods.map Resource.pod,
      Ready resource ∧ translation.Scannable resource := by
    intro resource member
    obtain ⟨pod, _, rfl⟩ := List.mem_map.mp member
    exact ⟨trivial, trivial⟩
  unfold peerResources
  split
  · rename_i selector given
    rw [given]
    split
    · split
      · exact ⟨_, rfl, ofPods _, by rintro ⟨⟩⟩
      · exact ⟨_, rfl, ofPods _, by rintro ⟨⟩⟩
    · split
      · exact ⟨_, rfl, by simp, by rintro ⟨⟩⟩
      · refine ⟨_, rfl, ?_, by rintro ⟨⟩⟩
        intro resource member
        obtain ⟨namespaceObj, listed, rfl⟩ := List.mem_map.mp member
        exact ⟨ready namespaceObj (List.mem_of_mem_filter listed), trivial⟩
  · split
    · exact ⟨_, rfl, by simp, fun _ _ => rfl⟩
    · rename_i podSelector given
      rw [given]
      split
      · obtain ⟨namespaceObj, found⟩ := Option.isSome_iff_exists.mp known
        rw [found]
        refine ⟨_, rfl, ?_, by rintro _ ⟨⟩⟩
        intro resource member
        rw [List.mem_singleton.mp member]
        exact ⟨ready namespaceObj (List.mem_of_find?_eq_some found), trivial⟩
      · exact ⟨_, rfl, ofPods _, by rintro _ ⟨⟩⟩

theorem selectorResources_eq_ok (ready : translation.cluster.Ready)
    (known : (translation.cluster.getNamespace translation.policyNamespace).isSome)
    (peers : List Peer) :
    ∃ resources, translation.selectorResources peers = .ok resources ∧
      (∀ resource ∈ resources, Ready resource ∧ translation.Scannable resource) ∧
      ((∀ peer ∈ peers, peer.namespaceSelector = none ∧ peer.podSelector = none) →
        resources = []) := by
  induction peers with
  | nil => exact ⟨[], rfl, by simp, fun _ => rfl⟩
  | cons peer rest ih =>
      obtain ⟨own, ran, fit, nothing⟩ := peerResources_eq_ok ready known peer
      obtain ⟨others, ranOn, fitToo, nothingElse⟩ := ih
      refine ⟨own ++ others, ?_, ?_, ?_⟩
      · simp only [selectorResources, ran, ranOn]
        rfl
      · intro resource member
        rcases List.mem_append.mp member with here | later
        · exact fit resource here
        · exact fitToo resource later
      · intro unselected
        have first := unselected peer List.mem_cons_self
        rw [nothing first.1 first.2,
          nothingElse fun other member => unselected other (List.mem_cons_of_mem peer member)]
        rfl

/-- The resources for the `ipBlock`s of a block are blocks of addresses. -/
theorem blockResources_eq (block : RuleBlock) :
    (block.peers.filterMap (·.ipBlock)).flatMap translation.blockResources =
      (block.cidrs translation.text).map .cidr := by
  rw [RuleBlock.cidrs, List.map_flatMap]
  congr 1
  funext ipBlock
  unfold blockResources
  split
  · rfl
  · rw [List.map_flatMap]

/-- The condition on a block. -/
def BlockFits (translation : Translation) (block : RuleBlock) : Prop :=
  (∀ port ∈ block.ports.getD [], port.isText → block.Open translation.text →
      translation.PortFound port) ∧
    ((∀ ports ∈ block.ports, ∃ port ∈ ports, port.isText = false) →
      ∀ cidr ∈ block.cidrs translation.text,
        translation.cluster.Scannable translation.text translation.policyNamespace cidr)

end Translation

end KuryrKubernetes.Policy

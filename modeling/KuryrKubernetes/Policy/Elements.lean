import KuryrKubernetes.Effect.Adds
import KuryrKubernetes.Policy.ParseReturns

/-!
# What the translation of a policy consists of

The elements of the rule lists, without the pods that are noted in them.  For each
function of the translation the set of elements that it adds is given outright, so that
the blocks of a policy, their ports and their peers can be looked at one by one.
-/

namespace KuryrKubernetes.Policy

open KuryrKubernetes.Data
open KuryrKubernetes.Effect

/-- An element of a rule list without its pods. -/
inductive Element where
  | body (body : RuleBody)
  | everything (securityGroupId : String) (direction : Direction)
  | nested (bodies : List RuleBody)

namespace ParsedRule

def element : ParsedRule → Element
  | rule body _ => .body body
  | everything securityGroupId direction => .everything securityGroupId direction
  | nested bodies => .nested bodies

@[simp]
theorem element_settle (matchedPods : PodsOfPorts) (rule : ParsedRule) :
    (rule.settle matchedPods).element = rule.element := by
  cases rule <;> rfl

theorem element_of_same {matchedPods : PodsOfPorts} {rule other : ParsedRule}
    (same : rule.same matchedPods other) : rule.element = other.element := by
  cases rule with
  | rule body pods =>
      cases other with
      | rule otherBody otherPods =>
          have equal : body = otherBody := (of_decide_eq_true same).1
          rw [equal]
          rfl
      | everything id direction => cases same
      | nested bodies => cases same
  | everything id direction =>
      cases other with
      | rule otherBody otherPods => cases same
      | everything otherId otherDirection =>
          rcases of_decide_eq_true same with ⟨rfl, rfl⟩
          rfl
      | nested bodies => cases same
  | nested bodies =>
      cases other with
      | rule otherBody otherPods => cases same
      | everything otherId otherDirection => cases same
      | nested others =>
          have equal : bodies = others := of_decide_eq_true same
          rw [equal]

end ParsedRule

/-- The elements of a rule list. -/
def elements : List ParsedRule → Set Element :=
  readings ParsedRule.element

/-- What a part of the translation adds to the rule list. -/
def AddsElements {α : Type} (program : ParseM α) (added : Set Element) : Prop :=
  Adds ParsedRule.element program added

theorem adds_append_rule (rule : ParsedRule) : AddsElements (append rule) {rule.element} := by
  apply (adds_append [rule]).congr
  rw [readings_cons, readings_nil, Set.union_empty]

theorem adds_extend (bodies : List RuleBody) :
    AddsElements (extend bodies) {element | ∃ body ∈ bodies, element = .body body} := by
  apply (adds_append (bodies.map RuleBody.parsed)).congr
  ext element
  simp [readings, RuleBody.parsed, ParsedRule.element, eq_comm]

theorem adds_appendNew (matchedPods : PodsOfPorts) (rule : ParsedRule) :
    AddsElements (appendNew matchedPods rule) {rule.element} := by
  apply adds_modify
  intro rules
  split
  · rename_i present
    rcases List.any_eq_true.mp present with ⟨other, listed, same⟩
    have known : rule.element ∈ readings ParsedRule.element rules := by
      rw [← ParsedRule.element_of_same same]
      exact mem_readings listed
    rw [Set.union_eq_self_of_subset_right (Set.singleton_subset_iff.mpr known)]
  · simp

namespace Translation

variable (translation : Translation)

/-! ## Rules for services -/

/-- The rules for the services of a resource. -/
def svcElements (resource : Option Resource) (port : Option Nat) (protocol : Option Protocol) :
    Set Element :=
  {element | translation.direction = .egress ∧
    ∃ bodies, translation.createSvcEgressSgRule resource port protocol = .ok bodies ∧
      ∃ body ∈ bodies, element = .body body}

/-- However the rules are read, for `egress` those for the services are added. -/
theorem extendSvcRules_adds_readings {γ : Type} {read : ParsedRule → γ}
    (resource : Option Resource) (port : Option Nat) (protocol : Option Protocol) :
    Adds read (translation.extendSvcRules resource port protocol)
      {reading | translation.direction = .egress ∧
        ∃ bodies, translation.createSvcEgressSgRule resource port protocol = .ok bodies ∧
          ∃ body ∈ bodies, reading = read body.parsed} := by
  unfold extendSvcRules
  split
  · rename_i ingress
    apply (adds_pure PUnit.unit).congr
    ext reading
    simp [ingress]
  · rename_i egress
    apply Adds.settle_bind
    intro bodies made
    apply (adds_append (bodies.map RuleBody.parsed)).congr
    ext reading
    simp [readings, egress, made, eq_comm]

theorem extendSvcRules_adds (resource : Option Resource) (port : Option Nat)
    (protocol : Option Protocol) :
    AddsElements (translation.extendSvcRules resource port protocol)
      (translation.svcElements resource port protocol) :=
  translation.extendSvcRules_adds_readings resource port protocol

/-! ## Resources -/

/-- However the rules are read, the details of a resource add none. -/
theorem getResourceDetails_adds {γ : Type} {read : ParsedRule → γ} (resource : Resource) :
    Adds read (translation.getResourceDetails resource) ∅ := by
  cases resource with
  | pod pod => exact adds_pure _
  | cidr cidr => exact adds_pure _
  | namespaceObj namespaceObj =>
      simp only [getResourceDetails]
      split
      · exact adds_pure _
      · exact adds_throw _ _

/-- The details that are got are those of the resource. -/
theorem details_of_getResourceDetails {resource : Resource} {before after : List ParsedRule}
    {found : Option String × Option String}
    (ran : exec (translation.getResourceDetails resource) before = (.ok found, after)) :
    found = translation.details resource := by
  cases resource with
  | pod pod =>
      cases ran
      rfl
  | cidr cidr =>
      cases ran
      rfl
  | namespaceObj namespaceObj =>
      simp only [getResourceDetails] at ran
      cases address : namespaceObj.subnetCidr with
      | none =>
          rw [address] at ran
          cases ran
      | some cidr =>
          rw [address] at ran
          cases ran
          simp [details, address]

/-- The address in the rules for a resource. -/
def address (resource : Resource) : Option String :=
  (translation.details resource).1

/-- What follows the details of a resource follows its own. -/
theorem adds_of_details {α : Type} {resource : Resource} {added : Set Element}
    {next : Option String × Option String → ParseM α}
    (adds : AddsElements (next (translation.details resource)) added) :
    AddsElements (translation.getResourceDetails resource >>= next) added := by
  apply ((translation.getResourceDetails_adds resource).bind _).congr (Set.empty_union added)
  rintro found ⟨before, after, ran⟩
  rw [translation.details_of_getResourceDetails ran]
  exact adds

/-- The body for an address: for one port, or for all. -/
def bodyOnResource (port : Option (PortNumber × Option Protocol)) (resource : Resource)
    (cidr : String) : RuleBody :=
  match port with
  | some (number, protocol) =>
      translation.body translation.direction (some number.val) none protocol (some cidr)
        (translation.details resource).2
  | none =>
      translation.body translation.direction (some 1) (some 65535) none (some cidr)
        (translation.details resource).2

/-- The rules for a resource that has an address. -/
def resourceElements (port : Option (PortNumber × Option Protocol)) (resource : Resource) :
    Set Element :=
  {element | ∃ cidr ∈ translation.address resource,
    element = .body (translation.bodyOnResource port resource cidr) ∨
      element ∈ translation.svcElements (some resource) (port.map fun given => given.1.val)
        (port.bind Prod.snd)}

theorem createSgRuleOnResource_adds (port : Option (PortNumber × Option Protocol))
    (resource : Resource) :
    AddsElements (translation.createSgRuleOnResource port resource)
      (translation.resourceElements port resource) := by
  apply translation.adds_of_details
  cases located : (translation.details resource).1 with
  | none =>
      apply (adds_pure PUnit.unit).congr
      ext element
      simp [resourceElements, address, located]
  | some cidr =>
      have served (number : Option Nat) (protocol : Option Protocol) (body : RuleBody) :
          AddsElements
            (do
              append body.parsed
              translation.extendSvcRules (some resource) number protocol)
            ({.body body} ∪ translation.svcElements (some resource) number protocol) :=
        (adds_append_rule body.parsed).bind fun _ _ =>
          translation.extendSvcRules_adds (some resource) number protocol
      cases port with
      | none =>
          apply (served none none _).congr
          ext element
          simp [resourceElements, address, located, bodyOnResource]
      | some given =>
          apply (served (some given.1.val) given.2 _).congr
          ext element
          simp [resourceElements, address, located, bodyOnResource]

/-! ## Named ports -/

/-- The body for a container port. -/
def bodyOnTextPort (port : PolicyPort) (containerPort : Nat) (cidr : Option String) : RuleBody :=
  translation.body translation.direction (some containerPort) none port.protocol cidr none

/-- The rules for a resource and a container port of the table. -/
def numberElements (port : PolicyPort) (allowAll : Bool) (resource : Resource)
    (containerPort : Nat) : Set Element :=
  {element | allowAll = false ∧ ∃ cidr ∈ translation.address resource,
    element = .body (translation.bodyOnTextPort port containerPort (some cidr)) ∨
      element ∈ translation.svcElements (some resource) (some containerPort) port.protocol}

/-- What is made for a resource and the numbers of the table. -/
def inTurn {γ : Type} (made : Resource → Nat → Set γ) (resource : Resource)
    (matchedPods : PodsOfPorts) : Set γ :=
  {item | ∃ containerPort ∈ matchedPods.keys, item ∈ made resource containerPort}

/-- What is made in the turns; each of them goes on with the pods that are noted so far. -/
def inTurns {γ : Type} (made : Resource → Nat → Set γ) :
    List (Resource × List (Pod × PortNumber)) → PodsOfPorts → Set γ
  | [], _ => ∅
  | (resource, containerPorts) :: rest, matchedPods =>
      inTurn made resource (translation.notePods containerPorts matchedPods) ∪
        inTurns made rest (translation.notePods containerPorts matchedPods)

theorem createSgRulesWithContainerPorts_adds (port : PolicyPort) (allowAll : Bool)
    (resource : Resource) (containerPorts : List (Pod × PortNumber)) (matchedPods : PodsOfPorts) :
    AddsElements
      (translation.createSgRulesWithContainerPorts port allowAll resource containerPorts
        matchedPods)
      (inTurn (translation.numberElements port allowAll) resource
        (translation.notePods containerPorts matchedPods)) := by
  apply translation.adds_of_details
  dsimp only
  generalize translation.notePods containerPorts matchedPods = noted
  split
  · rename_i cidr located
    have loop := Adds.forM fun containerPort (_ : containerPort ∈ noted.keys) =>
      (adds_appendNew noted (.rule (translation.bodyOnTextPort port containerPort (some cidr))
        (.shared containerPort))).bind fun _ _ =>
          translation.extendSvcRules_adds (some resource) (some containerPort) port.protocol
    apply (loop.bind fun _ _ => adds_pure noted).congr
    ext element
    simp [inTurn, numberElements, address, located, ParsedRule.element]
  · rename_i closed
    apply (adds_pure noted).congr
    ext element
    simp only [Set.mem_empty_iff_false, inTurn, numberElements, Set.mem_ofPred_eq, false_iff]
    rintro ⟨_, _, some_, cidr, located, _⟩
    exact closed cidr located some_

/-- The pods that a turn leaves are those that it noted. -/
theorem noted_of_createSgRulesWithContainerPorts {port : PolicyPort} {allowAll : Bool}
    {resource : Resource} {containerPorts : List (Pod × PortNumber)}
    {matchedPods noted : PodsOfPorts} {before after : List ParsedRule}
    (ran : exec (translation.createSgRulesWithContainerPorts port allowAll resource containerPorts
      matchedPods) before = (.ok noted, after)) :
    noted = translation.notePods containerPorts matchedPods := by
  rcases exec_bind_eq_ok ran with ⟨found, middle, _, ended⟩
  dsimp only at ended
  split at ended
  · rcases exec_bind_eq_ok ended with ⟨_, _, _, final⟩
    cases final
    rfl
  · cases ended
    rfl

theorem createSgRulesOnTurns_adds (port : PolicyPort) (allowAll : Bool)
    (turns : List (Resource × List (Pod × PortNumber))) (matchedPods : PodsOfPorts) :
    AddsElements (translation.createSgRulesOnTurns port allowAll turns matchedPods)
      (translation.inTurns (translation.numberElements port allowAll) turns matchedPods) := by
  induction turns generalizing matchedPods with
  | nil => exact adds_pure matchedPods
  | cons turn rest ih =>
      rcases turn with ⟨resource, containerPorts⟩
      apply (translation.createSgRulesWithContainerPorts_adds port allowAll resource
        containerPorts matchedPods).bind
      rintro noted ⟨before, after, ran⟩
      rw [translation.noted_of_createSgRulesWithContainerPorts ran]
      exact ih _

/-- The pods that the turns leave are those that they noted. -/
theorem noted_of_createSgRulesOnTurns {port : PolicyPort} {allowAll : Bool}
    {turns : List (Resource × List (Pod × PortNumber))} {matchedPods noted : PodsOfPorts}
    {before after : List ParsedRule}
    (ran : exec (translation.createSgRulesOnTurns port allowAll turns matchedPods) before =
      (.ok noted, after)) :
    noted = translation.notedPods turns matchedPods := by
  induction turns generalizing matchedPods before with
  | nil =>
      cases ran
      rfl
  | cons turn rest ih =>
      rcases exec_bind_eq_ok ran with ⟨first, middle, started, ended⟩
      rw [translation.noted_of_createSgRulesWithContainerPorts started] at ended
      exact ih ended

/-- The rules of a named port for everyone. -/
def everyoneOnTextPort (port : PolicyPort) (matchedPods : PodsOfPorts) : Set Element :=
  {element | (∃ containerPort ∈ matchedPods.keys,
      element = .body (translation.bodyOnTextPort port containerPort none)) ∨
    ∃ last ∈ matchedPods.items.getLast?,
      element ∈ translation.svcElements none (some last.1) port.protocol}

/-- The rules of a named port. -/
def textPortElements (port : PolicyPort) (resources : List Resource) (allowAll : Bool) :
    Set Element :=
  translation.inTurns (translation.numberElements port allowAll)
      (translation.textPortTurns port resources) ∅ ∪
    {element | allowAll = true ∧
      element ∈ translation.everyoneOnTextPort port (translation.podsOfTextPort port resources)}

theorem createSgRuleBodyOnTextPort_adds (port : PolicyPort) (resources : List Resource)
    (allowAll : Bool) :
    AddsElements (translation.createSgRuleBodyOnTextPort port resources allowAll)
      (translation.textPortElements port resources allowAll) := by
  apply (translation.createSgRulesOnTurns_adds port allowAll _ ∅).bind
  rintro noted ⟨before, after, ran⟩
  have settled : AddsElements
      (modify fun rules => rules.map (·.settle noted) : ParseM PUnit) ∅ := by
    apply adds_modify
    intro rules
    rw [readings_map (ParsedRule.element_settle noted), Set.union_empty]
  have found : noted = translation.podsOfTextPort port resources :=
    translation.noted_of_createSgRulesOnTurns ran
  rw [← found]
  generalize noted = pods at settled
  have keyed : ∀ containerPort, containerPort ∈ pods.keys ↔
      ∃ item ∈ pods.items, item.1 = containerPort := by
    intro containerPort
    rw [Dict.keys, List.mem_map]
  cases allowAll with
  | false =>
      apply (settled.bind fun _ _ => adds_pure PUnit.unit).congr
      ext element
      simp
  | true =>
      have loop := Adds.forM fun item (_ : item ∈ pods.items) =>
        adds_append_rule (.rule (translation.bodyOnTextPort port item.1 none) (.settled item.2))
      have followed (services : Set Element) {program : ParseM PUnit}
          (serves : AddsElements program services) :=
        settled.bind fun _ _ => loop.bind fun _ _ => serves
      apply (followed {element | ∃ last ∈ pods.items.getLast?,
        element ∈ translation.svcElements none (some last.1) port.protocol} _).congr
      · ext element
        simp only [Set.empty_union, Set.mem_union, Set.mem_ofPred_eq, everyoneOnTextPort, true_and,
          keyed, ParsedRule.element, Set.mem_singleton_iff]
        constructor
        · rintro (⟨item, listed, same⟩ | last)
          · exact .inl ⟨item.1, ⟨item, listed, rfl⟩, same⟩
          · exact .inr last
        · rintro (⟨containerPort, ⟨item, listed, rfl⟩, same⟩ | last)
          · exact .inl ⟨item, listed, same⟩
          · exact .inr last
      · split
        · rename_i ingress
          apply (adds_pure PUnit.unit).congr
          ext element
          simp [svcElements, ingress]
        · exact adds_throw _ _
        · rename_i containerPort _ _ bound
          apply (translation.extendSvcRules_adds none (some containerPort) port.protocol).congr
          ext element
          simp [bound]

/-! ## Ports -/

/-- The rules of a port for everyone. -/
def allPodsElements (port : PolicyPort) : Set Element :=
  match port.port with
  | some (.number number) =>
      {.body (translation.body translation.direction (some number.val) none port.protocol
          none none)} ∪
        translation.svcElements none (some number.val) port.protocol
  | _ => translation.textPortElements port (translation.cluster.pods.map .pod) true

theorem createAllPodsSgRules_adds (port : PolicyPort) :
    AddsElements (translation.createAllPodsSgRules port) (translation.allPodsElements port) := by
  unfold createAllPodsSgRules allPodsElements
  rcases port.port with _ | number | name
  · exact translation.createSgRuleBodyOnTextPort_adds port _ true
  · exact (adds_append_rule _).bind fun _ _ =>
      translation.extendSvcRules_adds none (some number.val) port.protocol
  · exact translation.createSgRuleBodyOnTextPort_adds port _ true

/-- The rules of a port for some resources. -/
def onPortElements (resources : List Resource) (port : PolicyPort) : Set Element :=
  match port.port with
  | some (.number number) =>
      {element | ∃ resource ∈ resources,
        element ∈ translation.resourceElements (some (number, port.protocol)) resource}
  | _ => translation.textPortElements port resources false

theorem createSgRulesOnPort_adds (resources : List Resource) (port : PolicyPort) :
    AddsElements (translation.createSgRulesOnPort resources port)
      (translation.onPortElements resources port) := by
  unfold createSgRulesOnPort onPortElements
  rcases port.port with _ | number | name
  · exact translation.createSgRuleBodyOnTextPort_adds port resources false
  · exact Adds.forM fun resource _ => translation.createSgRuleOnResource_adds _ resource
  · exact translation.createSgRuleBodyOnTextPort_adds port resources false

/-- The block is for someone in particular. -/
def restricts (block : RuleBlock) (resources : List Resource) : Bool :=
  !resources.isEmpty || allowsAll block || hasSelectors block

/-- The rules of one port of a block. -/
def portElements (block : RuleBlock) (resources : List Resource) (port : PolicyPort) :
    Set Element :=
  {element | restricts block resources = true ∧
      element ∈ translation.onPortElements resources port ∨
    (restricts block resources = false ∨ allowsAll block = true) ∧
      element ∈ translation.allPodsElements port}

theorem parsePort_adds (block : RuleBlock) (resources : List Resource) (port : PolicyPort) :
    AddsElements (translation.parsePort block resources port)
      (translation.portElements block resources port) := by
  unfold parsePort
  change AddsElements (if restricts block resources then _ else _) _
  apply Adds.ite
  · intro restricted
    have also : AddsElements
        (if allowsAll block then translation.createAllPodsSgRules port else pure ⟨⟩)
        {element | allowsAll block = true ∧ element ∈ translation.allPodsElements port} := by
      apply Adds.ite
      · intro everyone
        apply (translation.createAllPodsSgRules_adds port).congr
        simp [everyone]
      · intro someone
        apply (adds_pure PUnit.unit).congr
        simp [someone]
    apply ((translation.createSgRulesOnPort_adds resources port).bind fun _ _ => also).congr
    ext element
    simp [portElements, restricted]
  · intro unrestricted
    apply (translation.createAllPodsSgRules_adds port).congr
    ext element
    have closed : restricts block resources = false := by simpa using unrestricted
    simp [portElements, closed]

/-- The rules of all ports for everyone. -/
def allPortsElements : Set Element :=
  match translation.direction with
  | .ingress =>
      {.body (translation.body .ingress (some 1) (some 65535) none none none)}
  | .egress =>
      let rule := translation.body .egress none none none
        (some translation.cluster.serviceSubnet) none
      {.body rule, .nested [rule]}

theorem createAllPortsSgRule_adds :
    AddsElements translation.createAllPortsSgRule translation.allPortsElements := by
  unfold createAllPortsSgRule allPortsElements
  cases translation.direction with
  | ingress => exact adds_append_rule _
  | egress =>
      apply Adds.settle_bind
      intro bodies made
      cases made
      apply ((adds_extend _).bind fun _ _ => adds_append_rule _).congr
      ext element
      simp [ParsedRule.element, or_comm]

/-- The rules of a block without `ports`. -/
def withoutPortsElements (block : RuleBlock) (resources : List Resource) : Set Element :=
  {element | (∃ resource ∈ resources, element ∈ translation.resourceElements none resource) ∨
    allowsAll block = true ∧ element ∈ translation.allPortsElements}

theorem parseAllPorts_adds (block : RuleBlock) (resources : List Resource) :
    AddsElements (translation.parseAllPorts block resources)
      (translation.withoutPortsElements block resources) := by
  have also : AddsElements
      (if allowsAll block then translation.createAllPortsSgRule else pure ⟨⟩)
      {element | allowsAll block = true ∧ element ∈ translation.allPortsElements} := by
    apply Adds.ite
    · intro everyone
      apply translation.createAllPortsSgRule_adds.congr
      simp [everyone]
    · intro someone
      apply (adds_pure PUnit.unit).congr
      simp [someone]
  exact (Adds.forM fun resource _ => translation.createSgRuleOnResource_adds none resource).bind
    fun _ _ => also

/-! ## Blocks -/

/-- The resources of a block whose selectors gave `selected`. -/
def blockPeers (block : RuleBlock) (selected : List Resource) : List Resource :=
  selected ++ (block.peers.filterMap (·.ipBlock)).flatMap translation.blockResources

/-- The rules of a block for its resources. -/
def elementsOnPeers (block : RuleBlock) (resources : List Resource) : Set Element :=
  match block.ports with
  | some ports => {element | ∃ port ∈ ports, element ∈ translation.portElements block resources port}
  | none => translation.withoutPortsElements block resources

/-- The rules of a block. -/
def blockElements (block : RuleBlock) : Set Element :=
  {element | ∃ selected, translation.selectorResources block.peers = .ok selected ∧
    element ∈ translation.elementsOnPeers block (translation.blockPeers block selected)}

theorem parseBlock_adds (block : RuleBlock) :
    AddsElements (translation.parseBlock block) (translation.blockElements block) := by
  apply Adds.settle_bind
  intro selected found
  have same : translation.elementsOnPeers block (translation.blockPeers block selected) =
      translation.blockElements block := by
    ext element
    simp [blockElements, found]
  rw [← same]
  dsimp only
  unfold elementsOnPeers
  cases block.ports with
  | some ports => exact Adds.forM fun port _ => translation.parsePort_adds block _ port
  | none => exact translation.parseAllPorts_adds block _

end Translation

/-! ## Policies -/

/-- The rule of a policy whose first block is `{}`. -/
def Translation.openElements (translation : Translation) (first : RuleBlock) : Set Element :=
  {element | first = {} ∧
    element = .body (translation.body translation.direction none none none none none)}

theorem parseOpenPolicy_adds (translation : Translation) (first : RuleBlock) :
    AddsElements (parseOpenPolicy translation first) (translation.openElements first) := by
  apply Adds.ite
  · intro bare
    apply (adds_append_rule _).congr
    ext element
    simp [Translation.openElements, bare, RuleBody.parsed, ParsedRule.element]
  · intro filled
    apply (adds_pure PUnit.unit).congr
    ext element
    simp [Translation.openElements, filled]

/-- The rules of a policy that has blocks for the direction. -/
def Translation.policyElements (translation : Translation) (blocks : List RuleBlock) :
    Set Element :=
  {element | (∃ first ∈ blocks.head?, element ∈ translation.openElements first) ∨
    ∃ block ∈ blocks, element ∈ translation.blockElements block}

theorem parseSgRules_adds (translation : Translation) {policy : NetworkPolicy}
    (ruled : policy.spec.blocks translation.direction ≠ []) :
    AddsElements (parseSgRules translation policy)
      (translation.policyElements (policy.spec.blocks translation.direction)) := by
  unfold parseSgRules
  split
  · rename_i empty
    exact absurd empty ruled
  · rename_i first rest blocks
    rw [blocks]
    apply ((parseOpenPolicy_adds translation first).bind fun _ _ =>
      Adds.forM fun block (_ : block ∈ first :: rest) => translation.parseBlock_adds block).congr
    ext element
    simp [Translation.policyElements]

/-- The rules that a policy is translated to are those of its blocks. -/
theorem elements_of_parseSgRules {translation : Translation} {policy : NetworkPolicy}
    (ruled : policy.spec.blocks translation.direction ≠ []) {done : PUnit}
    {rules : List ParsedRule}
    (ran : exec (parseSgRules translation policy) [] = (.ok done, rules)) :
    elements rules = translation.policyElements (policy.spec.blocks translation.direction) := by
  have added := parseSgRules_adds translation ruled [] done rules ran
  rw [readings_nil, Set.empty_union] at added
  exact added

/-- Where a policy is translated, the selectors of its blocks were resolved. -/
theorem selected_of_parseSgRules {translation : Translation} {policy : NetworkPolicy}
    {done : PUnit} {before rules : List ParsedRule}
    (ran : exec (parseSgRules translation policy) before = (.ok done, rules)) {block : RuleBlock}
    (listed : block ∈ policy.spec.blocks translation.direction) :
    ∃ selected, translation.selectorResources block.peers = .ok selected := by
  unfold parseSgRules at ran
  cases blocks : policy.spec.blocks translation.direction with
  | nil =>
      rw [blocks] at listed
      cases listed
  | cons first rest =>
      rw [blocks] at ran listed
      rcases exec_bind_eq_ok ran with ⟨_, _, _, loop⟩
      rcases turn_returns_of_forM loop block listed with ⟨start, result, ended, turn⟩
      rcases exec_bind_eq_ok turn with ⟨selected, _, resolved, _⟩
      cases found : translation.selectorResources block.peers with
      | ok selected => exact ⟨selected, rfl⟩
      | error exception =>
          rw [found] at resolved
          cases resolved

end KuryrKubernetes.Policy

import KuryrKubernetes.Policy.BlockReturns

/-!
# The shape of a translated policy

All rule bodies that the translation of a policy appends are for the security group
and the direction that it was called with, and all but one of the appended elements are
rule bodies.  With the condition under which it returns this is the whole outcome of
`parse_network_policy_rules`.
-/

namespace KuryrKubernetes.Policy

open KuryrKubernetes.Data
open KuryrKubernetes.Effect

/-- A rule body for a security group and a direction. -/
def ParsedRule.For (rule : ParsedRule) (securityGroupId : String) (direction : Direction) : Prop :=
  match rule with
  | .rule body _ => body.rule.securityGroupId = securityGroupId ∧ body.rule.direction = direction
  | .everything id towards => id = securityGroupId ∧ towards = direction
  | .nested _ => False

namespace Translation

variable (translation : Translation)

/-- The rule list stays one of the right group and direction. -/
def shaped : Frame (List ParsedRule) :=
  Frame.stable fun rules =>
    ∀ rule ∈ rules, rule.For translation.securityGroupId translation.direction

theorem for_body (portRangeMin portRangeMax : Option Nat) (protocol : Option Protocol)
    (cidr namespaceName : Option String) (pods : RemotePods) :
    (ParsedRule.rule (translation.body translation.direction portRangeMin portRangeMax protocol
      cidr namespaceName) pods).For translation.securityGroupId translation.direction :=
  ⟨rfl, rfl⟩

variable {translation}

theorem shaped_extend {bodies : List RuleBody}
    (fits : ∀ body ∈ bodies,
      body.parsed.For translation.securityGroupId translation.direction) :
    translation.shaped.Keeps (extend bodies) := by
  apply Frame.keeps_modify
  intro before shaped rule member
  rcases List.mem_append.mp member with old | new
  · exact shaped rule old
  · rcases List.mem_map.mp new with ⟨body, listed, rfl⟩
    exact fits body listed

theorem shaped_append {rule : ParsedRule}
    (fits : rule.For translation.securityGroupId translation.direction) :
    translation.shaped.Keeps (append rule) := by
  apply Frame.keeps_modify
  intro before shaped other member
  rcases List.mem_append.mp member with old | new
  · exact shaped other old
  · rw [List.mem_singleton.mp new]
    exact fits

theorem shaped_appendNew {matchedPods : PodsOfPorts} {rule : ParsedRule}
    (fits : rule.For translation.securityGroupId translation.direction) :
    translation.shaped.Keeps (appendNew matchedPods rule) := by
  apply Frame.keeps_modify
  intro before shaped other member
  split at member
  · exact shaped other member
  · rcases List.mem_append.mp member with old | new
    · exact shaped other old
    · rw [List.mem_singleton.mp new]
      exact fits

theorem shaped_settle (matchedPods : PodsOfPorts) :
    translation.shaped.Keeps
      (modify fun rules => rules.map (·.settle matchedPods) : ParseM PUnit) := by
  apply Frame.keeps_modify
  intro before shaped rule member
  obtain ⟨old, listed, rfl⟩ := List.mem_map.mp member
  have fits := shaped old listed
  cases old with
  | rule body pods => exact fits
  | everything id direction => exact fits
  | nested bodies => exact fits

/-! ## Rules for services -/

theorem for_of_createSvcEgressSgRule {resource : Option Resource} {port : Option Nat}
    {protocol : Option Protocol} {rules : List RuleBody}
    (made : translation.createSvcEgressSgRule resource port protocol = .ok rules) :
    ∀ rule ∈ rules, rule.parsed.For translation.securityGroupId .egress := by
  cases resource with
  | none =>
      cases made
      intro rule member
      rw [List.mem_singleton.mp member]
      exact ⟨rfl, rfl⟩
  | some resource =>
      intro rule member
      rcases (mem_svcRules_iff made rule).mp member with ⟨_, _, _, _, _, rfl⟩
      exact ⟨rfl, rfl⟩

theorem shaped_extendSvcRules (resource : Option Resource) (port : Option Nat)
    (protocol : Option Protocol) :
    translation.shaped.Keeps (translation.extendSvcRules resource port protocol) := by
  unfold extendSvcRules
  split
  · exact Frame.keeps_pure _
  · rename_i egress
    apply Frame.Keeps.settle_bind
    intro rules made
    apply shaped_extend
    rw [egress]
    exact for_of_createSvcEgressSgRule made

/-! ## Rules for resources -/

theorem shaped_getResourceDetails (resource : Resource) :
    translation.shaped.Keeps (translation.getResourceDetails resource) := by
  cases resource with
  | pod pod => exact Frame.keeps_pure _
  | cidr cidr => exact Frame.keeps_pure _
  | namespaceObj namespaceObj =>
      cases found : namespaceObj.subnetCidr with
      | some cidr =>
          simp only [getResourceDetails, found]
          exact Frame.keeps_pure _
      | none =>
          simp only [getResourceDetails, found]
          exact Frame.keeps_throw _

theorem shaped_createSgRuleOnResource (port : Option (PortNumber × Option Protocol))
    (resource : Resource) :
    translation.shaped.Keeps (translation.createSgRuleOnResource port resource) := by
  unfold createSgRuleOnResource
  apply (shaped_getResourceDetails resource).bind
  intro details
  split
  · exact Frame.keeps_pure _
  · split
    · apply (shaped_append (for_body translation _ _ _ _ _ _)).bind
      intro _
      exact shaped_extendSvcRules _ _ _
    · apply (shaped_append (for_body translation _ _ _ _ _ _)).bind
      intro _
      exact shaped_extendSvcRules _ _ _

theorem shaped_createSgRulesWithContainerPorts (port : PolicyPort) (allowAll : Bool)
    (resource : Resource) (containerPorts : List (Pod × PortNumber))
    (matchedPods : PodsOfPorts) :
    translation.shaped.Keeps
      (translation.createSgRulesWithContainerPorts port allowAll resource containerPorts
        matchedPods) := by
  unfold createSgRulesWithContainerPorts
  apply (shaped_getResourceDetails resource).bind
  intro details
  dsimp only
  split
  · apply Frame.Keeps.bind
    · apply Frame.Keeps.forM
      intro containerPort _
      apply (shaped_appendNew (for_body translation _ _ _ _ _ _)).bind
      intro _
      exact shaped_extendSvcRules _ _ _
    · intro _
      exact Frame.keeps_pure _
  · exact Frame.keeps_pure _

theorem shaped_createSgRulesOnTurns (port : PolicyPort) (allowAll : Bool)
    (turns : List (Resource × List (Pod × PortNumber))) (matchedPods : PodsOfPorts) :
    translation.shaped.Keeps
      (translation.createSgRulesOnTurns port allowAll turns matchedPods) := by
  induction turns generalizing matchedPods with
  | nil => exact Frame.keeps_pure _
  | cons turn rest ih =>
      apply (shaped_createSgRulesWithContainerPorts port allowAll turn.1 turn.2 matchedPods).bind
      intro noted
      exact ih noted

theorem shaped_createSgRuleBodyOnTextPort (port : PolicyPort) (resources : List Resource)
    (allowAll : Bool) :
    translation.shaped.Keeps
      (translation.createSgRuleBodyOnTextPort port resources allowAll) := by
  unfold createSgRuleBodyOnTextPort
  apply (shaped_createSgRulesOnTurns port allowAll _ ∅).bind
  intro noted
  apply (shaped_settle noted).bind
  intro _
  split
  · apply Frame.Keeps.bind
    · apply Frame.Keeps.forM
      intro item _
      exact shaped_append (for_body translation _ _ _ _ _ _)
    · intro _
      split
      · exact Frame.keeps_pure _
      · exact Frame.keeps_throw _
      · exact shaped_extendSvcRules _ _ _
  · exact Frame.keeps_pure _

theorem shaped_createAllPodsSgRules (port : PolicyPort) :
    translation.shaped.Keeps (translation.createAllPodsSgRules port) := by
  unfold createAllPodsSgRules
  split
  · apply (shaped_append (for_body translation _ _ _ _ _ _)).bind
    intro _
    exact shaped_extendSvcRules _ _ _
  · exact shaped_createSgRuleBodyOnTextPort _ _ _

/-! ## Blocks and policies -/

theorem shaped_parsePort (block : RuleBlock) (resources : List Resource) (port : PolicyPort) :
    translation.shaped.Keeps (translation.parsePort block resources port) := by
  unfold parsePort
  split
  · apply Frame.Keeps.bind
    · unfold createSgRulesOnPort
      split
      · exact Frame.Keeps.forM fun resource _ => shaped_createSgRuleOnResource _ resource
      · exact shaped_createSgRuleBodyOnTextPort _ _ _
    · intro _
      apply Frame.Keeps.ite
      · exact shaped_createAllPodsSgRules port
      · exact Frame.keeps_pure _
  · exact shaped_createAllPodsSgRules port

/-- All ports for everyone are shaped for `ingress` only. -/
theorem shaped_createAllPortsSgRule (ingress : translation.direction = .ingress) :
    translation.shaped.Keeps translation.createAllPortsSgRule := by
  unfold createAllPortsSgRule
  rw [ingress]
  apply shaped_append
  rw [ingress]
  exact ⟨rfl, rfl⟩

/-- The block does not bring a list into the rules. -/
def Flat (translation : Translation) (block : RuleBlock) : Prop :=
  translation.direction = .egress → block.ports = none → allowsAll block = false

theorem shaped_parseAllPorts (block : RuleBlock) (resources : List Resource)
    (flat : translation.direction = .egress → allowsAll block = false) :
    translation.shaped.Keeps (translation.parseAllPorts block resources) := by
  unfold parseAllPorts
  apply Frame.Keeps.bind
  · exact Frame.Keeps.forM fun resource _ => shaped_createSgRuleOnResource _ resource
  · intro _
    split
    · rename_i everyone
      apply shaped_createAllPortsSgRule
      cases towards : translation.direction with
      | ingress => rfl
      | egress =>
          rw [flat towards] at everyone
          cases everyone
    · exact Frame.keeps_pure _

theorem shaped_parseBlock (block : RuleBlock) (flat : translation.Flat block) :
    translation.shaped.Keeps (translation.parseBlock block) := by
  unfold parseBlock
  apply Frame.Keeps.settle_bind
  intro selected _
  dsimp only
  split
  · exact Frame.Keeps.forM fun port _ => shaped_parsePort block _ port
  · rename_i all
    exact shaped_parseAllPorts block _ fun egress => flat egress all

end Translation

theorem shaped_parseSgRules (translation : Translation) (policy : NetworkPolicy)
    (flat : ∀ block ∈ policy.spec.blocks translation.direction, translation.Flat block) :
    translation.shaped.Keeps (parseSgRules translation policy) := by
  unfold parseSgRules
  split
  · unfold parseNoRules
    split
    · exact Frame.keeps_throw _
    · rename_i ingress _
      apply Frame.Keeps.ite
      · exact Translation.shaped_append ⟨rfl, ingress.symm⟩
      · exact Frame.keeps_pure _
    · exact Frame.keeps_pure _
    · rename_i egress _
      apply Frame.Keeps.ite
      · exact Translation.shaped_append ⟨rfl, egress.symm⟩
      · exact Frame.keeps_pure _
  · rename_i first rest blocks
    rw [blocks] at flat
    apply Frame.Keeps.bind
    · apply Frame.Keeps.ite
      · exact Translation.shaped_append (Translation.for_body translation _ _ _ _ _ _)
      · exact Frame.keeps_pure _
    · intro _
      exact Frame.Keeps.forM fun block listed =>
        Translation.shaped_parseBlock block (flat block listed)

/-- The rules of one direction of a policy are for its group and that direction. -/
theorem for_of_parseSgRules {translation : Translation} {policy : NetworkPolicy}
    (flat : ∀ block ∈ policy.spec.blocks translation.direction, translation.Flat block) :
    ∀ rule ∈ (exec (parseSgRules translation policy) []).2,
      rule.For translation.securityGroupId translation.direction :=
  shaped_parseSgRules translation policy flat [] (by simp)

/-- Where there is no list among the rules, no block brings one. -/
theorem flat_of_plain {translation : Translation} {policy : NetworkPolicy} {done : PUnit}
    {rules : List ParsedRule}
    (ran : exec (parseSgRules translation policy) [] = (.ok done, rules))
    (plain : ∀ bodies, ParsedRule.nested bodies ∉ rules) :
    ∀ block ∈ policy.spec.blocks translation.direction, translation.Flat block := by
  intro block listed egress all
  by_contra everyone
  have open_ : Translation.allowsAll block = true := by simpa using everyone
  rcases selected_of_parseSgRules ran listed with ⟨selected, found⟩
  have made := elements_of_parseSgRules (List.ne_nil_of_mem listed) ran
  let rule := translation.body .egress none none none
    (some translation.cluster.serviceSubnet) none
  have member : Element.nested [rule] ∈ elements rules := by
    rw [made]
    right
    refine ⟨block, listed, selected, found, ?_⟩
    simp only [Translation.elementsOnPeers, all]
    right
    constructor
    · exact open_
    · simp [Translation.allPortsElements, egress, rule]
  rcases member with ⟨element, member, same⟩
  cases element with
  | rule body pods => cases same
  | everything id direction => cases same
  | nested bodies => exact plain bodies member

/-- Rules without a list among them are for their group and direction. -/
theorem for_of_plain {translation : Translation} {policy : NetworkPolicy} {done : PUnit}
    {rules : List ParsedRule}
    (ran : exec (parseSgRules translation policy) [] = (.ok done, rules))
    (plain : ∀ bodies, ParsedRule.nested bodies ∉ rules) :
    ∀ rule ∈ rules, rule.For translation.securityGroupId translation.direction := by
  have shaped := for_of_parseSgRules (flat_of_plain ran plain)
  rw [ran] at shaped
  exact shaped

/-! ## The whole outcome -/

/-- The pods that are not skipped are those that the policy is not enforced on. -/
theorem portFound_iff (cluster : Cluster) (text : AddressText) (policy : NetworkPolicy)
    (securityGroupId : String) (port : PolicyPort) :
    (policy.translation cluster text securityGroupId .egress).PortFound port ↔
      policy.PortFound cluster port := by
  unfold Translation.PortFound NetworkPolicy.PortFound Translation.skips
  simp only [NetworkPolicy.translation, true_and, decide_eq_false_iff_not]

/-- The conditions of both directions are those on the policy. -/
theorem translatable_iff (cluster : Cluster) (text : AddressText) (policy : NetworkPolicy)
    (securityGroupId : String) :
    policy.Translatable cluster text ↔
      ((policy.spec.ingress = [] → policy.policyTypes ≠ none) ∧
        ∀ block ∈ policy.spec.egress,
          (policy.translation cluster text securityGroupId .egress).BlockFits block) ∧
      ∀ block ∈ policy.spec.egress,
        (policy.translation cluster text securityGroupId .egress).Flat block := by
  unfold Translation.BlockFits Translation.Flat
  simp only [portFound_iff]
  constructor
  · intro translatable
    refine ⟨⟨translatable.policyTypes, ?_⟩, ?_⟩
    · intro block listed
      exact ⟨translatable.namedPorts block listed, translatable.ipBlocks block listed⟩
    · intro block listed _
      exact translatable.allPorts block listed
  · rintro ⟨⟨typed, fits⟩, flat⟩
    constructor
    · exact typed
    · intro block listed
      exact flat block listed rfl
    · intro block listed
      exact (fits block listed).1
    · intro block listed
      exact (fits block listed).2

/-- Both directions have to return. -/
theorem parseNetworkPolicyRules_eq_ok_iff (cluster : Cluster) (text : AddressText)
    (policy : NetworkPolicy) (securityGroupId : String) (ingress egress : List ParsedRule) :
    parseNetworkPolicyRules cluster text policy securityGroupId = .ok (ingress, egress) ↔
      (∃ done, exec (parseSgRules (policy.translation cluster text securityGroupId .ingress)
        policy) [] = (.ok done, ingress)) ∧
      ∃ done, exec (parseSgRules (policy.translation cluster text securityGroupId .egress)
        policy) [] = (.ok done, egress) := by
  unfold parseNetworkPolicyRules
  dsimp only
  rcases exec (parseSgRules (policy.translation cluster text securityGroupId .ingress) policy) []
    with ⟨first, ingressRules⟩
  rcases exec (parseSgRules (policy.translation cluster text securityGroupId .egress) policy) []
    with ⟨second, egressRules⟩
  cases first <;> cases second <;> simp

/-- The translation of a policy returns exactly for the policies that are translatable,
and what it returns are rule bodies of the group, each in the list of its direction. -/
theorem parse_network_policy_rules_iff (cluster : Cluster) (text : AddressText)
    (policy : NetworkPolicy) (securityGroupId : String) (ready : cluster.Ready)
    (known : (cluster.getNamespace policy.namespaceName).isSome) :
    (∃ ingress egress,
        parseNetworkPolicyRules cluster text policy securityGroupId = .ok (ingress, egress) ∧
          (∀ rule ∈ ingress, rule.For securityGroupId .ingress) ∧
          ∀ rule ∈ egress, rule.For securityGroupId .egress) ↔
      policy.Translatable cluster text := by
  have returns (direction : Direction) :=
    (@parseSgRules_gives (policy.translation cluster text securityGroupId direction) ready known
      policy).exists_ok_iff []
  have inward := returns .ingress
  have outward := returns .egress
  have ingressIs : (policy.translation cluster text securityGroupId .ingress).direction =
      .ingress := rfl
  have egressIs : (policy.translation cluster text securityGroupId .egress).direction =
      .egress := rfl
  simp only [ingressIs, egressIs, reduceCtorEq, false_implies, true_implies, and_true,
    true_and] at inward outward
  rw [translatable_iff cluster text policy securityGroupId, ← inward, ← outward]
  constructor
  · rintro ⟨ingress, egress, parsed, _, shaped⟩
    obtain ⟨⟨first, ran⟩, second, ranToo⟩ :=
      (parseNetworkPolicyRules_eq_ok_iff _ _ _ _ _ _).mp parsed
    constructor
    · exact ⟨⟨first, ingress, ran⟩, second, egress, ranToo⟩
    · apply flat_of_plain ranToo
      intro bodies member
      exact shaped _ member
  · rintro ⟨⟨⟨first, ingress, ran⟩, second, egress, ranToo⟩, flat⟩
    refine ⟨ingress, egress, ?_, ?_, ?_⟩
    · exact (parseNetworkPolicyRules_eq_ok_iff _ _ _ _ _ _).mpr ⟨⟨first, ran⟩, second, ranToo⟩
    · have shaped := @for_of_parseSgRules
        (policy.translation cluster text securityGroupId .ingress) policy fun _ _ => nofun
      rw [ran] at shaped
      exact shaped
    · have shaped := @for_of_parseSgRules
        (policy.translation cluster text securityGroupId .egress) policy flat
      rw [ranToo] at shaped
      exact shaped

namespace Web

/-- `default` with one pod that has no port `http`. -/
def cluster : Cluster where
  pods := [{ name := "client", namespaceName := "default", uid := "1" }]
  namespaces := [{ name := "default", subnetCidr := some "10.0.0.0/24" }]

/-- No address is looked at. -/
def text : AddressText where
  contains _ _ := some false
  exclude cidr _ := [cidr]

/-- Port `http` is open in one direction, to the pods of all namespaces. -/
def policy (direction : Direction) : NetworkPolicy where
  name := "web"
  namespaceName := "default"
  spec :=
    let block : RuleBlock :=
      { peers := [{ namespaceSelector := some {} }]
        ports := some [{ port := some (.name "http") }] }
    match direction with
    | .ingress => { ingress := [block] }
    | .egress => { egress := [block] }
  policyTypes := some [.ingress, .egress]

end Web

/-- A policy for `ingress` is translated, although nothing has the port. -/
theorem parse_network_policy_rules_returns_for_web :
    ∃ ingress egress,
      parseNetworkPolicyRules Web.cluster Web.text (Web.policy .ingress) "sg" =
          .ok (ingress, egress) ∧
        (∀ rule ∈ ingress, rule.For "sg" .ingress) ∧ ∀ rule ∈ egress, rule.For "sg" .egress := by
  have ready : Web.cluster.Ready := by
    intro namespaceObj listed
    rw [List.mem_singleton.mp listed]
    rfl
  have translatable : (Web.policy .ingress).Translatable Web.cluster Web.text :=
    { policyTypes := by rintro ⟨⟩
      allPorts := by rintro block ⟨⟩
      namedPorts := by rintro block ⟨⟩
      ipBlocks := by rintro block ⟨⟩ }
  exact (parse_network_policy_rules_iff Web.cluster Web.text (Web.policy .ingress) "sg" ready
    (by decide)).mpr translatable

/-- The same policy for `egress` is not: after the loop over the pods there is no
`container_port`. -/
theorem parse_network_policy_rules_raises :
    Web.cluster.Ready ∧ (Web.cluster.getNamespace "default").isSome ∧
      parseNetworkPolicyRules Web.cluster Web.text (Web.policy .egress) "sg" =
        .error (.other "UnboundLocalError") := by
  refine ⟨?_, by decide, by rfl⟩
  intro namespaceObj listed
  rw [List.mem_singleton.mp listed]
  rfl

end KuryrKubernetes.Policy

import KuryrKubernetes.Policy.TextPorts

/-!
# Where the blocks of a policy are translated

Whether the translation returns is decided block by block, and in a block resource by
resource: for each of them there are details, and the services can be compared with it.
Neither the order of the blocks nor that of the resources makes a difference.
-/

namespace KuryrKubernetes.Policy

open KuryrKubernetes.Data
open KuryrKubernetes.Effect

namespace Translation

variable {translation : Translation}

/-! ## Resources -/

variable (translation) in
/-- The rules for a resource can be made. -/
def Usable (resource : Resource) : Prop :=
  Ready resource ∧ (translation.direction = .egress → translation.Scannable resource)

/-- What follows the details of a resource returns only where there are details. -/
theorem gives_of_details {α : Type} {resource : Resource} {condition : Prop} {value : α}
    {next : Option String × Option String → ParseM α}
    (gives : Ready resource →
      Gives (translation.getResourceDetails resource >>= next) condition value) :
    Gives (translation.getResourceDetails resource >>= next) (Ready resource ∧ condition)
      value := by
  by_cases ready : Ready resource
  · apply (gives ready).congr
    rw [and_iff_right ready]
  · cases resource with
    | pod pod => exact absurd trivial ready
    | cidr cidr => exact absurd trivial ready
    | namespaceObj namespaceObj =>
        have missing : namespaceObj.subnetCidr = none := by simpa [Ready] using ready
        have raises : translation.getResourceDetails (.namespaceObj namespaceObj) =
            throw .resourceNotReady := by
          rw [getResourceDetails, missing]
        intro state
        rw [raises, exec_throw_bind]
        constructor
        · intro both
          exact absurd both.1 ready
        · intro _
          exact ⟨_, state, rfl⟩

theorem createSgRuleOnResource_gives_usable (port : Option (PortNumber × Option Protocol))
    (resource : Resource) :
    Gives (translation.createSgRuleOnResource port resource) (translation.Usable resource) ⟨⟩ :=
  gives_of_details fun ready => createSgRuleOnResource_gives port ready

/-! ## Named ports -/

/-- The turns are over the same resources in any order of these. -/
theorem textPortTurns_perm {resources others : List Resource} (same : resources.Perm others)
    (port : PolicyPort) :
    (translation.textPortTurns port resources).Perm (translation.textPortTurns port others) := by
  unfold textPortTurns
  split
  · apply List.Perm.flatMap_left
    intro pod _
    exact same.map _
  · exact same.filterMap _

theorem createSgRulesOnTurns_gives_ready (port : PolicyPort) (allowAll : Bool)
    {turns : List (Resource × List (Pod × PortNumber))}
    (scannable : ∀ turn ∈ turns, translation.direction = .egress →
      translation.Scannable turn.1) (matchedPods : PodsOfPorts) :
    Gives (translation.createSgRulesOnTurns port allowAll turns matchedPods)
      (∀ turn ∈ turns, Ready turn.1) (translation.notedPods turns matchedPods) := by
  induction turns generalizing matchedPods with
  | nil =>
      apply (gives_pure matchedPods).congr
      simp
  | cons turn rest ih =>
      have first : Gives
          (translation.createSgRulesWithContainerPorts port allowAll turn.1 turn.2 matchedPods)
          (Ready turn.1 ∧ True) (translation.notePods turn.2 matchedPods) :=
        gives_of_details fun ready =>
          createSgRulesWithContainerPorts_gives translation port allowAll ready
            (scannable turn List.mem_cons_self) turn.2 matchedPods
      have others := ih (fun other member => scannable other (List.mem_cons_of_mem turn member))
        (translation.notePods turn.2 matchedPods)
      apply (first.bind others).congr
      rw [and_true, List.forall_mem_cons]

theorem createSgRuleBodyOnTextPort_gives_ready (port : PolicyPort) (resources : List Resource) :
    Gives (translation.createSgRuleBodyOnTextPort port resources false)
      (∀ turn ∈ translation.textPortTurns port resources, Ready turn.1) ⟨⟩ := by
  have turns : Gives
      (translation.createSgRulesOnTurns port false (translation.textPortTurns port resources) ∅)
      (∀ turn ∈ translation.textPortTurns port resources, Ready turn.1)
      (translation.notedPods (translation.textPortTurns port resources) ∅) :=
    createSgRulesOnTurns_gives_ready port false (fun _ listed => scannable_of_mem_textPortTurns listed) ∅
  have settled (noted : PodsOfPorts) : Gives
      (do
        modify fun rules => rules.map (·.settle noted)
        pure ⟨⟩ : ParseM PUnit) True ⟨⟩ := by
    apply ((gives_modify _).bind (gives_pure PUnit.unit)).congr
    rw [and_true]
  apply (turns.bind (settled _)).congr
  rw [and_true]

/-! ## Blocks -/

variable (translation)

/-- The rules of a port for some resources can be made. -/
def PortUsable (resources : List Resource) (port : PolicyPort) : Prop :=
  match port.port with
  | some (.number _) => ∀ resource ∈ resources, translation.Usable resource
  | _ => ∀ turn ∈ translation.textPortTurns port resources, Ready turn.1

/-- The rules of a block for some resources can be made. -/
def PeersUsable (block : RuleBlock) (resources : List Resource) : Prop :=
  match block.ports with
  | none => ∀ resource ∈ resources, translation.Usable resource
  | some ports => ∀ port ∈ ports,
      (restricts block resources = true → translation.PortUsable resources port) ∧
        (restricts block resources = false ∨ allowsAll block = true →
          translation.direction = .egress → port.isText → translation.PortFound port)

/-- The rules of a block can be made. -/
def BlockUsable (block : RuleBlock) : Prop :=
  ∃ selected, translation.selectorResources block.peers = .ok selected ∧
    translation.PeersUsable block (translation.blockPeers block selected)

variable {translation}

theorem createSgRulesOnPort_gives_usable (resources : List Resource) (port : PolicyPort) :
    Gives (translation.createSgRulesOnPort resources port)
      (translation.PortUsable resources port) ⟨⟩ := by
  unfold createSgRulesOnPort PortUsable
  rcases port.port with _ | number | name
  · exact createSgRuleBodyOnTextPort_gives_ready port resources
  · exact Gives.forM fun resource _ => createSgRuleOnResource_gives_usable _ resource
  · exact createSgRuleBodyOnTextPort_gives_ready port resources

theorem parsePort_gives_usable (block : RuleBlock) (resources : List Resource)
    (port : PolicyPort) :
    Gives (translation.parsePort block resources port)
      ((restricts block resources = true → translation.PortUsable resources port) ∧
        (restricts block resources = false ∨ allowsAll block = true →
          translation.direction = .egress → port.isText → translation.PortFound port)) ⟨⟩ := by
  have everyone := createAllPodsSgRules_gives translation port
  unfold parsePort
  change Gives (if restricts block resources then _ else _) _ _
  apply Gives.ite
  · intro restricted
    have also : Gives
        (if allowsAll block then translation.createAllPodsSgRules port else pure ⟨⟩)
        (allowsAll block = true → translation.direction = .egress → port.isText →
          translation.PortFound port) ⟨⟩ := by
      apply Gives.ite
      · intro open_
        apply everyone.congr
        simp [open_]
      · intro closed
        apply (gives_pure PUnit.unit).congr
        simp [closed]
    apply ((createSgRulesOnPort_gives_usable resources port).bind also).congr
    simp [restricted]
  · intro unrestricted
    have closed : restricts block resources = false := by simpa using unrestricted
    apply everyone.congr
    simp [closed]

theorem parseAllPorts_gives_usable (block : RuleBlock) (resources : List Resource) :
    Gives (translation.parseAllPorts block resources)
      (∀ resource ∈ resources, translation.Usable resource) ⟨⟩ := by
  have each : Gives (resources.forM (translation.createSgRuleOnResource none))
      (∀ resource ∈ resources, translation.Usable resource) ⟨⟩ :=
    Gives.forM fun resource _ => createSgRuleOnResource_gives_usable none resource
  have everyone : Gives
      (if allowsAll block then translation.createAllPortsSgRule else pure ⟨⟩) True ⟨⟩ :=
    Gives.ite (fun _ => createAllPortsSgRule_gives translation) fun _ => gives_pure _
  apply (each.bind everyone).congr
  rw [and_true]

theorem parseBlock_gives_usable (block : RuleBlock) :
    Gives (translation.parseBlock block) (translation.BlockUsable block) ⟨⟩ := by
  have parts : Gives (translation.parseBlock block)
      ((∃ selected, translation.selectorResources block.peers = .ok selected) ∧
        translation.BlockUsable block) ⟨⟩ := by
    apply Gives.settle_bind
    intro selected found
    have own : translation.BlockUsable block ↔
        translation.PeersUsable block (translation.blockPeers block selected) := by
      simp [BlockUsable, found]
    rw [own]
    dsimp only
    unfold PeersUsable
    cases block.ports with
    | none => exact parseAllPorts_gives_usable block _
    | some ports => exact Gives.forM fun port _ => parsePort_gives_usable block _ port
  apply parts.congr
  constructor
  · exact And.right
  · intro usable
    rcases usable with ⟨selected, found, fits⟩
    exact ⟨⟨selected, found⟩, selected, found, fits⟩

/-! ## Clusters that are ready -/

theorem usable_iff_of_ready {resources : List Resource}
    (ready : ∀ resource ∈ resources, Ready resource) :
    (∀ resource ∈ resources, translation.Usable resource) ↔
      (translation.direction = .egress → ∀ resource ∈ resources, translation.Scannable resource) := by
  constructor
  · intro usable egress resource member
    exact (usable resource member).2 egress
  · intro scanned resource member
    exact ⟨ready resource member, fun egress => scanned egress resource member⟩

theorem portUsable_iff_of_ready {resources : List Resource}
    (ready : ∀ resource ∈ resources, Ready resource) (port : PolicyPort) :
    translation.PortUsable resources port ↔
      (translation.direction = .egress → port.isText = false →
        ∀ resource ∈ resources, translation.Scannable resource) := by
  have turns : ∀ turn ∈ translation.textPortTurns port resources, Ready turn.1 :=
    fun turn listed => (textPortTurns_fit translation ready listed).1
  unfold PortUsable PolicyPort.isText
  rcases port.port with _ | number | name
  · simpa using fun resource ports => turns (resource, ports)
  · simp [usable_iff_of_ready ready]
  · simpa using fun resource ports => turns (resource, ports)

theorem portFits_iff_of_ready {block : RuleBlock} {resources : List Resource}
    (ready : ∀ resource ∈ resources, Ready resource) (port : PolicyPort) :
    ((restricts block resources = true → translation.PortUsable resources port) ∧
        (restricts block resources = false ∨ allowsAll block = true →
          translation.direction = .egress → port.isText → translation.PortFound port)) ↔
      (translation.direction = .egress → translation.PortFits block resources port) := by
  have unrestricted : restricts block resources = false ∨ allowsAll block = true ↔
      allowsAll block ∨ resources = [] ∧ hasSelectors block = false := by
    unfold restricts
    cases resources <;> cases allowsAll block <;> simp
  have nobody (closed : restricts block resources = false) : resources = [] := by
    cases resources with
    | nil => rfl
    | cons resource rest => cases closed
  rw [portUsable_iff_of_ready ready, unrestricted, PortFits]
  constructor
  · rintro ⟨own, everyone⟩ egress
    constructor
    · exact fun text opened => everyone opened egress text
    · intro number
      by_cases restricted : restricts block resources = true
      · exact own restricted egress number
      · rw [nobody (by simpa using restricted)]
        simp
  · intro fits
    constructor
    · exact fun _ egress => (fits egress).2
    · exact fun opened egress text => (fits egress).1 text opened

/-- In a cluster that is ready, the rules of a block can be made where the block fits. -/
theorem blockUsable_iff_of_ready (ready : translation.cluster.Ready)
    (known : (translation.cluster.getNamespace translation.policyNamespace).isSome)
    (block : RuleBlock) :
    translation.BlockUsable block ↔
      (translation.direction = .egress → translation.BlockFits block) := by
  rcases selectorResources_eq_ok ready known block.peers with ⟨selected, ran, fit, nothing⟩
  have own : translation.BlockUsable block ↔
      translation.PeersUsable block (selected ++ (block.cidrs translation.text).map .cidr) := by
    simp [BlockUsable, ran, blockPeers, blockResources_eq]
  have fits : ∀ resource ∈ selected ++ (block.cidrs translation.text).map .cidr,
      Ready resource := by
    intro resource member
    rcases List.mem_append.mp member with own | block_
    · exact (fit resource own).1
    · rcases List.mem_map.mp block_ with ⟨cidr, _, rfl⟩
      trivial
  have scanned : (∀ resource ∈ selected ++ (block.cidrs translation.text).map .cidr,
      translation.Scannable resource) ↔
        ∀ cidr ∈ block.cidrs translation.text,
          translation.cluster.Scannable translation.text translation.policyNamespace cidr := by
    constructor
    · intro all cidr listed
      exact all _ (List.mem_append_right _ (List.mem_map_of_mem listed))
    · intro all resource member
      rcases List.mem_append.mp member with own | block_
      · exact (fit resource own).2
      · rcases List.mem_map.mp block_ with ⟨cidr, listed, rfl⟩
        exact all cidr listed
  have opened : (allowsAll block ∨
      selected ++ (block.cidrs translation.text).map .cidr = [] ∧ hasSelectors block = false) ↔
        block.Open translation.text := by
    unfold RuleBlock.Open
    rw [List.append_eq_nil_iff, List.map_eq_nil_iff]
    constructor
    · rintro (everyone | ⟨⟨_, empty⟩, unselected⟩)
      · exact .inl everyone
      · exact .inr ⟨unselected, empty⟩
    · rintro (everyone | ⟨unselected, empty⟩)
      · exact .inl everyone
      · have none_selected : selected = [] := by
          apply nothing
          intro peer member
          have bare := List.any_eq_false.mp unselected peer member
          simpa using bare
        exact .inr ⟨⟨none_selected, empty⟩, unselected⟩
  rw [own, PeersUsable, BlockFits]
  cases given : block.ports with
  | none =>
      simp only [usable_iff_of_ready fits, scanned]
      simp
  | some ports =>
      simp only [portFits_iff_of_ready fits, PortFits, opened, scanned, Option.getD_some,
        Option.mem_def, Option.some.injEq, forall_eq']
      constructor
      · intro fit egress
        constructor
        · intro port listed
          exact (fit port listed egress).1
        · rintro ⟨port, listed, number⟩
          exact (fit port listed egress).2 number
      · intro fit port listed egress
        constructor
        · exact (fit egress).1 port listed
        · intro number
          exact (fit egress).2 ⟨port, listed, number⟩

end Translation

/-! ## Policies -/

theorem parseSgRules_gives_usable {translation : Translation} {policy : NetworkPolicy}
    (ruled : policy.spec.blocks translation.direction ≠ []) :
    Gives (parseSgRules translation policy)
      (∀ block ∈ policy.spec.blocks translation.direction, translation.BlockUsable block) ⟨⟩ := by
  unfold parseSgRules
  split
  · rename_i empty
    exact absurd empty ruled
  · rename_i first rest blocks
    rw [blocks]
    have opened : Gives (parseOpenPolicy translation first) True ⟨⟩ :=
      Gives.ite (fun _ => gives_modify _) fun _ => gives_pure _
    have loop : Gives ((first :: rest).forM translation.parseBlock)
        (∀ block ∈ first :: rest, translation.BlockUsable block) ⟨⟩ :=
      Gives.forM fun block _ => translation.parseBlock_gives_usable block
    apply (opened.bind loop).congr
    rw [true_and]

theorem parseSgRules_gives {translation : Translation} (ready : translation.cluster.Ready)
    (known : (translation.cluster.getNamespace translation.policyNamespace).isSome)
    (policy : NetworkPolicy) :
    Gives (parseSgRules translation policy)
      ((translation.direction = .ingress → policy.spec.ingress = [] →
          policy.policyTypes ≠ none) ∧
        (translation.direction = .egress → ∀ block ∈ policy.spec.egress,
          translation.BlockFits block)) ⟨⟩ := by
  unfold parseSgRules
  split
  · rename_i empty
    unfold parseNoRules
    split
    · rename_i ingress untyped
      apply (gives_throw _ PUnit.unit).congr
      rw [ingress] at empty
      have unruled : policy.spec.ingress = [] := empty
      simp [ingress, untyped, unruled]
    · rename_i types ingress typed
      have holds : Gives
          (if types = [PolicyType.egress] then
            append (.everything translation.securityGroupId .ingress)
          else
            pure ⟨⟩) True ⟨⟩ :=
        Gives.ite (fun _ => gives_modify _) fun _ => gives_pure _
      apply holds.congr
      simp [ingress, typed]
    · rename_i egress untyped
      apply (gives_pure PUnit.unit).congr
      rw [egress] at empty
      have unruled : policy.spec.egress = [] := empty
      simp [egress, unruled]
    · rename_i types egress typed
      rw [egress] at empty
      have unruled : policy.spec.egress = [] := empty
      have holds : Gives
          (if !types.isEmpty && !types.contains .egress then
            append (.everything translation.securityGroupId .egress)
          else
            pure ⟨⟩) True ⟨⟩ :=
        Gives.ite (fun _ => gives_modify _) fun _ => gives_pure _
      apply holds.congr
      simp [egress, unruled]
  · rename_i first rest blocks
    have ruled : policy.spec.blocks translation.direction ≠ [] := by
      rw [blocks]
      exact List.cons_ne_nil first rest
    have usable := parseSgRules_gives_usable ruled
    unfold parseSgRules at usable
    rw [blocks] at usable
    apply usable.congr
    rw [← blocks]
    cases towards : translation.direction with
    | ingress =>
        have same : policy.spec.blocks .ingress = policy.spec.ingress := rfl
        rw [towards, same] at ruled
        simp [Translation.blockUsable_iff_of_ready ready known, towards, ruled]
    | egress =>
        have same : policy.spec.blocks .egress = policy.spec.egress := rfl
        rw [same]
        simp [Translation.blockUsable_iff_of_ready ready known, towards]

end KuryrKubernetes.Policy

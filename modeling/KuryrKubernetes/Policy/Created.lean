import KuryrKubernetes.Effect.Ensures
import KuryrKubernetes.Policy.Openings

/-!
# Rules that the translation creates

Each function is taken with the rules that it may create: it creates no others, however
it ends, and its `matched` is the one read off the inputs.
-/

namespace KuryrKubernetes.Policy

open KuryrKubernetes.Data
open KuryrKubernetes.Effect

/-- Only rules of a kind are created at Neutron. -/
def creating (allowed : SgRule → Prop) : Frame ParseState where
  rel before after := ∀ id rule, after.neutron.get? id = some rule →
    before.neutron.get? id = some rule ∨ allowed rule
  refl _ _ _ := .inl
  trans first second id rule found := by
    rcases second id rule found with earlier | created
    · exact first id rule earlier
    · exact .inr created

variable {snapshot : Snapshot} {allowed : SgRule → Prop}

theorem creating_of_neutron_eq {before after : ParseState}
    (equal : after.neutron = before.neutron) : (creating allowed).rel before after := by
  intro id rule found
  rw [equal] at found
  exact .inl found

/-! ## One rule -/

theorem createSecurityGroupRule_creates {rule : SgRule} (holds : allowed rule) :
    (creating allowed).Keeps (createSecurityGroupRule snapshot rule) := by
  intro state
  rw [createSecurityGroupRule, exec_get_bind]
  cases existingId state.neutron rule with
  | some id => exact (creating allowed).refl state
  | none =>
      dsimp only
      cases snapshot.refuses rule with
      | some ex => exact (creating allowed).refl state
      | none =>
          intro id other found
          simp only [exec_set_bind, exec_pure, Dict.get?_set] at found
          split at found
          · cases found
            exact .inr holds
          · exact .inl found

theorem createRule_creates {body : RuleBody} (holds : allowed body.rule) :
    (creating allowed).Keeps (createRule snapshot body) :=
  (createSecurityGroupRule_creates holds).bind fun _ => Frame.keeps_pure _

theorem appendCrdRule_creates (entry : CrdRule) :
    (creating allowed).Keeps (appendCrdRule entry) := by
  apply Frame.keeps_modify
  intro state
  apply creating_of_neutron_eq
  split <;> rfl

theorem addRule_creates {body : RuleBody} (holds : allowed body.rule) :
    (creating allowed).Keeps (addRule snapshot body) :=
  (createRule_creates holds).bind fun entry => appendCrdRule_creates entry

/-! ## Named ports -/

namespace TextPort

/-- The rule for one port number. -/
def rule (call : TextPort) (number : Nat) (cidr : Option String) : SgRule :=
  (call.body number cidr ∅).rule

/-- The prefixes of the rules of a call: none when everyone is allowed, the one of a
namespace when there is one, or the address of the pod that the rules select. -/
def Remote (call : TextPort) (snapshot : Snapshot) (ruleSelectedPod : Pod)
    (cidr : Option String) : Prop :=
  if call.allowAll then
    cidr = none
  else
    match call.namespaceName with
    | some name => ∃ namespaceObj, snapshot.getNamespace name = some namespaceObj ∧
        ∃ subnet ∈ namespaceObj.subnetCidr, cidr = some subnet
    | none => ∃ ip ∈ ruleSelectedPod.podIp, cidr = some ip

end TextPort

theorem mem_liveNumbers {ports : List (Pod × PortNumber)} {number : Nat} :
    number ∈ liveNumbers ports ↔
      ∃ pod containerPort, (pod, containerPort) ∈ ports ∧ pod.podIp.isSome ∧
        containerPort.val = number := by
  simp only [liveNumbers, List.mem_map, List.mem_filter, Prod.exists]
  constructor
  · rintro ⟨pod, containerPort, ⟨listed, addressed⟩, same⟩
    exact ⟨pod, containerPort, listed, addressed, same⟩
  · rintro ⟨pod, containerPort, listed, addressed, same⟩
    exact ⟨pod, containerPort, ⟨listed, addressed⟩, same⟩

theorem liveNumbers_cons_of_none {pod : Pod} {containerPort : PortNumber}
    {rest : List (Pod × PortNumber)} (absent : pod.podIp = none) :
    liveNumbers ((pod, containerPort) :: rest) = liveNumbers rest := by
  simp [liveNumbers, absent]

theorem liveNumbers_cons_of_some {pod : Pod} {containerPort : PortNumber}
    {rest : List (Pod × PortNumber)} {ip : String} (found : pod.podIp = some ip) :
    liveNumbers ((pod, containerPort) :: rest) = containerPort.val :: liveNumbers rest := by
  simp [liveNumbers, found]

/-- The result of the loops over pods: `matched`, and no port numbers but known ones and
those that were found. -/
def Collected (known : MatchedPods) (numbers : List Nat) (matched : Bool)
    (result : Bool × MatchedPods) : Prop :=
  result.1 = (matched || !numbers.isEmpty) ∧
    ∀ number ∈ result.2, number ∈ known ∨ number ∈ numbers

theorem collected_nil (known : MatchedPods) (matched : Bool) :
    Collected known [] matched (matched, known) :=
  ⟨(Bool.or_false matched).symm, fun _ => .inl⟩

/-- A first number is found, and the rest goes on from it. -/
theorem Collected.cons {known grown : MatchedPods} {number : Nat} {numbers : List Nat}
    {matched : Bool} {result : Bool × MatchedPods} (rest : Collected grown numbers true result)
    (grows : ∀ other ∈ grown, other ∈ known ∨ other = number) :
    Collected known (number :: numbers) matched result := by
  obtain ⟨found, collected⟩ := rest
  constructor
  · rw [found]
    cases matched <;> rfl
  · intro other member
    rcases collected other member with earlier | later
    · rcases grows other earlier with before | same
      · exact .inl before
      · exact .inr (same ▸ List.mem_cons_self)
    · exact .inr (List.mem_cons_of_mem number later)

theorem Collected.append {known middle : MatchedPods} {first second : List Nat}
    {matched halfway : Bool} {result : Bool × MatchedPods}
    (head : Collected known first matched (halfway, middle))
    (tail : Collected middle second halfway result) :
    Collected known (first ++ second) matched result := by
  obtain ⟨matchedHead, knownHead⟩ := head
  obtain ⟨matchedTail, knownTail⟩ := tail
  dsimp only at matchedHead
  constructor
  · rw [matchedTail, matchedHead]
    cases first <;> simp
  · intro number member
    rcases knownTail number member with before | found
    · rcases knownHead number before with earlier | found
      · exact .inl earlier
      · exact .inr (List.mem_append_left second found)
    · exact .inr (List.mem_append_right first found)

/-- One turn of the loops over pods creates rules only for a pod that the rules select,
and collects the numbers of pods with an address. -/
theorem createSgRulesWithContainerPorts_creates {call : TextPort} {ruleSelectedPod : Pod}
    {ports : List (Pod × PortNumber)} {matched : Bool} {matchedPods : MatchedPods}
    (holds : ∀ number ∈ liveNumbers ports, ∀ cidr, call.Remote snapshot ruleSelectedPod cidr →
      allowed (call.rule number cidr)) :
    (creating allowed).Ensures
      (createSgRulesWithContainerPorts snapshot call ruleSelectedPod ports matched matchedPods)
      (Collected matchedPods (liveNumbers ports) matched) := by
  induction ports generalizing matched matchedPods with
  | nil => exact Frame.ensures_pure (collected_nil matchedPods matched)
  | cons item rest ih =>
      obtain ⟨pod, containerPort⟩ := item
      rw [createSgRulesWithContainerPorts]
      cases address : pod.podIp with
      | none =>
          rw [liveNumbers_cons_of_none address] at holds ⊢
          exact ih holds
      | some podIp =>
          rw [liveNumbers_cons_of_some address] at holds ⊢
          have later : ∀ number ∈ liveNumbers rest, ∀ cidr,
              call.Remote snapshot ruleSelectedPod cidr → allowed (call.rule number cidr) :=
            fun number member => holds number (List.mem_cons_of_mem _ member)
          have goesOn (grown : MatchedPods)
              (grows : ∀ other ∈ grown, other ∈ matchedPods ∨ other = containerPort.val) :
              (creating allowed).Ensures
                (createSgRulesWithContainerPorts snapshot call ruleSelectedPod rest true grown)
                (Collected matchedPods (containerPort.val :: liveNumbers rest) matched) :=
            (ih later).mono fun _ collected => collected.cons grows
          have unchanged := goesOn matchedPods fun _ => .inl
          dsimp only
          split
          · intro state
            rw [exec_get_bind]
            cases extendCrdRule containerPort podIp pod.namespaceName state.crdRules with
            | none =>
                apply goesOn
                intro other member
                exact (Dict.mem_set.mp member).symm
            | some crdRules =>
                have rest := unchanged { state with crdRules }
                have extended : (creating allowed).rel state { state with crdRules } :=
                  creating_of_neutron_eq rfl
                exact ⟨(creating allowed).trans extended rest.1, rest.2⟩
          · rename_i direct
            cases selected : ruleSelectedPod.podIp with
            | none => exact unchanged
            | some ruleIp =>
                apply Frame.Keeps.before
                · apply addRule_creates
                  apply holds containerPort.val List.mem_cons_self
                  rw [not_or] at direct
                  rw [TextPort.Remote, if_neg direct.1, Option.not_isSome_iff_eq_none.mp direct.2]
                  exact ⟨ruleIp, selected, rfl⟩
                · exact fun _ => unchanged

theorem createSgRulesOnTurns_creates {call : TextPort}
    {turns : List (List (Pod × PortNumber) × Pod)} {matched : Bool} {matchedPods : MatchedPods}
    (holds : ∀ turn ∈ turns, ∀ number ∈ liveNumbers turn.1, ∀ cidr,
      call.Remote snapshot turn.2 cidr → allowed (call.rule number cidr)) :
    (creating allowed).Ensures (createSgRulesOnTurns snapshot call turns matched matchedPods)
      (Collected matchedPods (turns.flatMap fun turn => liveNumbers turn.1) matched) := by
  induction turns generalizing matched matchedPods with
  | nil => exact Frame.ensures_pure (collected_nil matchedPods matched)
  | cons turn rest ih =>
      apply Frame.Ensures.bind
        (createSgRulesWithContainerPorts_creates (holds turn List.mem_cons_self))
      rintro ⟨halfway, middle⟩ head
      apply Frame.Ensures.mono (ih fun other member => holds other (List.mem_cons_of_mem turn member))
      exact fun _ tail => head.append tail

/-- A remote prefix that does not depend on a pod is the same at every turn. -/
theorem createSgRuleOnMatchedPods_creates {call : TextPort} {number : Nat}
    {pods : Dict String String} {ruleSelectedPod : Pod}
    (holds : ∀ cidr, call.Remote snapshot ruleSelectedPod cidr → allowed (call.rule number cidr)) :
    (creating allowed).Keeps (createSgRuleOnMatchedPods snapshot call number pods) := by
  unfold createSgRuleOnMatchedPods
  split
  · rename_i everyone
    apply addRule_creates
    apply holds
    rw [TextPort.Remote, if_pos everyone]
  · rename_i closed
    split
    · exact Frame.keeps_pure _
    · rename_i namespaceObj found
      obtain ⟨name, named, known⟩ := Option.bind_eq_some_iff.mp found
      rw [getNamespaceSubnetCidr]
      cases subnet : namespaceObj.subnetCidr with
      | none => exact Frame.keeps_throw _
      | some cidr =>
          apply addRule_creates
          apply holds
          rw [TextPort.Remote, if_neg closed, named]
          exact ⟨namespaceObj, known, cidr, subnet, rfl⟩

/-- A named port creates rules for the numbers that it has at the pods looked at. -/
theorem createSgRuleOnTextPort_creates {call : TextPort} {ruleSelectedPods : List Pod}
    {matched : Bool}
    (holds : ∀ turn ∈ textPortTurns snapshot call ruleSelectedPods,
      ∀ number ∈ liveNumbers turn.1, ∀ cidr, call.Remote snapshot turn.2 cidr →
        allowed (call.rule number cidr)) :
    (creating allowed).Ensures (createSgRuleOnTextPort snapshot call ruleSelectedPods matched)
      (· = (matched || !(foundNumbers snapshot call ruleSelectedPods).isEmpty)) := by
  apply Frame.Ensures.bind (createSgRulesOnTurns_creates holds)
  rintro ⟨result, matchedPods⟩ ⟨found, collected⟩
  apply Frame.Keeps.before
  · apply Frame.Keeps.forM
    intro item listed
    have gathered := (collected item.1 (Dict.mem_of_mem_items listed)).resolve_left
      (Dict.not_mem_empty item.1)
    obtain ⟨turn, taken, live⟩ := List.mem_flatMap.mp gathered
    exact createSgRuleOnMatchedPods_creates (holds turn taken item.1 live)
  · exact fun _ => Frame.ensures_pure found

/-! ## Ports and peers -/

/-- A loop over policy ports whose turns tell what they open. -/
theorem overPorts_creates {named : PolicyPort → Bool → PolicyM Bool}
    {numeric : PortNumber × Option Protocol → Bool → PolicyM Bool} {opens : PolicyPort → Bool}
    {ports : List PolicyPort} {matched : Bool}
    (number : ∀ port ∈ ports, ∀ value, port.port = some (.number value) → ∀ matched,
      (creating allowed).Ensures (numeric (value, port.protocol) matched)
        (· = (matched || opens port)))
    (name : ∀ port ∈ ports, (∀ value, port.port ≠ some (.number value)) → ∀ matched,
      (creating allowed).Ensures (named port matched) (· = (matched || opens port))) :
    (creating allowed).Ensures (overPorts named numeric ports matched)
      (· = (matched || ports.any opens)) := by
  induction ports generalizing matched with
  | nil => exact Frame.ensures_pure (Bool.or_false matched).symm
  | cons port rest ih =>
      have goesOn (halfway : Bool) (turned : halfway = (matched || opens port)) :
          (creating allowed).Ensures (overPorts named numeric rest halfway)
            (· = (matched || (port :: rest).any opens)) := by
        apply Frame.Ensures.mono
          (ih (fun other member => number other (List.mem_cons_of_mem port member))
            fun other member => name other (List.mem_cons_of_mem port member))
        rintro result rfl
        rw [turned, List.any_cons, Bool.or_assoc]
      rw [overPorts]
      split
      · rename_i value numbered
        exact (number port List.mem_cons_self value numbered matched).bind goesOn
      · rename_i unnumbered
        exact (name port List.mem_cons_self unnumbered matched).bind goesOn

/-! ## Addresses -/

/-- The rule for one address and one policy port, or for all ports. -/
def addressRule (crd : Crd) (direction : Direction) (cidr : String)
    (port : Option (PortNumber × Option Protocol)) : SgRule :=
  match port with
  | some (number, protocol) =>
      (createSecurityGroupRuleBody crd.securityGroupId direction (some number) none protocol
        (some cidr) none ∅).rule
  | none =>
      (createSecurityGroupRuleBody crd.securityGroupId direction (some 1) (some 65535) none
        (some cidr) none ∅).rule

theorem createSgRuleFor_creates {crd : Crd} {direction : Direction} {cidr : String}
    {port : Option (PortNumber × Option Protocol)} {namespaceName : Option String}
    (holds : allowed (addressRule crd direction cidr port)) :
    (creating allowed).Keeps
      (createSgRuleFor snapshot crd direction cidr port namespaceName) := by
  apply Frame.Keeps.bind
  · cases port with
    | none => exact createRule_creates holds
    | some port => exact createRule_creates holds
  · exact appendCrdRule_creates

end KuryrKubernetes.Policy

import KuryrKubernetes.Policy.TextPorts

/-!
# Which numbers a named port stands for

The rules that are made for a named port and note pods: with the address of a peer, or for
everyone.  For `ingress` they are for the numbers that the selected pods expose, for
`egress` those that the pods of the peer expose, unless they come from a peer before it.
-/

namespace KuryrKubernetes.Policy

open KuryrKubernetes.Data
open KuryrKubernetes.Effect

/-! ## Rules that note pods -/

namespace ParsedRule

/-- A rule is made for pods, as the table of ports has them. -/
def notesPods (matchedPods : PodsOfPorts) : ParsedRule → Bool
  | rule _ pods => !(pods.pods matchedPods).items.isEmpty
  | everything _ _ | nested _ => false

/-- The element of a rule, and whether it notes pods. -/
def label (matchedPods : PodsOfPorts) (rule : ParsedRule) : Element × Bool :=
  (rule.element, rule.notesPods matchedPods)

/-- The pods of a rule do not grow any more. -/
def Settled : ParsedRule → Prop
  | rule _ (.shared _) => False
  | rule _ (.settled _) | everything _ _ | nested _ => True

@[simp]
theorem label_settle (matchedPods : PodsOfPorts) (rule : ParsedRule) :
    (rule.settle matchedPods).label matchedPods = rule.label matchedPods := by
  cases rule <;> rfl

theorem settled_settle (matchedPods : PodsOfPorts) (rule : ParsedRule) :
    (rule.settle matchedPods).Settled := by
  cases rule <;> trivial

/-- A rule for the pods of named ports has an address, or is for everyone, and one number. -/
def Pairs (rule : ParsedRule) (address : Option String) (number : Nat) : Prop :=
  match rule with
  | .rule body (.settled pods) =>
      pods.items ≠ [] ∧ body.rule.remoteIpPrefix = address ∧
        body.rule.portRangeMin = number ∧ body.rule.portRangeMax = number
  | .rule _ (.shared _) | .everything _ _ | .nested _ => False

theorem Settled.pairs_iff {rule : ParsedRule} (settled : rule.Settled)
    (matchedPods : PodsOfPorts) (address : Option String) (number : Nat) :
    rule.Pairs address number ↔
      ∃ body, rule.label matchedPods = (.body body, true) ∧
        body.rule.remoteIpPrefix = address ∧
        body.rule.portRangeMin = number ∧ body.rule.portRangeMax = number := by
  cases rule with
  | rule body pods =>
      cases pods with
      | shared containerPort => cases settled
      | settled pods => simp [Pairs, label, element, notesPods, RemotePods.pods]
  | everything id direction => simp [Pairs, label, element]
  | nested bodies => simp [Pairs, label, element]

end ParsedRule

namespace Translation

/-- What a part of the translation adds, with the marks of rules that note pods. -/
def AddsLabels {α : Type} (noted : PodsOfPorts) (program : ParseM α)
    (added : Set (Element × Bool)) : Prop :=
  Adds (ParsedRule.label noted) program added

/-- A rule for a number of the table is there afterwards, with its mark: an equal rule notes
equal pods. -/
theorem appendNew_addsLabels {matchedPods noted : PodsOfPorts} {number : Nat}
    (known : Noted matchedPods number)
    (grows : ∀ other, Noted matchedPods other → Noted noted other) (body : RuleBody) :
    AddsLabels noted (appendNew matchedPods (.rule body (.shared number)))
      {(.body body, true)} := by
  have filled : (ParsedRule.rule body (.shared number)).label noted = (.body body, true) := by
    have nonempty := grows number known
    simpa [ParsedRule.label, ParsedRule.element, ParsedRule.notesPods, RemotePods.pods, Noted]
      using nonempty
  apply adds_modify
  intro rules
  split
  · rename_i present
    rcases List.any_eq_true.mp present with ⟨other, listed, same⟩
    have equal : other.label noted = (.body body, true) := by
      cases other with
      | rule otherBody pods =>
          rcases of_decide_eq_true same with ⟨rfl, alike⟩
          have nonempty : (pods.pods matchedPods).items ≠ [] := by
            intro empty
            rw [empty] at alike
            exact known alike.nil_eq.symm
          cases pods with
          | settled pods =>
              simpa [ParsedRule.label, ParsedRule.element, ParsedRule.notesPods,
                RemotePods.pods] using nonempty
          | shared containerPort =>
              have grown : Noted noted containerPort := grows containerPort nonempty
              simpa [ParsedRule.label, ParsedRule.element, ParsedRule.notesPods,
                RemotePods.pods, Noted] using grown
      | everything id direction => cases same
      | nested bodies => cases same
    have there : ((.body body, true) : Element × Bool) ∈ readings (ParsedRule.label noted) rules :=
      ⟨other, listed, equal⟩
    rw [Set.union_eq_self_of_subset_right (Set.singleton_subset_iff.mpr there)]
  · rw [readings_append, readings_cons, readings_nil, Set.union_empty, filled]

variable (translation : Translation)

/-- The rules for services note no pods. -/
def svcLabels (resource : Option Resource) (port : Option Nat) (protocol : Option Protocol) :
    Set (Element × Bool) :=
  {label | label.2 = false ∧ label.1 ∈ translation.svcElements resource port protocol}

theorem extendSvcRules_addsLabels (noted : PodsOfPorts) (resource : Option Resource)
    (port : Option Nat) (protocol : Option Protocol) :
    AddsLabels noted (translation.extendSvcRules resource port protocol)
      (translation.svcLabels resource port protocol) := by
  apply (translation.extendSvcRules_adds_readings resource port protocol).congr
  ext ⟨element, marked⟩
  simp only [svcLabels, svcElements, Set.mem_ofPred_eq]
  constructor
  · rintro ⟨egress, bodies, made, body, listed, same⟩
    cases same
    exact ⟨rfl, egress, bodies, made, body, listed, rfl⟩
  · rintro ⟨rfl, egress, bodies, made, body, listed, rfl⟩
    exact ⟨egress, bodies, made, body, listed, rfl⟩

/-! ## Named ports -/

/-- The rule for a number of the table, which notes the pods, and those for services. -/
def numberLabels (port : PolicyPort) (allowAll : Bool) (resource : Resource)
    (containerPort : Nat) : Set (Element × Bool) :=
  {label | allowAll = false ∧ ∃ cidr ∈ translation.address resource,
    label = (.body (translation.bodyOnTextPort port containerPort (some cidr)), true) ∨
      label ∈ translation.svcLabels (some resource) (some containerPort) port.protocol}

theorem createSgRulesWithContainerPorts_addsLabels {noted : PodsOfPorts} (port : PolicyPort)
    (allowAll : Bool) (resource : Resource) (containerPorts : List (Pod × PortNumber))
    {matchedPods : PodsOfPorts}
    (filled : ∀ number ∈ (translation.notePods containerPorts matchedPods).keys,
      Noted (translation.notePods containerPorts matchedPods) number)
    (grows : ∀ number, Noted (translation.notePods containerPorts matchedPods) number →
      Noted noted number) :
    AddsLabels noted
      (translation.createSgRulesWithContainerPorts port allowAll resource containerPorts
        matchedPods)
      (inTurn (translation.numberLabels port allowAll) resource
        (translation.notePods containerPorts matchedPods)) := by
  apply ((translation.getResourceDetails_adds resource).bind _).congr
    (Set.empty_union _)
  rintro found ⟨before, after, ran⟩
  rw [translation.details_of_getResourceDetails ran]
  dsimp only
  generalize translation.notePods containerPorts matchedPods = table at filled grows
  split
  · rename_i cidr located
    have loop := Adds.forM fun containerPort (listed : containerPort ∈ table.keys) =>
      (appendNew_addsLabels (filled containerPort listed) grows
        (translation.bodyOnTextPort port containerPort (some cidr))).bind fun _ _ =>
          translation.extendSvcRules_addsLabels noted (some resource) (some containerPort)
            port.protocol
    apply (loop.bind fun _ _ => adds_pure table).congr
    ext label
    simp [inTurn, numberLabels, address, located]
  · rename_i closed
    apply (adds_pure table).congr
    ext label
    simp only [Set.mem_empty_iff_false, inTurn, numberLabels, Set.mem_ofPred_eq, false_iff]
    rintro ⟨_, _, restricted, cidr, located, _⟩
    exact closed cidr located restricted

theorem createSgRulesOnTurns_addsLabels {noted : PodsOfPorts} (port : PolicyPort)
    (allowAll : Bool) (turns : List (Resource × List (Pod × PortNumber)))
    {matchedPods : PodsOfPorts} (filled : ∀ number ∈ matchedPods.keys, Noted matchedPods number)
    (ended : noted = translation.notedPods turns matchedPods) :
    AddsLabels noted (translation.createSgRulesOnTurns port allowAll turns matchedPods)
      (translation.inTurns (translation.numberLabels port allowAll) turns matchedPods) := by
  induction turns generalizing matchedPods with
  | nil => exact adds_pure matchedPods
  | cons turn rest ih =>
      rcases turn with ⟨resource, containerPorts⟩
      have refilled : ∀ number ∈ (translation.notePods containerPorts matchedPods).keys,
          Noted (translation.notePods containerPorts matchedPods) number := by
        intro number listed
        apply (noted_notePods_iff (resource, containerPorts) matchedPods number).mpr
        rcases (mem_keys_notePods_iff (resource, containerPorts) matchedPods number).mp listed
          with old | new
        · exact .inl (filled number old)
        · exact .inr new
      have grows : ∀ number, Noted (translation.notePods containerPorts matchedPods) number →
          Noted noted number := by
        intro number known
        rw [ended]
        exact (noted_notedPods_iff rest _ number).mpr (.inl known)
      apply (translation.createSgRulesWithContainerPorts_addsLabels port allowAll resource
        containerPorts refilled grows).bind
      rintro table ⟨before, after, ran⟩
      rw [translation.noted_of_createSgRulesWithContainerPorts ran]
      exact ih refilled ended

variable {translation}

/-- Every number of the table has pods. -/
theorem noted_podsOfTextPort {port : PolicyPort} {resources : List Resource} {number : Nat}
    (listed : number ∈ (translation.podsOfTextPort port resources).keys) :
    Noted (translation.podsOfTextPort port resources) number := by
  rcases (mem_keys_notedPods_iff _ _ _).mp listed with nothing | noted
  · cases nothing
  · exact (noted_notedPods_iff _ _ _).mpr (.inr noted)

variable (translation)

/-- The rules of a named port for everyone, with their marks. -/
def everyoneLabels (port : PolicyPort) (matchedPods : PodsOfPorts) : Set (Element × Bool) :=
  {label | (∃ containerPort ∈ matchedPods.keys,
      label = (.body (translation.bodyOnTextPort port containerPort none), true)) ∨
    ∃ last ∈ matchedPods.items.getLast?,
      label ∈ translation.svcLabels none (some last.1) port.protocol}

theorem createSgRuleBodyOnTextPort_addsLabels (port : PolicyPort) (resources : List Resource)
    (allowAll : Bool) :
    AddsLabels (translation.podsOfTextPort port resources)
      (translation.createSgRuleBodyOnTextPort port resources allowAll)
      (translation.inTurns (translation.numberLabels port allowAll)
          (translation.textPortTurns port resources) ∅ ∪
        {label | allowAll = true ∧
          label ∈ translation.everyoneLabels port (translation.podsOfTextPort port resources)}) := by
  apply (translation.createSgRulesOnTurns_addsLabels port allowAll _ (by rintro _ ⟨⟩) rfl).bind
  rintro noted ⟨before, after, ran⟩
  have found : noted = translation.podsOfTextPort port resources :=
    translation.noted_of_createSgRulesOnTurns ran
  have filled : ∀ number ∈ noted.keys, Noted noted number := by
    rw [found]
    exact fun _ listed => noted_podsOfTextPort listed
  change AddsLabels (translation.podsOfTextPort port resources) _ _
  rw [← found]
  generalize noted = pods at filled
  have settled : AddsLabels pods
      (modify fun rules => rules.map (·.settle pods) : ParseM PUnit) ∅ := by
    apply adds_modify
    intro rules
    rw [readings_map (ParsedRule.label_settle pods), Set.union_empty]
  cases allowAll with
  | false =>
      apply (settled.bind fun _ _ => adds_pure PUnit.unit).congr
      ext label
      simp
  | true =>
      have one (item : Nat × Dict (Option String) String) (listed : item ∈ pods.items) :
          AddsLabels pods
            (append (.rule (translation.bodyOnTextPort port item.1 none) (.settled item.2)))
            {(.body (translation.bodyOnTextPort port item.1 none), true)} := by
        have nonempty := filled item.1 (List.mem_map_of_mem listed)
        rw [Noted, Dict.getD_of_get?_eq_some _ (Dict.mem_items_iff.mp listed)] at nonempty
        apply (adds_append [_]).congr
        rw [readings_cons, readings_nil, Set.union_empty]
        simpa [ParsedRule.label, ParsedRule.element, ParsedRule.notesPods, RemotePods.pods]
          using nonempty
      have followed (services : Set (Element × Bool)) {program : ParseM PUnit}
          (serves : AddsLabels pods program services) :=
        settled.bind fun _ _ => (Adds.forM one).bind fun _ _ => serves
      have keyed (label : Element × Bool) : (∃ containerPort ∈ pods.keys,
          label = (.body (translation.bodyOnTextPort port containerPort none), true)) ↔
            ∃ item ∈ pods.items,
              label = (.body (translation.bodyOnTextPort port item.1 none), true) := by
        simp only [Dict.keys, List.mem_map, exists_exists_and_eq_and]
      apply (followed {label | ∃ last ∈ pods.items.getLast?,
        label ∈ translation.svcLabels none (some last.1) port.protocol} _).congr
      · ext label
        simp only [Set.empty_union, Set.mem_union, Set.mem_ofPred_eq, everyoneLabels, true_and,
          keyed, Set.mem_singleton_iff]
      · split
        · rename_i ingress
          apply (adds_pure PUnit.unit).congr
          ext label
          simp [svcLabels, svcElements, ingress]
        · exact adds_throw _ _
        · rename_i containerPort _ _ bound
          apply (translation.extendSvcRules_addsLabels pods none (some containerPort)
            port.protocol).congr
          ext label
          simp [bound]

/-- The rules that are left do not grow any more. -/
def settledRules : Frame (List ParsedRule) :=
  Frame.stable fun rules => ∀ rule ∈ rules, rule.Settled

theorem settledRules_append {rule : ParsedRule} (settled : rule.Settled) :
    settledRules.Keeps (append rule) := by
  apply Frame.keeps_modify
  intro before kept other member
  rcases List.mem_append.mp member with old | new
  · exact kept other old
  · rw [List.mem_singleton.mp new]
    exact settled

theorem settledRules_extendSvcRules (resource : Option Resource) (port : Option Nat)
    (protocol : Option Protocol) :
    settledRules.Keeps (translation.extendSvcRules resource port protocol) := by
  unfold extendSvcRules
  split
  · exact Frame.keeps_pure _
  · apply Frame.Keeps.settle_bind
    intro bodies _
    apply Frame.keeps_modify
    intro before kept other member
    rcases List.mem_append.mp member with old | new
    · exact kept other old
    · rcases List.mem_map.mp new with ⟨body, _, rfl⟩
      trivial

variable {translation}

theorem settled_of_createSgRuleBodyOnTextPort {port : PolicyPort} {resources : List Resource}
    {allowAll : Bool} {before rules : List ParsedRule} {done : PUnit}
    (ran : exec (translation.createSgRuleBodyOnTextPort port resources allowAll) before =
      (.ok done, rules)) : ∀ rule ∈ rules, rule.Settled := by
  rcases exec_bind_eq_ok ran with ⟨noted, middle, _, ended⟩
  rcases exec_bind_eq_ok ended with ⟨_, _, started, remaining⟩
  cases started
  have tail {program : ParseM PUnit} (keeps : settledRules.Keeps program)
      (final : exec program (middle.map (·.settle noted)) = (.ok done, rules)) :
      ∀ rule ∈ rules, rule.Settled := by
    have kept := keeps (middle.map (·.settle noted)) (by
      intro rule listed
      rcases List.mem_map.mp listed with ⟨old, _, rfl⟩
      exact ParsedRule.settled_settle noted old)
    rw [final] at kept
    exact kept
  apply tail _ remaining
  apply Frame.Keeps.ite
  · apply Frame.Keeps.bind
    · exact Frame.Keeps.forM fun item _ => settledRules_append trivial
    · intro _
      split
      · exact Frame.keeps_pure _
      · exact Frame.keeps_throw _
      · exact translation.settledRules_extendSvcRules _ _ _
  · exact Frame.keeps_pure _

/-! ## Pairs -/

theorem bodyOnTextPort_of_pos {number : Nat} (positive : 0 < number) (port : PolicyPort)
    (cidr : Option String) :
    (translation.bodyOnTextPort port number cidr).rule.remoteIpPrefix = cidr ∧
      (translation.bodyOnTextPort port number cidr).rule.portRangeMin = number ∧
      (translation.bodyOnTextPort port number cidr).rule.portRangeMax = number := by
  cases number with
  | zero => cases positive
  | succ number => exact ⟨rfl, rfl, rfl⟩

theorem pos_of_finds {turns : List (Resource × List (Pod × PortNumber))}
    {turn : Resource × List (Pod × PortNumber)} {number : Nat}
    (finds : translation.Finds turns ∅ turn number) : 0 < number := by
  rcases notes_of_finds finds with ⟨noting, _, notes⟩
  exact pos_of_notes notes

end Translation

end KuryrKubernetes.Policy

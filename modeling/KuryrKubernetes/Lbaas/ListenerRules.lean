import KuryrKubernetes.Lbaas.SgRules

/-!
# The rules of listeners

The listeners of one load balancer and the rules of its security group, over runs of
`ensure_listener`, `_apply_members_security_groups` and `release_listener` in any order.
Rules of other groups come and go at any time.
-/

namespace KuryrKubernetes.Lbaas

open KuryrKubernetes.Data
open KuryrKubernetes.Transition

namespace SgState

/-- The rules of the security group of the load balancer. -/
def lbRules (state : SgState) : List GroupRule :=
  state.table.rules.filter (state.named.contains ·.securityGroupId)

theorem mem_lbRules {state : SgState} {rule : GroupRule} :
    rule ∈ state.lbRules ↔ rule ∈ state.table.rules ∧ rule.securityGroupId ∈ state.named := by
  simp [lbRules]

/-- The rules for the protocol and port of a listener. -/
def rulesFor (state : SgState) (listenerPort : ListenerPort) : List GroupRule :=
  state.lbRules.filter (SgState.BelongsTo ·.toRuleRequest listenerPort)

theorem mem_rulesFor {state : SgState} {listenerPort : ListenerPort} {rule : GroupRule} :
    rule ∈ state.rulesFor listenerPort ↔
      rule ∈ state.lbRules ∧ SgState.BelongsTo rule.toRuleRequest listenerPort := by
  simp [rulesFor]

end SgState

/-- A load balancer at Octavia and Neutron. -/
structure ListenerSite where
  listeners : List ListenerPort := []
  sg : SgState

/-- How `ensure_listener` ends: Octavia refuses the protocol, or creating the security
group raises, or both the listener and its rule have been seen to. -/
inductive ListenerEnding where
  | unsupported
  | groupNotCreated
  | ensured

inductive ListenerLabel where
  | ensureListener (listenerPort : ListenerPort) (newGroup : String)
      (refuses : RuleRequest → Bool) (ending : ListenerEnding)
  | applyMembersSecurityGroups (listenerPort : ListenerPort) (targetPort : TargetPort)
      (newSgs : List String) (refuses : RuleRequest → Bool)
  | releaseListener (listenerPort : ListenerPort)
  | addRule (request : RuleRequest)
  | removeRule (id : Nat)

namespace ListenerSite

/-- Octavia has one listener for a protocol and a port, however the protocol is
spelled. -/
def accepts (site : ListenerSite) (listenerPort : ListenerPort) : Bool :=
  site.listeners.all fun other =>
    other = listenerPort || other.protocol.toLower ≠ listenerPort.protocol.toLower ||
      other.port ≠ listenerPort.port

/-- An id that Neutron can give to a new group. -/
def unused (site : ListenerSite) (sg : String) : Bool :=
  site.sg.table.rules.all (·.securityGroupId ≠ sg)

/-- `_apply_members_security_groups` is called for a member of the pool of a listener,
and by `update_lbaas_sg` for the ports that have a listener. -/
def step (conf : SgConf) : Step ListenerSite ListenerLabel
  | site, .ensureListener listenerPort newGroup refuses ending =>
      if site.accepts listenerPort then
        match ending with
        | .unsupported => some site
        | .groupNotCreated =>
            if (site.sg.findListenersSg false).isNone then
              some { site with listeners := site.listeners.insert listenerPort }
            else none
        | .ensured =>
            if site.unused newGroup then
              some {
                listeners := site.listeners.insert listenerPort
                sg := site.sg.createLbSecurityGroupRule conf refuses newGroup listenerPort }
            else none
      else none
  | site, .applyMembersSecurityGroups listenerPort targetPort newSgs refuses =>
      if listenerPort ∈ site.listeners then
        some { site with
          sg := site.sg.applyMembersSecurityGroups conf refuses listenerPort targetPort newSgs }
      else none
  | site, .releaseListener listenerPort =>
      if site.accepts listenerPort then
        some {
          listeners := site.listeners.filter (· ≠ listenerPort)
          sg := site.sg.releaseListenerRule conf listenerPort }
      else none
  | site, .addRule request =>
      if request.securityGroupId ∈ site.sg.named then none
      else some { site with sg := { site.sg with table := site.sg.table.add request } }
  | site, .removeRule id =>
      if site.sg.lbRules.any (·.id = id) then none
      else some { site with sg := { site.sg with table := site.sg.table.delete id } }

/-- Before the first listener, with the groups of the pods. -/
def start (securityGroups : List String) (table : RuleTable) : ListenerSite where
  sg := {
    securityGroups := securityGroups
    table := table }

/-! ## The invariant -/

/-- A rule of the load balancer's group is one that Neutron made with the group, or one
made for a listener. -/
def Accounted (conf : SgConf) (listeners : List ListenerPort) (rule : GroupRule) : Prop :=
  (rule.direction = .egress ∧ rule.description = .text "") ∨
    ∃ listenerPort ∈ listeners, SgState.MadeFor conf rule.toRuleRequest listenerPort

/-- There is at most one group, which the load balancer knows, and its rules are
accounted for. -/
structure Backed (conf : SgConf) (site : ListenerSite) : Prop where
  group : site.sg.named = [] ∨ ∃ sg ∈ site.sg.securityGroups, site.sg.named = [sg]
  accounted : ∀ rule ∈ site.sg.lbRules, Accounted conf site.listeners rule

variable {conf : SgConf} {site after : ListenerSite} {listenerPort : ListenerPort}

theorem backed_start (conf : SgConf) (securityGroups : List String) (table : RuleTable) :
    Backed conf (start securityGroups table) where
  group := .inl rfl
  accounted := by
    intro rule member
    have inGroup := (SgState.mem_lbRules.mp member).2
    exact absurd inGroup List.not_mem_nil

theorem Accounted.mono {listeners more : List ListenerPort} {rule : GroupRule}
    (accounted : Accounted conf listeners rule) (included : ∀ port ∈ listeners, port ∈ more) :
    Accounted conf more rule := by
  rcases accounted with initial | ⟨port, listening, made⟩
  · exact .inl initial
  · exact .inr ⟨port, included port listening, made⟩

/-- Both lookups find the group. -/
theorem findListenersSg_singleton {state : SgState} {sg : String} (byName : Bool)
    (known : sg ∈ state.securityGroups) (named : state.named = [sg]) :
    state.findListenersSg byName = some sg := by
  cases byName <;> simp [SgState.findListenersSg, named, known]

theorem findListenersSg_nil {state : SgState} (byName : Bool) (named : state.named = []) :
    state.findListenersSg byName = none := by
  cases byName <;> simp [SgState.findListenersSg, named]

/-- The operations that leave the group in place and make rules for a listener only. -/
theorem Backed.of_made (backed : Backed conf site) {listeners : List ListenerPort}
    {sg : SgState}
    (included : ∀ port ∈ site.listeners, port ∈ listeners) (listening : listenerPort ∈ listeners)
    (named : sg.named = site.sg.named) (known : sg.securityGroups = site.sg.securityGroups)
    (made : ∀ rule ∈ sg.table.rules, rule ∈ site.sg.table.rules ∨
      SgState.MadeFor conf rule.toRuleRequest listenerPort) :
    Backed conf { listeners, sg } where
  group := by
    simp only [named, known]
    exact backed.group
  accounted := by
    intro rule member
    obtain ⟨inTable, inGroup⟩ := SgState.mem_lbRules.mp member
    rcases made rule inTable with old | new
    · have before : rule ∈ site.sg.lbRules :=
        SgState.mem_lbRules.mpr ⟨old, named ▸ inGroup⟩
      exact (backed.accounted rule before).mono included
    · exact .inr ⟨listenerPort, listening, new⟩

/-! ## The operations keep it -/

/-- The first rule of a listener comes with the group. -/
theorem backed_create_group {refuses : RuleRequest → Bool}
    {newGroup : String} (none : site.sg.named = []) (unused : site.unused newGroup = true) :
    Backed conf {
      listeners := site.listeners.insert listenerPort
      sg := site.sg.createLbSecurityGroupRule conf refuses newGroup listenerPort } := by
  have absent := findListenersSg_nil false none
  constructor
  · right
    use newGroup
    simp [SgState.createLbSecurityGroupRule, absent, SgState.createSecurityGroup, none]
  · intro rule member
    obtain ⟨inTable, inGroup⟩ := SgState.mem_lbRules.mp member
    simp only [SgState.createLbSecurityGroupRule, absent, SgState.createSecurityGroup, none,
      List.nil_append, List.mem_singleton] at inTable inGroup
    rcases RuleTable.mem_create inTable with older | made
    · rcases RuleTable.mem_add older with older | made
      · rcases RuleTable.mem_add older with older | made
        · have other : rule.securityGroupId ≠ newGroup := by
            simpa using List.all_eq_true.mp unused rule older
          exact absurd inGroup other
        · exact .inl ⟨congrArg RuleRequest.direction made, congrArg RuleRequest.description made⟩
      · exact .inl ⟨congrArg RuleRequest.direction made, congrArg RuleRequest.description made⟩
    · exact .inr ⟨listenerPort, List.mem_insert_self, newGroup, "IPv4", _, made⟩

theorem Backed.createLbSecurityGroupRule (backed : Backed conf site)
    {refuses : RuleRequest → Bool} {newGroup : String} (unused : site.unused newGroup = true) :
    Backed conf {
      listeners := site.listeners.insert listenerPort
      sg := site.sg.createLbSecurityGroupRule conf refuses newGroup listenerPort } := by
  rcases backed.group with none | ⟨sg, known, named⟩
  · exact backed_create_group none unused
  · have found := findListenersSg_singleton false known named
    simp only [SgState.createLbSecurityGroupRule, found]
    apply @Backed.of_made _ _ listenerPort backed
    · intro port listening
      exact List.mem_insert_of_mem listening
    · exact List.mem_insert_self
    · rfl
    · rfl
    · intro rule member
      rcases RuleTable.mem_create member with old | made
      · exact .inl old
      · exact .inr ⟨sg, "IPv4", _, made⟩

theorem Backed.applyMembersSecurityGroups (backed : Backed conf site)
    {refuses : RuleRequest → Bool} {targetPort : TargetPort} {newSgs : List String}
    (listening : listenerPort ∈ site.listeners) :
    Backed conf { site with
      sg := site.sg.applyMembersSecurityGroups conf refuses listenerPort targetPort newSgs } := by
  apply @Backed.of_made _ _ listenerPort backed
  · exact fun port listening => listening
  · exact listening
  · simp
  · simp
  · exact fun rule member => SgState.mem_applyMembersSecurityGroups member

/-! ## Releasing a listener -/

/-- A listener that Octavia takes is the only one of its protocol and port. -/
theorem eq_of_accepts (accepted : site.accepts listenerPort = true) {other : ListenerPort}
    (listening : other ∈ site.listeners)
    (sameProtocol : other.protocol.toLower = listenerPort.protocol.toLower)
    (samePort : other.port = listenerPort.port) : other = listenerPort := by
  simpa [sameProtocol, samePort] using List.all_eq_true.mp accepted other listening

/-- The rules for the protocol and port of a listener are those made for it. -/
theorem Backed.madeFor_of_mem_rulesFor (backed : Backed conf site)
    (accepted : site.accepts listenerPort = true) {rule : GroupRule}
    (member : rule ∈ site.sg.rulesFor listenerPort) :
    SgState.MadeFor conf rule.toRuleRequest listenerPort := by
  obtain ⟨inGroup, ingress, protocol, portRange⟩ := SgState.mem_rulesFor.mp member
  rcases backed.accounted rule inGroup with ⟨egress, _⟩ | ⟨other, listening, made⟩
  · exact absurd (ingress.symm.trans egress) (by decide)
  · obtain ⟨_, otherProtocol, otherRange⟩ := made.belongsTo
    have sameProtocol := Option.some.inj (otherProtocol.symm.trans protocol)
    have samePort := congrArg Prod.fst (Option.some.inj (otherRange.symm.trans portRange))
    exact eq_of_accepts accepted listening sameProtocol samePort ▸ made

/-- `listenerName` keeps protocol and port apart. -/
theorem listenerName_injective (conf : SgConf) {first second : ListenerPort}
    (same : conf.listenerName first = conf.listenerName second) : first = second := by
  cases first
  cases second
  simpa [SgConf.listenerName] using same

theorem Backed.belongsTo_of_description (backed : Backed conf site) {rule : GroupRule}
    (inGroup : rule ∈ site.sg.lbRules)
    (described : rule.description = .listener (conf.listenerName listenerPort)) :
    SgState.BelongsTo rule.toRuleRequest listenerPort := by
  rcases backed.accounted rule inGroup with ⟨_, blank⟩ | ⟨other, _, made⟩
  · rw [described] at blank
    exact RuleDescription.noConfusion blank
  · rw [made.description] at described
    exact listenerName_injective conf (RuleDescription.listener.inj described) ▸ made.belongsTo

/-- What `release_listener` takes out is one of the rules of the listener, where there
is one. -/
theorem Backed.releaseListenerRule_cases (backed : Backed conf site)
    (accepted : site.accepts listenerPort = true) :
    (site.sg.rulesFor listenerPort = [] ∧
      site.sg.releaseListenerRule conf listenerPort = site.sg) ∨
    ∃ rule ∈ site.sg.rulesFor listenerPort,
      site.sg.releaseListenerRule conf listenerPort =
        { site.sg with table := site.sg.table.delete rule.id } := by
  rcases backed.group with none | ⟨sg, known, named⟩
  · left
    constructor
    · apply List.eq_nil_iff_forall_not_mem.mpr
      intro rule member
      have inGroup := (SgState.mem_lbRules.mp (SgState.mem_rulesFor.mp member).1).2
      exact absurd (none ▸ inGroup) List.not_mem_nil
    · simp only [SgState.releaseListenerRule, findListenersSg_nil false none]
  · have found := findListenersSg_singleton false known named
    have ofGroup : ∀ rule, rule ∈ site.sg.table.ofGroup sg ↔ rule ∈ site.sg.lbRules := by
      intro rule
      simp [RuleTable.ofGroup, SgState.mem_lbRules, named]
    cases first : (site.sg.table.ofGroup sg).find?
        (·.description = .listener (conf.listenerName listenerPort)) with
    | none =>
        left
        constructor
        · apply List.eq_nil_iff_forall_not_mem.mpr
          intro rule member
          have described := (backed.madeFor_of_mem_rulesFor accepted member).description
          have inGroup := (ofGroup rule).mpr (SgState.mem_rulesFor.mp member).1
          have other := List.find?_eq_none.mp first rule inGroup
          exact other (decide_eq_true described)
        · simp only [SgState.releaseListenerRule, found, first]
    | some rule =>
        right
        have inGroup := (ofGroup rule).mp (List.mem_of_find?_eq_some first)
        have described : rule.description = .listener (conf.listenerName listenerPort) := by
          simpa using List.find?_some first
        refine ⟨rule, SgState.mem_rulesFor.mpr
          ⟨inGroup, backed.belongsTo_of_description inGroup described⟩, ?_⟩
        simp only [SgState.releaseListenerRule, found, first]

/-- Rules of a listener are told apart by their ids. -/
theorem nodup_ids_rulesFor (state : SgState) (listenerPort : ListenerPort) :
    ((state.rulesFor listenerPort).map (·.id)).Nodup :=
  state.table.distinct.sublist ((List.filter_sublist.trans List.filter_sublist).map _)

/-- Taking out one of a list of rules leaves none if there was no other. -/
theorem forall_id_eq_iff {rules : List GroupRule} (distinct : (rules.map (·.id)).Nodup)
    {rule : GroupRule} (member : rule ∈ rules) :
    (∀ other ∈ rules, other.id = rule.id) ↔ rules.length ≤ 1 := by
  constructor
  · intro same
    have ids : rules.map (·.id) = List.replicate rules.length rule.id := by
      apply List.eq_replicate_iff.mpr
      constructor
      · exact List.length_map _
      · intro id listed
        obtain ⟨other, inRules, rfl⟩ := List.mem_map.mp listed
        exact same other inRules
    rw [ids, List.nodup_replicate] at distinct
    exact distinct
  · intro short other inRules
    match rules, short with
    | [only], _ =>
        rw [List.mem_singleton.mp inRules, List.mem_singleton.mp member]

/-- Nothing is left of a listener exactly when it had no more than one rule. -/
theorem Backed.released_iff (backed : Backed conf site)
    (accepted : site.accepts listenerPort = true) :
    (site.sg.releaseListenerRule conf listenerPort).rulesFor listenerPort = [] ↔
      (site.sg.rulesFor listenerPort).length ≤ 1 := by
  rcases backed.releaseListenerRule_cases accepted with ⟨empty, kept⟩ | ⟨rule, member, deleted⟩
  · rw [kept, empty]
    simp
  · rw [← forall_id_eq_iff (nodup_ids_rulesFor site.sg listenerPort) member, deleted,
      List.eq_nil_iff_forall_not_mem]
    constructor
    · intro left other inRules
      by_contra different
      obtain ⟨inGroup, belongs⟩ := SgState.mem_rulesFor.mp inRules
      obtain ⟨inTable, named⟩ := SgState.mem_lbRules.mp inGroup
      apply left other
      apply SgState.mem_rulesFor.mpr
      constructor
      · exact SgState.mem_lbRules.mpr ⟨RuleTable.mem_delete.mpr ⟨inTable, different⟩, named⟩
      · exact belongs
    · intro same other inRules
      obtain ⟨inGroup, belongs⟩ := SgState.mem_rulesFor.mp inRules
      obtain ⟨inTable, named⟩ := SgState.mem_lbRules.mp inGroup
      obtain ⟨before, different⟩ := RuleTable.mem_delete.mp inTable
      have listed := SgState.mem_rulesFor.mpr ⟨SgState.mem_lbRules.mpr ⟨before, named⟩, belongs⟩
      exact different (same other listed)

theorem Backed.releaseListener (backed : Backed conf site)
    (accepted : site.accepts listenerPort = true)
    (short : (site.sg.rulesFor listenerPort).length ≤ 1) :
    Backed conf {
      listeners := site.listeners.filter (· ≠ listenerPort)
      sg := site.sg.releaseListenerRule conf listenerPort } := by
  have none := (backed.released_iff accepted).mpr short
  have narrowed : ∀ rule ∈ (site.sg.releaseListenerRule conf listenerPort).lbRules,
      rule ∈ site.sg.lbRules := by
    intro rule member
    rcases backed.releaseListenerRule_cases accepted with ⟨_, kept⟩ | ⟨gone, _, deleted⟩
    · exact kept ▸ member
    · rw [deleted] at member
      obtain ⟨inTable, named⟩ := SgState.mem_lbRules.mp member
      exact SgState.mem_lbRules.mpr ⟨(RuleTable.mem_delete.mp inTable).1, named⟩
  constructor
  · rcases backed.releaseListenerRule_cases accepted with ⟨_, kept⟩ | ⟨gone, _, deleted⟩
    · simp only [kept]
      exact backed.group
    · simp only [deleted]
      exact backed.group
  · intro rule member
    rcases backed.accounted rule (narrowed rule member) with initial | ⟨other, listening, made⟩
    · exact .inl initial
    · right
      use other
      constructor
      · apply List.mem_filter.mpr
        constructor
        · exact listening
        · apply decide_eq_true
          intro same
          have listed := SgState.mem_rulesFor.mpr ⟨member, same ▸ made.belongsTo⟩
          exact absurd (none ▸ listed) List.not_mem_nil
      · exact made

/-! ## Runs -/

/-- A listener is released with no more than one rule. -/
def oneRule (site : ListenerSite) : ListenerLabel → Bool
  | .releaseListener listenerPort => (site.sg.rulesFor listenerPort).length ≤ 1
  | _ => true

theorem preservedBy_backed (conf : SgConf) :
    PreservedBy (step conf) (fun site label => oneRule site label) (Backed conf) := by
  intro site label after allowed backed taken
  cases label with
  | ensureListener listenerPort newGroup refuses ending =>
      simp only [step, Option.ite_none_right_eq_some] at taken
      obtain ⟨_, taken⟩ := taken
      cases ending with
      | unsupported =>
          obtain rfl := Option.some.inj taken
          exact backed
      | groupNotCreated =>
          simp only [Option.ite_none_right_eq_some, Option.some.injEq] at taken
          obtain ⟨_, rfl⟩ := taken
          apply @Backed.of_made _ _ listenerPort backed
          · intro port listening
            exact List.mem_insert_of_mem listening
          · exact List.mem_insert_self
          · rfl
          · rfl
          · exact fun rule member => .inl member
      | ensured =>
          simp only [Option.ite_none_right_eq_some, Option.some.injEq] at taken
          obtain ⟨unused, rfl⟩ := taken
          exact backed.createLbSecurityGroupRule unused
  | applyMembersSecurityGroups listenerPort targetPort newSgs refuses =>
      simp only [step, Option.ite_none_right_eq_some, Option.some.injEq] at taken
      obtain ⟨listening, rfl⟩ := taken
      exact backed.applyMembersSecurityGroups listening
  | releaseListener listenerPort =>
      simp only [step, Option.ite_none_right_eq_some, Option.some.injEq] at taken
      obtain ⟨accepted, rfl⟩ := taken
      exact backed.releaseListener accepted (of_decide_eq_true allowed)
  | addRule request =>
      simp only [step, Option.ite_none_left_eq_some, Option.some.injEq] at taken
      obtain ⟨other, rfl⟩ := taken
      constructor
      · exact backed.group
      · intro rule member
        obtain ⟨inTable, inGroup⟩ := SgState.mem_lbRules.mp member
        rcases RuleTable.mem_add inTable with old | new
        · exact backed.accounted rule (SgState.mem_lbRules.mpr ⟨old, inGroup⟩)
        · exact absurd (congrArg RuleRequest.securityGroupId new ▸ inGroup) other
  | removeRule id =>
      simp only [step, Option.ite_none_left_eq_some, Option.some.injEq] at taken
      obtain ⟨_, rfl⟩ := taken
      constructor
      · exact backed.group
      · intro rule member
        obtain ⟨inTable, inGroup⟩ := SgState.mem_lbRules.mp member
        have before := (RuleTable.mem_delete.mp inTable).1
        exact backed.accounted rule (SgState.mem_lbRules.mpr ⟨before, inGroup⟩)

/-- While every listener is released with no more than one rule, the ingress rules of
the group belong to listeners that exist, and it is these releases that leave no rule
for the protocol and port. -/
theorem release_listener_leaves_none_iff {conf : SgConf} {securityGroups : List String}
    {table : RuleTable} {labels : List ListenerLabel} {site : ListenerSite}
    (guarded : GuardedRun (step conf) (fun site label => oneRule site label)
      (start securityGroups table) labels site) :
    (∀ rule ∈ site.sg.lbRules, rule.direction = .ingress →
      ∃ listenerPort ∈ site.listeners, SgState.BelongsTo rule.toRuleRequest listenerPort) ∧
    ∀ listenerPort after, step conf site (.releaseListener listenerPort) = some after →
      ((∀ rule ∈ after.sg.lbRules, ¬SgState.BelongsTo rule.toRuleRequest listenerPort) ↔
        (site.sg.rulesFor listenerPort).length ≤ 1) := by
  have backed := guarded.invariant (preservedBy_backed conf)
    (backed_start conf securityGroups table)
  constructor
  · intro rule member ingress
    rcases backed.accounted rule member with ⟨egress, _⟩ | ⟨listenerPort, listening, made⟩
    · exact absurd (ingress.symm.trans egress) (by decide)
    · exact ⟨listenerPort, listening, made.belongsTo⟩
  · intro listenerPort after taken
    simp only [step, Option.ite_none_right_eq_some, Option.some.injEq] at taken
    obtain ⟨accepted, rfl⟩ := taken
    rw [← backed.released_iff accepted, List.eq_nil_iff_forall_not_mem]
    simp [SgState.mem_rulesFor]

/-! ## A policy with two sources -/

/-- The load balancer of the service `default/web`. -/
def web : SgConf where
  name := {
    namespaceName := "default"
    name := "web" }
  podSecurityGroups := ["pods"]

/-- A rule of the group of a policy, for one source. -/
def policyRule (source : String) : RuleRequest where
  securityGroupId := "policy"
  direction := .ingress
  protocol := some "tcp"
  portRange := some (8080, 8080)
  remoteIpPrefix := some source
  description := .text "network-policy"

/-- A listener is made, given the rules of a policy, and released. -/
def comesAndGoes (sources : List String) : List ListenerLabel :=
  sources.map (fun source => .addRule (policyRule source)) ++
    [.ensureListener ⟨"TCP", 80⟩ "lb" (fun _ => false) .ensured,
      .applyMembersSecurityGroups ⟨"TCP", 80⟩ (.number 8080) [] (fun _ => false),
      .releaseListener ⟨"TCP", 80⟩]

/-- One source is one rule, and it goes with the listener. -/
theorem release_listener_leaves_none_one_source :
    ∃ site, run (step web) (comesAndGoes ["10.0.0.0/24"]) (start ["policy"] {}) = some site ∧
      ∀ rule ∈ site.sg.lbRules, rule.direction = .ingress →
        ∃ listenerPort ∈ site.listeners,
          SgState.BelongsTo rule.toRuleRequest listenerPort := by
  rcases ran : runIf (step web) (fun site label => oneRule site label)
      (comesAndGoes ["10.0.0.0/24"]) (start ["policy"] {}) with _ | site
  · have ends : (runIf (step web) (fun site label => oneRule site label)
        (comesAndGoes ["10.0.0.0/24"]) (start ["policy"] {})).isSome = true := by
      decide +kernel
    rw [ran] at ends
    exact absurd ends Bool.false_ne_true
  · have guarded := guardedRun_of_runIf ran
    exact ⟨site, guarded.run_eq_some, (release_listener_leaves_none_iff guarded).1⟩

/-- With two sources a rule stays behind without its listener. -/
theorem release_listener_leaves_second_source :
    ∃ site, run (step web) (comesAndGoes ["10.0.0.0/24", "10.0.1.0/24"])
        (start ["policy"] {}) = some site ∧
      site.listeners = [] ∧
      ∃ rule ∈ site.sg.lbRules, SgState.BelongsTo rule.toRuleRequest ⟨"TCP", 80⟩ := by
  have ends : (run (step web) (comesAndGoes ["10.0.0.0/24", "10.0.1.0/24"])
      (start ["policy"] {})).any (fun site => decide (site.listeners = [] ∧
        ∃ rule ∈ site.sg.lbRules, SgState.BelongsTo rule.toRuleRequest ⟨"TCP", 80⟩)) = true := by
    decide +kernel
  rcases ran : run (step web) (comesAndGoes ["10.0.0.0/24", "10.0.1.0/24"])
      (start ["policy"] {}) with _ | site
  · rw [ran] at ends
    exact absurd ends Bool.false_ne_true
  · rw [ran] at ends
    exact ⟨site, rfl, of_decide_eq_true ends⟩

end ListenerSite

end KuryrKubernetes.Lbaas

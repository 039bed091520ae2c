import KuryrKubernetes.Policy.GroupCreation

/-!
# The group is deleted again

An exception of a service that leaves the function before the `KuryrNetPolicy` is stored
should leave no security group behind.  It does so where Neutron does not raise after it has
created the group, carries out the deletion in the handlers, and no exception of Kubernetes
leaves the parser, which no handler is for.
-/

namespace KuryrKubernetes.Policy.GroupCreation

open KuryrKubernetes.Data
open KuryrKubernetes.Effect

/-! ## While the group is filled -/

/-- Beside the groups of the start there may be one more; nothing is stored. -/
structure Filling (start : Site) (sgId : Nat) (site : Site) : Prop where
  groups : ∀ id ∈ site.groups, id ∈ start.groups ∨ id = sgId
  answers : site.answers = start.answers
  resources : site.resources = start.resources

/-- The program works on one group, and its exceptions are not those of Kubernetes. -/
def Fills {α : Type} (start : Site) (sgId : Nat) (program : SiteM α) : Prop :=
  Leads (Filling start sgId) program (fun _ => Filling start sgId)
    fun ex site => ex.isK8sClientException = false ∧ Filling start sgId site

theorem not_k8s_of_sdk {ex : PyException} (sdk : ex.isSdkException) :
    ex.isK8sClientException = false := by
  cases ex <;> first | rfl | cases sdk

section Fills

variable {α β : Type} {start : Site} {sgId : Nat}

theorem fills_pure (value : α) : Fills start sgId (pure value) :=
  leads_pure fun _ filling => filling

theorem fills_throw {ex : PyException} (other : ex.isK8sClientException = false) :
    Fills start sgId (throw ex : SiteM α) :=
  leads_throw fun _ filling => ⟨other, filling⟩

theorem Fills.bind {first : SiteM α} {next : α → SiteM β} (head : Fills start sgId first)
    (tail : ∀ value, Fills start sgId (next value)) : Fills start sgId (first >>= next) :=
  Leads.bind head tail

/-- A call of Neutron raises an exception of Neutron, or what its operation raises. -/
theorem fills_neutron {call : NeutronCall} {operation : SiteM α}
    (fills : Fills start sgId operation) : Fills start sgId (neutron call operation) := by
  apply leads_serve_of fills
  · intro ex site refused filling
    rcases ending : site.answers.neutron call with _ | ⟨raised, sdk⟩ | ⟨raised, sdk⟩
    all_goals rw [ending] at refused; cases refused
    exact ⟨not_k8s_of_sdk sdk, filling⟩
  · intro _ ex before after cut _ filling
    rcases ending : before.answers.neutron call with _ | ⟨raised, sdk⟩ | ⟨raised, sdk⟩
    all_goals rw [ending] at cut; cases cut
    exact ⟨not_k8s_of_sdk sdk, filling⟩

theorem Filling.changeRules {site : Site} (filling : Filling start sgId site)
    (change : Dict Nat RuleRequest → Dict Nat RuleRequest) :
    Filling start sgId (site.changeRules sgId change) := by
  unfold Site.changeRules
  split
  · exact filling
  · constructor
    · intro id present
      rcases Dict.mem_set.mp present with new | old
      · exact .inr new
      · exact filling.groups id old
    · exact filling.answers
    · exact filling.resources

theorem fills_deleteSecurityGroupRule (call : NeutronCall) (id : Nat) :
    Fills start sgId (NetworkClient.deleteSecurityGroupRule call sgId id) := by
  apply fills_neutron
  intro before filling
  constructor
  · intro _ after ran
    cases ran
    exact filling.changeRules _
  · intro _ _ ran
    cases ran

theorem fills_tagNeutronResources (config : Config) :
    Fills start sgId (NetworkPolicyDriver.tagNeutronResources config) := by
  unfold NetworkPolicyDriver.tagNeutronResources
  split
  · exact fills_pure _
  · apply Leads.tryCatch (fills_neutron (fills_pure _))
    intro ex
    split
    · exact leads_pure fun _ raised => raised.2
    · exact leads_throw fun _ raised => raised

theorem fills_createSecurityGroupRule (call : NeutronCall) (request : RuleRequest) :
    Fills start sgId (createSecurityGroupRule call sgId request) := by
  have created : Fills start sgId (NetworkClient.createSecurityGroupRule call sgId request) := by
    apply fills_neutron
    intro before filling
    rw [exec_get_bind]
    split
    · exact fills_throw rfl before filling
    · constructor
      · intro _ after ran
        cases ran
        have changed := filling.changeRules (·.set before.nextRule request)
        exact ⟨changed.groups, changed.answers, changed.resources⟩
      · intro _ _ ran
        cases ran
  apply Leads.tryCatch created
  intro ex
  split
  · intro before raised
    rw [exec_get_bind]
    exact fills_pure _ before raised.2
  · exact leads_throw fun _ raised => raised

theorem fills_settle {outcome : Except PyException α}
    (other : ∀ ex, outcome = .error ex → ex.isK8sClientException = false) :
    Fills start sgId (settle outcome) := by
  cases outcome with
  | ok value => exact fills_pure value
  | error ex => exact fills_throw (other ex rfl)

theorem fills_ofParsed (rule : ParsedRule) :
    Fills start sgId (settle (RuleRequest.ofParsed rule)) := by
  apply fills_settle
  intro ex raised
  cases rule with
  | rule body pods => cases raised
  | everything id direction => cases raised
  | nested bodies =>
      cases raised
      rfl

theorem fills_createRules (direction : Direction) (position : Nat) (rules : List ParsedRule) :
    Fills start sgId (createRules sgId direction position rules) := by
  induction rules generalizing position with
  | nil => exact fills_pure _
  | cons rule rest ih =>
      unfold createRules
      apply (fills_ofParsed rule).bind
      intro request
      apply (fills_createSecurityGroupRule _ request).bind
      intro id
      apply (ih (position + 1)).bind
      intro others
      exact fills_pure _

theorem fills_subnetCidrs (config : Config) (subnets : List String) :
    Fills start sgId (NetworkPolicyDriver.subnetCidrs config subnets) := by
  induction subnets with
  | nil => exact fills_pure _
  | cons subnetId rest ih =>
      unfold NetworkPolicyDriver.subnetCidrs
      apply (fills_neutron (fills_pure _)).bind
      intro cidr
      apply ih.bind
      intro others
      exact fills_pure _

theorem fills_createDefaultNpRules (cidrs : List String) :
    Fills start sgId (NetworkPolicyDriver.createDefaultNpRules sgId cidrs) := by
  induction cidrs with
  | nil => exact fills_pure _
  | cons cidr rest ih =>
      unfold NetworkPolicyDriver.createDefaultNpRules
      apply (fills_createSecurityGroupRule _ _).bind
      intro _
      exact ih

theorem fills_addDefaultNpRules (config : Config) :
    Fills start sgId (NetworkPolicyDriver.addDefaultNpRules config sgId) :=
  (fills_subnetCidrs config _).bind fun cidrs => fills_createDefaultNpRules cidrs

/-- Where no exception of Kubernetes leaves the parser, none leaves while the group is
filled. -/
theorem fills_fillSecurityGroup (config : Config) (cluster : Cluster) (text : AddressText)
    (policy : NetworkPolicy) (securityGroupRules : List Nat)
    (parsed : ∀ ex, NetworkPolicyDriver.parsing cluster text policy start.answers.queries sgId =
      .error ex → ex.isK8sClientException = false) :
    Fills start sgId (NetworkPolicyDriver.fillSecurityGroup config cluster text policy sgId
      securityGroupRules) := by
  unfold NetworkPolicyDriver.fillSecurityGroup
  apply (fills_tagNeutronResources config).bind
  intro _
  have emptied : Fills start sgId (securityGroupRules.forM fun id =>
      NetworkClient.deleteSecurityGroupRule (.deleteDefaultRule id) sgId id) :=
    Leads.forM fun id _ => fills_deleteSecurityGroupRule _ id
  apply emptied.bind
  intro _ before filling
  rw [exec_get_bind, filling.answers]
  apply Fills.bind (fills_settle parsed) _ before filling
  intro rules
  apply (fills_createRules .ingress 0 rules.1).bind
  intro iRules
  apply (fills_createRules .egress 0 rules.2).bind
  intro eRules
  apply (fills_addDefaultNpRules config).bind
  intro _
  exact fills_pure _

end Fills

/-! ## The whole function -/

section Whole

variable (config : Config) (cluster : Cluster) (text : AddressText) (policy : NetworkPolicy)
  (projectId : String)

/-- An exception that a service or its state is the reason of. -/
def FromService (ex : PyException) : Prop :=
  ex.isSdkException ∨ ex = .resourceNotReady ∨ ex.isK8sClientException

/-- Where an exception of a service leaves the function before the resource is stored,
the groups are those that were there. -/
def LeavesNoGroup (site : Site) : Prop :=
  ∀ ex after,
    exec (NetworkPolicyDriver.createSecurityGroupRulesFromNetworkPolicy config cluster text policy
      projectId) site = (.error ex, after) →
    FromService ex → after.resources = site.resources → ∀ id ∈ after.groups, id ∈ site.groups

/-- No exception of Kubernetes leaves the parser: its queries are answered, and from the
answers it does not raise one itself. -/
def ParserSpared (queries : List (Option K8sException)) (sgId : Nat) : Prop :=
  (∀ answer ∈ queries, answer = none) ∧
    ∀ ex, parseNetworkPolicyRules cluster text policy (toString sgId) = .error ex →
      ex.isK8sClientException = false

theorem parserSpared_iff (queries : List (Option K8sException)) (sgId : Nat) :
    ParserSpared cluster text policy queries sgId ↔
      ∀ ex, NetworkPolicyDriver.parsing cluster text policy queries sgId = .error ex →
        ex.isK8sClientException = false := by
  unfold NetworkPolicyDriver.parsing
  rcases failed : queries.findSome? id with _ | raised
  · have answered : ∀ answer ∈ queries, answer = none := List.findSome?_eq_none_iff.mp failed
    constructor
    · intro spared
      exact spared.2
    · intro spared
      exact ⟨answered, spared⟩
  · constructor
    · rintro ⟨answered, _⟩
      rcases List.exists_of_findSome?_eq_some failed with ⟨answer, member, value⟩
      rw [answered answer member] at value
      cases value
    · intro spared
      have other := spared raised.val rfl
      rw [raised.property] at other
      cases other

variable {config cluster text policy projectId}

/-- What the property says of a state that an exception of a service leaves. -/
def Restored (start site : Site) : Prop :=
  site.resources = start.resources → ∀ id ∈ site.groups, id ∈ start.groups

/-- The group is deleted, where that is not refused. -/
theorem leads_deleteSecurityGroup {start : Site} (sgId : Nat)
    (removed : ∀ ex, start.answers.neutron .deleteSecurityGroup ≠ .refused ex) :
    Leads (fun site => Filling start sgId site ∨ site.resources ≠ start.resources)
      (NetworkClient.deleteSecurityGroup sgId) (fun _ => Restored start)
      fun _ => Restored start := by
  apply leads_serve_of
  · intro before given
    constructor
    · intro _ after ran same id present
      cases ran
      rcases given with filling | stored
      · have left := Dict.mem_erase.mp present
        rcases filling.groups id left.2 with old | new
        · exact old
        · exact absurd new left.1
      · exact absurd same stored
    · intro _ _ ran
      cases ran
  · intro ex site refused given same
    rcases given with filling | stored
    · rw [filling.answers] at refused
      rcases ending : start.answers.neutron .deleteSecurityGroup with _ | raised | raised
      all_goals rw [ending] at refused; cases refused
      exact absurd ending (removed raised)
    · exact absurd same stored
  · intro _ _ _ after _ _ restored
    exact restored

/-- After the first `try` the group is there, or an exception has left it that the property is
not about, or the groups are those of the start. -/
theorem leads_createSecurityGroup {start : Site}
    (uncut : ∀ ex, start.answers.neutron .createSecurityGroup ≠ .cut ex)
    (removed : ∀ ex, start.answers.neutron .deleteSecurityGroup ≠ .refused ex)
    (spared : ParserSpared cluster text policy start.answers.queries start.groups.freshKey) :
    Leads (· = start)
      (NetworkPolicyDriver.createSecurityGroup config cluster text policy projectId)
      (fun result => Filling start result.1)
      fun ex after => FromService ex → Restored start after := by
  have created : Leads (· = start)
      (NetworkClient.createSecurityGroup
        ("sg-" ++ policy.namespaceName ++ "-" ++ policy.name) projectId)
      (fun sg site => sg.1 = start.groups.freshKey ∧ Filling start sg.1 site)
      fun ex after => FromService ex → Restored start after := by
    apply leads_serve_of
    · rintro before rfl
      constructor
      · intro sg after ran
        cases ran
        constructor
        · rfl
        · constructor
          · intro id present
            exact (Dict.mem_set.mp present).symm
          · rfl
          · rfl
      · intro _ _ ran
        cases ran
    · rintro ex site _ rfl _ _ id present
      exact present
    · rintro _ ex before _ cut rfl _
      rcases ending : before.answers.neutron .createSecurityGroup with _ | raised | raised
      all_goals rw [ending] at cut; cases cut
      exact absurd ending (uncut raised)
  apply created.bind
  rintro ⟨sgId, securityGroupRules⟩
  apply Leads.of_fact
  rintro rfl
  have filled := fills_fillSecurityGroup config cluster text policy securityGroupRules
    ((parserSpared_iff cluster text policy _ _).mp spared)
  have guarded : Leads (Filling start start.groups.freshKey)
      (tryCatch (NetworkPolicyDriver.fillSecurityGroup config cluster text policy
        start.groups.freshKey securityGroupRules) fun ex =>
          if ex.isSdkException ∨ ex = .resourceNotReady then do
            NetworkClient.deleteSecurityGroup start.groups.freshKey
            throw ex
          else
            throw ex)
      (fun _ => Filling start start.groups.freshKey)
      fun ex after => FromService ex → Restored start after := by
    apply Leads.tryCatch filled
    intro ex
    split
    · have deleted := leads_deleteSecurityGroup start.groups.freshKey removed
      apply (deleted.weaken fun _ caught => .inl caught.2).bind_of
      · intro _ _ restored _
        exact restored
      · intro _
        exact leads_throw fun _ restored _ => restored
    · rename_i missed
      apply leads_throw
      rintro site ⟨other, _⟩ (sdk | notReady | k8s)
      · exact absurd (.inl sdk) missed
      · exact absurd (.inr notReady) missed
      · rw [k8s] at other
        cases other
  apply guarded.bind
  intro rules
  exact leads_pure fun _ filling => filling

/-- After the second `try` the resource is stored. -/
theorem leads_storeCrd {start : Site} (sgId : Nat) (crd : KuryrNetPolicy)
    (removed : ∀ ex, start.answers.neutron .deleteSecurityGroup ≠ .refused ex) :
    Leads (Filling start sgId) (NetworkPolicyDriver.storeCrd sgId crd)
      (fun _ site => site.resources ≠ start.resources) fun _ => Restored start := by
  have posted : Leads (Filling start sgId)
      (kubernetes .post (modify fun site => { site with resources := site.resources ++ [crd] }))
      (fun _ site => site.resources ≠ start.resources)
      fun ex site => ex.isK8sClientException ∧
        (Filling start sgId site ∨ site.resources ≠ start.resources) := by
    apply leads_serve_of
    · intro before filling
      constructor
      · intro _ after ran
        cases ran
        change before.resources ++ [crd] ≠ start.resources
        rw [filling.resources]
        intro same
        exact List.cons_ne_nil crd [] (List.append_right_eq_self.mp same)
      · intro _ _ ran
        cases ran
    · intro ex site refused filling
      rcases ending : site.answers.kubernetes .post with _ | ⟨raised, k8s⟩ | ⟨raised, k8s⟩
      all_goals rw [ending] at refused; cases refused
      exact ⟨k8s, .inl filling⟩
    · intro _ ex before after cut _ stored
      rcases ending : before.answers.kubernetes .post with _ | ⟨raised, k8s⟩ | ⟨raised, k8s⟩
      all_goals rw [ending] at cut; cases cut
      exact ⟨k8s, .inr stored⟩
  apply Leads.tryCatch posted
  intro ex
  apply Leads.of_fact
  intro k8s
  rw [if_pos k8s]
  apply (leads_deleteSecurityGroup sgId removed).bind
  intro _
  exact leads_throw fun _ restored => restored

/-- The resource stays. -/
theorem leads_annotatePolicy {start : Site} :
    Leads (fun site => site.resources ≠ start.resources) (NetworkPolicyDriver.annotatePolicy policy)
      (fun _ site => site.resources ≠ start.resources) fun _ => Restored start := by
  have vacuous : ∀ site : Site, site.resources ≠ start.resources → Restored start site :=
    fun _ stored same => absurd same stored
  have read : Leads (fun site => site.resources ≠ start.resources)
      (NetworkPolicyDriver.getKuryrnetpolicyCrd policy)
      (fun _ site => site.resources ≠ start.resources) fun _ => Restored start := by
    have found : Leads (fun site => site.resources ≠ start.resources)
        (NetworkPolicyDriver.getCrd policy)
        (fun _ site => site.resources ≠ start.resources)
        fun _ site => site.resources ≠ start.resources := by
      apply leads_serve
      · intro before stored
        rw [exec_get_bind]
        split
        · exact leads_throw (fun _ given => given) before stored
        · exact leads_pure (fun _ given => given) before stored
      · intro _ _ stored
        exact stored
      · intro _ _ _ stored
        exact stored
    apply Leads.tryCatch found
    intro ex
    split
    · exact leads_pure fun _ stored => stored
    · exact leads_throw vacuous
  apply read.bind
  rintro (_ | crd)
  · exact leads_throw vacuous
  · apply leads_serve
    · intro before stored
      constructor
      · intro _ after ran
        cases ran
        exact stored
      · intro _ _ ran
        cases ran
    · intro _ site stored
      exact vacuous site stored
    · intro _ _ site stored
      exact vacuous site stored

/-- The group is deleted where the creation is not cut, the deletion is not refused, and no
exception of Kubernetes leaves the parser. -/
theorem leavesNoGroup_of_spared {start : Site}
    (uncut : ∀ ex, start.answers.neutron .createSecurityGroup ≠ .cut ex)
    (removed : ∀ ex, start.answers.neutron .deleteSecurityGroup ≠ .refused ex)
    (spared : ParserSpared cluster text policy start.answers.queries start.groups.freshKey) :
    LeavesNoGroup config cluster text policy projectId start := by
  have whole : Leads (· = start)
      (NetworkPolicyDriver.createSecurityGroupRulesFromNetworkPolicy config cluster text policy
        projectId)
      (fun _ site => site.resources ≠ start.resources)
      fun ex after => FromService ex → Restored start after := by
    apply (leads_createSecurityGroup uncut removed spared).bind
    rintro ⟨sgId, iRules, eRules⟩
    have stored := leads_storeCrd sgId
      (NetworkPolicyDriver.netpolicyCrd policy sgId iRules eRules) removed
    apply stored.bind_of
    · intro _ _ restored _
      exact restored
    · intro _
      apply leads_annotatePolicy.mono
      · intro _ _ still
        exact still
      · intro _ _ restored _
        exact restored
  intro ex after ran service
  exact (whole start rfl).2 ex after ran service

/-- Before there is a group there is nothing to delete. -/
theorem leavesNoGroup_of_refused {start : Site} {ex : SdkException}
    (refused : start.answers.neutron .createSecurityGroup = .refused ex) :
    LeavesNoGroup config cluster text policy projectId start := by
  intro raised after ran _ _ id present
  have stopped : exec (NetworkPolicyDriver.createSecurityGroupRulesFromNetworkPolicy config cluster
      text policy projectId) start = (.error ex.val, start) := by
    apply exec_bind_of_error
    apply exec_bind_of_error
    apply exec_serve_of_refused
    rw [refused]
  rw [stopped] at ran
  cases ran
  exact present

/-! ## Groups that stay -/

/-- The site once the group is created. -/
def begun (policy : NetworkPolicy) (projectId : String) (start : Site) : Site :=
  { start with
    groups := start.groups.set start.groups.freshKey
      { name := "sg-" ++ policy.namespaceName ++ "-" ++ policy.name
        projectId
        rules := Dict.ofList
          [(start.nextRule, .everything .egress), (start.nextRule + 1, .everything .egress)] }
    nextRule := start.nextRule + 2 }

/-- The rules that Neutron gives the group. -/
def givenRules (start : Site) : List Nat :=
  [start.nextRule, start.nextRule + 1]

theorem mem_begun (policy : NetworkPolicy) (projectId : String) (start : Site) :
    start.groups.freshKey ∈ (begun policy projectId start).groups :=
  Dict.mem_set.mpr (.inl rfl)

/-- Where Neutron raises after it has created the group, the group stays. -/
theorem stays_of_cut {start : Site} {ex : SdkException}
    (cut : start.answers.neutron .createSecurityGroup = .cut ex) :
    ¬LeavesNoGroup config cluster text policy projectId start := by
  intro leaves
  have raised : exec (NetworkPolicyDriver.createSecurityGroupRulesFromNetworkPolicy config cluster
      text policy projectId) start = (.error ex.val, begun policy projectId start) := by
    apply exec_bind_of_error
    apply exec_bind_of_error
    apply exec_serve_of_cut_of_ok
    · rw [cut]
    · rfl
  exact Dict.freshKey_not_mem start.groups
    (leaves ex.val _ raised (.inl ex.property) rfl _ (mem_begun policy projectId start))

/-- What leaves the first `try` leaves the function. -/
theorem exec_of_fill_error {start after : Site} {ex raised : PyException} {final : Site}
    (served : start.answers.neutron .createSecurityGroup = .served)
    (filled : exec (NetworkPolicyDriver.fillSecurityGroup config cluster text policy
      start.groups.freshKey (givenRules start)) (begun policy projectId start) = (.error ex, after))
    (handled : exec (if ex.isSdkException ∨ ex = .resourceNotReady then do
        NetworkClient.deleteSecurityGroup start.groups.freshKey
        throw ex
      else
        throw ex : SiteM (List SgRuleEntry × List SgRuleEntry)) after =
          (.error raised, final)) :
    exec (NetworkPolicyDriver.createSecurityGroupRulesFromNetworkPolicy config cluster text policy
      projectId) start = (.error raised, final) := by
  have created : exec (NetworkClient.createSecurityGroup
      ("sg-" ++ policy.namespaceName ++ "-" ++ policy.name) projectId) start =
        (.ok (start.groups.freshKey, givenRules start), begun policy projectId start) := by
    apply exec_serve_of_served
    rw [served]
  apply exec_bind_of_error
  unfold NetworkPolicyDriver.createSecurityGroup
  rw [exec_bind_of_ok created]
  apply exec_bind_of_error
  rw [exec_tryCatch, filled]
  exact handled

/-- Tags are not insisted on. -/
theorem exec_tagNeutronResources (site : Site) :
    exec (NetworkPolicyDriver.tagNeutronResources config) site = (.ok ⟨⟩, site) := by
  unfold NetworkPolicyDriver.tagNeutronResources
  split
  · rfl
  · rw [exec_tryCatch]
    rcases ending : site.answers.neutron .setTags with _ | ⟨ex, sdk⟩ | ⟨ex, sdk⟩
    · have served : exec (neutron .setTags (pure ⟨⟩ : SiteM PUnit)) site = (.ok ⟨⟩, site) := by
        apply exec_serve_of_served
        rw [ending]
        rfl
      rw [served]
    · have refused : exec (neutron .setTags (pure ⟨⟩ : SiteM PUnit)) site = (.error ex, site) := by
        apply exec_serve_of_refused
        rw [ending]
        rfl
      rw [refused]
      dsimp only
      rw [if_pos sdk]
      rfl
    · have cut : exec (neutron .setTags (pure ⟨⟩ : SiteM PUnit)) site = (.error ex, site) := by
        apply exec_serve_of_cut_of_ok
        · rw [ending]
          rfl
        · rfl
      rw [cut]
      dsimp only
      rw [if_pos sdk]
      rfl

/-- Where the deletion is refused, the group stays after a failure of Neutron. -/
theorem stays_of_refused {start : Site} {ex : SdkException}
    (served : start.answers.neutron .createSecurityGroup = .served)
    (failed : start.answers.neutron (.deleteDefaultRule start.nextRule) =
      .refused ⟨.sdkException, rfl⟩)
    (refused : start.answers.neutron .deleteSecurityGroup = .refused ex) :
    ¬LeavesNoGroup config cluster text policy projectId start := by
  intro leaves
  have kept : exec (NetworkClient.deleteSecurityGroupRule (.deleteDefaultRule start.nextRule)
      start.groups.freshKey start.nextRule) (begun policy projectId start) = (.error .sdkException, begun policy projectId start) := by
    apply exec_serve_of_refused
    change (start.answers.neutron (.deleteDefaultRule start.nextRule)).map Subtype.val = _
    rw [failed]
    rfl
  have filled : exec (NetworkPolicyDriver.fillSecurityGroup config cluster text policy
      start.groups.freshKey (givenRules start)) (begun policy projectId start) =
        (.error .sdkException, begun policy projectId start) := by
    unfold NetworkPolicyDriver.fillSecurityGroup
    rw [exec_bind_of_ok (exec_tagNeutronResources _)]
    apply exec_bind_of_error
    rw [givenRules, forM_cons_eq]
    exact exec_bind_of_error kept
  have raised : exec (NetworkPolicyDriver.createSecurityGroupRulesFromNetworkPolicy config cluster
      text policy projectId) start = (.error ex.val, begun policy projectId start) := by
    apply exec_of_fill_error served filled
    rw [if_pos (.inl rfl)]
    apply exec_bind_of_error
    apply exec_serve_of_refused
    change (start.answers.neutron .deleteSecurityGroup).map Subtype.val = _
    rw [refused]
    rfl
  exact Dict.freshKey_not_mem start.groups
    (leaves ex.val _ raised (.inl ex.property) rfl _ (mem_begun policy projectId start))

/-- Groups stay where their rules change. -/
theorem mem_changeRules {site : Site} {sgId id : Nat}
    (change : Dict Nat RuleRequest → Dict Nat RuleRequest) (present : id ∈ site.groups) :
    id ∈ (site.changeRules sgId change).groups := by
  unfold Site.changeRules
  split
  · exact present
  · exact Dict.mem_set.mpr (.inr present)

theorem answers_changeRules (site : Site) (sgId : Nat)
    (change : Dict Nat RuleRequest → Dict Nat RuleRequest) :
    (site.changeRules sgId change).answers = site.answers := by
  unfold Site.changeRules
  split <;> rfl

theorem resources_changeRules (site : Site) (sgId : Nat)
    (change : Dict Nat RuleRequest → Dict Nat RuleRequest) :
    (site.changeRules sgId change).resources = site.resources := by
  unfold Site.changeRules
  split <;> rfl

/-- The deletion of the default rules, where it is carried out, leaves the groups. -/
theorem exec_deletions (sgId : Nat) (ids : List Nat) {site : Site}
    (deleted : ∀ id, site.answers.neutron (.deleteDefaultRule id) = .served) :
    ∃ after, exec (ids.forM fun id =>
        NetworkClient.deleteSecurityGroupRule (.deleteDefaultRule id) sgId id) site =
          (.ok ⟨⟩, after) ∧
      after.answers = site.answers ∧ after.resources = site.resources ∧
        ∀ id ∈ site.groups, id ∈ after.groups := by
  induction ids generalizing site with
  | nil => exact ⟨site, rfl, rfl, rfl, fun _ present => present⟩
  | cons id rest ih =>
      have first : exec
          (NetworkClient.deleteSecurityGroupRule (.deleteDefaultRule id) sgId id) site =
            (.ok ⟨⟩, site.changeRules sgId (·.erase id)) := by
        apply exec_serve_of_served
        rw [deleted id]
      have still : ∀ other, (site.changeRules sgId (·.erase id)).answers.neutron
          (.deleteDefaultRule other) = .served := by
        intro other
        rw [answers_changeRules]
        exact deleted other
      rcases ih still with ⟨after, ran, answers, resources, groups⟩
      refine ⟨after, ?_, ?_, ?_, ?_⟩
      · rw [forM_cons_eq, exec_bind_of_ok first, ran]
      · exact answers.trans (answers_changeRules _ _ _)
      · exact resources.trans (resources_changeRules _ _ _)
      · intro other present
        exact groups other (mem_changeRules _ present)

/-- Where an exception of Kubernetes leaves the parser, the group stays. -/
theorem stays_of_parsing {start : Site} {ex : PyException} (k8s : ex.isK8sClientException)
    (served : start.answers.neutron .createSecurityGroup = .served)
    (deleted : ∀ id, start.answers.neutron (.deleteDefaultRule id) = .served)
    (parsed : NetworkPolicyDriver.parsing cluster text policy start.answers.queries
      start.groups.freshKey = .error ex) :
    ¬LeavesNoGroup config cluster text policy projectId start := by
  intro leaves
  have begunDeleted : ∀ id, (begun policy projectId start).answers.neutron
      (.deleteDefaultRule id) = .served := deleted
  rcases exec_deletions start.groups.freshKey (givenRules start) begunDeleted with
    ⟨empty, looped, answers, resources, groups⟩
  have filled : exec (NetworkPolicyDriver.fillSecurityGroup config cluster text policy
      start.groups.freshKey (givenRules start)) (begun policy projectId start) = (.error ex, empty) := by
    have unchanged : empty.answers.queries = start.answers.queries :=
      congrArg Answers.queries answers
    unfold NetworkPolicyDriver.fillSecurityGroup
    rw [exec_bind_of_ok (exec_tagNeutronResources _), exec_bind_of_ok looped, exec_get_bind,
      unchanged, parsed, settle_error, exec_throw_bind]
  have raised : exec (NetworkPolicyDriver.createSecurityGroupRulesFromNetworkPolicy config cluster
      text policy projectId) start = (.error ex, empty) := by
    apply exec_of_fill_error served filled
    have missed : ¬(ex.isSdkException ∨ ex = .resourceNotReady) := by
      rintro (sdk | rfl)
      · rw [not_k8s_of_sdk sdk] at k8s
        cases k8s
      · cases k8s
    rw [if_neg missed]
    rfl
  exact Dict.freshKey_not_mem start.groups
    (leaves ex _ raised (.inr (.inr k8s)) resources _ (groups _ (mem_begun policy projectId start)))

end Whole

/-! ## The roll-back -/

/-- How the services may answer where the creation and the deletion of the group and the
queries of the parser end as given. -/
structure Answering (creation removal : Ending SdkException) (queries : List (Option K8sException))
    (answers : Answers) : Prop where
  creation : answers.neutron .createSecurityGroup = creation
  removal : answers.neutron .deleteSecurityGroup = removal
  queries : answers.queries = queries

/-- The other calls of Neutron end as given, in one way for all. -/
def answersWith (creation removal others : Ending SdkException)
    (queries : List (Option K8sException)) : Answers where
  neutron call :=
    match call with
    | .createSecurityGroup => creation
    | .deleteSecurityGroup => removal
    | _ => others
  queries

theorem answering_answersWith (creation removal others : Ending SdkException)
    (queries : List (Option K8sException)) :
    Answering creation removal queries (answersWith creation removal others queries) :=
  ⟨rfl, rfl, rfl⟩

namespace Leaking

def config : Config where
  resourceTags := []
  enforceSgRules := false
  serviceSubnet := ""
  workerNodesSubnet := none
  cidrOf _ := ""

def text : AddressText where
  contains _ _ := none
  exclude _ _ := []

def policy : NetworkPolicy where
  name := "allow-web"
  namespaceName := "shop"
  spec :=
    { ingress :=
        [{ peers := [{ podSelector := some { matchLabels := Dict.ofList [("app", "web")] } }] }] }

def site : Site where
  answers := { queries := [some ⟨.k8sClientException, rfl⟩] }

end Leaking

end KuryrKubernetes.Policy.GroupCreation

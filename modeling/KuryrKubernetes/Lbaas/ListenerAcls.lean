import KuryrKubernetes.Effect.Serve
import KuryrKubernetes.Lbaas.SgRules

/-!
# The access lists of listeners

Where Octavia supports them, `_create_listeners_acls` gives a listener the CIDRs of the rules
of the groups of the pods behind it, for the protocol and the target port of the listener.  No
list at all leaves the listener open to everyone, and an empty list disables it.
-/

namespace KuryrKubernetes.Lbaas.Acls

open KuryrKubernetes.Data
open KuryrKubernetes.Effect

/-! ## Rules and listeners -/

/-- A rule as Neutron lists it. -/
structure SecurityGroupRule where
  direction : RuleDirection := .ingress
  protocol : Option String := none
  portRange : Option (Nat × Nat) := none
  remoteIpPrefix : Option String := none
  remoteGroupId : Option String := none
  deriving DecidableEq

/-- What `update_listener` sets. -/
structure ListenerAcl where
  allowedCidrs : Option (List String) := none
  adminStateUp : Bool := true
  deriving DecidableEq

inductive AclCall where
  | securityGroupRules (sg : String)
  | waitForProvisioning
  | updateListener
  deriving DecidableEq

/-- The rules of the groups at Neutron, the listeners at Octavia, and how calls end. -/
structure AclSite where
  rules : String → List SecurityGroupRule
  listeners : Dict Nat ListenerAcl
  endings : AclCall → Effect.Ending PyException := fun _ => .served

abbrev AclM := Program PyException AclSite

/-- A call that ends as the site has it. -/
def call {α : Type} (name : AclCall) (operation : AclM α) : AclM α :=
  Effect.serve AclSite.endings name operation

/-- `os_net.security_group_rules`. -/
def securityGroupRules (sg : String) : AclM (List SecurityGroupRule) :=
  call (.securityGroupRules sg) do
    let site ← get
    return site.rules sg

/-- `lbaas.update_listener`. -/
def updateListener (listenerId : Nat) (acl : ListenerAcl) : AclM PUnit :=
  call .updateListener do
    let site ← get
    if listenerId ∈ site.listeners then
      set { site with listeners := site.listeners.set listenerId acl }
    else
      throw .neutronNotFound

/-! ## The driver -/

/-- `all_pod_rules` and `add_default_rules`. -/
structure PodRules where
  allPodRules : List String := []
  addDefaultRules : Bool := false

/-- The listener port is not in the range of a rule; a range from 0 is taken for none. -/
def skipsPort (targetPort : Nat) (rule : SecurityGroupRule) : Bool :=
  match rule.portRange with
  | none => false
  | some (minPort, maxPort) =>
      minPort ≠ 0 ∧ ¬(minPort ≤ targetPort ∧ targetPort ≤ maxPort)

/-- The turn for a rule. -/
def examineRule (protocol : String) (targetPort : Nat) (found : PodRules)
    (rule : SecurityGroupRule) : PodRules :=
  if rule.remoteGroupId.isSome then
    found
  else if rule.protocol = some protocol.toLower ∧ rule.direction = .ingress then
    if skipsPort targetPort rule then
      found
    else
      match rule.remoteIpPrefix with
      | some cidr => { found with allPodRules := found.allPodRules ++ [cidr] }
      | none => { found with addDefaultRules := true }
  else
    found

/-- What `_create_listeners_acls` is called with, and `pod_security_groups`. -/
structure AclRequest where
  podSecurityGroups : List String
  securityGroups : List String
  newSgs : Option (List String)
  lbSg : String
  protocol : String
  targetPort : Nat
  listenerId : Nat

namespace AclRequest

variable (request : AclRequest)

/-- `sgs`. -/
def sgs : List String :=
  match request.newSgs with
  | some (sg :: rest) => sg :: rest
  | _ => request.securityGroups

/-- The loop over the groups; a default group ends it. -/
def examineGroups : List String → PodRules → AclM PodRules
  | [], found => return found
  | sg :: rest, found =>
      if sg = request.lbSg then
        examineGroups rest found
      else if sg ∈ request.podSecurityGroups then
        return { found with addDefaultRules := true }
      else do
        let rules ← securityGroupRules sg
        examineGroups rest (rules.foldl (examineRule request.protocol request.targetPort) found)

/-- `_update_listener_acls`. -/
def updateListenerAcls (allowedCidrs : Option (List String)) : AclM PUnit := do
  call .waitForProvisioning (pure ⟨⟩)
  tryCatch
    (updateListener request.listenerId
      { allowedCidrs, adminStateUp := !allowedCidrs.any (·.isEmpty) }) fun ex =>
    if ex.isSdkException then throw .resourceNotReady else throw ex

/-- `_create_listeners_acls`. -/
def createListenersAcls : AclM PUnit := do
  let found ← request.examineGroups request.sgs {}
  if found.addDefaultRules then
    request.updateListenerAcls none
  else
    request.updateListenerAcls (some found.allPodRules)

end AclRequest

/-! ## Who reaches the listener -/

section Sources

variable {Address : Type} (contains members : String → Address → Prop)

/-- A listener lets a source in; to Octavia an empty list is no restriction. -/
def ListenerAcl.LetsIn (acl : ListenerAcl) (source : Address) : Prop :=
  acl.adminStateUp ∧
    match acl.allowedCidrs with
    | none => True
    | some cidrs => cidrs = [] ∨ ∃ cidr ∈ cidrs, contains cidr source

/-- The sources of a rule. -/
def SecurityGroupRule.From (rule : SecurityGroupRule) (source : Address) : Prop :=
  match rule.remoteGroupId, rule.remoteIpPrefix with
  | some sg, _ => members sg source
  | none, some cidr => contains cidr source
  | none, none => True

/-- A rule for what comes to a port with a protocol. -/
structure SecurityGroupRule.Admits (rule : SecurityGroupRule) (protocol : String)
    (targetPort : Nat) : Prop where
  ingress : rule.direction = .ingress
  protocol : ∀ named, rule.protocol = some named → named = protocol.toLower
  ports : ∀ minPort maxPort, rule.portRange = some (minPort, maxPort) →
    minPort ≤ targetPort ∧ targetPort ≤ maxPort

/-- A rule that `_create_listeners_acls` counts. -/
structure SecurityGroupRule.Counts (rule : SecurityGroupRule) (protocol : String)
    (targetPort : Nat) : Prop where
  noGroup : rule.remoteGroupId = none
  protocol : rule.protocol = some protocol.toLower
  ingress : rule.direction = .ingress
  ports : skipsPort targetPort rule = false

namespace AclRequest

variable (request : AclRequest) (site : AclSite)

/-- There is a default group beside the group of the load balancer. -/
def Default : Prop :=
  ∃ sg ∈ request.sgs, sg ≠ request.lbSg ∧ sg ∈ request.podSecurityGroups

/-- A rule of a group other than that of the load balancer. -/
def Listed (rule : SecurityGroupRule) : Prop :=
  ∃ sg ∈ request.sgs, sg ≠ request.lbSg ∧ rule ∈ site.rules sg

/-- The rules of the groups admit a source. -/
def Admits (source : Address) : Prop :=
  request.Default ∨
    ∃ rule, request.Listed site rule ∧ rule.Admits request.protocol request.targetPort ∧
      rule.From contains members source

/-- The access list lets in whom the rules of the groups admit, and disables the listener where
it is empty. -/
def Restricts : Prop :=
  ∃ after acl, exec request.createListenersAcls site = (.ok ⟨⟩, after) ∧
    after.listeners.get? request.listenerId = some acl ∧
    (acl.allowedCidrs = some [] → acl.adminStateUp = false) ∧
    ∀ source, acl.LetsIn contains source ↔ request.Admits contains members site source

end AclRequest

/-! ## The loops -/

variable {contains}

/-- What has been found lets a source in. -/
def PodRules.LetsIn (contains : String → Address → Prop) (found : PodRules) (source : Address) :
    Prop :=
  found.addDefaultRules ∨ ∃ cidr ∈ found.allPodRules, contains cidr source

/-- A turn adds the sources of a rule that counts. -/
theorem letsIn_examineRule (protocol : String) (targetPort : Nat) (found : PodRules)
    (rule : SecurityGroupRule) (source : Address) :
    (examineRule protocol targetPort found rule).LetsIn contains source ↔
      found.LetsIn contains source ∨
        rule.Counts protocol targetPort ∧ rule.From contains members source := by
  unfold examineRule
  split
  · rename_i group
    have uncounted : ¬rule.Counts protocol targetPort := by
      intro counts
      rw [counts.noGroup] at group
      cases group
    simp [uncounted]
  · rename_i group
    have noGroup : rule.remoteGroupId = none := Option.not_isSome_iff_eq_none.mp group
    split
    · rename_i named
      split
      · rename_i skipped
        have uncounted : ¬rule.Counts protocol targetPort := by
          intro counts
          rw [counts.ports] at skipped
          cases skipped
        simp [uncounted]
      · rename_i ports
        have counts : rule.Counts protocol targetPort :=
          ⟨noGroup, named.1, named.2, by simpa using ports⟩
        rcases prefix_ : rule.remoteIpPrefix with _ | cidr
        · simp [PodRules.LetsIn, SecurityGroupRule.From, counts, noGroup, prefix_]
        · simp only [PodRules.LetsIn, SecurityGroupRule.From, counts, noGroup, prefix_,
            List.mem_append, List.mem_singleton, true_and]
          constructor
          · rintro (everyone | ⟨other, old | rfl, inside⟩)
            · exact .inl (.inl everyone)
            · exact .inl (.inr ⟨other, old, inside⟩)
            · exact .inr inside
          · rintro ((everyone | ⟨other, old, inside⟩) | inside)
            · exact .inl everyone
            · exact .inr ⟨other, .inl old, inside⟩
            · exact .inr ⟨cidr, .inr rfl, inside⟩
    · rename_i unnamed
      have uncounted : ¬rule.Counts protocol targetPort := fun counts =>
        unnamed ⟨counts.protocol, counts.ingress⟩
      simp [uncounted]

theorem letsIn_foldl (protocol : String) (targetPort : Nat) (rules : List SecurityGroupRule)
    (found : PodRules) (source : Address) :
    (rules.foldl (examineRule protocol targetPort) found).LetsIn contains source ↔
      found.LetsIn contains source ∨
        ∃ rule ∈ rules, rule.Counts protocol targetPort ∧ rule.From contains members source := by
  induction rules generalizing found with
  | nil => simp
  | cons rule rest ih =>
      rw [List.foldl_cons, ih, letsIn_examineRule members, or_assoc,
        List.exists_mem_cons_iff]

namespace AclRequest

variable {request : AclRequest} {site : AclSite}

/-- The loop over the groups adds the sources of the rules that count, and of everyone where
it meets a default group. -/
theorem exec_examineGroups (served : ∀ name, site.endings name = .served) (sgs : List String)
    (found : PodRules) :
    ∃ result, exec (request.examineGroups sgs found) site = (.ok result, site) ∧
      ∀ source, result.LetsIn contains source ↔
        found.LetsIn contains source ∨
          (∃ sg ∈ sgs, sg ≠ request.lbSg ∧ sg ∈ request.podSecurityGroups) ∨
            ∃ sg ∈ sgs, sg ≠ request.lbSg ∧ ∃ rule ∈ site.rules sg,
              rule.Counts request.protocol request.targetPort ∧
                rule.From contains members source := by
  induction sgs generalizing found with
  | nil =>
      refine ⟨found, rfl, ?_⟩
      intro source
      simp
  | cons sg rest ih =>
      rw [examineGroups]
      split
      · rename_i own
        rcases ih found with ⟨result, ran, lets⟩
        refine ⟨result, ran, ?_⟩
        intro source
        simp [lets source, own]
      · rename_i foreign
        split
        · rename_i default_
          refine ⟨{ found with addDefaultRules := true }, rfl, ?_⟩
          intro source
          constructor
          · intro _
            exact .inr (.inl ⟨sg, List.mem_cons_self, foreign, default_⟩)
          · intro _
            exact .inl rfl
        · rename_i policy
          have listed : exec (securityGroupRules sg) site = (.ok (site.rules sg), site) :=
            Effect.exec_serve_of_served (served _)
          rcases ih ((site.rules sg).foldl (examineRule request.protocol request.targetPort) found)
            with ⟨result, ran, lets⟩
          refine ⟨result, ?_, ?_⟩
          · rw [exec_bind_of_ok listed, ran]
          · intro source
            have own : (sg ≠ request.lbSg ∧ sg ∈ request.podSecurityGroups) ↔ False :=
              iff_false_intro fun both => policy both.2
            have other : sg ≠ request.lbSg ↔ True := iff_true_intro foreign
            rw [lets source, letsIn_foldl members, List.exists_mem_cons_iff,
              List.exists_mem_cons_iff, own, false_or, other, true_and]
            exact or_assoc.trans (or_congr Iff.rfl or_left_comm)

/-! ## The update -/

/-- The update sets what it is called with. -/
theorem exec_updateListenerAcls (served : ∀ name, site.endings name = .served)
    (present : request.listenerId ∈ site.listeners) (allowedCidrs : Option (List String)) :
    ∃ after acl, exec (request.updateListenerAcls allowedCidrs) site = (.ok ⟨⟩, after) ∧
      after.listeners.get? request.listenerId = some acl ∧ acl.allowedCidrs = allowedCidrs ∧
        acl.adminStateUp = !allowedCidrs.any (·.isEmpty) := by
  let acl : ListenerAcl := { allowedCidrs, adminStateUp := !allowedCidrs.any (·.isEmpty) }
  let after : AclSite := { site with listeners := site.listeners.set request.listenerId acl }
  have waited : exec (call .waitForProvisioning (pure ⟨⟩ : AclM PUnit)) site = (.ok ⟨⟩, site) :=
    Effect.exec_serve_of_served (served _)
  have updated : exec (updateListener request.listenerId acl) site = (.ok ⟨⟩, after) := by
    unfold updateListener call
    rw [Effect.exec_serve_of_served (served _), exec_get_bind, if_pos present]
    rfl
  refine ⟨after, acl, ?_, Dict.get?_set_self _ _ _, rfl, rfl⟩
  unfold updateListenerAcls
  rw [exec_bind_of_ok waited, exec_tryCatch, updated]

/-- The rules that are found, as the access list of a listener. -/
def aclOf (found : PodRules) : Option (List String) :=
  if found.addDefaultRules then none else some found.allPodRules

theorem letsIn_aclOf {acl : ListenerAcl} {found : PodRules} (cidrs : acl.allowedCidrs = aclOf found)
    (up : acl.adminStateUp = !(aclOf found).any (·.isEmpty)) (source : Address) :
    acl.LetsIn contains source ↔ found.LetsIn contains source := by
  unfold aclOf at cidrs up
  unfold ListenerAcl.LetsIn PodRules.LetsIn
  rw [cidrs, up]
  cases found.addDefaultRules with
  | true => simp
  | false => cases found.allPodRules <;> simp

/-- A listener lets in whom the counted rules let in. -/
theorem exec_createListenersAcls (served : ∀ name, site.endings name = .served)
    (present : request.listenerId ∈ site.listeners) :
    ∃ after acl, exec request.createListenersAcls site = (.ok ⟨⟩, after) ∧
      after.listeners.get? request.listenerId = some acl ∧
      (acl.allowedCidrs = some [] → acl.adminStateUp = false) ∧
      ∀ source, acl.LetsIn contains source ↔
        request.Default ∨ ∃ rule, request.Listed site rule ∧
          rule.Counts request.protocol request.targetPort ∧ rule.From contains members source := by
  rcases @exec_examineGroups Address contains members request site served request.sgs {} with
    ⟨found, ran, lets⟩
  rcases exec_updateListenerAcls served present (aclOf found) with
    ⟨after, acl, updated, there, cidrs, up⟩
  refine ⟨after, acl, ?_, there, ?_, ?_⟩
  · unfold createListenersAcls
    rw [exec_bind_of_ok ran]
    unfold aclOf at updated
    split at updated
    · rename_i everyone
      rw [if_pos everyone]
      exact updated
    · rename_i listed
      rw [if_neg listed]
      exact updated
  · intro empty
    rw [up, ← cidrs, empty]
    rfl
  · intro source
    have nothing : ¬PodRules.LetsIn contains {} source := by simp [PodRules.LetsIn]
    rw [letsIn_aclOf cidrs up source, lets source]
    constructor
    · rintro (found | default_ | ⟨sg, listed, foreign, rule, member, counts, from_⟩)
      · exact absurd found nothing
      · exact .inl default_
      · exact .inr ⟨rule, ⟨sg, listed, foreign, member⟩, counts, from_⟩
    · rintro (default_ | ⟨rule, ⟨sg, listed, foreign, member⟩, counts, from_⟩)
      · exact .inr (.inl default_)
      · exact .inr (.inr ⟨sg, listed, foreign, rule, member, counts, from_⟩)

end AclRequest

/-! ## Where the access list is right -/

/-- A rule for the port and the protocol that is not counted. -/
structure SecurityGroupRule.Skipped (rule : SecurityGroupRule) (protocol : String)
    (targetPort : Nat) : Prop where
  admits : rule.Admits protocol targetPort
  passed : rule.protocol = none ∨ rule.remoteGroupId.isSome

/-- A rule that is counted although its range, which begins with 0, ends before the port. -/
structure SecurityGroupRule.Overrun (rule : SecurityGroupRule) (protocol : String)
    (targetPort : Nat) : Prop where
  counts : rule.Counts protocol targetPort
  ended : ∃ maxPort, rule.portRange = some (0, maxPort) ∧ maxPort < targetPort

/-- Apart from ranges that begin with 0, the ports of a rule are compared rightly. -/
theorem skipsPort_eq_false_iff {rule : SecurityGroupRule} {targetPort : Nat} :
    skipsPort targetPort rule = false ↔
      (∀ minPort maxPort, rule.portRange = some (minPort, maxPort) →
        minPort ≤ targetPort ∧ targetPort ≤ maxPort) ∨
          ∃ maxPort, rule.portRange = some (0, maxPort) ∧ maxPort < targetPort := by
  unfold skipsPort
  rcases rule.portRange with _ | ⟨minPort, maxPort⟩
  · simp
  · simp
    omega

/-- The rules that should count are those that are skipped, and those that are counted within
their ranges. -/
theorem admits_iff {rule : SecurityGroupRule} {protocol : String} {targetPort : Nat} :
    rule.Admits protocol targetPort ↔
      rule.Skipped protocol targetPort ∨
        rule.Counts protocol targetPort ∧ ¬rule.Overrun protocol targetPort := by
  constructor
  · intro admits
    by_cases passed : rule.protocol = none ∨ rule.remoteGroupId.isSome
    · exact .inl ⟨admits, passed⟩
    · have noGroup : rule.remoteGroupId = none := by
        apply Option.not_isSome_iff_eq_none.mp
        exact fun group => passed (.inr group)
      rcases named : rule.protocol with _ | name
      · exact absurd (.inl named) passed
      · right
        constructor
        · refine ⟨noGroup, ?_, admits.ingress, skipsPort_eq_false_iff.mpr (.inl admits.ports)⟩
          rw [named, admits.protocol name named]
        · rintro ⟨_, maxPort, range, ended⟩
          have within := (admits.ports 0 maxPort range).2
          omega
  · rintro (skipped | ⟨counts, within⟩)
    · exact skipped.admits
    · rcases skipsPort_eq_false_iff.mp counts.ports with ports | ended
      · refine ⟨counts.ingress, ?_, ports⟩
        intro named isNamed
        rw [counts.protocol] at isNamed
        exact (Option.some.inj isNamed).symm
      · exact absurd ⟨counts, ended⟩ within

namespace AclRequest

variable {request : AclRequest} {site : AclSite}

/-- The access list is that of the rules that count. -/
theorem restricts_iff (served : ∀ name, site.endings name = .served)
    (present : request.listenerId ∈ site.listeners) :
    request.Restricts contains members site ↔
      ∀ source, (request.Default ∨ ∃ rule, request.Listed site rule ∧
        rule.Counts request.protocol request.targetPort ∧ rule.From contains members source) ↔
          request.Admits contains members site source := by
  rcases @exec_createListenersAcls Address contains members request site served present with
    ⟨after, acl, ran, there, disabled, lets⟩
  constructor
  · rintro ⟨otherAfter, otherAcl, ranToo, thereToo, _, right⟩ source
    rw [ran] at ranToo
    cases ranToo
    rw [there] at thereToo
    cases thereToo
    exact (lets source).symm.trans (right source)
  · intro right
    exact ⟨after, acl, ran, there, disabled, fun source => (lets source).trans (right source)⟩

/-- The listener lets in whom the rules admit: exactly where there is a default group, or every
source of a rule that is skipped is one of a rule that counts too, and every source of a rule
that is counted beyond its range is one that another rule admits. -/
theorem listener_acls_iff (served : ∀ name, site.endings name = .served)
    (present : request.listenerId ∈ site.listeners) :
    request.Restricts contains members site ↔
      request.Default ∨
        (∀ rule source, request.Listed site rule →
          rule.Skipped request.protocol request.targetPort → rule.From contains members source →
          ∃ other, request.Listed site other ∧ other.Counts request.protocol request.targetPort ∧
            other.From contains members source) ∧
        ∀ rule source, request.Listed site rule →
          rule.Overrun request.protocol request.targetPort → rule.From contains members source →
          ∃ other, request.Listed site other ∧ other.Admits request.protocol request.targetPort ∧
            other.From contains members source := by
  rw [restricts_iff members served present]
  constructor
  · intro right
    by_cases default_ : request.Default
    · exact .inl default_
    · right
      constructor
      · intro rule source listed skipped from_
        rcases (right source).mpr (.inr ⟨rule, listed, skipped.admits, from_⟩) with other | counted
        · exact absurd other default_
        · exact counted
      · intro rule source listed overrun from_
        rcases (right source).mp (.inr ⟨rule, listed, overrun.counts, from_⟩) with other | admitted
        · exact absurd other default_
        · exact admitted
  · intro condition source
    constructor
    · rintro (default_ | ⟨rule, listed, counts, from_⟩)
      · exact .inl default_
      · rcases condition with default_ | ⟨_, overrunCovered⟩
        · exact .inl default_
        · right
          by_cases overrun : rule.Overrun request.protocol request.targetPort
          · exact overrunCovered rule source listed overrun from_
          · exact ⟨rule, listed, admits_iff.mpr (.inr ⟨counts, overrun⟩), from_⟩
    · rintro (default_ | ⟨rule, listed, admits, from_⟩)
      · exact .inl default_
      · rcases condition with default_ | ⟨skippedCovered, _⟩
        · exact .inl default_
        · right
          rcases admits_iff.mp admits with skipped | ⟨counts, _⟩
          · exact skippedCovered rule source listed skipped from_
          · exact ⟨rule, listed, counts, from_⟩

end AclRequest

end Sources

/-! A listener for TCP port 8020 with one group behind it that has one rule. -/

namespace OneRule

def site (rule : SecurityGroupRule) : AclSite where
  rules _ := [rule]
  listeners := Dict.ofList [(7, {})]

def request : AclRequest where
  podSecurityGroups := []
  securityGroups := ["np"]
  newSgs := none
  lbSg := "lb"
  protocol := "TCP"
  targetPort := 8020
  listenerId := 7

/-- CIDRs of single addresses. -/
def contains (cidr source : String) : Prop :=
  cidr = source ++ "/32"

def members (_ _ : String) : Prop :=
  False

theorem eq_of_listed {rule other : SecurityGroupRule} (listed : request.Listed (site rule) other) :
    other = rule := by
  rcases listed with ⟨_, _, _, member⟩
  exact List.mem_singleton.mp member

theorem not_default : ¬request.Default := by
  rintro ⟨_, _, _, member⟩
  cases member

def forTcp : SecurityGroupRule where
  protocol := some "tcp"
  portRange := some (8020, 8020)
  remoteIpPrefix := some "10.0.0.5/32"

/-- A rule of `_add_default_np_rules`. -/
def forAll : SecurityGroupRule where
  remoteIpPrefix := some "10.0.0.5/32"

end OneRule

theorem listener_acls_one_rule :
    OneRule.request.Restricts OneRule.contains OneRule.members (OneRule.site OneRule.forTcp) := by
  apply (AclRequest.listener_acls_iff OneRule.members (fun _ => rfl) (by decide)).mpr
  right
  constructor
  · intro rule source listed skipped from_
    rw [OneRule.eq_of_listed listed] at skipped
    rcases skipped.passed with named | group
    · cases named
    · cases group
  · intro rule source listed overrun from_
    rw [OneRule.eq_of_listed listed] at overrun
    rcases overrun.ended with ⟨maxPort, range, _⟩
    cases range

/-- A rule without a protocol is for all protocols, but the listener is disabled. -/
theorem listener_acls_skip_rule :
    ¬OneRule.request.Restricts OneRule.contains OneRule.members (OneRule.site OneRule.forAll) := by
  intro restricts
  have lists := (AclRequest.restricts_iff OneRule.members (fun _ => rfl) (by decide)).mp restricts
    "10.0.0.5"
  have admitted : OneRule.request.Admits OneRule.contains OneRule.members
      (OneRule.site OneRule.forAll) "10.0.0.5" := by
    right
    refine ⟨OneRule.forAll, ⟨"np", List.mem_singleton_self _, by decide, List.mem_singleton_self _⟩,
      ⟨rfl, nofun, nofun⟩, ?_⟩
    change "10.0.0.5/32" = "10.0.0.5" ++ "/32"
    decide
  rcases lists.mpr admitted with default_ | ⟨rule, listed, counts, _⟩
  · exact OneRule.not_default default_
  · rw [OneRule.eq_of_listed listed] at counts
    cases counts.protocol

end KuryrKubernetes.Lbaas.Acls

import KuryrKubernetes.Lbaas.SpecHandler
import KuryrKubernetes.Transition.Run
import Mathlib.Data.List.Infix

/-!
# The security group of a load balancer

With `sg_mode` set to `create`, a load balancer has a security group of its own, named
like the load balancer.  `ensure_listener` opens it for a new listener,
`_apply_members_security_groups` copies the rules of the groups of the pods behind the
listener into it, and `release_listener` takes a rule of the listener out again.
-/

namespace KuryrKubernetes.Lbaas

open KuryrKubernetes.Data
open KuryrKubernetes.Transition

/-! ## Rules at Neutron -/

inductive RuleDirection where
  | ingress
  | egress
  deriving DecidableEq

/-- `description` of a rule. -/
inductive RuleDescription where
  | listener (name : ListenerName)
  | text (body : String)
  deriving DecidableEq

/-- Whether a text occurs in a description. -/
def RuleDescription.mentions (description : RuleDescription) (part : String) : Bool :=
  match description with
  | .listener name =>
      part.toList <:+: name.loadbalancer.namespaceName.toList ∨
        part.toList <:+: name.loadbalancer.name.toList ∨ part.toList <:+: name.protocol.toList
  | .text body => part.toList <:+: body.toList

/-- What is asked for with `create_security_group_rule`. -/
structure RuleRequest where
  securityGroupId : String
  direction : RuleDirection
  etherType : String := "IPv4"
  protocol : Option String
  portRange : Option (Nat × Nat)
  remoteIpPrefix : Option String := none
  description : RuleDescription
  deriving DecidableEq

/-- A rule at Neutron. -/
structure GroupRule extends RuleRequest where
  id : Nat
  deriving DecidableEq

/-- Neutron takes two rules for one: the description makes no difference. -/
def RuleRequest.duplicates (request other : RuleRequest) : Bool :=
  request = { other with description := request.description }

/-- The rules of all groups, with ids that are not used again. -/
structure RuleTable where
  rules : List GroupRule := []
  nextId : Nat := 0
  below : ∀ rule ∈ rules, rule.id < nextId := by
    exact fun rule member => absurd member List.not_mem_nil
  distinct : (rules.map (·.id)).Nodup := by
    exact List.nodup_nil

namespace RuleTable

/-- A new rule. -/
def add (table : RuleTable) (request : RuleRequest) : RuleTable where
  rules := table.rules ++ [{ request with id := table.nextId }]
  nextId := table.nextId + 1
  below := by
    intro rule member
    rcases List.mem_append.mp member with old | new
    · exact Nat.lt_succ_of_lt (table.below rule old)
    · rw [List.mem_singleton.mp new]
      exact Nat.lt_succ_self _
  distinct := by
    rw [List.map_append, List.nodup_append]
    refine ⟨table.distinct, List.nodup_singleton _, ?_⟩
    intro id inOld other inNew
    obtain ⟨rule, member, rfl⟩ := List.mem_map.mp inOld
    rw [List.map_singleton, List.mem_singleton] at inNew
    exact inNew ▸ Nat.ne_of_lt (table.below rule member)

/-- `delete_security_group_rule`. -/
def delete (table : RuleTable) (id : Nat) : RuleTable where
  rules := table.rules.filter (·.id != id)
  nextId := table.nextId
  below := fun rule member => table.below rule (List.mem_filter.mp member).1
  distinct := table.distinct.sublist (List.filter_sublist.map _)

/-- `create_security_group_rule`, where a conflict and a refusal are passed over. -/
def create (refuses : RuleRequest → Bool) (table : RuleTable) (request : RuleRequest) :
    RuleTable :=
  if table.rules.any (fun rule => rule.toRuleRequest.duplicates request) || refuses request then
    table
  else
    table.add request

theorem mem_add {table : RuleTable} {request : RuleRequest} {rule : GroupRule}
    (member : rule ∈ (table.add request).rules) :
    rule ∈ table.rules ∨ rule.toRuleRequest = request := by
  rcases List.mem_append.mp member with old | new
  · exact .inl old
  · rw [List.mem_singleton.mp new]
    exact .inr rfl

theorem mem_delete {table : RuleTable} {id : Nat} {rule : GroupRule} :
    rule ∈ (table.delete id).rules ↔ rule ∈ table.rules ∧ rule.id ≠ id := by
  simp [delete]

theorem mem_create {refuses : RuleRequest → Bool} {table : RuleTable} {request : RuleRequest}
    {rule : GroupRule} (member : rule ∈ (table.create refuses request).rules) :
    rule ∈ table.rules ∨ rule.toRuleRequest = request := by
  unfold create at member
  split at member
  · exact .inl member
  · exact mem_add member

/-- `security_group_rules(security_group_id=sg)`. -/
def ofGroup (table : RuleTable) (sg : String) : List GroupRule :=
  table.rules.filter (·.securityGroupId = sg)

end RuleTable

/-! ## The driver -/

/-- The load balancer and the configuration: its name, `pod_security_groups` and the
ether type of the service subnet. -/
structure SgConf where
  name : ServiceName
  podSecurityGroups : List String
  etherType : String := "IPv4"

/-- A listener in the terms of its service port. -/
structure ListenerPort where
  protocol : String
  port : Nat
  deriving DecidableEq

/-- The name of the listener of a port. -/
def SgConf.listenerName (conf : SgConf) (listenerPort : ListenerPort) : ListenerName where
  loadbalancer := conf.name
  protocol := listenerPort.protocol
  port := listenerPort.port

/-- `target_port in range(min_port, max_port+1)`. -/
def TargetPort.within (targetPort : TargetPort) (range : Nat × Nat) : Bool :=
  match targetPort with
  | .number port => range.1 ≤ port ∧ port ≤ range.2
  | .name _ => false

/-- The groups named after the load balancer, those that the load balancer object has
under `security_groups`, and the rules at Neutron. -/
structure SgState where
  named : List String := []
  securityGroups : List String := []
  table : RuleTable := {}

namespace SgState

/-- `_find_listeners_sg`; with `lb_name` the first group of that name. -/
def findListenersSg (state : SgState) (byName : Bool) : Option String :=
  if byName then state.named.head?
  else state.named.find? (state.securityGroups.contains ·)

/-- The rules that Neutron makes for a new group. -/
def egressRule (sg etherType : String) : RuleRequest where
  securityGroupId := sg
  direction := .egress
  etherType := etherType
  protocol := none
  portRange := none
  description := .text ""

/-- `create_security_group`, and the group is given to the VIP port. -/
def createSecurityGroup (state : SgState) (newGroup : String) : SgState where
  named := state.named ++ [newGroup]
  securityGroups := state.securityGroups ++ [newGroup]
  table := (state.table.add (egressRule newGroup "IPv4")).add (egressRule newGroup "IPv6")

/-- The rule of a listener, for the sources of `remoteIpPrefix`. -/
def listenerRule (conf : SgConf) (sg etherType : String) (listenerPort : ListenerPort)
    (remoteIpPrefix : Option String) : RuleRequest where
  securityGroupId := sg
  direction := .ingress
  etherType := etherType
  protocol := some listenerPort.protocol.toLower
  portRange := some (listenerPort.port, listenerPort.port)
  remoteIpPrefix := remoteIpPrefix
  description := .listener (conf.listenerName listenerPort)

/-- `_create_lb_security_group_rule`; Neutron calls a new group `newGroup`. -/
def createLbSecurityGroupRule (conf : SgConf) (refuses : RuleRequest → Bool) (newGroup : String)
    (state : SgState) (listenerPort : ListenerPort) : SgState :=
  match state.findListenersSg false with
  | some sg =>
      { state with
        table := state.table.create refuses (listenerRule conf sg "IPv4" listenerPort none) }
  | none =>
      let created := state.createSecurityGroup newGroup
      { created with
        table := created.table.create refuses
          (listenerRule conf newGroup "IPv4" listenerPort none) }

/-- A rule of a group of pods lets traffic through to the target port. -/
def copied (listenerPort : ListenerPort) (targetPort : TargetPort) (rule : GroupRule) : Bool :=
  rule.protocol = some listenerPort.protocol.toLower && rule.direction = .ingress &&
    match rule.portRange with
    | none => true
    | some range => range.1 = 0 || targetPort.within range

/-- The loop over the groups: the rules copied, `all_pod_rules` and
`add_default_rules`. -/
def copyGroups (conf : SgConf) (refuses : RuleRequest → Bool) (lbSg : String)
    (listenerPort : ListenerPort) (targetPort : TargetPort) (table : RuleTable) :
    List String → RuleTable × List GroupRule × Bool
  | [] => (table, [], false)
  | sg :: rest =>
      if sg = lbSg then
        copyGroups conf refuses lbSg listenerPort targetPort table rest
      else if conf.podSecurityGroups.contains sg then
        (table, [], true)
      else
        let rules := (table.ofGroup sg).filter (copied listenerPort targetPort)
        let created := rules.foldl (fun table rule => table.create refuses
          (listenerRule conf lbSg conf.etherType listenerPort rule.remoteIpPrefix)) table
        let (last, podRules, addDefaultRules) :=
          copyGroups conf refuses lbSg listenerPort targetPort created rest
        (last, rules ++ podRules, addDefaultRules)

/-- `_is_default_rule`. -/
def isDefaultRule (rule : GroupRule) : Bool :=
  rule.direction = .ingress && (rule.remoteIpPrefix = none || rule.remoteIpPrefix = some "") &&
    !rule.description.mentions "network-policy"

/-- A turn of the loop over the rules of the load balancer. -/
def deleteTurn (listenerPort : ListenerPort) (allPodRules : List GroupRule) (table : RuleTable)
    (rule : GroupRule) : RuleTable :=
  if rule.protocol ≠ some listenerPort.protocol.toLower ∨
      rule.portRange.map Prod.fst ≠ some listenerPort.port ∨ rule.direction ≠ .ingress then
    if !allPodRules.isEmpty && isDefaultRule rule then table.delete rule.id else table
  else if allPodRules.any (·.remoteIpPrefix = rule.remoteIpPrefix) then
    table
  else
    table.delete rule.id

/-- `_apply_members_security_groups` without ACL support.  The rules of the load
balancer are listed when the loop over them begins. -/
def applyMembersSecurityGroups (conf : SgConf) (refuses : RuleRequest → Bool) (state : SgState)
    (listenerPort : ListenerPort) (targetPort : TargetPort) (newSgs : List String) : SgState :=
  match state.findListenersSg (!newSgs.isEmpty) with
  | none => state
  | some lbSg =>
      let sgs := if newSgs.isEmpty then state.securityGroups else newSgs
      let (created, allPodRules, addDefaultRules) :=
        copyGroups conf refuses lbSg listenerPort targetPort state.table sgs
      let cleaned := (created.ofGroup lbSg).foldl (deleteTurn listenerPort allPodRules) created
      { state with
        table :=
          if addDefaultRules then
            cleaned.create refuses (listenerRule conf lbSg conf.etherType listenerPort none)
          else cleaned }

/-- `release_listener`, once the listener is deleted: the first rule of its name goes. -/
def releaseListenerRule (conf : SgConf) (state : SgState) (listenerPort : ListenerPort) :
    SgState :=
  match state.findListenersSg false with
  | none => state
  | some sg =>
      match (state.table.ofGroup sg).find?
          (·.description = .listener (conf.listenerName listenerPort)) with
      | none => state
      | some rule => { state with table := state.table.delete rule.id }

/-! ## What the operations leave in the table -/

/-- A rule is for the listener of a port. -/
def BelongsTo (rule : RuleRequest) (listenerPort : ListenerPort) : Prop :=
  rule.direction = .ingress ∧ rule.protocol = some listenerPort.protocol.toLower ∧
    rule.portRange = some (listenerPort.port, listenerPort.port)

instance (rule : RuleRequest) (listenerPort : ListenerPort) :
    Decidable (BelongsTo rule listenerPort) :=
  inferInstanceAs (Decidable (_ ∧ _))

theorem belongsTo_listenerRule (conf : SgConf) (sg etherType : String)
    (listenerPort : ListenerPort) (remoteIpPrefix : Option String) :
    BelongsTo (listenerRule conf sg etherType listenerPort remoteIpPrefix) listenerPort :=
  ⟨rfl, rfl, rfl⟩

/-- A rule was made for the listener of a port by one of the operations. -/
def MadeFor (conf : SgConf) (rule : RuleRequest) (listenerPort : ListenerPort) : Prop :=
  ∃ sg etherType remoteIpPrefix,
    rule = listenerRule conf sg etherType listenerPort remoteIpPrefix

theorem MadeFor.belongsTo {conf : SgConf} {rule : RuleRequest} {listenerPort : ListenerPort}
    (made : MadeFor conf rule listenerPort) : BelongsTo rule listenerPort := by
  obtain ⟨sg, etherType, remoteIpPrefix, rfl⟩ := made
  exact belongsTo_listenerRule conf sg etherType listenerPort remoteIpPrefix

theorem MadeFor.description {conf : SgConf} {rule : RuleRequest} {listenerPort : ListenerPort}
    (made : MadeFor conf rule listenerPort) :
    rule.description = .listener (conf.listenerName listenerPort) := by
  obtain ⟨sg, etherType, remoteIpPrefix, rfl⟩ := made
  rfl

section Membership

variable {conf : SgConf} {refuses : RuleRequest → Bool} {listenerPort : ListenerPort}
  {rule : GroupRule}

/-- Rules that are created one after the other are old, or made for the listener. -/
theorem mem_foldl_create {sg etherType : String} (sources : List GroupRule) {table : RuleTable}
    (member : rule ∈ (sources.foldl (fun table source => table.create refuses
      (listenerRule conf sg etherType listenerPort source.remoteIpPrefix)) table).rules) :
    rule ∈ table.rules ∨ MadeFor conf rule.toRuleRequest listenerPort := by
  induction sources generalizing table with
  | nil => exact .inl member
  | cons source rest ih =>
      rcases ih member with old | made
      · rcases RuleTable.mem_create old with older | made
        · exact .inl older
        · exact .inr ⟨sg, etherType, source.remoteIpPrefix, made⟩
      · exact .inr made

theorem mem_copyGroups {lbSg : String} {targetPort : TargetPort} (sgs : List String)
    {table : RuleTable}
    (member : rule ∈ (copyGroups conf refuses lbSg listenerPort targetPort table sgs).1.rules) :
    rule ∈ table.rules ∨ MadeFor conf rule.toRuleRequest listenerPort := by
  induction sgs generalizing table with
  | nil => exact .inl member
  | cons sg rest ih =>
      unfold copyGroups at member
      by_cases own : sg = lbSg
      · rw [if_pos own] at member
        exact ih member
      · rw [if_neg own] at member
        by_cases fallsBack : conf.podSecurityGroups.contains sg = true
        · rw [if_pos fallsBack] at member
          exact .inl member
        · rw [if_neg fallsBack] at member
          rcases ih member with created | made
          · exact mem_foldl_create _ created
          · exact .inr made

/-- A turn of the second loop takes rules away. -/
theorem mem_deleteTurn {allPodRules : List GroupRule} {table : RuleTable} {turn : GroupRule}
    (member : rule ∈ (deleteTurn listenerPort allPodRules table turn).rules) :
    rule ∈ table.rules := by
  unfold deleteTurn at member
  split at member
  · split at member
    · exact (RuleTable.mem_delete.mp member).1
    · exact member
  · split at member
    · exact member
    · exact (RuleTable.mem_delete.mp member).1

theorem mem_foldl_deleteTurn {allPodRules : List GroupRule} (turns : List GroupRule)
    {table : RuleTable}
    (member : rule ∈ (turns.foldl (deleteTurn listenerPort allPodRules) table).rules) :
    rule ∈ table.rules := by
  induction turns generalizing table with
  | nil => exact member
  | cons turn rest ih => exact mem_deleteTurn (ih member)

/-- `_apply_members_security_groups` makes rules for its listener only. -/
theorem mem_applyMembersSecurityGroups {state : SgState} {targetPort : TargetPort}
    {newSgs : List String}
    (member : rule ∈ (applyMembersSecurityGroups conf refuses state listenerPort targetPort
      newSgs).table.rules) :
    rule ∈ state.table.rules ∨ MadeFor conf rule.toRuleRequest listenerPort := by
  unfold applyMembersSecurityGroups at member
  split at member
  · exact .inl member
  · rename_i lbSg found
    simp only at member
    generalize (if newSgs.isEmpty then state.securityGroups else newSgs) = sgs at member
    split at member
    · rcases RuleTable.mem_create member with cleaned | made
      · exact mem_copyGroups _ (mem_foldl_deleteTurn _ cleaned)
      · exact .inr ⟨lbSg, conf.etherType, none, made⟩
    · exact mem_copyGroups _ (mem_foldl_deleteTurn _ member)

@[simp]
theorem applyMembersSecurityGroups_named (state : SgState) (targetPort : TargetPort)
    (newSgs : List String) :
    (applyMembersSecurityGroups conf refuses state listenerPort targetPort newSgs).named =
      state.named := by
  unfold applyMembersSecurityGroups
  split <;> rfl

@[simp]
theorem applyMembersSecurityGroups_securityGroups (state : SgState) (targetPort : TargetPort)
    (newSgs : List String) :
    (applyMembersSecurityGroups conf refuses state listenerPort targetPort
      newSgs).securityGroups = state.securityGroups := by
  unfold applyMembersSecurityGroups
  split <;> rfl

end Membership

end SgState

end KuryrKubernetes.Lbaas

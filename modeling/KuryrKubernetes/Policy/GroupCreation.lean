import KuryrKubernetes.Effect.Serve
import KuryrKubernetes.Policy.Parse

/-!
# The security group of a policy

`create_security_group_rules_from_network_policy` creates a security group, fills it with
the rules of a policy, and stores both in a `KuryrNetPolicy`.  Two handlers delete the
group again: one for exceptions of Neutron and `ResourceNotReady` while the group is
filled, one for exceptions of Kubernetes while the resource is stored.
-/

namespace KuryrKubernetes.Policy.GroupCreation

open KuryrKubernetes.Data
open KuryrKubernetes.Effect

/-! ## Neutron and Kubernetes -/

/-- A rule that Neutron is asked for: a body of the parser, or that of
`_add_default_np_rules` for a CIDR. -/
inductive RuleRequest where
  | parsed (rule : SgRule)
  | everything (direction : Direction)
  | fromCidr (cidr : String)
  deriving DecidableEq

structure SecurityGroup where
  name : String
  projectId : String
  rules : Dict Nat RuleRequest

/-- A rule of a `KuryrNetPolicy`, with its id if it has one. -/
structure SgRuleEntry where
  body : ParsedRule
  id : Option Nat
  deriving DecidableEq

/-- A `KuryrNetPolicy` as it is stored. -/
structure KuryrNetPolicy where
  name : String
  namespaceName : String
  securityGroupName : String
  securityGroupId : Nat
  ingressSgRules : List SgRuleEntry
  egressSgRules : List SgRuleEntry
  podSelector : LabelSelector
  networkpolicySpec : PolicySpec

/-- The rules of a resource, `ingress` first. -/
def KuryrNetPolicy.entries (crd : KuryrNetPolicy) : List SgRuleEntry :=
  crd.ingressSgRules ++ crd.egressSgRules

/-- The calls of Neutron; those of a loop have their position. -/
inductive NeutronCall where
  | createSecurityGroup
  | setTags
  | deleteDefaultRule (id : Nat)
  | createRule (direction : Direction) (position : Nat)
  | deleteRule (position : Nat)
  | getSubnet (id : String)
  | createDefaultNpRule (cidr : String)
  | deleteSecurityGroup
  deriving DecidableEq

/-- The calls of Kubernetes apart from those of the parser. -/
inductive KubernetesCall where
  | post
  | getCrd
  | annotate
  | patch
  deriving DecidableEq

abbrev SdkException :=
  { ex : PyException // ex.isSdkException }

abbrev K8sException :=
  { ex : PyException // ex.isK8sClientException }

/-- How the services answer.  `queries` are the answers to what the parser asks Kubernetes,
in turn: the exception that leaves the query, if one does.  `existing` is the id that a
conflict names where the group has no such rule. -/
structure Answers where
  neutron : NeutronCall → Ending SdkException := fun _ => .served
  kubernetes : KubernetesCall → Ending K8sException := fun _ => .served
  queries : List (Option K8sException) := []
  existing : NeutronCall → Nat := fun _ => 0

/-- The groups at Neutron, where the ids of rules are not used again, and the resources and
annotated policies at Kubernetes. -/
structure Site where
  groups : Dict Nat SecurityGroup := ∅
  nextRule : Nat := 0
  resources : List KuryrNetPolicy := []
  annotated : List (String × String) := []
  answers : Answers := {}

abbrev SiteM := Program PyException Site

/-- A call of Neutron, that ends as the site has it. -/
def neutron {α : Type} (call : NeutronCall) (operation : SiteM α) : SiteM α :=
  serve (fun site call => (site.answers.neutron call).map Subtype.val) call operation

/-- A call of Kubernetes. -/
def kubernetes {α : Type} (call : KubernetesCall) (operation : SiteM α) : SiteM α :=
  serve (fun site call => (site.answers.kubernetes call).map Subtype.val) call operation

/-- Change the rules of a group, if it is there. -/
def Site.changeRules (site : Site) (sgId : Nat)
    (change : Dict Nat RuleRequest → Dict Nat RuleRequest) : Site :=
  match site.groups.get? sgId with
  | none => site
  | some group =>
      { site with groups := site.groups.set sgId { group with rules := change group.rules } }

/-- The rules of a group. -/
def Site.rules (site : Site) (sgId : Nat) : Dict Nat RuleRequest :=
  (site.groups.get? sgId).elim ∅ SecurityGroup.rules

/-- The id of a rule of a group. -/
def existingRule (rules : Dict Nat RuleRequest) (request : RuleRequest) : Option Nat :=
  (rules.items.find? fun item => item.2 = request).map Prod.fst

namespace NetworkClient

/-- A new group with the two rules that Neutron gives it, and their ids. -/
def createSecurityGroup (name projectId : String) : SiteM (Nat × List Nat) :=
  neutron .createSecurityGroup do
    let site ← get
    let sgId := site.groups.freshKey
    let rules := Dict.ofList
      [(site.nextRule, .everything .egress), (site.nextRule + 1, .everything .egress)]
    set { site with
      groups := site.groups.set sgId { name, projectId, rules }
      nextRule := site.nextRule + 2 }
    return (sgId, [site.nextRule, site.nextRule + 1])

/-- A rule that is gone is no error. -/
def deleteSecurityGroupRule (call : NeutronCall) (sgId id : Nat) : SiteM PUnit :=
  neutron call (modify (·.changeRules sgId (·.erase id)))

/-- A rule that the group has is a conflict. -/
def createSecurityGroupRule (call : NeutronCall) (sgId : Nat) (request : RuleRequest) :
    SiteM Nat :=
  neutron call do
    let site ← get
    if (existingRule (site.rules sgId) request).isSome then
      throw .neutronConflict
    else do
      set { site.changeRules sgId (·.set site.nextRule request) with
        nextRule := site.nextRule + 1 }
      return site.nextRule

def deleteSecurityGroup (sgId : Nat) : SiteM PUnit :=
  neutron .deleteSecurityGroup
    (modify fun site => { site with groups := site.groups.erase sgId })

end NetworkClient

/-- What is configured; `cidrOf` is the CIDR of a subnet. -/
structure Config where
  resourceTags : List String
  enforceSgRules : Bool
  serviceSubnet : String
  workerNodesSubnet : Option String
  cidrOf : String → String

/-! ## The driver -/

/-- `create_security_group_rule`; a conflict gives the id of the rule that exists. -/
def createSecurityGroupRule (call : NeutronCall) (sgId : Nat) (request : RuleRequest) :
    SiteM Nat :=
  tryCatch (NetworkClient.createSecurityGroupRule call sgId request) fun ex =>
    if ex = .neutronConflict then do
      let site ← get
      return (existingRule (site.rules sgId) request).getD (site.answers.existing call)
    else
      throw ex

/-- `body['security_group_rule']`, which a list does not have. -/
def RuleRequest.ofParsed : ParsedRule → Except PyException RuleRequest
  | .rule body _ => .ok (.parsed body.rule)
  | .everything _ direction => .ok (.everything direction)
  | .nested _ => .error .typeError

/-- The loop over the rules of a direction. -/
def createRules (sgId : Nat) (direction : Direction) (position : Nat) :
    List ParsedRule → SiteM (List SgRuleEntry)
  | [] => return []
  | rule :: rest => do
      let request ← settle (RuleRequest.ofParsed rule)
      let id ← createSecurityGroupRule (.createRule direction position) sgId request
      let others ← createRules sgId direction (position + 1) rest
      return { body := rule, id := some id } :: others

namespace NetworkPolicyDriver

variable (config : Config)

/-- `tag_neutron_resources`, which is not insisted on. -/
def tagNeutronResources : SiteM PUnit :=
  if config.resourceTags.isEmpty then
    pure ⟨⟩
  else
    tryCatch (neutron .setTags (pure ⟨⟩)) fun ex =>
      if ex.isSdkException then pure ⟨⟩ else throw ex

/-- `get_subnet_cidr`. -/
def getSubnetCidr (subnetId : String) : SiteM String :=
  neutron (.getSubnet subnetId) (return config.cidrOf subnetId)

/-- The loop over `default_cidrs`. -/
def createDefaultNpRules (sgId : Nat) : List String → SiteM PUnit
  | [] => pure ⟨⟩
  | cidr :: rest => do
      let _ ← createSecurityGroupRule (.createDefaultNpRule cidr) sgId (.fromCidr cidr)
      createDefaultNpRules sgId rest

/-- The CIDRs of the subnets of a list. -/
def subnetCidrs : List String → SiteM (List String)
  | [] => return []
  | subnetId :: rest => do
      let cidr ← getSubnetCidr config subnetId
      let others ← subnetCidrs rest
      return cidr :: others

/-- The subnets that `_add_default_np_rules` allows. -/
def defaultSubnets : List String :=
  (if config.enforceSgRules then [config.serviceSubnet] else []) ++
    config.workerNodesSubnet.toList

/-- `_add_default_np_rules`. -/
def addDefaultNpRules (sgId : Nat) : SiteM PUnit := do
  let defaultCidrs ← subnetCidrs config (defaultSubnets config)
  createDefaultNpRules sgId defaultCidrs

variable (cluster : Cluster) (text : AddressText) (policy : NetworkPolicy)

/-- `parse_network_policy_rules`, where Kubernetes may not answer a query. -/
def parsing (queries : List (Option K8sException)) (sgId : Nat) :
    Except PyException (List ParsedRule × List ParsedRule) :=
  match queries.findSome? id with
  | some ex => .error ex.val
  | none => parseNetworkPolicyRules cluster text policy (toString sgId)

/-- What is done once there is a group: the first `try` from the tags on. -/
def fillSecurityGroup (sgId : Nat) (securityGroupRules : List Nat) :
    SiteM (List SgRuleEntry × List SgRuleEntry) := do
  tagNeutronResources config
  securityGroupRules.forM fun id =>
    NetworkClient.deleteSecurityGroupRule (.deleteDefaultRule id) sgId id
  let site ← get
  let rules ← settle (parsing cluster text policy site.answers.queries sgId)
  let iRules ← createRules sgId .ingress 0 rules.1
  let eRules ← createRules sgId .egress 0 rules.2
  addDefaultNpRules config sgId
  return (iRules, eRules)

/-- The first `try`.  The handler has nothing to delete as long as `sg` is `None`. -/
def createSecurityGroup (projectId : String) :
    SiteM (Nat × List SgRuleEntry × List SgRuleEntry) := do
  let (sgId, securityGroupRules) ← NetworkClient.createSecurityGroup
    ("sg-" ++ policy.namespaceName ++ "-" ++ policy.name) projectId
  let rules ← tryCatch (fillSecurityGroup config cluster text policy sgId securityGroupRules)
    fun ex =>
      if ex.isSdkException ∨ ex = .resourceNotReady then do
        NetworkClient.deleteSecurityGroup sgId
        throw ex
      else
        throw ex
  return (sgId, rules)

/-- The resource for a policy. -/
def netpolicyCrd (sgId : Nat) (iRules eRules : List SgRuleEntry) : KuryrNetPolicy where
  name := "np-" ++ policy.name
  namespaceName := policy.namespaceName
  securityGroupName := "sg-" ++ policy.name
  securityGroupId := sgId
  ingressSgRules := iRules
  egressSgRules := eRules
  podSelector := policy.selectorAfterIngress
  networkpolicySpec := policy.spec

/-- The second `try`, around `_add_kuryrnetpolicy_crd`. -/
def storeCrd (sgId : Nat) (crd : KuryrNetPolicy) : SiteM PUnit :=
  tryCatch
    (kubernetes .post
      (modify fun site => { site with resources := site.resources ++ [crd] })) fun ex =>
    if ex.isK8sClientException then do
      NetworkClient.deleteSecurityGroup sgId
      throw ex
    else
      throw ex

/-- The resource is that of a policy. -/
def isFor (crd : KuryrNetPolicy) : Bool :=
  crd.name = "np-" ++ policy.name ∧ crd.namespaceName = policy.namespaceName

/-- The request for the resource of a policy. -/
def getCrd : SiteM (Option KuryrNetPolicy) :=
  kubernetes .getCrd do
    let site ← get
    match site.resources.find? (isFor policy) with
    | none => throw .k8sResourceNotFound
    | some crd => return some crd

/-- `get_kuryrnetpolicy_crd`: nothing where there is no resource. -/
def getKuryrnetpolicyCrd : SiteM (Option KuryrNetPolicy) :=
  tryCatch (getCrd policy) fun ex =>
    if ex = .k8sResourceNotFound then return none else throw ex

/-- The last `try`; `None` has no `metadata`. -/
def annotatePolicy : SiteM PUnit := do
  let crd ← getKuryrnetpolicyCrd policy
  match crd with
  | none => throw .typeError
  | some _ =>
      kubernetes .annotate (modify fun site =>
        { site with annotated := (policy.namespaceName, policy.name) :: site.annotated })

/-- `create_security_group_rules_from_network_policy`. -/
def createSecurityGroupRulesFromNetworkPolicy (projectId : String) : SiteM PUnit := do
  let (sgId, iRules, eRules) ← createSecurityGroup config cluster text policy projectId
  storeCrd sgId (netpolicyCrd policy sgId iRules eRules)
  annotatePolicy policy

end NetworkPolicyDriver

end KuryrKubernetes.Policy.GroupCreation

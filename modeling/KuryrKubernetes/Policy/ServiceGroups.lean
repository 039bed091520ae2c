import KuryrKubernetes.Policy.Rules

/-!
# Security groups of services

`NetworkPolicyServiceSecurityGroupsDriver` takes the groups of the first pod listed for a
service as those of the service.  For pods with the same labels it does not matter which
one that is.
-/

namespace KuryrKubernetes.Policy

open KuryrKubernetes.Data

/-- A service; one without a selector has an empty one. -/
structure Service where
  namespaceName : String
  selector : Labels := ∅
  deriving DecidableEq

/-- A resource is taken to select a pod. -/
def Crd.matchesPod (crd : Crd) (pod : Pod) : Bool :=
  crd.namespaceName = pod.namespaceName ∧
    (crd.podSelector.isEmpty ∨ matchSelector crd.podSelector (podLabels pod))

/-- `_get_pod_sgs`; `defaults` are the groups of `pod_security_groups`. -/
def getPodSgs (defaults : List String) (crds : List Crd) (pod : Pod) :
    Except PyException (List String) :=
  let sgList := (crds.filter (·.matchesPod pod)).map (·.securityGroupId)
  if !sgList.isEmpty then
    .ok sgList
  else if defaults.isEmpty then
    .error .requiredOpt
  else
    .ok defaults

/-- The pods that the API server lists for the selector of a service; there are none
without a selector. -/
def Service.pods (service : Service) (pods : List Pod) : List Pod :=
  if service.selector.items.isEmpty then
    []
  else
    pods.filter fun pod =>
      pod.namespaceName = service.namespaceName ∧
        (Query.requirements { matchLabels := service.selector }).selects (podLabels pod)

/-- `NetworkPolicyServiceSecurityGroupsDriver.get_security_groups`. -/
def getSecurityGroups (defaults : List String) (pods : List Pod) (crds : List Crd)
    (service : Service) : Except PyException (List String) :=
  match service.pods pods with
  | [] => .ok []
  | pod :: _ => getPodSgs defaults crds pod

/-! ## Groups as sets -/

/-- Two outcomes are the same exception, or have the same groups. -/
def SameGroups : Except PyException (List String) → Except PyException (List String) → Prop
  | .ok first, .ok second => ∀ group, group ∈ first ↔ group ∈ second
  | .error first, .error second => first = second
  | _, _ => False

theorem SameGroups.refl (outcome : Except PyException (List String)) :
    SameGroups outcome outcome := by
  cases outcome with
  | ok groups => exact fun _ => Iff.rfl
  | error exception => rfl

/-- Labels with the same items are matched alike. -/
theorem matchSelector_congr {selector : LabelSelector} {first second : Labels}
    (same : first.items.Perm second.items) :
    matchSelector selector first = matchSelector selector second := by
  have lookup : first.get? = second.get? := funext (Dict.get?_eq_of_perm same)
  have empty : first.items.isEmpty = second.items.isEmpty := same.isEmpty_eq
  have turn : matchExpression first = matchExpression second := by
    funext exp
    rw [matchExpression, matchExpression, lookup, empty]
  rw [matchSelector, matchSelector, matchExpressions, matchExpressions, turn, empty, matchLabels,
    matchLabels, lookup]

/-- Pods of one namespace with the same labels. -/
def AlikePods (first second : Pod) : Prop :=
  first.namespaceName = second.namespaceName ∧
    (podLabels first).items.Perm (podLabels second).items

theorem matchesPod_congr {crd : Crd} {first second : Pod} (alike : AlikePods first second) :
    crd.matchesPod first = crd.matchesPod second := by
  rw [Crd.matchesPod, Crd.matchesPod, alike.1, matchSelector_congr alike.2]

/-- The groups of a pod depend on its labels and on the set of resources only. -/
theorem getPodSgs_congr {defaults : List String} {crds others : List Crd} {first second : Pod}
    (alike : AlikePods first second) (reordered : crds.Perm others) :
    SameGroups (getPodSgs defaults crds first) (getPodSgs defaults others second) := by
  have matches_ : (fun crd : Crd => crd.matchesPod first) = fun crd => crd.matchesPod second :=
    funext fun crd => matchesPod_congr alike
  have groups := (reordered.filter fun crd => crd.matchesPod second).map Crd.securityGroupId
  rw [getPodSgs, getPodSgs, matches_]
  rw [groups.isEmpty_eq]
  split
  · exact fun group => groups.mem_iff
  · exact SameGroups.refl _

/-! ## Selection by policies -/

/-- A selector asks for no label with an empty value, which the drivers never match. -/
def LabelSelector.AsksValues (selector : LabelSelector) : Prop :=
  ∀ item ∈ selector.matchLabels.items, item.2 ≠ ""

/-- The drivers match what a selector accepts. -/
theorem matchSelector_of_accepts {selector : LabelSelector} {labels : Labels}
    (asks : selector.AsksValues) (accepts : selector.Accepts labels) :
    matchSelector selector labels := by
  have expressions := (matchExpressions_iff _ _).mpr accepts.2
  have asked : matchLabels selector.matchLabels labels := by
    apply List.all_eq_true.mpr
    intro item listed
    simp [accepts.1 item listed, asks item listed]
  simp [matchSelector, expressions, asked]

/-- The groups of a pod contain those of the policies that select it. -/
theorem mem_getPodSgs (defaults : List String) {crds : List Crd} {crd : Crd} {pod : Pod}
    (listed : crd ∈ crds) (sameNamespace : crd.namespaceName = pod.namespaceName)
    (asks : crd.podSelector.AsksValues) (accepts : crd.podSelector.Accepts (podLabels pod)) :
    ∃ groups, getPodSgs defaults crds pod = .ok groups ∧ crd.securityGroupId ∈ groups := by
  have matched : crd.matchesPod pod :=
    decide_eq_true ⟨sameNamespace, .inr (matchSelector_of_accepts asks accepts)⟩
  have member : crd.securityGroupId ∈
      (crds.filter (·.matchesPod pod)).map (·.securityGroupId) :=
    List.mem_map_of_mem (List.mem_filter.mpr ⟨listed, matched⟩)
  have nonempty : ((crds.filter (·.matchesPod pod)).map (·.securityGroupId)).isEmpty = false :=
    List.isEmpty_eq_false_iff.mpr (List.ne_nil_of_mem member)
  refine ⟨_, ?_, member⟩
  rw [getPodSgs, nonempty]
  rfl

/-! ## Pods behind a service -/

/-- All pods behind a service have the same labels, as the driver assumes. -/
def Service.Alike (service : Service) (pods : List Pod) : Prop :=
  ∀ first ∈ service.pods pods, ∀ second ∈ service.pods pods,
    (podLabels first).items.Perm (podLabels second).items

theorem Service.pods_perm (service : Service) {pods others : List Pod}
    (reordered : pods.Perm others) : (service.pods pods).Perm (service.pods others) := by
  unfold Service.pods
  split
  · exact .refl []
  · exact reordered.filter _

theorem Service.namespaceName_of_mem {service : Service} {pods : List Pod} {pod : Pod}
    (listed : pod ∈ service.pods pods) : pod.namespaceName = service.namespaceName := by
  unfold Service.pods at listed
  split at listed
  · cases listed
  · exact (of_decide_eq_true (List.mem_filter.mp listed).2).1

/-- The groups of a service are those of any pod behind it, if these are alike. -/
theorem getSecurityGroups_of_mem (defaults : List String) {pods : List Pod}
    {crds others : List Crd} {service : Service} {pod : Pod} (alike : service.Alike pods)
    (reordered : crds.Perm others) (listed : pod ∈ service.pods pods) :
    SameGroups (getSecurityGroups defaults pods crds service) (getPodSgs defaults others pod) := by
  unfold getSecurityGroups
  cases behind : service.pods pods with
  | nil =>
      rw [behind] at listed
      cases listed
  | cons first rest =>
      have leading : first ∈ service.pods pods := behind ▸ List.mem_cons_self
      refine getPodSgs_congr ⟨?_, alike first leading pod listed⟩ reordered
      rw [Service.namespaceName_of_mem leading, Service.namespaceName_of_mem listed]

namespace Unlike

def selector : Labels :=
  (∅ : Labels).set "app" "web"

def plain : Pod :=
  { name := "plain", namespaceName := "shop", uid := "plain", labels := some selector }

def labelled : Pod :=
  { name := "labelled", namespaceName := "shop", uid := "labelled"
    labels := some (selector.set "tier" "front") }

def policy : Crd :=
  { namespaceName := "shop", name := "front", securityGroupId := "group"
    podSelector := { matchLabels := (∅ : Labels).set "tier" "front" } }

def service : Service :=
  { namespaceName := "shop", selector }

end Unlike

end KuryrKubernetes.Policy

import KuryrKubernetes.Policy.ParseReturns
import KuryrKubernetes.Policy.Traffic

/-!
# What peers stand for

The peers of a block and the resources that are collected for them.  A peer with two
selectors stands for the matching pods of all matching namespaces; the pods of the last one
are collected.
-/

namespace KuryrKubernetes.Policy

open KuryrKubernetes.Data

/-- A selector that is there and not `{}`. -/
theorem presentSelector_eq_some_iff {selector : Option LabelSelector} {present : LabelSelector} :
    presentSelector selector = some present ↔ selector = some present ∧ ¬present.isEmpty := by
  simp [presentSelector, Option.filter_eq_some_iff]

namespace Translation

variable (translation : Translation)

/-! ## Peers -/

/-- The pod selector of a peer accepts a pod; `pod-template-hash` is left out of it. -/
def AcceptsPod (peer : Peer) (pod : Pod) : Prop :=
  ∃ selector ∈ presentSelector peer.podSelector,
    selector.withoutTemplateHash.Accepts (podLabels pod)

/-- A peer is about the pods of a namespace: of the policy's one if it selects no namespaces,
of all with `{}`, else of those that match. -/
def CoversNamespace (peer : Peer) (name : String) : Prop :=
  match peer.namespaceSelector with
  | none => name = translation.policyNamespace
  | some selector =>
      selector.isEmpty ∨ ∃ namespaceObj ∈ translation.cluster.namespaces,
        namespaceObj.name = name ∧ selector.Accepts namespaceObj.labels

/-- A peer stands for a resource: with a pod selector for pods, else for namespaces.  Everyone
is no resource. -/
def Denotes (peer : Peer) : Resource → Prop
  | .pod pod =>
      pod ∈ translation.cluster.pods ∧ AcceptsPod peer pod ∧
        translation.CoversNamespace peer pod.namespaceName
  | .namespaceObj namespaceObj =>
      presentSelector peer.podSelector = none ∧
        match peer.namespaceSelector with
        | none =>
            peer.podSelector.isSome ∧
              translation.cluster.getNamespace translation.policyNamespace = some namespaceObj
        | some selector =>
            ¬selector.isEmpty ∧ namespaceObj ∈ translation.cluster.namespaces ∧
              selector.Accepts namespaceObj.labels
  | .cidr _ => False

/-! ## What is collected -/

/-- The namespaces whose pods are collected for a peer: of the matching ones the last one. -/
def SearchesNamespace (peer : Peer) (name : String) : Prop :=
  match peer.namespaceSelector with
  | none => name = translation.policyNamespace
  | some selector =>
      selector.isEmpty ∨ ∃ last ∈ (translation.cluster.getNamespaces selector).getLast?,
        last.name = name

/-- What is collected for a peer. -/
def Collects (peer : Peer) : Resource → Prop
  | .pod pod =>
      pod ∈ translation.cluster.pods ∧ AcceptsPod peer pod ∧
        translation.SearchesNamespace peer pod.namespaceName
  | .namespaceObj namespaceObj => translation.Denotes peer (.namespaceObj namespaceObj)
  | .cidr _ => False

/-- A pod that a peer stands for is in the last of the matching namespaces, or is collected
for another peer. -/
def PodsCollected (peers : List Peer) : Prop :=
  ∀ peer ∈ peers, ∀ selector ∈ peer.namespaceSelector, ¬selector.isEmpty →
    ∀ pod ∈ translation.cluster.pods, AcceptsPod peer pod →
      ∀ namespaceObj ∈ translation.cluster.getNamespaces selector,
        namespaceObj.name = pod.namespaceName →
          (∃ last ∈ (translation.cluster.getNamespaces selector).getLast?,
            last.name = pod.namespaceName) ∨
          ∃ other ∈ peers, AcceptsPod other pod ∧
            translation.SearchesNamespace other pod.namespaceName

variable {translation}

theorem mem_getNamespaces_iff {selector : LabelSelector} (given : ¬selector.isEmpty)
    {namespaceObj : Namespace} :
    namespaceObj ∈ translation.cluster.getNamespaces selector ↔
      namespaceObj ∈ translation.cluster.namespaces ∧ selector.Accepts namespaceObj.labels := by
  simp [Cluster.getNamespaces, given, Query.selects]

theorem selects_podQuery_iff {selector : LabelSelector} (given : ¬selector.isEmpty)
    (labels : Labels) :
    (podQuery selector).selects labels = true ↔ selector.withoutTemplateHash.Accepts labels := by
  simp [podQuery, given, Query.selects]

theorem mem_map_pod_iff {pods : List Pod} {resource : Resource} :
    resource ∈ pods.map Resource.pod ↔ ∃ pod ∈ pods, resource = .pod pod := by
  simp [eq_comm]

/-- What is collected for one peer. -/
theorem mem_peerResources_iff {peer : Peer} {own : List Resource}
    (resolved : translation.peerResources peer = .ok own) (resource : Resource) :
    resource ∈ own ↔ translation.Collects peer resource := by
  unfold peerResources at resolved
  cases named : peer.namespaceSelector with
  | some selector =>
      simp only [named] at resolved
      cases selected : presentSelector peer.podSelector with
      | some podSelector =>
          have given := (presentSelector_eq_some_iff.mp selected).2
          have accepts (pod : Pod) : AcceptsPod peer pod ↔
              podSelector.withoutTemplateHash.Accepts (podLabels pod) := by
            simp [AcceptsPod, selected]
          simp only [selected] at resolved
          by_cases everywhere : selector.isEmpty = true
          · rw [if_pos everywhere] at resolved
            cases resolved
            rw [mem_map_pod_iff]
            cases resource with
            | pod pod =>
                simp [Snapshot.getAllPods, selects_podQuery_iff given, Collects, accepts,
                  SearchesNamespace, named, everywhere]
            | namespaceObj namespaceObj => simp [Collects, Denotes, selected]
            | cidr cidr => simp [Collects]
          · rw [if_neg everywhere] at resolved
            cases resolved
            rw [mem_map_pod_iff]
            cases resource with
            | pod pod =>
                unfold getSelectedPods
                cases found : (translation.cluster.getNamespaces selector).getLast? with
                | none => simp [Collects, SearchesNamespace, named, everywhere, found]
                | some last =>
                    simp only [Snapshot.getPods, List.mem_filter, selects_podQuery_iff given,
                      Collects, accepts, SearchesNamespace, named, everywhere, found,
                      Resource.pod.injEq, decide_eq_true_eq, Option.mem_def, Option.some.injEq,
                      exists_eq_left', false_or, exists_eq_right', Bool.false_eq_true]
                    constructor
                    · rintro ⟨member, here, accepted⟩
                      exact ⟨member, accepted, here.symm⟩
                    · rintro ⟨member, accepted, here⟩
                      exact ⟨member, here.symm, accepted⟩
            | namespaceObj namespaceObj => simp [Collects, Denotes, selected]
            | cidr cidr => simp [Collects]
      | none =>
          simp only [selected] at resolved
          by_cases everywhere : selector.isEmpty = true
          · rw [if_pos everywhere] at resolved
            cases resolved
            cases resource with
            | pod pod => simp [Collects, AcceptsPod, selected]
            | namespaceObj namespaceObj => simp [Collects, Denotes, named, everywhere]
            | cidr cidr => simp [Collects]
          · rw [if_neg everywhere] at resolved
            cases resolved
            cases resource with
            | pod pod => simp [Collects, AcceptsPod, selected]
            | namespaceObj namespaceObj =>
                simp [Collects, Denotes, selected, named, everywhere,
                  mem_getNamespaces_iff everywhere]
            | cidr cidr => simp [Collects]
  | none =>
      simp only [named] at resolved
      cases selected : peer.podSelector with
      | none =>
          simp only [selected] at resolved
          cases resolved
          cases resource <;> simp [Collects, AcceptsPod, Denotes, presentSelector, selected, named]
      | some podSelector =>
          simp only [selected] at resolved
          by_cases everything : podSelector.isEmpty = true
          · rw [if_pos everything] at resolved
            cases found : translation.cluster.getNamespace translation.policyNamespace with
            | none =>
                rw [found] at resolved
                cases resolved
            | some own =>
                rw [found] at resolved
                cases resolved
                cases resource <;>
                  simp [Collects, AcceptsPod, Denotes, presentSelector, selected, named, everything,
                    found, Option.filter, eq_comm]
          · rw [if_neg everything] at resolved
            cases resolved
            have present : presentSelector peer.podSelector = some podSelector :=
              presentSelector_eq_some_iff.mpr ⟨selected, everything⟩
            rw [mem_map_pod_iff]
            cases resource with
            | pod pod =>
                simp only [Snapshot.getPods, List.mem_filter, selects_podQuery_iff everything,
                  Collects, AcceptsPod, present, SearchesNamespace, named, Resource.pod.injEq,
                  decide_eq_true_eq, Option.mem_def, Option.some.injEq, exists_eq_left',
                  exists_eq_right']
                constructor
                · rintro ⟨member, here, accepted⟩
                  exact ⟨member, accepted, here⟩
                · rintro ⟨member, accepted, here⟩
                  exact ⟨member, here, accepted⟩
            | namespaceObj namespaceObj => simp [Collects, Denotes, present]
            | cidr cidr => simp [Collects]

/-- What is collected for the peers of a block. -/
theorem mem_selectorResources_iff {peers : List Peer} {resources : List Resource}
    (resolved : translation.selectorResources peers = .ok resources) (resource : Resource) :
    resource ∈ resources ↔ ∃ peer ∈ peers, translation.Collects peer resource := by
  induction peers generalizing resources with
  | nil =>
      cases resolved
      simp
  | cons peer rest ih =>
      rw [selectorResources] at resolved
      cases own : translation.peerResources peer with
      | error exception =>
          rw [own] at resolved
          cases resolved
      | ok found =>
          cases others : translation.selectorResources rest with
          | error exception =>
              rw [own, others] at resolved
              cases resolved
          | ok more =>
              rw [own, others] at resolved
              cases resolved
              rw [List.mem_append, mem_peerResources_iff own, ih others, List.exists_mem_cons_iff]

/-! ## Exactly the peers -/

/-- The last of the matching namespaces is one that the peer covers. -/
theorem coversNamespace_of_searches {peer : Peer} {name : String}
    (searches : translation.SearchesNamespace peer name) :
    translation.CoversNamespace peer name := by
  unfold SearchesNamespace at searches
  unfold CoversNamespace
  cases named : peer.namespaceSelector with
  | none =>
      simp only [named] at searches
      exact searches
  | some selector =>
      simp only [named] at searches
      rcases searches with everywhere | ⟨last, found, here⟩
      · exact .inl everywhere
      · by_cases everywhere : selector.isEmpty = true
        · exact .inl everywhere
        · rcases (mem_getNamespaces_iff everywhere).mp (List.mem_of_getLast? found) with
            ⟨member, accepts⟩
          exact .inr ⟨last, member, here, accepts⟩

theorem denotes_of_collects {peer : Peer} {resource : Resource}
    (collects : translation.Collects peer resource) : translation.Denotes peer resource := by
  cases resource with
  | pod pod =>
      rcases collects with ⟨member, accepts, searches⟩
      exact ⟨member, accepts, coversNamespace_of_searches searches⟩
  | namespaceObj namespaceObj => exact collects
  | cidr cidr => exact collects

/-- The pods of all peers are collected exactly where those of the other matching namespaces
are. -/
theorem collects_iff (peers : List Peer) :
    (∀ resource, (∃ peer ∈ peers, translation.Collects peer resource) ↔
        ∃ peer ∈ peers, translation.Denotes peer resource) ↔
      translation.PodsCollected peers := by
  constructor
  · intro same peer among selector named given pod known accepts namespaceObj matching here
    rcases (mem_getNamespaces_iff given).mp matching with ⟨member, accepted⟩
    have denotes : translation.Denotes peer (.pod pod) := by
      refine ⟨known, accepts, ?_⟩
      unfold CoversNamespace
      rw [named]
      exact .inr ⟨namespaceObj, member, here, accepted⟩
    rcases (same (.pod pod)).mpr ⟨peer, among, denotes⟩ with ⟨other, listed, _, found, searches⟩
    exact .inr ⟨other, listed, found, searches⟩
  · intro collected resource
    constructor
    · rintro ⟨peer, among, collects⟩
      exact ⟨peer, among, denotes_of_collects collects⟩
    · rintro ⟨peer, among, denotes⟩
      cases resource with
      | cidr cidr => exact ⟨peer, among, denotes⟩
      | namespaceObj namespaceObj => exact ⟨peer, among, denotes⟩
      | pod pod =>
          rcases denotes with ⟨known, accepts, covers⟩
          unfold CoversNamespace at covers
          cases named : peer.namespaceSelector with
          | none =>
              rw [named] at covers
              refine ⟨peer, among, known, accepts, ?_⟩
              unfold SearchesNamespace
              rw [named]
              exact covers
          | some selector =>
              rw [named] at covers
              by_cases everywhere : selector.isEmpty = true
              · refine ⟨peer, among, known, accepts, ?_⟩
                unfold SearchesNamespace
                rw [named]
                exact .inl everywhere
              · rcases covers with all | ⟨namespaceObj, member, here, accepted⟩
                · exact absurd all everywhere
                · have matching := (mem_getNamespaces_iff everywhere).mpr ⟨member, accepted⟩
                  rcases collected peer among selector named everywhere pod known accepts
                    namespaceObj matching here with last | ⟨other, listed, found, searches⟩
                  · refine ⟨peer, among, known, accepts, ?_⟩
                    unfold SearchesNamespace
                    rw [named]
                    exact .inr last
                  · exact ⟨other, listed, known, found, searches⟩

theorem allowsAll_iff (block : RuleBlock) :
    allowsAll block = true ↔ ∃ peer ∈ block.peers, peer.isEveryone = true := by
  simp [allowsAll, Peer.isEveryone, and_comm]

/-- The resources of a block are what its peers stand for, and everyone is noted where a peer
is everyone, exactly where no pod of another matching namespace is left out. -/
theorem selector_resources_iff {block : RuleBlock} {resources : List Resource}
    (resolved : translation.selectorResources block.peers = .ok resources) :
    ((∀ resource, resource ∈ resources ↔
          ∃ peer ∈ block.peers, translation.Denotes peer resource) ∧
        (allowsAll block = true ↔ ∃ peer ∈ block.peers, peer.isEveryone = true)) ↔
      translation.PodsCollected block.peers := by
  rw [← collects_iff]
  simp only [mem_selectorResources_iff resolved, allowsAll_iff, and_true]

end Translation

/-! ## Pods of two namespaces -/

namespace Teams

/-- The namespaces of a team. -/
def namespaceObj (name : String) : Namespace where
  name
  labels := (∅ : Labels).set "team" "red"

def pod (name namespaceName : String) : Pod where
  name
  namespaceName
  uid := name
  labels := some ((∅ : Labels).set "app" "web")

/-- Pods of the same app in some namespaces of one team. -/
def translation (names : List String) : Translation where
  cluster :=
    { pods := names.map fun name => pod "web" name
      namespaces := names.map namespaceObj }
  text := { contains := fun _ _ => some false, exclude := fun cidr _ => [cidr] }
  policyNamespace := "default"
  podSelector := {}
  securityGroupId := "sg"
  direction := .ingress

/-- The pods of the app in the namespaces of the team. -/
def block : RuleBlock where
  peers :=
    [{ namespaceSelector := some { matchLabels := (∅ : Labels).set "team" "red" }
       podSelector := some { matchLabels := (∅ : Labels).set "app" "web" } }]

end Teams

/-- In one namespace the pods are those of the peer. -/
theorem selector_resources_of_one_namespace :
    Resource.pod (Teams.pod "web" "first") ∈ [Resource.pod (Teams.pod "web" "first")] ↔
      ∃ peer ∈ Teams.block.peers,
        (Teams.translation ["first"]).Denotes peer (.pod (Teams.pod "web" "first")) := by
  have resolved : (Teams.translation ["first"]).selectorResources Teams.block.peers =
      .ok [.pod (Teams.pod "web" "first")] := rfl
  have collected : (Teams.translation ["first"]).PodsCollected Teams.block.peers := by
    intro peer among selector named given pod known accepts namespaceObj matching here
    left
    rw [List.mem_singleton.mp among] at named
    cases named
    rw [List.mem_singleton.mp known]
    exact ⟨Teams.namespaceObj "first", rfl, rfl⟩
  exact ((Translation.selector_resources_iff resolved).mpr collected).1 _

/-- Of two namespaces the pods of the first one are left out. -/
theorem selector_resources_of_two_namespaces :
    (Teams.translation ["first", "second"]).selectorResources Teams.block.peers =
        .ok [.pod (Teams.pod "web" "second")] ∧
      Resource.pod (Teams.pod "web" "first") ∉ [Resource.pod (Teams.pod "web" "second")] ∧
      ∃ peer ∈ Teams.block.peers,
        (Teams.translation ["first", "second"]).Denotes peer
          (.pod (Teams.pod "web" "first")) := by
  refine ⟨rfl, ?_, ?_⟩
  · intro member
    have same : Teams.pod "web" "first" = Teams.pod "web" "second" :=
      Resource.pod.inj (List.mem_singleton.mp member)
    exact absurd (congrArg Pod.namespaceName same) (by decide)
  · refine ⟨_, List.mem_cons_self, List.mem_cons_self, ?_, ?_⟩
    · exact ⟨_, rfl, by decide⟩
    · exact .inr ⟨Teams.namespaceObj "first", List.mem_cons_self, rfl, by decide⟩

end KuryrKubernetes.Policy

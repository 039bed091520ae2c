import KuryrKubernetes.Policy.Handler

/-!
# Stripping the group of a deleted policy

After an event of a policy has been handled, the ports with the group of the policy are
those of the pods that the selector noted in the resource matches.  On deletion the group
is taken off the ports of the pods that the deleted version selects, which need not be
the version that was enforced last: `Async` may have dropped the update in between.
-/

namespace KuryrKubernetes.Policy

open KuryrKubernetes.Data
open KuryrKubernetes.Effect
open KuryrKubernetes.Transition
open NetworkPolicyDriver NetworkPolicyHandler

/-- A pod of the cluster that is not in the host network has a port. -/
def PodCluster.Wired (cluster : PodCluster) (pod : Pod) (id : String) : Prop :=
  pod ∈ cluster.snapshot.pods ∧ pod.isHostNetwork = false ∧ portId pod = some id

/-- `pod_security_groups` is set, and every pod has a port of its own. -/
structure PodCluster.Configured (cluster : PodCluster) : Prop where
  defaults : cluster.defaults ≠ []
  ownPort : ∀ pod other id, cluster.Wired pod id → cluster.Wired other id → pod = other

/-! ## Setting the groups of ports -/

/-- The port of a pod is given groups. -/
def assign (groups : Pod → List String) (ports : Dict String (List String)) (pod : Pod) :
    Dict String (List String) :=
  if pod.isHostNetwork then ports
  else
    match portId pod with
    | none => ports
    | some id => ports.set id (groups pod)

section

variable {cluster : PodCluster} {groups : Pod → List String} {pods : List Pod}
  {ports : Dict String (List String)} {id : String} {pod : Pod}

theorem assign_of_wired (wired : cluster.Wired pod id) :
    assign groups ports pod = ports.set id (groups pod) := by
  rw [assign, wired.2.1, wired.2.2]
  rfl

theorem mem_assign (present : id ∈ ports) : id ∈ assign groups ports pod := by
  rw [assign]
  split
  · exact present
  · split
    · exact present
    · exact Dict.mem_set.mpr (.inr present)

/-- A port that belongs to none of the pods keeps its groups. -/
theorem get?_assign_of_unwired (member : pod ∈ cluster.snapshot.pods)
    (unwired : ¬ cluster.Wired pod id) :
    (assign groups ports pod).get? id = ports.get? id := by
  rw [assign]
  split
  · rfl
  · rename_i inPodNetwork
    split
    · rfl
    · rename_i other own
      apply Dict.get?_set_of_ne
      rintro rfl
      exact unwired ⟨member, Bool.eq_false_of_not_eq_true inPodNetwork, own⟩

theorem get?_foldl_assign_of_unwired (members : ∀ pod ∈ pods, pod ∈ cluster.snapshot.pods)
    (unwired : ∀ pod ∈ pods, ¬ cluster.Wired pod id) :
    (pods.foldl (assign groups) ports).get? id = ports.get? id := by
  induction pods generalizing ports with
  | nil => rfl
  | cons first rest ih =>
      rw [List.foldl_cons, ih (fun pod later => members pod (List.mem_cons_of_mem _ later))
        (fun pod later => unwired pod (List.mem_cons_of_mem _ later))]
      exact get?_assign_of_unwired (members first List.mem_cons_self)
        (unwired first List.mem_cons_self)

/-- The port of one of the pods has the groups of that pod. -/
theorem get?_foldl_assign (configured : cluster.Configured)
    (members : ∀ pod ∈ pods, pod ∈ cluster.snapshot.pods) (listed : pod ∈ pods)
    (wired : cluster.Wired pod id) :
    (pods.foldl (assign groups) ports).get? id = some (groups pod) := by
  induction pods generalizing ports with
  | nil => cases listed
  | cons first rest ih =>
      have later : ∀ pod ∈ rest, pod ∈ cluster.snapshot.pods :=
        fun pod member => members pod (List.mem_cons_of_mem _ member)
      rw [List.foldl_cons]
      by_cases again : pod ∈ rest
      · exact ih later again
      · have same : pod = first := (List.mem_cons.mp listed).resolve_right again
        subst first
        rw [get?_foldl_assign_of_unwired later]
        · rw [assign_of_wired wired]
          exact Dict.get?_set_self _ _ _
        · intro other member otherWired
          have equal := configured.ownPort pod other id wired otherWired
          exact again (equal ▸ member)

/-- A loop whose turns set the groups of one port each. -/
theorem exec_forM_assign {body : Pod → HandlerM PUnit} {world : GroupWorld}
    (members : ∀ pod ∈ pods, pod ∈ cluster.snapshot.pods)
    (ported : ∀ pod id, cluster.Wired pod id → id ∈ world.ports)
    (turn : ∀ pod ∈ cluster.snapshot.pods, ∀ before : GroupWorld,
      before.crds = world.crds → (∀ id, cluster.Wired pod id → id ∈ before.ports) →
      exec (body pod) before =
        (.ok ⟨⟩, { before with ports := assign groups before.ports pod })) :
    exec (pods.forM body) world =
      (.ok ⟨⟩, { world with ports := pods.foldl (assign groups) world.ports }) := by
  induction pods generalizing world with
  | nil => rfl
  | cons first rest ih =>
      have member := members first List.mem_cons_self
      rw [forM_cons_eq, exec_bind_of_ok (turn first member world rfl (ported first))]
      apply ih
      · exact fun pod later => members pod (List.mem_cons_of_mem _ later)
      · intro pod id wired
        exact mem_assign (ported pod id wired)
      · exact turn

end

/-! ## The groups of a pod -/

/-- `_get_pod_sgs` where `pod_security_groups` is set. -/
def podGroups (defaults : List String) (crds : List Crd) (pod : Pod) : List String :=
  let sgList := (crds.filter (·.matchesPod pod)).map (·.securityGroupId)
  if !sgList.isEmpty then sgList else defaults

/-- What a deletion leaves of groups. -/
def groupsLeft (defaults : List String) (crdSg : String) (groups : List String) : List String :=
  let left := groups.erase crdSg
  if !left.isEmpty then left else defaults

theorem getPodSgs_eq {defaults : List String} (configured : defaults ≠ []) (crds : List Crd)
    (pod : Pod) : getPodSgs defaults crds pod = .ok (podGroups defaults crds pod) := by
  simp only [getPodSgs, podGroups, List.isEmpty_eq_false_iff.mpr configured]
  split <;> simp

theorem withoutSg_eq {defaults : List String} (configured : defaults ≠ []) (crdSg : String)
    (groups : List String) :
    withoutSg defaults crdSg groups = .ok (groupsLeft defaults crdSg groups) := by
  simp only [withoutSg, groupsLeft, List.isEmpty_eq_false_iff.mpr configured]
  split <;> simp

section

variable {defaults : List String} {crds : List Crd} {crd : Crd}

/-- A pod has the group of a resource if the resource matches it. -/
theorem mem_podGroups_iff (listed : crd ∈ crds)
    (distinct : (crds.map (·.securityGroupId)).Nodup) (unlike : crd.securityGroupId ∉ defaults)
    (pod : Pod) :
    crd.securityGroupId ∈ podGroups defaults crds pod ↔ crd.matchesPod pod = true := by
  have inList : crd.securityGroupId ∈
      (crds.filter (·.matchesPod pod)).map (·.securityGroupId) ↔ crd.matchesPod pod = true := by
    constructor
    · intro member
      obtain ⟨other, selected, sameGroup⟩ := List.mem_map.mp member
      obtain ⟨otherListed, matched⟩ := List.mem_filter.mp selected
      have same := List.inj_on_of_nodup_map distinct otherListed listed sameGroup
      exact same ▸ matched
    · intro matched
      exact List.mem_map_of_mem (List.mem_filter.mpr ⟨listed, matched⟩)
  rw [podGroups]
  split
  · exact inList
  · rename_i empty
    rw [← inList]
    have none_ : (crds.filter (·.matchesPod pod)).map (·.securityGroupId) = [] := by
      simpa using empty
    rw [none_]
    simp [unlike]

/-- A deletion leaves no pod the group. -/
theorem not_mem_groupsLeft (distinct : (crds.map (·.securityGroupId)).Nodup)
    (unlike : crd.securityGroupId ∉ defaults) (pod : Pod) :
    crd.securityGroupId ∉
      groupsLeft defaults crd.securityGroupId (podGroups defaults crds pod) := by
  rw [groupsLeft]
  split
  · rw [podGroups]
    split
    · have once : ((crds.filter (·.matchesPod pod)).map (·.securityGroupId)).Nodup :=
        distinct.sublist (List.filter_sublist.map _)
      exact once.not_mem_erase
    · exact fun member => unlike (List.mem_of_mem_erase member)
  · exact unlike

end

/-! ## Turns of the loops -/

section

variable {cluster : PodCluster} {key : PolicyKey} {pod : Pod}

/-- The port of a pod in the pod network is there. -/
theorem exec_updateVifSgs {world : GroupWorld} {groups : Pod → List String}
    (member : pod ∈ cluster.snapshot.pods) (inPodNetwork : pod.isHostNetwork = false)
    (ported : ∀ id, cluster.Wired pod id → id ∈ world.ports) :
    exec (updateVifSgs pod (groups pod)) world =
      (.ok ⟨⟩, { world with ports := assign groups world.ports pod }) := by
  rw [updateVifSgs, assign, inPodNetwork, if_neg Bool.false_ne_true]
  cases own : portId pod with
  | none => rfl
  | some id =>
      dsimp only
      rw [updatePort, exec_get_bind, if_pos (ported id ⟨member, inPodNetwork, own⟩), exec_set]

theorem exec_updatePod {crds : List Crd} (configured : cluster.Configured)
    (member : pod ∈ cluster.snapshot.pods) (before : GroupWorld) (sameCrds : before.crds = crds)
    (ported : ∀ id, cluster.Wired pod id → id ∈ before.ports) :
    exec (updatePod cluster pod) before =
      (.ok ⟨⟩, { before with
        ports := assign (podGroups cluster.defaults crds) before.ports pod }) := by
  subst sameCrds
  rw [updatePod]
  split
  · rename_i inHostNetwork
    rw [assign, if_pos inHostNetwork]
    rfl
  · rename_i inPodNetwork
    rw [exec_get_bind, getPodSgs_eq configured.defaults, settle_ok, exec_pure_bind]
    exact exec_updateVifSgs member (Bool.eq_false_of_not_eq_true inPodNetwork) ported

/-- The loop of `on_present`. -/
theorem exec_updatePods {pods : List Pod} (configured : cluster.Configured)
    (members : ∀ pod ∈ pods, pod ∈ cluster.snapshot.pods) (world : GroupWorld)
    (ported : ∀ pod id, cluster.Wired pod id → id ∈ world.ports) :
    exec (pods.forM (updatePod cluster)) world =
      (.ok ⟨⟩, { world with
        ports := pods.foldl (assign (podGroups cluster.defaults world.crds)) world.ports }) := by
  apply exec_forM_assign members ported
  intro pod member before sameCrds wired
  exact exec_updatePod configured member before sameCrds wired

theorem exec_stripPod {crds : List Crd} (configured : cluster.Configured) (crdSg : String)
    (member : pod ∈ cluster.snapshot.pods) (before : GroupWorld) (sameCrds : before.crds = crds)
    (ported : ∀ id, cluster.Wired pod id → id ∈ before.ports) :
    exec (stripPod cluster crdSg pod) before =
      (.ok ⟨⟩, { before with
        ports := assign
          (fun pod => groupsLeft cluster.defaults crdSg (podGroups cluster.defaults crds pod))
          before.ports pod }) := by
  subst sameCrds
  rw [stripPod]
  split
  · rename_i inHostNetwork
    rw [assign, if_pos inHostNetwork]
    rfl
  · rename_i inPodNetwork
    have updated := @exec_updateVifSgs cluster pod before
      (fun pod => groupsLeft cluster.defaults crdSg (podGroups cluster.defaults before.crds pod))
      member (Bool.eq_false_of_not_eq_true inPodNetwork) ported
    rw [exec_get_bind, getPodSgs_eq configured.defaults, settle_ok, exec_pure_bind,
      withoutSg_eq configured.defaults, settle_ok, exec_pure_bind, exec_tryCatch, updated]

end

/-! ## Selection -/

/-- The selector of a version matches a pod as the drivers match. -/
def PolicyKey.matches_ (key : PolicyKey) (selector : LabelSelector) (pod : Pod) : Bool :=
  key.namespaceName = pod.namespaceName ∧
    (selector.isEmpty ∨ matchSelector selector (podLabels pod))

/-- The API server lists a pod for the selector of a version. -/
def PolicyKey.lists (cluster : PodCluster) (key : PolicyKey) (selector : LabelSelector)
    (pod : Pod) : Prop :=
  pod ∈ affectedPods cluster (key.version selector) none

/-- Every pod with a port that the drivers match is listed. -/
def PolicyKey.Listed (cluster : PodCluster) (key : PolicyKey) (selector : LabelSelector) :
    Prop :=
  ∀ pod id, cluster.Wired pod id → key.matches_ selector pod = true →
    key.lists cluster selector pod

section

variable {cluster : PodCluster} {key : PolicyKey} {pod : Pod} {selector : LabelSelector}

theorem mem_of_affected {policy : NetworkPolicy} {asked : Option LabelSelector}
    (affected : pod ∈ affectedPods cluster policy asked) : pod ∈ cluster.snapshot.pods := by
  rw [affectedPods] at affected
  split at affected
  · exact (List.mem_filter.mp affected).1
  · exact (List.mem_filter.mp affected).1

/-- Equal selectors match the same pods. -/
theorem matches_of_same {other : LabelSelector} (same : selector.same other = true) :
    key.matches_ selector pod = key.matches_ other pod := by
  obtain ⟨labels, expressions⟩ := of_decide_eq_true same
  have empty : selector.matchLabels.items.isEmpty = other.matchLabels.items.isEmpty := by
    rw [Bool.eq_iff_iff, List.isEmpty_iff, List.isEmpty_iff]
    exact ⟨fun none => (none ▸ labels).nil_eq.symm, fun none => (none ▸ labels).eq_nil⟩
  have sameLabels : matchLabels selector.matchLabels (podLabels pod) =
      matchLabels other.matchLabels (podLabels pod) :=
    labels.all_eq
  rw [Bool.eq_iff_iff, PolicyKey.matches_, PolicyKey.matches_, decide_eq_true_eq,
    decide_eq_true_eq]
  simp only [LabelSelector.isEmpty, matchSelector, empty, expressions, sameLabels]

theorem lists_iff :
    key.lists cluster selector pod ↔ pod ∈ cluster.snapshot.pods ∧
      pod.namespaceName = key.namespaceName ∧
      (selector.isEmpty = true ∨ (podQuery selector).selects (podLabels pod) = true) := by
  have asked : (none : Option LabelSelector).getD (key.version selector).podSelector =
      selector := rfl
  rw [PolicyKey.lists, affectedPods]
  rw [asked]
  by_cases empty : selector.isEmpty = true
  · simp only [empty, if_true, namespacedPods, List.mem_filter, true_or, and_true]
    exact and_congr_right fun _ => decide_eq_true_iff
  · simp only [empty, Bool.false_eq_true, if_false, Snapshot.getPods, List.mem_filter, false_or]
    exact and_congr_right fun _ => decide_eq_true_iff

/-- Pods with labels are listed wherever the drivers match them. -/
theorem listed_of_labelled
    (labelled : ∀ pod id, cluster.Wired pod id → ¬(podLabels pod).items.isEmpty)
    (key : PolicyKey) (selector : LabelSelector) : key.Listed cluster selector := by
  intro pod id wired matched
  obtain ⟨sameNamespace, selected⟩ := of_decide_eq_true matched
  apply lists_iff.mpr
  refine ⟨wired.1, sameNamespace.symm, ?_⟩
  by_cases empty : selector.isEmpty = true
  · exact .inl empty
  · right
    have accepts := accepts_of_matchSelector (selected.resolve_left empty)
      (.inl (labelled pod id wired))
    rw [podQuery, if_neg empty]
    apply decide_eq_true
    constructor
    · intro item listed
      exact accepts.1 item ((Dict.eraseItems_sublist _ _).subset listed)
    · exact accepts.2

end

/-! ## What a handled version leaves -/

/-- The policy has no resource yet, and every pod with a port has it at Neutron. -/
structure Unenforced (cluster : PodCluster) (key : PolicyKey) (world : GroupWorld) : Prop where
  absent : ∀ crd ∈ world.crds, isCrdOf (key.version {}) crd = false
  distinct : (world.crds.map (·.securityGroupId)).Nodup
  ported : ∀ pod id, cluster.Wired pod id → id ∈ world.ports

/-- `crd` is the resource of the policy, and the ports with its group are those of the
pods that its selector matches. -/
structure Enforced (cluster : PodCluster) (key : PolicyKey) (crd : Crd)
    (world : GroupWorld) : Prop where
  listed : crd ∈ world.crds
  isOwn : isCrdOf (key.version {}) crd = true
  single : ∀ other ∈ world.crds, isCrdOf (key.version {}) other = true → other = crd
  distinct : (world.crds.map (·.securityGroupId)).Nodup
  unlike : crd.securityGroupId ∉ cluster.defaults
  carried : ∀ pod id, cluster.Wired pod id → ∃ groups, world.ports.get? id = some groups ∧
    (crd.securityGroupId ∈ groups ↔ key.matches_ crd.podSelector pod = true)
  noStranger : ∀ id groups, world.ports.get? id = some groups →
    crd.securityGroupId ∈ groups → ∃ pod, cluster.Wired pod id

section

variable {cluster : PodCluster} {key : PolicyKey} {crd : Crd} {world : GroupWorld}
  {selector : LabelSelector}

/-- The resource of the policy matches a pod as its selector does. -/
theorem matchesPod_eq (isOwn : isCrdOf (key.version {}) crd = true) (pod : Pod) :
    crd.matchesPod pod = key.matches_ crd.podSelector pod := by
  rw [Crd.matchesPod, (of_decide_eq_true isOwn).1]
  rfl

/-- Setting the groups of some pods enforces the selector, if the other ports have the
group as the selector says. -/
theorem Enforced.of_assigned {pods : List Pod} (configured : cluster.Configured)
    (members : ∀ pod ∈ pods, pod ∈ cluster.snapshot.pods) (listed : crd ∈ world.crds)
    (isOwn : isCrdOf (key.version {}) crd = true)
    (single : ∀ other ∈ world.crds, isCrdOf (key.version {}) other = true → other = crd)
    (distinct : (world.crds.map (·.securityGroupId)).Nodup)
    (unlike : crd.securityGroupId ∉ cluster.defaults)
    (others : ∀ pod id, cluster.Wired pod id → pod ∉ pods →
      ∃ groups, world.ports.get? id = some groups ∧
        (crd.securityGroupId ∈ groups ↔ key.matches_ crd.podSelector pod = true))
    (noStranger : ∀ id groups, world.ports.get? id = some groups →
      crd.securityGroupId ∈ groups → ∃ pod, cluster.Wired pod id) :
    Enforced cluster key crd
      { world with
        ports := pods.foldl (assign (podGroups cluster.defaults world.crds)) world.ports } where
  listed := listed
  isOwn := isOwn
  single := single
  distinct := distinct
  unlike := unlike
  carried := by
    intro pod id wired
    by_cases updated : pod ∈ pods
    · refine ⟨_, get?_foldl_assign configured members updated wired, ?_⟩
      rw [mem_podGroups_iff listed distinct unlike, matchesPod_eq isOwn]
    · rw [get?_foldl_assign_of_unwired members]
      · exact others pod id wired updated
      · intro other member otherWired
        exact updated (configured.ownPort pod other id wired otherWired ▸ member)
  noStranger := by
    intro id groups stored carries
    by_cases wired : ∃ pod ∈ pods, cluster.Wired pod id
    · obtain ⟨pod, _, wiredPod⟩ := wired
      exact ⟨pod, wiredPod⟩
    · rw [get?_foldl_assign_of_unwired members] at stored
      · exact noStranger id groups stored carries
      · intro pod member wiredPod
        exact wired ⟨pod, member, wiredPod⟩

/-- The resource of the policy is the one found. -/
theorem Enforced.find? (enforced : Enforced cluster key crd world) :
    world.crds.find? (isCrdOf (key.version selector)) = some crd := by
  cases found : world.crds.find? (isCrdOf (key.version selector)) with
  | none => exact absurd enforced.isOwn (List.find?_eq_none.mp found crd enforced.listed)
  | some other =>
      rw [enforced.single other (List.mem_of_find?_eq_some found) (List.find?_some found)]

theorem Enforced.ported (enforced : Enforced cluster key crd world) (pod : Pod) (id : String)
    (wired : cluster.Wired pod id) : id ∈ world.ports := by
  obtain ⟨groups, stored, _⟩ := enforced.carried pod id wired
  exact Dict.mem_iff_exists_get?.mpr ⟨groups, stored⟩

/-- The first version creates the resource and enforces its selector. -/
theorem enforced_of_created {newGroup : String} (configured : cluster.Configured)
    (unenforced : Unenforced cluster key world)
    (fresh : world.isNew cluster.defaults newGroup = true)
    (matchedListed : key.Listed cluster selector) :
    ∃ crd, crd.podSelector = selector ∧
      Enforced cluster key crd (handlePolicy cluster key newGroup world (.present selector)) := by
  obtain ⟨unlike, _, noCrd, noPort⟩ := of_decide_eq_true fresh
  have missing : world.crds.find? (isCrdOf (key.version selector)) = none :=
    List.find?_eq_none.mpr fun crd listed =>
      Bool.eq_false_iff.mp (unenforced.absent crd listed)
  let crd : Crd :=
    { namespaceName := key.namespaceName
      name := "np-" ++ key.name
      securityGroupId := newGroup
      podSelector := selector }
  let created : GroupWorld :=
    { world with
      groups := world.groups ++ [newGroup]
      crds := world.crds ++ [crd] }
  have ensured : exec (ensureNetworkPolicy cluster (key.version selector) newGroup) world =
      (.ok [], created) := by
    rw [ensureNetworkPolicy, getKuryrnetpolicyCrd, bind_assoc, exec_get_bind, exec_pure_bind,
      missing]
    rfl
  have ran : handlePolicy cluster key newGroup world (.present selector) =
      { created with
        ports := (affectedPods cluster (key.version selector) none).foldl
          (assign (podGroups cluster.defaults created.crds)) created.ports } := by
    rw [handlePolicy, onPresent, exec_bind_of_ok ensured]
    exact congrArg Prod.snd (exec_updatePods configured
      (fun pod affected => mem_of_affected affected) created unenforced.ported)
  have isOwn : isCrdOf (key.version {}) crd = true := decide_eq_true ⟨rfl, rfl⟩
  refine ⟨crd, rfl, ?_⟩
  rw [ran]
  apply Enforced.of_assigned configured (fun pod affected => mem_of_affected affected)
  · exact List.mem_append_right _ (List.mem_singleton_self crd)
  · exact isOwn
  · intro other listed own
    rcases List.mem_append.mp listed with old | new
    · rw [unenforced.absent other old] at own
      cases own
    · exact List.mem_singleton.mp new
  · rw [List.map_append, List.nodup_append]
    refine ⟨unenforced.distinct, List.nodup_singleton _, ?_⟩
    intro group inOld other inNew
    obtain ⟨old, listed, rfl⟩ := List.mem_map.mp inOld
    rw [List.map_singleton, List.mem_singleton] at inNew
    exact inNew ▸ noCrd old listed
  · exact unlike
  · intro pod id wired unaffected
    obtain ⟨groups, stored⟩ := Dict.mem_iff_exists_get?.mp (unenforced.ported pod id wired)
    refine ⟨groups, stored, ?_⟩
    have notCarried := noPort groups (Dict.mem_values_iff.mpr ⟨id, stored⟩)
    have unmatched : ¬ key.matches_ selector pod = true :=
      fun matched => unaffected (matchedListed pod id wired matched)
    exact iff_of_false notCarried unmatched
  · intro id groups stored carries
    exact absurd carries (noPort groups (Dict.mem_values_iff.mpr ⟨id, stored⟩))

/-- A later version changes the selector of the resource and enforces it. -/
theorem enforced_of_updated (newGroup : String) (configured : cluster.Configured)
    (enforced : Enforced cluster key crd world)
    (oldListed : key.Listed cluster crd.podSelector)
    (matchedListed : key.Listed cluster selector) :
    Enforced cluster key { crd with podSelector := selector }
      (handlePolicy cluster key newGroup world (.present selector)) := by
  let patch : Crd → Crd := fun other =>
    if crd.sameResource other then { other with podSelector := selector } else other
  let patched : GroupWorld := { world with crds := world.crds.map patch }
  let modified : List Pod :=
    if crd.podSelector.same selector then []
    else affectedPods cluster (key.version selector) (some crd.podSelector)
  have ensured : exec (ensureNetworkPolicy cluster (key.version selector) newGroup) world =
      (.ok modified, patched) := by
    rw [ensureNetworkPolicy, getKuryrnetpolicyCrd, bind_assoc, exec_get_bind, exec_pure_bind,
      enforced.find?]
    dsimp only
    rw [updateSecurityGroupRulesFromNetworkPolicy, bind_assoc, exec_modify_bind,
      exec_pure_bind]
    by_cases same : crd.podSelector.same selector = true
    · rw [show crd.podSelector.same (key.version selector).podSelector = true from same,
        if_pos rfl]
      simp only [modified, same, if_true]
      rfl
    · rw [Bool.not_eq_true] at same
      rw [show crd.podSelector.same (key.version selector).podSelector = false from same,
        if_neg Bool.false_ne_true]
      simp only [modified, same]
      rfl
  have members : ∀ pod ∈ modified ++ affectedPods cluster (key.version selector) none,
      pod ∈ cluster.snapshot.pods := by
    intro pod member
    rcases List.mem_append.mp member with before | now
    · simp only [modified] at before
      split at before
      · cases before
      · exact mem_of_affected before
    · exact mem_of_affected now
  have ran : handlePolicy cluster key newGroup world (.present selector) =
      { patched with
        ports := (modified ++ affectedPods cluster (key.version selector) none).foldl
          (assign (podGroups cluster.defaults patched.crds)) patched.ports } := by
    rw [handlePolicy, onPresent, exec_bind_of_ok ensured]
    exact congrArg Prod.snd (exec_updatePods configured members patched enforced.ported)
  have patchedCrd : patch crd = { crd with podSelector := selector } := by
    simp [patch, Crd.sameResource]
  have sameGroup : ∀ other, (patch other).securityGroupId = other.securityGroupId := by
    intro other
    simp only [patch]
    split <;> rfl
  have sameOwn : ∀ other, isCrdOf (key.version {}) (patch other) =
      isCrdOf (key.version {}) other := by
    intro other
    simp only [patch]
    split <;> rfl
  rw [ran]
  apply Enforced.of_assigned configured members
  · rw [← patchedCrd]
    exact List.mem_map_of_mem enforced.listed
  · exact enforced.isOwn
  · intro other listed own
    obtain ⟨old, oldListed, rfl⟩ := List.mem_map.mp listed
    rw [sameOwn] at own
    rw [enforced.single old oldListed own, patchedCrd]
  · have sameGroups : patched.crds.map (·.securityGroupId) =
        world.crds.map (·.securityGroupId) := by
      simp only [patched, List.map_map]
      exact List.map_congr_left fun other _ => sameGroup other
    rw [sameGroups]
    exact enforced.distinct
  · exact enforced.unlike
  · intro pod id wired unaffected
    rw [List.mem_append, not_or] at unaffected
    obtain ⟨unmodified, unlisted⟩ := unaffected
    obtain ⟨groups, stored, carries⟩ := enforced.carried pod id wired
    refine ⟨groups, stored, carries.trans ?_⟩
    have unmatched : ¬ key.matches_ selector pod = true :=
      fun matched => unlisted (matchedListed pod id wired matched)
    apply iff_of_false _ unmatched
    intro matched
    by_cases same : crd.podSelector.same selector = true
    · rw [matches_of_same same] at matched
      exact unmatched matched
    · simp only [modified, same] at unmodified
      exact unmodified (oldListed pod id wired matched)
  · exact enforced.noStranger

/-! ## Deletion -/

/-- Releasing the group and the resource does not touch the ports. -/
theorem ports_releaseNetworkPolicy (crd : Crd) (world : GroupWorld) :
    (exec (releaseNetworkPolicy crd) world).2.ports = world.ports := by
  rw [releaseNetworkPolicy, deleteNpSg, bind_assoc, exec_get_bind]
  split
  · rfl
  · rfl

/-- A deletion strips the group from every port exactly if the deleted version lists
every pod that the enforced selector matches. -/
theorem stripped_iff (newGroup : String) (deleted : LabelSelector)
    (configured : cluster.Configured) (enforced : Enforced cluster key crd world) :
    (∀ id groups, (handlePolicy cluster key newGroup world (.deleted deleted)).ports.get? id =
        some groups → crd.securityGroupId ∉ groups) ↔
      ∀ pod id, cluster.Wired pod id → key.matches_ crd.podSelector pod = true →
        key.lists cluster deleted pod := by
  let pods := affectedPods cluster (key.version deleted) none
  have members : ∀ pod ∈ pods, pod ∈ cluster.snapshot.pods :=
    fun pod affected => mem_of_affected affected
  let left : Pod → List String := fun pod =>
    groupsLeft cluster.defaults crd.securityGroupId
      (podGroups cluster.defaults world.crds pod)
  have looped : exec (pods.forM (stripPod cluster crd.securityGroupId)) world =
      (.ok ⟨⟩, { world with ports := pods.foldl (assign left) world.ports }) := by
    apply exec_forM_assign members enforced.ported
    intro pod member before sameCrds wired
    exact exec_stripPod configured crd.securityGroupId member before sameCrds wired
  have stripped : (handlePolicy cluster key newGroup world (.deleted deleted)).ports =
      pods.foldl (assign left) world.ports := by
    rw [handlePolicy, onDeleted, getKuryrnetpolicyCrd, bind_assoc, exec_get_bind,
      exec_pure_bind, enforced.find?]
    dsimp only
    rw [exec_bind_of_ok looped, ports_releaseNetworkPolicy]
  rw [stripped]
  constructor
  · intro clean pod id wired matched
    by_contra unlisted
    obtain ⟨groups, stored, carries⟩ := enforced.carried pod id wired
    have kept : (pods.foldl (assign left) world.ports).get? id = some groups := by
      rw [get?_foldl_assign_of_unwired members]
      · exact stored
      · intro other member otherWired
        exact unlisted (configured.ownPort pod other id wired otherWired ▸ member)
    exact clean id groups kept (carries.mpr matched)
  · intro covered id groups stored carries
    by_cases listed : ∃ pod ∈ pods, cluster.Wired pod id
    · obtain ⟨pod, member, wired⟩ := listed
      rw [get?_foldl_assign configured members member wired] at stored
      cases stored
      exact not_mem_groupsLeft enforced.distinct enforced.unlike pod carries
    · have unlisted : ∀ pod ∈ pods, ¬ cluster.Wired pod id :=
        fun pod member wired => listed ⟨pod, member, wired⟩
      rw [get?_foldl_assign_of_unwired members unlisted] at stored
      obtain ⟨pod, wired⟩ := enforced.noStranger id groups stored carries
      obtain ⟨found, storedToo, iffMatched⟩ := enforced.carried pod id wired
      cases Option.some.inj (stored.symm.trans storedToo)
      exact unlisted pod (covered pod id wired (iffMatched.mp carries)) wired

end

/-! ## Runs -/

/-- A step of `Async` hands over one event or none. -/
theorem handled_step {depth : Nat} {lane after : Handlers.Async.Lane PolicyEvent}
    {action : Handlers.Async.Action PolicyEvent}
    (taken : Handlers.Async.Lane.step depth lane action = some after) :
    after.handled = lane.handled ∨ ∃ arrival, after.handled = lane.handled ++ [arrival] := by
  cases action with
  | call event =>
      left
      simp only [Handlers.Async.Lane.step, Handlers.Async.Lane.call] at taken
      split at taken
      · cases taken
        rfl
      · obtain ⟨thread, _, same⟩ := Option.map_eq_some_iff.mp taken
        cases same
        rfl
  | put i position =>
      left
      obtain ⟨thread, _, taken⟩ := Option.bind_eq_some_iff.mp taken
      obtain ⟨later, _, taken⟩ := Option.bind_eq_some_iff.mp taken
      cases taken
      rfl
  | resume i =>
      obtain ⟨thread, _, taken⟩ := Option.bind_eq_some_iff.mp taken
      obtain ⟨later, _, taken⟩ := Option.bind_eq_some_iff.mp taken
      cases taken
      cases later.place.handled with
      | none => exact .inl (List.append_nil _)
      | some arrival => exact .inr ⟨arrival, rfl⟩
  | timeout i =>
      left
      obtain ⟨thread, _, taken⟩ := Option.bind_eq_some_iff.mp taken
      obtain ⟨later, _, taken⟩ := Option.bind_eq_some_iff.mp taken
      cases taken
      rfl

/-- Whatever version a step hands to the handler, the pods with ports that the drivers
match are listed. -/
def ListedAt (depth : Nat) (cluster : PodCluster) (key : PolicyKey) (site : PolicySite)
    (label : Handlers.Async.Action PolicyEvent × String) : Prop :=
  ∀ lane number selector, Handlers.Async.Lane.step depth site.lane label.1 = some lane →
    lane.handled = site.lane.handled ++ [⟨number, .present selector⟩] →
    key.Listed cluster selector

/-- As long as no deletion has been handled, the last version handed over is the one
that is enforced. -/
def PolicySite.UpToDate (cluster : PodCluster) (key : PolicyKey) (site : PolicySite) : Prop :=
  (∀ arrival ∈ site.lane.handled, ∃ selector, arrival.event = .present selector) →
    site.lane.handled = [] ∧ Unenforced cluster key site.world ∨
    ∃ crd number, Enforced cluster key crd site.world ∧
      key.Listed cluster crd.podSelector ∧
      site.lane.handled.getLast? = some ⟨number, .present crd.podSelector⟩

theorem upToDate_step {depth : Nat} {cluster : PodCluster} {key : PolicyKey}
    (configured : cluster.Configured) :
    PreservedBy (policyStep depth cluster key) (ListedAt depth cluster key)
      (PolicySite.UpToDate cluster key) := by
  intro site label after allowed upToDate taken
  obtain ⟨fresh, continued⟩ := Option.ite_none_right_eq_some.mp taken
  obtain ⟨lane, stepped, ended⟩ := Option.bind_eq_some_iff.mp continued
  cases ended
  rcases handled_step stepped with same | ⟨⟨number, event⟩, handed⟩
  · intro presents
    simp only [same, List.drop_length, List.map_nil, List.foldl_nil] at presents ⊢
    exact upToDate presents
  · intro presents
    have one : lane.handled.drop site.lane.handled.length = [⟨number, event⟩] := by
      rw [handed, List.drop_left]
    have last : lane.handled.getLast? = some ⟨number, event⟩ := by
      rw [handed, List.getLast?_concat]
    have before : ∀ arrival ∈ site.lane.handled, ∃ selector, arrival.event = .present selector :=
      fun arrival member => presents arrival (by
        rw [handed]
        exact List.mem_append_left _ member)
    obtain ⟨selector, isPresent⟩ : ∃ selector, event = .present selector :=
      presents ⟨number, event⟩ (by
        rw [handed]
        exact List.mem_append_right _ (List.mem_singleton_self _))
    subst event
    have listed := allowed lane number selector stepped handed
    simp only [one, List.map_singleton, List.foldl_cons, List.foldl_nil, last]
    right
    rcases upToDate before with ⟨_, unenforced⟩ | ⟨crd, _, enforced, oldListed, _⟩
    · obtain ⟨crd, same, created⟩ :=
        enforced_of_created configured unenforced fresh listed
      exact ⟨crd, number, created, same ▸ listed, by rw [same]⟩
    · exact ⟨{ crd with podSelector := selector }, number,
        enforced_of_updated label.2 configured enforced oldListed listed, listed, rfl⟩

namespace SelectorChange

def pod (name vifId : String) : Pod where
  name := name
  namespaceName := "default"
  uid := name
  labels := some (Dict.ofList [("app", name)])
  vifAnnotation := some { defaultVif := { id := vifId, network := ⟨"pods"⟩ } }

def cluster : PodCluster where
  defaults := ["default-sg"]
  snapshot := { pods := [pod "web" "web-port", pod "db" "db-port"] }

def key : PolicyKey :=
  ⟨"default", "allow"⟩

def selector (app : String) : LabelSelector where
  matchLabels := Dict.ofList [("app", app)]

def start : GroupWorld where
  ports := Dict.ofList [("web-port", ["default-sg"]), ("db-port", ["default-sg"])]

theorem portId_pod (name vifId : String) : portId (pod name vifId) = some vifId :=
  rfl

theorem wired_cases {found : Pod} {id : String} (wired : cluster.Wired found id) :
    found = pod "web" "web-port" ∧ id = "web-port" ∨
      found = pod "db" "db-port" ∧ id = "db-port" := by
  obtain ⟨member, _, own⟩ := wired
  rcases List.mem_cons.mp member with rfl | later
  · rw [portId_pod] at own
    exact .inl ⟨rfl, (Option.some.inj own).symm⟩
  · cases List.mem_singleton.mp later
    rw [portId_pod] at own
    exact .inr ⟨rfl, (Option.some.inj own).symm⟩

theorem configured : cluster.Configured where
  defaults := by decide
  ownPort := by
    intro pod other id wired otherWired
    rcases wired_cases wired with ⟨rfl, rfl⟩ | ⟨rfl, rfl⟩
    · rcases wired_cases otherWired with ⟨rfl, _⟩ | ⟨_, impossible⟩
      · rfl
      · exact absurd impossible (by decide)
    · rcases wired_cases otherWired with ⟨_, impossible⟩ | ⟨rfl, _⟩
      · exact absurd impossible (by decide)
      · rfl

theorem unenforced : Unenforced cluster key start where
  absent := by
    rintro crd ⟨⟩
  distinct := List.nodup_nil
  ported := by
    intro pod id wired
    rcases wired_cases wired with ⟨_, rfl⟩ | ⟨_, rfl⟩
    · decide
    · decide

theorem labelled (found : Pod) (id : String) (wired : cluster.Wired found id) :
    ¬(podLabels found).items.isEmpty := by
  rcases wired_cases wired with ⟨rfl, _⟩ | ⟨rfl, _⟩
  · decide
  · decide

/-- The policy is created and handled. -/
def creation : List (Handlers.Async.Action PolicyEvent × String) :=
  [(.call (.present (selector "web")), "group"), (.put 0 0, "group"), (.resume 0, "group"),
    (.resume 0, "group"), (.resume 0, "other")]

/-- The deletion arrives and comes up to the handler. -/
def deletion (app : String) : List (Handlers.Async.Action PolicyEvent × String) :=
  [(.call (.deleted (selector app)), "other"), (.put 0 0, "other"), (.resume 0, "other")]

end SelectorChange

end KuryrKubernetes.Policy

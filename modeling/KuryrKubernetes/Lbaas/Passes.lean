import KuryrKubernetes.Effect.Completes
import KuryrKubernetes.Lbaas.Handler

/-!
# The passes of the synchronization

What each pass leaves of the state of a load balancer, with a driver that answers with
the objects it is asked for.  Listeners and pools that were known once keep their ids, so
that an id stands for one object in the annotation and at Octavia.
-/

namespace KuryrKubernetes.Lbaas

open KuryrKubernetes.Data
open KuryrKubernetes.Effect

variable {Address W : Type}

/-! ## What drivers answer -/

/-- Listeners and pools. -/
inductive Resource where
  | listener (listener : Listener)
  | pool (pool : Pool)
  deriving DecidableEq

def Resource.id : Resource → Nat
  | .listener known => known.id
  | .pool known => known.id

/-- No resource that was known is forgotten. -/
def knowledge (knows : W → Resource → Prop) : Frame W where
  rel before after := ∀ resource, knows before resource → knows after resource
  refl _ _ := id
  trans first second resource known := second resource (first resource known)

variable {knows : W → Resource → Prop} {mayRaise : Prop} {supports : String → Bool}

/-- The drivers answer with what they are asked for, where they do not raise.  Listeners
are made for the protocols that are supported. -/
structure LoadBalancerHandler.Answers (handler : LoadBalancerHandler Address W)
    (mayRaise : Prop) (knows : W → Resource → Prop) (supports : String → Bool) : Prop where
  identifies : ∀ world resource other, knows world resource → knows world other →
    resource.id = other.id → resource = other
  ensureLoadbalancer : ∀ name spec ip, (knowledge knows).Completes mayRaise (fun _ => True)
    (handler.drvLbaas.ensureLoadbalancer name spec ip) fun lb _ => lb.ip = ip
  releaseLoadbalancer : ∀ lb, (knowledge knows).Completes mayRaise (fun _ => True)
    (handler.drvLbaas.releaseLoadbalancer lb) fun _ _ => True
  ensureListener : ∀ lb protocol port type, supports protocol →
    (knowledge knows).Completes mayRaise (fun _ => True)
      (handler.drvLbaas.ensureListener lb protocol port type) fun answer world =>
        ∃ listener, answer = some listener ∧ listener.protocol = protocol ∧
          listener.port = port ∧ knows world (.listener listener)
  unsupported : ∀ lb protocol port type, supports protocol = false → ∀ world,
    exec (handler.drvLbaas.ensureListener lb protocol port type) world = (.ok none, world)
  releaseListener : ∀ lb listener, (knowledge knows).Completes mayRaise (fun _ => True)
    (handler.drvLbaas.releaseListener lb listener) fun _ _ => True
  ensurePool : ∀ lb listener, (knowledge knows).Completes mayRaise (fun _ => True)
    (handler.drvLbaas.ensurePool lb listener) fun pool world =>
      pool.listenerId = listener.id ∧ knows world (.pool pool)
  releasePool : ∀ lb pool, (knowledge knows).Completes mayRaise (fun _ => True)
    (handler.drvLbaas.releasePool lb pool) fun _ _ => True
  ensureMember : ∀ lb request, (knowledge knows).Completes mayRaise (fun _ => True)
    (handler.drvLbaas.ensureMember lb request) fun member _ =>
      member.poolId = request.pool.id ∧ member.ip = handler.format.read request.ip ∧
        member.port = request.port ∧ member.name.podName = request.targetRefName
  releaseMember : ∀ lb member, (knowledge knows).Completes mayRaise (fun _ => True)
    (handler.drvLbaas.releaseMember lb member) fun _ _ => True
  disassociatePubIp : ∀ info, (knowledge knows).Completes mayRaise (fun _ => True)
    (handler.drvServicePubIp.disassociatePubIp info) fun _ _ => True
  releasePubIp : ∀ info, (knowledge knows).Completes mayRaise (fun _ => True)
    (handler.drvServicePubIp.releasePubIp info) fun _ _ => True
  securityGroups : ∀ exception, handler.securityGroups = .error exception →
    exception = .k8sResourceNotFound ∨ mayRaise
  podSubnet : ∀ podSubnet, handler.memberMode = .l2 podSubnet → ∀ target exception,
    podSubnet target = .error exception → exception = .k8sResourceNotFound ∨ mayRaise

/-! ## States -/

namespace LbaasState

/-- Pools are for listeners of the state and members in pools of the state; members are
told apart by their ids. -/
structure Consistent (state : LbaasState Address) : Prop where
  pools : ∀ pool ∈ state.pools, ∃ listener ∈ state.listeners, listener.id = pool.listenerId
  members : ∀ member ∈ state.members, ∃ pool ∈ state.pools, pool.id = member.poolId
  memberIds : ∀ member ∈ state.members, ∀ other ∈ state.members,
    member.id = other.id → member = other

/-- The listeners and pools of the state are known. -/
structure Known (knows : W → Resource → Prop) (state : LbaasState Address) (world : W) :
    Prop where
  listeners : ∀ listener ∈ state.listeners, knows world (.listener listener)
  pools : ∀ pool ∈ state.pools, knows world (.pool pool)

theorem Known.mono {state : LbaasState Address} {before after : W}
    (known : state.Known knows before) (kept : (knowledge knows).rel before after) :
    state.Known knows after where
  listeners listener member := kept _ (known.listeners listener member)
  pools pool member := kept _ (known.pools pool member)

/-- The load balancer has another address than the service. -/
def Replaced [DecidableEq Address] (state : LbaasState Address) (spec : ServiceSpec Address) :
    Prop :=
  ∃ lb ∈ state.loadbalancer, some lb.ip ≠ spec.ip

/-- The pools that are in the specification. -/
def poolsInSpec (state : LbaasState Address) (spec : ServiceSpec Address) : List Pool :=
  state.pools.filter (state.isPoolInSpec spec)

/-- The listeners of these pools. -/
def listenersInSpec (state : LbaasState Address) (spec : ServiceSpec Address) :
    List Listener :=
  state.listeners.filter fun listener =>
    ((state.poolsInSpec spec).map (·.listenerId)).contains listener.id

end LbaasState

/-! ## Targets of the removal pass -/

/-- Every subset has addresses, and ports with them. -/
def Endpoints.Complete (endpoints : Endpoints Address) : Prop :=
  ∀ subset ∈ endpoints.subsets.getD [], ∃ addresses, subset.addresses = some addresses ∧
    (addresses = [] ∨ subset.ports.isSome)

/-- An address with a port whose name stands for a pool. -/
def Endpoints.Targets (endpoints : Endpoints Address) (specPorts : Dict (Option String) Nat)
    (target : Target) : Prop :=
  ∃ subset ∈ endpoints.subsets.getD [], ∃ address ∈ subset.addresses.getD [],
    ∃ port ∈ subset.ports.getD [], specPorts.get? port.name = some target.poolId ∧
      address.ip = target.ip ∧ address.targetName = target.podName ∧ port.port = target.port

theorem Subset.mem_currentTargets {subset : Subset} {specPorts : Dict (Option String) Nat}
    {targets : List Target} (ran : subset.currentTargets specPorts = .ok targets)
    (target : Target) :
    target ∈ targets ↔ ∃ address ∈ subset.addresses.getD [], ∃ port ∈ subset.ports.getD [],
      specPorts.get? port.name = some target.poolId ∧ address.ip = target.ip ∧
        address.targetName = target.podName ∧ port.port = target.port := by
  rcases subset with ⟨addresses, ports⟩
  unfold Subset.currentTargets at ran
  split at ran
  · cases ran
  · rename_i empty
    cases ran
    simp only at empty
    simp [empty]
  · cases ran
  · rename_i present given
    cases ran
    simp only at present given
    rw [present, given]
    rcases target with ⟨ip, podName, number, poolId⟩
    simp only [List.mem_flatMap, List.mem_filterMap, Option.map_eq_some_iff, Target.mk.injEq,
      Option.getD_some]
    constructor
    · rintro ⟨address, listed, port, member, found, known, sameIp, sameName, samePort, rfl⟩
      exact ⟨address, listed, port, member, known, sameIp, sameName, samePort⟩
    · rintro ⟨address, listed, port, member, known, sameIp, sameName, samePort⟩
      exact ⟨address, listed, port, member, poolId, known, sameIp, sameName, samePort, rfl⟩

theorem currentTargets_cons (specPorts : Dict (Option String) Nat) (subset : Subset)
    (rest : List Subset) :
    currentTargets specPorts (subset :: rest) = do
      let targets ← subset.currentTargets specPorts
      let others ← currentTargets specPorts rest
      return targets ++ others :=
  rfl

theorem mem_currentTargets {specPorts : Dict (Option String) Nat} {subsets : List Subset}
    {targets : List Target} (ran : currentTargets specPorts subsets = .ok targets)
    (target : Target) :
    target ∈ targets ↔ ∃ subset ∈ subsets, ∃ address ∈ subset.addresses.getD [],
      ∃ port ∈ subset.ports.getD [], specPorts.get? port.name = some target.poolId ∧
        address.ip = target.ip ∧ address.targetName = target.podName ∧
        port.port = target.port := by
  induction subsets generalizing targets with
  | nil =>
      cases ran
      simp
  | cons subset rest ih =>
      rw [currentTargets_cons] at ran
      cases first : subset.currentTargets specPorts with
      | error exception =>
          rw [first] at ran
          cases ran
      | ok own =>
          cases second : currentTargets specPorts rest with
          | error exception =>
              rw [first, second] at ran
              cases ran
          | ok others =>
              rw [first, second] at ran
              cases ran
              rw [List.mem_append, Subset.mem_currentTargets first, ih second]
              simp

/-- The targets are collected exactly for complete endpoints. -/
theorem currentTargets_isOk_iff (specPorts : Dict (Option String) Nat) (subsets : List Subset) :
    (∃ targets, currentTargets specPorts subsets = .ok targets) ↔
      ∀ subset ∈ subsets, ∃ addresses, subset.addresses = some addresses ∧
        (addresses = [] ∨ subset.ports.isSome) := by
  have one (subset : Subset) : (∃ targets, subset.currentTargets specPorts = .ok targets) ↔
      ∃ addresses, subset.addresses = some addresses ∧
        (addresses = [] ∨ subset.ports.isSome) := by
    rcases subset with ⟨addresses, ports⟩
    unfold Subset.currentTargets
    rcases addresses with _ | _ | ⟨address, rest⟩ <;> cases ports <;> simp
  induction subsets with
  | nil =>
      constructor
      · rintro _ subset ⟨⟩
      · intro _
        exact ⟨[], rfl⟩
  | cons subset rest ih =>
      rw [List.forall_mem_cons]
      apply Iff.trans _ (and_congr (one subset) ih)
      rw [currentTargets_cons]
      cases first : subset.currentTargets specPorts with
      | error exception =>
          constructor
          · rintro ⟨_, impossible⟩
            cases impossible
          · rintro ⟨⟨_, impossible⟩, _⟩
            cases impossible
      | ok own =>
          cases second : currentTargets specPorts rest with
          | error exception =>
              constructor
              · rintro ⟨_, impossible⟩
                cases impossible
              · rintro ⟨_, _, impossible⟩
                cases impossible
          | ok others =>
              constructor
              · intro _
                exact ⟨⟨own, rfl⟩, others, rfl⟩
              · intro _
                exact ⟨own ++ others, rfl⟩

/-! ## Removal -/

/-- Members, pools or listeners that go by their ids are those that do not have the
property, where ids tell them apart. -/
theorem filter_removed {α : Type} {ident : α → Nat} {keep : α → Bool} {items : List α}
    (identifies : ∀ item ∈ items, ∀ other ∈ items, ident item = ident other → item = other) :
    (items.filter fun item =>
        !((items.filter fun item => !keep item).map ident).contains (ident item)) =
      items.filter keep := by
  apply List.filter_congr
  intro item listed
  cases kept : keep item with
  | true =>
      rw [Bool.not_eq_true', List.contains_eq_mem, decide_eq_false_iff_not, List.mem_map]
      rintro ⟨other, removed, same⟩
      obtain ⟨otherListed, dropped⟩ := List.mem_filter.mp removed
      rw [identifies other otherListed item listed same, kept] at dropped
      cases dropped
  | false =>
      rw [Bool.not_eq_false', List.contains_eq_mem, decide_eq_true_eq, List.mem_map]
      exact ⟨item, List.mem_filter.mpr ⟨listed, by rw [kept]; rfl⟩, rfl⟩

section

variable {handler : LoadBalancerHandler Address W}
  (answers : handler.Answers mayRaise knows supports)
include answers

theorem removeUnusedMembers_completes {endpoints : Endpoints Address}
    {state : LbaasState Address} (spec : ServiceSpec Address)
    (present : endpoints.subsets ≠ none) (complete : endpoints.Complete ∨ mayRaise)
    (identifies : ∀ member ∈ state.members, ∀ other ∈ state.members,
      member.id = other.id → member = other) :
    (knowledge knows).Completes mayRaise (fun _ => True)
      (handler.removeUnusedMembers endpoints state spec) fun result _ =>
        ∃ members, result.1 = { state with members } ∧ ∀ member, member ∈ members ↔
          member ∈ state.members ∧
            endpoints.Targets (state.specPorts spec) (member.target handler.format) := by
  unfold LoadBalancerHandler.removeUnusedMembers
  cases given : endpoints.subsets with
  | none => exact absurd given present
  | some subsets =>
      apply Frame.Completes.settle_bind
      · intro exception raised
        apply complete.resolve_left
        intro all
        unfold Endpoints.Complete at all
        rw [given] at all
        obtain ⟨targets, ran⟩ := (currentTargets_isOk_iff (state.specPorts spec) subsets).mpr all
        rw [ran] at raised
        cases raised
      · intro targets ran
        apply (Frame.Completes.forM fun member _ =>
          answers.releaseMember state.loadbalancer member).bind
        intro _
        apply Frame.completes_pure
        intro _ _
        refine ⟨_, rfl, ?_⟩
        intro member
        rw [filter_removed identifies, List.mem_filter, List.contains_eq_mem,
          decide_eq_true_eq, mem_currentTargets ran]
        unfold Endpoints.Targets
        rw [given]
        rfl

theorem removeUnusedPools_completes {state : LbaasState Address} (spec : ServiceSpec Address)
    (identifies : ∀ pool ∈ state.pools, ∀ other ∈ state.pools,
      pool.id = other.id → pool = other) :
    (knowledge knows).Completes mayRaise (fun _ => True)
      (handler.removeUnusedPools state spec) fun result _ =>
        ∃ members, result.1 = { state with pools := state.poolsInSpec spec, members } ∧
          ∀ member, member ∈ members ↔ member ∈ state.members ∧
            ∀ pool ∈ state.pools, pool.id = member.poolId → state.isPoolInSpec spec pool := by
  unfold LoadBalancerHandler.removeUnusedPools
  apply (Frame.Completes.forM fun pool _ => answers.releasePool state.loadbalancer pool).bind
  intro _
  apply Frame.completes_pure
  intro _ _
  dsimp only
  rw [filter_removed identifies]
  refine ⟨_, rfl, ?_⟩
  intro member
  rw [List.mem_filter, Bool.not_eq_true', List.contains_eq_mem, decide_eq_false_iff_not]
  apply and_congr_right
  intro _
  constructor
  · intro unlisted pool listed same
    by_contra dropped
    apply unlisted
    rw [List.mem_map]
    exact ⟨pool, List.mem_filter.mpr ⟨listed, by simpa using dropped⟩, same⟩
  · intro all listed
    obtain ⟨pool, removed, same⟩ := List.mem_map.mp listed
    obtain ⟨poolListed, dropped⟩ := List.mem_filter.mp removed
    rw [all pool poolListed same] at dropped
    cases dropped

theorem removeUnusedListeners_completes {state : LbaasState Address}
    (identifies : ∀ listener ∈ state.listeners, ∀ other ∈ state.listeners,
      listener.id = other.id → listener = other) :
    (knowledge knows).Completes mayRaise (fun _ => True)
      (handler.removeUnusedListeners state) fun result _ =>
        result.1 = { state with
          listeners := state.listeners.filter fun listener =>
            (state.pools.map (·.listenerId)).contains listener.id } := by
  unfold LoadBalancerHandler.removeUnusedListeners
  apply (Frame.Completes.forM fun listener _ =>
    answers.releaseListener state.loadbalancer listener).bind
  intro _
  apply Frame.completes_pure
  intro _ _
  dsimp only
  rw [filter_removed identifies]

/-! ## The load balancer -/

/-- The load balancer of the state has the address of the service, if this has one.  There
is no public address without a load balancer. -/
def LbaasState.Addressed (state : LbaasState Address) (spec : ServiceSpec Address) : Prop :=
  (∃ lb, state.loadbalancer = some lb ∧ some lb.ip = spec.ip) ∨
    state.loadbalancer = none ∧ spec.ip = none ∧ state.servicePubIpInfo = none

theorem releaseReplaced_completes [DecidableEq Address] (state : LbaasState Address)
    (spec : ServiceSpec Address) :
    (knowledge knows).Completes mayRaise (fun _ => True)
      (handler.releaseReplaced state spec) fun result _ =>
        (¬state.Replaced spec → result.1 = state ∧
          ∀ lb ∈ result.1.loadbalancer, some lb.ip = spec.ip) ∧
        (state.Replaced spec → result.1 = { state with
          loadbalancer := none, pools := [], listeners := [], members := [] }) := by
  unfold LoadBalancerHandler.releaseReplaced
  cases given : state.loadbalancer with
  | none =>
      apply Frame.completes_pure
      intro _ _
      constructor
      · intro _
        simp [given]
      · rintro ⟨lb, found, _⟩
        rw [given] at found
        cases found
  | some lb =>
      dsimp only
      split
      · rename_i same
        apply Frame.completes_pure
        intro _ _
        constructor
        · intro _
          simpa [given] using same
        · rintro ⟨other, found, different⟩
          rw [given] at found
          cases found
          exact absurd same different
      · rename_i different
        have disassociated : (knowledge knows).Completes mayRaise (fun _ => True)
            (handler.disassociate state) fun _ _ => True := by
          unfold LoadBalancerHandler.disassociate
          split
          · exact answers.disassociatePubIp _
          · exact Frame.completes_pure fun _ _ => trivial
        apply disassociated.bind
        intro _
        apply (answers.releaseLoadbalancer lb).bind
        intro _
        apply Frame.completes_pure
        intro _ _
        constructor
        · intro kept
          exact absurd ⟨lb, given, different⟩ kept
        · intro _
          rfl

theorem ensureLoadbalancer_completes (endpoints : Endpoints Address)
    (state : LbaasState Address) (spec : ServiceSpec Address) (changed : Bool)
    (current : ∀ lb ∈ state.loadbalancer, some lb.ip = spec.ip) :
    (knowledge knows).Completes mayRaise (fun _ => True)
      (handler.ensureLoadbalancer endpoints state spec changed) fun result _ =>
        result.1.Addressed spec ∧ ∃ loadbalancer servicePubIpInfo,
          result.1 = { state with loadbalancer, servicePubIpInfo } := by
  unfold LoadBalancerHandler.ensureLoadbalancer
  split
  · rename_i lb given
    apply Frame.completes_pure
    intro _ _
    exact ⟨.inl ⟨lb, given, current lb given⟩, _, _, rfl⟩
  · rename_i ip _ wanted
    apply (answers.ensureLoadbalancer endpoints.serviceName spec ip).bind
    intro lb
    apply Frame.completes_pure
    intro _ same
    exact ⟨.inl ⟨lb, rfl, by rw [same, wanted]⟩, _, _, rfl⟩
  · rename_i info gone unaddressed _
    apply (answers.releasePubIp info).bind
    intro _
    apply Frame.completes_pure
    intro _ _
    exact ⟨.inr ⟨gone, unaddressed, rfl⟩, _, _, rfl⟩
  · rename_i gone unaddressed private_
    apply Frame.completes_pure
    intro _ _
    exact ⟨.inr ⟨gone, unaddressed, private_⟩, _, _, rfl⟩

/-- After the pass the load balancer has the address of the service.  Where it was
replaced, what it had is gone. -/
theorem syncLbaasLoadbalancer_completes [DecidableEq Address] (endpoints : Endpoints Address)
    (state : LbaasState Address) (spec : ServiceSpec Address) :
    (knowledge knows).Completes mayRaise (fun _ => True)
      (handler.syncLbaasLoadbalancer endpoints state spec) fun result _ =>
        result.1.Addressed spec ∧ ∃ loadbalancer servicePubIpInfo,
          (¬state.Replaced spec → result.1 = { state with loadbalancer, servicePubIpInfo }) ∧
          (state.Replaced spec → result.1 = { state with
            loadbalancer, servicePubIpInfo, pools := [], listeners := [], members := [] }) := by
  unfold LoadBalancerHandler.syncLbaasLoadbalancer
  apply (releaseReplaced_completes answers state spec).bind
  intro released before reached
  have current : ∀ lb ∈ released.1.loadbalancer, some lb.ip = spec.ip := by
    by_cases replaced : state.Replaced spec
    · rw [reached.2 replaced]
      rintro lb ⟨⟩
    · exact (reached.1 replaced).2
  apply (ensureLoadbalancer_completes answers endpoints released.1 spec released.2 current).mono
    _ before trivial
  rintro result world ⟨addressed, loadbalancer, servicePubIpInfo, same⟩
  refine ⟨addressed, loadbalancer, servicePubIpInfo, ?_, ?_⟩
  · intro kept
    rw [same, (reached.1 kept).1]
  · intro replaced
    rw [same, reached.2 replaced]

end

end KuryrKubernetes.Lbaas

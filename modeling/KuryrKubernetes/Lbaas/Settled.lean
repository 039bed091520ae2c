import KuryrKubernetes.Lbaas.Synced

/-!
# When a synchronization settles the load balancer

The synchronization settles the load balancer of a service if it returns with one
listener for each port that the driver accepts, one pool for each listener, and the pods
behind the ports as members.  It does so for complete endpoints, if the pools and members
that it keeps are those of a settled load balancer.
-/

namespace KuryrKubernetes.Lbaas

open KuryrKubernetes.Data
open KuryrKubernetes.Effect

variable {Address W : Type}

section

variable {knows : W → Resource → Prop} {supports : String → Bool}

/-- The pool is the one of a port name. -/
def LbaasState.Names (state : LbaasState Address) (spec : ServiceSpec Address)
    (name : Option String) (pool : Pool) : Prop :=
  ∃ port ∈ spec.ports, port.name = name ∧ ∃ listener ∈ state.listeners,
    listener.id = pool.listenerId ∧ listener.isFor port

/-- The state that a synchronization is meant to leave. -/
structure Settled (handler : LoadBalancerHandler Address W) (supports : String → Bool)
    (endpoints : Endpoints Address) (spec : ServiceSpec Address) (state : LbaasState Address) :
    Prop where
  offered : ∀ port ∈ spec.ports, supports port.protocol →
    Offered handler.drvLbaas.doubleListenersSupported state.listeners port
  inSpec : ∀ listener ∈ state.listeners, ∃ port ∈ spec.ports, listener.isFor port
  oneListener : (state.listeners.map Listener.key).Nodup
  onePool : (state.pools.map (·.listenerId)).Nodup
  attached : ∀ id, id ∈ state.pools.map (·.listenerId) ↔ id ∈ state.listeners.map (·.id)
  members : ∀ pool ∈ state.pools, ∀ ip port,
    (∃ member ∈ state.members, member.poolId = pool.id ∧ member.ip = ip ∧ member.port = port) ↔
      ∃ target ∈ endpoints.podTargets, handler.format.read target.ip = ip ∧
        target.port.port = port ∧ state.Names spec target.port.name pool
  inPools : ∀ member ∈ state.members, ∃ pool ∈ state.pools, pool.id = member.poolId

/-- The inputs for which the synchronization settles the load balancer.  The parts about
the old state matter unless the load balancer is replaced. -/
structure Fits [DecidableEq Address] (handler : LoadBalancerHandler Address W)
    (endpoints : Endpoints Address) (state : LbaasState Address) (spec : ServiceSpec Address) :
    Prop where
  /-- No subset lacks its addresses, or its ports next to addresses. -/
  complete : endpoints.Complete
  /-- The service has an address. -/
  reachable : spec.ip ≠ none ∨
    spec.ports = [] ∧ handler.securityGroups = .error .k8sResourceNotFound
  /-- Two listeners with pools in the specification are for two ports. -/
  oneListener : ¬state.Replaced spec → ((state.listenersInSpec spec).map Listener.key).Nodup
  /-- Two pools in the specification have two listeners. -/
  onePool : ¬state.Replaced spec → ((state.poolsInSpec spec).map (·.listenerId)).Nodup
  /-- A member that goes by the name of the target of some address is at the address of a
  pod. -/
  pods : ¬state.Replaced spec → ∀ member ∈ state.members,
    endpoints.Targets (state.specPorts spec) (member.target handler.format) →
    ∃ target ∈ endpoints.podTargets, handler.format.read target.ip = member.ip ∧
      target.port.port = member.port ∧ ∃ pool ∈ state.pools, pool.id = member.poolId ∧
        state.Names spec target.port.name pool

/-! ## Pools of port names -/

/-- The pool under the name of a port. -/
theorem names_of_get?_poolByTgtName {state : LbaasState Address} {spec : ServiceSpec Address}
    {pools : Dict (String × Nat) Pool} (built : state.poolByLsnrPort = .ok pools)
    {name : Option String} {pool : Pool}
    (found : (poolByTgtName pools spec.ports).get? name = some pool) :
    pool ∈ state.pools ∧ state.Names spec name pool := by
  obtain ⟨port, listed, gives⟩ := Dict.exists_of_get?_collect found
  obtain ⟨other, byPort, same⟩ := Option.map_eq_some_iff.mp gives
  simp only [Prod.mk.injEq] at same
  obtain ⟨rfl, rfl⟩ := same
  unfold LbaasState.poolByLsnrPort at built
  split at built
  · cases built
    obtain ⟨known, member, entry⟩ := Dict.exists_of_get?_collect byPort
    obtain ⟨listener, byId, pair⟩ := Option.map_eq_some_iff.mp entry
    simp only [Prod.mk.injEq] at pair
    obtain ⟨⟨sameProtocol, samePort⟩, rfl⟩ := pair
    obtain ⟨listenerListed, isListener⟩ := LbaasState.mem_of_get?_lsnrById byId
    refine ⟨member, port, listed, rfl, listener, listenerListed, isListener, ?_⟩
    exact Listener.isFor_iff.mpr (Prod.ext sameProtocol samePort)
  · cases built

/-- Where listeners and pools are unique, the pool of a port name is found under it. -/
theorem get?_poolByTgtName_of_names {state : LbaasState Address} {spec : ServiceSpec Address}
    {pools : Dict (String × Nat) Pool} (built : state.poolByLsnrPort = .ok pools)
    (identified : state.Identified) (names : (spec.ports.map (·.name)).Nodup)
    (oneListener : (state.listeners.map Listener.key).Nodup)
    (onePool : (state.pools.map (·.listenerId)).Nodup) {name : Option String} {pool : Pool}
    (listed : pool ∈ state.pools) (named : state.Names spec name pool) :
    (poolByTgtName pools spec.ports).get? name = some pool := by
  obtain ⟨port, inSpec, rfl, listener, listenerListed, isListener, isFor⟩ := named
  have key : listener.key = port.key := Listener.isFor_iff.mp isFor
  have byPort : pools.get? port.key = some pool := by
    unfold LbaasState.poolByLsnrPort at built
    split at built
    · cases built
      apply Dict.get?_collect_of_agree listed
      · rw [← isListener, LbaasState.get?_lsnrById identified listenerListed, ← key]
        rfl
      · intro other otherListed last gives
        obtain ⟨otherListener, byId, pair⟩ := Option.map_eq_some_iff.mp gives
        obtain ⟨sameKey, rfl⟩ := Prod.mk.inj pair
        obtain ⟨member, isOther⟩ := LbaasState.mem_of_get?_lsnrById byId
        have sameListener : otherListener = listener :=
          List.inj_on_of_nodup_map oneListener member listenerListed (sameKey.trans key.symm)
        apply List.inj_on_of_nodup_map onePool otherListed listed
        rw [← isOther, ← isListener, sameListener]
    · cases built
  apply Dict.get?_collect_of_agree inSpec
  · change Option.map _ (pools.get? port.key) = _
    rw [byPort]
    rfl
  · intro other otherInSpec last gives
    obtain ⟨otherPool, byOther, pair⟩ := Option.map_eq_some_iff.mp gives
    obtain ⟨sameName, rfl⟩ := Prod.mk.inj pair
    have same : other = port := List.inj_on_of_nodup_map names otherInSpec inSpec sameName
    rw [same] at byOther
    exact Option.some.inj (byOther.symm.trans byPort)

/-! ## Two states -/

/-- An id stands for one listener and one pool in both states. -/
structure LbaasState.Agrees (state after : LbaasState Address) : Prop where
  listeners : ∀ listener ∈ state.listeners, ∀ other ∈ after.listeners,
    listener.id = other.id → listener = other
  pools : ∀ pool ∈ state.pools, ∀ other ∈ after.pools, pool.id = other.id → pool = other

/-- A pool of both states has its port names in both. -/
theorem LbaasState.Agrees.names_iff {state after : LbaasState Address}
    {spec : ServiceSpec Address} (agrees : state.Agrees after) {pool : Pool}
    (before : ∃ listener ∈ state.listeners, listener.id = pool.listenerId)
    (still : ∃ listener ∈ after.listeners, listener.id = pool.listenerId)
    (name : Option String) : state.Names spec name pool ↔ after.Names spec name pool := by
  obtain ⟨listener, listed, isListener⟩ := before
  obtain ⟨other, otherListed, isOther⟩ := still
  have same := agrees.listeners listener listed other otherListed (isListener.trans isOther.symm)
  constructor
  · rintro ⟨port, inSpec, named, found, foundListed, isFound, isFor⟩
    have equal := agrees.listeners found foundListed other otherListed
      (isFound.trans isOther.symm)
    exact ⟨port, inSpec, named, other, otherListed, isOther, equal ▸ isFor⟩
  · rintro ⟨port, inSpec, named, found, foundListed, isFound, isFor⟩
    have equal := agrees.listeners listener listed found foundListed
      (isListener.trans isFound.symm)
    exact ⟨port, inSpec, named, listener, listed, isListener, equal ▸ isFor⟩

theorem exists_listener_of_attached {after : LbaasState Address} {pool : Pool}
    (attached : ∀ id, id ∈ after.pools.map (·.listenerId) ↔ id ∈ after.listeners.map (·.id))
    (listed : pool ∈ after.pools) : ∃ listener ∈ after.listeners, listener.id = pool.listenerId :=
  List.mem_map.mp ((attached pool.listenerId).mp (List.mem_map_of_mem listed))

/-! ## Listeners and pools after the synchronization -/

section

variable [DecidableEq Address] {handler : LoadBalancerHandler Address W}
  {endpoints : Endpoints Address} {state after : LbaasState Address} {spec : ServiceSpec Address}

theorem mem_keptPools {pool : Pool} : pool ∈ state.keptPools spec ↔
    ¬state.Replaced spec ∧ pool ∈ state.pools ∧ state.isPoolInSpec spec pool := by
  unfold LbaasState.keptPools LbaasState.poolsInSpec
  split
  · rename_i replaced
    simp [replaced]
  · rename_i stays
    rw [List.mem_filter]
    simp [stays]

theorem mem_keptListeners {listener : Listener} : listener ∈ state.keptListeners spec ↔
    listener ∈ state.listeners ∧ ∃ pool ∈ state.keptPools spec, pool.listenerId = listener.id := by
  unfold LbaasState.keptListeners LbaasState.keptPools LbaasState.listenersInSpec
  split
  · simp
  · rw [List.mem_filter, List.contains_eq_mem, decide_eq_true_eq, List.mem_map]

/-- A listener that stays is for a port of the specification. -/
theorem isFor_of_mem_keptListeners (identified : state.Identified) {listener : Listener}
    (kept : listener ∈ state.keptListeners spec) : ∃ port ∈ spec.ports, listener.isFor port := by
  obtain ⟨listed, pool, keptPool, isListener⟩ := mem_keptListeners.mp kept
  obtain ⟨_, _, inSpec⟩ := mem_keptPools.mp keptPool
  obtain ⟨other, otherListed, same, port, portInSpec, isFor⟩ :=
    LbaasState.isPoolInSpec_iff.mp inSpec
  have equal : other = listener :=
    identified.listeners other otherListed listener listed (same.trans isListener)
  exact ⟨port, portInSpec, equal ▸ isFor⟩

namespace Reconciled

variable (synced : Reconciled handler supports state spec after)
include synced

theorem inSpec (identified : state.Identified) {listener : Listener}
    (listed : listener ∈ after.listeners) : ∃ port ∈ spec.ports, listener.isFor port := by
  obtain ⟨added, same, adds⟩ := synced.listeners
  rw [same] at listed
  rcases List.mem_append.mp listed with kept | new
  · exact isFor_of_mem_keptListeners identified kept
  · exact (adds.wanted listener new).2

theorem oneListener_iff : (after.listeners.map Listener.key).Nodup ↔
    ((state.keptListeners spec).map Listener.key).Nodup := by
  obtain ⟨added, same, adds⟩ := synced.listeners
  rw [same, List.map_append, List.nodup_append']
  constructor
  · intro all
    exact all.1
  · intro kept
    refine ⟨kept, adds.distinct, ?_⟩
    intro key old new
    obtain ⟨listener, member, rfl⟩ := List.mem_map.mp old
    obtain ⟨other, added_, sameKey⟩ := List.mem_map.mp new
    exact adds.fresh other added_ listener member sameKey.symm

/-- Exactly the listeners have pools. -/
theorem attached (consistent : state.Consistent) (id : Nat) :
    id ∈ after.pools.map (·.listenerId) ↔ id ∈ after.listeners.map (·.id) := by
  constructor
  · intro listed
    obtain ⟨pool, member, rfl⟩ := List.mem_map.mp listed
    obtain ⟨listener, present, isListener⟩ := synced.linked consistent.pools pool member
    exact List.mem_map.mpr ⟨listener, present, isListener⟩
  · intro listed
    obtain ⟨listener, member, rfl⟩ := List.mem_map.mp listed
    obtain ⟨added, same, adds⟩ := synced.pools
    rw [same, List.map_append, List.mem_append, adds]
    by_cases old : listener.id ∈ (state.keptPools spec).map (·.listenerId)
    · exact .inl old
    · right
      apply List.mem_map.mpr ⟨listener, List.mem_filter.mpr ⟨member, _⟩, rfl⟩
      simpa using old

theorem onePool_iff (identified : after.Identified)
    (oneListener : (after.listeners.map Listener.key).Nodup) :
    (after.pools.map (·.listenerId)).Nodup ↔
      ((state.keptPools spec).map (·.listenerId)).Nodup := by
  obtain ⟨added, same, adds⟩ := synced.pools
  rw [same, List.map_append, List.nodup_append', adds]
  constructor
  · intro all
    exact all.1
  · intro kept
    refine ⟨kept, ?_, ?_⟩
    · apply List.Nodup.map_on
      · intro listener listed other otherListed sameId
        exact identified.listeners listener (List.mem_of_mem_filter listed) other
          (List.mem_of_mem_filter otherListed) sameId
      · exact oneListener.of_map.filter _
    · intro id old new
      obtain ⟨listener, member, rfl⟩ := List.mem_map.mp new
      have fresh := (List.mem_filter.mp member).2
      rw [Bool.not_eq_true', List.contains_eq_mem, decide_eq_false_iff_not] at fresh
      exact fresh old

end Reconciled

/-- Members stay only in pools that stay. -/
theorem Synced.inPools (synced : Synced handler supports endpoints state spec after) :
    ∀ member ∈ after.members, ∃ pool ∈ after.pools, pool.id = member.poolId := by
  obtain ⟨kept, added, pools, sameMembers, keeps, built, adds⟩ := synced.members
  obtain ⟨_, samePools, _⟩ := synced.pools
  intro member listed
  rw [sameMembers] at listed
  rcases List.mem_append.mp listed with old | new
  · obtain ⟨stays, _, subset, _, address, _, port, _, noted, _⟩ := (keeps member).mp old
    obtain ⟨pool, inState, sameId, spec_, inSpec, _, listener, listenerListed, isListener,
      isFor⟩ := LbaasState.of_get?_specPorts noted
    refine ⟨pool, ?_, sameId⟩
    rw [samePools]
    exact List.mem_append_left _ (mem_keptPools.mpr ⟨stays, inState,
      LbaasState.isPoolInSpec_iff.mpr ⟨listener, listenerListed, isListener, spec_, inSpec,
        isFor⟩⟩)
  · obtain ⟨_, _, pool, found, inPool, _⟩ := adds.wanted member new
    obtain ⟨inState, _⟩ := names_of_get?_poolByTgtName built found
    exact ⟨pool, inState, inPool.symm⟩

/-- The members that are there are the pods behind the ports. -/
theorem Synced.members_iff (synced : Synced handler supports endpoints state spec after)
    (consistent : state.Consistent) (identified : after.Identified) (agrees : state.Agrees after)
    (names : (spec.ports.map (·.name)).Nodup)
    (subnets : ∀ target ∈ endpoints.podTargets, ¬handler.Skips target)
    (fits : Fits handler endpoints state spec)
    (oneListener : (after.listeners.map Listener.key).Nodup)
    (onePool : (after.pools.map (·.listenerId)).Nodup) {pool : Pool} (inAfter : pool ∈ after.pools)
    (ip : Address) (port : Nat) :
    (∃ member ∈ after.members, member.poolId = pool.id ∧ member.ip = ip ∧ member.port = port) ↔
      ∃ target ∈ endpoints.podTargets, handler.format.read target.ip = ip ∧
        target.port.port = port ∧ after.Names spec target.port.name pool := by
  obtain ⟨kept, added, pools, sameMembers, keeps, built, adds⟩ := synced.members
  rw [sameMembers]
  constructor
  · rintro ⟨member, listed, inPool, rfl, rfl⟩
    rcases List.mem_append.mp listed with old | new
    · obtain ⟨stays, inState, targets⟩ := (keeps member).mp old
      obtain ⟨target, among, sameIp, samePort, other, otherListed, sameId, named⟩ :=
        fits.pods stays member inState targets
      have equal : other = pool :=
        agrees.pools other otherListed pool inAfter (sameId.trans inPool)
      subst equal
      refine ⟨target, among, sameIp, samePort, ?_⟩
      exact (agrees.names_iff (consistent.pools other otherListed)
        (exists_listener_of_attached (synced.attached consistent) inAfter) _).mp named
    · obtain ⟨target, among, other, found, inOther, sameIp, samePort, _⟩ := adds.wanted member new
      obtain ⟨otherListed, named⟩ := names_of_get?_poolByTgtName built found
      have equal : other = pool :=
        identified.pools other otherListed pool inAfter (inOther.symm.trans inPool)
      subst equal
      exact ⟨target, among, sameIp.symm, samePort.symm, named⟩
  · rintro ⟨target, among, rfl, rfl, named⟩
    have found := get?_poolByTgtName_of_names built identified names oneListener onePool inAfter
      named
    rcases adds.served target among pool found with skipped | there | ⟨member, new, served⟩
    · exact absurd skipped (subnets target among)
    · obtain ⟨member, old, same⟩ := List.mem_map.mp there
      obtain ⟨sameIp, samePort, inPool⟩ : handler.format.str member.ip = target.ip ∧
          member.port = target.port.port ∧ member.poolId = pool.id := by
        simpa using same
      refine ⟨member, List.mem_append_left _ old, inPool, ?_, samePort⟩
      rw [← sameIp, handler.format.read_str]
    · obtain ⟨inPool, sameIp, samePort, _⟩ := served
      exact ⟨member, List.mem_append_right _ new, inPool, sameIp, samePort⟩

theorem Synced.settled_iff (synced : Synced handler supports endpoints state spec after)
    (consistent : state.Consistent) (identified : state.Identified)
    (identifiedAfter : after.Identified) (agrees : state.Agrees after)
    (names : (spec.ports.map (·.name)).Nodup)
    (subnets : ∀ target ∈ endpoints.podTargets, ¬handler.Skips target)
    (complete : endpoints.Complete) :
    Settled handler supports endpoints spec after ↔ Fits handler endpoints state spec := by
  have attached := synced.attached consistent
  constructor
  · intro settled
    constructor
    · exact complete
    · exact synced.reachable
    · intro stays
      have kept := synced.oneListener_iff.mp settled.oneListener
      unfold LbaasState.keptListeners at kept
      rw [if_neg stays] at kept
      exact kept
    · intro stays
      have kept := (synced.onePool_iff identifiedAfter settled.oneListener).mp settled.onePool
      unfold LbaasState.keptPools at kept
      rw [if_neg stays] at kept
      exact kept
    · intro stays member listed targets
      obtain ⟨subset, _, address, _, port, _, noted, _⟩ := id targets
      obtain ⟨pool, inState, sameId, spec_, inSpec, _, listener, listenerListed, isListener,
        isFor⟩ := LbaasState.of_get?_specPorts noted
      have inAfter : pool ∈ after.pools := by
        obtain ⟨_, samePools, _⟩ := synced.pools
        rw [samePools]
        exact List.mem_append_left _ (mem_keptPools.mpr ⟨stays, inState,
          LbaasState.isPoolInSpec_iff.mpr ⟨listener, listenerListed, isListener, spec_, inSpec,
            isFor⟩⟩)
      have stillMember : member ∈ after.members := by
        obtain ⟨kept, added, _, sameMembers, keeps, _⟩ := synced.members
        rw [sameMembers]
        exact List.mem_append_left _ ((keeps member).mpr ⟨stays, listed, targets⟩)
      obtain ⟨target, among, sameIp, samePort, named⟩ :=
        (settled.members pool inAfter member.ip member.port).mp
          ⟨member, stillMember, sameId.symm, rfl, rfl⟩
      refine ⟨target, among, sameIp, samePort, pool, inState, sameId, ?_⟩
      exact (agrees.names_iff ⟨listener, listenerListed, isListener⟩
        (exists_listener_of_attached attached inAfter) _).mpr named
  · intro fits
    have oneListener : (after.listeners.map Listener.key).Nodup := by
      rw [synced.oneListener_iff]
      unfold LbaasState.keptListeners
      split
      · exact List.nodup_nil
      · rename_i stays
        exact fits.oneListener stays
    have onePool : (after.pools.map (·.listenerId)).Nodup := by
      rw [synced.onePool_iff identifiedAfter oneListener]
      unfold LbaasState.keptPools
      split
      · exact List.nodup_nil
      · rename_i stays
        exact fits.onePool stays
    constructor
    · intro port listed supported
      obtain ⟨added, same, adds⟩ := synced.listeners
      rw [same]
      exact adds.offered port listed supported
    · intro listener listed
      exact synced.inSpec identified listed
    · exact oneListener
    · exact onePool
    · exact attached
    · intro pool inAfter ip port
      exact synced.members_iff consistent identifiedAfter agrees names subnets fits oneListener
        onePool inAfter ip port
    · exact synced.inPools

end

/-! ## The claim -/

/-- A driver that does not raise is one that may. -/
theorem LoadBalancerHandler.Answers.may {handler : LoadBalancerHandler Address W}
    (answers : handler.Answers False knows supports) : handler.Answers True knows supports := by
  have may {α : Type} {program : Program PyException W α} {post : α → W → Prop}
      (completes : (knowledge knows).Completes False (fun _ => True) program post) :
      (knowledge knows).Completes True (fun _ => True) program post := by
    intro before given
    exact .inl (completes.returns given)
  constructor
  · exact answers.identifies
  · exact fun name spec ip => may (answers.ensureLoadbalancer name spec ip)
  · exact fun lb => may (answers.releaseLoadbalancer lb)
  · exact fun lb protocol port type supported =>
      may (answers.ensureListener lb protocol port type supported)
  · exact answers.unsupported
  · exact fun lb listener => may (answers.releaseListener lb listener)
  · exact fun lb listener => may (answers.ensurePool lb listener)
  · exact fun lb pool => may (answers.releasePool lb pool)
  · exact fun lb request => may (answers.ensureMember lb request)
  · exact fun lb member => may (answers.releaseMember lb member)
  · exact fun info => may (answers.disassociatePubIp info)
  · exact fun info => may (answers.releasePubIp info)
  · exact fun exception _ => .inr trivial
  · exact fun _ _ _ _ _ => .inr trivial

/-- The synchronization raises for endpoints that are not complete. -/
theorem complete_of_syncLbaasMembers_ok [DecidableEq Address]
    {handler : LoadBalancerHandler Address W} {endpoints : Endpoints Address}
    {state : LbaasState Address} {spec : ServiceSpec Address} {world final : W}
    {result : LbaasState Address × Bool} (pods : endpoints.hasPods)
    (ran : exec (handler.syncLbaasMembers endpoints state spec) world = (.ok result, final)) :
    endpoints.Complete := by
  unfold LoadBalancerHandler.syncLbaasMembers at ran
  rw [if_pos pods] at ran
  obtain ⟨_, _, removed, _⟩ := exec_bind_eq_ok ran
  unfold LoadBalancerHandler.removeUnusedMembers at removed
  unfold Endpoints.Complete
  cases given : endpoints.subsets with
  | none =>
      rintro subset ⟨⟩
  | some subsets =>
      rw [given] at removed
      obtain ⟨targets, _, collected, _⟩ := exec_bind_eq_ok removed
      apply (currentTargets_isOk_iff (state.specPorts spec) subsets).mp
      cases ended : currentTargets (state.specPorts spec) subsets with
      | ok targets => exact ⟨targets, rfl⟩
      | error exception =>
          rw [ended] at collected
          cases collected

end

/-! ## A service with a subset that is not ready -/

namespace Recorder

/-- The listeners and pools that were made, and how many members. -/
structure World where
  known : Dict Nat Resource := ∅
  members : Nat := 0

/-- The listener or pool under its id. -/
def recorded (world : World) (resource : Resource) : Prop :=
  world.known.get? resource.id = some resource

/-- Note a new resource. -/
def record (resource : Resource) : Program PyException World PUnit :=
  modify fun world => { world with known := world.known.set resource.id resource }

/-- Every call succeeds, and listeners are for TCP. -/
def driver (format : AddressFormat Address) : LbaasDriver Address World where
  doubleListenersSupported := true
  ensureLoadbalancer name spec ip :=
    return { id := 0, projectId := spec.projectId, name, ip, subnetId := spec.subnetId, portId := 0 }
  releaseLoadbalancer _ := pure ⟨⟩
  ensureListener lb protocol port _ :=
    if protocol = "TCP" then do
      let world ← get
      let listener : Listener :=
        { id := world.known.freshKey
          projectId := lb.projectId
          name := { loadbalancer := lb.name, protocol, port }
          loadbalancerId := lb.id
          protocol
          port }
      record (.listener listener)
      return some listener
    else
      return none
  releaseListener _ _ := pure ⟨⟩
  ensurePool _ listener := do
    let world ← get
    let pool : Pool :=
      { id := world.known.freshKey
        projectId := listener.projectId
        name := listener.name
        loadbalancerId := listener.loadbalancerId
        listenerId := listener.id
        protocol := listener.protocol }
    record (.pool pool)
    return pool
  releasePool _ _ := pure ⟨⟩
  ensureMember _ request := do
    let world ← get
    set { world with members := world.members + 1 }
    return {
      id := world.members + 1
      projectId := request.pool.projectId
      name :=
        { namespaceName := request.targetRefNamespace
          podName := request.targetRefName
          port := request.port }
      poolId := request.pool.id
      subnetId := request.subnetId
      ip := format.read request.ip
      port := request.port }
  releaseMember _ _ := pure ⟨⟩

/-- The handler with this driver, for a service without a public address. -/
def handler (format : AddressFormat Address) : LoadBalancerHandler Address World where
  format
  drvLbaas := driver format
  drvServicePubIp :=
    { acquireServicePubIpInfo := fun _ _ => return none
      associatePubIp := fun _ _ => pure ⟨⟩
      disassociatePubIp := fun _ => pure ⟨⟩
      releasePubIp := fun _ => pure ⟨⟩ }
  api :=
    { patchStatus := fun _ => pure ⟨⟩
      setLbaasState := fun _ => pure ⟨⟩ }
  memberMode := .l3
  securityGroups := .ok []
  servicePorts := .ok []

def tcpOnly (protocol : String) : Bool :=
  protocol = "TCP"

theorem record_completes (resource : Resource) :
    (knowledge recorded).Completes False
      (fun world => world.known.freshKey = resource.id) (record resource)
      fun _ world => recorded world resource := by
  intro before new
  refine .inl ⟨⟨⟩, _, rfl, ?_, Dict.get?_set_self _ _ _⟩
  intro other known
  have different : other.id ≠ resource.id := by
    intro same
    apply before.known.freshKey_not_mem
    rw [new, ← same]
    exact Dict.mem_iff_exists_get?.mpr ⟨other, known⟩
  exact (Dict.get?_set_of_ne _ _ different).trans known

theorem answers (format : AddressFormat Address) :
    (handler format).Answers False recorded tcpOnly := by
  have quiet : (knowledge recorded).Completes False (fun _ => True)
      (pure ⟨⟩ : Program PyException World PUnit) fun _ _ => True :=
    Frame.completes_pure fun _ _ => trivial
  constructor
  · intro world resource other known knownToo same
    unfold recorded at known knownToo
    rw [same, knownToo] at known
    exact (Option.some.inj known).symm
  · exact fun _ _ _ => Frame.completes_pure fun _ _ => rfl
  · exact fun _ => quiet
  · intro lb protocol port type supported before _
    have tcp : protocol = "TCP" := of_decide_eq_true supported
    subst tcp
    let listener : Listener :=
      { id := before.known.freshKey
        projectId := lb.projectId
        name := { loadbalancer := lb.name, protocol := "TCP", port }
        loadbalancerId := lb.id
        protocol := "TCP"
        port }
    have new : before.known.freshKey = (Resource.listener listener).id := rfl
    obtain ⟨_, after, ran, kept, known⟩ := (record_completes (.listener listener)).returns new
    refine .inl ⟨some listener, after, ?_, kept, listener, rfl, rfl, rfl, known⟩
    change exec (record (.listener listener) >>= fun _ => pure (some listener)) before = _
    rw [exec_bind_of_ok ran]
    rfl
  · intro lb protocol port type refused world
    have other : ¬protocol = "TCP" := of_decide_eq_false refused
    change exec (if protocol = "TCP" then _ else _) world = _
    rw [if_neg other]
    rfl
  · exact fun _ _ => quiet
  · intro lb listener before _
    let pool : Pool :=
      { id := before.known.freshKey
        projectId := listener.projectId
        name := listener.name
        loadbalancerId := listener.loadbalancerId
        listenerId := listener.id
        protocol := listener.protocol }
    have new : before.known.freshKey = (Resource.pool pool).id := rfl
    obtain ⟨_, after, ran, kept, known⟩ := (record_completes (.pool pool)).returns new
    refine .inl ⟨pool, after, ?_, kept, rfl, known⟩
    change exec (record (.pool pool) >>= fun _ => pure pool) before = _
    rw [exec_bind_of_ok ran]
    rfl
  · exact fun _ _ => quiet
  · intro lb request before _
    exact .inl ⟨_, _, rfl, fun _ known => known, rfl, rfl, rfl, rfl⟩
  · exact fun _ _ => quiet
  · exact fun _ => quiet
  · exact fun _ => quiet
  · rintro exception ⟨⟩
  · rintro podSubnet ⟨⟩

/-- All texts are addresses as they are written. -/
def format : AddressFormat String where
  read := id
  str := id
  read_str _ := rfl

/-- A service with one port. -/
def service (ip : Address) : ServiceSpec Address where
  ip := some ip
  ports := [{ name := some "http", protocol := "TCP", port := 80, targetPort := "8080" }]

/-- A pod behind the port. -/
def podAt (ip : String) : Subset where
  addresses := some [{ ip, targetRef := some (.pod "default" "web") }]
  ports := some [{ name := some "http", port := 8080 }]

def spec : ServiceSpec String :=
  service "10.0.0.1"

def ready : Subset :=
  podAt "10.1.0.1"

/-- Endpoints of the service. -/
def endpoints (subsets : List Subset) : Endpoints Address where
  namespaceName := "default"
  name := "web"
  subsets := some subsets

end Recorder

end KuryrKubernetes.Lbaas

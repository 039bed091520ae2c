import KuryrKubernetes.Lbaas.Quiet

/-!
# A second synchronization

A synchronization that runs on the state that the one before left, for the same endpoints
and the same specification, does nothing, if the pods that were added are targets of the
removal pass.
-/

namespace KuryrKubernetes.Lbaas

open KuryrKubernetes.Data
open KuryrKubernetes.Effect

variable {Address W : Type} {knows : W → Resource → Prop} {supports : String → Bool}

/-! ## Names and pools -/

/-- The first port of the specification with the protocol and number of a port. -/
def ServiceSpec.firstPort (spec : ServiceSpec Address) (port : PortSpec) : Option PortSpec :=
  spec.ports.find? (·.key = port.key)

section

variable {state : LbaasState Address} {spec : ServiceSpec Address}

theorem key_of_firstPort {port first : PortSpec} (found : spec.firstPort port = some first) :
    first ∈ spec.ports ∧ first.key = port.key := by
  have same := List.find?_some found
  exact ⟨List.mem_of_find?_eq_some found, of_decide_eq_true same⟩

theorem firstPort_congr {port other : PortSpec} (same : port.key = other.key) :
    spec.firstPort port = spec.firstPort other := by
  unfold ServiceSpec.firstPort
  rw [same]

/-- A pool is noted for the first port of its listener. -/
theorem getPortInPool_eq (identified : state.Identified) {pool : Pool} {listener : Listener}
    (listed : listener ∈ state.listeners) (isListener : listener.id = pool.listenerId)
    {port : PortSpec} (isFor : listener.isFor port) :
    state.getPortInPool spec pool = spec.firstPort port := by
  have same (other : PortSpec) : listener.isFor other = decide (other.key = port.key) := by
    rw [Bool.eq_iff_iff, Listener.isFor_iff, decide_eq_true_eq, Listener.isFor_iff.mp isFor]
    exact eq_comm
  have first : spec.ports.find? listener.isFor = spec.firstPort port := by
    unfold ServiceSpec.firstPort
    exact congrArg (List.find? · spec.ports) (funext same)
  have all : ∀ other ∈ state.listeners.filter (·.id = pool.listenerId),
      spec.ports.find? other.isFor = spec.firstPort port := by
    intro other member
    rcases List.mem_filter.mp member with ⟨otherListed, isOther⟩
    rw [identified.listeners other otherListed listener listed
      ((of_decide_eq_true isOther).trans isListener.symm), first]
  have some_ : listener ∈ state.listeners.filter (·.id = pool.listenerId) :=
    List.mem_filter.mpr ⟨listed, decide_eq_true isListener⟩
  unfold LbaasState.getPortInPool
  cases found : spec.firstPort port with
  | none =>
      apply List.findSome?_eq_none_iff.mpr
      intro other member
      rw [all other member, found]
  | some port =>
      cases listeners : state.listeners.filter (·.id = pool.listenerId) with
      | nil =>
          rw [listeners] at some_
          cases some_
      | cons head rest =>
          rw [listeners] at all
          rw [List.findSome?_cons, all head List.mem_cons_self, found]

theorem eq_of_poolByLsnrPort {pools : Dict (String × Nat) Pool}
    (built : state.poolByLsnrPort = .ok pools) :
    pools = .collect (fun pool => (state.lsnrById.get? pool.listenerId).map fun listener =>
      ((listener.protocol, listener.port), pool)) state.pools := by
  unfold LbaasState.poolByLsnrPort at built
  split at built
  · cases built
    rfl
  · cases built

/-- What the pools are by listener and port. -/
theorem of_get?_poolByLsnrPort {pools : Dict (String × Nat) Pool}
    (built : state.poolByLsnrPort = .ok pools) {key : String × Nat} {pool : Pool}
    (found : pools.get? key = some pool) :
    pool ∈ state.pools ∧ ∃ listener ∈ state.listeners, listener.id = pool.listenerId ∧
      listener.key = key := by
  rw [eq_of_poolByLsnrPort built] at found
  rcases Dict.exists_of_get?_collect found with ⟨known, listed, gives⟩
  rcases Option.map_eq_some_iff.mp gives with ⟨listener, byId, pair⟩
  rcases Prod.mk.inj pair with ⟨sameKey, rfl⟩
  rcases LbaasState.mem_of_get?_lsnrById byId with ⟨member, isListener⟩
  exact ⟨listed, listener, member, isListener, sameKey⟩

/-- The pool of a port name in the additions. -/
theorem get?_poolByTgtName_iff (names : (spec.ports.map (·.name)).Nodup)
    {pools : Dict (String × Nat) Pool} {name : Option String} {pool : Pool} :
    (poolByTgtName pools spec.ports).get? name = some pool ↔
      ∃ port ∈ spec.ports, port.name = name ∧ pools.get? port.key = some pool := by
  constructor
  · intro found
    rcases Dict.exists_of_get?_collect found with ⟨port, listed, gives⟩
    rcases Option.map_eq_some_iff.mp gives with ⟨other, byPort, pair⟩
    rcases Prod.mk.inj pair with ⟨sameName, rfl⟩
    exact ⟨port, listed, sameName, byPort⟩
  · rintro ⟨port, listed, rfl, byPort⟩
    apply Dict.get?_collect_of_agree listed
    · change Option.map _ (pools.get? port.key) = _
      rw [byPort]
      rfl
    · intro other otherListed last gives
      rcases Option.map_eq_some_iff.mp gives with ⟨known, byOther, pair⟩
      rcases Prod.mk.inj pair with ⟨sameName, rfl⟩
      have same : other = port := List.inj_on_of_nodup_map names otherListed listed sameName
      rw [same] at byOther
      exact Option.some.inj (byOther.symm.trans byPort)

/-- The pool of a port name in the removal pass: that of the port, if it is the first one
of its protocol and number. -/
theorem get?_specPorts_iff (identified : state.Identified)
    (names : (spec.ports.map (·.name)).Nodup) {pools : Dict (String × Nat) Pool}
    (built : state.poolByLsnrPort = .ok pools) {name : Option String} {poolId : Nat} :
    (state.specPorts spec).get? name = some poolId ↔
      ∃ port ∈ spec.ports, port.name = name ∧ spec.firstPort port = some port ∧
        ∃ pool, pools.get? port.key = some pool ∧ pool.id = poolId := by
  have same (port : PortSpec) (listed : port ∈ spec.ports)
      (first : spec.firstPort port = some port) :
      (state.specPorts spec).get? port.name = (pools.get? port.key).map (·.id) := by
    rw [eq_of_poolByLsnrPort built]
    apply Dict.get?_collect_of_corresponds
    intro pool _ id
    constructor
    · intro gives
      rcases Option.map_eq_some_iff.mp gives with ⟨other, attached, pair⟩
      rcases Prod.mk.inj pair with ⟨sameName, isPool⟩
      rcases LbaasState.of_getPortInPool attached with
        ⟨inSpec, listener, member, isListener, isFor⟩
      have equal : other = port := List.inj_on_of_nodup_map names inSpec listed sameName
      subst equal
      have key : (listener.protocol, listener.port) = other.key := Listener.isFor_iff.mp isFor
      refine ⟨pool, ?_, isPool⟩
      rw [← isListener, LbaasState.get?_lsnrById identified member, Option.map_some, key]
    · rintro ⟨other, gives, isPool⟩
      rcases Option.map_eq_some_iff.mp gives with ⟨listener, byId, pair⟩
      rcases Prod.mk.inj pair with ⟨sameKey, rfl⟩
      rcases LbaasState.mem_of_get?_lsnrById byId with ⟨member, isListener⟩
      rw [getPortInPool_eq identified member isListener (Listener.isFor_iff.mpr sameKey), first,
        Option.map_some, isPool]
  constructor
  · intro found
    rcases LbaasState.of_get?_specPorts found with
      ⟨pool, listed, rfl, port, inSpec, rfl, listener, member, isListener, isFor⟩
    rcases Dict.exists_of_get?_collect found with ⟨noted, notedListed, gives⟩
    rcases Option.map_eq_some_iff.mp gives with ⟨other, attached, pair⟩
    rcases Prod.mk.inj pair with ⟨sameName, isPool⟩
    rcases LbaasState.of_getPortInPool attached with
      ⟨otherInSpec, otherListener, otherMember, isOther, otherFor⟩
    have equal : other = port := List.inj_on_of_nodup_map names otherInSpec inSpec sameName
    subst equal
    have first : spec.firstPort other = some other := by
      rw [← getPortInPool_eq identified otherMember isOther otherFor, attached]
    rw [same other inSpec first] at found
    rcases Option.map_eq_some_iff.mp found with ⟨known, byPort, isKnown⟩
    exact ⟨other, inSpec, rfl, first, known, byPort, isKnown⟩
  · rintro ⟨port, listed, rfl, first, pool, byPort, rfl⟩
    rw [same port listed first, byPort]
    rfl

/-- The names under which the removal pass finds the pool of a port. -/
theorem get?_specPorts_pool_iff (identified : state.Identified)
    (names : (spec.ports.map (·.name)).Nodup) {pools : Dict (String × Nat) Pool}
    (built : state.poolByLsnrPort = .ok pools) {port : PortSpec} {pool : Pool}
    (found : pools.get? port.key = some pool) (name : Option String) :
    (state.specPorts spec).get? name = some pool.id ↔
      ∃ first, spec.firstPort port = some first ∧ first.name = name := by
  rw [get?_specPorts_iff identified names built]
  constructor
  · rintro ⟨other, _, sameName, first, otherPool, foundOther, sameId⟩
    rcases of_get?_poolByLsnrPort built found with ⟨listed, listener, member, isListener, key⟩
    rcases of_get?_poolByLsnrPort built foundOther with
      ⟨otherListed, otherListener, otherMember, isOther, otherKey⟩
    have samePool : otherPool = pool := identified.pools otherPool otherListed pool listed sameId
    rw [samePool] at isOther
    have sameListener : otherListener = listener := identified.listeners otherListener otherMember
      listener member (isOther.trans isListener.symm)
    rw [sameListener] at otherKey
    rw [firstPort_congr (key.symm.trans otherKey)]
    exact ⟨other, first, sameName⟩
  · rintro ⟨first, isFirst, sameName⟩
    rcases key_of_firstPort isFirst with ⟨inSpec, key⟩
    rw [← key] at found
    rw [← firstPort_congr key] at isFirst
    exact ⟨first, inSpec, sameName, isFirst, pool, found, rfl⟩

/-- The removal pass finds the pod at its address, under the name of the first port with the
protocol and number of the pod's port. -/
def Endpoints.Recognizes (endpoints : Endpoints Address) (spec : ServiceSpec Address)
    (target : PodTarget) (port : PortSpec) : Prop :=
  ∃ subset ∈ endpoints.subsets.getD [], ∃ address ∈ subset.addresses.getD [],
    ∃ other ∈ subset.ports.getD [], address.ip = target.ip ∧
      address.targetName = target.name ∧ other.port = target.port.port ∧
      ∃ first, spec.firstPort port = some first ∧ first.name = other.name

/-- A member for a pod is a target if the pod is recognized. -/
theorem targets_iff_recognizes (identified : state.Identified)
    {endpoints : Endpoints Address} (names : (spec.ports.map (·.name)).Nodup) {pools : Dict (String × Nat) Pool}
    (built : state.poolByLsnrPort = .ok pools) {port : PortSpec} {pool : Pool}
    (found : pools.get? port.key = some pool) {format : AddressFormat Address}
    {target : PodTarget} {member : Member Address} (inPool : member.poolId = pool.id)
    (sameIp : format.str member.ip = target.ip) (samePort : member.port = target.port.port)
    (sameName : member.name.podName = target.name) :
    endpoints.Targets (state.specPorts spec) (member.target format) ↔
      endpoints.Recognizes spec target port := by
  constructor
  · rintro ⟨subset, inSubsets, address, among, other, listed, noted, atIp, named, atPort⟩
    change _ = some member.poolId at noted
    rw [inPool] at noted
    exact ⟨subset, inSubsets, address, among, other, listed, atIp.trans sameIp,
      named.trans sameName, atPort.trans samePort,
      (get?_specPorts_pool_iff identified names built found _).mp noted⟩
  · rintro ⟨subset, inSubsets, address, among, other, listed, atIp, named, atPort, first⟩
    have noted := (get?_specPorts_pool_iff identified names built found _).mpr first
    rw [← inPool] at noted
    exact ⟨subset, inSubsets, address, among, other, listed, noted, atIp.trans sameIp.symm,
      named.trans sameName.symm, atPort.trans samePort.symm⟩

end

/-! ## What the second synchronization depends on -/

section

variable [DecidableEq Address]

/-- The port has a listener after the synchronization. -/
def Accepts (handler : LoadBalancerHandler Address W) (supports : String → Bool)
    (state : LbaasState Address) (spec : ServiceSpec Address) (port : PortSpec) : Prop :=
  (∃ listener ∈ state.keptListeners spec, listener.isFor port) ∨
    supports port.protocol ∧ (handler.drvLbaas.doubleListenersSupported = true ∨
      (∀ listener ∈ state.keptListeners spec, listener.port ≠ port.port) ∧
        ∀ other ∈ spec.ports, supports other.protocol → other.port = port.port →
          port.protocol ≤ other.protocol)

/-- A member that stays is at the address of the pod, in the pool of the port. -/
def LbaasState.Serves (state : LbaasState Address) (format : AddressFormat Address)
    (endpoints : Endpoints Address) (spec : ServiceSpec Address) (target : PodTarget)
    (port : PortSpec) : Prop :=
  ∃ member, state.KeepsMember spec format endpoints member ∧ format.str member.ip = target.ip ∧
    member.port = target.port.port ∧ ∃ first, spec.firstPort port = some first ∧
      (state.specPorts spec).get? first.name = some member.poolId

/-- The inputs for which a second synchronization does nothing: the addresses of pods are
written as the addresses of members are, and the removal pass recognizes the pods. -/
def Repeatable (handler : LoadBalancerHandler Address W) (supports : String → Bool)
    (endpoints : Endpoints Address) (state : LbaasState Address) (spec : ServiceSpec Address) :
    Prop :=
  ∀ target ∈ endpoints.podTargets, ∀ port ∈ spec.ports, port.name = target.port.name →
    Accepts handler supports state spec port → ¬handler.Skips target →
      handler.format.str (handler.format.read target.ip) = target.ip ∧
        (endpoints.Recognizes spec target port ∨
          state.Serves handler.format endpoints spec target port)

variable {handler : LoadBalancerHandler Address W} {endpoints : Endpoints Address}
  {state after : LbaasState Address} {spec : ServiceSpec Address}

namespace Reconciled

variable (synced : Reconciled handler supports state spec after)
include synced

/-- The ports with a listener are those that are accepted. -/
theorem accepts_iff {port : PortSpec} (inSpec : port ∈ spec.ports) :
    Accepts handler supports state spec port ↔ ∃ listener ∈ after.listeners, listener.isFor port := by
  rcases synced.listeners with ⟨added, same, adds⟩
  rw [same]
  constructor
  · rintro (⟨listener, kept, isFor⟩ | ⟨supported, alone⟩)
    · exact ⟨listener, List.mem_append_left _ kept, isFor⟩
    · rcases adds.offered port inSpec supported with served | ⟨single, listener, listed, number⟩
      · exact served
      · rcases alone with double | ⟨free, least⟩
        · rw [double] at single
          cases single
        · -- the number went to a listener that was added, so to the least protocol
          have new : listener ∈ added := by
            rcases List.mem_append.mp listed with kept | new
            · exact absurd number (free listener kept)
            · exact new
          rcases adds.wanted listener new with ⟨supportedToo, other, otherListed, isFor⟩
          rcases Prod.mk.inj (Listener.isFor_iff.mp isFor) with ⟨sameProtocol, sameNumber⟩
          have below := adds.least single listener new port inSpec supported number.symm
          have above : port.protocol ≤ listener.protocol := by
            rw [sameProtocol]
            apply least other otherListed
            · rw [← sameProtocol]
              exact supportedToo
            · exact sameNumber.symm.trans number
          have key : listener.key = port.key := Prod.ext (le_antisymm below above) number
          exact ⟨listener, listed, Listener.isFor_iff.mpr key⟩
  · rintro ⟨listener, listed, isFor⟩
    rcases List.mem_append.mp listed with kept | new
    · exact .inl ⟨listener, kept, isFor⟩
    · right
      rcases adds.wanted listener new with ⟨supported, _⟩
      rcases Prod.mk.inj (Listener.isFor_iff.mp isFor) with ⟨sameProtocol, sameNumber⟩
      rw [sameProtocol] at supported
      constructor
      · exact supported
      · cases single : handler.drvLbaas.doubleListenersSupported with
        | true => exact .inl rfl
        | false =>
            right
            constructor
            · intro other kept number
              exact adds.alone single listener new other kept (number.trans sameNumber.symm)
            · intro other otherListed supportedToo number
              rw [← sameProtocol]
              exact adds.least single listener new other otherListed supportedToo
                (number.trans sameNumber.symm)

theorem quiet (consistent : state.Consistent) (identified : state.Identified) :
    LbaasState.Quiet handler supports spec after := by
  have attached := synced.attached consistent
  constructor
  · exact synced.addressed
  · rcases synced.addressed with ⟨lb, there, _⟩ | ⟨_, unaddressed, _⟩
    · right
      rw [there]
      exact Option.some_ne_none lb
    · exact .inl (synced.portless.resolve_right (not_not_intro unaddressed))
  · intro pool listed
    rcases exists_listener_of_attached attached listed with ⟨listener, member, isListener⟩
    rcases synced.inSpec identified member with ⟨port, inSpec, isFor⟩
    exact LbaasState.isPoolInSpec_iff.mpr ⟨listener, member, isListener, port, inSpec, isFor⟩
  · intro listener listed
    exact (attached listener.id).mpr (List.mem_map_of_mem listed)
  · intro port inSpec supported
    rcases synced.listeners with ⟨added, same, adds⟩
    rw [same]
    exact adds.offered port inSpec supported

/-- A port that is accepted has a pool. -/
theorem isSome_pool_iff (consistent : state.Consistent) (identified : after.Identified)
    {pools : Dict (String × Nat) Pool} (built : after.poolByLsnrPort = .ok pools)
    {port : PortSpec} (inSpec : port ∈ spec.ports) :
    Accepts handler supports state spec port ↔ ∃ pool, pools.get? port.key = some pool := by
  rw [synced.accepts_iff inSpec]
  constructor
  · rintro ⟨listener, listed, isFor⟩
    have pooled : listener.id ∈ after.pools.map (·.listenerId) :=
      (synced.attached consistent listener.id).mpr (List.mem_map_of_mem listed)
    rcases List.mem_map.mp pooled with ⟨pool, member, isListener⟩
    rw [eq_of_poolByLsnrPort built]
    apply Option.isSome_iff_exists.mp
    apply Dict.isSome_get?_collect member
    rw [isListener, LbaasState.get?_lsnrById identified listed, ← Listener.isFor_iff.mp isFor]
    rfl
  · rintro ⟨pool, found⟩
    rcases of_get?_poolByLsnrPort built found with ⟨_, listener, listed, _, key⟩
    exact ⟨listener, listed, Listener.isFor_iff.mpr key⟩

/-- The removal pass finds the pools that stayed under the names that they had. -/
theorem get?_specPorts (identified : state.Identified)
    (identifiedAfter : after.Identified) (names : (spec.ports.map (·.name)).Nodup)
    (stays : ¬state.Replaced spec) {name : Option String} {poolId : Nat}
    (found : (state.specPorts spec).get? name = some poolId) :
    (after.specPorts spec).get? name = some poolId := by
  have keptPools : state.keptPools spec = state.pools.filter (state.isPoolInSpec spec) :=
    if_neg stays
  rcases synced.listeners with ⟨newListeners, sameListeners, addsListeners⟩
  rcases synced.pools with ⟨newPools, samePools, addsPools⟩
  unfold LbaasState.specPorts
  rw [samePools, Dict.get?_collect_append]
  have new : (Dict.collect (fun pool => (after.getPortInPool spec pool).map fun port =>
      (port.name, pool.id)) newPools).get? name = none := by
    apply Dict.get?_collect_eq_none
    intro pool listed last gives
    rcases Option.map_eq_some_iff.mp gives with ⟨port, attached, pair⟩
    rcases Prod.mk.inj pair with ⟨rfl, _⟩
    rcases LbaasState.of_getPortInPool attached with ⟨inSpec, listener, member, isListener, isFor⟩
    rcases LbaasState.of_get?_specPorts found with
      ⟨old, oldListed, _, other, otherInSpec, sameName, oldListener, oldMember, isOld, oldFor⟩
    have same : other = port := List.inj_on_of_nodup_map names otherInSpec inSpec sameName
    have oldKept : oldListener ∈ state.keptListeners spec := by
      apply mem_keptListeners.mpr ⟨oldMember, old, _, isOld.symm⟩
      exact mem_keptPools.mpr ⟨stays, oldListed, LbaasState.isPoolInSpec_iff.mpr
        ⟨oldListener, oldMember, isOld, other, otherInSpec, oldFor⟩⟩
    -- the listener of a new pool had none, so it is new itself
    have forNew : pool.listenerId ∈ newPools.map (·.listenerId) := List.mem_map_of_mem listed
    rw [addsPools] at forNew
    rcases List.mem_map.mp forNew with ⟨known, knownMember, isKnown⟩
    rcases List.mem_filter.mp knownMember with ⟨knownListed, unpooled⟩
    have equal : known = listener :=
      identifiedAfter.listeners known knownListed listener member (isKnown.trans isListener.symm)
    rw [equal] at unpooled
    rw [sameListeners] at member
    rcases List.mem_append.mp member with kept | added
    · rcases mem_keptListeners.mp kept with ⟨_, keptPool, inKept, isKept⟩
      rw [Bool.not_eq_true', List.contains_eq_mem, decide_eq_false_iff_not] at unpooled
      exact unpooled (List.mem_map.mpr ⟨keptPool, inKept, isKept⟩)
    · apply addsListeners.fresh listener added oldListener oldKept
      rw [Listener.isFor_iff.mp oldFor, same, Listener.isFor_iff.mp isFor]
  have kept : Dict.collect (fun pool => (after.getPortInPool spec pool).map fun port =>
      (port.name, pool.id)) (state.keptPools spec) = state.specPorts spec := by
    rw [keptPools]
    unfold LbaasState.specPorts
    have congruent : ∀ pool ∈ state.pools.filter (state.isPoolInSpec spec),
        ((after.getPortInPool spec pool).map fun port => (port.name, pool.id)) =
          (state.getPortInPool spec pool).map fun port => (port.name, pool.id) := by
      intro pool member
      rcases List.mem_filter.mp member with ⟨listed, inSpec⟩
      rcases LbaasState.isPoolInSpec_iff.mp inSpec with
        ⟨listener, listenerListed, isListener, port, portInSpec, isFor⟩
      have still : listener ∈ after.listeners := by
        rw [sameListeners]
        apply List.mem_append_left
        exact mem_keptListeners.mpr ⟨listenerListed, pool, mem_keptPools.mpr
          ⟨stays, listed, inSpec⟩, isListener.symm⟩
      rw [getPortInPool_eq identifiedAfter still isListener isFor,
        getPortInPool_eq identified listenerListed isListener isFor]
    rw [Dict.collect_congr congruent]
    apply Dict.collect_filter
    intro pool listed out
    cases attached : state.getPortInPool spec pool with
    | none => rfl
    | some port =>
        rcases LbaasState.of_getPortInPool attached with
          ⟨inSpec, listener, member, isListener, isFor⟩
        rw [LbaasState.isPoolInSpec_iff.mpr ⟨listener, member, isListener, port, inSpec, isFor⟩]
          at out
        cases out
  rw [new, Option.none_or, kept]
  exact found

end Reconciled

/-- All members are targets of the removal pass and all pods have their members exactly for
the inputs that are repeatable. -/
theorem Synced.repeatable_iff (synced : Synced handler supports endpoints state spec after)
    (consistent : state.Consistent) (identified : state.Identified)
    (identifiedAfter : after.Identified) (names : (spec.ports.map (·.name)).Nodup)
    {pools : Dict (String × Nat) Pool} (built : after.poolByLsnrPort = .ok pools) :
    ((∀ member ∈ after.members,
        endpoints.Targets (after.specPorts spec) (member.target handler.format)) ∧
      ∀ target ∈ endpoints.podTargets, ∀ pool,
        (poolByTgtName pools spec.ports).get? target.port.name = some pool →
        handler.Skips target ∨ (target.ip, target.port.port, pool.id) ∈
          after.members.map fun member =>
            (handler.format.str member.ip, member.port, member.poolId)) ↔
      Repeatable handler supports endpoints state spec := by
  rcases synced.members with ⟨kept, added, poolsThen, sameMembers, keeps, builtThen, adds⟩
  have samePools : poolsThen = pools := Except.ok.inj (builtThen.symm.trans built)
  subst samePools
  rw [sameMembers]
  constructor
  · rintro ⟨targeted, served⟩ target among port inSpec named accepted unskipped
    rcases (synced.isSome_pool_iff consistent identifiedAfter built inSpec).mp accepted with
      ⟨pool, found⟩
    have byName : (poolByTgtName poolsThen spec.ports).get? target.port.name = some pool :=
      (get?_poolByTgtName_iff names).mpr ⟨port, inSpec, named, found⟩
    rcases (served target among pool byName).resolve_left unskipped |> List.mem_map.mp with
      ⟨current, _, isCurrent⟩
    have canonical : handler.format.str (handler.format.read target.ip) = target.ip := by
      rw [← (Prod.mk.inj isCurrent).1, handler.format.read_str]
    constructor
    · exact canonical
    · rcases adds.served target among pool byName with
        skipped | there | ⟨member, new, inPool, sameIp, samePort, sameName⟩
      · exact absurd skipped unskipped
      · right
        rcases List.mem_map.mp there with ⟨member, listed, isMember⟩
        rcases Prod.mk.inj isMember with ⟨sameIp, rest⟩
        rcases Prod.mk.inj rest with ⟨samePort, inPool⟩
        have keptMember := (keeps member).mp listed
        rcases keptMember with ⟨stays, _, subset, _, address, _, other, _, noted, _⟩
        have still := synced.get?_specPorts identified identifiedAfter names stays noted
        change _ = some member.poolId at still
        rw [inPool] at still
        rcases (get?_specPorts_pool_iff identifiedAfter names built found _).mp still with
          ⟨first, isFirst, sameName⟩
        rw [← sameName] at noted
        exact ⟨member, (keeps member).mp listed, sameIp, samePort, first, isFirst, noted⟩
      · left
        have isTarget := targeted member (List.mem_append_right _ new)
        rw [← sameIp] at canonical
        exact (targets_iff_recognizes identifiedAfter names built found inPool canonical samePort
          sameName).mp isTarget
  · intro repeatable
    constructor
    · intro member listed
      rcases List.mem_append.mp listed with old | new
      · rcases (keeps member).mp old with
          ⟨stays, _, subset, inSubsets, address, among, other, inPorts, noted, same⟩
        exact ⟨subset, inSubsets, address, among, other, inPorts,
          synced.get?_specPorts identified identifiedAfter names stays noted, same⟩
      · rcases adds.wanted member new with
          ⟨target, among, pool, byName, inPool, sameIp, samePort, sameName, unskipped, missing⟩
        rcases (get?_poolByTgtName_iff names).mp byName with ⟨port, inSpec, named, found⟩
        have accepted :=
          (synced.isSome_pool_iff consistent identifiedAfter built inSpec).mpr ⟨pool, found⟩
        rcases repeatable target among port inSpec named accepted unskipped with
          ⟨canonical, recognized | ⟨old, keptOld, oldIp, oldPort, first, isFirst, noted⟩⟩
        · rw [← sameIp] at canonical
          exact (targets_iff_recognizes identifiedAfter names built found inPool canonical
            samePort sameName).mpr recognized
        · -- no member was added next to one that stays
          exfalso
          apply missing
          have still := synced.get?_specPorts identified identifiedAfter names keptOld.1 noted
          have isPool := (get?_specPorts_pool_iff identifiedAfter names built found _).mpr
            ⟨first, isFirst, rfl⟩
          have inOld : old.poolId = pool.id := Option.some.inj (still.symm.trans isPool)
          apply List.mem_map.mpr
          exact ⟨old, (keeps old).mpr keptOld, by rw [oldIp, oldPort, inOld]⟩
    · intro target among pool byName
      by_cases skipped : handler.Skips target
      · exact .inl skipped
      · right
        rw [List.map_append, List.mem_append]
        rcases adds.served target among pool byName with
          goes | there | ⟨member, new, inPool, sameIp, samePort, _⟩
        · exact absurd goes skipped
        · exact .inl there
        · right
          rcases (get?_poolByTgtName_iff names).mp byName with ⟨port, inSpec, named, found⟩
          have accepted :=
            (synced.isSome_pool_iff consistent identifiedAfter built inSpec).mpr ⟨pool, found⟩
          have canonical := (repeatable target among port inSpec named accepted skipped).1
          apply List.mem_map.mpr
          exact ⟨member, new, by rw [sameIp, canonical, samePort, inPool]⟩

/-! ## The claim -/

/-- Where the synchronization returned, the service was there or it is gone. -/
theorem securityGroups_of_syncLbaasMembers_ok {world final : W}
    {result : LbaasState Address × Bool} (pods : endpoints.hasPods)
    (ran : exec (handler.syncLbaasMembers endpoints state spec) world = (.ok result, final)) :
    (∃ groups, handler.securityGroups = .ok groups) ∨
      handler.securityGroups = .error .k8sResourceNotFound := by
  unfold LoadBalancerHandler.syncLbaasMembers at ran
  rw [if_pos pods] at ran
  rcases exec_bind_eq_ok ran with ⟨removed, first, _, later⟩
  rcases exec_bind_eq_ok later with ⟨synced, second, _, last⟩
  rcases exec_bind_eq_ok last with ⟨added, third, adding, _⟩
  unfold LoadBalancerHandler.addNewMembers at adding
  rcases exec_bind_eq_ok adding with ⟨grouped, fourth, grouping, _⟩
  unfold LoadBalancerHandler.syncLbaasSgs at grouping
  split at grouping
  · rename_i groups _ found _
    exact .inl ⟨groups, found⟩
  · cases grouping
  · rename_i gone
    exact .inr gone
  · cases grouping

/-- A second synchronization after one that returned gives the same state without a change,
and leaves the world as it is, exactly for the inputs that are repeatable. -/
theorem sync_lbaas_members_repeats_iff (answers : handler.Answers True knows supports)
    {world middle : W} {changed : Bool} (consistent : state.Consistent)
    (known : state.Known knows world) (names : (spec.ports.map (·.name)).Nodup)
    (ran : exec (handler.syncLbaasMembers endpoints state spec) world =
      (.ok (after, changed), middle)) :
    exec (handler.syncLbaasMembers endpoints after spec) middle =
        (.ok (after, false), middle) ↔
      Repeatable handler supports endpoints state spec := by
  have identified := known.identified answers
  by_cases pods : endpoints.hasPods
  · have completes : (knowledge knows).Completes True (state.Known knows)
        (handler.syncLbaasMembers endpoints state spec) _ :=
      syncLbaasMembers_completes answers pods consistent (.inr trivial) (.inr trivial)
    rcases completes.post_of_ok known ran with ⟨_, knownAfter, synced⟩
    have identifiedAfter := knownAfter.identified answers
    have complete := complete_of_syncLbaasMembers_ok pods ran
    have quiet := synced.quiet consistent identified
    have attached : ∀ pool ∈ after.pools, ∃ listener ∈ after.listeners,
        listener.id = pool.listenerId :=
      fun pool listed => exists_listener_of_attached (synced.attached consistent) listed
    have built := poolByLsnrPort_eq_ok attached
    have present : endpoints.subsets ≠ none := by
      intro none_
      unfold Endpoints.hasPods at pods
      rw [none_] at pods
      cases pods
    rw [← synced.repeatable_iff consistent identified identifiedAfter names built]
    unfold LoadBalancerHandler.syncLbaasMembers
    rw [if_pos pods]
    constructor
    · intro again
      rcases exec_bind_eq_ok again with ⟨removed, first, removing, later⟩
      rcases exec_bind_eq_ok later with ⟨pooled, second, pooling, last⟩
      rcases exec_bind_eq_ok last with ⟨added, third, adding, ended⟩
      rw [exec_pure] at ended
      rcases Prod.mk.inj (Except.ok.inj (Prod.mk.inj ended).1) with ⟨sameState, unchanged⟩
      rw [Bool.or_eq_false_iff, Bool.or_eq_false_iff] at unchanged
      have targeted := targets_of_removeUnusedMembers removing unchanged.1.1
      constructor
      · exact targeted
      · have nothing := exec_removeUnusedMembers_of_targeted complete present targeted middle
        rw [nothing] at removing
        cases removing
        rw [quiet.exec_syncLbaasPools answers middle] at pooling
        cases pooling
        have knownThen : after.Known knows middle := knownAfter
        rcases ((addNewMembers_completes answers endpoints after spec attached
          (.inr (.inr trivial))).post_of_ok knownThen adding).2 with
            ⟨_, balancer, new, pools, sameAdded, _, _, builtThen, adds⟩
        rw [sameState] at sameAdded builtThen
        have samePools := Except.ok.inj (builtThen.symm.trans built)
        have sameMembers : after.members = after.members ++ new :=
          congrArg LbaasState.members sameAdded
        have nothingNew : new = [] := List.self_eq_append_right.mp sameMembers
        rw [samePools, nothingNew] at adds
        intro target among pool found
        rcases adds.served target among pool found with skipped | there | ⟨_, ⟨⟩, _⟩
        · exact .inl skipped
        · exact .inr there
    · rintro ⟨targeted, served⟩
      have answer : (∃ groups, handler.securityGroups = .ok groups ∧ ∃ lb,
          after.loadbalancer = some lb ∧ lb.securityGroups = groups) ∨
            handler.securityGroups = .error .k8sResourceNotFound := by
        rcases securityGroups_of_syncLbaasMembers_ok pods ran with ⟨groups, found⟩ | gone
        · left
          rcases synced.addressed with ⟨lb, there, _⟩ | ⟨_, unaddressed, _⟩
          · exact ⟨groups, found, lb, there, synced.groups groups found lb there⟩
          · rcases synced.reachable with addressed | ⟨_, gone⟩
            · exact absurd unaddressed addressed
            · rw [found] at gone
              cases gone
        · exact .inr gone
      rw [exec_bind_of_ok (exec_removeUnusedMembers_of_targeted complete present targeted middle),
        exec_bind_of_ok (quiet.exec_syncLbaasPools answers middle),
        exec_bind_of_ok (exec_addNewMembers_of_served answer built served middle)]
      rfl
  · unfold LoadBalancerHandler.syncLbaasMembers at ran ⊢
    rw [if_neg pods] at ran ⊢
    have completes : (knowledge knows).Completes True (state.Known knows)
        (handler.syncLbaasPools endpoints state spec) _ :=
      syncLbaasPools_completes answers endpoints state spec identified (.inr (.inr trivial))
    rcases completes.post_of_ok known ran with ⟨_, _, synced⟩
    constructor
    · rintro _ target among
      rw [podTargets_of_not_hasPods pods] at among
      cases among
    · intro _
      exact (synced.quiet consistent identified).exec_syncLbaasPools answers middle

end

/-- A second synchronization for a service with one pod does nothing. -/
theorem sync_lbaas_members_repeats_for_web :
    ∃ after changed middle,
      exec ((Recorder.handler Recorder.format).syncLbaasMembers
        (Recorder.endpoints [Recorder.ready]) {} Recorder.spec) {} =
          (.ok (after, changed), middle) ∧
      exec ((Recorder.handler Recorder.format).syncLbaasMembers
        (Recorder.endpoints [Recorder.ready]) after Recorder.spec) middle =
          (.ok (after, false), middle) := by
  have repeatable : Repeatable (Recorder.handler Recorder.format) Recorder.tcpOnly
      (Recorder.endpoints [Recorder.ready]) {} Recorder.spec := by
    intro target among port inSpec _ _ _
    rw [List.mem_singleton.mp among, List.mem_singleton.mp inSpec]
    constructor
    · rfl
    · left
      exact ⟨Recorder.ready, List.mem_singleton_self _, _, List.mem_singleton_self _, _,
        List.mem_singleton_self _, rfl, rfl, rfl, _, rfl, rfl⟩
  have consistent : LbaasState.Consistent ({} : LbaasState String) := by
    constructor
    · rintro pool ⟨⟩
    · rintro member ⟨⟩
    · rintro member ⟨⟩
  have known : LbaasState.Known Recorder.recorded ({} : LbaasState String) {} := by
    constructor
    · rintro listener ⟨⟩
    · rintro pool ⟨⟩
  have complete : (@Recorder.endpoints String [Recorder.ready]).Complete := by
    intro subset listed
    rw [List.mem_singleton.mp listed]
    exact ⟨_, rfl, .inr rfl⟩
  have reachable : Recorder.spec.ip ≠ none := by
    rintro ⟨⟩
  rcases (syncLbaasMembers_completes (Recorder.answers Recorder.format) (by decide) consistent
    (.inl complete) (.inl (.inl reachable))).returns known with
      ⟨⟨after, changed⟩, middle, ran, _⟩
  exact ⟨after, changed, middle, ran, (sync_lbaas_members_repeats_iff
    (Recorder.answers Recorder.format).may consistent known (by decide) ran).mpr repeatable⟩

namespace Recorder

/-- Texts for addresses, of which one is written without capital letters. -/
def lowerCase : AddressFormat {text : String // text ≠ "FD00::1"} where
  read text := if capitals : text = "FD00::1" then ⟨"fd00::1", by decide⟩ else ⟨text, capitals⟩
  str := Subtype.val
  read_str address := dif_neg address.property

end Recorder

/-- Two synchronizations in a row, and the members that each left. -/
def LoadBalancerHandler.syncTwice [DecidableEq Address] (handler : LoadBalancerHandler Address W)
    (endpoints : Endpoints Address) (state : LbaasState Address) (spec : ServiceSpec Address) :
    Program PyException W (List Nat × Bool × List Nat) := do
  let first ← handler.syncLbaasMembers endpoints state spec
  let second ← handler.syncLbaasMembers endpoints first.1 spec
  return (first.1.members.map (·.id), second.2, second.1.members.map (·.id))

/-- For a pod whose address is written with capital letters, the second synchronization
reports a change: it removes the member and makes another one. -/
theorem sync_lbaas_members_not_idempotent :
    (exec ((Recorder.handler Recorder.lowerCase).syncTwice
      (Recorder.endpoints [Recorder.podAt "FD00::1"]) {}
      (Recorder.service (Recorder.lowerCase.read "fd00::10"))) {}).1 =
        .ok ([1], true, [2]) := by
  decide +kernel

end KuryrKubernetes.Lbaas

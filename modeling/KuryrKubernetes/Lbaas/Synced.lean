import KuryrKubernetes.Lbaas.Additions

/-!
# The state after a synchronization

What `_sync_lbaas_members` leaves, in terms of the state, the specification and the
endpoints that it is called with: what was kept, and what was added to it.
-/

namespace KuryrKubernetes.Lbaas

open KuryrKubernetes.Data
open KuryrKubernetes.Effect

variable {Address W : Type} {knows : W → Resource → Prop} {mayRaise : Prop}
  {supports : String → Bool}

namespace LbaasState

/-- Ids tell the listeners apart, and the pools. -/
structure Identified (state : LbaasState Address) : Prop where
  listeners : ∀ listener ∈ state.listeners, ∀ other ∈ state.listeners,
    listener.id = other.id → listener = other
  pools : ∀ pool ∈ state.pools, ∀ other ∈ state.pools, pool.id = other.id → pool = other

theorem Known.identified {handler : LoadBalancerHandler Address W} {state : LbaasState Address}
    {world : W} (answers : handler.Answers mayRaise knows supports)
    (known : state.Known knows world) : state.Identified where
  listeners listener listed other otherListed same := by
    have equal := answers.identifies world (.listener listener) (.listener other)
      (known.listeners listener listed) (known.listeners other otherListed) same
    exact Resource.listener.inj equal
  pools pool listed other otherListed same := by
    have equal := answers.identifies world (.pool pool) (.pool other)
      (known.pools pool listed) (known.pools other otherListed) same
    exact Resource.pool.inj equal

/-! ## Lookups -/

theorem get?_lsnrById {state : LbaasState Address} (identified : state.Identified)
    {listener : Listener} (listed : listener ∈ state.listeners) :
    state.lsnrById.get? listener.id = some listener := by
  apply Dict.get?_collect_of_agree listed rfl
  intro other otherListed last gives
  simp only [Option.some.injEq, Prod.mk.injEq] at gives
  obtain ⟨sameId, rfl⟩ := gives
  exact identified.listeners other otherListed listener listed sameId

theorem mem_of_get?_lsnrById {state : LbaasState Address} {id : Nat} {listener : Listener}
    (found : state.lsnrById.get? id = some listener) :
    listener ∈ state.listeners ∧ listener.id = id := by
  obtain ⟨other, listed, gives⟩ := Dict.exists_of_get?_collect found
  simp only [Option.some.injEq, Prod.mk.injEq] at gives
  obtain ⟨rfl, rfl⟩ := gives
  exact ⟨listed, rfl⟩

theorem isSome_get?_lsnrById {state : LbaasState Address} {listener : Listener}
    (listed : listener ∈ state.listeners) : (state.lsnrById.get? listener.id).isSome :=
  Dict.isSome_get?_collect listed rfl

/-- A pool is in the specification if its listener is for one of the ports. -/
theorem isPoolInSpec_iff {state : LbaasState Address} {spec : ServiceSpec Address}
    {pool : Pool} : state.isPoolInSpec spec pool ↔
      ∃ listener ∈ state.listeners, listener.id = pool.listenerId ∧
        ∃ port ∈ spec.ports, listener.isFor port := by
  simp [isPoolInSpec]

/-- The name under which a pool is noted is that of a port of its listener. -/
theorem of_getPortInPool {state : LbaasState Address} {spec : ServiceSpec Address}
    {pool : Pool} {port : PortSpec} (found : state.getPortInPool spec pool = some port) :
    port ∈ spec.ports ∧ ∃ listener ∈ state.listeners, listener.id = pool.listenerId ∧
      listener.isFor port := by
  obtain ⟨listener, listed, matched⟩ := List.exists_of_findSome?_eq_some found
  obtain ⟨member, same⟩ := List.mem_filter.mp listed
  exact ⟨List.mem_of_find?_eq_some matched, listener, member, of_decide_eq_true same,
    List.find?_some matched⟩

/-- The removal pass looks only at pools in the specification. -/
theorem of_get?_specPorts {state : LbaasState Address} {spec : ServiceSpec Address}
    {name : Option String} {poolId : Nat}
    (found : (state.specPorts spec).get? name = some poolId) :
    ∃ pool ∈ state.pools, pool.id = poolId ∧ ∃ port ∈ spec.ports, port.name = name ∧
      ∃ listener ∈ state.listeners, listener.id = pool.listenerId ∧ listener.isFor port := by
  obtain ⟨pool, listed, gives⟩ := Dict.exists_of_get?_collect found
  obtain ⟨port, attached, same⟩ := Option.map_eq_some_iff.mp gives
  simp only [Prod.mk.injEq] at same
  obtain ⟨inSpec, listener, member, isListener, isFor⟩ := of_getPortInPool attached
  exact ⟨pool, listed, same.2, port, inSpec, same.1, listener, member, isListener, isFor⟩

/-! ## What is kept -/

section

variable [DecidableEq Address] (state : LbaasState Address) (spec : ServiceSpec Address)

instance : Decidable (state.Replaced spec) :=
  inferInstanceAs (Decidable (∃ lb ∈ state.loadbalancer, some lb.ip ≠ spec.ip))

/-- The pools that stay: those in the specification, unless the load balancer goes. -/
def keptPools : List Pool :=
  if state.Replaced spec then [] else state.poolsInSpec spec

/-- The listeners that stay. -/
def keptListeners : List Listener :=
  if state.Replaced spec then [] else state.listenersInSpec spec

/-- The members that stay. -/
def KeepsMember (format : AddressFormat Address) (endpoints : Endpoints Address)
    (member : Member Address) : Prop :=
  ¬state.Replaced spec ∧ member ∈ state.members ∧
    endpoints.Targets (state.specPorts spec) (member.target format)

end

end LbaasState

/-! ## The outcome -/

/-- The load balancer, the listeners and the pools that a synchronization leaves. -/
structure Reconciled [DecidableEq Address] (handler : LoadBalancerHandler Address W)
    (supports : String → Bool) (state : LbaasState Address) (spec : ServiceSpec Address)
    (after : LbaasState Address) : Prop where
  addressed : after.Addressed spec
  portless : spec.ports = [] ∨ spec.ip ≠ none
  listeners : ∃ added, after.listeners = state.keptListeners spec ++ added ∧
    ListenersAdded supports handler.drvLbaas.doubleListenersSupported spec.ports
      (state.keptListeners spec) added
  pools : ∃ added, after.pools = state.keptPools spec ++ added ∧
    added.map (·.listenerId) = (after.listeners.filter fun listener =>
      !((state.keptPools spec).map (·.listenerId)).contains listener.id).map (·.id)

/-- The state that `_sync_lbaas_members` leaves. -/
structure Synced [DecidableEq Address] (handler : LoadBalancerHandler Address W)
    (supports : String → Bool) (endpoints : Endpoints Address) (state : LbaasState Address)
    (spec : ServiceSpec Address) (after : LbaasState Address) : Prop
    extends Reconciled handler supports state spec after where
  reachable : spec.ip ≠ none ∨
    spec.ports = [] ∧ handler.securityGroups = .error .k8sResourceNotFound
  groups : ∀ groups, handler.securityGroups = .ok groups →
    ∀ lb ∈ after.loadbalancer, lb.securityGroups = groups
  members : ∃ kept added poolByLsnrPort, after.members = kept ++ added ∧
    (∀ member, member ∈ kept ↔ state.KeepsMember spec handler.format endpoints member) ∧
    after.poolByLsnrPort = .ok poolByLsnrPort ∧
    MembersAdded handler (poolByTgtName poolByLsnrPort spec.ports)
      (kept.map fun member => (handler.format.str member.ip, member.port, member.poolId))
      endpoints.podTargets added

namespace Reconciled

variable [DecidableEq Address] {handler : LoadBalancerHandler Address W}
  {state after : LbaasState Address} {spec : ServiceSpec Address}

/-- The pools that are left have their listeners. -/
theorem linked (reconciled : Reconciled handler supports state spec after)
    (before : ∀ pool ∈ state.pools, ∃ listener ∈ state.listeners,
      listener.id = pool.listenerId) :
    ∀ pool ∈ after.pools, ∃ listener ∈ after.listeners, listener.id = pool.listenerId := by
  obtain ⟨newListeners, listenersAre, _⟩ := reconciled.listeners
  obtain ⟨newPools, poolsAre, poolsAdded⟩ := reconciled.pools
  intro pool listed
  rw [poolsAre] at listed
  rcases List.mem_append.mp listed with old | new
  · unfold LbaasState.keptPools at old
    split at old
    · cases old
    · rename_i kept
      obtain ⟨listener, member, isListener⟩ := before pool (List.mem_of_mem_filter old)
      refine ⟨listener, ?_, isListener⟩
      rw [listenersAre]
      apply List.mem_append_left
      unfold LbaasState.keptListeners
      rw [if_neg kept]
      apply List.mem_filter.mpr ⟨member, _⟩
      rw [List.contains_eq_mem, decide_eq_true_eq, isListener]
      exact List.mem_map_of_mem old
  · have listedId : pool.listenerId ∈ newPools.map (·.listenerId) := List.mem_map_of_mem new
    rw [poolsAdded] at listedId
    obtain ⟨listener, member, isListener⟩ := List.mem_map.mp listedId
    exact ⟨listener, List.mem_of_mem_filter member, isListener⟩

/-- Without ports there are no listeners. -/
theorem listeners_eq_nil (reconciled : Reconciled handler supports state spec after)
    (empty : spec.ports = []) : after.listeners = [] := by
  obtain ⟨newListeners, listenersAre, listenersAdded⟩ := reconciled.listeners
  have nothingKept : state.keptListeners spec = [] := by
    unfold LbaasState.keptListeners
    split
    · rfl
    · apply List.filter_eq_nil_iff.mpr
      intro listener _
      have noPools : state.poolsInSpec spec = [] := by
        apply List.filter_eq_nil_iff.mpr
        intro pool _
        rw [LbaasState.isPoolInSpec_iff, empty]
        rintro ⟨_, _, _, _, ⟨⟩, _⟩
      rw [noPools]
      simp
  have nothingNew : newListeners = [] := by
    apply List.eq_nil_iff_forall_not_mem.mpr
    intro listener listed
    obtain ⟨_, port, member, _⟩ := listenersAdded.wanted listener listed
    rw [empty] at member
    cases member
  rw [listenersAre, nothingKept, nothingNew]
  rfl

/-- The load balancer may change but for its address, and so may the members. -/
theorem of_balanced (reconciled : Reconciled handler supports state spec after)
    {loadbalancer : Option (Loadbalancer Address)} {members : List (Member Address)}
    (missing : loadbalancer = none → after.loadbalancer = none)
    (same : ∀ lb ∈ loadbalancer, ∃ old ∈ after.loadbalancer, old.ip = lb.ip) :
    Reconciled handler supports state spec { after with loadbalancer, members } := by
  constructor
  · unfold LbaasState.Addressed
    cases loadbalancer with
    | none =>
        rcases reconciled.addressed with ⟨lb, there, _⟩ | ⟨_, unaddressed, private_⟩
        · rw [missing rfl] at there
          cases there
        · exact .inr ⟨rfl, unaddressed, private_⟩
    | some lb =>
        obtain ⟨old, there, sameIp⟩ := same lb rfl
        rcases reconciled.addressed with ⟨found, isThere, addressed⟩ | ⟨absent, _⟩
        · rw [isThere] at there
          cases there
          refine .inl ⟨lb, rfl, ?_⟩
          rw [← sameIp]
          exact addressed
        · rw [absent] at there
          cases there
  · exact reconciled.portless
  · exact reconciled.listeners
  · exact reconciled.pools

/-- Without a load balancer there is neither an address nor a port. -/
theorem reachable (reconciled : Reconciled handler supports state spec after)
    (gone : after.loadbalancer = none → handler.securityGroups = .error .k8sResourceNotFound) :
    spec.ip ≠ none ∨
      spec.ports = [] ∧ handler.securityGroups = .error .k8sResourceNotFound := by
  rcases reconciled.addressed with ⟨lb, _, sameIp⟩ | ⟨absent, unaddressed, _⟩
  · left
    rw [← sameIp]
    exact Option.some_ne_none lb.ip
  · exact .inr ⟨reconciled.portless.resolve_right (not_not_intro unaddressed), gone absent⟩

end Reconciled

/-- Only the ports themselves matter, not their order. -/
theorem ListenersAdded.congr {double : Bool} {ports sorted : List PortSpec}
    {before added : List Listener} (adds : ListenersAdded supports double sorted before added)
    (same : ∀ port, port ∈ sorted ↔ port ∈ ports) :
    ListenersAdded supports double ports before added where
  wanted listener listed := by
    obtain ⟨supported, port, member, isFor⟩ := adds.wanted listener listed
    exact ⟨supported, port, (same port).mp member, isFor⟩
  distinct := adds.distinct
  fresh := adds.fresh
  alone := adds.alone
  least single listener listed port member := adds.least single listener listed port
    ((same port).mpr member)
  offered port member supported := adds.offered port ((same port).mpr member) supported

/-- Where all pools have their listener, `pool_by_lsnr_port` is built. -/
theorem poolByLsnrPort_eq_ok {state : LbaasState Address}
    (attached : ∀ pool ∈ state.pools, ∃ listener ∈ state.listeners,
      listener.id = pool.listenerId) :
    state.poolByLsnrPort = .ok (.collect
      (fun pool => (state.lsnrById.get? pool.listenerId).map fun listener =>
        ((listener.protocol, listener.port), pool)) state.pools) := by
  apply if_pos
  rw [List.all_eq_true]
  intro pool listed
  obtain ⟨listener, member, same⟩ := attached pool listed
  rw [decide_eq_true_eq, Dict.mem_iff_isSome, ← same]
  exact LbaasState.isSome_get?_lsnrById member

section

variable {handler : LoadBalancerHandler Address W}
  (answers : handler.Answers mayRaise knows supports)
include answers

theorem syncLbaasSgs_completes (state : LbaasState Address)
    (present : state.loadbalancer ≠ none ∨
      handler.securityGroups = .error .k8sResourceNotFound ∨ mayRaise) :
    (knowledge knows).Completes mayRaise (fun _ => True) (handler.syncLbaasSgs state)
      fun result _ => ∃ loadbalancer, result = { state with loadbalancer } ∧
        (loadbalancer = none → state.loadbalancer = none ∧
          handler.securityGroups = .error .k8sResourceNotFound) ∧
        ∀ lb ∈ loadbalancer, (∃ old ∈ state.loadbalancer, old.ip = lb.ip) ∧
          ∀ groups, handler.securityGroups = .ok groups → lb.securityGroups = groups := by
  unfold LoadBalancerHandler.syncLbaasSgs
  split
  · rename_i groups lb given there
    apply Frame.completes_pure
    intro _ _
    refine ⟨_, rfl, by rintro ⟨⟩, ?_⟩
    rintro _ ⟨⟩
    refine ⟨⟨lb, there, rfl⟩, ?_⟩
    intro other same
    rw [given] at same
    cases same
    rfl
  · rename_i given missing
    apply Frame.completes_throw
    rcases present with there | gone | may
    · exact absurd missing there
    · rw [given] at gone
      cases gone
    · exact may
  · rename_i gone
    apply Frame.completes_pure
    intro _ _
    refine ⟨state.loadbalancer, rfl, fun missing => ⟨missing, gone⟩, ?_⟩
    intro lb there
    refine ⟨⟨lb, there, rfl⟩, ?_⟩
    intro other same
    rw [gone] at same
    cases same
  · rename_i exception other raised
    apply Frame.completes_throw
    exact (answers.securityGroups exception raised).resolve_left other

theorem addNewMembers_completes (endpoints : Endpoints Address) (state : LbaasState Address)
    (spec : ServiceSpec Address)
    (attached : ∀ pool ∈ state.pools, ∃ listener ∈ state.listeners,
      listener.id = pool.listenerId)
    (present : state.loadbalancer ≠ none ∨ (state.listeners = [] ∧
      handler.securityGroups = .error .k8sResourceNotFound) ∨ mayRaise) :
    (knowledge knows).Completes mayRaise (state.Known knows)
      (handler.addNewMembers endpoints state spec) fun result world =>
        result.1.Known knows world ∧ ∃ loadbalancer added poolByLsnrPort,
          result.1 = { state with loadbalancer, members := state.members ++ added } ∧
          (loadbalancer = none → state.loadbalancer = none ∧
            handler.securityGroups = .error .k8sResourceNotFound) ∧
          (∀ lb ∈ loadbalancer, (∃ old ∈ state.loadbalancer, old.ip = lb.ip) ∧
            ∀ groups, handler.securityGroups = .ok groups → lb.securityGroups = groups) ∧
          result.1.poolByLsnrPort = .ok poolByLsnrPort ∧
          MembersAdded handler (poolByTgtName poolByLsnrPort spec.ports)
            (state.members.map fun member =>
              (handler.format.str member.ip, member.port, member.poolId))
            endpoints.podTargets added := by
  unfold LoadBalancerHandler.addNewMembers
  have groups := syncLbaasSgs_completes answers state
    (present.imp_right (Or.imp_left And.right))
  apply (groups.keeping fun _ _ kept known => LbaasState.Known.mono known kept).weaken
    (fun _ known => ⟨trivial, known⟩) |>.bind
  intro synced
  apply Frame.Completes.of_fact
  rintro ⟨loadbalancer, rfl, missing, groups⟩
  have built : LbaasState.poolByLsnrPort { state with loadbalancer } = .ok _ :=
    poolByLsnrPort_eq_ok attached
  apply Frame.Completes.settle_bind
  · intro exception raised
    rw [built] at raised
    cases raised
  · intro pools ran
    have found : ∀ name pool, (poolByTgtName pools spec.ports).get? name = some pool →
        (LbaasState.lsnrById { state with loadbalancer } |>.get? pool.listenerId).isSome ∧
          (loadbalancer ≠ none ∨ mayRaise) := by
      intro name pool named
      obtain ⟨port, _, gives⟩ := Dict.exists_of_get?_collect named
      obtain ⟨other, byPort, same⟩ := Option.map_eq_some_iff.mp gives
      simp only [Prod.mk.injEq] at same
      rw [same.2, ← Except.ok.inj (built.symm.trans ran)] at byPort
      obtain ⟨known, listed, entry⟩ := Dict.exists_of_get?_collect byPort
      obtain ⟨listener, byId, same⟩ := Option.map_eq_some_iff.mp entry
      simp only [Prod.mk.injEq] at same
      rw [← same.2, byId]
      refine ⟨rfl, ?_⟩
      obtain ⟨member, _⟩ := LbaasState.mem_of_get?_lsnrById byId
      rcases present with there | ⟨empty, _⟩ | may
      · exact .inl fun none_ => there (missing none_).1
      · rw [show LbaasState.listeners { state with loadbalancer } = state.listeners from rfl,
          empty] at member
        cases member
      · exact .inr may
    dsimp only
    apply ((addMembers_completes answers _ endpoints.podTargets { state with loadbalancer } false
      found).weaken fun _ known => ⟨known.listeners, known.pools⟩).mono
    rintro result world ⟨known, added, same, adds⟩
    refine ⟨known, loadbalancer, added, pools, same, missing, groups, ?_, adds⟩
    rw [same]
    exact ran

/-! ## The passes together -/

/-- What the passes over pools, listeners and the load balancer leave. -/
structure PoolsSynced [DecidableEq Address] (handler : LoadBalancerHandler Address W)
    (supports : String → Bool) (state : LbaasState Address) (spec : ServiceSpec Address)
    (after : LbaasState Address) : Prop
    extends Reconciled handler supports state spec after where
  members : ∀ member, member ∈ after.members ↔ ¬state.Replaced spec ∧
    member ∈ state.members ∧
      ∀ pool ∈ state.pools, pool.id = member.poolId → state.isPoolInSpec spec pool

theorem addNewListeners_completes (spec : ServiceSpec Address) (state : LbaasState Address)
    (addressed : state.loadbalancer ≠ none ∨ spec.ports = [] ∨ mayRaise) :
    (knowledge knows).Completes mayRaise (state.Known knows)
      (handler.addNewListeners spec state) fun result world =>
        result.1.Known knows world ∧ (spec.ports = [] ∨ state.loadbalancer ≠ none) ∧ ∃ added,
          result.1 = { state with listeners := state.listeners ++ added } ∧
            ListenersAdded supports handler.drvLbaas.doubleListenersSupported spec.ports
              state.listeners added := by
  unfold LoadBalancerHandler.addNewListeners
  have perm := List.mergeSort_perm spec.ports fun port other =>
    decide (port.protocol ≤ other.protocol)
  have empty : spec.ports.mergeSort (fun port other => decide (port.protocol ≤ other.protocol)) = []
      ↔ spec.ports = [] := by
    constructor
    · intro none_
      rw [none_] at perm
      exact perm.nil_eq.symm
    · intro none_
      rw [none_] at perm ⊢
      exact perm.eq_nil
  have sorted : (spec.ports.mergeSort fun port other =>
      decide (port.protocol ≤ other.protocol)).Pairwise
        fun port other => port.protocol ≤ other.protocol := by
    have pairs : (spec.ports.mergeSort fun port other =>
        decide (port.protocol ≤ other.protocol)).Pairwise
          fun port other => decide (port.protocol ≤ other.protocol) = true := by
      apply List.pairwise_mergeSort
      · intro port other third first second
        rw [decide_eq_true_eq] at first second ⊢
        exact le_trans first second
      · intro port other
        rw [Bool.or_eq_true, decide_eq_true_eq, decide_eq_true_eq]
        exact le_total port.protocol other.protocol
    exact pairs.imp of_decide_eq_true
  apply (addListeners_completes answers spec _ sorted state false
    (addressed.imp_right (Or.imp_left empty.mpr))).mono
  rintro result world ⟨known, ported, added, same, adds⟩
  exact ⟨known, ported.imp_left empty.mp, added, same, adds.congr fun port => perm.mem_iff⟩

variable [DecidableEq Address]

theorem syncLbaasListeners_completes (endpoints : Endpoints Address)
    (state : LbaasState Address) (spec : ServiceSpec Address)
    (identifies : ∀ listener ∈ state.listeners, ∀ other ∈ state.listeners,
      listener.id = other.id → listener = other)
    (portless : spec.ip ≠ none ∨ spec.ports = [] ∨ mayRaise) :
    (knowledge knows).Completes mayRaise (state.Known knows)
      (handler.syncLbaasListeners endpoints state spec) fun result world =>
        result.1.Known knows world ∧ result.1.Addressed spec ∧
          (spec.ports = [] ∨ spec.ip ≠ none) ∧ ∃ kept added,
            kept = (if state.Replaced spec then [] else state.listeners.filter fun listener =>
              (state.pools.map (·.listenerId)).contains listener.id) ∧
            ListenersAdded supports handler.drvLbaas.doubleListenersSupported spec.ports
              kept added ∧
            result.1.listeners = kept ++ added ∧
            result.1.pools = (if state.Replaced spec then [] else state.pools) ∧
            result.1.members = (if state.Replaced spec then [] else state.members) := by
  unfold LoadBalancerHandler.syncLbaasListeners
  have removed := (removeUnusedListeners_completes answers identifies).keeping
    fun _ _ kept (known : state.Known knows _) => known.mono kept
  apply (removed.weaken fun _ known => ⟨trivial, known⟩).bind
  intro listened
  apply Frame.Completes.of_fact
  intro same
  have synced := (syncLbaasLoadbalancer_completes answers endpoints listened.1 spec).keeping
    fun _ _ kept (known : state.Known knows _) => known.mono kept
  apply (synced.weaken fun _ known => ⟨trivial, known⟩).bind
  intro balanced
  apply Frame.Completes.of_fact
  rintro ⟨addressed, loadbalancer, servicePubIpInfo, kept, replaced⟩
  have stillThere : listened.1.Replaced spec ↔ state.Replaced spec := by
    rw [same]
    rfl
  have left : balanced.1.listeners = (if state.Replaced spec then [] else
        state.listeners.filter fun listener =>
          (state.pools.map (·.listenerId)).contains listener.id) ∧
      balanced.1.pools = (if state.Replaced spec then [] else state.pools) ∧
      balanced.1.members = (if state.Replaced spec then [] else state.members) := by
    by_cases goes : state.Replaced spec
    · rw [replaced (stillThere.mpr goes), if_pos goes, if_pos goes, if_pos goes]
      exact ⟨rfl, rfl, rfl⟩
    · rw [kept (stillThere.not.mpr goes), same, if_neg goes, if_neg goes, if_neg goes]
      exact ⟨rfl, rfl, rfl⟩
  obtain ⟨listenersLeft, poolsLeft, membersLeft⟩ := left
  have known_ : ∀ world, state.Known knows world → balanced.1.Known knows world := by
    intro world known
    constructor
    · intro listener listed
      rw [listenersLeft] at listed
      split at listed
      · cases listed
      · exact known.listeners listener (List.mem_of_mem_filter listed)
    · intro pool listed
      rw [poolsLeft] at listed
      split at listed
      · cases listed
      · exact known.pools pool listed
  have balancer : balanced.1.loadbalancer ≠ none ∨ spec.ports = [] ∨ mayRaise := by
    rcases addressed with ⟨lb, there, _⟩ | ⟨_, unaddressed, _⟩
    · left
      rw [there]
      exact Option.some_ne_none lb
    · exact .inr (portless.resolve_left (not_not_intro unaddressed))
  apply ((addNewListeners_completes answers spec balanced.1 balancer).weaken known_).bind
  intro added
  apply Frame.completes_pure
  rintro world ⟨known, ported, new, sameAdded, adds⟩
  refine ⟨known, ?_, ?_, _, new, rfl, ?_, ?_, ?_, ?_⟩
  · rw [LbaasState.Addressed, sameAdded]
    exact addressed
  · rcases ported with empty | there
    · exact .inl empty
    · right
      rcases addressed with ⟨lb, _, same_⟩ | ⟨missing, _⟩
      · rw [← same_]
        exact Option.some_ne_none lb.ip
      · exact absurd missing there
  · rw [← listenersLeft]
    exact adds
  · rw [sameAdded, ← listenersLeft]
  · rw [sameAdded, ← poolsLeft]
  · rw [sameAdded, ← membersLeft]

theorem syncLbaasPools_completes (endpoints : Endpoints Address) (state : LbaasState Address)
    (spec : ServiceSpec Address) (identified : state.Identified)
    (portless : spec.ip ≠ none ∨ spec.ports = [] ∨ mayRaise) :
    (knowledge knows).Completes mayRaise (state.Known knows)
      (handler.syncLbaasPools endpoints state spec) fun result world =>
        result.1.Known knows world ∧ PoolsSynced handler supports state spec result.1 := by
  unfold LoadBalancerHandler.syncLbaasPools
  have removed := (removeUnusedPools_completes answers spec identified.pools).keeping
    fun _ _ kept (known : state.Known knows _) => known.mono kept
  apply (removed.weaken fun _ known => ⟨trivial, known⟩).bind
  intro pooled
  apply Frame.Completes.of_fact
  rintro ⟨members, samePooled, kept⟩
  rw [samePooled]
  have listened := syncLbaasListeners_completes answers endpoints
    { state with pools := state.poolsInSpec spec, members } spec identified.listeners portless
  apply (listened.weaken fun _ known =>
    ⟨known.listeners, fun pool listed => known.pools pool (List.mem_of_mem_filter listed)⟩).bind
  intro synced before
  rintro ⟨known, addressed, ported, keptListeners, added, same, adds, listeners, pools, left⟩
  have keptIs : keptListeners = state.keptListeners spec := same
  have poolsAre : synced.1.pools = state.keptPools spec := pools
  apply Frame.Completes.bind (addNewPools_completes answers synced.1) _ before known
  intro result
  apply Frame.completes_pure
  rintro world ⟨knownResult, newPools, sameResult, forListeners⟩
  refine ⟨knownResult, ?_⟩
  rw [sameResult]
  constructor
  · constructor
    · exact addressed
    · exact ported
    · exact ⟨added, by rw [← keptIs]; exact listeners, by rw [← keptIs]; exact adds⟩
    · exact ⟨newPools, by rw [← poolsAre], by rw [← poolsAre]; exact forListeners⟩
  · intro member
    change member ∈ synced.1.members ↔ _
    rw [left]
    change member ∈ (if state.Replaced spec then [] else members) ↔ _
    split
    · rename_i replaced
      simp [replaced]
    · rename_i stays
      rw [kept]
      simp [stays]

/-- `_sync_lbaas_members` leaves what is described, wherever it returns; it returns for
complete endpoints of a service with an address. -/
theorem syncLbaasMembers_completes {endpoints : Endpoints Address}
    {state : LbaasState Address} {spec : ServiceSpec Address} (pods : endpoints.hasPods)
    (consistent : state.Consistent) (complete : endpoints.Complete ∨ mayRaise)
    (reachable : (spec.ip ≠ none ∨ spec.ports = [] ∧
      handler.securityGroups = .error .k8sResourceNotFound) ∨ mayRaise) :
    (knowledge knows).Completes mayRaise (state.Known knows)
      (handler.syncLbaasMembers endpoints state spec) fun result world =>
        result.1.Known knows world ∧
          Synced handler supports endpoints state spec result.1 := by
  intro before known
  have identified := known.identified answers
  have subsets : endpoints.subsets ≠ none := by
    intro none_
    unfold Endpoints.hasPods at pods
    rw [none_] at pods
    cases pods
  have portless : spec.ip ≠ none ∨ spec.ports = [] ∨ mayRaise := by
    rcases reachable with (there | ⟨empty, _⟩) | may
    · exact .inl there
    · exact .inr (.inl empty)
    · exact .inr (.inr may)
  unfold LoadBalancerHandler.syncLbaasMembers
  rw [if_pos pods]
  have removed := (removeUnusedMembers_completes answers spec subsets complete
    consistent.memberIds).keeping fun _ _ kept (known : state.Known knows _) => known.mono kept
  apply Frame.Completes.bind (removed.weaken fun _ known => ⟨trivial, known⟩) _ before known
  intro first
  apply Frame.Completes.of_fact
  rintro ⟨members, same, targeted⟩
  rw [same]
  have identifiedStill : LbaasState.Identified { state with members } :=
    ⟨identified.listeners, identified.pools⟩
  apply ((syncLbaasPools_completes answers endpoints { state with members } spec
    identifiedStill portless).weaken fun _ known => ⟨known.listeners, known.pools⟩).bind
  rintro second middle ⟨knownSecond, synced⟩
  -- what is kept of the listeners and pools does not depend on the members
  have reconciled : Reconciled handler supports state spec second.1 :=
    ⟨synced.addressed, synced.portless, synced.listeners, synced.pools⟩
  have present : second.1.loadbalancer ≠ none ∨ (second.1.listeners = [] ∧
      handler.securityGroups = .error .k8sResourceNotFound) ∨ mayRaise := by
    rcases synced.addressed with ⟨lb, there, _⟩ | ⟨_, unaddressed, _⟩
    · left
      rw [there]
      exact Option.some_ne_none lb
    · right
      rcases reachable with (there | ⟨empty, gone⟩) | may
      · exact absurd unaddressed there
      · exact .inl ⟨reconciled.listeners_eq_nil empty, gone⟩
      · exact .inr may
  apply Frame.Completes.bind (addNewMembers_completes answers endpoints second.1 spec
    (reconciled.linked consistent.pools) present) _ middle knownSecond
  intro third
  apply Frame.completes_pure
  rintro world ⟨knownThird, loadbalancer, added, pools, sameThird, missing, groups, built, adds⟩
  refine ⟨knownThird, ?_⟩
  have balancer : third.1.loadbalancer = loadbalancer := by rw [sameThird]
  constructor
  · rw [sameThird]
    exact reconciled.of_balanced (fun none_ => (missing none_).1)
      fun lb there => (groups lb there).1
  · apply reconciled.reachable
    intro absent
    cases loadbalancer with
    | none => exact (missing rfl).2
    | some lb =>
        obtain ⟨⟨old, there, _⟩, _⟩ := groups lb rfl
        rw [absent] at there
        cases there
  · intro given same lb there
    rw [balancer] at there
    exact (groups lb there).2 given same
  · refine ⟨second.1.members, added, pools, by rw [sameThird], ?_, built, adds⟩
    intro member
    rw [synced.members]
    unfold LbaasState.KeepsMember
    constructor
    · rintro ⟨stays, listed, _⟩
      obtain ⟨inState, targets⟩ := (targeted member).mp listed
      exact ⟨stays, inState, targets⟩
    · rintro ⟨stays, inState, targets⟩
      refine ⟨stays, (targeted member).mpr ⟨inState, targets⟩, ?_⟩
      intro pool listed isPool
      obtain ⟨subset, _, address, _, port, _, noted, _⟩ := targets
      obtain ⟨other, otherListed, sameId, spec_, inSpec, _, listener, member_, isListener, isFor⟩ :=
        LbaasState.of_get?_specPorts noted
      have equal : pool = other :=
        identified.pools pool listed other otherListed (isPool.trans sameId.symm)
      rw [equal]
      exact LbaasState.isPoolInSpec_iff.mpr
        ⟨listener, member_, isListener, spec_, inSpec, isFor⟩

end

end KuryrKubernetes.Lbaas

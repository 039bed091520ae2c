import KuryrKubernetes.Lbaas.Octavia

/-!
# What is ensured is there

Whatever the answers of Octavia and whatever happens there between two calls, what the driver
returns is at Octavia as it was asked for.
-/

namespace KuryrKubernetes.Lbaas.Octavia

open KuryrKubernetes.Effect

variable {Address : Type} {environment : Environment Address} {neighbours : Neighbours Address}

/-! ## Tries -/

/-- If the program returns, this holds. -/
def Returns {α : Type} (program : OctaviaM Address α) (holds : α → Store Address → Prop) :
    Prop :=
  Leads (fun _ => True) program holds fun _ _ => True

namespace Returns

variable {α β : Type} {holds : α → Store Address → Prop} {then_ : β → Store Address → Prop}

theorem of_pure {value : α} (given : ∀ store, holds value store) :
    Returns (pure value) holds :=
  leads_pure fun store _ => given store

theorem of_throw (ex : PyException) : Returns (throw ex : OctaviaM Address α) holds :=
  leads_throw fun _ _ => trivial

theorem any (program : OctaviaM Address α) : Returns program fun _ _ => True := by
  intro before _
  constructor
  · intro _ _ _
    trivial
  · intro _ _ _
    trivial

theorem bind {program : OctaviaM Address α} {next : α → OctaviaM Address β}
    (head : Returns program holds)
    (tail : ∀ value, Leads (holds value) (next value) then_ fun _ _ => True) :
    Returns (program >>= next) then_ :=
  Leads.bind head tail

/-- What comes first does not matter. -/
theorem after {program : OctaviaM Address α} {next : α → OctaviaM Address β}
    (tail : ∀ value, Returns (next value) then_) : Returns (program >>= next) then_ :=
  (any program).bind tail

theorem tryCatch {program : OctaviaM Address α} {handler : PyException → OctaviaM Address α}
    (head : Returns program holds) (tail : ∀ ex, Returns (handler ex) holds) :
    Returns (tryCatch program handler) holds :=
  Leads.tryCatch head tail

/-- A call, whatever happened before it. -/
theorem call {asks : Asks} {operation : OctaviaM Address α} (given : Returns operation holds) :
    Returns (call environment asks operation) holds := by
  apply after
  intro store
  apply after
  intro _
  exact Effect.leads_serve given (fun _ _ _ => trivial) fun _ _ _ _ => trivial

end Returns

/-- What was found or created is there. -/
def Found {α : Type} (holds : α → Store Address → Prop) (answer : Option α)
    (store : Store Address) : Prop :=
  ∀ value ∈ answer, holds value store

section

variable {α : Type} {holds : α → Store Address → Prop} {create find : OctaviaM Address (Option α)}
  (creates : Returns create (Found holds)) (finds : Returns find (Found holds))
include creates finds

theorem ensure_returns : Returns (ensure create find) (Found holds) := by
  apply creates.tryCatch
  intro ex
  split
  · exact finds
  · exact Returns.of_throw ex

theorem tryProvisioned_returns (loadbalancer : Loadbalancer Address) (turns : Nat) :
    Returns (tryProvisioned environment neighbours loadbalancer create find turns) holds := by
  induction turns with
  | zero => exact Returns.of_throw _
  | succ turns ih =>
      apply Returns.after
      intro _
      have tries : Returns
          (tryCatch (ensure create find) fun ex =>
            if ex = .neutronBadRequest then throw ex
            else if isSdkException ex then pure none else throw ex) (Found holds) := by
        apply (ensure_returns creates finds).tryCatch
        intro ex
        split
        · exact Returns.of_throw ex
        · split
          · exact Returns.of_pure fun _ _ missing => absurd missing (by simp)
          · exact Returns.of_throw ex
      apply tries.bind
      intro result
      cases result with
      | none => exact ih.weaken fun _ _ => trivial
      | some value => exact leads_pure fun _ found => found value rfl

theorem ensureProvisioned_returns (loadbalancer : Loadbalancer Address) :
    Returns (ensureProvisioned environment neighbours loadbalancer create find) holds := by
  apply Returns.after
  intro store
  exact tryProvisioned_returns creates finds loadbalancer _

end

/-- Neutron is asked for the port, and Octavia stays as it is. -/
theorem vipPortId_leads {holds : Store Address → Prop} :
    Leads holds (vipPortId environment) (fun _ => holds) fun _ _ => True := by
  intro store given
  rw [vipPortId, exec_get_bind]
  split
  · exact leads_pure (fun _ given => given) store given
  · exact leads_throw (fun _ _ => trivial) store given
  · exact leads_throw (fun _ _ => trivial) store given

/-! ## Listeners -/

/-- The listener is at Octavia as it was asked for. -/
def ListenerThere (requested : Nat → Listener) (listener : Listener) (store : Store Address) :
    Prop :=
  listener ∈ store.listeners ∧ listener = requested listener.id

theorem createListener_returns (listener : Listener) :
    Returns (createListener environment listener)
      (Found (ListenerThere fun id => { listener with id })) := by
  have creates : Returns
      (Client.createListener environment listener.name listener.projectId
        listener.loadbalancerId listener.protocol listener.port)
      fun id store => { listener with id } ∈ store.listeners := by
    apply Returns.call
    intro before _
    constructor
    · intro id after ran
      cases ran
      simp [Store.addListener]
    · intro _ _ _
      trivial
  apply creates.bind
  intro id
  apply leads_pure
  rintro store there _ ⟨⟩
  exact ⟨there, rfl⟩

theorem findListener_returns (listener : Listener) :
    Returns (findListener environment listener)
      (Found (ListenerThere fun id => { listener with id })) := by
  have lists : Returns
      (Client.listeners environment listener.name listener.projectId listener.loadbalancerId
        listener.protocol listener.port)
      fun found store => ∀ other ∈ found, ListenerThere (fun id => { listener with id }) other store := by
    apply Returns.call
    intro before _
    constructor
    · intro found after ran
      cases ran
      intro other listed
      obtain ⟨there, alike⟩ := List.mem_filter.mp listed
      obtain ⟨sameName, sameProject, sameBalancer, sameProtocol, samePort⟩ :=
        of_decide_eq_true alike
      refine ⟨there, ?_⟩
      rw [← sameName, ← sameProject, ← sameBalancer, ← sameProtocol, ← samePort]
    · intro _ _ _
      trivial
  apply lists.bind
  intro found
  apply leads_pure
  intro store given value isFirst
  obtain ⟨first, listed, rfl⟩ := Option.map_eq_some_iff.mp isFirst
  obtain ⟨there, alike⟩ := given first (List.mem_of_mem_head? listed)
  exact ⟨alike ▸ there, rfl⟩

theorem ensureListener_returns (sgModeCreate : Bool) (loadbalancer : Loadbalancer Address)
    (protocol : String) (port : Nat) :
    Returns (ensureListener environment neighbours sgModeCreate loadbalancer protocol port)
      (Found (ListenerThere (requestedListener loadbalancer protocol port))) := by
  have ensures : Returns
      (tryCatch
        (do
          let result ← ensureProvisioned environment neighbours loadbalancer
            (createListener environment (requestedListener loadbalancer protocol port 0))
            (findListener environment (requestedListener loadbalancer protocol port 0))
          return some result)
        fun ex => if isSdkException ex then pure none else throw ex)
      (Found (ListenerThere (requestedListener loadbalancer protocol port))) := by
    apply Returns.tryCatch
    · apply (ensureProvisioned_returns (createListener_returns _) (findListener_returns _)
        loadbalancer).bind
      intro listener
      apply leads_pure
      rintro store there _ ⟨⟩
      exact there
    · intro ex
      split
      · exact Returns.of_pure fun _ _ missing => absurd missing (by simp)
      · exact Returns.of_throw ex
  apply ensures.bind
  intro result
  cases result with
  | none => exact leads_pure fun _ _ _ missing => absurd missing (by simp)
  | some listener =>
      have kept : Leads
          (Found (ListenerThere (requestedListener loadbalancer protocol port)) (some listener))
          (pure (some listener) : OctaviaM Address (Option Listener))
          (Found (ListenerThere (requestedListener loadbalancer protocol port)))
          fun _ _ => True :=
        leads_pure fun _ found => found
      cases sgModeCreate with
      | false => exact kept
      | true => exact Leads.settle_bind (fun _ _ _ _ => trivial) fun _ _ => kept

/-! ## Pools -/

/-- The pool is at Octavia as it was asked for. -/
def PoolThere (requested : Nat → Pool) (pool : Pool) (store : Store Address) : Prop :=
  pool ∈ store.pools ∧ pool = requested pool.id

theorem createPool_returns (pool : Pool) :
    Returns (createPool environment pool) (Found (PoolThere fun id => { pool with id })) := by
  have creates : Returns
      (Client.createPool environment pool.name pool.projectId pool.listenerId pool.loadbalancerId
        pool.protocol)
      fun id store => { pool with id } ∈ store.pools := by
    apply Returns.call
    intro before _
    constructor
    · intro id after ran
      cases ran
      simp [Store.addPool]
    · intro _ _ _
      trivial
  apply creates.bind
  intro id
  apply leads_pure
  rintro store there _ ⟨⟩
  exact ⟨there, rfl⟩

theorem findPool_returns (pool : Pool) :
    Returns (findPool environment pool) (Found (PoolThere fun id => { pool with id })) := by
  have lists : Returns
      (Client.pools environment pool.name pool.projectId pool.loadbalancerId pool.protocol)
      fun found store => ∀ other ∈ found, other ∈ store.pools ∧
        (other.listenerId = pool.listenerId → other = { pool with id := other.id }) := by
    apply Returns.call
    intro before _
    constructor
    · intro found after ran
      cases ran
      intro other listed
      obtain ⟨there, alike⟩ := List.mem_filter.mp listed
      obtain ⟨sameName, sameProject, sameBalancer, sameProtocol⟩ := of_decide_eq_true alike
      refine ⟨there, fun sameListener => ?_⟩
      rw [← sameName, ← sameProject, ← sameBalancer, ← sameProtocol, ← sameListener]
    · intro _ _ _
      trivial
  apply lists.bind
  intro found
  apply leads_pure
  intro store given value isFirst
  obtain ⟨first, listed, rfl⟩ := Option.map_eq_some_iff.mp isFirst
  obtain ⟨among, sameListener⟩ := List.mem_filter.mp (List.mem_of_mem_head? listed)
  obtain ⟨there, alike⟩ := given first among
  have same := alike (of_decide_eq_true sameListener)
  exact ⟨same ▸ there, rfl⟩

theorem ensurePool_returns (loadbalancer : Loadbalancer Address) (listener : Listener) :
    Returns (ensurePool environment neighbours loadbalancer listener)
      (PoolThere (requestedPool loadbalancer listener)) :=
  ensureProvisioned_returns (createPool_returns _) (findPool_returns _) loadbalancer

/-! ## Members -/

/-- The member is at Octavia as it was asked for. -/
def MemberThere (requested : Nat → Member Address) (member : Member Address)
    (store : Store Address) : Prop :=
  member ∈ store.members ∧ member = requested member.id

theorem createMember_returns (member : Member Address) :
    Returns (createMember environment member)
      (Found (MemberThere fun id => { member with id })) := by
  have creates : Returns
      (Client.createMember environment member.poolId member.name member.projectId
        member.subnetId member.ip member.port)
      fun id store => { member with id } ∈ store.members := by
    apply Returns.call
    intro before _
    constructor
    · intro id after ran
      cases ran
      simp [Store.addMember]
    · intro _ _ _
      trivial
  apply creates.bind
  intro id
  apply leads_pure
  rintro store there _ ⟨⟩
  exact ⟨there, rfl⟩

section

variable [DecidableEq Address]

theorem findMember_returns (member : Member Address) :
    Returns (findMember environment member)
      (Found (MemberThere fun id => { member with id })) := by
  have lists : Returns
      (Client.members environment member.poolId member.name member.projectId member.subnetId
        member.ip member.port)
      fun found store => ∀ other ∈ found,
        MemberThere (fun id => { member with id }) other store := by
    apply Returns.call
    intro before _
    constructor
    · intro found after ran
      cases ran
      intro other listed
      obtain ⟨there, alike⟩ := List.mem_filter.mp listed
      obtain ⟨samePool, sameName, sameProject, sameSubnet, sameIp, samePort⟩ :=
        of_decide_eq_true alike
      refine ⟨there, ?_⟩
      rw [← samePool, ← sameName, ← sameProject, ← sameSubnet, ← sameIp, ← samePort]
    · intro _ _ _
      trivial
  apply lists.bind
  intro found
  apply leads_pure
  intro store given value isFirst
  obtain ⟨first, listed, rfl⟩ := Option.map_eq_some_iff.mp isFirst
  obtain ⟨there, alike⟩ := given first (List.mem_of_mem_head? listed)
  exact ⟨alike ▸ there, rfl⟩

theorem ensureMember_returns (format : AddressFormat Address) (enforceSgRules : Bool)
    (loadbalancer : Loadbalancer Address) (request : MemberRequest) :
    Returns (ensureMember environment neighbours format enforceSgRules loadbalancer request)
      (MemberThere (requestedMember format loadbalancer request)) := by
  apply (ensureProvisioned_returns
    (createMember_returns (requestedMember format loadbalancer request 0))
    (findMember_returns (requestedMember format loadbalancer request 0)) loadbalancer).bind
  intro member
  have kept : Leads (MemberThere (requestedMember format loadbalancer request) member)
      (pure member : OctaviaM Address (Member Address))
      (MemberThere (requestedMember format loadbalancer request)) fun _ _ => True :=
    leads_pure fun _ there => there
  cases enforceSgRules with
  | false => exact kept
  | true =>
      cases request.listenerPort with
      | none => exact kept
      | some listenerPort => exact Leads.settle_bind (fun _ _ _ _ => trivial) fun _ _ => kept

/-! ## Load balancers -/

/-- The load balancer is at Octavia, under its name and with its address. -/
def BalancerThere (loadbalancer : Loadbalancer Address) (store : Store Address) : Prop :=
  ∃ lb ∈ store.balancers, lb.id = loadbalancer.id ∧ lb.name = loadbalancer.name ∧
    lb.projectId = loadbalancer.projectId ∧ lb.vipAddress = loadbalancer.ip ∧
    lb.vipSubnetId = loadbalancer.subnetId

/-- The load balancer is the one that was asked for. -/
def Requested (name : ServiceName) (spec : ServiceSpec Address) (ip : Address)
    (loadbalancer : Loadbalancer Address) : Prop :=
  loadbalancer.name = name ∧ loadbalancer.ip = ip ∧ loadbalancer.projectId = spec.projectId ∧
    loadbalancer.subnetId = spec.subnetId ∧ loadbalancer.securityGroups = spec.securityGroupsIds

/-- A load balancer with the id and the port of one at Octavia. -/
def Identified (request loadbalancer : Loadbalancer Address) : Prop :=
  loadbalancer = { request with id := loadbalancer.id, portId := loadbalancer.portId }

omit [DecidableEq Address] in
theorem createLoadbalancer_returns (provider : Option String) (request : Loadbalancer Address) :
    Returns (createLoadbalancer environment provider request)
      (Found fun loadbalancer store =>
        BalancerThere loadbalancer store ∧ Identified request loadbalancer) := by
  have creates : Returns
      (Client.createLoadBalancer environment request.name request.projectId request.ip
        request.subnetId provider)
      fun response store => ∀ portId, BalancerThere { request with id := response.1, portId } store := by
    apply Returns.call
    intro before _
    constructor
    · intro id after ran portId
      cases ran
      exact ⟨_, List.mem_append_right _ List.mem_cons_self, rfl, rfl, rfl, rfl, rfl⟩
    · intro _ _ _
      trivial
  apply creates.bind
  intro response
  apply vipPortId_leads.bind
  intro portId
  split
  · exact leads_pure fun _ _ _ missing => absurd missing (by simp)
  · apply leads_pure
    rintro store there _ ⟨⟩
    exact ⟨there portId, rfl⟩

theorem findLoadbalancer_returns (request : Loadbalancer Address) :
    Returns (findLoadbalancer environment neighbours request)
      (Found fun loadbalancer store =>
        BalancerThere loadbalancer store ∧ Identified request loadbalancer) := by
  have lists : Returns
      (Client.loadBalancers environment request.name request.projectId request.ip
        request.subnetId)
      fun found store => ∀ lb ∈ found, ∀ portId,
        BalancerThere { request with id := lb.id, portId } store := by
    apply Returns.call
    intro before _
    constructor
    · intro found after ran
      cases ran
      intro lb listed portId
      obtain ⟨there, alike⟩ := List.mem_filter.mp listed
      exact ⟨lb, there, rfl, of_decide_eq_true alike⟩
    · intro _ _ _
      trivial
  apply lists.bind
  intro found
  cases found with
  | nil => exact leads_pure fun _ _ _ missing => absurd missing (by simp)
  | cons lb rest =>
      apply vipPortId_leads.bind
      intro portId
      split
      · apply Leads.weaken _ fun _ _ => trivial
        apply Returns.after
        exact fun _ => Returns.of_pure fun _ _ missing => absurd missing (by simp)
      · apply leads_pure
        rintro store there _ ⟨⟩
        exact ⟨there lb List.mem_cons_self portId, rfl⟩

theorem ensureLoadbalancer_returns (provider : Option String) (name : ServiceName)
    (spec : ServiceSpec Address) (ip : Address) :
    Returns (ensureLoadbalancer environment neighbours provider name spec ip)
      fun loadbalancer store =>
        BalancerThere loadbalancer store ∧ Requested name spec ip loadbalancer := by
  apply (ensure_returns (createLoadbalancer_returns provider _)
    (findLoadbalancer_returns _)).bind
  intro response
  cases response with
  | none => exact leads_throw fun _ _ => trivial
  | some loadbalancer =>
      apply leads_pure
      intro store found
      obtain ⟨there, identified⟩ := found loadbalancer rfl
      refine ⟨there, ?_⟩
      rw [identified]
      exact ⟨rfl, rfl, rfl, rfl, rfl⟩

end

end KuryrKubernetes.Lbaas.Octavia

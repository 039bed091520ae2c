import KuryrKubernetes.Effect.Serve
import KuryrKubernetes.Lbaas.Handler
import KuryrKubernetes.Lbaas.Release

/-!
# The driver of load balancers

`LBaaSv2Driver` creates what it is asked for, and looks for it where Octavia answers that
there is such a thing already.  It waits for the load balancer before each try.  Before each
call of Octavia anybody may change anything there.
-/

namespace KuryrKubernetes.Lbaas.Octavia

open KuryrKubernetes.Effect
open KuryrKubernetes.Lbaas.Release (ProvisioningStatus)

variable {Address : Type}

/-! ## Octavia -/

/-- A load balancer at Octavia. -/
structure Balancer (Address : Type) where
  id : Nat
  name : ServiceName
  projectId : String
  vipAddress : Address
  vipSubnetId : String
  provider : String
  provisioningStatus : ProvisioningStatus
  deriving DecidableEq

/-- What there is at Octavia, and how many ids it gave out and calls it had. -/
structure Store (Address : Type) where
  balancers : List (Balancer Address) := []
  listeners : List Listener := []
  pools : List Pool := []
  members : List (Member Address) := []
  issued : Nat := 0
  calls : Nat := 0

namespace Store

variable (store : Store Address)

/-- After a call. -/
def called (calls : Nat) : Store Address :=
  { store with calls := calls + 1 }

def addBalancer (lb : Balancer Address) : Store Address :=
  { store with issued := store.issued + 1, balancers := store.balancers ++ [lb] }

def addListener (listener : Listener) : Store Address :=
  { store with issued := store.issued + 1, listeners := store.listeners ++ [listener] }

def addPool (pool : Pool) : Store Address :=
  { store with issued := store.issued + 1, pools := store.pools ++ [pool] }

def addMember (member : Member Address) : Store Address :=
  { store with issued := store.issued + 1, members := store.members ++ [member] }

def withoutListener (id : Nat) : Store Address :=
  { store with listeners := store.listeners.filter (·.id ≠ id) }

/-- Without a load balancer and what belongs to it. -/
def withoutBalancer (id : Nat) : Store Address :=
  { store with
    balancers := store.balancers.filter (·.id ≠ id)
    listeners := store.listeners.filter (·.loadbalancerId ≠ id)
    pools := store.pools.filter (·.loadbalancerId ≠ id)
    members := store.members.filter fun member =>
      ¬store.pools.any fun pool => pool.id = member.poolId ∧ pool.loadbalancerId = id }

/-- Without a pool and its members. -/
def withoutPool (id : Nat) : Store Address :=
  { store with
    pools := store.pools.filter (·.id ≠ id)
    members := store.members.filter (·.poolId ≠ id) }

def withoutMember (id poolId : Nat) : Store Address :=
  { store with
    members := store.members.filter fun member => ¬(member.id = id ∧ member.poolId = poolId) }

end Store

/-- Programs that call Octavia. -/
abbrev OctaviaM (Address α : Type) :=
  Program PyException (Store Address) α

/-- An answer with status code 500. -/
def serverError : PyException :=
  .other "HttpException 500"

/-- `SDKException`. -/
def isSdkException (ex : PyException) : Bool :=
  ex.isSdkException || ex = serverError

/-- Status codes 409 and 500. -/
def okayCode (ex : PyException) : Bool :=
  ex = .neutronConflict || ex = serverError

/-- What a call is for. -/
inductive Asks where
  | status
  | list
  | create
  | delete
  deriving DecidableEq

/-- How the calls end, by their numbers, and what happens at Octavia before them; how often
timers yield that start with a call; what Neutron answers about the VIP port; and the provider
that a load balancer gets. -/
structure Environment (Address : Type) where
  endings : Nat → Asks → Effect.Ending PyException := fun _ _ => .served
  moves : Nat → Store Address → Store Address := fun _ store => store
  yields : Nat → Nat := fun _ => 1
  vipPort : Nat → Except PyException (Option Nat) := fun _ => .ok (some 0)
  providerOf : Option String → String := fun provider => provider.getD "amphora"

variable (environment : Environment Address)

/-- A call of Octavia. -/
def call {α : Type} (asks : Asks) (operation : OctaviaM Address α) : OctaviaM Address α := do
  let store : Store Address ← get
  set ((environment.moves store.calls store).called store.calls)
  Effect.serve (fun _ number => environment.endings number asks) store.calls operation

namespace Client

def createLoadBalancer (name : ServiceName) (projectId : String) (vipAddress : Address)
    (vipSubnetId : String) (provider : Option String) : OctaviaM Address (Nat × String) :=
  call environment .create do
    let store : Store Address ← get
    set (store.addBalancer
      { id := store.issued
        name, projectId, vipAddress, vipSubnetId
        provider := environment.providerOf provider
        provisioningStatus := .other "PENDING_CREATE" })
    return (store.issued, environment.providerOf provider)

/-- The load balancers with these attributes. -/
def loadBalancers [DecidableEq Address] (name : ServiceName) (projectId : String)
    (vipAddress : Address) (vipSubnetId : String) : OctaviaM Address (List (Balancer Address)) :=
  call environment .list do
    return (← get).balancers.filter fun lb =>
      lb.name = name ∧ lb.projectId = projectId ∧ lb.vipAddress = vipAddress ∧
        lb.vipSubnetId = vipSubnetId

/-- The status of a load balancer. -/
def getLoadBalancer (id : Nat) : OctaviaM Address ProvisioningStatus :=
  call environment .status do
    match (← get).balancers.find? (·.id = id) with
    | none => throw .neutronNotFound
    | some lb => return lb.provisioningStatus

def createListener (name : ListenerName) (projectId : String) (loadbalancerId : Nat)
    (protocol : String) (port : Nat) : OctaviaM Address Nat :=
  call environment .create do
    let store : Store Address ← get
    set (store.addListener
      { id := store.issued, name, projectId, loadbalancerId, protocol, port })
    return store.issued

/-- The listeners with these attributes. -/
def listeners (name : ListenerName) (projectId : String) (loadbalancerId : Nat)
    (protocol : String) (port : Nat) : OctaviaM Address (List Listener) :=
  call environment .list do
    return (← get).listeners.filter fun listener =>
      listener.name = name ∧ listener.projectId = projectId ∧
        listener.loadbalancerId = loadbalancerId ∧ listener.protocol = protocol ∧
        listener.port = port

def createPool (name : ListenerName) (projectId : String) (listenerId loadbalancerId : Nat)
    (protocol : String) : OctaviaM Address Nat :=
  call environment .create do
    let store : Store Address ← get
    set (store.addPool
      { id := store.issued, name, projectId, loadbalancerId, listenerId, protocol })
    return store.issued

/-- The pools with these attributes, for any listener. -/
def pools (name : ListenerName) (projectId : String) (loadbalancerId : Nat)
    (protocol : String) : OctaviaM Address (List Pool) :=
  call environment .list do
    return (← get).pools.filter fun pool =>
      pool.name = name ∧ pool.projectId = projectId ∧ pool.loadbalancerId = loadbalancerId ∧
        pool.protocol = protocol

def createMember (poolId : Nat) (name : MemberName) (projectId subnetId : String)
    (address : Address) (protocolPort : Nat) : OctaviaM Address Nat :=
  call environment .create do
    let store : Store Address ← get
    set (store.addMember
      { id := store.issued, name, projectId, poolId, subnetId, ip := address
        port := protocolPort })
    return store.issued

/-- The members of a pool with these attributes. -/
def members [DecidableEq Address] (poolId : Nat) (name : MemberName)
    (projectId subnetId : String) (address : Address) (protocolPort : Nat) :
    OctaviaM Address (List (Member Address)) :=
  call environment .list do
    return (← get).members.filter fun member =>
      member.poolId = poolId ∧ member.name = name ∧ member.projectId = projectId ∧
        member.subnetId = subnetId ∧ member.ip = address ∧ member.port = protocolPort

/-- `delete_load_balancer` with `cascade`. -/
def deleteLoadBalancer (id : Nat) : OctaviaM Address PUnit :=
  call environment .delete do
    let store : Store Address ← get
    if store.balancers.any (·.id = id) then
      set (store.withoutBalancer id)
    else
      throw .neutronNotFound

/-- `delete_listener`. -/
def deleteListener (id : Nat) : OctaviaM Address PUnit :=
  call environment .delete do
    let store : Store Address ← get
    if store.listeners.any (·.id = id) then
      set (store.withoutListener id)
    else
      throw .neutronNotFound

/-- `delete_pool`, with the members of the pool. -/
def deletePool (id : Nat) : OctaviaM Address PUnit :=
  call environment .delete do
    let store : Store Address ← get
    if store.pools.any (·.id = id) then
      set (store.withoutPool id)
    else
      throw .neutronNotFound

/-- `delete_member`. -/
def deleteMember (id poolId : Nat) : OctaviaM Address PUnit :=
  call environment .delete do
    let store : Store Address ← get
    if store.members.any fun member => member.id = id ∧ member.poolId = poolId then
      set (store.withoutMember id poolId)
    else
      throw .neutronNotFound

end Client

/-! ## Tries -/

/-- What the driver calls besides Octavia: Neutron, for `_find_listeners_sg` and for security
groups and their rules, and itself, where a wait releases a load balancer in `ERROR`. -/
structure Neighbours (Address : Type) where
  nestedRelease : Loadbalancer Address → OctaviaM Address PUnit
  listenersSg : Loadbalancer Address → Except PyException (Option String)
  deleteSecurityGroup : String → Except PyException PUnit
  createLbSecurityGroupRule : Loadbalancer Address → Listener → Except PyException PUnit
  applyMembersSecurityGroups : Loadbalancer Address → Pool → Nat → Except PyException PUnit
  deleteListenerRule : Option (Loadbalancer Address) → Listener → Except PyException PUnit

variable (neighbours : Neighbours Address)

/-- The loop of `_wait_for_provisioning`. -/
def awaitActive (loadbalancer : Loadbalancer Address) : Nat → OctaviaM Address PUnit
  | 0 => throw .resourceNotReady
  | turns + 1 => do
      match ← Client.getLoadBalancer environment loadbalancer.id with
      | .active => return ⟨⟩
      | .error => do
          neighbours.nestedRelease loadbalancer
          throw .resourceNotReady
      | .other _ => awaitActive loadbalancer turns

/-- `_wait_for_provisioning`. -/
def waitForProvisioning (loadbalancer : Loadbalancer Address) : OctaviaM Address PUnit := do
  let store ← get
  awaitActive environment neighbours loadbalancer (environment.yields store.calls)

/-- `_ensure`. -/
def ensure {α : Type} (create find : OctaviaM Address (Option α)) :
    OctaviaM Address (Option α) :=
  tryCatch create fun ex => if okayCode ex then find else throw ex

/-- The loop of `_ensure_provisioned`. -/
def tryProvisioned {α : Type} (loadbalancer : Loadbalancer Address)
    (create find : OctaviaM Address (Option α)) : Nat → OctaviaM Address α
  | 0 => throw .resourceNotReady
  | turns + 1 => do
      waitForProvisioning environment neighbours loadbalancer
      let result ← tryCatch (ensure create find) fun ex =>
        if ex = .neutronBadRequest then throw ex
        else if isSdkException ex then pure none else throw ex
      match result with
      | some result => return result
      | none => tryProvisioned loadbalancer create find turns

/-- `_ensure_provisioned`. -/
def ensureProvisioned {α : Type} (loadbalancer : Loadbalancer Address)
    (create find : OctaviaM Address (Option α)) : OctaviaM Address α := do
  let store ← get
  tryProvisioned environment neighbours loadbalancer create find (environment.yields store.calls)

/-- The wait in `_release`. -/
def awaitRelease : Option (Loadbalancer Address) → OctaviaM Address PUnit
  | none => throw .attributeError
  | some loadbalancer => waitForProvisioning environment neighbours loadbalancer

/-- The loop of `_release`. -/
def tryRelease (loadbalancer : Option (Loadbalancer Address))
    (delete : OctaviaM Address PUnit) : Nat → OctaviaM Address PUnit
  | 0 => throw .resourceNotReady
  | turns + 1 => do
      let released ← tryCatch
        (tryCatch (do delete; return true) fun ex =>
          if Release.refuses ex then do
            awaitRelease environment neighbours loadbalancer
            return false
          else throw ex)
        fun ex => if ex = .neutronNotFound then pure true else throw ex
      if released then return ⟨⟩ else tryRelease loadbalancer delete turns

/-- `_release`. -/
def release (loadbalancer : Option (Loadbalancer Address))
    (delete : OctaviaM Address PUnit) : OctaviaM Address PUnit := do
  let store ← get
  tryRelease environment neighbours loadbalancer delete (environment.yields store.calls)

/-! ## Load balancers -/

/-- `_get_vip_port(loadbalancer).id`. -/
def vipPortId : OctaviaM Address Nat := do
  let store ← get
  match environment.vipPort store.calls with
  | .ok (some portId) => return portId
  | .ok none => throw .attributeError
  | .error ex => throw ex

/-- `_create_loadbalancer`: another provider than that of the request is not accepted. -/
def createLoadbalancer (provider : Option String) (request : Loadbalancer Address) :
    OctaviaM Address (Option (Loadbalancer Address)) := do
  let response ← Client.createLoadBalancer environment request.name request.projectId request.ip
    request.subnetId provider
  let portId ← vipPortId environment
  if provider.isSome ∧ provider ≠ some response.2 then return none
  else return some { request with id := response.1, portId }

/-- `_find_loadbalancer`: one in `ERROR` is released. -/
def findLoadbalancer [DecidableEq Address] (request : Loadbalancer Address) :
    OctaviaM Address (Option (Loadbalancer Address)) := do
  let response ← Client.loadBalancers environment request.name request.projectId request.ip
    request.subnetId
  match response with
  | [] => return none
  | osLb :: _ => do
      let portId ← vipPortId environment
      let loadbalancer := { request with id := osLb.id, portId }
      if osLb.provisioningStatus = .error then do
        neighbours.nestedRelease loadbalancer
        return none
      else
        return some loadbalancer

/-- `_wait_for_deletion`. -/
def waitForDeletion (loadbalancer : Loadbalancer Address) : OctaviaM Address PUnit := do
  let store ← get
  awaitGone (environment.yields store.calls)
where
  /-- The loop. -/
  awaitGone : Nat → OctaviaM Address PUnit
    | 0 => return ⟨⟩
    | turns + 1 => do
        let gone ← tryCatch
          (do let _ ← Client.getLoadBalancer environment loadbalancer.id; return false)
          fun ex => if ex = .neutronNotFound then pure true else throw ex
        if gone then return ⟨⟩ else awaitGone turns

/-- `release_loadbalancer`, with the security group of the listeners. -/
def releaseLoadbalancer (loadbalancer : Loadbalancer Address) : OctaviaM Address PUnit := do
  release environment neighbours (some loadbalancer)
    (Client.deleteLoadBalancer environment loadbalancer.id)
  match ← settle (neighbours.listenersSg loadbalancer) with
  | none => return ⟨⟩
  | some sgId => do
      waitForDeletion environment loadbalancer
      tryCatch (settle (neighbours.deleteSecurityGroup sgId)) fun ex =>
        if isSdkException ex then pure ⟨⟩ else throw ex

/-- `ensure_loadbalancer`. -/
def ensureLoadbalancer [DecidableEq Address] (provider : Option String) (name : ServiceName)
    (spec : ServiceSpec Address) (ip : Address) : OctaviaM Address (Loadbalancer Address) := do
  let request : Loadbalancer Address :=
    { id := 0
      projectId := spec.projectId
      name
      ip
      subnetId := spec.subnetId
      portId := 0
      securityGroups := spec.securityGroupsIds }
  let response ← ensure (createLoadbalancer environment provider request)
    (findLoadbalancer environment neighbours request)
  match response with
  | none => throw .resourceNotReady
  | some loadbalancer => return loadbalancer

/-! ## Listeners, pools and members -/

/-- The listener that is asked for, once it has its id. -/
def requestedListener (loadbalancer : Loadbalancer Address) (protocol : String) (port id : Nat) :
    Listener where
  id := id
  projectId := loadbalancer.projectId
  name := { loadbalancer := loadbalancer.name, protocol, port }
  loadbalancerId := loadbalancer.id
  protocol := protocol
  port := port

/-- `_create_listener`. -/
def createListener (listener : Listener) : OctaviaM Address (Option Listener) := do
  let id ← Client.createListener environment listener.name listener.projectId
    listener.loadbalancerId listener.protocol listener.port
  return some { listener with id }

/-- `_find_listener`. -/
def findListener (listener : Listener) : OctaviaM Address (Option Listener) := do
  let response ← Client.listeners environment listener.name listener.projectId
    listener.loadbalancerId listener.protocol listener.port
  return response.head?.map fun osListener => { listener with id := osListener.id }

/-- `ensure_listener`; `create` is `sg_mode`. -/
def ensureListener (sgModeCreate : Bool) (loadbalancer : Loadbalancer Address)
    (protocol : String) (port : Nat) : OctaviaM Address (Option Listener) := do
  let listener := requestedListener loadbalancer protocol port 0
  let result ← tryCatch
    (do
      let result ← ensureProvisioned environment neighbours loadbalancer
        (createListener environment listener) (findListener environment listener)
      return some result)
    fun ex => if isSdkException ex then pure none else throw ex
  match result with
  | none => return none
  | some listener => do
      if sgModeCreate then
        settle (neighbours.createLbSecurityGroupRule loadbalancer listener)
      return some listener

/-- The pool that is asked for, once it has its id. -/
def requestedPool (loadbalancer : Loadbalancer Address) (listener : Listener) (id : Nat) :
    Pool where
  id := id
  projectId := loadbalancer.projectId
  name := listener.name
  loadbalancerId := loadbalancer.id
  listenerId := listener.id
  protocol := listener.protocol

/-- `_create_pool`. -/
def createPool (pool : Pool) : OctaviaM Address (Option Pool) := do
  let id ← Client.createPool environment pool.name pool.projectId pool.listenerId
    pool.loadbalancerId pool.protocol
  return some { pool with id }

/-- `_find_pool`, by listener. -/
def findPool (pool : Pool) : OctaviaM Address (Option Pool) := do
  let response ← Client.pools environment pool.name pool.projectId pool.loadbalancerId
    pool.protocol
  return (response.filter (·.listenerId = pool.listenerId)).head?.map fun osPool =>
    { pool with id := osPool.id }

/-- `ensure_pool`. -/
def ensurePool (loadbalancer : Loadbalancer Address) (listener : Listener) :
    OctaviaM Address Pool :=
  let pool := requestedPool loadbalancer listener 0
  ensureProvisioned environment neighbours loadbalancer (createPool environment pool)
    (findPool environment pool)

/-- The member that is asked for, once it has its id. -/
def requestedMember (format : AddressFormat Address) (loadbalancer : Loadbalancer Address)
    (request : MemberRequest) (id : Nat) : Member Address where
  id := id
  projectId := loadbalancer.projectId
  name :=
    { namespaceName := request.targetRefNamespace
      podName := request.targetRefName
      port := request.port }
  poolId := request.pool.id
  subnetId := request.subnetId
  ip := format.read request.ip
  port := request.port

/-- `_create_member`. -/
def createMember (member : Member Address) : OctaviaM Address (Option (Member Address)) := do
  let id ← Client.createMember environment member.poolId member.name member.projectId
    member.subnetId member.ip member.port
  return some { member with id }

/-- `_find_member`. -/
def findMember [DecidableEq Address] (member : Member Address) :
    OctaviaM Address (Option (Member Address)) := do
  let response ← Client.members environment member.poolId member.name member.projectId
    member.subnetId member.ip member.port
  return response.head?.map fun osMember => { member with id := osMember.id }

/-- `ensure_member`; rules are applied where network policies are enforced. -/
def ensureMember [DecidableEq Address] (format : AddressFormat Address) (enforceSgRules : Bool)
    (loadbalancer : Loadbalancer Address) (request : MemberRequest) :
    OctaviaM Address (Member Address) := do
  let member := requestedMember format loadbalancer request 0
  let result ← ensureProvisioned environment neighbours loadbalancer
    (createMember environment member) (findMember environment member)
  match enforceSgRules, request.listenerPort with
  | true, some listenerPort => do
      settle (neighbours.applyMembersSecurityGroups loadbalancer request.pool listenerPort)
      return result
  | _, _ => return result

/-! ## The driver -/

/-- What is configured. -/
structure Conf where
  doubleListeners : Bool
  provider : Option String
  sgModeCreate : Bool
  enforceSgRules : Bool

/-- `LBaaSv2Driver`. -/
def lbaasv2Driver [DecidableEq Address] (format : AddressFormat Address) (conf : Conf) :
    LbaasDriver Address (Store Address) where
  doubleListenersSupported := conf.doubleListeners
  ensureLoadbalancer name spec ip :=
    ensureLoadbalancer environment neighbours conf.provider name spec ip
  releaseLoadbalancer := releaseLoadbalancer environment neighbours
  ensureListener loadbalancer protocol port _ :=
    ensureListener environment neighbours conf.sgModeCreate loadbalancer protocol port
  releaseListener loadbalancer listener := do
    release environment neighbours loadbalancer (Client.deleteListener environment listener.id)
    settle (neighbours.deleteListenerRule loadbalancer listener)
  ensurePool
    | none, _ => throw .attributeError
    | some loadbalancer, listener => ensurePool environment neighbours loadbalancer listener
  releasePool loadbalancer pool :=
    release environment neighbours loadbalancer (Client.deletePool environment pool.id)
  ensureMember
    | none, _ => throw .attributeError
    | some loadbalancer, request =>
        ensureMember environment neighbours format conf.enforceSgRules loadbalancer request
  releaseMember loadbalancer member :=
    release environment neighbours loadbalancer
      (Client.deleteMember environment member.id member.poolId)

end KuryrKubernetes.Lbaas.Octavia

import KuryrKubernetes.Data.Collect
import KuryrKubernetes.Effect.Returns
import KuryrKubernetes.Lbaas.Objects
import Mathlib.Data.String.Basic

/-!
# Synchronization of a load balancer

`LoadBalancerHandler`: what an event of endpoints does to the load balancer of the
service.  The state of the annotation is passed along; the programs work on the world
behind the drivers.
-/

namespace KuryrKubernetes.Lbaas

open KuryrKubernetes.Data
open KuryrKubernetes.Effect

variable {Address W : Type}

/-! ## Drivers -/

/-- The arguments of `ensure_member`. -/
structure MemberRequest where
  pool : Pool
  subnetId : String
  ip : String
  port : Nat
  targetRefNamespace : String
  targetRefName : String
  listenerPort : Option Nat
  deriving DecidableEq

/-- `LBaaSDriver`. -/
structure LbaasDriver (Address W : Type) where
  doubleListenersSupported : Bool
  ensureLoadbalancer : ServiceName → ServiceSpec Address → Address →
    Program PyException W (Loadbalancer Address)
  releaseLoadbalancer : Loadbalancer Address → Program PyException W PUnit
  ensureListener : Loadbalancer Address → (protocol : String) → (port : Nat) →
    Option ServiceType → Program PyException W (Option Listener)
  releaseListener : Option (Loadbalancer Address) → Listener → Program PyException W PUnit
  ensurePool : Option (Loadbalancer Address) → Listener → Program PyException W Pool
  releasePool : Option (Loadbalancer Address) → Pool → Program PyException W PUnit
  ensureMember : Option (Loadbalancer Address) → MemberRequest →
    Program PyException W (Member Address)
  releaseMember : Option (Loadbalancer Address) → Member Address → Program PyException W PUnit

/-- `ServicePubIpDriver`. -/
structure PubIpDriver (Address W : Type) where
  acquireServicePubIpInfo : ServiceSpec Address → (portId : Nat) →
    Program PyException W (Option (PubIp Address))
  associatePubIp : PubIp Address → (vipPortId : Nat) → Program PyException W PUnit
  disassociatePubIp : PubIp Address → Program PyException W PUnit
  releasePubIp : PubIp Address → Program PyException W PUnit

/-- The writes of the handler to the API server. -/
structure ApiClient (Address W : Type) where
  patchStatus : Address → Program PyException W PUnit
  setLbaasState : LbaasState Address → Program PyException W PUnit

/-- Where members are reached: in the subnet of their pod (`L2`), which is looked up, or
through the subnet of the load balancer. -/
inductive MemberMode where
  | l2 (podSubnet : PodTarget → Except PyException String)
  | l3

/-- What `LoadBalancerHandler` works with while it handles an event: its drivers, and the
answers about the service. -/
structure LoadBalancerHandler (Address W : Type) where
  format : AddressFormat Address
  drvLbaas : LbaasDriver Address W
  drvServicePubIp : PubIpDriver Address W
  api : ApiClient Address W
  memberMode : MemberMode
  securityGroups : Except PyException (List String)
  servicePorts : Except PyException (List PortSpec)

/-! ## Ports, listeners and pools -/

/-- The listener is the one for the port. -/
def Listener.isFor (listener : Listener) (port : PortSpec) : Bool :=
  listener.port = port.port ∧ listener.protocol = port.protocol

namespace LbaasState

/-- `_get_port_in_pool`. -/
def getPortInPool (state : LbaasState Address) (spec : ServiceSpec Address) (pool : Pool) :
    Option PortSpec :=
  (state.listeners.filter (·.id = pool.listenerId)).findSome? fun listener =>
    spec.ports.find? listener.isFor

/-- `_is_pool_in_spec`. -/
def isPoolInSpec (state : LbaasState Address) (spec : ServiceSpec Address) (pool : Pool) : Bool :=
  (state.listeners.filter (·.id = pool.listenerId)).any fun listener =>
    spec.ports.any listener.isFor

/-- `spec_ports`: the pools by the names of their ports. -/
def specPorts (state : LbaasState Address) (spec : ServiceSpec Address) :
    Dict (Option String) Nat :=
  .collect (fun pool => (state.getPortInPool spec pool).map fun port => (port.name, pool.id))
    state.pools

/-- `lsnr_by_id`. -/
def lsnrById (state : LbaasState Address) : Dict Nat Listener :=
  .collect (fun listener => some (listener.id, listener)) state.listeners

/-- `pool_by_lsnr_port`. -/
def poolByLsnrPort (state : LbaasState Address) : Except PyException (Dict (String × Nat) Pool) :=
  if state.pools.all fun pool => pool.listenerId ∈ state.lsnrById then
    .ok (.collect (fun pool => (state.lsnrById.get? pool.listenerId).map fun listener =>
      ((listener.protocol, listener.port), pool)) state.pools)
  else
    .error .keyError

end LbaasState

/-- `pool_by_tgt_name`. -/
def poolByTgtName (poolByLsnrPort : Dict (String × Nat) Pool) (ports : List PortSpec) :
    Dict (Option String) Pool :=
  .collect (fun port => (poolByLsnrPort.get? (port.protocol, port.port)).map (port.name, ·)) ports

/-! ## Targets -/

/-- An element of `current_targets`. -/
structure Target where
  ip : String
  podName : String
  port : Nat
  poolId : Nat
  deriving DecidableEq

/-- The targets of a subset.  Its `ports` are asked for with each address. -/
def Subset.currentTargets (subset : Subset) (specPorts : Dict (Option String) Nat) :
    Except PyException (List Target) :=
  match subset.addresses, subset.ports with
  | none, _ => .error .keyError
  | some [], _ => .ok []
  | some (_ :: _), none => .error .keyError
  | some addresses, some ports =>
      .ok (addresses.flatMap fun address => ports.filterMap fun port =>
        (specPorts.get? port.name).map fun poolId =>
          { ip := address.ip, podName := address.targetName, port := port.port, poolId })

/-- `current_targets` of `_remove_unused_members`. -/
def currentTargets (specPorts : Dict (Option String) Nat) :
    List Subset → Except PyException (List Target)
  | [] => .ok []
  | subset :: rest => do
      let targets ← subset.currentTargets specPorts
      let others ← currentTargets specPorts rest
      return targets ++ others

/-- What a member is there for. -/
def Member.target (format : AddressFormat Address) (member : Member Address) : Target where
  ip := format.str member.ip
  podName := member.name.podName
  port := member.port
  poolId := member.poolId

namespace LoadBalancerHandler

variable (handler : LoadBalancerHandler Address W)

/-! ## What is not used any more -/

/-- `_remove_unused_members`. -/
def removeUnusedMembers (endpoints : Endpoints Address) (state : LbaasState Address)
    (spec : ServiceSpec Address) : Program PyException W (LbaasState Address × Bool) :=
  match endpoints.subsets with
  | none => throw .keyError
  | some subsets => do
      let targets ← settle (currentTargets (state.specPorts spec) subsets)
      let unused := state.members.filter fun member =>
        !targets.contains (member.target handler.format)
      unused.forM (handler.drvLbaas.releaseMember state.loadbalancer)
      let removedIds := unused.map (·.id)
      return ({ state with
        members := state.members.filter fun member => !removedIds.contains member.id },
        !removedIds.isEmpty)

/-- `_remove_unused_pools`. -/
def removeUnusedPools (state : LbaasState Address) (spec : ServiceSpec Address) :
    Program PyException W (LbaasState Address × Bool) := do
  let unused := state.pools.filter fun pool => !state.isPoolInSpec spec pool
  unused.forM (handler.drvLbaas.releasePool state.loadbalancer)
  let removedIds := unused.map (·.id)
  return ({ state with
    pools := state.pools.filter fun pool => !removedIds.contains pool.id
    members := state.members.filter fun member => !removedIds.contains member.poolId },
    !removedIds.isEmpty)

/-- `_remove_unused_listeners`. -/
def removeUnusedListeners (state : LbaasState Address) :
    Program PyException W (LbaasState Address × Bool) := do
  let currentListeners := state.pools.map (·.listenerId)
  let unused := state.listeners.filter fun listener => !currentListeners.contains listener.id
  unused.forM (handler.drvLbaas.releaseListener state.loadbalancer)
  let removedIds := unused.map (·.id)
  return ({ state with
    listeners := state.listeners.filter fun listener => !removedIds.contains listener.id },
    !removedIds.isEmpty)

/-! ## The load balancer -/

/-- The public address, if there is one, is taken off the load balancer. -/
def disassociate (state : LbaasState Address) : Program PyException W PUnit :=
  match state.servicePubIpInfo with
  | some info => handler.drvServicePubIp.disassociatePubIp info
  | none => pure ⟨⟩

/-- The start of `_sync_lbaas_loadbalancer`: a load balancer with another address than
the service is released. -/
def releaseReplaced [DecidableEq Address] (state : LbaasState Address)
    (spec : ServiceSpec Address) : Program PyException W (LbaasState Address × Bool) :=
  match state.loadbalancer with
  | none => return (state, false)
  | some lb =>
      if some lb.ip = spec.ip then
        return (state, false)
      else do
        handler.disassociate state
        handler.drvLbaas.releaseLoadbalancer lb
        return ({ state with loadbalancer := none, pools := [], listeners := [], members := [] },
          true)

/-- The rest of `_sync_lbaas_loadbalancer`. -/
def ensureLoadbalancer (endpoints : Endpoints Address) (state : LbaasState Address)
    (spec : ServiceSpec Address) (changed : Bool) :
    Program PyException W (LbaasState Address × Bool) :=
  match state.loadbalancer, spec.ip, state.servicePubIpInfo with
  | some _, _, _ => return (state, changed)
  | none, some ip, _ => do
      let lb ← handler.drvLbaas.ensureLoadbalancer endpoints.serviceName spec ip
      return ({ state with loadbalancer := some lb }, true)
  | none, none, some info => do
      handler.drvServicePubIp.releasePubIp info
      return ({ state with servicePubIpInfo := none }, true)
  | none, none, none => return (state, changed)

/-- `_sync_lbaas_loadbalancer`. -/
def syncLbaasLoadbalancer [DecidableEq Address] (endpoints : Endpoints Address)
    (state : LbaasState Address) (spec : ServiceSpec Address) :
    Program PyException W (LbaasState Address × Bool) := do
  let released ← handler.releaseReplaced state spec
  handler.ensureLoadbalancer endpoints released.1 spec released.2

/-! ## What is missing -/

/-- The loop of `_add_new_listeners`. -/
def addListeners (spec : ServiceSpec Address) : List PortSpec → LbaasState Address → Bool →
    Program PyException W (LbaasState Address × Bool)
  | [], state, changed => return (state, changed)
  | port :: rest, state, changed =>
      match state.loadbalancer with
      | none => throw .attributeError
      | some lb =>
          if state.listeners.any (·.isFor port) then
            addListeners spec rest state changed
          else if state.listeners.any (·.port = port.port) ∧
              !handler.drvLbaas.doubleListenersSupported then
            addListeners spec rest state changed
          else do
            let listener ← handler.drvLbaas.ensureListener lb port.protocol port.port spec.type
            match listener with
            | some listener =>
                addListeners spec rest
                  { state with listeners := state.listeners ++ [listener] } true
            | none => addListeners spec rest state changed

/-- `_add_new_listeners`. -/
def addNewListeners (spec : ServiceSpec Address) (state : LbaasState Address) :
    Program PyException W (LbaasState Address × Bool) :=
  handler.addListeners spec (spec.ports.mergeSort fun port other => port.protocol ≤ other.protocol)
    state false

/-- The pools of listeners. -/
def ensurePools : List Listener → LbaasState Address →
    Program PyException W (LbaasState Address)
  | [], state => return state
  | listener :: rest, state => do
      let pool ← handler.drvLbaas.ensurePool state.loadbalancer listener
      ensurePools rest { state with pools := state.pools ++ [pool] }

/-- `_add_new_pools`. -/
def addNewPools (state : LbaasState Address) :
    Program PyException W (LbaasState Address × Bool) := do
  let currentListenersIds := state.pools.map (·.listenerId)
  let missing := state.listeners.filter fun listener => !currentListenersIds.contains listener.id
  let state ← handler.ensurePools missing state
  return (state, !missing.isEmpty)

/-! ## New members -/

/-- `_sync_lbaas_sgs`, where a service that is gone changes nothing. -/
def syncLbaasSgs (state : LbaasState Address) : Program PyException W (LbaasState Address) :=
  match handler.securityGroups, state.loadbalancer with
  | .ok groups, some lb =>
      return { state with loadbalancer := some { lb with securityGroups := groups } }
  | .ok _, none => throw .attributeError
  | .error .k8sResourceNotFound, _ => return state
  | .error exception, _ => throw exception

/-- The subnet for a member, if the namespace of its pod is not gone. -/
def memberSubnetId (state : LbaasState Address) (target : PodTarget) :
    Except PyException (Option String) :=
  match handler.memberMode, state.loadbalancer with
  | .l2 podSubnet, _ =>
      match podSubnet target with
      | .ok subnetId => .ok (some subnetId)
      | .error .k8sResourceNotFound => .ok none
      | .error exception => .error exception
  | .l3, some lb => .ok (some lb.subnetId)
  | .l3, none => .error .attributeError

/-- The port of the listener, for the first member of a pool. -/
def listenerPort (lsnrById : Dict Nat Listener) (state : LbaasState Address) (pool : Pool) :
    Except PyException (Option Nat) :=
  if state.members.any (·.poolId = pool.id) then
    .ok none
  else
    match lsnrById.get? pool.listenerId with
    | some listener => .ok (some listener.port)
    | none => .error .keyError

/-- The loops of `_add_new_members`. -/
def addMembers (lsnrById : Dict Nat Listener) (pools : Dict (Option String) Pool)
    (current : List (String × Nat × Nat)) : List PodTarget → LbaasState Address → Bool →
    Program PyException W (LbaasState Address × Bool)
  | [], state, changed => return (state, changed)
  | target :: rest, state, changed =>
      match pools.get? target.port.name with
      | none => addMembers lsnrById pools current rest state changed
      | some pool =>
          if current.contains (target.ip, target.port.port, pool.id) then
            addMembers lsnrById pools current rest state changed
          else do
            let subnetId ← settle (handler.memberSubnetId state target)
            match subnetId with
            | none => addMembers lsnrById pools current rest state changed
            | some subnetId => do
                let listenerPort ← settle (listenerPort lsnrById state pool)
                let member ← handler.drvLbaas.ensureMember state.loadbalancer
                  { pool
                    subnetId
                    ip := target.ip
                    port := target.port.port
                    targetRefNamespace := target.namespaceName
                    targetRefName := target.name
                    listenerPort }
                addMembers lsnrById pools current rest
                  { state with members := state.members ++ [member] } true

/-- `_add_new_members`. -/
def addNewMembers (endpoints : Endpoints Address) (state : LbaasState Address)
    (spec : ServiceSpec Address) : Program PyException W (LbaasState Address × Bool) := do
  let state ← handler.syncLbaasSgs state
  let pools ← settle state.poolByLsnrPort
  let current := state.members.map fun member =>
    (handler.format.str member.ip, member.port, member.poolId)
  handler.addMembers state.lsnrById (poolByTgtName pools spec.ports) current
    endpoints.podTargets state false

/-! ## The whole synchronization -/

section

variable [DecidableEq Address]

/-- `_sync_lbaas_listeners`. -/
def syncLbaasListeners (endpoints : Endpoints Address) (state : LbaasState Address)
    (spec : ServiceSpec Address) : Program PyException W (LbaasState Address × Bool) := do
  let removed ← handler.removeUnusedListeners state
  let synced ← handler.syncLbaasLoadbalancer endpoints removed.1 spec
  let added ← handler.addNewListeners spec synced.1
  return (added.1, removed.2 || synced.2 || added.2)

/-- `_sync_lbaas_pools`. -/
def syncLbaasPools (endpoints : Endpoints Address) (state : LbaasState Address)
    (spec : ServiceSpec Address) : Program PyException W (LbaasState Address × Bool) := do
  let removed ← handler.removeUnusedPools state spec
  let synced ← handler.syncLbaasListeners endpoints removed.1 spec
  let added ← handler.addNewPools synced.1
  return (added.1, removed.2 || synced.2 || added.2)

/-- `_sync_lbaas_members`. -/
def syncLbaasMembers (endpoints : Endpoints Address) (state : LbaasState Address)
    (spec : ServiceSpec Address) : Program PyException W (LbaasState Address × Bool) :=
  if endpoints.hasPods then do
    let removed ← handler.removeUnusedMembers endpoints state spec
    let synced ← handler.syncLbaasPools endpoints removed.1 spec
    let added ← handler.addNewMembers endpoints synced.1 spec
    return (added.1, removed.2 || synced.2 || added.2)
  else
    handler.syncLbaasPools endpoints state spec

end

/-! ## Events -/

/-- `has_port_changes`. -/
def hasPortChanges (servicePorts : List PortSpec) (spec : ServiceSpec Address) : Bool :=
  !(servicePorts.all spec.ports.contains && spec.ports.all servicePorts.contains)

/-- `_should_ignore`. -/
def shouldIgnore (endpoints : Endpoints Address) : Except PyException Bool :=
  match endpoints.lbaasSpec with
  | none => .ok true
  | some spec =>
      if endpoints.hasPods then
        handler.servicePorts.map fun ports => hasPortChanges ports spec
      else
        .ok true

/-- `_update_lb_status`. -/
def updateLbStatus (ipAddr : Address) : Program PyException W PUnit :=
  tryCatch (handler.api.patchStatus ipAddr) fun ex =>
    throw (if ex.isK8sClientException then .resourceNotReady else ex)

/-- The part of `on_present` for the public address of the service. -/
def servePubIp (state : LbaasState Address) (spec : ServiceSpec Address) :
    Program PyException W (LbaasState Address) :=
  match state.servicePubIpInfo, state.loadbalancer with
  | some _, _ => return state
  | none, none => throw .attributeError
  | none, some lb => do
      let acquired ← handler.drvServicePubIp.acquireServicePubIpInfo spec lb.portId
      match acquired with
      | none => return state
      | some info => do
          handler.drvServicePubIp.associatePubIp info lb.portId
          handler.updateLbStatus info.ipAddr
          return { state with servicePubIpInfo := some info }

/-- `on_deleted` with a state. -/
def onDeleted (state : LbaasState Address) : Program PyException W PUnit :=
  match state.loadbalancer with
  | none => throw .attributeError
  | some lb => do
      handler.drvLbaas.releaseLoadbalancer lb
      match state.servicePubIpInfo with
      | some info => handler.drvServicePubIp.releasePubIp info
      | none => pure ⟨⟩

/-- The end of `on_present`: without the object for the annotation all is rolled back. -/
def storeState (state : LbaasState Address) : Program PyException W PUnit :=
  tryCatch (handler.api.setLbaasState state) fun ex =>
    if ex = .k8sResourceNotFound then handler.onDeleted state else throw ex

/-- `on_present`. -/
def onPresent [DecidableEq Address] (endpoints : Endpoints Address) :
    Program PyException W PUnit := do
  let ignored ← settle (handler.shouldIgnore endpoints)
  match ignored, endpoints.lbaasSpec with
  | false, some spec => do
      let synced ← handler.syncLbaasMembers endpoints (endpoints.lbaasState.getD {}) spec
      if synced.2 then do
        let state ← handler.servePubIp synced.1 spec
        handler.storeState state
      else
        pure ⟨⟩
  | _, _ => pure ⟨⟩

end LoadBalancerHandler

end KuryrKubernetes.Lbaas

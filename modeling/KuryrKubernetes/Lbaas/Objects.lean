import KuryrKubernetes.Objects

/-!
# Load balancer objects

What the annotations of an endpoints object hold, and what the handler of load
balancers reads of the endpoints themselves.  Names that the drivers put together from
parts are kept as their parts.
-/

namespace KuryrKubernetes.Lbaas

open KuryrKubernetes.Data

/-- How addresses are read from a text and written to one. -/
structure AddressFormat (Address : Type) where
  read : String → Address
  str : Address → String
  read_str : ∀ address, read (str address) = address

theorem AddressFormat.id_id (text : String) : id (id text) = text :=
  rfl

/-- Texts as addresses. -/
def AddressFormat.text : AddressFormat String where
  read := id
  str := id
  read_str := id_id

/-- `NAMESPACE/NAME`, the name of the load balancer of a service. -/
structure ServiceName where
  namespaceName : String
  name : String
  deriving DecidableEq

/-- `LOADBALANCER:PROTOCOL:PORT`, the name of a listener and of its pool. -/
structure ListenerName where
  loadbalancer : ServiceName
  protocol : String
  port : Nat
  deriving DecidableEq

/-- `NAMESPACE/POD:PORT`, the name of a member. -/
structure MemberName where
  namespaceName : String
  podName : String
  port : Nat
  deriving DecidableEq

/-! ## The state of a load balancer -/

/-- `LBaaSLoadBalancer`. -/
structure Loadbalancer (Address : Type) where
  id : Nat
  projectId : String
  name : ServiceName
  ip : Address
  subnetId : String
  portId : Nat
  securityGroups : List String := []
  deriving DecidableEq

/-- `LBaaSListener`. -/
structure Listener where
  id : Nat
  projectId : String
  name : ListenerName
  loadbalancerId : Nat
  protocol : String
  port : Nat
  deriving DecidableEq

/-- `LBaaSPool`, for a listener. -/
structure Pool where
  id : Nat
  projectId : String
  name : ListenerName
  loadbalancerId : Nat
  listenerId : Nat
  protocol : String
  deriving DecidableEq

/-- `LBaaSMember`. -/
structure Member (Address : Type) where
  id : Nat
  projectId : String
  name : MemberName
  poolId : Nat
  subnetId : String
  ip : Address
  port : Nat
  deriving DecidableEq

/-- `alloc_method` of a public address. -/
inductive AllocMethod where
  | user
  | pool
  deriving DecidableEq

/-- `LBaaSPubIp`. -/
structure PubIp (Address : Type) where
  ipId : Nat
  ipAddr : Address
  allocMethod : AllocMethod
  deriving DecidableEq

/-- `LBaaSState`. -/
structure LbaasState (Address : Type) where
  loadbalancer : Option (Loadbalancer Address) := none
  listeners : List Listener := []
  pools : List Pool := []
  members : List (Member Address) := []
  servicePubIpInfo : Option (PubIp Address) := none
  deriving DecidableEq

/-! ## The specification of a service -/

/-- `LBaaSPortSpec`. -/
structure PortSpec where
  name : Option String := none
  protocol : String
  port : Nat
  targetPort : String
  deriving DecidableEq

inductive ServiceType where
  | clusterIp
  | nodePort
  | loadBalancer
  | externalName
  deriving DecidableEq

/-- `LBaaSServiceSpec`. -/
structure ServiceSpec (Address : Type) where
  ip : Option Address := none
  ports : List PortSpec := []
  projectId : String := ""
  subnetId : String := ""
  securityGroupsIds : List String := []
  type : Option ServiceType := none
  lbIp : Option Address := none
  deriving DecidableEq

/-! ## Endpoints -/

/-- `targetRef`.  A reference to a pod has its namespace and its name. -/
inductive TargetRef where
  | pod (namespaceName name : String)
  | other (name : Option String)
  deriving DecidableEq

/-- `targetRef.name`, empty where there is none. -/
def TargetRef.nameText : TargetRef → String
  | pod _ name => name
  | other name => name.getD ""

/-- An element of `addresses`. -/
structure EndpointAddress where
  ip : String
  targetRef : Option TargetRef := none
  deriving DecidableEq

namespace EndpointAddress

/-- `a.get('targetRef', {}).get('name', '')`. -/
def targetName (address : EndpointAddress) : String :=
  (address.targetRef.map TargetRef.nameText).getD ""

/-- The address is that of a pod. -/
def isPod (address : EndpointAddress) : Bool :=
  match address.targetRef with
  | some (.pod _ _) => true
  | _ => false

end EndpointAddress

/-- An element of `ports`. -/
structure EndpointPort where
  name : Option String := none
  port : Nat
  deriving DecidableEq

/-- An element of `subsets`; both lists may be left out. -/
structure Subset where
  addresses : Option (List EndpointAddress) := none
  ports : Option (List EndpointPort) := none
  deriving DecidableEq

/-- An endpoints object with its annotations. -/
structure Endpoints (Address : Type) where
  namespaceName : String
  name : String
  subsets : Option (List Subset) := none
  lbaasSpec : Option (ServiceSpec Address) := none
  lbaasState : Option (LbaasState Address) := none
  deriving DecidableEq

/-- The address of a pod with one of the ports. -/
structure PodTarget where
  ip : String
  namespaceName : String
  name : String
  port : EndpointPort
  deriving DecidableEq

/-- The ports of the subset at an address, if this is the address of a pod. -/
def EndpointAddress.podTargets (address : EndpointAddress) (ports : List EndpointPort) :
    List PodTarget :=
  match address.targetRef with
  | some (.pod namespaceName name) =>
      ports.map fun port => { ip := address.ip, namespaceName, name, port }
  | _ => []

namespace Endpoints

variable {Address : Type} (endpoints : Endpoints Address)

/-- `_has_pods`. -/
def hasPods : Bool :=
  (endpoints.subsets.getD []).any fun subset =>
    (subset.addresses.getD []).any EndpointAddress.isPod

/-- What the loops of `_add_new_members` come to. -/
def podTargets : List PodTarget :=
  (endpoints.subsets.getD []).flatMap fun subset =>
    (subset.addresses.getD []).flatMap fun address =>
      address.podTargets (subset.ports.getD [])

/-- `get_service_loadbalancer_name` for the endpoints. -/
def serviceName : ServiceName where
  namespaceName := endpoints.namespaceName
  name := endpoints.name

end Endpoints

end KuryrKubernetes.Lbaas

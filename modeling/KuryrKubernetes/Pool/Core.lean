import KuryrKubernetes.Effect.Program
import KuryrKubernetes.Objects
import Mathlib.Data.List.Sort
import Mathlib.Data.String.Basic

/-!
# State of the port pools

The dictionaries kept by `BaseVIFPool`, the Neutron ports behind them, and the
answers that Neutron and the Kubernetes API give while one operation runs.
Operations are programs that keep their state changes when they raise.  The
dictionaries do not exist before `sync_pools` has run, which the methods notice
as an `AttributeError`.
-/

namespace KuryrKubernetes.Pool

open KuryrKubernetes.Data
open KuryrKubernetes.Effect

/-! ## Keys and configuration -/

/-- The tuple `(host, project_id, net_id)`. -/
structure PoolKey where
  host : String
  projectId : String
  netId : Option String
  deriving DecidableEq

/-- The key of one port list of a pool: a sorted tuple of security groups, or
`None` for a port whose groups were not read. -/
abbrev SgKey := Option (List String)

/-- `tuple(sorted(security_groups))`. -/
def sortedGroups (groups : List String) : SgKey :=
  some (groups.insertionSort (· ≤ ·))

theorem mem_of_sortedGroups {groups sorted : List String}
    (same : sortedGroups groups = some sorted) (group : String) :
    group ∈ sorted ↔ group ∈ groups := by
  cases Option.some.inj same
  exact List.mem_insertionSort _

/-- Ports of one pool by security-group key. -/
abbrev PoolPorts := Dict SgKey (List String)

/-- The two pool drivers. -/
inductive Driver where
  | neutron
  | nested
  deriving DecidableEq

/-- The configuration options the pool drivers read. -/
structure Options where
  portsPoolMax : Int := 0
  portsPoolMin : Int := 5
  portsPoolBatch : Int := 10
  portsPoolUpdateFrequency : Int := 20
  portDebug : Bool := false
  resourceTags : List String := []
  deriving DecidableEq

/-- `kl_const.DEVICE_OWNER`. -/
def deviceOwner : String := "compute:kuryr"

/-- `constants.KURYR_PORT_NAME`. -/
def kuryrPortName : String := "kuryr-pool-port"

/-! ## Neutron -/

/-- A Neutron port without its id. -/
structure NeutronPort where
  projectId : String
  networkId : String
  subnetId : String
  securityGroupIds : List String
  deviceOwner : String := deviceOwner
  deviceId : String := ""
  name : String := ""
  tags : List String := []
  isActive : Bool := false
  bindingHostId : Option String := none
  bindingVifType : Option String := none
  deriving DecidableEq

/-- A port with trunk details: the parent of a trunk and its subports with
their segmentation ids. -/
structure ParentPort where
  trunkId : String
  ip : String
  subPorts : List (String × Nat)
  deriving DecidableEq

/-- Trunks as Neutron reports them: a port is a subport of one trunk at most. -/
structure Trunks where
  parentPorts : List ParentPort
  subPortsNodup : ((parentPorts.flatMap ParentPort.subPorts).map Prod.fst).Nodup

namespace Trunks

/-- No trunk exists. -/
def none : Trunks :=
  ⟨[], List.nodup_nil⟩

/-- The subports of all trunks. -/
def subPortIds (trunks : Trunks) : List String :=
  (trunks.parentPorts.flatMap ParentPort.subPorts).map Prod.fst

/-- `NestedVIFPool._get_parent_port_id` followed by `_get_parent_port_ip`. -/
def parentIp (trunks : Trunks) (port : String) : Option String :=
  (trunks.parentPorts.find? fun parent => (parent.subPorts.map Prod.fst).contains port).map
    ParentPort.ip

end Trunks

/-- The calls to Neutron that may fail with an SDK exception. -/
inductive NeutronCall where
  | updateGroups (port : String)
  | updateName (port : String)
  | deletePort (port : String)
  | removeSubport (port : String)
  | createPorts
  | tagPort (port : String)
  | getTrunk (host : String)
  | addTrunkSubports
  deriving DecidableEq

/-- What Neutron and the Kubernetes API answer while one operation runs. -/
structure Answers where
  fails : NeutronCall → Bool := fun _ => false
  trunks : Trunks := Trunks.none
  inUsePorts : List String := []
  networkOfSubnet : String → String := id
  newPortIds : List String := []
  freeVlanIds : List Nat := []
  defaultGroups : List String := []
  vifType : Option String := some "ovs"

/-! ## The pools -/

/-- VIF objects filed under their own port id. -/
structure VifTable where
  dict : Dict String Vif
  keyed : ∀ port vif, dict.get? port = some vif → vif.id = port

namespace VifTable

/-- The table without VIFs. -/
def empty : VifTable :=
  ⟨∅, by simp⟩

/-- `_existing_vifs[vif.id] = vif`. -/
def put (table : VifTable) (vif : Vif) : VifTable where
  dict := table.dict.set vif.id vif
  keyed port other found := by
    rw [Dict.get?_set] at found
    split at found
    · cases found
      exact Eq.symm ‹port = vif.id›
    · exact table.keyed port other found

/-- `del _existing_vifs[port]`. -/
def erase (table : VifTable) (port : String) : VifTable where
  dict := table.dict.erase port
  keyed other vif found := by
    rw [Dict.get?_erase] at found
    split at found
    · contradiction
    · exact table.keyed other vif found

end VifTable

/-- The dictionaries of `BaseVIFPool`. -/
structure Pools where
  availablePortsPools : Dict PoolKey PoolPorts := ∅
  existingVifs : VifTable := VifTable.empty
  recyclablePorts : Dict String PoolKey := ∅
  lastUpdate : Dict PoolKey (Dict SgKey Int) := ∅

/-- A greenthread spawned to populate a pool. -/
structure Population where
  poolKey : PoolKey
  pod : Pod
  subnets : Dict String Network
  securityGroups : List String

/-- The pool driver together with the Neutron ports it works on. -/
structure World where
  pools : Option Pools := none
  recoveredPools : Bool := false
  knownTrunkIds : Dict PoolKey String := ∅
  spawned : List Population := []
  neutron : Dict String NeutronPort := ∅

/-- A pool operation. -/
abbrev PoolM := Program PyException World

end KuryrKubernetes.Pool

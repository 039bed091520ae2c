import KuryrKubernetes.Cni.Interfaces

/-!
# Interfaces of nested pods

`NestedDriver` creates the interface of a pod in the namespace of the node, on the interface
that trunks come in at, moves it to the namespace of the pod and configures it there.  It starts
with the removal of what an earlier try may have left.
-/

namespace KuryrKubernetes.Cni.Links

open KuryrKubernetes.Effect

/-- A `VIFVlanNested` or `VIFMacvlanNested`. -/
structure NestedVif where
  vifName : String
  vlanId : Option Nat
  address : String
  mtu : Nat
  deriving DecidableEq

/-- `_get_iface_create_args` of `VlanDriver` and `MacvlanDriver`. -/
def NestedVif.createArgs (vif : NestedVif) : Kind :=
  match vif.vlanId with
  | some vlanId => .vlan vlanId
  | none => .macvlan "bridge"

/-- What the driver is called with for a pod, and `link_iface`. -/
structure Binding where
  vif : NestedVif
  ifname : String
  netns : String
  linkIface : String
  deriving DecidableEq

/-- The namespace of the pod. -/
def Binding.place (binding : Binding) : Place :=
  .netns binding.netns

variable (environment : Environment)

/-- `_remove_ifaces`. -/
def removeIfaces (place : Place) (ifnames : List String) : KernelM PUnit :=
  ifnames.forM fun ifname => do
    let present ← inInterfaces environment place ifname
    if present then remove environment place ifname else pure ⟨⟩

/-- The part of `connect` in the namespace of the node. -/
def createIface (binding : Binding) : KernelM PUnit := do
  getIpdb environment .host
  let mtu ← getMtu environment .host binding.linkIface
  if mtu ≠ binding.vif.mtu then
    throw (.other "CNIBindingFailure")
  else do
    create environment binding.vif.vifName binding.linkIface binding.vif.createArgs
    moveTo environment binding.vif.vifName binding.netns

/-- The part of `connect` in the namespace of the pod. -/
def configureIface (binding : Binding) : KernelM PUnit := do
  getIpdb environment binding.place
  let present ← inInterfaces environment binding.place binding.vif.vifName
  if present then do
    rename environment binding.place binding.vif.vifName binding.ifname
    setMtu environment binding.place binding.ifname binding.vif.mtu
    setAddress environment binding.place binding.ifname binding.vif.address
    setUp environment binding.place binding.ifname
  else
    throw .keyError

/-- `connect`; what is there is logged when the interface could not be created. -/
def connect (binding : Binding) : KernelM PUnit := do
  getIpdb environment binding.place
  removeIfaces environment binding.place [binding.vif.vifName, binding.ifname]
  getIpdb environment .host
  removeIfaces environment .host [binding.vif.vifName]
  tryCatch (createIface environment binding) fun ex =>
    if ex = eexist then do
      getIpdb environment .host
      getIpdb environment binding.place
      throw ex
    else
      throw ex
  configureIface environment binding

/-- `disconnect`. -/
def disconnect (binding : Binding) : KernelM PUnit := do
  getIpdb environment binding.place
  removeIfaces environment binding.place [binding.vif.vifName, binding.ifname]

end KuryrKubernetes.Cni.Links

import KuryrKubernetes.Effect.Serve
import KuryrKubernetes.Objects

/-!
# The interfaces of a node

What the kernel knows of network interfaces, and the requests for it that the binding drivers
make.  A request is refused, or cut after it took effect, as given by its number; before each
request others may have made theirs.
-/

namespace KuryrKubernetes.Cni.Links

open KuryrKubernetes.Effect

/-! ## Interfaces -/

/-- A network namespace: that of the node, or one at a path. -/
inductive Place where
  | host
  | netns (path : String)
  deriving DecidableEq

/-- What kind of interface it is. -/
inductive Kind where
  | vlan (vlanId : Nat)
  | macvlan (mode : String)
  | device
  deriving DecidableEq

/-- VLAN interfaces on one link have different VLAN ids. -/
def Kind.clashes : Kind → Kind → Bool
  | .vlan vlanId, .vlan other => vlanId = other
  | _, _ => false

/-- An interface; `link` is the interface of the node that it is on. -/
structure Interface where
  place : Place
  name : String
  kind : Kind
  link : Option String
  mtu : Nat
  address : String
  up : Bool
  deriving DecidableEq

/-- The namespaces of pods and the interfaces that there are, and how many requests there have
been. -/
structure Kernel where
  netns : List String
  interfaces : List Interface
  calls : Nat := 0

/-- Programs that make requests. -/
abbrev KernelM :=
  Program PyException Kernel

/-- `NetlinkError` with `EEXIST`. -/
def eexist : PyException :=
  .other "NetlinkError 17"

/-- `NetlinkError` with `ENODEV`. -/
def enodev : PyException :=
  .other "NetlinkError 19"

/-- There is an interface with the name in the namespace. -/
def Interface.isAt (iface : Interface) (place : Place) (name : String) : Bool :=
  iface.place = place ∧ iface.name = name

/-- The interface keeps its link from another of the kind. -/
def Interface.holds (iface : Interface) (kind : Kind) (link : String) : Bool :=
  iface.kind.clashes kind ∧ iface.link = some link

namespace Kernel

variable (kernel : Kernel)

def find? (place : Place) (name : String) : Option Interface :=
  kernel.interfaces.find? (·.isAt place name)

def has (place : Place) (name : String) : Bool :=
  kernel.interfaces.any (·.isAt place name)

def reachable : Place → Bool
  | .host => true
  | .netns path => path ∈ kernel.netns

/-- After a request. -/
def called (calls : Nat) : Kernel :=
  { kernel with calls := calls + 1 }

def add (iface : Interface) : Kernel :=
  { kernel with interfaces := kernel.interfaces ++ [iface] }

def without (place : Place) (name : String) : Kernel :=
  { kernel with interfaces := kernel.interfaces.filter fun iface => !iface.isAt place name }

def change (place : Place) (name : String) (changed : Interface → Interface) : Kernel :=
  { kernel with
    interfaces := kernel.interfaces.map fun iface =>
      if iface.isAt place name then changed iface else iface }

end Kernel

/-! ## Requests -/

/-- How requests end, by their numbers, and what others do before them. -/
structure Environment where
  endings : Nat → Ending PyException := fun _ => .served
  moves : Nat → Kernel → Kernel := fun _ kernel => kernel

variable (environment : Environment)

/-- A request. -/
def request {α : Type} (operation : KernelM α) : KernelM α := do
  let kernel : Kernel ← get
  set ((environment.moves kernel.calls kernel).called kernel.calls)
  serve (fun _ number => environment.endings number) kernel.calls operation

/-- `get_ipdb`. -/
def getIpdb (place : Place) : KernelM PUnit :=
  request environment do
    let kernel : Kernel ← get
    if kernel.reachable place then return ⟨⟩ else throw (.other "FileNotFoundError")

/-- `name in ipdb.interfaces`. -/
def inInterfaces (place : Place) (name : String) : KernelM Bool :=
  request environment do
    let kernel : Kernel ← get
    return kernel.has place name

/-- `iface.remove()`. -/
def remove (place : Place) (name : String) : KernelM PUnit :=
  request environment do
    let kernel : Kernel ← get
    if kernel.has place name then set (kernel.without place name) else throw enodev

/-- `ipdb.interfaces[name].mtu`. -/
def getMtu (place : Place) (name : String) : KernelM Nat :=
  request environment do
    let kernel : Kernel ← get
    match kernel.find? place name with
    | some iface => return iface.mtu
    | none => throw .keyError

/-- `ipdb.create` in the namespace of the node. -/
def create (ifname link : String) (kind : Kind) : KernelM PUnit :=
  request environment do
    let kernel : Kernel ← get
    match kernel.find? .host link with
    | none => throw enodev
    | some lower =>
        if kernel.has .host ifname || kernel.interfaces.any (·.holds kind link) then
          throw eexist
        else
          set (kernel.add
            { place := .host, name := ifname, kind, link := some link, mtu := lower.mtu
              address := "", up := false })

/-- A change of an interface; what it is called afterwards must not be taken. -/
def setLink (place : Place) (name : String) (target : Place) (ifname : String)
    (changed : Interface → Interface) : KernelM PUnit :=
  request environment do
    let kernel : Kernel ← get
    if !kernel.has place name then
      throw enodev
    else if (target, ifname) ≠ (place, name) ∧ kernel.has target ifname then
      throw eexist
    else
      set (kernel.change place name changed)

/-- `iface.net_ns_fd = netns`. -/
def moveTo (name path : String) : KernelM PUnit := do
  getIpdb environment (.netns path)
  setLink environment .host name (.netns path) name fun iface =>
    { iface with place := .netns path, up := false }

/-- `iface.ifname = ifname`. -/
def rename (place : Place) (name ifname : String) : KernelM PUnit :=
  setLink environment place name place ifname fun iface => { iface with name := ifname }

/-- `iface.mtu = mtu`. -/
def setMtu (place : Place) (name : String) (mtu : Nat) : KernelM PUnit :=
  setLink environment place name place name fun iface => { iface with mtu }

/-- `iface.address = address`. -/
def setAddress (place : Place) (name address : String) : KernelM PUnit :=
  setLink environment place name place name fun iface => { iface with address }

/-- `iface.up()`. -/
def setUp (place : Place) (name : String) : KernelM PUnit :=
  setLink environment place name place name fun iface => { iface with up := true }

end KuryrKubernetes.Cni.Links

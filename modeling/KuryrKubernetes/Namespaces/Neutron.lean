import KuryrKubernetes.Data.Dict
import KuryrKubernetes.Effect.Serve
import KuryrKubernetes.Namespaces.KuryrNetwork

/-!
# Networks and subnets in Neutron

`NamespacePodSubnetDriver` makes a network and a subnet for a namespace, unless it finds
them by their names and by the tags that resources of the controller get.
-/

namespace KuryrKubernetes.Namespaces

open KuryrKubernetes.Data
open KuryrKubernetes.Effect

/-- A network of Neutron. -/
structure Network where
  name : String
  projectId : String
  tags : List String := []
  deriving DecidableEq

/-- A subnet of Neutron. -/
structure Subnet where
  name : String
  projectId : String
  networkId : Nat
  cidr : String
  tags : List String := []
  deriving DecidableEq

/-- The patches of a status, by what they write. -/
inductive StatusField where
  | netId
  | subnet
  | router
  | nsLabels
  deriving DecidableEq

/-- What a patch writes. -/
def StatusPatch.field : StatusPatch → StatusField
  | netId _ => .netId
  | subnet _ _ => .subnet
  | router _ => .router
  | nsLabels _ => .nsLabels

/-- The calls of a handling. -/
inductive Call where
  | networks
  | createNetwork
  | tagNetwork
  | subnets
  | getSubnetpoolVersion
  | createSubnet
  | tagSubnet
  | addInterface
  | updateSgRules
  | patchStatus (field : StatusField)
  deriving DecidableEq

/-- Neutron, the statuses that the KuryrNetwork has had, the newest one first, and how calls
end. -/
structure World where
  networks : Dict Nat Network := ∅
  subnets : Dict Nat Subnet := ∅
  attached : List Nat := []
  statuses : List Status := [{}]
  endings : Call → Ending PyException := fun _ => .served

/-- Programs over the world. -/
abbrev WorldM (α : Type) :=
  Program PyException World α

/-- The status of the KuryrNetwork. -/
def World.status (world : World) : Status :=
  world.statuses.headD {}

/-- What is configured: tags for resources, and the router of pods.  The pool of subnets
gives each new one its addresses. -/
structure Config where
  resourceTags : List String
  podRouter : String
  cidrOf : Nat → String

/-! ## The services -/

namespace NeutronClient

/-- The networks with a name and with tags. -/
def networks (name : String) (tags : List String) : WorldM (List (Nat × Network)) :=
  serve World.endings Call.networks do
    let world ← get
    return world.networks.items.filter fun item =>
      item.2.name = name ∧ ∀ tag ∈ tags, tag ∈ item.2.tags

def createNetwork (name projectId : String) : WorldM Nat :=
  serve World.endings Call.createNetwork do
    let world ← get
    set { world with
      networks := world.networks.set world.networks.freshKey { name, projectId } }
    return world.networks.freshKey

def tagNetwork (id : Nat) (tags : List String) : WorldM PUnit :=
  serve World.endings Call.tagNetwork do
    let world ← get
    match world.networks.get? id with
    | none => throw .neutronNotFound
    | some network =>
        set { world with networks := world.networks.set id { network with tags } }

/-- The subnets with a name and with tags. -/
def subnets (name : String) (tags : List String) : WorldM (List (Nat × Subnet)) :=
  serve World.endings Call.subnets do
    let world ← get
    return world.subnets.items.filter fun item =>
      item.2.name = name ∧ ∀ tag ∈ tags, tag ∈ item.2.tags

def createSubnet (name projectId cidr : String) (networkId : Nat) : WorldM Nat :=
  serve World.endings Call.createSubnet do
    let world ← get
    if networkId ∈ world.networks then do
      set { world with
        subnets :=
          world.subnets.set world.subnets.freshKey { name, projectId, networkId, cidr } }
      return world.subnets.freshKey
    else
      throw .neutronNotFound

def tagSubnet (id : Nat) (tags : List String) : WorldM PUnit :=
  serve World.endings Call.tagSubnet do
    let world ← get
    match world.subnets.get? id with
    | none => throw .neutronNotFound
    | some subnet =>
        set { world with subnets := world.subnets.set id { subnet with tags } }

/-- A subnet that is attached already is refused. -/
def addInterfaceToRouter (subnetId : Nat) : WorldM PUnit :=
  serve World.endings Call.addInterface do
    let world ← get
    if subnetId ∈ world.attached then
      throw .neutronBadRequest
    else
      set { world with attached := subnetId :: world.attached }

end NeutronClient

/-! ## The driver -/

/-- `tag_neutron_resources`, which is not insisted on. -/
def tagNeutronResources (config : Config) (setTags : List String → WorldM PUnit) : WorldM PUnit :=
  if config.resourceTags.isEmpty then
    pure ⟨⟩
  else
    tryCatch (setTags config.resourceTags) fun ex =>
      if ex.isSdkException then pure ⟨⟩ else throw ex

namespace NamespacePodSubnetDriver

/-- The name of the network of a namespace. -/
def netName (nsName : String) : String :=
  "ns/" ++ nsName ++ "-net"

/-- The name of the subnet of a namespace. -/
def subnetName (nsName : String) : String :=
  "ns/" ++ nsName ++ "-subnet"

variable (config : Config)

/-- `create_network`. -/
def createNetwork (nsName projectId : String) : WorldM Nat := do
  let networks ← NeutronClient.networks (netName nsName) config.resourceTags
  match networks with
  | entry :: _ => return entry.1
  | [] => do
      let netId ← NeutronClient.createNetwork (netName nsName) projectId
      tagNeutronResources config (NeutronClient.tagNetwork netId)
      return netId

/-- The subnet is created; a conflict is left to a later attempt. -/
def newSubnet (nsName projectId : String) (netId : Nat) : WorldM (Nat × String) := do
  let world ← get
  let cidr := config.cidrOf world.subnets.freshKey
  let subnetId ← tryCatch
    (NeutronClient.createSubnet (subnetName nsName) projectId cidr netId) fun ex =>
      if ex = .neutronConflict then throw .resourceNotReady else throw ex
  return (subnetId, cidr)

/-- `create_subnet`. -/
def createSubnet (nsName projectId : String) (netId : Nat) : WorldM (Nat × String) := do
  let subnets ← NeutronClient.subnets (subnetName nsName) config.resourceTags
  match subnets with
  | entry :: _ => return (entry.1, entry.2.cidr)
  | [] => do
      serve World.endings Call.getSubnetpoolVersion (pure ⟨⟩)
      let subnet ← newSubnet config nsName projectId netId
      tagNeutronResources config (NeutronClient.tagSubnet subnet.1)
      return subnet

/-- `add_subnet_to_router`. -/
def addSubnetToRouter (subnetId : Nat) : WorldM String := do
  tryCatch (NeutronClient.addInterfaceToRouter subnetId) fun ex =>
    if ex = .neutronBadRequest then pure ⟨⟩ else throw ex
  return config.podRouter

end NamespacePodSubnetDriver

/-- `KuryrNetworkHandler` with `NamespacePodSubnetDriver`. -/
def kuryrNetworkHandler (config : Config) : KuryrNetworkHandler World where
  createNetwork := NamespacePodSubnetDriver.createNetwork config
  createSubnet := NamespacePodSubnetDriver.createSubnet config
  addSubnetToRouter := NamespacePodSubnetDriver.addSubnetToRouter config
  updateSgRules _ := serve World.endings Call.updateSgRules (pure ⟨⟩)
  patchStatus patch := serve World.endings (.patchStatus patch.field)
    (modify fun world =>
      { world with statuses := world.status.patch patch :: world.statuses })

end KuryrKubernetes.Namespaces

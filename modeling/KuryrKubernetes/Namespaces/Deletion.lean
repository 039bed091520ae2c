import KuryrKubernetes.Data.Dict
import KuryrKubernetes.Data.Split
import KuryrKubernetes.Effect.Serve
import KuryrKubernetes.Namespaces.KuryrNetwork
import KuryrKubernetes.Transition.Run

/-!
# The deletion of namespaces

`KuryrNetworkHandler.on_finalize` deletes what Neutron has of a namespace and takes the
finalizer off the KuryrNetwork.  A network with ports is not deleted: the ports that are
DOWN are, and the rest is left to a later attempt.  Before each call others may change
Neutron.
-/

namespace KuryrKubernetes.Namespaces.Deletion

open KuryrKubernetes.Data
open KuryrKubernetes.Effect

/-! ## Neutron -/

/-- Identifiers of trunks have no other characters. -/
def isUuidChar (char : Char) : Bool :=
  char.isDigit || ('a' ≤ char && char ≤ 'f') || char = '-'

/-- The identifier of a trunk. -/
structure TrunkId where
  text : List Char
  hex : ∀ char ∈ text, isUuidChar char
  deriving DecidableEq

/-- A port, and the trunk that it is a subport of. -/
structure Port where
  networkId : Nat
  isDown : Bool
  trunkId : Option TrunkId := none
  deriving DecidableEq

/-- What Neutron has.  A subnet has its network, and those with an interface on the router of
the pods are attached.  Networks from `issued` on have not been there yet. -/
structure Neutron where
  networks : List Nat := []
  subnets : Dict Nat Nat := ∅
  attached : List Nat := []
  ports : Dict Nat Port := ∅
  issued : Nat := 0

namespace Neutron

/-- Ports and subnets are those of networks, and only subnets are attached. -/
structure Sound (neutron : Neutron) : Prop where
  ports : ∀ id port, neutron.ports.get? id = some port → port.networkId ∈ neutron.networks
  subnets : ∀ id netId, neutron.subnets.get? id = some netId → netId ∈ neutron.networks
  attached : ∀ id ∈ neutron.attached, id ∈ neutron.subnets
  issued : ∀ netId ∈ neutron.networks, netId < neutron.issued

/-- Neutron may get from one state to the other: a network that was deleted does not come back. -/
structure Evolves (before after : Neutron) : Prop where
  sound : before.Sound → after.Sound
  issued : before.issued ≤ after.issued
  networks : ∀ netId ∈ after.networks, netId ∈ before.networks ∨ before.issued ≤ netId

/-- A network keeps others from deleting it. -/
def InUse (neutron : Neutron) (netId : Nat) : Prop :=
  (∃ item ∈ neutron.ports.items, item.2.networkId = netId) ∨
    ∃ id ∈ neutron.attached, neutron.subnets.get? id = some netId

instance (neutron : Neutron) (netId : Nat) : Decidable (neutron.InUse netId) :=
  inferInstanceAs (Decidable ((∃ item ∈ neutron.ports.items, item.2.networkId = netId) ∨
    ∃ id ∈ neutron.attached, neutron.subnets.get? id = some netId))

/-- Neutron with other ports. -/
def withPorts (neutron : Neutron) (ports : Dict Nat Port) : Neutron :=
  { neutron with ports }

/-- Neutron without a subnet on the router. -/
def detached (neutron : Neutron) (subnetId : Nat) : Neutron :=
  { neutron with attached := neutron.attached.filter (· ≠ subnetId) }

/-- Neutron without a network and its subnets. -/
def withoutNetwork (neutron : Neutron) (netId : Nat) : Neutron :=
  { neutron with
    networks := neutron.networks.filter (· ≠ netId)
    subnets := neutron.subnets.filter fun _ network => network ≠ netId }

/-- Neutron without the ports of a network that pools hold. -/
def unpooled (neutron : Neutron) (pooled : List Nat) (netId : Nat) : Neutron :=
  neutron.withPorts (neutron.ports.filter fun id port => ¬(id ∈ pooled ∧ port.networkId = netId))

end Neutron

/-- What others do in Neutron. -/
structure Others where
  move : Neutron → Neutron
  evolves : ∀ neutron : Neutron, neutron.Evolves (move neutron)

/-- Nobody does anything. -/
def Others.none : Others where
  move := id
  evolves _ := ⟨id, le_refl _, fun _ => .inl⟩

/-- An exception with its text. -/
structure Failure where
  exception : PyException
  text : List Char := []
  deriving DecidableEq

/-- What `NeutronError` has in the answers about interfaces of routers. -/
structure NeutronError where
  type : String
  message : String
  deriving DecidableEq

/-- The calls of an attempt. -/
inductive Call where
  | deletePools
  | removeInterface
  | deleteNetwork
  | ports
  | deletePort (id : Nat)
  | deleteTrunkSubports (id : Nat)
  | deleteSgRules
  | removeFinalizer
  deriving DecidableEq

/-- Neutron, the ports that pools hold, whether the KuryrNetwork has its finalizer, how calls
end, and what others do before each of them.  Neutron may refuse to remove an interface. -/
structure World where
  neutron : Neutron := {}
  pooled : List Nat := []
  finalizer : Bool := true
  interfaceError : Option NeutronError := none
  endings : Call → Ending Failure := fun _ => .served
  others : Call → Others

/-- Programs over the world. -/
abbrev WorldM (α : Type) :=
  Program Failure World α

/-- Others do something, and then the call ends in one of its ways. -/
def call {α : Type} (label : Call) (operation : WorldM α) : WorldM α := do
  modify fun world => { world with neutron := (world.others label).move world.neutron }
  serve World.endings label operation

/-! ## Texts of errors -/

/-- `strip`. -/
def strip (text : List Char) : List Char :=
  (text.dropWhile Char.isWhitespace).rdropWhile Char.isWhitespace

/-- What the driver looks for in the text of an error. -/
def subportNote : List Char :=
  "currently a subport for trunk".toList

/-- The identifier of the trunk, as the driver takes it from the text of an error. -/
def trunkIdIn (text : List Char) : Option (List Char) :=
  (splitText "trunk".toList text)[1]?.map fun piece => strip ((piece.splitOn '.').headD [])

/-- The text of the error about a subport: `origin` is what the client puts before it. -/
def subportText (origin : List Char) (id : Nat) (trunkId : TrunkId) : List Char :=
  origin ++ "Port ".toList ++ Nat.toDigits 10 id ++
    " is currently a subport for trunk ".toList ++ trunkId.text ++ ['.']

/-- What the client puts before the text of an error, its URL among it. -/
structure Origin where
  text : List Char
  other : ¬"trunk".toList <:+: text

/-- The client puts nothing before the text. -/
def Origin.none : Origin where
  text := []
  other := by decide

/-! ## The services -/

namespace NeutronClient

/-- `remove_interface_from_router`. -/
def removeInterfaceFromRouter (subnetId : Nat) : WorldM (Option NeutronError) :=
  call .removeInterface do
    let world ← get
    match world.interfaceError with
    | some error => return some error
    | none => do
        if subnetId ∈ world.neutron.attached then do
          set { world with neutron := world.neutron.detached subnetId }
          return none
        else
          return some { type := "RouterInterfaceNotFoundForSubnet", message := "" }

/-- `delete_network`, with the subnets of the network.  A network that is not there is no
error, and one in use stays. -/
def deleteNetwork (netId : Nat) : WorldM PUnit :=
  call .deleteNetwork do
    let world ← get
    if world.neutron.InUse netId then
      throw { exception := .neutronConflict }
    else
      set { world with neutron := world.neutron.withoutNetwork netId }

/-- The ports of a network that are DOWN. -/
def downPorts (netId : Nat) : WorldM (List Nat) :=
  call .ports do
    let world ← get
    return (world.neutron.ports.items.filter fun item =>
      item.2.isDown ∧ item.2.networkId = netId).map Prod.fst

/-- `delete_port`.  A port that is not there is no error, and a subport stays. -/
def deletePort (origin : Origin) (id : Nat) : WorldM PUnit :=
  call (.deletePort id) do
    let world ← get
    match (world.neutron.ports.get? id).bind Port.trunkId with
    | some trunkId =>
        throw { exception := .neutronConflict, text := subportText origin.text id trunkId }
    | none =>
        set { world with neutron := world.neutron.withPorts (world.neutron.ports.erase id) }

/-- `delete_trunk_subports` with one port. -/
def deleteTrunkSubports (trunkId : List Char) (id : Nat) : WorldM PUnit :=
  call (.deleteTrunkSubports id) do
    let world ← get
    match world.neutron.ports.get? id with
    | none => throw { exception := .neutronNotFound }
    | some port =>
        if port.trunkId.map TrunkId.text = some trunkId then
          set { world with
            neutron := world.neutron.withPorts
              (world.neutron.ports.set id { port with trunkId := none }) }
        else
          throw { exception := .neutronNotFound }

end NeutronClient

/-- `delete_network_pools`: the ports of the network that pools hold. -/
def deleteNetworkPools (netId : Nat) : WorldM PUnit :=
  call .deletePools do
    modify fun world => { world with neutron := world.neutron.unpooled world.pooled netId }

/-- All that is done about security groups when a namespace goes. -/
def deleteNamespaceSgRules : WorldM PUnit :=
  call .deleteSgRules (pure ⟨⟩)

/-- The patch that takes the finalizer off. -/
def removeFinalizer : WorldM PUnit :=
  call .removeFinalizer (modify fun world => { world with finalizer := false })

/-! ## The driver -/

/-- `handle_neutron_errors`. -/
def handleNeutronErrors (method : WorldM (Option NeutronError)) : WorldM PUnit := do
  match ← method with
  | none => pure ⟨⟩
  | some error =>
      if error.type ∈
          ["RouterNotFound", "RouterInterfaceNotFoundForSubnet", "SubnetNotFound"] then
        throw { exception := .neutronNotFound, text := error.message.toList }
      else
        throw
          { exception := .sdkException, text := (error.type ++ ": " ++ error.message).toList }

namespace NamespacePodSubnetDriver

variable (origin : Origin)

/-- The subnet is taken off the router, unless it is off already. -/
def detach (subnetId : Nat) : WorldM PUnit :=
  tryCatch (handleNeutronErrors (NeutronClient.removeInterfaceFromRouter subnetId)) fun failure =>
    if failure.exception = .neutronNotFound then pure ⟨⟩ else throw failure

/-- A port that is a subport is taken off its trunk. -/
def takeOffTrunk (id : Nat) (text : List Char) : WorldM PUnit :=
  match trunkIdIn text with
  | none => throw { exception := .indexError }
  | some trunkId =>
      tryCatch (NeutronClient.deleteTrunkSubports trunkId id) fun failure =>
        if failure.exception = .neutronNotFound then pure ⟨⟩ else throw failure

/-- One port in the loop over the leftover ports. -/
def deleteLeftoverPort (id : Nat) : WorldM PUnit :=
  tryCatch (NeutronClient.deletePort origin id) fun failure =>
    if failure.exception.isSdkException then
      if subportNote <:+: failure.text then takeOffTrunk id failure.text else pure ⟨⟩
    else
      throw failure

/-- What is done about a network in use. -/
def deleteLeftoverPorts (netId : Nat) : WorldM PUnit := do
  let leftoverPorts ← NeutronClient.downPorts netId
  leftoverPorts.forM (deleteLeftoverPort origin)
  throw { exception := .resourceNotReady }

/-- `_delete_namespace_network_resources`. -/
def deleteNamespaceNetworkResources (subnetId : Option Nat) (netId : Nat) : WorldM PUnit := do
  match subnetId with
  | none => pure ⟨⟩
  | some subnetId => detach subnetId
  tryCatch (NeutronClient.deleteNetwork netId) fun failure =>
    if failure.exception = .neutronConflict then deleteLeftoverPorts origin netId
    else throw failure

/-- `delete_namespace_subnet`. -/
def deleteNamespaceSubnet (status : Status) : WorldM PUnit :=
  match status.netId with
  | none => pure ⟨⟩
  | some netId => deleteNamespaceNetworkResources origin status.subnetId netId

end NamespacePodSubnetDriver

/-! ## The handler -/

/-- What `on_finalize` does in Neutron, if the status has a network. -/
def deleteNetworkOf (origin : Origin) (status : Status) : WorldM PUnit :=
  match status.netId with
  | none => pure ⟨⟩
  | some netId => do
      deleteNetworkPools netId
      NamespacePodSubnetDriver.deleteNamespaceSubnet origin status

/-- `on_finalize`, for the status that the event shows. -/
def onFinalize (origin : Origin) : Option Status → WorldM PUnit
  | none => throw { exception := .keyError }
  | some status => do
      deleteNetworkOf origin status
      deleteNamespaceSgRules
      removeFinalizer

/-- The handling of an event. -/
structure Attempt where
  status : Option Status
  endings : Call → Ending Failure
  others : Call → Others
  interfaceError : Option NeutronError := none

/-- The event shows the network of the namespace, if it shows a status at all. -/
def Attempt.Shows (attempt : Attempt) (netId : Nat) : Prop :=
  ∀ status ∈ attempt.status, status.netId = some netId

instance (attempt : Attempt) (netId : Nat) : Decidable (attempt.Shows netId) :=
  inferInstanceAs (Decidable (∀ status ∈ attempt.status, status.netId = some netId))

/-- The world as an attempt finds it. -/
def World.found (world : World) (attempt : Attempt) : World :=
  { world with
    endings := attempt.endings
    others := attempt.others
    interfaceError := attempt.interfaceError }

/-- An attempt to delete the namespace. -/
def step (origin : Origin) : Transition.Step World Attempt :=
  fun world attempt => some (exec (onFinalize origin attempt.status) (world.found attempt)).2

end KuryrKubernetes.Namespaces.Deletion

import KuryrKubernetes.Nested.Ports

/-!
# MACVLAN ports of nested pods

`NestedMacvlanPodVIFDriver`: the addresses of the port of a pod are added to the allowed address
pairs of the port of its node.  Each attempt reads the port of the node anew.
-/

namespace KuryrKubernetes.Nested

open KuryrKubernetes.Effect

/-- A pair in an answer of Neutron. -/
structure AnsweredPair where
  ipAddress : String
  macAddress : PyString
  deriving DecidableEq

/-- The pair that Neutron is sent. -/
def AnsweredPair.sent (pair : AnsweredPair) : AddressPair :=
  ⟨pair.ipAddress, pair.macAddress.text⟩

/-- The port of a node as Neutron answers it. -/
structure VmPort where
  macAddress : PyString
  allowedAddressPairs : List AnsweredPair := []
  revisionNumber : Nat := 0

/-- The address that pairs are made with. -/
def VmPort.macFor (port : VmPort) (macAddress : PyString) : PyString :=
  if macAddress.text = "" then port.macAddress else macAddress

/-- `_add_to_allowed_address_pairs` up to the update: a pair is looked for by the object that
holds its MAC address. -/
def addToAllowedAddressPairs (port : VmPort) (ipAddresses : List String)
    (macAddress : PyString) : Except PyException (List AddressPair) :=
  let mac := port.macFor macAddress
  if ipAddresses = [] then
    .error integrityError
  else if port.allowedAddressPairs.any fun pair =>
      decide (pair.ipAddress ∈ ipAddresses) && pair.macAddress.object == mac.object then
    .error allowedAddressAlreadyPresent
  else
    .ok (port.allowedAddressPairs.map (·.sent) ++ ipAddresses.map fun ip => ⟨ip, mac.text⟩)

/-- The loop of `_remove_from_allowed_address_pairs`: the pairs that are left, and whether one
was removed. -/
def removePairs (mac : String) :
    List String → List AddressPair → Bool → List AddressPair × Bool
  | [], pairs, updated => (pairs, updated)
  | ip :: rest, pairs, updated =>
      if ⟨ip, mac⟩ ∈ pairs then
        removePairs mac rest (pairs.erase ⟨ip, mac⟩) true
      else
        removePairs mac rest pairs updated

/-- `_remove_from_allowed_address_pairs` up to the update: no update where no pair is removed. -/
def removeFromAllowedAddressPairs (port : VmPort) (ipAddresses : List String)
    (macAddress : PyString) : Except PyException (Option (List AddressPair)) :=
  if ipAddresses = [] then
    .error integrityError
  else
    let removed := removePairs (port.macFor macAddress).text ipAddresses
      (port.allowedAddressPairs.map (·.sent)) false
    .ok (if removed.2 then some removed.1 else none)

/-- What is configured and answered during a request. -/
structure MacvlanRequest where
  revUpdateAttempts : Int := 3
  resourceTags : List String := []
  endings : Call → Ending PyException := fun _ => .served
  portRequest : Except PyException Unit := .ok ()
  parentPort : (attempt : Nat) → Except PyException VmPort
  containerIps : List String
  containerMac : PyString
  toVif : (port : Nat) → Except PyException Vif

namespace MacvlanRequest

variable (request : MacvlanRequest)

/-- `_try_update_port` with `_add_to_allowed_address_pairs`: whether the port of the node is
updated, or another attempt is left. -/
def tryUpdatePort (left attempt : Nat) (vmPort : VmPort) : NestedM Bool :=
  tryCatch
    (do
      let addressPairs ← settle
        (addToAllowedAddressPairs vmPort request.containerIps.dedup request.containerMac)
      updatePort request.endings attempt addressPairs
      return true)
    fun ex => if ex.isSdkException ∧ left ≠ 0 then return false else throw ex

/-- The loop of `request_vif`. -/
def requestLoop : (left attempt : Nat) → Option Nat → NestedM (Option Nat)
  | 0, _, containerPort => return containerPort
  | left + 1, attempt, containerPort => do
      let vmPort ← settle (request.parentPort attempt)
      let port ← match containerPort with
        | some port => pure port
        | none => createPort request.endings
      tagNeutronResources request.endings request.resourceTags attempt [port]
      let updated ← request.tryUpdatePort left attempt vmPort
      if updated then
        return some port
      else
        requestLoop left (attempt + 1) (some port)

/-- `request_vif`. -/
def requestVif : NestedM Vif := do
  settle request.portRequest
  let containerPort ← request.requestLoop request.revUpdateAttempts.toNat 1 none
  match containerPort with
  | none => throw .attributeError
  | some port => settle (request.toVif port)

end MacvlanRequest

end KuryrKubernetes.Nested

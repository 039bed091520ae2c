import KuryrKubernetes.Nested.Ports

/-!
# VLAN ports of nested pods

`NestedVlanPodVIFDriver`: one port for a pod, and ports in bulk for a pool.  A port becomes a
subport of the trunk of its node, under a segmentation id.
-/

namespace KuryrKubernetes.Nested

open KuryrKubernetes.Data
open KuryrKubernetes.Effect

/-- The port of a node; it has no trunk details where the node has no trunk. -/
structure ParentPort where
  trunkId : Option String

/-- What is configured and answered during a request. -/
structure VlanRequest where
  segDriver : SegmentationDriver
  resourceTags : List String := []
  endings : Call → Ending PyException := fun _ => .served
  parentPort : Except PyException ParentPort
  portRequest : Except PyException Unit := .ok ()
  toVif : (port vlanId : Nat) → Except PyException Vif

namespace VlanRequest

variable (request : VlanRequest)

/-- `_get_trunk_id`. -/
def getTrunkId (port : ParentPort) : Except PyException String :=
  match port.trunkId with
  | some trunkId => .ok trunkId
  | none => .error .k8sNodeTrunkPortFailure

/-- `_get_in_use_vlan_ids_set`. -/
def getInUseVlanIdsSet (attempt : Nat) (trunkId : String) : NestedM (List Nat) := do
  let subports ← getTrunk request.endings attempt trunkId
  return subports.map (·.segmentationId)

/-- `_get_vlan_id`. -/
def getVlanId (attempt : Nat) (trunkId : String) : NestedM Nat := do
  let vlanIds ← request.getInUseVlanIdsSet attempt trunkId
  allocateSegmentationId request.segDriver vlanIds

/-- `DEFAULT_MAX_RETRY_COUNT`. -/
def defaultMaxRetryCount : Nat := 3

/-- The loop of `_add_subport` in an attempt and those after it.  After a conflict the name
`subport` stands for the list that was sent, which is no port id. -/
def addSubportLoop (trunkId : String) : (left attempt : Nat) → Option Nat → NestedM Nat
  | 0, _, _ => throw .neutronConflict
  | left + 1, attempt, subport => do
      let vlanId ← request.getVlanId attempt trunkId
      let added ← tryCatch
        (do
          addTrunkSubports request.endings attempt trunkId [⟨vlanId, subport⟩]
          return true)
        fun ex => if ex = .neutronConflict ∧ left ≠ 0 then return false else throw ex
      if added then
        return vlanId
      else
        addSubportLoop trunkId left (attempt + 1) none

/-- `_add_subport`. -/
def addSubport (trunkId : String) (subport : Nat) : NestedM Nat :=
  request.addSubportLoop trunkId defaultMaxRetryCount 1 (some subport)

/-- `request_vif`. -/
def requestVif : NestedM Vif := do
  let parentPort ← settle request.parentPort
  let trunkId ← settle (getTrunkId parentPort)
  settle request.portRequest
  let port ← createPort request.endings
  tagNeutronResources request.endings request.resourceTags 0 [port]
  let vlanId ← request.addSubport trunkId port
  settle (request.toVif port vlanId)

/-- The loop of `_create_subports_info`: as many ids as there are. -/
def allocateIds : Nat → List Nat → NestedM (List Nat)
  | 0, _ => return []
  | count + 1, inUse => do
      let allocated ← tryCatch (some <$> allocateSegmentationId request.segDriver inUse) fun ex =>
        if ex = segmentationIdAllocationFailure then return none else throw ex
      match allocated with
      | none => return []
      | some vlanId => do
          let rest ← allocateIds count (vlanId :: inUse)
          return vlanId :: rest

/-- `_create_subports_info`. -/
def createSubportsInfo (trunkId : String) (numPorts : Nat) : NestedM (List Nat) := do
  let inUseVlanIds ← request.getInUseVlanIdsSet 0 trunkId
  settle request.portRequest
  request.allocateIds numPorts inUseVlanIds

/-- The subports are attached, or their ports are deleted: once more where deleting them
failed after a conflict. -/
def attachSubports (trunkId : String) (infos : List SubportInfo) (ports : List Nat) :
    NestedM Bool :=
  tryCatch
    (tryCatch
      (do
        addTrunkSubports request.endings 0 trunkId infos
        return true)
      fun ex =>
        if ex = .neutronConflict then do
          ports.forM (deletePort request.endings 0)
          return false
        else
          throw ex)
    fun ex =>
      if ex.isSdkException then do
        ports.forM (deletePort request.endings 1)
        return false
      else
        throw ex

/-- The VIFs of ports with their segmentation ids. -/
def toVifs : List (Nat × Nat) → Except PyException (List Vif)
  | [] => .ok []
  | (port, vlanId) :: rest => do
      let vif ← request.toVif port vlanId
      let vifs ← toVifs rest
      return vif :: vifs

/-- `request_vifs`. -/
def requestVifs (numPorts : Nat) : NestedM (List Vif) := do
  let parentPort ← settle request.parentPort
  let trunkId ← settle (getTrunkId parentPort)
  let vlanIds ← request.createSubportsInfo trunkId numPorts
  if vlanIds = [] then
    return []
  else do
    let ports ← createPorts request.endings vlanIds.length
    tagNeutronResources request.endings request.resourceTags 0 ports
    let infos := (ports.zip vlanIds).map fun pair => ⟨pair.2, some pair.1⟩
    let attached ← request.attachSubports trunkId infos ports
    if attached then
      settle (request.toVifs (ports.zip vlanIds))
    else
      return []

end VlanRequest

end KuryrKubernetes.Nested

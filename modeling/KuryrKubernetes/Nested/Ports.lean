import KuryrKubernetes.Effect.Serve
import KuryrKubernetes.Objects

/-!
# Ports and segmentation ids of nested pods

What the drivers of nested pods work on: the ports of Neutron, the subports of trunks, and the
segmentation ids that the allocator of kuryr-lib has given out.  Every call may fail, with or
without having taken effect.  A request notes which ports it created and which ids it took.
-/

namespace KuryrKubernetes.Nested

open KuryrKubernetes.Data
open KuryrKubernetes.Effect

/-! ## Calls -/

/-- The calls of a request.  Where a call is repeated, the attempt is told apart. -/
inductive Call where
  | createPort
  | createPorts
  | setTags (port attempt : Nat)
  | getTrunk (attempt : Nat)
  | addTrunkSubports (attempt : Nat)
  | updatePort (attempt : Nat)
  | deletePort (port attempt : Nat)
  deriving DecidableEq

/-- An element of `subports_info`.  A `port_id` that is not the id of a port is `none`. -/
structure SubportInfo where
  segmentationId : Nat
  portId : Option Nat
  deriving DecidableEq

/-- A Python string: its text, and which object it is. -/
structure PyString where
  text : String
  object : Nat
  deriving DecidableEq

/-- An element of `allowed_address_pairs`. -/
structure AddressPair where
  ipAddress : String
  macAddress : String
  deriving DecidableEq

/-- The services behind the drivers.  What was created and allocated is only noted. -/
structure Site where
  ports : List Nat := []
  nextPort : Nat := 0
  trunks : Dict String (List SubportInfo) := ∅
  addressPairs : List AddressPair := []
  taken : List Nat := []
  created : List Nat := []
  allocated : List Nat := []

/-- Programs of the drivers. -/
abbrev NestedM := Program PyException Site

/-- What was created is deleted and what was allocated is released. -/
structure Site.Clean (site : Site) : Prop where
  ports : ∀ port ∈ site.created, port ∉ site.ports
  ids : ∀ id ∈ site.allocated, id ∉ site.taken

/-- The allocator of kuryr-lib hands out ids that are neither in the given set nor taken. -/
structure SegmentationDriver where
  allocate : (inUse taken : List Nat) → Option Nat
  fresh : ∀ inUse taken id, allocate inUse taken = some id → id ∉ inUse ∧ id ∉ taken

/-- `SegmentationIdAllocationFailure`. -/
def segmentationIdAllocationFailure : PyException :=
  .other "SegmentationIdAllocationFailure"

/-- `IntegrityError`. -/
def integrityError : PyException :=
  .other "IntegrityError"

/-- `AllowedAddressAlreadyPresent`. -/
def allowedAddressAlreadyPresent : PyException :=
  .other "AllowedAddressAlreadyPresent"

section

variable (endings : Call → Ending PyException)

/-- A call ends as it is given. -/
def serve {α : Type} (call : Call) (operation : NestedM α) : NestedM α :=
  Effect.serve (fun _ => endings) call operation

/-- The site where some ports more are there. -/
def Site.grown (site : Site) (count : Nat) : Site :=
  { site with
    ports := site.ports ++ List.range' site.nextPort count
    nextPort := site.nextPort + count
    created := site.created ++ List.range' site.nextPort count }

/-- `create_port`. -/
def createPort : NestedM Nat :=
  serve endings .createPort do
    let site ← get
    set (site.grown 1)
    return site.nextPort

/-- `create_ports`, which creates all ports of the request or none. -/
def createPorts (count : Nat) : NestedM (List Nat) :=
  serve endings .createPorts do
    let site ← get
    set (site.grown count)
    return List.range' site.nextPort count

/-- `delete_port`, which ignores a port that is not there. -/
def deletePort (attempt port : Nat) : NestedM PUnit :=
  serve endings (.deletePort port attempt)
    (modify fun site => { site with ports := site.ports.filter (· ≠ port) })

/-- `tag_neutron_resources`: failures of Neutron are ignored. -/
def tagNeutronResources (resourceTags : List String) (attempt : Nat) (ports : List Nat) :
    NestedM PUnit :=
  if resourceTags = [] then
    pure ⟨⟩
  else
    ports.forM fun port =>
      tryCatch (serve endings (.setTags port attempt) (pure ⟨⟩)) fun ex =>
        if ex.isSdkException then pure ⟨⟩ else throw ex

/-- `get_trunk`: the subports of a trunk. -/
def getTrunk (attempt : Nat) (trunkId : String) : NestedM (List SubportInfo) :=
  serve endings (.getTrunk attempt) do
    let site ← get
    match site.trunks.get? trunkId with
    | none => throw .neutronNotFound
    | some subports => return subports

/-- `add_trunk_subports`: all of the subports are attached or none.  A segmentation id is used
once on a trunk. -/
def addTrunkSubports (attempt : Nat) (trunkId : String) (infos : List SubportInfo) :
    NestedM PUnit :=
  serve endings (.addTrunkSubports attempt) do
    let site ← get
    match site.trunks.get? trunkId with
    | none => throw .neutronNotFound
    | some subports =>
        if infos.any (·.portId.isNone) then
          throw .neutronBadRequest
        else if infos.any fun info => subports.any (·.segmentationId = info.segmentationId) then
          throw .neutronConflict
        else
          set { site with trunks := site.trunks.set trunkId (subports ++ infos) }

/-- `update_port` of the parent port. -/
def updatePort (attempt : Nat) (addressPairs : List AddressPair) : NestedM PUnit :=
  serve endings (.updatePort attempt) (modify fun site => { site with addressPairs })

end

/-- The site where a segmentation id is taken. -/
def Site.took (site : Site) (id : Nat) : Site :=
  { site with taken := id :: site.taken, allocated := id :: site.allocated }

/-- `seg_driver.allocate_segmentation_id`. -/
def allocateSegmentationId (segDriver : SegmentationDriver) (inUse : List Nat) : NestedM Nat := do
  let site ← get
  match segDriver.allocate inUse site.taken with
  | none => throw segmentationIdAllocationFailure
  | some id => do
      set (site.took id)
      return id

/-- The site where a request begins: nothing is noted. -/
def begun (site : Site) : Site :=
  { site with
    created := []
    allocated := [] }

theorem clean_begun (site : Site) : (begun site).Clean := by
  constructor
  · rintro port ⟨⟩
  · rintro id ⟨⟩

theorem mem_grown (site : Site) :
    site.nextPort ∈ (site.grown 1).created ∧ site.nextPort ∈ (site.grown 1).ports :=
  ⟨List.mem_append_right _ List.mem_cons_self, List.mem_append_right _ List.mem_cons_self⟩

/-! ## Calls one by one -/

section

variable {endings : Call → Ending PyException} {site : Site}

theorem exec_serve_of_served {α : Type} {call : Call} {operation : NestedM α}
    (served : endings call = .served) :
    exec (serve endings call operation) site = exec operation site :=
  Effect.exec_serve_of_served served

/-- A call without effect returns where it is served. -/
theorem served_of_returns {α : Type} {call : Call} {operation : NestedM α} {value : α}
    {after : Site} (ran : exec (serve endings call operation) site = (.ok value, after)) :
    endings call = .served ∧ exec operation site = (.ok value, after) := by
  cases ending : endings call with
  | served =>
      rw [exec_serve_of_served ending] at ran
      exact ⟨rfl, ran⟩
  | refused exception =>
      have raised : exec (serve endings call operation) site = (.error exception, site) :=
        Effect.exec_serve_of_refused ending
      rw [raised] at ran
      cases ran
  | cut exception =>
      have cut : ∃ raised, exec (serve endings call operation) site =
          (.error raised, (exec operation site).2) := Effect.exec_serve_of_cut ending
      rcases cut with ⟨raised, ended⟩
      rw [ended] at ran
      cases ran

/-- A call that keeps a frame where it is served keeps it however it ends. -/
theorem keeps_serve {α : Type} {frame : Frame Site} {call : Call} {operation : NestedM α}
    (kept : frame.Keeps operation) : frame.Keeps (serve endings call operation) := by
  unfold serve Effect.serve
  apply Frame.keeps_get.bind
  intro _
  split
  · exact kept
  · exact Frame.keeps_throw _
  · apply kept.bind
    intro _
    exact Frame.keeps_throw _

end

end KuryrKubernetes.Nested

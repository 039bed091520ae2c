import KuryrKubernetes.Objects
import KuryrKubernetes.Transition.Keyed
import KuryrKubernetes.Transition.Locked

/-!
# The CNI registry

The watcher process and the requests to the CNI server share a registry of pods.
Sections under the lock of a pod name are a read and a write with the lock held in
between; other reads take no lock.  Everything that is done with one pod name
touches the entry of that name only, so the system of one name comes first and the
registry is the family of these systems.
-/

namespace KuryrKubernetes.Cni

open KuryrKubernetes.Data
open KuryrKubernetes.Transition

/-! ## Entries -/

/-- An entry of the registry. -/
structure Entry where
  pod : Pod
  vifs : Dict String Vif
  containerid : Option String := none
  vifUnplugged : Bool := false
  delReceived : Bool := false
  deriving DecidableEq

/-- The loop of `on_done` comes to an interface whose status changed.  An interface
that the entry lacks ends the loop with a `KeyError`. -/
def statusChanged (old : Dict String Vif) : List (String × Vif) → Bool
  | [] => false
  | (iface, vif) :: rest =>
      match old.get? iface with
      | none => false
      | some known => known.active ≠ vif.active || statusChanged old rest

/-- The locked section of `on_done`. -/
def onDone (pod : Pod) (vifs : Dict String Vif) : Option Entry → Option Entry
  | none => some { pod, vifs }
  | some entry =>
      if statusChanged entry.vifs vifs.items then some { entry with vifs } else some entry

/-- The locked section of `on_deleted`. -/
def onDeleted : Option Entry → Option Entry
  | none => none
  | some entry => if entry.vifUnplugged then none else some { entry with delReceived := true }

/-- The locked section of `add`. -/
def saveContainerid (containerid : String) : Option Entry → Option Entry
  | none => none
  | some entry => some { entry with containerid := some containerid }

/-- The locked section of `delete`. -/
def finishDelete : Option Entry → Option Entry
  | none => none
  | some entry => if entry.delReceived then none else some { entry with vifUnplugged := true }

/-- The check of `delete`: the request is for another container than the one whose
id was saved. -/
def ignoresDelete (entry : Option Entry) (containerid : String) : Bool :=
  match entry.bind Entry.containerid with
  | none => false
  | some saved => saved ≠ "" ∧ saved ≠ containerid

/-! ## Requests -/

/-- Parameters of a CNI request. -/
structure Params where
  namespaceName : String
  name : String
  containerid : String
  ifname : String := "eth0"
  netns : String := ""
  deriving DecidableEq

/-- `_get_pod_name`. -/
def Params.podName (params : Params) : String :=
  params.namespaceName ++ "/" ++ params.name

inductive Command where
  | add
  | delete
  deriving DecidableEq

/-- Arguments of `connect` and `disconnect`. -/
structure DriverCall where
  vif : Vif
  instanceUuid : String
  instanceName : String
  ifname : String
  netns : String
  isDefaultGateway : Bool
  containerid : String
  deriving DecidableEq

/-- The call for one VIF of a pod. -/
def driverCall (params : Params) (pod : Pod) (ifname : String) (vif : Vif) : DriverCall where
  vif := vif
  instanceUuid := pod.uid
  instanceName := pod.name
  ifname := if ifname = defaultIfname then params.ifname else ifname
  netns := params.netns
  isDefaultGateway := ifname = defaultIfname
  containerid := params.containerid

/-- Where a request is. -/
inductive Phase where
  /-- `delete` is about to read the saved containerid. -/
  | checking
  /-- `_do_work` looks for the entry. -/
  | finding
  /-- `_do_work` calls the driver for the remaining VIFs. -/
  | working (pod : Pod) (remaining : List (String × Vif))
  /-- At the locked section. -/
  | locking
  /-- `add` waits for the VIFs to become active. -/
  | waiting
  | ended (result : Except PyException (Option Vif))

/-- The phase in which some VIFs remain to work on. -/
def workLeft (pod : Pod) : List (String × Vif) → Phase
  | [] => .locking
  | remaining => .working pod remaining

/-- A request.  The pod whose sandbox it is for is known to the sender; the server
is told the name only. -/
structure Request where
  command : Command
  params : Params
  podUid : String
  phase : Phase
  calls : List DriverCall := []

/-- A request as it arrives. -/
def Request.arrived (command : Command) (params : Params) (podUid : String) : Request where
  command := command
  params := params
  podUid := podUid
  phase :=
    match command with
    | .add => .finding
    | .delete => .checking

/-- The request in another phase. -/
def Request.at (request : Request) (phase : Phase) : Request :=
  { request with phase }

/-- The request after the call for one VIF. -/
def Request.worked (request : Request) (pod : Pod) (ifname : String) (vif : Vif)
    (rest : List (String × Vif)) : Request :=
  { request with
    phase := workLeft pod rest
    calls := request.calls ++ [driverCall request.params pod ifname vif] }

/-! ## What happened -/

/-- A VIF that is plugged, and the container it was plugged for. -/
structure Plug where
  vifId : String
  containerid : String
  deriving DecidableEq

/-- The three flags of an entry. -/
structure Flags where
  containerid : Option String := none
  vifUnplugged : Bool := false
  delReceived : Bool := false
  deriving DecidableEq

/-- A removal of an entry: the pod of the entry, whether its `DELETED` event had been
received, and the VIFs that were plugged. -/
structure Removal where
  podUid : String
  deletedReceived : Bool
  plugs : List Plug
  deriving DecidableEq

/-- Facts that no code reads: the pods the watcher was told of, those whose `DELETED`
event it got, the plugged VIFs, the plugged VIFs that were disconnected together with the
container of the request that did it, the removals of the entry, and the flags that
were written since it was made. -/
structure Trace where
  seen : List Pod := []
  deletedUids : List String := []
  plugs : List Plug := []
  unplugs : List (String × Plug) := []
  removals : List Removal := []
  flags : Option Flags := none

/-- The plugs after a VIF was disconnected. -/
def Trace.without (trace : Trace) (vif : Vif) : List Plug :=
  trace.plugs.filter (·.vifId ≠ vif.id)

/-- A driver call was made. -/
def Trace.called (trace : Trace) (command : Command) (containerid : String) (vif : Vif) :
    Trace :=
  match command with
  | .add => { trace with plugs := ⟨vif.id, containerid⟩ :: trace.without vif }
  | .delete =>
      { trace with
        plugs := trace.without vif
        unplugs :=
          (trace.plugs.filter (·.vifId = vif.id)).map (containerid, ·) ++ trace.unplugs }

/-- A locked section changed the entry. -/
def Trace.written (trace : Trace) (before after : Option Entry)
    (change : Option Flags → Option Flags) : Trace :=
  { trace with
    removals :=
      match before, after with
      | some entry, none =>
          ⟨entry.pod.uid, entry.pod.uid ∈ trace.deletedUids, trace.plugs⟩ :: trace.removals
      | _, _ => trace.removals
    flags := change trace.flags }

/-! ## Changes of the flags -/

namespace Flags

/-- An entry is made unless there is one. -/
def done : Option Flags → Option Flags
  | none => some {}
  | some flags => some flags

/-- The pod is deleted. -/
def deleted : Option Flags → Option Flags
  | none => none
  | some flags => if flags.vifUnplugged then none else some { flags with delReceived := true }

/-- A containerid is saved. -/
def saved (containerid : String) : Option Flags → Option Flags
  | none => none
  | some flags => some { flags with containerid := some containerid }

/-- The VIFs are unplugged. -/
def unplugged : Option Flags → Option Flags
  | none => none
  | some flags => if flags.delReceived then none else some { flags with vifUnplugged := true }

end Flags

/-! ## The system of one name -/

/-- Who takes the lock. -/
inductive Party where
  | watcher
  | request (index : Nat)
  deriving DecidableEq

/-- What the watcher is busy with. -/
inductive Watch where
  | idle
  | done (pod : Pod) (vifs : Dict String Vif)
  | deleted (pod : Pod)

/-- All that belongs to one pod name. -/
structure Slot where
  registry : Locked Party (Option Entry) := { value := none }
  watcher : Watch := .idle
  requests : List Request := []
  trace : Trace := {}

/-- The entry in the registry. -/
def Slot.entry (slot : Slot) : Option Entry :=
  slot.registry.value

/-- Replace a request. -/
def Slot.advance (slot : Slot) (index : Nat) (request : Request) : Slot :=
  { slot with requests := slot.requests.set index request }

/-- Take the lock. -/
def Slot.lock (slot : Slot) (party : Party) : Option Slot :=
  (slot.registry.acquire party).map fun registry => { slot with registry }

/-- Write the entry and give the lock back. -/
def Slot.write (slot : Slot) (party : Party) (change : Option Entry → Option Entry)
    (flagChange : Option Flags → Option Flags) : Option Slot :=
  (slot.registry.commit party change).map fun registry =>
    { slot with
      registry
      trace := slot.trace.written slot.entry registry.value flagChange }

/-- A step of a request. -/
inductive Move where
  | check
  | find
  | timeout
  | work
  | workFails (ex : PyException)
  | lock
  | write
  | wait
  | giveUp

inductive Action where
  /-- An `ADDED` or `MODIFIED` event. -/
  | present (pod : Pod)
  /-- A `DELETED` event. -/
  | deleted (pod : Pod)
  | watcherLock
  | watcherWrite
  /-- A request arrives. -/
  | start (command : Command) (params : Params) (podUid : String)
  | request (index : Nat) (kind : Move)

/-- `CNIHandlerBase.on_present` up to the locked section of `on_done`. -/
def present (slot : Slot) (pod : Pod) : Slot :=
  match pod.podState with
  | none => slot
  | some state =>
      { slot with
        watcher := .done pod state.vifs
        trace := { slot.trace with seen := pod :: slot.trace.seen } }

/-- `on_deleted` up to its locked section: a name without entry is left alone. -/
def deleted (slot : Slot) (pod : Pod) : Slot :=
  { slot with
    watcher := if slot.entry.isSome then .deleted pod else .idle
    trace := { slot.trace with deletedUids := pod.uid :: slot.trace.deletedUids } }

/-- The result of `add`. -/
def addResult (vifs : Dict String Vif) : Except PyException (Option Vif) :=
  match vifs.get? defaultIfname with
  | none => .error .keyError
  | some vif => .ok (some vif)

/-- A step of the request at an index. -/
def move (slot : Slot) (index : Nat) (request : Request) : Move → Option Slot
  | .check =>
      match request.phase with
      | .checking =>
          if ignoresDelete slot.entry request.params.containerid then
            some (slot.advance index (request.at (.ended (.ok none))))
          else
            some (slot.advance index (request.at .finding))
      | _ => none
  | .find =>
      match request.phase, slot.entry with
      | .finding, some entry =>
          some (slot.advance index (request.at (workLeft entry.pod entry.vifs.items)))
      | _, _ => none
  | .timeout =>
      match request.phase, slot.entry with
      | .finding, none =>
          some (slot.advance index (request.at (.ended (.error .resourceNotReady))))
      | _, _ => none
  | .work =>
      match request.phase with
      | .working pod ((ifname, vif) :: rest) =>
          some
            { slot.advance index (request.worked pod ifname vif rest) with
              trace := slot.trace.called request.command request.params.containerid vif }
      | _ => none
  | .workFails ex =>
      match request.phase with
      | .working _ _ => some (slot.advance index (request.at (.ended (.error ex))))
      | _ => none
  | .lock =>
      match request.phase with
      | .locking => slot.lock (.request index)
      | _ => none
  | .write =>
      match request.phase, request.command with
      | .locking, .add =>
          let phase :=
            if slot.entry.isSome then .waiting else .ended (.error .keyError)
          (slot.write (.request index) (saveContainerid request.params.containerid)
            (Flags.saved request.params.containerid)).map
              (·.advance index (request.at phase))
      | .locking, .delete =>
          (slot.write (.request index) finishDelete Flags.unplugged).map
            (·.advance index (request.at (.ended (.ok none))))
      | _, _ => none
  | .wait =>
      match request.phase, slot.entry with
      | .waiting, some entry =>
          if entry.vifs.values.all (·.active) then
            some (slot.advance index (request.at (.ended (addResult entry.vifs))))
          else
            none
      | _, _ => none
  | .giveUp =>
      match request.phase, slot.entry with
      | .waiting, none => some (slot.advance index (request.at (.ended (.error .keyError))))
      | .waiting, some entry =>
          if entry.vifs.values.all (·.active) then
            none
          else
            some (slot.advance index (request.at (.ended (.error .resourceNotReady))))
      | _, _ => none

/-- One step of the watcher, a request, or their senders. -/
def slotStep : Step Slot Action
  | slot, .present pod =>
      match slot.watcher with
      | .idle => some (present slot pod)
      | _ => none
  | slot, .deleted pod =>
      match slot.watcher with
      | .idle => some (deleted slot pod)
      | _ => none
  | slot, .watcherLock =>
      match slot.watcher with
      | .idle => none
      | _ => slot.lock .watcher
  | slot, .watcherWrite =>
      match slot.watcher with
      | .idle => none
      | .done pod vifs =>
          (slot.write .watcher (onDone pod vifs) Flags.done).map ({ · with watcher := .idle })
      | .deleted _ =>
          (slot.write .watcher onDeleted Flags.deleted).map ({ · with watcher := .idle })
  | slot, .start command params podUid =>
      some { slot with requests := slot.requests ++ [.arrived command params podUid] }
  | slot, .request index kind => (slot.requests[index]?).bind (move slot index · kind)

/-! ## The registry -/

/-- The registry with everything that goes on in it, by pod name. -/
abbrev Registry :=
  String → Slot

/-- The pod name that an event or a request carries. -/
def Action.concerns (action : Action) (podName : String) : Bool :=
  match action with
  | .present pod | .deleted pod => pod.uniqueName = podName
  | .start _ params _ => params.podName = podName
  | .watcherLock | .watcherWrite | .request .. => true

/-- One step at one pod name. -/
def step : Step Registry (String × Action) :=
  keyed Action.concerns slotStep

/-- The registry of a daemon that just started. -/
def initial : Registry :=
  fun _ => {}

end KuryrKubernetes.Cni

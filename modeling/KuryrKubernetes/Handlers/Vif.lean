import KuryrKubernetes.Handlers.MultiVif

/-!
# The VIF handler

`VIFHandler.on_present` and `on_deleted`.  A call of `on_present` runs up to its
write of the annotation and goes on with the outcome of that write, so that
other parties can act in between.
-/

namespace KuryrKubernetes.Handlers

open KuryrKubernetes.Data
open KuryrKubernetes.Effect

/-- The answers of the drivers and services the handler calls while it handles
one event, and the options it reads. -/
structure Answers where
  ifnamePrefix : String := "eth"
  sriovNodeAnnotations : Bool := false
  networkPolicyEnabled : Bool := false
  project : Except PyException String := .ok ""
  securityGroups : Except PyException (List String) := .ok []
  subnets : Except PyException (Dict String Network) := .ok ∅
  mainVif : Except PyException (Option Vif) := .ok none
  drivers : List MultiVifDriver := []
  updatePortPciInfo : Vif → Except PyException Unit := fun _ => .ok ()
  activateVif : Vif → Except PyException Unit := fun _ => .ok ()
  createSgRules : Except PyException Unit := .ok ()
  deleteSgRules : Except PyException Unit := .ok ()
  updateServices : Except PyException Unit := .ok ()

/-- An answer where `ResourceNotReady` is no failure. -/
def unlessNotReady {α : Type} (answer : Except PyException α) (default : α) : HandlerM α :=
  match answer with
  | .error .resourceNotReady => pure default
  | other => answered other

/-- The pod has a node. -/
def hasNode (pod : Pod) : Bool :=
  pod.nodeName.any (· ≠ "")

/-- `on_deleted`. -/
def onDeleted (answers : Answers) (pod : Pod) : HandlerM Unit := do
  if pod.isHostNetwork ∨ !hasNode pod then
    pure ()
  else
    let _ ← answered answers.project
    unlessNotReady answers.deleteSgRules ()
    let _ ← unlessNotReady answers.securityGroups []
    match pod.podState with
    | none => answered answers.updateServices
    | some state => do
        releaseVifs state
        answered answers.updateServices

/-- What `on_present` waits for once it has called `_set_pod_state`. -/
inductive Pending where
  /-- The annotation of a completed pod is removed. -/
  | clear
  /-- The ports just requested are annotated. -/
  | fresh (state : PodState)
  /-- VIFs were activated; an exception that came up on the way is raised again
  after the write. -/
  | activated (state : PodState) (raised : Option PyException)
  deriving DecidableEq

/-- The state a write stores. -/
def Pending.state : Pending → Option PodState
  | clear => none
  | fresh state => some state
  | activated state _ => some state

/-- Activate one VIF, telling whether it changed.  A port that is gone is left
alone. -/
def activateVif (answers : Answers) (vif : Vif) : Except PyException Bool := do
  if vif.plugin = "sriov" ∧ answers.sriovNodeAnnotations then
    answers.updatePortPciInfo vif
  if vif.active then
    return false
  else
    match answers.activateVif vif with
    | .ok _ => return true
    | .error .neutronNotFound => return false
    | .error ex => throw ex

/-- The activation loop: the interfaces it activated and the exception that ended
it. -/
def activateVifs (answers : Answers) :
    List (String × Vif) → List String × Option PyException
  | [] => ([], none)
  | (ifname, vif) :: rest =>
      match activateVif answers vif with
      | .error ex => ([], some ex)
      | .ok changed =>
          let (ifnames, raised) := activateVifs answers rest
          (if changed then ifname :: ifnames else ifnames, raised)

/-- Mark the VIF of an interface that was activated. -/
def markActive (ifnames : List String) (ifname : String) (vif : Vif) : Vif :=
  if ifname ∈ ifnames then { vif with active := true } else vif

/-- The state after the activation of some interfaces. -/
def activatedState (state : PodState) (ifnames : List String) : PodState where
  defaultVif := markActive ifnames defaultIfname state.defaultVif
  additionalVifs := state.additionalVifs.mapValues (markActive ifnames)

/-- Raise an exception that is pending. -/
def reraise (raised : Option PyException) : HandlerM Unit :=
  match raised with
  | none => pure ()
  | some ex => throw ex

/-- `on_present` for a pod with a VIF annotation, up to the write. -/
def activatePorts (answers : Answers) (state : PodState) : HandlerM (Option Pending) :=
  match activateVifs answers state.vifs.items with
  | ([], raised) => do
      reraise raised
      return none
  | (ifnames, raised) => return some (.activated (activatedState state ifnames) raised)

/-- `on_present` for a pod without VIF annotation, up to the write.  A subnet that
does not exist ends the call quietly. -/
def requestPorts (answers : Answers) (pod : Pod) : HandlerM (Option Pending) :=
  match answers.subnets with
  | .error .neutronNotFound | .error .k8sResourceNotFound => return none
  | .error ex => throw ex
  | .ok _ => do
      match ← requestVif answers.mainVif with
      | none => return none
      | some mainVif =>
          let vifs ← requestAdditionalVifs pod answers.drivers
          return some (.fresh (podStateOf answers.ifnamePrefix mainVif vifs))

/-- `on_present` up to its call of `_set_pod_state`, or to its end. -/
def onPresentStart (answers : Answers) (pod : Pod) : HandlerM (Option Pending) :=
  if pod.isCompleted then
    match pod.podState with
    | none => return none
    | some _ => do
        onDeleted answers pod
        return some .clear
  else if pod.isHostNetwork ∨ !pod.isScheduled then
    return none
  else do
    let _ ← answered answers.project
    let _ ← answered answers.securityGroups
    match pod.podState with
    | none => requestPorts answers pod
    | some state => activatePorts answers state

/-- The network policy part at the end of `on_present`. -/
def updatePolicies (answers : Answers) : HandlerM Unit :=
  if answers.networkPolicyEnabled then do
    answered answers.createSgRules
    answered answers.updateServices
  else
    pure ()

/-- `on_present` after `_set_pod_state` came back. -/
def onPresentFinish (answers : Answers) (pending : Pending)
    (outcome : Except PyException Unit) : HandlerM Unit :=
  match pending, outcome with
  | .clear, .ok _ => pure ()
  | .clear, .error ex =>
      throw (if ex.isK8sClientException then .resourceNotReady else ex)
  | .fresh _, .ok _ => pure ()
  | .fresh state, .error ex => if ex.isK8sClientException then releaseVifs state else throw ex
  | .activated _ raised, .ok _ => do
      updatePolicies answers
      reraise raised
  | .activated state raised, .error .k8sResourceNotFound => do
      releaseVifs state
      updatePolicies answers
      reraise raised
  | .activated _ _, .error ex =>
      throw (if ex.isK8sClientException then .resourceNotReady else ex)

/-- How `_set_pod_state` ends.  It may raise although the annotation was stored,
but returns only when it was. -/
structure Stored where
  outcome : Except PyException Unit
  applied : Bool
  appliedOfOk : outcome = .ok () → applied = true

/-- `on_present` with the given end of `_set_pod_state`. -/
def onPresent (answers : Answers) (write : Stored) (pod : Pod) : HandlerM Unit := do
  match ← onPresentStart answers pod with
  | none => pure ()
  | some pending =>
      modify fun call => { call with stored := write.applied }
      onPresentFinish answers pending write.outcome

end KuryrKubernetes.Handlers

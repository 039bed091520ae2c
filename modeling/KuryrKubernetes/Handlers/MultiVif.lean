import KuryrKubernetes.Effect.Program
import KuryrKubernetes.Objects
import Mathlib.Data.String.Basic

/-!
# Additional VIFs of a pod

The multi-VIF drivers ask for one port for each network named in the annotation
of a pod.  A handler program records which ports it got from `request_vif` and
which ones it gave to `release_vif`; answers of services are parameters.
-/

namespace KuryrKubernetes.Handlers

open KuryrKubernetes.Data
open KuryrKubernetes.Effect

/-! ## Handler programs -/

/-- What one call of a handler did with ports, and whether it stored the VIF
annotation. -/
structure Call where
  obtained : List Vif := []
  released : List Vif := []
  stored : Bool := false
  deriving DecidableEq

/-- A program of the VIF handler. -/
abbrev HandlerM := Program PyException Call

/-- Take the answer of a driver or a service. -/
def answered {α : Type} (answer : Except PyException α) : HandlerM α :=
  match answer with
  | .ok value => pure value
  | .error ex => throw ex

/-- `request_vif` with the given answer. -/
def requestVif (answer : Except PyException (Option Vif)) : HandlerM (Option Vif) := do
  let vif ← answered answer
  modify fun call => { call with obtained := call.obtained ++ vif.toList }
  return vif

/-- `release_vif`. -/
def releaseVif (vif : Vif) : HandlerM Unit :=
  modify fun call => { call with released := call.released ++ [vif] }

/-- `release_vif` for all VIFs of a state. -/
def releaseVifs (state : PodState) : HandlerM Unit :=
  state.vifs.values.forM releaseVif

/-! ## Networks of a pod -/

/-- An element of the networks annotation. -/
structure NetworkElement where
  name : Option String
  namespaceName : Option String := none
  deriving DecidableEq

/-- One element of the comma separated form: `name` or `namespace/name`. -/
def networkDetails (net : String) : Except PyException NetworkElement :=
  match net.splitOn "/" with
  | [name] => .ok { name := some name }
  | [namespaceName, name] => .ok { name := some name, namespaceName := some namespaceName }
  | _ => .error PyException.invalidKuryrNetworkAnnotation

/-- `NPWGMultiVIFDriver._get_networks`; `loads` fails when the annotation is not
JSON. -/
def getNetworks (loads : String → Option (List NetworkElement)) (pod : Pod) :
    Except PyException (List NetworkElement) :=
  match pod.networksAnnotation with
  | none => .ok []
  | some text =>
      match loads text with
      | some networks => .ok networks
      | none => (text.splitOn ",").mapM networkDetails

/-- The configuration in a network attachment definition. -/
structure NadConfig where
  subnetId : Option String := none
  driverType : Option String := none

/-- What the NPWG driver reads and the answers it gets.  `requestVif` is indexed
by the position of the network in the annotation. -/
structure NpwgAnswers where
  loads : String → Option (List NetworkElement) := fun _ => none
  getNad : String → String → Except PyException NadConfig := fun _ _ => .ok {}
  getInstance : String → Except PyException Unit := fun _ => .ok ()
  getSubnet : String → Except PyException Network := fun subnet => .ok ⟨subnet⟩
  podSubnet : String := ""
  subnetMapping : Dict String String := ∅
  requestVif : Nat → Except PyException (Option Vif)

/-- The subnet of a network: the configured one, the one of the driver alias, or
the default one. -/
def chooseSubnet (answers : NpwgAnswers) (config : NadConfig) : Except PyException String :=
  let configured := config.subnetId.filter (· ≠ "")
  match config.driverType with
  | none => .ok (configured.getD answers.podSubnet)
  | some driver => do
      answers.getInstance driver
      return configured.getD (answers.subnetMapping.getD driver answers.podSubnet)

/-- What one turn of the loop over networks comes to: an exception on the way, or
the answer of `request_vif`. -/
def networkAnswer (answers : NpwgAnswers) (position : Nat) (namespaceName : String)
    (network : NetworkElement) : Except PyException (Option Vif) :=
  match network.name with
  | none => .error PyException.invalidKuryrNetworkAnnotation
  | some name => do
      let config ← answers.getNad (network.namespaceName.getD namespaceName) name
      let subnetId ← chooseSubnet answers config
      let _ ← answers.getSubnet subnetId
      answers.requestVif position

/-- The turns of the loop; a namespace stays in force for the networks after it. -/
def networkAnswers (answers : NpwgAnswers) :
    Nat → String → List NetworkElement → List (Except PyException (Option Vif))
  | _, _, [] => []
  | position, namespaceName, network :: rest =>
      networkAnswer answers position namespaceName network ::
        networkAnswers answers (position + 1) (network.namespaceName.getD namespaceName) rest

/-- Request VIFs one by one and collect those that were given. -/
def gatherVifs : List (Except PyException (Option Vif)) → HandlerM (List Vif)
  | [] => pure []
  | answer :: rest => do
      let vif ← requestVif answer
      let vifs ← gatherVifs rest
      return vif.toList ++ vifs

/-- The multi-VIF drivers that can be enabled. -/
inductive MultiVifDriver where
  | noop
  | npwg (answers : NpwgAnswers)

namespace MultiVifDriver

/-- The turns a driver takes for a pod, or the exception it starts with. -/
def turns (driver : MultiVifDriver) (pod : Pod) :
    Except PyException (List (Except PyException (Option Vif))) :=
  match driver with
  | noop => .ok []
  | npwg answers =>
      (getNetworks answers.loads pod).map
        (networkAnswers answers 0 pod.namespaceName)

/-- `request_additional_vifs`. -/
def requestAdditionalVifs (driver : MultiVifDriver) (pod : Pod) : HandlerM (List Vif) := do
  let turns ← answered (driver.turns pod)
  gatherVifs turns

end MultiVifDriver

/-- The loop of `on_present` over the enabled drivers. -/
def requestAdditionalVifs (pod : Pod) : List MultiVifDriver → HandlerM (List Vif)
  | [] => pure []
  | driver :: rest => do
      let vifs ← driver.requestAdditionalVifs pod
      let more ← requestAdditionalVifs pod rest
      return vifs ++ more

/-! ## The state of a pod -/

/-- The names of the additional interfaces, counted from one. -/
def additionalIfnames (ifnamePrefix : String) (vifs : List Vif) : List (String × Vif) :=
  (vifs.zipIdx 1).map fun (vif, i) => (ifnamePrefix ++ i.repr, vif)

/-- The state stored for a main VIF and additional ones. -/
def podStateOf (ifnamePrefix : String) (mainVif : Vif) (vifs : List Vif) : PodState where
  defaultVif := mainVif
  additionalVifs := Dict.ofList (additionalIfnames ifnamePrefix vifs)

end KuryrKubernetes.Handlers

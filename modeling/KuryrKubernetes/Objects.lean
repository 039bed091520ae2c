import KuryrKubernetes.Data.Dict

/-!
# Kubernetes and os-vif objects

The fields of pods, VIFs and pod states that the modelled functions read, and
the exceptions they raise or catch.  Annotations that hold serialized objects
are kept as the objects they decode to.
-/

namespace KuryrKubernetes

open KuryrKubernetes.Data

/-- Exceptions by the classes that handlers tell apart. -/
inductive PyException where
  | resourceNotReady
  | k8sClientException
  | k8sResourceNotFound
  | invalidKuryrNetworkAnnotation
  | sdkException
  | neutronNotFound
  | neutronConflict
  | neutronBadRequest
  | k8sNodeTrunkPortFailure
  | noResource
  | requiredOpt
  | keyError
  | attributeError
  | typeError
  | indexError
  | other (name : String)
  deriving DecidableEq

namespace PyException

/-- `isinstance(ex, K8sClientException)`: not-found is a subclass. -/
def isK8sClientException : PyException → Bool
  | k8sClientException | k8sResourceNotFound => true
  | _ => false

/-- `isinstance(ex, os_exc.SDKException)`: not-found, conflict and bad request are subclasses. -/
def isSdkException : PyException → Bool
  | sdkException | neutronNotFound | neutronConflict | neutronBadRequest => true
  | _ => false

end PyException

/-! ## Networks and VIFs -/

/-- The part of an os-vif network that pool keys are made of. -/
structure Network where
  id : String
  deriving DecidableEq

/-- A VIF object.  `ipAddress` is the first address of the first subnet of its
network; `vlanId` is present for nested VLAN VIFs. -/
structure Vif where
  id : String
  network : Network
  ipAddress : String := ""
  plugin : String := "ovs"
  active : Bool := false
  vlanId : Option Nat := none
  deriving DecidableEq

/-- `DEFAULT_IFNAME`. -/
def defaultIfname : String := "eth0"

/-- The object stored in the VIF annotation of a pod. -/
structure PodState where
  defaultVif : Vif
  additionalVifs : Dict String Vif := ∅
  deriving DecidableEq

/-- `PodState.vifs`: interface names to VIFs, the default one first. -/
def PodState.vifs (state : PodState) : Dict String Vif :=
  ((∅ : Dict String Vif).set defaultIfname state.defaultVif).update state.additionalVifs

/-! ## Pods -/

/-- The numbers that the API server accepts for a port. -/
abbrev PortNumber :=
  { number : Nat // 0 < number ∧ number < 65536 }

/-- A named or unnamed port of a container. -/
structure ContainerPort where
  name : Option String := none
  containerPort : PortNumber
  deriving DecidableEq

structure Container where
  ports : List ContainerPort := []
  deriving DecidableEq

/-- A pod object as delivered by the API. -/
structure Pod where
  name : String
  namespaceName : String
  uid : String
  resourceVersion : Nat := 0
  labels : Option (Dict String String) := none
  vifAnnotation : Option PodState := none
  labelAnnotation : Option (Dict String String) := none
  networksAnnotation : Option String := none
  hostNetwork : Bool := false
  nodeName : Option String := none
  hostIp : Option String := none
  phase : Option String := none
  containers : List Container := []
  deriving DecidableEq

namespace Pod

/-- `utils.get_pod_unique_name`. -/
def uniqueName (pod : Pod) : String :=
  pod.namespaceName ++ "/" ++ pod.name

/-- `driver_utils.get_pod_state`. -/
def podState (pod : Pod) : Option PodState :=
  pod.vifAnnotation

/-- `driver_utils.get_pod_ip`: the address in the VIF annotation. -/
def podIp (pod : Pod) : Option String :=
  pod.vifAnnotation.map fun state => state.defaultVif.ipAddress

/-- `driver_utils.is_host_network`. -/
def isHostNetwork (pod : Pod) : Bool :=
  pod.hostNetwork

/-- `VIFHandler._is_pod_scheduled`: pending with a node assigned. -/
def isScheduled (pod : Pod) : Bool :=
  match pod.nodeName with
  | none => false
  | some node => node ≠ "" ∧ pod.phase = some "Pending"

/-- `VIFHandler._is_pod_completed`. -/
def isCompleted (pod : Pod) : Bool :=
  pod.phase = some "Succeeded" ∨ pod.phase = some "Failed"

end Pod

end KuryrKubernetes

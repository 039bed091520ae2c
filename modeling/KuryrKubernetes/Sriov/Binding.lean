import KuryrKubernetes.Effect.Returns
import KuryrKubernetes.Sriov.Requests

/-!
# Devices for SR-IOV VIFs

`VIFSriovDriver.connect` looks for a device that kubelet has allocated to the pod of a VIF and that
no annotation of the pod names yet, configures it, and notes it in the annotation.  Kubelet lists
the pods of the node, in whatever namespace they are.
-/

namespace KuryrKubernetes.Sriov

open KuryrKubernetes.Data
open KuryrKubernetes.Effect

/-! ## What kubelet and the API server know -/

/-- Devices of a resource. -/
structure Device where
  resourceName : String
  deviceIds : List String

/-- The devices of the containers of a pod, as kubelet lists them. -/
structure PodResources where
  name : String
  namespaceName : String
  containers : List (List Device)

/-- The device ids of a resource, in the order of the loops of `_process_vif`. -/
def PodResources.deviceIds (resources : PodResources) (resource : String) : List String :=
  resources.containers.flatMap fun devices =>
    (devices.filter (·.resourceName = resource)).flatMap (·.deviceIds)

/-- A pod of the cluster. -/
structure PodKey where
  namespaceName : String
  name : String

/-- `selfLink` of a pod. -/
def PodKey.selfLink (pod : PodKey) : String :=
  "/api/v1/namespaces/" ++ pod.namespaceName ++ "/pods/" ++ pod.name

/-- A VIF that was requested for the pod. -/
structure PodVif (pod : PodKey) extends SriovVif where
  named : podName = pod.name
  linked : podLink = pod.selfLink

/-- What is annotated of a device. -/
structure DeviceInfo where
  oldDriver : String
  currentDriver : String
  neutronId : String

/-- The annotations of a pod, as far as the devices go: none at all, none of devices, one that is
not JSON, or the devices. -/
inductive DevicesAnnotation where
  | noAnnotations
  | unset
  | unreadable
  | devices (known : Dict String DeviceInfo)

/-- The annotations of the pods, by their links.  Which devices were configured is only noted. -/
structure Node where
  annotations : Dict String DevicesAnnotation
  configured : List String := []

/-- Programs of the binding driver. -/
abbrev BindingM := Program PyException Node

/-- What is configured. -/
structure BindingConf where
  physnetResourceMappings : Dict String String
  resourceDriverMappings : Dict String String
  devicePluginResourcePrefix : String
  enableNodeAnnotations : Bool := false

/-- A call of `connect` and what it meets: what kubelet lists, how the pod is read, what becomes of
a device with a driver (with the driver that it had before), and how the annotations of the pod and
of the node go. -/
structure Connect (pod : PodKey) where
  vif : PodVif pod
  list : Except PyException (List PodResources)
  readFails : Option PyException := none
  configure : (pci driver : String) → Except PyException String
  annotateFails : Option PyException := none
  saveFails : Option PyException := none

/-! ## The driver -/

/-- Raise an exception, if there is one. -/
def raiseAny (fails : Option PyException) : BindingM PUnit :=
  match fails with
  | some exception => throw exception
  | none => pure ⟨⟩

/-- The devices that an annotation names. -/
def DevicesAnnotation.read : DevicesAnnotation → Except PyException (Dict String DeviceInfo)
  | .noAnnotations => .error .keyError
  | .unset => .ok ∅
  | .unreadable => .error (.other "UnboundLocalError")
  | .devices known => .ok known

/-- The devices that are annotated at a pod. -/
def Node.podDevices (node : Node) (podLink : String) :
    Except PyException (Dict String DeviceInfo) :=
  match node.annotations.get? podLink with
  | none => .error .k8sResourceNotFound
  | some annotation => annotation.read

/-- `_get_pod_devices`. -/
def getPodDevices (fails : Option PyException) (podLink : String) :
    BindingM (Dict String DeviceInfo) := do
  raiseAny fails
  let node ← get
  settle (node.podDevices podLink)

/-- A device is noted as configured. -/
def Node.configure (node : Node) (pci : String) : Node :=
  { node with configured := node.configured ++ [pci] }

/-- The devices of a pod are annotated. -/
def Node.annotate (node : Node) (podLink : String) (devices : Dict String DeviceInfo) : Node :=
  { node with annotations := node.annotations.set podLink (.devices devices) }

namespace BindingConf

variable (conf : BindingConf) {pod : PodKey} (call : Connect pod)

/-- `_get_resource_by_physnet`, `_get_driver_by_res` and `_make_resource`: the resource and the
driver of a physnet. -/
def resourceAndDriver (physnet : String) : Except PyException (String × String) :=
  match conf.physnetResourceMappings.get? physnet with
  | none => .error .keyError
  | some resourceName =>
      match conf.resourceDriverMappings.get? resourceName with
      | none => .error .keyError
      | some driver =>
          .ok (sriovMakeResource conf.devicePluginResourcePrefix resourceName, driver)

/-- `_annotate_device`. -/
def annotateDevice (pci oldDriver newDriver : String) : BindingM PUnit := do
  let podDevices ← getPodDevices call.annotateFails call.vif.podLink
  modify (·.annotate call.vif.podLink (podDevices.set pci ⟨oldDriver, newDriver, call.vif.id⟩))

/-- `_compute_pci`. -/
def computePci (pci driver : String) : BindingM PUnit := do
  let oldDriver ← settle (call.configure pci driver)
  modify (·.configure pci)
  annotateDevice call pci (if userspaceDrivers.contains driver then oldDriver else driver) driver

/-- `_process_vif`: the device, if there is one. -/
def processVif : BindingM (Option String) := do
  let resources ← settle call.list
  let resource ← settle (conf.resourceAndDriver call.vif.physnet)
  let podDevices ← getPodDevices call.readFails call.vif.podLink
  match resources.find? (·.name = call.vif.podName) with
  | none => throw (.other "CNIError")
  | some podResource =>
      match (podResource.deviceIds resource.1).find? (· ∉ podDevices) with
      | none => return none
      | some pci => do
          computePci call pci resource.2
          return some pci

/-- `connect`. -/
def connect : BindingM PUnit := do
  let _ ← conf.processVif call
  if conf.enableNodeAnnotations then
    raiseAny call.saveFails

end BindingConf

/-! ## Single calls -/

/-- The device is one of the resource that kubelet has allocated to the very pod. -/
def Allocated (resources : List PodResources) (pod : PodKey) (resource pci : String) : Prop :=
  ∃ own ∈ resources, own.name = pod.name ∧ own.namespaceName = pod.namespaceName ∧
    pci ∈ own.deviceIds resource

/-- What a call finds before it looks for a device: the resource with its driver, the devices that
are annotated, and the first pod with the name in the list of kubelet. -/
structure Looks (conf : BindingConf) {pod : PodKey} (call : Connect pod) (node : Node)
    (resources : List PodResources) (resource driver : String)
    (podDevices : Dict String DeviceInfo) (podResource : PodResources) : Prop where
  list : call.list = .ok resources
  mapped : conf.resourceAndDriver call.vif.physnet = .ok (resource, driver)
  read : call.readFails = none ∧ node.podDevices call.vif.podLink = .ok podDevices
  found : resources.find? (·.name = call.vif.podName) = some podResource

/-- The annotation of the node is written, if it is to be. -/
def Saves (conf : BindingConf) {pod : PodKey} (call : Connect pod) : Prop :=
  conf.enableNodeAnnotations → call.saveFails = none

/-- A device of the VIF is configured and annotated: one that kubelet has allocated to the very pod
and that was not annotated before. -/
structure Plugs (conf : BindingConf) {pod : PodKey} (call : Connect pod) (before after : Node)
    (pci : String) : Prop where
  configured : after.configured = before.configured ++ [pci]
  annotated : ∃ podDevices info, before.podDevices pod.selfLink = .ok podDevices ∧
    pci ∉ podDevices ∧ info.neutronId = call.vif.id ∧
    after.annotations = before.annotations.set pod.selfLink (.devices (podDevices.set pci info))
  allocated : ∃ resources resource driver, call.list = .ok resources ∧
    conf.resourceAndDriver call.vif.physnet = .ok (resource, driver) ∧
    Allocated resources pod resource pci

/-- The call returns only with a device of the VIF. -/
def PlugsOwn (conf : BindingConf) {pod : PodKey} (call : Connect pod) (before : Node) : Prop :=
  ∀ after, exec (conf.connect call) before = (.ok ⟨⟩, after) →
    ∃ pci, Plugs conf call before after pci

/-- The first pod with the name has no device of the resource left, or the first one that it has
left is not one of the very pod; and nothing else fails. -/
def Unfit (conf : BindingConf) {pod : PodKey} (call : Connect pod) (before : Node) : Prop :=
  Saves conf call ∧ ∃ resources resource driver podDevices podResource,
    Looks conf call before resources resource driver podDevices podResource ∧
    ((podResource.deviceIds resource).find? (· ∉ podDevices) = none ∨
      ∃ pci oldDriver, (podResource.deviceIds resource).find? (· ∉ podDevices) = some pci ∧
        call.configure pci driver = .ok oldDriver ∧ call.annotateFails = none ∧
        ¬Allocated resources pod resource pci)

/-- A device that is left is not annotated. -/
theorem not_mem_of_find? {podDevices : Dict String DeviceInfo} {ids : List String} {pci : String}
    (left : ids.find? (· ∉ podDevices) = some pci) : pci ∉ podDevices := by
  have fresh := List.find?_some left
  exact of_decide_eq_true fresh

section

variable {conf : BindingConf} {pod : PodKey} {call : Connect pod} {before after : Node}

theorem exec_raiseAny_eq_ok {fails : Option PyException}
    (ran : exec (raiseAny fails) before = (.ok ⟨⟩, after)) : fails = none ∧ after = before := by
  cases fails with
  | none =>
      cases ran
      exact ⟨rfl, rfl⟩
  | some exception => cases ran

theorem exec_settle_eq_ok {α : Type} {outcome : Except PyException α} {value : α}
    (ran : exec (settle outcome : BindingM α) before = (.ok value, after)) :
    outcome = .ok value ∧ after = before := by
  cases outcome with
  | ok result =>
      cases ran
      exact ⟨rfl, rfl⟩
  | error exception => cases ran

theorem exec_getPodDevices_eq_ok {fails : Option PyException} {podLink : String}
    {podDevices : Dict String DeviceInfo}
    (ran : exec (getPodDevices fails podLink) before = (.ok podDevices, after)) :
    (fails = none ∧ before.podDevices podLink = .ok podDevices) ∧ after = before := by
  obtain ⟨_, middle, read, rest⟩ := exec_bind_eq_ok ran
  obtain ⟨served, rfl⟩ := exec_raiseAny_eq_ok read
  rw [exec_get_bind] at rest
  obtain ⟨known, same⟩ := exec_settle_eq_ok rest
  exact ⟨⟨served, known⟩, same⟩

theorem exec_getPodDevices {podLink : String} {podDevices : Dict String DeviceInfo}
    (known : before.podDevices podLink = .ok podDevices) :
    exec (getPodDevices none podLink) before = (.ok podDevices, before) := by
  change exec (settle (before.podDevices podLink)) before = _
  rw [known]
  rfl

/-- A device that is looked at is configured and annotated. -/
theorem exec_computePci_eq_ok {pci driver : String}
    (ran : exec (BindingConf.computePci call pci driver) before = (.ok ⟨⟩, after)) :
    ∃ oldDriver podDevices info, call.configure pci driver = .ok oldDriver ∧
      call.annotateFails = none ∧ before.podDevices call.vif.podLink = .ok podDevices ∧
      info.neutronId = call.vif.id ∧
      after = (before.configure pci).annotate call.vif.podLink (podDevices.set pci info) := by
  obtain ⟨oldDriver, middle, configured, rest⟩ := exec_bind_eq_ok ran
  obtain ⟨given, rfl⟩ := exec_settle_eq_ok configured
  rw [exec_modify_bind] at rest
  obtain ⟨podDevices, middle, read, written⟩ := exec_bind_eq_ok rest
  obtain ⟨⟨served, known⟩, rfl⟩ := exec_getPodDevices_eq_ok read
  cases written
  exact ⟨oldDriver, podDevices, _, given, served, known, rfl, rfl⟩

theorem exec_computePci {pci driver oldDriver : String} {podDevices : Dict String DeviceInfo}
    (given : call.configure pci driver = .ok oldDriver) (served : call.annotateFails = none)
    (known : before.podDevices call.vif.podLink = .ok podDevices) :
    ∃ info, exec (BindingConf.computePci call pci driver) before =
      (.ok ⟨⟩,
        (before.configure pci).annotate call.vif.podLink (podDevices.set pci info)) := by
  have knownStill : (before.configure pci).podDevices call.vif.podLink = .ok podDevices := known
  unfold BindingConf.computePci BindingConf.annotateDevice
  rw [given, settle_ok, exec_pure_bind, exec_modify_bind, served,
    exec_bind_of_ok (exec_getPodDevices knownStill)]
  exact ⟨_, rfl⟩

/-- A call that returns found the devices and either took none or configured and annotated the
first one that is left. -/
theorem connect_eq_ok (ran : exec (conf.connect call) before = (.ok ⟨⟩, after)) :
    Saves conf call ∧ ∃ resources resource driver podDevices podResource,
      Looks conf call before resources resource driver podDevices podResource ∧
      ((podResource.deviceIds resource).find? (· ∉ podDevices) = none ∧ after = before ∨
        ∃ pci oldDriver info, (podResource.deviceIds resource).find? (· ∉ podDevices) = some pci ∧
          call.configure pci driver = .ok oldDriver ∧ call.annotateFails = none ∧
          info.neutronId = call.vif.id ∧
          after = (before.configure pci).annotate call.vif.podLink (podDevices.set pci info)) := by
  obtain ⟨device, last, processed, saved⟩ := exec_bind_eq_ok ran
  have saves : Saves conf call ∧ after = last := by
    split at saved
    · obtain ⟨served, same⟩ := exec_raiseAny_eq_ok saved
      exact ⟨fun _ => served, same⟩
    · rename_i disabled
      cases saved
      exact ⟨fun enabled => absurd enabled disabled, rfl⟩
  obtain ⟨saves, rfl⟩ := saves
  refine ⟨saves, ?_⟩
  obtain ⟨resources, middle, listed, afterList⟩ := exec_bind_eq_ok processed
  obtain ⟨list, rfl⟩ := exec_settle_eq_ok listed
  obtain ⟨⟨resource, driver⟩, middle, looked, afterLook⟩ := exec_bind_eq_ok afterList
  obtain ⟨mapped, rfl⟩ := exec_settle_eq_ok looked
  obtain ⟨podDevices, middle, read, rest⟩ := exec_bind_eq_ok afterLook
  obtain ⟨known, rfl⟩ := exec_getPodDevices_eq_ok read
  cases found : resources.find? (·.name = call.vif.podName) with
  | none =>
      rw [found] at rest
      cases rest
  | some podResource =>
      rw [found] at rest
      refine ⟨resources, resource, driver, podDevices, podResource,
        ⟨list, mapped, known, found⟩, ?_⟩
      dsimp only at rest
      cases left : (podResource.deviceIds resource).find? (· ∉ podDevices) with
      | none =>
          rw [left] at rest
          cases rest
          exact .inl ⟨rfl, rfl⟩
      | some pci =>
          rw [left] at rest
          obtain ⟨_, middle, computed, returned⟩ := exec_bind_eq_ok rest
          cases returned
          obtain ⟨oldDriver, others, info, given, served, knownToo, named, rfl⟩ :=
            exec_computePci_eq_ok computed
          rw [known.2] at knownToo
          cases knownToo
          exact .inr ⟨pci, oldDriver, info, rfl, given, served, named, rfl⟩

/-- What follows a device search that found everything. -/
theorem exec_processVif {resources : List PodResources} {resource driver : String}
    {podDevices : Dict String DeviceInfo} {podResource : PodResources}
    (looks : Looks conf call before resources resource driver podDevices podResource) :
    ((podResource.deviceIds resource).find? (· ∉ podDevices) = none →
      exec (conf.processVif call) before = (.ok none, before)) ∧
    ∀ pci, (podResource.deviceIds resource).find? (· ∉ podDevices) = some pci →
      exec (conf.processVif call) before =
        exec (BindingConf.computePci call pci driver >>= fun _ => pure (some pci)) before := by
  constructor
  · intro nothing
    unfold BindingConf.processVif
    rw [looks.list, settle_ok, exec_pure_bind, looks.mapped, settle_ok, exec_pure_bind,
      looks.read.1, exec_bind_of_ok (exec_getPodDevices looks.read.2), looks.found]
    dsimp only
    rw [nothing]
    rfl
  · intro pci left
    unfold BindingConf.processVif
    rw [looks.list, settle_ok, exec_pure_bind, looks.mapped, settle_ok, exec_pure_bind,
      looks.read.1, exec_bind_of_ok (exec_getPodDevices looks.read.2), looks.found]
    dsimp only
    rw [left]

theorem exec_connect {found : Option String} {middle : Node} (saves : Saves conf call)
    (processed : exec (conf.processVif call) before = (.ok found, middle)) :
    exec (conf.connect call) before = (.ok ⟨⟩, middle) := by
  unfold BindingConf.connect
  rw [exec_bind_of_ok processed]
  split
  · rename_i enabled
    rw [saves enabled]
    rfl
  · rfl

/-- A call returns only with a device of the VIF if and only if it is fit. -/
theorem plugsOwn_iff (conf : BindingConf) {pod : PodKey} (call : Connect pod) (before : Node) :
    PlugsOwn conf call before ↔ ¬Unfit conf call before := by
  constructor
  · rintro plugs ⟨saves, resources, resource, driver, podDevices, podResource, looks, fault⟩
    obtain ⟨takesNone, takes⟩ := exec_processVif looks
    rcases fault with nothing | ⟨pci, oldDriver, left, given, served, foreign⟩
    · obtain ⟨pci, plugged⟩ := plugs before (exec_connect saves (takesNone nothing))
      have longer := congrArg List.length plugged.configured
      rw [List.length_append, List.length_singleton] at longer
      omega
    · obtain ⟨info, computed⟩ := exec_computePci given served looks.read.2
      have processed := takes pci left
      rw [exec_bind_of_ok computed] at processed
      obtain ⟨other, plugged⟩ := plugs _ (exec_connect saves processed)
      have same : [pci] = [other] := List.append_cancel_left plugged.configured
      cases same
      obtain ⟨others, resource', driver', list, mapped, allocated⟩ := plugged.allocated
      rw [looks.list] at list
      rw [looks.mapped] at mapped
      cases list
      cases mapped
      exact foreign allocated
  · intro fit after ran
    obtain ⟨saves, resources, resource, driver, podDevices, podResource, looks, ended⟩ :=
      connect_eq_ok ran
    rcases ended with ⟨nothing, _⟩ | ⟨pci, oldDriver, info, left, given, served, named, rfl⟩
    · exact absurd ⟨saves, _, _, _, _, _, looks, .inl nothing⟩ fit
    · refine ⟨pci, rfl, ⟨podDevices, info, ?_, ?_, named, ?_⟩,
        ⟨resources, resource, driver, looks.list, looks.mapped, ?_⟩⟩
      · rw [← call.vif.linked]
        exact looks.read.2
      · exact not_mem_of_find? left
      · rw [← call.vif.linked]
        rfl
      · by_contra foreign
        exact fit ⟨saves, _, _, _, _, _, looks, .inr ⟨pci, oldDriver, left, given, served, foreign⟩⟩

end

/-! ## Calls in a row -/

/-- The node where a call begins: nothing is configured in it. -/
def Node.begun (node : Node) : Node :=
  { node with configured := [] }

namespace BindingConf

variable (conf : BindingConf) {pod : PodKey}

/-- Calls one after the other: how they end, and which devices they configured. -/
def connects : Node → List (Connect pod) → List (Except PyException PUnit × List String)
  | _, [] => []
  | node, call :: rest =>
      let ended := exec (conf.connect call) node.begun
      (ended.1, ended.2.configured) :: connects ended.2 rest

/-- Every call has the property where it begins. -/
def EachConnect (property : Connect pod → Node → Prop) : Node → List (Connect pod) → Prop
  | _, [] => True
  | node, call :: rest =>
      property call node.begun ∧
        EachConnect property (exec (conf.connect call) node.begun).2 rest

end BindingConf

/-- Every call returns only with a device of its VIF, and no device is given twice. -/
structure ConnectsOwn (conf : BindingConf) {pod : PodKey} (node : Node)
    (calls : List (Connect pod)) : Prop where
  each : conf.EachConnect (PlugsOwn conf) node calls
  distinct : (conf.connects node calls).Pairwise fun first second =>
    first.1 = .ok ⟨⟩ → second.1 = .ok ⟨⟩ → ∀ pci ∈ first.2, pci ∉ second.2

/-- The device is annotated at the pod. -/
def Node.Annotated (node : Node) (podLink pci : String) : Prop :=
  ∃ podDevices, node.podDevices podLink = .ok podDevices ∧ pci ∈ podDevices

section

variable {conf : BindingConf} {pod : PodKey} {call : Connect pod} {node : Node}

theorem podDevices_annotate (node : Node) (podLink : String) (devices : Dict String DeviceInfo) :
    (node.annotate podLink devices).podDevices podLink = .ok devices := by
  unfold Node.podDevices Node.annotate
  rw [Dict.get?_set_self]
  rfl

/-- No device is taken out of the annotation. -/
theorem annotated_stable (conf : BindingConf) (call : Connect pod) (pci : String) :
    (Frame.stable fun node : Node => node.Annotated pod.selfLink pci).Keeps
      (conf.connect call) := by
  have reads (fails : Option PyException) :
      (Frame.stable fun node : Node => node.Annotated pod.selfLink pci).Keeps
        (getPodDevices fails call.vif.podLink) := by
    apply Frame.Keeps.bind
    · cases fails with
      | none => exact Frame.keeps_pure _
      | some exception => exact Frame.keeps_throw _
    · intro _
      exact Frame.keeps_get.bind fun _ => Frame.keeps_settle _
  have writes (device oldDriver newDriver : String) :
      (Frame.stable fun node : Node => node.Annotated pod.selfLink pci).Keeps
        (BindingConf.annotateDevice call device oldDriver newDriver) := by
    intro before annotated
    unfold BindingConf.annotateDevice
    rcases read : exec (getPodDevices call.annotateFails call.vif.podLink) before with
      ⟨exception | podDevices, middle⟩
    · rw [exec_bind_of_error read]
      have kept := reads call.annotateFails before annotated
      rw [read] at kept
      exact kept
    · rw [exec_bind_of_ok read]
      obtain ⟨⟨_, known⟩, rfl⟩ := exec_getPodDevices_eq_ok read
      obtain ⟨others, knownToo, member⟩ := annotated
      rw [← call.vif.linked, known] at knownToo
      cases knownToo
      refine ⟨podDevices.set device ⟨oldDriver, newDriver, call.vif.id⟩, ?_, ?_⟩
      · rw [← call.vif.linked]
        exact podDevices_annotate _ _ _
      · exact Dict.mem_set.mpr (.inr member)
  unfold BindingConf.connect
  apply Frame.Keeps.bind
  · unfold BindingConf.processVif
    apply (Frame.keeps_settle _).bind
    intro resources
    apply (Frame.keeps_settle _).bind
    intro resource
    apply (reads _).bind
    intro podDevices
    split
    · exact Frame.keeps_throw _
    · split
      · exact Frame.keeps_pure _
      · apply Frame.Keeps.bind
        · apply (Frame.keeps_settle _).bind
          intro oldDriver
          apply (Frame.keeps_modify fun _ => id).bind
          intro _
          exact writes _ _ _
        · intro _
          exact Frame.keeps_pure _
  · intro _
    split
    · cases call.saveFails with
      | none => exact Frame.keeps_pure _
      | some exception => exact Frame.keeps_throw _
    · exact Frame.keeps_pure _

/-- What a call that returns has configured was not annotated before, and is annotated after. -/
theorem annotated_of_connect (returned : (exec (conf.connect call) node.begun).1 = .ok ⟨⟩) :
    ∀ pci ∈ (exec (conf.connect call) node.begun).2.configured,
      ¬node.Annotated pod.selfLink pci ∧
        (exec (conf.connect call) node.begun).2.Annotated pod.selfLink pci := by
  rcases ran : exec (conf.connect call) node.begun with ⟨outcome, after⟩
  rw [ran] at returned
  cases returned
  obtain ⟨_, _, _, _, podDevices, _, looks, ended⟩ := connect_eq_ok ran
  have known : node.podDevices pod.selfLink = .ok podDevices := by
    rw [← call.vif.linked]
    exact looks.read.2
  rcases ended with ⟨_, rfl⟩ | ⟨pci, _, info, left, _, _, _, rfl⟩
  · rintro pci ⟨⟩
  · intro other listed
    rw [List.mem_singleton.mp listed]
    constructor
    · rintro ⟨others, knownToo, member⟩
      rw [known] at knownToo
      cases knownToo
      exact not_mem_of_find? left member
    · refine ⟨podDevices.set pci info, ?_, ?_⟩
      · rw [← call.vif.linked]
        exact podDevices_annotate _ _ _
      · exact Dict.mem_set.mpr (.inl rfl)

/-- A device that is annotated is not given to a later call. -/
theorem not_mem_of_annotated {calls : List (Connect pod)} {pci : String}
    (annotated : node.Annotated pod.selfLink pci) :
    ∀ ended ∈ conf.connects node calls, ended.1 = .ok ⟨⟩ → pci ∉ ended.2 := by
  induction calls generalizing node with
  | nil => rintro ended ⟨⟩
  | cons call rest ih =>
      intro ended listed returned
      rcases List.mem_cons.mp listed with rfl | later
      · intro taken
        exact (annotated_of_connect returned pci taken).1 annotated
      · exact ih (annotated_stable conf call pci node.begun annotated) ended later returned

/-- No device is given twice, whatever kubelet lists. -/
theorem connects_distinct (conf : BindingConf) (node : Node) (calls : List (Connect pod)) :
    (conf.connects node calls).Pairwise fun first second =>
      first.1 = .ok ⟨⟩ → second.1 = .ok ⟨⟩ → ∀ pci ∈ first.2, pci ∉ second.2 := by
  induction calls generalizing node with
  | nil => exact .nil
  | cons call rest ih =>
      apply List.Pairwise.cons _ (ih _)
      intro ended later returned returnedToo pci taken
      exact not_mem_of_annotated (annotated_of_connect returned pci taken).2 ended later
        returnedToo

end

/-- In a row of calls for one pod every call that returns has plugged a device of its own, and no
device is given twice, if and only if each call is fit where it begins. -/
theorem connect_plugs_own_iff (conf : BindingConf) {pod : PodKey} (node : Node)
    (calls : List (Connect pod)) :
    ConnectsOwn conf node calls ↔
      conf.EachConnect (fun call before => ¬Unfit conf call before) node calls := by
  have same : conf.EachConnect (PlugsOwn conf) node calls ↔
      conf.EachConnect (fun call before => ¬Unfit conf call before) node calls := by
    induction calls generalizing node with
    | nil => exact Iff.rfl
    | cons call rest ih => exact and_congr (plugsOwn_iff conf call node.begun) (ih _)
  rw [← same]
  exact ⟨fun own => own.each, fun each => ⟨each, connects_distinct conf node calls⟩⟩

/-- Devices with a driver of the kernel. -/
def kernelDevices : BindingConf where
  physnetResourceMappings := .ofList [("physnet", "sriov")]
  resourceDriverMappings := .ofList [("sriov", "mlx5_core")]
  devicePluginResourcePrefix := "intel.com"

/-- The pod `web` in the namespace `default`. -/
def defaultWeb : PodKey where
  namespaceName := "default"
  name := "web"

/-- A pod `web` that has one device. -/
def hasDevice (namespaceName pci : String) : PodResources where
  name := "web"
  namespaceName := namespaceName
  containers := [[⟨"intel.com/sriov", [pci]⟩]]

/-- A VIF of the pod, where kubelet lists these pods. -/
def connectWeb (resources : List PodResources) : Connect defaultWeb where
  vif := { id := "port", physnet := "physnet", podName := defaultWeb.name,
           podLink := defaultWeb.selfLink, named := rfl, linked := rfl }
  list := .ok resources
  configure _ driver := .ok driver

/-- The pod has annotations, and no devices in them. -/
def nothingAnnotated : Node where
  annotations := .ofList [(defaultWeb.selfLink, .unset)]

/-- The VIF gets the device of a pod with the same name, or none where the pod has none. -/
theorem connect_plugs_foreign :
    ¬ConnectsOwn kernelDevices nothingAnnotated
      [connectWeb [hasDevice "other" "0000:03:02.0", hasDevice "default" "0000:03:02.1"]] ∧
    ¬ConnectsOwn kernelDevices nothingAnnotated [connectWeb [⟨"web", "default", []⟩]] := by
  have saves (resources : List PodResources) : Saves kernelDevices (connectWeb resources) := by
    rintro ⟨⟩
  have mapped : kernelDevices.resourceAndDriver "physnet" =
      .ok ("intel.com/sriov", "mlx5_core") := by
    decide
  have known : nothingAnnotated.begun.podDevices defaultWeb.selfLink = .ok ∅ := by
    rfl
  have looks (podResource : PodResources) (rest : List PodResources)
      (found : (podResource :: rest).find? (·.name = "web") = some podResource) :
      Looks kernelDevices (connectWeb (podResource :: rest)) nothingAnnotated.begun
        (podResource :: rest) "intel.com/sriov" "mlx5_core" ∅ podResource :=
    ⟨rfl, mapped, ⟨rfl, known⟩, found⟩
  constructor
  · intro own
    apply (plugsOwn_iff _ _ _).mp own.each.1
    refine ⟨saves _, _, _, _, _, _, looks _ _ rfl,
      .inr ⟨"0000:03:02.0", "mlx5_core", ?_, rfl, rfl, ?_⟩⟩
    · decide
    · rintro ⟨resources, listed, _, inDefault, taken⟩
      rcases List.mem_cons.mp listed with rfl | listed
      · exact absurd inDefault (by decide)
      · rw [List.mem_singleton.mp listed] at taken
        exact absurd taken (by decide)
  · intro own
    apply (plugsOwn_iff _ _ _).mp own.each.1
    exact ⟨saves _, _, _, _, _, _, looks _ _ rfl, .inl rfl⟩

end KuryrKubernetes.Sriov

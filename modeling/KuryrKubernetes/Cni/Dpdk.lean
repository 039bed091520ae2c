import KuryrKubernetes.Cmd.Status

/-!
# The VIF of a DPDK device

`DpdkDriver.connect` sets the address and the driver of the device at the VIF, and `_set_vif` is to
store them in the annotation of the pod.  `PodState.vifs` makes a dictionary each time it is read.
-/

namespace KuryrKubernetes.Cni

open KuryrKubernetes.Data
open KuryrKubernetes.Cmd

/-! ## The driver -/

/-- `K8S_ANNOTATION_LABEL`. -/
def k8sAnnotationLabel : String := "openstack.org/kuryr-pod-label"

/-- What `_set_pod_details` asks `annotate` for: the VIFs, and the labels, or that there are
none. -/
structure PodDetails (τ : Type) where
  vifs : τ
  labels : Option τ

/-- `annotate`, for a pod with the annotations. -/
def PodDetails.annotate {τ : Type} (details : PodDetails τ) (annotations : Dict String τ) :
    Dict String τ :=
  let withVifs := annotations.set k8sAnnotationVif details.vifs
  match details.labels with
  | some labels => withVifs.set k8sAnnotationLabel labels
  | none => withVifs.erase k8sAnnotationLabel

section

variable {τ : Type} (codec : Codec τ) (unset : PyException)

/-- `extract_pod_annotation`. -/
def extractPodAnnotation : VersionedObject → Except PyException VersionedPodState
  | .podState state => .ok state
  | .vif vif => .ok { defaultVif := some vif }
  | .other _ => .error valueError

/-- `_get_pod_details`: the state, whose VIFs are logged. -/
def getPodDetails (pod : AnnotatedPod τ) : Except PyException VersionedPodState :=
  match pod.annotations with
  | none => .error .keyError
  | some annotations =>
      match annotations.get? k8sAnnotationVif with
      | none => .error .keyError
      | some text => do
          let object ← codec.loads text
          let state ← extractPodAnnotation object
          let _ ← vifs unset state
          return state

/-- `vif.id == vif_ex.id`. -/
def sameId (vif vifEx : VersionedVif) : Except PyException Bool :=
  match vif.data.get? "id", vifEx.data.get? "id" with
  | some id, some idEx => .ok (id = idEx)
  | _, _ => .error unset

/-- `state.vifs[ifname] = vif`: the dictionary that is written to, and the state after it. -/
def assignVif (state : VersionedPodState) (ifname : String) (vif : VersionedVif) :
    Except PyException (Dict String VersionedVif × VersionedPodState) := do
  let vifs ← vifs unset state
  return (vifs.set ifname vif, state)

/-- The loop of `_set_vif`. -/
def setVifLoop (vif : VersionedVif) :
    List (String × VersionedVif) → VersionedPodState → Except PyException VersionedPodState
  | [], state => return state
  | (ifname, vifEx) :: rest, state => do
      if ← sameId unset vif vifEx then
        let assigned ← assignVif unset state ifname vif
        return assigned.2
      else
        setVifLoop vif rest state

/-- `_set_pod_details`. -/
def setPodDetails (dumpsLabels : Dict String String → τ) (state : VersionedPodState)
    (labels : Option (Dict String String)) : PodDetails τ where
  vifs := codec.dumps (.podState state)
  labels := (labels.filter fun labels => !labels.items.isEmpty).map dumpsLabels

/-- `_set_vif`: what `annotate` is asked for. -/
def setVif (dumpsLabels : Dict String String → τ) (pod : AnnotatedPod τ)
    (labels : Option (Dict String String)) (vif : VersionedVif) :
    Except PyException (PodDetails τ) := do
  let state ← getPodDetails codec unset pod
  let vifs ← vifs unset state
  let changed ← setVifLoop unset vif vifs.items state
  return setPodDetails codec dumpsLabels changed labels

end

/-! ## What is stored -/

section

variable {τ : Type} {codec : Codec τ} {unset : PyException}
  {dumpsLabels : Dict String String → τ} {pod : AnnotatedPod τ}
  {labels : Option (Dict String String)} {vif : VersionedVif}

/-- The VIFs that are annotated at the pod, by their interfaces. -/
def Reads (codec : Codec τ) (unset : PyException) (pod : AnnotatedPod τ)
    (interfaces : Dict String VersionedVif) : Prop :=
  ∃ state, getPodDetails codec unset pod = .ok state ∧ vifs unset state = .ok interfaces

/-- All VIFs have ids, and the id of the VIF is one of them. -/
structure Occurs (interfaces : Dict String VersionedVif) (vif : VersionedVif) : Prop where
  identified : ∀ other ∈ interfaces.values, "id" ∈ other.data
  listed : ∃ old ∈ interfaces.values, old.data.get? "id" = vif.data.get? "id"

/-- The annotations hold the VIF under an interface that had its id, and all others as they
were. -/
def StoresVif (codec : Codec τ) (unset : PyException) (vif : VersionedVif)
    (interfaces : Dict String VersionedVif) (annotations : Dict String τ) : Prop :=
  ∃ text state stored ifname old, annotations.get? k8sAnnotationVif = some text ∧
    codec.loads text = .ok (.podState state) ∧ vifs unset state = .ok stored ∧
    interfaces.get? ifname = some old ∧ old.data.get? "id" = vif.data.get? "id" ∧
    stored.get? ifname = some vif ∧
    ∀ other, other ≠ ifname → stored.get? other = interfaces.get? other

/-- A VIF whose id is annotated is stored, whatever else is annotated by then. -/
def SetsVif (codec : Codec τ) (unset : PyException) (dumpsLabels : Dict String String → τ)
    (pod : AnnotatedPod τ) (labels : Option (Dict String String)) (vif : VersionedVif) : Prop :=
  ∀ interfaces, Reads codec unset pod interfaces → Occurs interfaces vif →
    ∃ details, setVif codec unset dumpsLabels pod labels vif = .ok details ∧
      ∀ annotations, StoresVif codec unset vif interfaces (details.annotate annotations)

/-- The loop leaves the state as it is. -/
theorem setVifLoop_eq_ok {items : List (String × VersionedVif)} {state : VersionedPodState}
    {interfaces : Dict String VersionedVif} (read : vifs unset state = .ok interfaces)
    (hasId : "id" ∈ vif.data) (identified : ∀ item ∈ items, "id" ∈ item.2.data) :
    setVifLoop unset vif items state = .ok state := by
  induction items with
  | nil => rfl
  | cons item rest ih =>
      obtain ⟨ifname, vifEx⟩ := item
      obtain ⟨first, others⟩ := List.forall_mem_cons.mp identified
      obtain ⟨id, isId⟩ := Dict.mem_iff_exists_get?.mp hasId
      obtain ⟨idEx, isIdEx⟩ := Dict.mem_iff_exists_get?.mp first
      have compared : sameId unset vif vifEx = .ok (decide (id = idEx)) := by
        unfold sameId
        rw [isId, isIdEx]
      unfold setVifLoop assignVif
      rw [compared, read]
      by_cases same : id = idEx
      · rw [decide_eq_true same]
        rfl
      · rw [decide_eq_false same]
        exact ih others

theorem get?_annotate (details : PodDetails τ) (annotations : Dict String τ) :
    (details.annotate annotations).get? k8sAnnotationVif = some details.vifs := by
  have apart : k8sAnnotationVif ≠ k8sAnnotationLabel := by decide
  unfold PodDetails.annotate
  cases details.labels with
  | none =>
      dsimp only
      rw [Dict.get?_erase, if_neg apart, Dict.get?_set_self]
  | some labels =>
      dsimp only
      rw [Dict.get?_set_of_ne _ _ apart, Dict.get?_set_self]

end

/-- `_set_vif` stores the VIF if and only if the annotation has it already. -/
theorem set_vif_stores_iff {τ : Type} (codec : Codec τ) (unset : PyException)
    (dumpsLabels : Dict String String → τ) (pod : AnnotatedPod τ)
    (labels : Option (Dict String String)) (vif : VersionedVif) :
    SetsVif codec unset dumpsLabels pod labels vif ↔
      ∀ interfaces, Reads codec unset pod interfaces → Occurs interfaces vif →
        vif ∈ interfaces.values := by
  apply forall_congr'
  intro interfaces
  apply forall_congr'
  rintro ⟨state, known, read⟩
  apply forall_congr'
  intro occurs
  have hasId : "id" ∈ vif.data := by
    obtain ⟨old, listed, same⟩ := occurs.listed
    rw [Dict.mem_iff_isSome, ← same, ← Dict.mem_iff_isSome]
    exact occurs.identified old listed
  have unchanged : setVifLoop unset vif interfaces.items state = .ok state := by
    apply setVifLoop_eq_ok read hasId
    exact fun item listed => occurs.identified item.2 (List.mem_map_of_mem listed)
  have asked : setVif codec unset dumpsLabels pod labels vif =
      .ok (setPodDetails codec dumpsLabels state labels) := by
    unfold setVif
    rw [known]
    change (vifs unset state >>= _) = _
    rw [read]
    change (setVifLoop unset vif interfaces.items state >>= _) = _
    rw [unchanged]
    rfl
  constructor
  · rintro ⟨details, given, stores⟩
    rw [asked] at given
    cases given
    obtain ⟨text, stored, storedVifs, ifname, old, found, loaded, isStored, _, _, holds, _⟩ :=
      stores ∅
    rw [get?_annotate] at found
    cases found
    have same := loaded.symm.trans (codec.loads_dumps (.podState state))
    cases same
    rw [read] at isStored
    cases isStored
    exact Dict.mem_values_iff.mpr ⟨ifname, holds⟩
  · intro already
    obtain ⟨ifname, holds⟩ := Dict.mem_values_iff.mp already
    refine ⟨_, asked, ?_⟩
    intro annotations
    exact ⟨_, state, interfaces, ifname, vif, get?_annotate _ _, codec.loads_dumps _, read, holds,
      rfl, holds, fun _ _ => rfl⟩

/-- Objects that stand for themselves. -/
def plainCodec : Codec VersionedObject where
  loads := .ok
  dumps object := object
  loads_dumps _ := rfl

/-- A VIF of a nested DPDK device. -/
def dpdkVif (fields : List (String × String)) : VersionedVif where
  objName := "VIFDPDKNested"
  version := "1.0"
  data := .ofList (("id", "port") :: fields)

/-- A pod with this VIF. -/
def dpdkPod : AnnotatedPod VersionedObject where
  namespaceName := "default"
  name := "web"
  annotations := some (.ofList
    [(k8sAnnotationVif, .podState { defaultVif := some (dpdkVif []) })])

/-- The address and the driver of the device are not stored. -/
theorem set_vif_stores_nothing :
    ¬SetsVif plainCodec .attributeError (fun _ => .other "labels") dpdkPod none
      (dpdkVif [("pci_address", "0000:00:05.0"), ("dev_driver", "virtio-pci")]) := by
  intro sets
  have reads : Reads plainCodec .attributeError dpdkPod
      (.ofList [(defaultIfname, dpdkVif [])]) := by
    refine ⟨{ defaultVif := some (dpdkVif []) }, by decide, by decide⟩
  have occurs : Occurs (.ofList [(defaultIfname, dpdkVif [])])
      (dpdkVif [("pci_address", "0000:00:05.0"), ("dev_driver", "virtio-pci")]) := by
    constructor
    · decide
    · exact ⟨dpdkVif [], by decide, by decide⟩
  obtain ⟨details, given, stores⟩ := sets _ reads occurs
  have asked : setVif plainCodec .attributeError (fun _ => .other "labels") dpdkPod none
      (dpdkVif [("pci_address", "0000:00:05.0"), ("dev_driver", "virtio-pci")]) =
      .ok ⟨.podState { defaultVif := some (dpdkVif []) }, none⟩ := by
    rfl
  rw [asked] at given
  cases given
  obtain ⟨text, state, stored, ifname, old, found, loaded, isStored, _, _, holds, _⟩ := stores ∅
  rw [get?_annotate] at found
  cases found
  cases loaded
  cases isStored
  have listed : dpdkVif [("pci_address", "0000:00:05.0"), ("dev_driver", "virtio-pci")] ∈
      (VersionedPodState.interfaces { defaultVif := some (dpdkVif []) } (dpdkVif [])).values :=
    Dict.mem_values_iff.mpr ⟨ifname, holds⟩
  exact absurd listed (by decide)

end KuryrKubernetes.Cni

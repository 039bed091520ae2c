import KuryrKubernetes.Objects

/-!
# Migration of the annotations of pods

`UpgradeCommands`: the check for annotations in old format, their update to `PodState`, and the
way back.  Old annotations hold a single VIF; a `PodState` may hold SR-IOV VIFs from before
version 1.1, which have no `pod_name` and `pod_link`.
-/

namespace KuryrKubernetes.Cmd

open KuryrKubernetes.Data

/-! ## Versioned objects -/

/-- A VIF object: its class, its version and the fields that are set. -/
structure VersionedVif where
  objName : String
  version : String
  data : Dict String String
  deriving DecidableEq

/-- `objects.vif.VIFSriov.obj_name()`. -/
def vifSriov : String := "VIFSriov"

/-- A `PodState`, whose `default_vif` may not be set. -/
structure VersionedPodState where
  defaultVif : Option VersionedVif
  additionalVifs : Dict String VersionedVif := ∅
  deriving DecidableEq

/-- What an annotation holds: a VIF, a `PodState`, or an object of another class. -/
inductive VersionedObject where
  | vif (vif : VersionedVif)
  | podState (state : VersionedPodState)
  | other (objName : String)
  deriving DecidableEq

/-- The serialization of versioned objects: what was written is read again. -/
structure Codec (τ : Type) where
  loads : τ → Except PyException VersionedObject
  dumps : VersionedObject → τ
  loads_dumps : ∀ object, loads (dumps object) = .ok object

/-- A pod with its annotations, which the API server leaves out where there are none. -/
structure AnnotatedPod (τ : Type) where
  namespaceName : String
  name : String
  annotations : Option (Dict String τ)
  deriving DecidableEq

/-- `K8S_ANNOTATION_VIF`. -/
def k8sAnnotationVif : String := "openstack.org/kuryr-vif"

/-- `ValueError`, which a field raises for an object of a wrong class. -/
def valueError : PyException :=
  .other "ValueError"

/-! ## Fields -/

section

variable (unset : PyException)

/-- `hasattr`: reading a field that is not set raises, and only an `AttributeError` is caught. -/
def hasattr (vif : VersionedVif) (field : String) : Except PyException Bool :=
  if field ∈ vif.data then
    .ok true
  else if unset = .attributeError then
    .ok false
  else
    .error unset

/-- `hasattr(obj, 'pod_name') and hasattr(obj, 'pod_link')`. -/
def hasPod (vif : VersionedVif) : Except PyException Bool := do
  if ← hasattr unset vif "pod_name" then
    hasattr unset vif "pod_link"
  else
    return false

/-- The VIFs by interface, for a default one. -/
def VersionedPodState.interfaces (state : VersionedPodState) (defaultVif : VersionedVif) :
    Dict String VersionedVif :=
  ((∅ : Dict String VersionedVif).set defaultIfname defaultVif).update state.additionalVifs

/-- `PodState.vifs`. -/
def vifs (state : VersionedPodState) : Except PyException (Dict String VersionedVif) :=
  match state.defaultVif with
  | none => .error unset
  | some defaultVif => .ok (state.interfaces defaultVif)

/-- The loop of `_has_valid_sriov_annot`. -/
def validSriov : List VersionedVif → Except PyException Bool
  | [] => return true
  | vif :: rest =>
      if vif.objName ≠ vifSriov then
        validSriov rest
      else do
        if ← hasPod unset vif then
          validSriov rest
        else
          return false

/-- `_has_valid_sriov_annot`. -/
def hasValidSriovAnnot (state : VersionedPodState) : Except PyException Bool := do
  let vifs ← vifs unset state
  validSriov unset vifs.values

/-- The new object gets the attributes of the old one, with the version among them. -/
def convertedSriov (vif : VersionedVif) : VersionedVif where
  objName := vifSriov
  version := vif.version
  data := vif.data

/-- The loop of `_convert_sriov`. -/
def convertSriovItems :
    List (String × VersionedVif) → Dict String VersionedVif →
      Except PyException (Dict String VersionedVif)
  | [], additionalVifs => return additionalVifs
  | (iface, vif) :: rest, additionalVifs =>
      if vif.objName ≠ vifSriov then
        convertSriovItems rest additionalVifs
      else do
        if ← hasPod unset vif then
          convertSriovItems rest additionalVifs
        else
          convertSriovItems rest (additionalVifs.set iface (convertedSriov vif))

/-- `_convert_sriov`. -/
def convertSriov (state : VersionedPodState) : Except PyException VersionedPodState := do
  let additionalVifs ← convertSriovItems unset state.additionalVifs.items state.additionalVifs
  return { state with additionalVifs }

end

/-! ## Commands -/

section

variable {τ : Type} (codec : Codec τ) (unset : PyException)

/-- `_get_annotation`. -/
def getAnnotation (pod : AnnotatedPod τ) : Except PyException (Option VersionedObject) :=
  match pod.annotations with
  | none => .error .keyError
  | some annotations =>
      match annotations.get? k8sAnnotationVif with
      | none => .ok none
      | some text => some <$> codec.loads text

/-- How `_check_annotations` counts a pod. -/
inductive Counted where
  | ignored
  | malformed
  | old
  | updated
  deriving DecidableEq

/-- A turn of `_check_annotations`. -/
def checkAnnotation (pod : AnnotatedPod τ) : Except PyException Counted :=
  match getAnnotation codec pod with
  | .error _ => .ok .malformed
  | .ok none => .ok .ignored
  | .ok (some (.podState state)) => do
      if ← hasValidSriovAnnot unset state then
        return .updated
      else
        return .old
  | .ok (some (.vif _)) | .ok (some (.other _)) => .ok .old

/-- The counts of old and malformed annotations. -/
structure AnnotationCounts where
  old : Nat := 0
  malformed : Nat := 0
  deriving DecidableEq

/-- One pod more. -/
def AnnotationCounts.add (counts : AnnotationCounts) : Counted → AnnotationCounts
  | .old => { counts with old := counts.old + 1 }
  | .malformed => { counts with malformed := counts.malformed + 1 }
  | .ignored | .updated => counts

/-- The loop of `_check_annotations`. -/
def countAnnotations : List (AnnotatedPod τ) → AnnotationCounts →
    Except PyException AnnotationCounts
  | [], counts => return counts
  | pod :: rest, counts => do
      let counted ← checkAnnotation codec unset pod
      countAnnotations rest (counts.add counted)

/-- The code and the details of an `UpgradeCheckResult`. -/
structure UpgradeCheckResult where
  code : Nat
  details : String
  deriving DecidableEq

/-- The result for the counts. -/
def AnnotationCounts.result (counts : AnnotationCounts) : UpgradeCheckResult :=
  let old := counts.old
  let malformed := counts.malformed
  if malformed = 0 ∧ old = 0 then
    ⟨0, "All annotations are updated."⟩
  else if old = 0 then
    ⟨1, s!"You have {malformed} malformed Kuryr pod annotations in your " ++
      "deployment. This is not blocking the upgrade, but consider investigating it."⟩
  else
    ⟨2, s!"You have {old} Kuryr pod annotations in old format. You need " ++
      "to run `kuryr-k8s-status upgrade update-annotations` before proceeding with the upgrade."⟩

/-- `_check_annotations`. -/
def checkAnnotations (pods : List (AnnotatedPod τ)) : Except PyException UpgradeCheckResult :=
  AnnotationCounts.result <$> countAnnotations codec unset pods {}

/-- What a command converts, and what it makes of it. -/
structure Conversion where
  test : VersionedObject → Except PyException Bool
  update : VersionedObject → Except PyException VersionedObject

/-- The numbers that are printed. -/
structure Stats where
  updated : Nat := 0
  malformed : Nat := 0
  notUpdated : Nat := 0
  deriving DecidableEq

/-- `annotate`, when it succeeds. -/
def AnnotatedPod.annotated (pod : AnnotatedPod τ) (text : τ) : AnnotatedPod τ :=
  { pod with annotations := some ((pod.annotations.getD ∅).set k8sAnnotationVif text) }

/-- A turn of `_convert_annotations`: what the pod and the numbers are then. -/
def convertAnnotation (conversion : Conversion) (refuses : AnnotatedPod τ → Option PyException)
    (pod : AnnotatedPod τ) (stats : Stats) : Except PyException (AnnotatedPod τ × Stats) :=
  match getAnnotation codec pod with
  | .error _ => .ok (pod, { stats with malformed := stats.malformed + 1 })
  | .ok none => .ok (pod, stats)
  | .ok (some object) => do
      if ← conversion.test object then
        let converted ← conversion.update object
        match refuses pod with
        | none =>
            return (pod.annotated (codec.dumps converted),
              { stats with updated := stats.updated + 1 })
        | some ex =>
            if ex.isK8sClientException then
              return (pod, { stats with
                updated := stats.updated + 1
                notUpdated := stats.notUpdated + 1 })
            else
              throw ex
      else
        return (pod, stats)

/-- `_convert_annotations`: the pods then, and the numbers unless it raised. -/
def convertAnnotations (conversion : Conversion)
    (refuses : AnnotatedPod τ → Option PyException) :
    List (AnnotatedPod τ) → Stats → List (AnnotatedPod τ) × Except PyException Stats
  | [], stats => ([], .ok stats)
  | pod :: rest, stats =>
      match convertAnnotation codec conversion refuses pod stats with
      | .error ex => (pod :: rest, .error ex)
      | .ok (converted, counted) =>
          let ended := convertAnnotations conversion refuses rest counted
          (converted :: ended.1, ended.2)

/-- The functions of `update_annotations`. -/
def toPodState : Conversion where
  test object :=
    match object with
    | .podState state => do return !(← hasValidSriovAnnot unset state)
    | .vif _ | .other _ => return true
  update object :=
    match object with
    | .vif vif => return .podState { defaultVif := some vif }
    | .podState state => do return .podState (← convertSriov unset state)
    | .other _ => throw valueError

/-- The functions of `downgrade_annotations`. -/
def toDefaultVif : Conversion where
  test object :=
    match object with
    | .podState _ => return true
    | .vif _ | .other _ => return false
  update object :=
    match object with
    | .podState state =>
        match state.defaultVif with
        | some vif => return .vif vif
        | none => throw unset
    | .vif _ | .other _ => throw .attributeError

/-- `update_annotations`. -/
def updateAnnotations (refuses : AnnotatedPod τ → Option PyException)
    (pods : List (AnnotatedPod τ)) : List (AnnotatedPod τ) × Except PyException Stats :=
  convertAnnotations codec (toPodState unset) refuses pods {}

/-- `downgrade_annotations`. -/
def downgradeAnnotations (refuses : AnnotatedPod τ → Option PyException)
    (pods : List (AnnotatedPod τ)) : List (AnnotatedPod τ) × Except PyException Stats :=
  convertAnnotations codec (toDefaultVif unset) refuses pods {}

end

end KuryrKubernetes.Cmd

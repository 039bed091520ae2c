import KuryrKubernetes.Cmd.Status
import Mathlib.Data.List.Forall2

/-!
# When annotations migrate

An update leaves no annotation in old format, and a downgrade undoes it, exactly where every pod
has annotations and every SR-IOV VIF has the fields of version 1.1: the update does not add them.
-/

namespace KuryrKubernetes.Cmd

open KuryrKubernetes.Data

/-! ## SR-IOV VIFs -/

/-- A VIF that is not of SR-IOV, or has the fields of version 1.1. -/
def VersionedVif.Attached (vif : VersionedVif) : Prop :=
  vif.objName = vifSriov → "pod_name" ∈ vif.data ∧ "pod_link" ∈ vif.data

/-- An object that the update leaves in the new format. -/
def VersionedObject.Fit : VersionedObject → Prop
  | .vif held => held.Attached
  | .podState state => ∃ defaultVif, state.defaultVif = some defaultVif ∧
      ∀ vif ∈ (state.interfaces defaultVif).values, vif.Attached
  | .other _ => False

section

variable {unset : PyException} {vif : VersionedVif} {state : VersionedPodState}

theorem hasattr_iff {field : String} :
    hasattr unset vif field = .ok true ↔ field ∈ vif.data := by
  unfold hasattr
  constructor
  · intro read
    split at read
    · assumption
    · split at read
      · cases read
      · cases read
  · intro set_
    rw [if_pos set_]

theorem hasPod_iff :
    hasPod unset vif = .ok true ↔ "pod_name" ∈ vif.data ∧ "pod_link" ∈ vif.data := by
  rw [← @hasattr_iff unset vif "pod_name", ← @hasattr_iff unset vif "pod_link"]
  unfold hasPod
  rcases hasattr unset vif "pod_name" with exception | _ | _
  · constructor
    · rintro ⟨⟩
    · rintro ⟨⟨⟩, _⟩
  · constructor
    · rintro ⟨⟩
    · rintro ⟨⟨⟩, _⟩
  · constructor
    · exact fun linked => ⟨rfl, linked⟩
    · exact fun both => both.2

theorem validSriov_iff {vifs : List VersionedVif} :
    validSriov unset vifs = .ok true ↔ ∀ vif ∈ vifs, vif.Attached := by
  induction vifs with
  | nil =>
      constructor
      · rintro _ vif ⟨⟩
      · exact fun _ => rfl
  | cons vif rest ih =>
      rw [List.forall_mem_cons]
      unfold validSriov
      by_cases sriov : vif.objName = vifSriov
      · rw [if_neg (not_not_intro sriov)]
        have attached : vif.Attached ↔ hasPod unset vif = .ok true := by
          rw [hasPod_iff]
          exact ⟨fun attached => attached sriov, fun both _ => both⟩
        rw [attached]
        rcases hasPod unset vif with exception | _ | _
        · constructor
          · rintro ⟨⟩
          · rintro ⟨⟨⟩, _⟩
        · constructor
          · rintro ⟨⟩
          · rintro ⟨⟨⟩, _⟩
        · constructor
          · exact fun valid => ⟨rfl, ih.mp valid⟩
          · exact fun both => ih.mpr both.2
      · rw [if_pos sriov, ih]
        constructor
        · exact fun later => ⟨fun same => absurd same sriov, later⟩
        · exact fun both => both.2

theorem hasValidSriovAnnot_iff :
    hasValidSriovAnnot unset state = .ok true ↔ (VersionedObject.podState state).Fit := by
  unfold hasValidSriovAnnot vifs
  cases defaultVif : state.defaultVif with
  | none =>
      constructor
      · rintro ⟨⟩
      · rintro ⟨other, set_, _⟩
        rw [defaultVif] at set_
        cases set_
  | some vif =>
      constructor
      · exact fun valid => ⟨vif, defaultVif, validSriov_iff.mp valid⟩
      · rintro ⟨other, set_, attached⟩
        rw [defaultVif] at set_
        cases set_
        exact validSriov_iff.mpr attached

/-- A `PodState` with only a default VIF. -/
theorem fit_default_iff :
    (VersionedObject.podState { defaultVif := some vif }).Fit ↔ vif.Attached := by
  have one : (VersionedPodState.interfaces { defaultVif := some vif } vif).values = [vif] := rfl
  unfold VersionedObject.Fit
  constructor
  · rintro ⟨_, ⟨⟩, attached⟩
    rw [one] at attached
    exact attached vif List.mem_cons_self
  · intro attached
    refine ⟨vif, rfl, ?_⟩
    rw [one]
    intro other listed
    rw [List.mem_singleton.mp listed]
    exact attached

/-- The conversion of an SR-IOV VIF gives the same object: the version goes with the attributes. -/
theorem convertedSriov_eq (sriov : vif.objName = vifSriov) : convertedSriov vif = vif := by
  rcases vif with ⟨objName, version, data⟩
  cases sriov
  rfl

theorem convertSriovItems_eq {items : List (String × VersionedVif)}
    {additionalVifs converted : Dict String VersionedVif}
    (there : ∀ item ∈ items, additionalVifs.get? item.1 = some item.2)
    (ran : convertSriovItems unset items additionalVifs = .ok converted) :
    converted = additionalVifs := by
  induction items with
  | nil =>
      cases ran
      rfl
  | cons item rest ih =>
      rcases item with ⟨iface, vif⟩
      have later : ∀ item ∈ rest, additionalVifs.get? item.1 = some item.2 :=
        fun item member => there item (List.mem_cons_of_mem _ member)
      unfold convertSriovItems at ran
      by_cases sriov : vif.objName = vifSriov
      · rw [if_neg (not_not_intro sriov)] at ran
        rcases pod : hasPod unset vif with exception | _ | _
        · rw [pod] at ran
          cases ran
        · rw [pod] at ran
          have same : additionalVifs.set iface (convertedSriov vif) = additionalVifs := by
            rw [convertedSriov_eq sriov]
            exact Dict.set_eq_self (there (iface, vif) List.mem_cons_self)
          have continued : convertSriovItems unset rest
              (additionalVifs.set iface (convertedSriov vif)) = .ok converted := ran
          rw [same] at continued
          exact ih later continued
        · rw [pod] at ran
          exact ih later ran
      · rw [if_pos sriov] at ran
        exact ih later ran

/-- `_convert_sriov` changes nothing. -/
theorem convertSriov_eq {converted : VersionedPodState}
    (ran : convertSriov unset state = .ok converted) : converted = state := by
  unfold convertSriov at ran
  rcases items : convertSriovItems unset state.additionalVifs.items state.additionalVifs with
    exception | additionalVifs
  · rw [items] at ran
    cases ran
  · rw [items] at ran
    cases ran
    have same := convertSriovItems_eq (fun item member => Dict.mem_items_iff.mp member) items
    rw [same]

end

/-! ## Lists of pods -/

section

variable {τ : Type} {codec : Codec τ} {unset : PyException} {conversion : Conversion}
  {refuses : AnnotatedPod τ → Option PyException} {pods : List (AnnotatedPod τ)}

/-- Where the command does not raise, every pod has had its turn. -/
theorem turns_of_convertAnnotations {stats last : Stats}
    (ran : (convertAnnotations codec conversion refuses pods stats).2 = .ok last) :
    List.Forall₂ (fun pod converted => ∃ before after,
        convertAnnotation codec conversion refuses pod before = .ok (converted, after))
      pods (convertAnnotations codec conversion refuses pods stats).1 := by
  induction pods generalizing stats with
  | nil => exact .nil
  | cons pod rest ih =>
      unfold convertAnnotations at ran ⊢
      rcases turn : convertAnnotation codec conversion refuses pod stats with
        exception | ⟨converted, counted⟩
      · rw [turn] at ran
        cases ran
      · rw [turn] at ran
        exact .cons ⟨stats, counted, turn⟩ (ih ran)

/-- Where every turn ends, with the pod it makes, so does the command. -/
theorem convertAnnotations_of_turns {made : AnnotatedPod τ → AnnotatedPod τ}
    {holds : Stats → Prop} {stats : Stats}
    (turn : ∀ pod ∈ pods, ∀ stats, holds stats → ∃ counted,
      convertAnnotation codec conversion refuses pod stats = .ok (made pod, counted) ∧
        holds counted)
    (initially : holds stats) :
    ∃ last, convertAnnotations codec conversion refuses pods stats = (pods.map made, .ok last) ∧
      holds last := by
  induction pods generalizing stats with
  | nil => exact ⟨stats, rfl, initially⟩
  | cons pod rest ih =>
      rcases turn pod List.mem_cons_self stats initially with ⟨counted, ran, kept⟩
      rcases ih (fun other later => turn other (List.mem_cons_of_mem _ later)) kept with
        ⟨last, continued, finally_⟩
      refine ⟨last, ?_, finally_⟩
      unfold convertAnnotations
      rw [ran]
      dsimp only
      rw [continued]
      rfl

theorem exists_of_forall₂ {α β : Type} {related : α → β → Prop} {first : List α}
    {second : List β} (all : List.Forall₂ related first second) {value : α}
    (member : value ∈ first) : ∃ other ∈ second, related value other := by
  induction all with
  | nil => cases member
  | cons head _ ih =>
      rcases List.mem_cons.mp member with rfl | later
      · exact ⟨_, List.mem_cons_self, head⟩
      · rcases ih later with ⟨other, listed, holds⟩
        exact ⟨other, List.mem_cons_of_mem _ listed, holds⟩

theorem countP_of_forall₂ {α : Type} {test : α → Bool} {first second : List α}
    (same : List.Forall₂ (fun value other => test other = test value) first second) :
    second.countP test = first.countP test := by
  induction same with
  | nil => rfl
  | cons head _ ih => rw [List.countP_cons, List.countP_cons, head, ih]

/-- The pod has a kuryr annotation that cannot be read. -/
def isMalformed (codec : Codec τ) (pod : AnnotatedPod τ) : Bool :=
  match pod.annotations.bind (·.get? k8sAnnotationVif) with
  | none => false
  | some text =>
      match codec.loads text with
      | .ok _ => false
      | .error _ => true

theorem getAnnotation_of_isMalformed {pod : AnnotatedPod τ} (malformed : isMalformed codec pod) :
    ∃ exception, getAnnotation codec pod = .error exception := by
  unfold isMalformed at malformed
  unfold getAnnotation
  cases annotations : pod.annotations with
  | none =>
      rw [annotations] at malformed
      cases malformed
  | some dict =>
      rw [annotations, Option.bind_some] at malformed
      dsimp only
      cases text : dict.get? k8sAnnotationVif with
      | none =>
          rw [text] at malformed
          cases malformed
      | some text' =>
          rw [text] at malformed
          dsimp only at malformed ⊢
          cases loaded : codec.loads text' with
          | ok object =>
              rw [loaded] at malformed
              cases malformed
          | error exception => exact ⟨exception, rfl⟩

/-- Pods that raise when their annotation is read have one that cannot be, or none at all. -/
theorem isMalformed_of_error {pod : AnnotatedPod τ} {exception : PyException}
    (raised : getAnnotation codec pod = .error exception) :
    pod.annotations = none ∨ isMalformed codec pod = true := by
  unfold getAnnotation at raised
  unfold isMalformed
  cases annotations : pod.annotations with
  | none => exact .inl rfl
  | some dict =>
      rw [annotations] at raised
      dsimp only at raised
      rw [Option.bind_some]
      cases text : dict.get? k8sAnnotationVif with
      | none =>
          rw [text] at raised
          cases raised
      | some text' =>
          rw [text] at raised
          dsimp only at raised ⊢
          cases loaded : codec.loads text' with
          | ok object =>
              rw [loaded] at raised
              cases raised
          | error other => exact .inr rfl

theorem not_isMalformed_of_ok {pod : AnnotatedPod τ} {answer : Option VersionedObject}
    (read : getAnnotation codec pod = .ok answer) : isMalformed codec pod = false := by
  cases malformed : isMalformed codec pod with
  | false => rfl
  | true =>
      rcases getAnnotation_of_isMalformed malformed with ⟨exception, raised⟩
      rw [raised] at read
      cases read

theorem checkAnnotation_of_isMalformed {pod : AnnotatedPod τ}
    (malformed : isMalformed codec pod) : checkAnnotation codec unset pod = .ok .malformed := by
  rcases getAnnotation_of_isMalformed malformed with ⟨exception, raised⟩
  unfold checkAnnotation
  rw [raised]

/-- A pod that is not counted as old, and as malformed only where its annotation is. -/
def CountedWell (codec : Codec τ) (unset : PyException) (pod : AnnotatedPod τ) : Prop :=
  ∃ counted, checkAnnotation codec unset pod = .ok counted ∧ counted ≠ .old ∧
    (counted = .malformed → isMalformed codec pod = true)

/-- Counts do not fall, and every malformed annotation is counted. -/
theorem counts_grow {counts last : AnnotationCounts}
    (ran : countAnnotations codec unset pods counts = .ok last) :
    counts.old ≤ last.old ∧
      counts.malformed + pods.countP (isMalformed codec) ≤ last.malformed := by
  induction pods generalizing counts with
  | nil =>
      cases ran
      exact ⟨Nat.le_refl _, Nat.le_refl _⟩
  | cons pod rest ih =>
      unfold countAnnotations at ran
      rcases turn : checkAnnotation codec unset pod with exception | counted
      · rw [turn] at ran
        cases ran
      · rw [turn] at ran
        have continued : countAnnotations codec unset rest (counts.add counted) = .ok last := ran
        rcases ih continued with ⟨old, malformed⟩
        rw [List.countP_cons]
        cases isBad : isMalformed codec pod with
        | true =>
            rw [checkAnnotation_of_isMalformed isBad] at turn
            cases turn
            have added : (counts.add .malformed).malformed = counts.malformed + 1 := rfl
            have same : (counts.add .malformed).old = counts.old := rfl
            rw [added] at malformed
            rw [same] at old
            refine ⟨old, ?_⟩
            rw [if_pos rfl]
            omega
        | false =>
            have least : counts.old ≤ (counts.add counted).old ∧
                counts.malformed ≤ (counts.add counted).malformed := by
              cases counted with
              | old => exact ⟨Nat.le_succ _, Nat.le_refl _⟩
              | malformed => exact ⟨Nat.le_refl _, Nat.le_succ _⟩
              | ignored | updated => exact ⟨Nat.le_refl _, Nat.le_refl _⟩
            refine ⟨least.1.trans old, ?_⟩
            rw [if_neg Bool.false_ne_true]
            omega

/-- No annotation is counted as old and only malformed ones as malformed exactly where that
holds of every pod. -/
theorem countAnnotations_iff {counts : AnnotationCounts} :
    countAnnotations codec unset pods counts = .ok {
      old := counts.old
      malformed := counts.malformed + pods.countP (isMalformed codec) } ↔
    ∀ pod ∈ pods, CountedWell codec unset pod := by
  induction pods generalizing counts with
  | nil =>
      constructor
      · rintro _ pod ⟨⟩
      · exact fun _ => rfl
  | cons pod rest ih =>
      rw [List.forall_mem_cons]
      unfold countAnnotations
      rcases turn : checkAnnotation codec unset pod with exception | counted
      · constructor
        · rintro ⟨⟩
        · rintro ⟨⟨counted, checked, _⟩, _⟩
          rw [turn] at checked
          cases checked
      · have matches_ (well : counted ≠ .old)
            (bad : counted = .malformed → isMalformed codec pod = true) :
            counts.add counted = {
              old := counts.old
              malformed := counts.malformed + if isMalformed codec pod then 1 else 0 } := by
          cases counted with
          | old => exact absurd rfl well
          | malformed =>
              rw [bad rfl]
              rfl
          | ignored | updated =>
              cases isBad : isMalformed codec pod with
              | false => rfl
              | true =>
                  rw [checkAnnotation_of_isMalformed isBad] at turn
                  cases turn
        rw [List.countP_cons]
        constructor
        · intro ran
          have continued : countAnnotations codec unset rest (counts.add counted) = .ok {
              old := counts.old
              malformed := counts.malformed +
                (rest.countP (isMalformed codec) + if isMalformed codec pod then 1 else 0) } :=
            ran
          have grown := counts_grow continued
          dsimp only at grown
          have well : counted ≠ .old := by
            rintro rfl
            have added : (counts.add .old).old = counts.old + 1 := rfl
            omega
          have bad : counted = .malformed → isMalformed codec pod = true := by
            rintro rfl
            cases isBad : isMalformed codec pod with
            | true => rfl
            | false =>
                have added : (counts.add .malformed).malformed = counts.malformed + 1 := rfl
                rw [isBad, if_neg Bool.false_ne_true] at grown
                omega
          refine ⟨⟨counted, turn, well, bad⟩, ?_⟩
          apply (@ih (counts.add counted)).mp
          rw [continued, matches_ well bad]
          dsimp only
          rw [Nat.add_assoc, Nat.add_comm (rest.countP _)]
        · rintro ⟨⟨same, checked, well, bad⟩, later⟩
          rw [turn] at checked
          cases checked
          have continued := (@ih (counts.add counted)).mpr later
          change countAnnotations codec unset rest (counts.add counted) = _
          rw [continued, matches_ well bad]
          dsimp only
          rw [Nat.add_assoc, Nat.add_comm (rest.countP _)]

end

/-! ## One pod -/

section

variable {τ : Type} (codec : Codec τ)

/-- A pod with annotations, whose annotation of kuryr is malformed or fit. -/
def FitPod (pod : AnnotatedPod τ) : Prop :=
  pod.annotations ≠ none ∧
    ∀ object, getAnnotation codec pod = .ok (some object) → object.Fit

/-- Every call of `annotate` succeeds. -/
def accepted (_ : AnnotatedPod τ) : Option PyException :=
  none

/-- What the update makes of a pod. -/
def upgraded (pod : AnnotatedPod τ) : AnnotatedPod τ :=
  match getAnnotation codec pod with
  | .ok (some (.vif vif)) =>
      pod.annotated (codec.dumps (.podState { defaultVif := some vif }))
  | _ => pod

/-- What the downgrade makes of a pod. -/
def downgraded (pod : AnnotatedPod τ) : AnnotatedPod τ :=
  match getAnnotation codec pod with
  | .ok (some (.podState { defaultVif := some vif, .. })) => pod.annotated (codec.dumps (.vif vif))
  | _ => pod

end

section

variable {τ : Type} {codec : Codec τ} {unset : PyException} {pod converted : AnnotatedPod τ}

theorem getAnnotation_annotated (object : VersionedObject) :
    getAnnotation codec (pod.annotated (codec.dumps object)) = .ok (some object) := by
  unfold getAnnotation AnnotatedPod.annotated
  dsimp only
  rw [Dict.get?_set_self]
  dsimp only
  rw [codec.loads_dumps]
  rfl

/-- The update leaves a pod that is updated, or has no annotation that can be read. -/
theorem update_leaves
    (new : ∀ object, getAnnotation codec pod = .ok (some object) →
      ∃ state, object = .podState state ∧ object.Fit) (stats : Stats) :
    ∃ counted, convertAnnotation codec (toPodState unset) accepted pod stats =
      .ok (pod, counted) ∧ counted.updated = stats.updated := by
  unfold convertAnnotation
  rcases read : getAnnotation codec pod with exception | _ | object
  · exact ⟨_, rfl, rfl⟩
  · exact ⟨_, rfl, rfl⟩
  · rcases new object read with ⟨state, rfl, fit⟩
    refine ⟨stats, ?_, rfl⟩
    unfold toPodState
    dsimp only
    rw [hasValidSriovAnnot_iff.mpr fit]
    rfl

/-- The update makes a `PodState` of a single VIF. -/
theorem update_turn (fit : FitPod codec pod) (stats : Stats) :
    ∃ counted, convertAnnotation codec (toPodState unset) accepted pod stats =
      .ok (upgraded codec pod, counted) := by
  rcases read : getAnnotation codec pod with exception | _ | object
  · unfold convertAnnotation upgraded
    rw [read]
    exact ⟨_, rfl⟩
  · unfold convertAnnotation upgraded
    rw [read]
    exact ⟨_, rfl⟩
  · cases object with
    | vif vif =>
        unfold convertAnnotation upgraded
        rw [read]
        exact ⟨_, rfl⟩
    | podState state =>
        have same : upgraded codec pod = pod := by
          unfold upgraded
          rw [read]
        have new : ∀ object, getAnnotation codec pod = .ok (some object) →
            ∃ state, object = .podState state ∧ object.Fit := by
          intro object again
          have isFit := fit.2 object again
          rw [read] at again
          cases again
          exact ⟨state, rfl, isFit⟩
        rcases @update_leaves τ codec unset pod new stats with ⟨counted, ran, _⟩
        rw [same]
        exact ⟨counted, ran⟩
    | other objName => exact (fit.2 _ read).elim

/-- A pod that is upgraded holds a `PodState` with valid VIFs, if anything that can be read. -/
theorem podState_of_upgraded (fit : FitPod codec pod) {object : VersionedObject}
    (read : getAnnotation codec (upgraded codec pod) = .ok (some object)) :
    ∃ state, object = .podState state ∧ object.Fit := by
  unfold upgraded at read
  rcases before : getAnnotation codec pod with exception | _ | old
  · rw [before] at read
    dsimp only at read
    rw [before] at read
    cases read
  · rw [before] at read
    dsimp only at read
    rw [before] at read
    cases read
  · rw [before] at read
    cases old with
    | vif vif =>
        dsimp only at read
        rw [getAnnotation_annotated] at read
        cases read
        exact ⟨_, rfl, fit_default_iff.mpr (fit.2 _ before)⟩
    | podState state =>
        dsimp only at read
        rw [before] at read
        cases read
        exact ⟨state, rfl, fit.2 _ before⟩
    | other objName => exact (fit.2 _ before).elim

theorem upgraded_annotations (fit : FitPod codec pod) : (upgraded codec pod).annotations ≠ none := by
  unfold upgraded
  split
  · rintro ⟨⟩
  · exact fit.1

theorem countedWell_upgraded (fit : FitPod codec pod) :
    CountedWell codec unset (upgraded codec pod) := by
  unfold CountedWell checkAnnotation
  rcases read : getAnnotation codec (upgraded codec pod) with exception | _ | object
  · refine ⟨.malformed, rfl, ?_, ?_⟩
    · rintro ⟨⟩
    · intro _
      rcases isMalformed_of_error read with none_ | malformed
      · exact absurd none_ (upgraded_annotations fit)
      · exact malformed
  · refine ⟨.ignored, rfl, ?_, ?_⟩
    · rintro ⟨⟩
    · rintro ⟨⟩
  · rcases podState_of_upgraded fit read with ⟨state, rfl, isFit⟩
    refine ⟨.updated, ?_, ?_, ?_⟩
    · dsimp only
      rw [hasValidSriovAnnot_iff.mpr isFit]
      rfl
    · rintro ⟨⟩
    · rintro ⟨⟩

theorem downgrade_turn (fit : FitPod codec pod) (stats : Stats) :
    ∃ counted, convertAnnotation codec (toDefaultVif unset) accepted (upgraded codec pod) stats =
      .ok (downgraded codec (upgraded codec pod), counted) := by
  unfold convertAnnotation downgraded
  rcases read : getAnnotation codec (upgraded codec pod) with exception | _ | object
  · exact ⟨_, rfl⟩
  · exact ⟨_, rfl⟩
  · rcases podState_of_upgraded fit read with ⟨state, rfl, isFit⟩
    rcases isFit with ⟨vif, set_, _⟩
    rcases state with ⟨defaultVif, additionalVifs⟩
    cases set_
    exact ⟨_, rfl⟩

/-- The downgrade gives an old annotation back. -/
theorem downgraded_upgraded {vif : VersionedVif}
    (old : getAnnotation codec pod = .ok (some (.vif vif))) :
    getAnnotation codec (downgraded codec (upgraded codec pod)) = .ok (some (.vif vif)) := by
  have new : getAnnotation codec (upgraded codec pod) =
      .ok (some (.podState { defaultVif := some vif })) := by
    unfold upgraded
    rw [old]
    exact getAnnotation_annotated _
  unfold downgraded
  rw [new]
  exact getAnnotation_annotated _

/-- A turn of the update leaves a malformed annotation malformed, and makes none. -/
theorem isMalformed_of_turn {before after : Stats}
    (turn : convertAnnotation codec (toPodState unset) accepted pod before =
      .ok (converted, after)) :
    isMalformed codec converted = isMalformed codec pod := by
  unfold convertAnnotation at turn
  rcases read : getAnnotation codec pod with exception | _ | object
  · rw [read] at turn
    cases turn
    rfl
  · rw [read] at turn
    cases turn
    rfl
  · rw [read] at turn
    rw [not_isMalformed_of_ok read]
    dsimp only at turn
    rcases tested : (toPodState unset).test object with exception | _ | _
    · rw [tested] at turn
      cases turn
    · rw [tested] at turn
      cases turn
      exact not_isMalformed_of_ok read
    · rw [tested] at turn
      rcases updated : (toPodState unset).update object with exception | new
      · simp only [bind, Except.bind, if_true, updated] at turn
        cases turn
      · simp only [bind, Except.bind, if_true, updated, accepted] at turn
        cases turn
        exact not_isMalformed_of_ok (getAnnotation_annotated new)

/-- A pod is fit that the update leaves with an annotation that is counted well. -/
theorem fitPod_of_turn {before after : Stats}
    (turn : convertAnnotation codec (toPodState unset) accepted pod before =
      .ok (converted, after))
    (well : CountedWell codec unset converted) : FitPod codec pod := by
  rcases well with ⟨counted, checked, notOld, malformed⟩
  unfold convertAnnotation at turn
  rcases read : getAnnotation codec pod with exception | _ | object
  · -- counted as malformed, so there is an annotation
    rw [read] at turn
    cases turn
    unfold checkAnnotation at checked
    rw [read] at checked
    cases checked
    constructor
    · intro none_
      have bad := malformed rfl
      unfold isMalformed at bad
      rw [none_] at bad
      cases bad
    · intro object again
      rw [read] at again
      cases again
  · constructor
    · intro none_
      unfold getAnnotation at read
      rw [none_] at read
      cases read
    · intro object again
      rw [read] at again
      cases again
  · have annotated : pod.annotations ≠ none := by
      intro none_
      unfold getAnnotation at read
      rw [none_] at read
      cases read
    refine ⟨annotated, ?_⟩
    intro same again
    rw [read] at again
    cases again
    rw [read] at turn
    dsimp only at turn
    unfold checkAnnotation at checked
    cases object with
    | vif vif =>
        cases turn
        rw [getAnnotation_annotated] at checked
        dsimp only at checked
        rcases valid : hasValidSriovAnnot unset { defaultVif := some vif } with exception | _ | _
        · rw [valid] at checked
          cases checked
        · rw [valid] at checked
          cases checked
          exact absurd rfl notOld
        · exact fit_default_iff.mp (hasValidSriovAnnot_iff.mp valid)
    | podState state =>
        rcases valid : hasValidSriovAnnot unset state with exception | _ | _
        · unfold toPodState at turn
          dsimp only at turn
          rw [valid] at turn
          cases turn
        · -- the update writes what was there, which is still old
          unfold toPodState at turn
          dsimp only at turn
          rw [valid] at turn
          rcases ran : convertSriov unset state with exception | new
          · rw [ran] at turn
            cases turn
          · rw [ran] at turn
            cases turn
            rw [getAnnotation_annotated, convertSriov_eq ran] at checked
            dsimp only at checked
            rw [valid] at checked
            cases checked
            exact absurd rfl notOld
        · exact hasValidSriovAnnot_iff.mp valid
    | other objName => cases turn

end

/-! ## The migration -/

/-- The update ends and leaves no annotation that is counted as old, nor one as malformed that is
not; running it again updates nothing, and the downgrade gives every old annotation back. -/
structure Migrates {τ : Type} (codec : Codec τ) (unset : PyException)
    (pods : List (AnnotatedPod τ)) : Prop where
  updates : ∃ stats, (updateAnnotations codec unset accepted pods).2 = .ok stats
  counts : countAnnotations codec unset (updateAnnotations codec unset accepted pods).1 {} =
    .ok { malformed := pods.countP (isMalformed codec) }
  again : ∃ stats, updateAnnotations codec unset accepted
      (updateAnnotations codec unset accepted pods).1 =
        ((updateAnnotations codec unset accepted pods).1, .ok stats) ∧ stats.updated = 0
  back : List.Forall₂ (fun pod after => ∀ vif,
      getAnnotation codec pod = .ok (some (.vif vif)) →
        getAnnotation codec after = .ok (some (.vif vif)))
    pods (downgradeAnnotations codec unset accepted
      (updateAnnotations codec unset accepted pods).1).1

theorem migrates_of_fit {τ : Type} {codec : Codec τ} {unset : PyException}
    {pods : List (AnnotatedPod τ)} (fit : ∀ pod ∈ pods, FitPod codec pod) :
    Migrates codec unset pods := by
  have turns : ∃ last, updateAnnotations codec unset accepted pods =
      (pods.map (upgraded codec), .ok last) ∧ True := by
    apply convertAnnotations_of_turns
    · intro pod member stats _
      rcases @update_turn τ codec unset pod (fit pod member) stats with ⟨counted, ran⟩
      exact ⟨counted, ran, trivial⟩
    · trivial
  rcases turns with ⟨last, ran, _⟩
  have counted : ∀ pod ∈ pods.map (upgraded codec), CountedWell codec unset pod := by
    intro pod member
    rcases List.mem_map.mp member with ⟨before, listed, rfl⟩
    exact countedWell_upgraded (fit before listed)
  have malformed : (pods.map (upgraded codec)).countP (isMalformed codec) =
      pods.countP (isMalformed codec) := by
    rw [List.countP_map]
    apply List.countP_congr
    intro pod member
    rcases @update_turn τ codec unset pod (fit pod member) {} with ⟨after, turn⟩
    rw [Function.comp_apply, isMalformed_of_turn turn]
  constructor
  · exact ⟨last, congrArg Prod.snd ran⟩
  · rw [ran, ← malformed]
    have sums := (@countAnnotations_iff τ codec unset (pods.map (upgraded codec)) {}).mpr counted
    rw [Nat.zero_add] at sums
    exact sums
  · rw [ran]
    have again : ∃ stats, convertAnnotations codec (toPodState unset) accepted
        (pods.map (upgraded codec)) {} =
          ((pods.map (upgraded codec)).map id, .ok stats) ∧ stats.updated = 0 := by
      apply convertAnnotations_of_turns
      · intro pod member stats none_
        rcases List.mem_map.mp member with ⟨before, listed, rfl⟩
        rcases @update_leaves τ codec unset (upgraded codec before)
          (fun object read => podState_of_upgraded (fit before listed) read) stats with
          ⟨after, left, same⟩
        exact ⟨after, left, same.trans none_⟩
      · rfl
    rw [List.map_id] at again
    exact again
  · rw [ran]
    have downs : ∃ last, downgradeAnnotations codec unset accepted (pods.map (upgraded codec)) =
        ((pods.map (upgraded codec)).map (downgraded codec), .ok last) ∧ True := by
      apply convertAnnotations_of_turns
      · intro pod member stats _
        rcases List.mem_map.mp member with ⟨before, listed, rfl⟩
        rcases @downgrade_turn τ codec unset before (fit before listed) stats with ⟨after, turn⟩
        exact ⟨after, turn, trivial⟩
      · trivial
    rcases downs with ⟨stats, down, _⟩
    dsimp only
    rw [down, List.map_map, List.forall₂_map_right_iff, List.forall₂_same]
    intro pod _ vif old
    exact downgraded_upgraded old

namespace Leftover

/-- Texts as what they hold; `none` is malformed. -/
def texts : Codec (Option VersionedObject) where
  loads text := text.elim (.error valueError) .ok
  dumps := some
  loads_dumps _ := rfl

def macvlan : VersionedVif where
  objName := "VIFMacvlanNested"
  version := "1.0"
  data := (∅ : Dict String String).set "vif_name" "eth0"

/-- An SR-IOV VIF from before version 1.1. -/
def sriov : VersionedVif where
  objName := vifSriov
  version := "1.0"
  data := (∅ : Dict String String).set "physnet" "physnet1"

/-- A pod in the network of its host; the API server gives it no annotations. -/
def hostPod : AnnotatedPod (Option VersionedObject) where
  namespaceName := "kube-system"
  name := "proxy"
  annotations := none

def sriovPod : AnnotatedPod (Option VersionedObject) where
  namespaceName := "default"
  name := "sriov"
  annotations := some ((∅ : Dict String (Option VersionedObject)).set k8sAnnotationVif
    (some (.podState {
      defaultVif := some macvlan
      additionalVifs := (∅ : Dict String VersionedVif).set "eth1" sriov })))

end Leftover

end KuryrKubernetes.Cmd

import KuryrKubernetes.Data.JsonPatch
import KuryrKubernetes.Effect.Program
import KuryrKubernetes.Objects

/-!
# The CRDs of earlier versions

When it starts, `NamespaceHandler` deletes the kuryrnets that earlier versions made, each after the
annotation of its namespace that named it.  The server applies JSON patches and answers requests by
what it stores.
-/

namespace KuryrKubernetes.Namespaces

open KuryrKubernetes.Data
open KuryrKubernetes.Effect

/-- `K8S_ANNOTATION_NET_CRD`. -/
def k8sAnnotationNetCrd : String := "openstack.org/kuryr-net-crd"

/-- Where the annotations of an object are. -/
def annotationsPath : List String := ["metadata", "annotations"]

/-- The metadata are an object, and so are the annotations where there are any. -/
def isNamespace (document : Document String) : Bool :=
  match document.get? ["metadata"] with
  | some (.object _) =>
      match document.get? annotationsPath with
      | some (.leaf _) => false
      | _ => true
  | _ => false

/-- A namespace as the server has it. -/
structure NamespaceObject where
  document : Document String
  valid : isNamespace document

namespace NamespaceObject

/-- An annotation, if it is there. -/
def annotationAt? (ns : NamespaceObject) (name : String) : Option (Document String) :=
  ns.document.get? (annotationsPath ++ [name])

/-- A patch, after which the server checks what became of the namespace. -/
def patch (ns : NamespaceObject) (operations : List RemoveOperation) : Option NamespaceObject :=
  (applyPatch operations ns.document).bind fun document =>
    if valid : isNamespace document then some ⟨document, valid⟩ else none

end NamespaceObject

/-- The server: its namespaces by their names, and the kuryrnets by theirs unless it knows no such
kind.  The kuryrnets that it deleted are only noted. -/
structure Cluster where
  namespaces : Dict String NamespaceObject
  kuryrnets : Option (Dict String (Document String))
  deleted : List String := []

/-! ## The client -/

/-- `get` of the kuryrnets: their names. -/
def getKuryrnets : Program PyException Cluster (List String) := do
  match (← get).kuryrnets with
  | some kuryrnets => return kuryrnets.keys
  | none => throw .k8sResourceNotFound

/-- `get` of the namespaces. -/
def getNamespaces : Program PyException Cluster (List (String × NamespaceObject)) := do
  return (← get).namespaces.items

/-- A patch of a namespace, and whether the response is ok. -/
def patchNamespace (name : String) (operations : List RemoveOperation) :
    Program PyException Cluster Bool := do
  let cluster ← get
  match (cluster.namespaces.get? name).bind (·.patch operations) with
  | some changed =>
      set { cluster with namespaces := cluster.namespaces.set name changed }
      return true
  | none => return false

/-- What `remove_annotations` sends. -/
def removal (annotationName : String) : List RemoveOperation :=
  [⟨"/metadata/annotations", some annotationName⟩]

/-- `remove_annotations`. -/
def removeAnnotations (name annotationName : String) : Program PyException Cluster PUnit := do
  if ← patchNamespace name (removal annotationName) then
    pure ⟨⟩
  else
    throw .k8sClientException

/-- `delete` of a kuryrnet. -/
def deleteKuryrnet (name : String) : Program PyException Cluster PUnit := do
  let cluster ← get
  match cluster.kuryrnets with
  | some kuryrnets =>
      if name ∈ kuryrnets then
        set { cluster with
          kuryrnets := some (kuryrnets.erase name), deleted := cluster.deleted ++ [name] }
      else
        throw .k8sResourceNotFound
  | none => throw .k8sResourceNotFound

/-! ## The handler -/

/-- The kuryrnets and the namespaces; none where the server knows no kuryrnets. -/
def retrieve :
    Program PyException Cluster (Option (List String × List (String × NamespaceObject))) :=
  tryCatch
    (do
      let netCrds ← getKuryrnets
      let namespaces ← getNamespaces
      return some (netCrds, namespaces))
    fun ex => if ex = .k8sResourceNotFound then return none else throw ex

/-- `ns_dict`. -/
def nsDict (namespaces : List (String × NamespaceObject)) :
    Dict String (String × NamespaceObject) :=
  .ofList (namespaces.map fun ns => ("ns-" ++ ns.1, ns))

/-- The annotation of the namespace of a kuryrnet is removed. -/
def stripNamespace (namespaces : Dict String (String × NamespaceObject)) (netCrd : String) :
    Program PyException Cluster PUnit :=
  match namespaces.get? netCrd with
  | none => pure ⟨⟩
  | some ns =>
      match ns.2.annotationAt? k8sAnnotationNetCrd with
      | none => pure ⟨⟩
      | some _ => removeAnnotations ns.1 k8sAnnotationNetCrd

/-- A turn of the loop. -/
def upgradeCrd (namespaces : Dict String (String × NamespaceObject)) (netCrd : String) :
    Program PyException Cluster PUnit := do
  stripNamespace namespaces netCrd
  tryCatch (deleteKuryrnet netCrd) fun ex =>
    if ex = .k8sResourceNotFound then pure ⟨⟩ else throw ex

/-- The loop over the kuryrnets. -/
def upgradeEach (namespaces : Dict String (String × NamespaceObject)) :
    List String → Program PyException Cluster PUnit
  | [] => pure ⟨⟩
  | netCrd :: rest => do
      upgradeCrd namespaces netCrd
      upgradeEach namespaces rest

/-- `_upgrade_crds`. -/
def upgradeCrds : Program PyException Cluster PUnit := do
  match ← retrieve with
  | none => pure ⟨⟩
  | some (netCrds, namespaces) => upgradeEach (nsDict namespaces) netCrds

/-! ## The removal of an annotation -/

/-- A namespace after `remove_annotations`, as it was where the patch fails. -/
def NamespaceObject.stripped (ns : NamespaceObject) : NamespaceObject :=
  (ns.patch (removal k8sAnnotationNetCrd)).getD ns

theorem applyPatch_removal (document : Document String) (annotationName : String) :
    applyPatch (removal annotationName) document = document.remove annotationsPath := by
  have pointer : jsonPointer "/metadata/annotations" = some annotationsPath := rfl
  simp [applyPatch, removal, RemoveOperation.apply, pointer]

/-- The annotations of a namespace that has some can be removed. -/
theorem exists_patch_removal {ns : NamespaceObject} {found : Document String} {name : String}
    (annotated : ns.annotationAt? name = some found) (annotationName : String) :
    ∃ changed, ns.patch (removal annotationName) = some changed := by
  unfold NamespaceObject.annotationAt? at annotated
  rw [Document.get?_append, Option.bind_eq_some_iff] at annotated
  obtain ⟨annotations, there, _⟩ := annotated
  obtain ⟨changed, removed⟩ := Document.exists_remove there
  have above : ∃ metadata, changed.get? ["metadata"] = some (.object metadata) :=
    Document.exists_object_of_remove removed
  obtain ⟨metadata, kept⟩ := above
  have gone : changed.get? annotationsPath = none := (Document.loses_of_remove removed).gone []
  have valid : isNamespace changed := by
    unfold isNamespace
    rw [kept, gone]
  refine ⟨⟨changed, valid⟩, ?_⟩
  unfold NamespaceObject.patch
  rw [applyPatch_removal]
  rw [show ns.document.remove annotationsPath = some changed from removed]
  exact dif_pos valid

/-- The annotations are all that is lost. -/
theorem loses_stripped {ns : NamespaceObject} {found : Document String} {name : String}
    (annotated : ns.annotationAt? name = some found) :
    ns.document.Loses ns.stripped.document annotationsPath := by
  obtain ⟨changed, patched⟩ := exists_patch_removal annotated k8sAnnotationNetCrd
  unfold NamespaceObject.stripped
  rw [patched, Option.getD_some]
  unfold NamespaceObject.patch at patched
  rw [applyPatch_removal] at patched
  obtain ⟨document, removed, checked⟩ := Option.bind_eq_some_iff.mp patched
  by_cases valid : isNamespace document
  · rw [dif_pos valid] at checked
    cases checked
    exact Document.loses_of_remove removed
  · rw [dif_neg valid] at checked
    cases checked

/-! ## What a run does -/

/-- A namespace after the turns for some kuryrnets. -/
def upgraded (netCrds : List String) (name : String) (ns : NamespaceObject) : NamespaceObject :=
  if "ns-" ++ name ∈ netCrds ∧ (ns.annotationAt? k8sAnnotationNetCrd).isSome then ns.stripped else ns

/-- The other namespaces stay as they are. -/
theorem upgraded_of_not_mem {netCrds : List String} {name : String}
    (other : "ns-" ++ name ∉ netCrds) : upgraded netCrds name = id := by
  funext ns
  exact if_neg fun both => other both.1

theorem get?_nsDict (namespaces : Dict String NamespaceObject) (netCrd name : String)
    (ns : NamespaceObject) :
    (nsDict namespaces.items).get? netCrd = some (name, ns) ↔
      netCrd = "ns-" ++ name ∧ namespaces.get? name = some ns := by
  have distinct : ((namespaces.items.map fun ns => ("ns-" ++ ns.1, ns)).map Prod.fst).Nodup := by
    rw [List.map_map]
    have named := namespaces.nodupKeys.map fun _ _ => (String.append_right_inj "ns-").mp
    rwa [List.map_map] at named
  rw [← Dict.mem_items_iff, ← Dict.mem_items_iff, nsDict, Dict.items_ofList distinct, List.mem_map]
  constructor
  · rintro ⟨item, listed, same⟩
    cases same
    exact ⟨rfl, listed⟩
  · rintro ⟨rfl, listed⟩
    exact ⟨(name, ns), listed, rfl⟩

/-- The namespaces of some kuryrnets are as they were read. -/
def Cluster.AsRead (cluster : Cluster) (namespaces : Dict String (String × NamespaceObject))
    (netCrds : List String) : Prop :=
  ∀ netCrd ∈ netCrds, ∀ name ns, namespaces.get? netCrd = some (name, ns) ↔
    netCrd = "ns-" ++ name ∧ cluster.namespaces.get? name = some ns

section

variable {cluster : Cluster} {namespaces : Dict String (String × NamespaceObject)}
  {netCrd : String} {rest : List String}

/-- The annotations of the namespace are gone, if it had the annotation. -/
theorem exec_stripNamespace (read : cluster.AsRead namespaces [netCrd]) :
    ∃ changed, exec (stripNamespace namespaces netCrd) cluster =
        (.ok ⟨⟩, { cluster with namespaces := changed }) ∧
      ∀ name, changed.get? name =
        (cluster.namespaces.get? name).map (upgraded [netCrd] name) := by
  have known := read netCrd List.mem_cons_self
  unfold stripNamespace
  cases found : namespaces.get? netCrd with
  | none =>
      refine ⟨cluster.namespaces, rfl, ?_⟩
      intro name
      cases there : cluster.namespaces.get? name with
      | none => rfl
      | some ns =>
          unfold upgraded
          rw [Option.map_some, if_neg]
          rintro ⟨same, _⟩
          have listed := (known name ns).mpr ⟨(List.mem_singleton.mp same).symm, there⟩
          rw [found] at listed
          cases listed
  | some item =>
      obtain ⟨name, ns⟩ := item
      obtain ⟨rfl, there⟩ := (known name ns).mp found
      have others (other : String) (different : other ≠ name) :
          upgraded ["ns-" ++ name] other = id := by
        apply upgraded_of_not_mem
        intro same
        exact different ((String.append_right_inj "ns-").mp (List.mem_singleton.mp same))
      dsimp only
      cases annotated : ns.annotationAt? k8sAnnotationNetCrd with
      | none =>
          refine ⟨cluster.namespaces, rfl, ?_⟩
          intro other
          by_cases same : other = name
          · subst other
            rw [there, Option.map_some, upgraded, annotated, if_neg]
            rintro ⟨_, ⟨⟩⟩
          · rw [others other same, Option.map_id, id]
      | some value =>
          obtain ⟨changed, patched⟩ := exists_patch_removal annotated k8sAnnotationNetCrd
          refine ⟨cluster.namespaces.set name changed, ?_, ?_⟩
          · dsimp only
            unfold removeAnnotations patchNamespace
            simp [exec_bind, there, patched]
          · intro other
            rw [Dict.get?_set]
            by_cases same : other = name
            · subst other
              rw [if_pos rfl, there, Option.map_some, upgraded, annotated, if_pos]
              · unfold NamespaceObject.stripped
                rw [patched, Option.getD_some]
              · exact ⟨List.mem_singleton.mpr rfl, rfl⟩
            · rw [if_neg same, others other same, Option.map_id, id]

/-- The turns for a kuryrnet and for those after it. -/
theorem upgraded_cons (fresh : netCrd ∉ rest) (name : String) (ns : NamespaceObject) :
    upgraded rest name (upgraded [netCrd] name ns) = upgraded (netCrd :: rest) name ns := by
  by_cases first : "ns-" ++ name = netCrd
  · have later : "ns-" ++ name ∉ rest := first ▸ fresh
    rw [upgraded_of_not_mem later]
    simp [upgraded, first]
  · have other : "ns-" ++ name ∉ [netCrd] := fun same => first (List.mem_singleton.mp same)
    rw [upgraded_of_not_mem other]
    simp [upgraded, first]

/-- The loop returns: it has upgraded all namespaces of the kuryrnets, and deleted these. -/
theorem exec_upgradeEach {netCrds : List String} {kuryrnets : Dict String (Document String)}
    (read : cluster.AsRead namespaces netCrds) (known : cluster.kuryrnets = some kuryrnets)
    (all : kuryrnets.keys = netCrds) :
    ∃ changed, exec (upgradeEach namespaces netCrds) cluster =
        (.ok ⟨⟩, ⟨changed, some ∅, cluster.deleted ++ netCrds⟩) ∧
      ∀ name, changed.get? name =
        (cluster.namespaces.get? name).map (upgraded netCrds name) := by
  induction netCrds generalizing cluster kuryrnets with
  | nil =>
      have none_ : kuryrnets = ∅ := Dict.ext_items (List.map_eq_nil_iff.mp all)
      refine ⟨cluster.namespaces, ?_, ?_⟩
      · subst none_
        rw [List.append_nil, ← known]
        rfl
      · intro name
        rw [upgraded_of_not_mem List.not_mem_nil, Option.map_id, id]
  | cons netCrd rest ih =>
      have distinct : (netCrd :: rest).Nodup := all ▸ kuryrnets.nodupKeys
      have fresh := (List.nodup_cons.mp distinct).1
      have first : cluster.AsRead namespaces [netCrd] := by
        intro crd listed
        rw [List.mem_singleton.mp listed]
        exact read netCrd List.mem_cons_self
      obtain ⟨stripped, ran, byName⟩ := exec_stripNamespace first
      have listed : netCrd ∈ kuryrnets := by
        rw [← Dict.mem_keys_iff, all]
        exact List.mem_cons_self
      have left : (kuryrnets.erase netCrd).keys = rest := by
        obtain ⟨item, items, same, rfl, others⟩ := List.map_eq_cons_iff.mp all
        change (Dict.eraseItems item.1 kuryrnets.items).map Prod.fst = rest
        rw [same, Dict.eraseItems, if_pos rfl]
        exact others
      have still : (Cluster.mk stripped (some (kuryrnets.erase netCrd))
          (cluster.deleted ++ [netCrd])).AsRead namespaces rest := by
        intro crd later name ns
        rw [read crd (List.mem_cons_of_mem _ later) name ns, byName]
        apply and_congr_right
        rintro rfl
        have different : "ns-" ++ name ∉ [netCrd] := by
          intro same
          exact fresh (List.mem_singleton.mp same ▸ later)
        rw [upgraded_of_not_mem different, Option.map_id, id]
      obtain ⟨changed, ended, upgrades⟩ := ih still rfl left
      refine ⟨changed, ?_, ?_⟩
      · have turned : exec (upgradeCrd namespaces netCrd) cluster =
            (.ok ⟨⟩, ⟨stripped, some (kuryrnets.erase netCrd), cluster.deleted ++ [netCrd]⟩) := by
          unfold upgradeCrd
          rw [exec_bind_of_ok ran]
          unfold deleteKuryrnet
          simp [exec_tryCatch, known, listed]
        unfold upgradeEach
        rw [exec_bind_of_ok turned, ended, List.append_assoc]
        rfl
      · intro name
        rw [upgrades, byName, Option.map_map]
        congr 1
        exact funext (upgraded_cons fresh name)

end

/-! ## The effect -/

/-- The kuryrnets that there are. -/
def Cluster.netCrds (cluster : Cluster) : List String :=
  (cluster.kuryrnets.getD ∅).keys

/-- The namespace is that of a kuryrnet, and has its annotation. -/
def Cluster.Matches (cluster : Cluster) (name : String) (ns : NamespaceObject) : Prop :=
  "ns-" ++ name ∈ cluster.netCrds ∧ (ns.annotationAt? k8sAnnotationNetCrd).isSome

/-- What is to become of the cluster: the namespaces of kuryrnets lose the annotation and nothing
else, the other ones stay as they are, and each kuryrnet is deleted once. -/
structure Upgraded (before after : Cluster) : Prop where
  names : ∀ name, name ∈ after.namespaces ↔ name ∈ before.namespaces
  lose : ∀ name ns changed, before.namespaces.get? name = some ns →
    after.namespaces.get? name = some changed → before.Matches name ns →
    ns.document.Loses changed.document (annotationsPath ++ [k8sAnnotationNetCrd])
  others : ∀ name ns, before.namespaces.get? name = some ns → ¬before.Matches name ns →
    after.namespaces.get? name = some ns
  deleted : after.deleted = before.deleted ++ before.netCrds
  rest : after.netCrds = []

/-- `_upgrade_crds` returns, and this has become of the cluster. -/
def Upgrades (cluster : Cluster) : Prop :=
  ∃ after, exec upgradeCrds cluster = (.ok ⟨⟩, after) ∧ Upgraded cluster after

/-- `_upgrade_crds` returns. -/
theorem exec_upgradeCrds (cluster : Cluster) :
    ∃ after, exec upgradeCrds cluster = (.ok ⟨⟩, after) ∧
      (∀ name, after.namespaces.get? name =
        (cluster.namespaces.get? name).map (upgraded cluster.netCrds name)) ∧
      after.deleted = cluster.deleted ++ cluster.netCrds ∧ after.netCrds = [] := by
  obtain ⟨namespaces, kuryrnets, deleted⟩ := cluster
  cases kuryrnets with
  | none =>
      refine ⟨⟨namespaces, none, deleted⟩, rfl, ?_, (List.append_nil _).symm, rfl⟩
      intro name
      exact (congrArg (Option.map · _) (upgraded_of_not_mem List.not_mem_nil)).trans
        Option.map_id_apply |>.symm
  | some kuryrnets =>
      have read : (Cluster.mk namespaces (some kuryrnets) deleted).AsRead
          (nsDict namespaces.items) kuryrnets.keys :=
        fun netCrd _ name ns => get?_nsDict namespaces netCrd name ns
      obtain ⟨changed, ran, byName⟩ := exec_upgradeEach read rfl rfl
      exact ⟨_, ran, byName, rfl, rfl⟩

/-- The upgrade is what it is to be if and only if the namespaces of kuryrnets have no other
annotation. -/
theorem upgrade_crds_removes_iff (cluster : Cluster) :
    Upgrades cluster ↔
      ∀ name ns, cluster.namespaces.get? name = some ns → cluster.Matches name ns →
        ∀ other, other ≠ k8sAnnotationNetCrd → ns.annotationAt? other = none := by
  obtain ⟨after, ran, byName, deleted, rest⟩ := exec_upgradeCrds cluster
  have matched (name : String) (ns : NamespaceObject) (known : cluster.Matches name ns) :
      upgraded cluster.netCrds name ns = ns.stripped :=
    if_pos known
  have lost (ns : NamespaceObject) (name : String) (known : cluster.Matches name ns) :
      ns.document.Loses ns.stripped.document annotationsPath := by
    obtain ⟨found, annotated⟩ := Option.isSome_iff_exists.mp known.2
    exact loses_stripped annotated
  constructor
  · rintro ⟨ended, ran', upgraded'⟩
    rw [ran] at ran'
    cases ran'
    intro name ns there known
    have stripped : after.namespaces.get? name = some ns.stripped := by
      rw [byName, there, Option.map_some, matched name ns known]
    have loses := upgraded'.lose name ns ns.stripped there stripped known
    exact ((lost ns name known).child_iff _).mp loses
  · intro alone
    refine ⟨after, ran, ?_, ?_, ?_, deleted, rest⟩
    · intro name
      rw [Dict.mem_iff_isSome, Dict.mem_iff_isSome, byName, Option.isSome_map]
    · intro name ns changed there became known
      rw [byName, there, Option.map_some, matched name ns known] at became
      cases became
      exact ((lost ns name known).child_iff _).mpr (alone name ns there known)
    · intro name ns there unknown
      rw [byName, there, Option.map_some]
      exact congrArg some (if_neg unknown)

/-- A namespace with the annotation and with one of someone else. -/
def ownedNamespace : NamespaceObject where
  document := .object [("metadata", .object [("annotations", .object
    [(k8sAnnotationNetCrd, .leaf "ns-web"), ("owner", .leaf "someone")])])]
  valid := rfl

/-- A cluster with this namespace and its kuryrnet. -/
def ownedCluster : Cluster where
  namespaces := .ofList [("web", ownedNamespace)]
  kuryrnets := some (.ofList [("ns-web", .object [])])

/-- The annotation of someone else is removed as well. -/
theorem upgrade_crds_removes_owner : ¬Upgrades ownedCluster := by
  rintro ⟨after, ran, becomes⟩
  obtain ⟨ended, finished, byName, _⟩ := exec_upgradeCrds ownedCluster
  cases ran.symm.trans finished
  have there : after.namespaces.get? "web" = some ownedNamespace.stripped := byName "web"
  have known : ownedCluster.Matches "web" ownedNamespace := ⟨by decide, rfl⟩
  have kept := (becomes.lose "web" ownedNamespace _ rfl there known).kept
    (annotationsPath ++ ["owner"]) (by decide) (by decide)
  have annotated : ownedNamespace.annotationAt? k8sAnnotationNetCrd = some (.leaf "ns-web") := rfl
  rw [(loses_stripped annotated).gone ["owner"]] at kept
  cases kept

end KuryrKubernetes.Namespaces

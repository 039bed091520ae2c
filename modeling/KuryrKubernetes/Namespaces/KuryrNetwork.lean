import KuryrKubernetes.Effect.Program
import KuryrKubernetes.Objects
import Mathlib.Data.Finset.Basic

/-!
# Networks of namespaces

A KuryrNetwork has in its `spec` what is asked for and in its `status` what was made.
`KuryrNetworkHandler` makes what is missing, and notes each part before the next one.
-/

namespace KuryrKubernetes.Namespaces

open KuryrKubernetes.Effect

/-- Labels, compared as dictionaries are. -/
abbrev Labels := Finset (String × String)

/-- `status`; what is left out is `none`. -/
structure Status where
  netId : Option Nat := none
  subnetId : Option Nat := none
  subnetCidr : Option String := none
  routerId : Option String := none
  populated : Option Bool := none
  nsLabels : Option Labels := none
  deriving DecidableEq

/-- A KuryrNetwork. -/
structure KuryrNetwork where
  nsName : String
  projectId : String
  nsLabels : Labels
  status : Status := {}
  deriving DecidableEq

/-- What `_patch_kuryrnetwork_crd` writes into the status. -/
inductive StatusPatch where
  | netId (netId : Nat)
  | subnet (subnetId : Nat) (subnetCidr : String)
  | router (routerId : String)
  | nsLabels (nsLabels : Labels)
  deriving DecidableEq

/-- The status with a patch.  The namespace is not populated where its router is new. -/
def Status.patch (status : Status) : StatusPatch → Status
  | .netId netId => { status with netId := some netId }
  | .subnet subnetId subnetCidr =>
      { status with subnetId := some subnetId, subnetCidr := some subnetCidr }
  | .router routerId => { status with routerId := some routerId, populated := some false }
  | .nsLabels nsLabels => { status with nsLabels := some nsLabels }

/-- The labels of a status, empty where there are none. -/
def Status.labels (status : Status) : Labels :=
  status.nsLabels.getD ∅

/-- What `KuryrNetworkHandler` works with.  `updateSgRules` is all that is done about
security groups when labels change. -/
structure KuryrNetworkHandler (W : Type) where
  createNetwork : (nsName projectId : String) → Program PyException W Nat
  createSubnet : (nsName projectId : String) → (netId : Nat) →
    Program PyException W (Nat × String)
  addSubnetToRouter : (subnetId : Nat) → Program PyException W String
  updateSgRules : (nsName : String) → Program PyException W PUnit
  patchStatus : StatusPatch → Program PyException W PUnit

namespace KuryrNetworkHandler

variable {W : Type} (handler : KuryrNetworkHandler W)

/-- `_patch_kuryrnetwork_crd`. -/
def patchKuryrnetworkCrd (patch : StatusPatch) : Program PyException W PUnit :=
  tryCatch (handler.patchStatus patch) fun ex =>
    if ex = .k8sResourceNotFound then pure ⟨⟩ else throw ex

/-- The network, and whether it is new to the status. -/
def ensureNetwork (crd : KuryrNetwork) : Program PyException W (Nat × Bool) :=
  match crd.status.netId with
  | some netId => return (netId, false)
  | none => do
      let netId ← handler.createNetwork crd.nsName crd.projectId
      handler.patchKuryrnetworkCrd (.netId netId)
      return (netId, true)

/-- The subnet, and whether it or the network is new to the status. -/
def ensureSubnet (crd : KuryrNetwork) (netId : Nat) (crdCreation : Bool) :
    Program PyException W (Nat × Bool) :=
  match crd.status.subnetId, crdCreation with
  | some subnetId, false => return (subnetId, false)
  | _, _ => do
      let subnet ← handler.createSubnet crd.nsName crd.projectId netId
      handler.patchKuryrnetworkCrd (.subnet subnet.1 subnet.2)
      return (subnet.1, true)

/-- The connection to the router, and whether anything is new to the status. -/
def ensureRouter (crd : KuryrNetwork) (subnetId : Nat) (crdCreation : Bool) :
    Program PyException W Bool :=
  match crd.status.routerId, crdCreation with
  | some _, false => return false
  | _, _ => do
      let routerId ← handler.addSubnetToRouter subnetId
      handler.patchKuryrnetworkCrd (.router routerId)
      return true

/-- The labels for which the rules of security groups were made. -/
def syncLabels (crd : KuryrNetwork) (crdCreation : Bool) : Program PyException W PUnit :=
  if crdCreation ∨ crd.status.labels ≠ crd.nsLabels then do
    handler.updateSgRules crd.nsName
    handler.patchKuryrnetworkCrd (.nsLabels crd.nsLabels)
  else
    pure ⟨⟩

/-- `on_present`. -/
def onPresent (crd : KuryrNetwork) : Program PyException W PUnit := do
  let network ← handler.ensureNetwork crd
  let subnet ← handler.ensureSubnet crd network.1 network.2
  let crdCreation ← handler.ensureRouter crd subnet.1 subnet.2
  handler.syncLabels crd crdCreation

end KuryrNetworkHandler

/-! ## The patches of a handling -/

/-- What the drivers answer. -/
structure Answers where
  netId : Nat
  subnetId : Nat
  subnetCidr : String
  routerId : String
  deriving DecidableEq

/-- The patches that `on_present` makes for a KuryrNetwork as an event shows it. -/
def KuryrNetwork.patches (crd : KuryrNetwork) (answers : Answers) : List StatusPatch :=
  let newNetwork := crd.status.netId.isNone
  let newSubnet := newNetwork || crd.status.subnetId.isNone
  let newRouter := newSubnet || crd.status.routerId.isNone
  (if newNetwork then [.netId answers.netId] else []) ++
    (if newSubnet then [.subnet answers.subnetId answers.subnetCidr] else []) ++
    (if newRouter then [.router answers.routerId] else []) ++
    if newRouter ∨ crd.status.labels ≠ crd.nsLabels then [.nsLabels crd.nsLabels] else []

/-- A handler whose drivers answer, and which notes its patches. -/
def scripted (answers : Answers) : KuryrNetworkHandler (List StatusPatch) where
  createNetwork _ _ := pure answers.netId
  createSubnet _ _ _ := pure (answers.subnetId, answers.subnetCidr)
  addSubnetToRouter _ := pure answers.routerId
  updateSgRules _ := pure ⟨⟩
  patchStatus patch := modify (· ++ [patch])

section

variable (answers : Answers) (crd : KuryrNetwork) (made : List StatusPatch)

theorem exec_ensureNetwork_scripted : ∃ netId,
    exec ((scripted answers).ensureNetwork crd) made =
      (.ok (netId, crd.status.netId.isNone),
        made ++ if crd.status.netId.isNone then [.netId answers.netId] else []) := by
  unfold KuryrNetworkHandler.ensureNetwork
  cases crd.status.netId with
  | none => exact ⟨answers.netId, rfl⟩
  | some netId =>
      refine ⟨netId, ?_⟩
      simp

theorem exec_ensureSubnet_scripted (netId : Nat) (crdCreation : Bool) : ∃ subnetId,
    exec ((scripted answers).ensureSubnet crd netId crdCreation) made =
      (.ok (subnetId, crdCreation || crd.status.subnetId.isNone),
        made ++ if crdCreation || crd.status.subnetId.isNone then
          [.subnet answers.subnetId answers.subnetCidr] else []) := by
  unfold KuryrNetworkHandler.ensureSubnet
  cases crd.status.subnetId with
  | none =>
      rw [Option.isNone_none, Bool.or_true]
      exact ⟨answers.subnetId, rfl⟩
  | some subnetId =>
      cases crdCreation with
      | true => exact ⟨answers.subnetId, rfl⟩
      | false =>
          refine ⟨subnetId, ?_⟩
          simp

theorem exec_ensureRouter_scripted (subnetId : Nat) (crdCreation : Bool) :
    exec ((scripted answers).ensureRouter crd subnetId crdCreation) made =
      (.ok (crdCreation || crd.status.routerId.isNone),
        made ++ if crdCreation || crd.status.routerId.isNone then
          [.router answers.routerId] else []) := by
  unfold KuryrNetworkHandler.ensureRouter
  cases crd.status.routerId with
  | none =>
      rw [Option.isNone_none, Bool.or_true]
      rfl
  | some routerId =>
      cases crdCreation with
      | true => rfl
      | false =>
          simp

/-- `on_present` makes these patches, one after the other. -/
theorem exec_onPresent_scripted :
    exec ((scripted answers).onPresent crd) made = (.ok ⟨⟩, made ++ crd.patches answers) := by
  rcases exec_ensureNetwork_scripted answers crd made with ⟨netId, network⟩
  unfold KuryrNetworkHandler.onPresent
  rw [exec_bind_of_ok network]
  rcases exec_ensureSubnet_scripted answers crd _ netId crd.status.netId.isNone with
    ⟨subnetId, subnet⟩
  rw [exec_bind_of_ok subnet,
    exec_bind_of_ok (exec_ensureRouter_scripted answers crd _ subnetId _)]
  unfold KuryrNetworkHandler.syncLabels KuryrNetwork.patches
  dsimp only
  rw [← List.append_assoc, ← List.append_assoc, ← List.append_assoc]
  split
  · rfl
  · rw [List.append_nil]
    rfl

/-- If the labels of the status are others than those asked for, a patch sets them. -/
theorem labels_mem_patches :
    crd.status.labels = crd.nsLabels ∨ .nsLabels crd.nsLabels ∈ crd.patches answers := by
  by_cases same : crd.status.labels = crd.nsLabels
  · exact .inl same
  · right
    unfold KuryrNetwork.patches
    apply List.mem_append_right
    rw [if_pos (Or.inr same)]
    exact List.mem_singleton_self _

end

end KuryrKubernetes.Namespaces

import KuryrKubernetes.Nested.Macvlan
import KuryrKubernetes.Transition.Run
import Mathlib.Data.List.Count
import Mathlib.Data.List.Dedup
import Mathlib.Logic.Function.Basic

/-!
# The allowed address pairs of a node

`request_vif` and `release_vif` of the MACVLAN driver for pods of one node, by any number of
threads.  Each of them reads the port of the node, works on its list of pairs and writes the list
back; Neutron refuses a write where the port has changed since it was read.
-/

namespace KuryrKubernetes.Nested

open KuryrKubernetes.Effect
open KuryrKubernetes.Transition

/-! ## Ports of pods -/

/-- The port of a pod.  Neutron gives every port a MAC address. -/
structure ContainerPort where
  id : Nat
  fixedIps : List String
  macAddress : PyString
  named : macAddress.text ≠ ""
  deriving DecidableEq

namespace ContainerPort

/-- `container_ips`. -/
def ips (container : ContainerPort) : List String :=
  container.fixedIps.dedup

/-- The pairs of the pod. -/
def pairs (container : ContainerPort) : List AddressPair :=
  container.ips.map fun ip => ⟨ip, container.macAddress.text⟩

end ContainerPort

deriving instance DecidableEq for VmPort

/-- The pairs of a port as Neutron has them. -/
def VmPort.pairs (vmPort : VmPort) : List AddressPair :=
  vmPort.allowedAddressPairs.map (·.sent)

/-! ## Threads -/

/-- Where a `request_vif` is, with the attempts that are left. -/
inductive RequestPhase where
  | waiting
  | asking (container : Option ContainerPort) (left : Nat)
  | creating (vmPort : VmPort) (left : Nat)
  | updating (vmPort : VmPort) (container : ContainerPort) (left : Nat)
  | served (container : ContainerPort)
  | failed
  deriving DecidableEq

/-- Where a `release_vif` is. -/
inductive ReleasePhase where
  | waiting
  | getting (id left : Nat)
  | asking (container : ContainerPort) (left : Nat)
  | updating (vmPort : VmPort) (container : ContainerPort) (left : Nat)
  | deleting (id : Nat) (container : Option ContainerPort)
  | done
  | failed
  deriving DecidableEq

namespace RequestPhase

/-- The port that was created. -/
def container : RequestPhase → Option ContainerPort
  | asking container _ => container
  | updating _ container _ | served container => some container
  | waiting | creating _ _ | failed => none

/-- The port of the node as it was read. -/
def vmPort : RequestPhase → Option VmPort
  | creating vmPort _ | updating vmPort _ _ => some vmPort
  | waiting | asking _ _ | served _ | failed => none

end RequestPhase

namespace ReleasePhase

/-- The port that was read. -/
def container : ReleasePhase → Option ContainerPort
  | asking container _ | updating _ container _ => some container
  | deleting _ container => container
  | waiting | getting _ _ | done | failed => none

/-- The id of the port that is released. -/
def id : ReleasePhase → Option Nat
  | getting id _ | deleting id _ => some id
  | asking container _ | updating _ container _ => some container.id
  | waiting | done | failed => none

/-- The port of the node as it was read. -/
def vmPort : ReleasePhase → Option VmPort
  | updating vmPort _ _ => some vmPort
  | waiting | getting _ _ | asking _ _ | deleting _ _ | done | failed => none

end ReleasePhase

/-- The port of the node, the ports of the pods, and the threads.  `created` are the ids that
Neutron has given out, `released` those for which a release has begun. -/
structure NodePairs where
  pairs : List AddressPair := []
  revision : Nat := 0
  containers : List ContainerPort := []
  created : List Nat := []
  released : List Nat := []
  requests : Nat → RequestPhase := fun _ => .waiting
  releases : Nat → ReleasePhase := fun _ => .waiting

namespace NodePairs

def moveRequest (node : NodePairs) (thread : Nat) (phase : RequestPhase) : NodePairs :=
  { node with requests := Function.update node.requests thread phase }

def moveRelease (node : NodePairs) (thread : Nat) (phase : ReleasePhase) : NodePairs :=
  { node with releases := Function.update node.releases thread phase }

/-- The list of pairs is written. -/
def write (node : NodePairs) (pairs : List AddressPair) : NodePairs :=
  { node with
    pairs
    revision := node.revision + 1 }

/-- Neutron answers the port of the node. -/
def Shows (node : NodePairs) (vmPort : VmPort) : Prop :=
  vmPort.pairs = node.pairs ∧ vmPort.revisionNumber = node.revision

instance (node : NodePairs) (vmPort : VmPort) : Decidable (node.Shows vmPort) :=
  inferInstanceAs (Decidable (_ ∧ _))

/-- `update_port` with `if_match`: what Neutron has then, and what is raised. -/
def updatePort (node : NodePairs) (vmPort : VmPort) (pairs : List AddressPair)
    (ending : Ending PyException) : NodePairs × Option PyException :=
  if vmPort.revisionNumber = node.revision then
    (ending.change node (node.write pairs), ending.exception?)
  else
    (node, some .sdkException)

/-- A new port has a new id, and no address of a port that is there. -/
def GivesOut (node : NodePairs) (container : ContainerPort) : Prop :=
  container.id ∉ node.created ∧
    ∀ other ∈ node.containers, ∀ pair ∈ container.pairs, pair ∉ other.pairs

instance (node : NodePairs) (container : ContainerPort) : Decidable (node.GivesOut container) :=
  inferInstanceAs (Decidable (_ ∧ ∀ other ∈ _, ∀ pair ∈ _, _))

end NodePairs

/-- `except o_exc.SDKException` in `_try_update_port`: another attempt is made. -/
def retries (exception : PyException) (left : Nat) : Bool :=
  exception.isSdkException ∧ left ≠ 0

/-! ## Steps -/

/-- A call to Neutron that a `request_vif` makes. -/
inductive RequestStep where
  | begin
  | getParentPort (vmPort : VmPort)
  | createPort (container : ContainerPort) (ending : Ending PyException)
  | updatePort (ending : Ending PyException)
  | raise

/-- A call to Neutron that a `release_vif` makes. -/
inductive ReleaseStep where
  | begin (request : Nat)
  | getPort (container : ContainerPort)
  | skip
  | getParentPort (vmPort : VmPort)
  | updatePort (ending : Ending PyException)
  | deletePort (ending : Ending PyException)
  | raise

/-- What happens: a thread goes on, or somebody else changes the port of the node. -/
inductive PairLabel where
  | request (thread : Nat) (step : RequestStep)
  | release (thread : Nat) (step : ReleaseStep)
  | edit (pairs : List AddressPair)

/-- The steps of a `request_vif`. -/
def requestStep (attempts : Nat) (node : NodePairs) (thread : Nat) :
    RequestStep → Option NodePairs
  | .begin =>
      match node.requests thread with
      | .waiting => some (node.moveRequest thread (.asking none attempts))
      | _ => none
  | .getParentPort vmPort =>
      if node.Shows vmPort then
        match node.requests thread with
        | .asking none (left + 1) => some (node.moveRequest thread (.creating vmPort left))
        | .asking (some container) (left + 1) =>
            some (node.moveRequest thread (.updating vmPort container left))
        | _ => none
      else
        none
  | .createPort container ending =>
      if node.GivesOut container then
        match node.requests thread with
        | .creating vmPort left =>
            let grown := { node with
              containers := container :: node.containers
              created := container.id :: node.created }
            some ((ending.change node grown).moveRequest thread
              (match ending.exception? with
              | some _ => .failed
              | none => .updating vmPort container left))
        | _ => none
      else
        none
  | .updatePort ending =>
      match node.requests thread with
      | .updating vmPort container left =>
          match addToAllowedAddressPairs vmPort container.ips container.macAddress with
          | .error _ => some (node.moveRequest thread .failed)
          | .ok pairs =>
              let updated := node.updatePort vmPort pairs ending
              some (updated.1.moveRequest thread
                (match updated.2 with
                | some ex => if retries ex left then .asking (some container) left else .failed
                | none => .served container))
      | _ => none
  | .raise =>
      match node.requests thread with
      | .asking _ _ | .creating _ _ | .updating _ _ _ => some (node.moveRequest thread .failed)
      | _ => none

/-- The steps of a `release_vif`.  A VIF is released after `request_vif` has given it; without
attempts the port is deleted at once. -/
def releaseStep (attempts : Nat) (node : NodePairs) (thread : Nat) :
    ReleaseStep → Option NodePairs
  | .begin request =>
      match node.releases thread, node.requests request with
      | .waiting, .served container =>
          some ({ node with released := container.id :: node.released }.moveRelease thread
            (.getting container.id attempts))
      | _, _ => none
  | .getPort container =>
      match node.releases thread with
      | .getting id (left + 1) =>
          if container ∈ node.containers ∧ container.id = id then
            some (node.moveRelease thread (.asking container left))
          else
            none
      | _ => none
  | .skip =>
      match node.releases thread with
      | .getting id 0 => some (node.moveRelease thread (.deleting id none))
      | _ => none
  | .getParentPort vmPort =>
      match node.releases thread with
      | .asking container left =>
          if node.Shows vmPort then
            some (node.moveRelease thread (.updating vmPort container left))
          else
            none
      | _ => none
  | .updatePort ending =>
      match node.releases thread with
      | .updating vmPort container left =>
          match removeFromAllowedAddressPairs vmPort container.ips container.macAddress with
          | .error _ => some (node.moveRelease thread .failed)
          | .ok none => some (node.moveRelease thread (.deleting container.id (some container)))
          | .ok (some pairs) =>
              let updated := node.updatePort vmPort pairs ending
              some (updated.1.moveRelease thread
                (match updated.2 with
                | some ex => if retries ex left then .getting container.id left else .failed
                | none => .deleting container.id (some container)))
      | _ => none
  | .deletePort ending =>
      match node.releases thread with
      | .deleting id _ =>
          let fewer := { node with containers := node.containers.filter (·.id ≠ id) }
          some ((ending.change node fewer).moveRelease thread
            (match ending.exception? with
            | some ex => if ex = .neutronNotFound then .done else .failed
            | none => .done))
      | _ => none
  | .raise =>
      match node.releases thread with
      | .getting _ _ | .asking _ _ | .updating _ _ _ | .deleting _ _ =>
          some (node.moveRelease thread .failed)
      | _ => none

/-- Others leave the pairs of the pods alone. -/
def NodePairs.Spares (node : NodePairs) (pairs : List AddressPair) : Prop :=
  ∀ container ∈ node.containers, ∀ pair ∈ container.pairs, pairs.count pair = node.pairs.count pair

instance (node : NodePairs) (pairs : List AddressPair) : Decidable (node.Spares pairs) :=
  inferInstanceAs (Decidable (∀ container ∈ _, ∀ pair ∈ _, _))

/-- The steps of all threads. -/
def pairStep (attempts : Nat) : Step NodePairs PairLabel
  | node, .request thread step => requestStep attempts node thread step
  | node, .release thread step => releaseStep attempts node thread step
  | node, .edit pairs => if node.Spares pairs then some (node.write pairs) else none

/-- A pair that the port of the node has is not added. -/
def RefusesPresent (vmPort : VmPort) (container : ContainerPort) : Prop :=
  (∃ pair ∈ container.pairs, pair ∈ vmPort.pairs) →
    addToAllowedAddressPairs vmPort container.ips container.macAddress =
      .error allowedAddressAlreadyPresent

instance (vmPort : VmPort) (container : ContainerPort) :
    Decidable (RefusesPresent vmPort container) :=
  inferInstanceAs (Decidable ((∃ pair ∈ _, _) → _))

/-- No pair is added that is there, and none is removed that another port has been given. -/
def Careful (node : NodePairs) : PairLabel → Prop
  | .request thread (.updatePort _) =>
      match node.requests thread with
      | .updating vmPort container _ => RefusesPresent vmPort container
      | _ => True
  | .release thread (.updatePort _) =>
      match node.releases thread with
      | .updating _ container _ =>
          ∀ other ∈ node.containers, other.id ≠ container.id →
            ∀ pair ∈ container.pairs, pair ∉ other.pairs
      | _ => True
  | _ => True

/-! ## Adding and removing -/

section

variable {vmPort : VmPort} {container : ContainerPort} {pairs sent : List AddressPair}
  {pair : AddressPair}

theorem nodup_ips (container : ContainerPort) : container.ips.Nodup :=
  container.fixedIps.nodup_dedup

theorem nodup_pairs (container : ContainerPort) : container.pairs.Nodup := by
  apply List.Nodup.map
  · intro first second same
    exact congrArg AddressPair.ipAddress same
  · exact nodup_ips container

theorem macFor_macAddress (vmPort : VmPort) (container : ContainerPort) :
    vmPort.macFor container.macAddress = container.macAddress := by
  unfold VmPort.macFor
  rw [if_neg container.named]

theorem sent_of_add (added : addToAllowedAddressPairs vmPort container.ips container.macAddress =
    .ok sent) : sent = vmPort.pairs ++ container.pairs := by
  unfold addToAllowedAddressPairs at added
  dsimp only at added
  rw [macFor_macAddress] at added
  split at added
  · cases added
  · split at added
    · cases added
    · cases added
      rfl

/-- A list that the driver sends has a new pair once. -/
theorem count_of_add (refuses : RefusesPresent vmPort container)
    (added : addToAllowedAddressPairs vmPort container.ips container.macAddress = .ok sent)
    (mine : pair ∈ container.pairs) : sent.count pair = 1 := by
  have new : pair ∉ vmPort.pairs := by
    intro there
    have refused := refuses ⟨pair, mine, there⟩
    rw [added] at refused
    cases refused
  rw [sent_of_add added, List.count_append, List.count_eq_zero_of_not_mem new, Nat.zero_add]
  exact List.count_eq_one_of_mem (nodup_pairs container) mine

theorem count_of_add_of_not_mem
    (added : addToAllowedAddressPairs vmPort container.ips container.macAddress = .ok sent)
    (other : pair ∉ container.pairs) : sent.count pair = vmPort.pairs.count pair := by
  rw [sent_of_add added, List.count_append, List.count_eq_zero_of_not_mem other, Nat.add_zero]

theorem removePairs_count_le (mac : String) (ips : List String) (pairs : List AddressPair)
    (updated : Bool) (pair : AddressPair) :
    (removePairs mac ips pairs updated).1.count pair ≤ pairs.count pair := by
  induction ips generalizing pairs updated with
  | nil => exact Nat.le_refl _
  | cons ip rest ih =>
      unfold removePairs
      split
      · exact (ih _ _).trans (List.erase_sublist.count_le pair)
      · exact ih _ _

/-- Other pairs stay. -/
theorem removePairs_count_of_not_mem {mac : String} {ips : List String}
    (other : pair ∉ ips.map fun ip => (⟨ip, mac⟩ : AddressPair)) (pairs : List AddressPair)
    (updated : Bool) : (removePairs mac ips pairs updated).1.count pair = pairs.count pair := by
  induction ips generalizing pairs updated with
  | nil => rfl
  | cons ip rest ih =>
      rw [List.map_cons, List.mem_cons, not_or] at other
      unfold removePairs
      split
      · rw [ih other.2, List.count_erase_of_ne other.1]
      · exact ih other.2 _ _

/-- A pair that was there once is gone. -/
theorem removePairs_count_of_mem {mac : String} {ips : List String}
    (mine : pair ∈ ips.map fun ip => (⟨ip, mac⟩ : AddressPair)) {pairs : List AddressPair}
    (once : pairs.count pair ≤ 1) (updated : Bool) :
    (removePairs mac ips pairs updated).1.count pair = 0 := by
  induction ips generalizing pairs updated with
  | nil => cases mine
  | cons ip rest ih =>
      rw [List.map_cons, List.mem_cons] at mine
      unfold removePairs
      by_cases there : (⟨ip, mac⟩ : AddressPair) ∈ pairs
      · rw [if_pos there]
        rcases mine with rfl | later
        · have gone : (pairs.erase ⟨ip, mac⟩).count ⟨ip, mac⟩ = 0 := by
            rw [List.count_erase_self]
            omega
          exact Nat.le_zero.mp ((removePairs_count_le mac rest _ true _).trans (Nat.le_of_eq gone))
        · exact ih later ((List.erase_sublist.count_le pair).trans once) true
      · rw [if_neg there]
        rcases mine with rfl | later
        · have gone : pairs.count ⟨ip, mac⟩ = 0 := List.count_eq_zero_of_not_mem there
          exact Nat.le_zero.mp
            ((removePairs_count_le mac rest _ updated _).trans (Nat.le_of_eq gone))
        · exact ih later once updated

/-- Nothing was removed where no pair was there. -/
theorem not_mem_of_not_updated {mac : String} {ips : List String} {pairs : List AddressPair}
    {updated : Bool} (unchanged : (removePairs mac ips pairs updated).2 = false) :
    updated = false ∧ ∀ ip ∈ ips, (⟨ip, mac⟩ : AddressPair) ∉ pairs := by
  induction ips generalizing pairs updated with
  | nil =>
      refine ⟨unchanged, ?_⟩
      rintro ip ⟨⟩
  | cons ip rest ih =>
      unfold removePairs at unchanged
      split at unchanged
      · cases (ih unchanged).1
      · rename_i absent
        rcases ih unchanged with ⟨before, later⟩
        refine ⟨before, ?_⟩
        intro other listed
        rcases List.mem_cons.mp listed with rfl | among
        · exact absent
        · exact later other among

/-- Removing what was added gives the list back. -/
theorem removePairs_append {mac : String} {ips : List String} {pairs : List AddressPair}
    (distinct : ips.Nodup) (new : ∀ ip ∈ ips, (⟨ip, mac⟩ : AddressPair) ∉ pairs) (updated : Bool) :
    removePairs mac ips (pairs ++ ips.map fun ip => ⟨ip, mac⟩) updated =
      (pairs, updated || !ips.isEmpty) := by
  induction ips generalizing updated with
  | nil =>
      unfold removePairs
      rw [List.map_nil, List.append_nil, List.isEmpty_nil, Bool.not_true, Bool.or_false]
  | cons ip rest ih =>
      rw [List.nodup_cons] at distinct
      have absent : (⟨ip, mac⟩ : AddressPair) ∉ pairs := new ip List.mem_cons_self
      have there : (⟨ip, mac⟩ : AddressPair) ∈ pairs ++ (ip :: rest).map fun ip => ⟨ip, mac⟩ :=
        List.mem_append_right _ List.mem_cons_self
      have erased : (pairs ++ (ip :: rest).map fun ip => (⟨ip, mac⟩ : AddressPair)).erase
          ⟨ip, mac⟩ = pairs ++ rest.map fun ip => ⟨ip, mac⟩ := by
        rw [List.erase_append_right _ absent, List.map_cons, List.erase_cons_head]
      unfold removePairs
      rw [if_pos there, erased, ih distinct.2 (fun other later =>
        new other (List.mem_cons_of_mem ip later))]
      cases updated with
      | false => rfl
      | true => rfl

theorem removed_of_remove {answer : Option (List AddressPair)}
    (removed : removeFromAllowedAddressPairs vmPort container.ips container.macAddress =
      .ok answer) :
    answer = (let left := removePairs container.macAddress.text container.ips vmPort.pairs false
      if left.2 then some left.1 else none) := by
  unfold removeFromAllowedAddressPairs at removed
  rw [macFor_macAddress] at removed
  split at removed
  · cases removed
  · cases removed
    rfl

/-- What is added to a list without the pairs is removed from the list that was sent. -/
theorem remove_of_add {again : VmPort} (some_ : container.ips ≠ [])
    (new : ∀ pair ∈ container.pairs, pair ∉ vmPort.pairs)
    (added : addToAllowedAddressPairs vmPort container.ips container.macAddress = .ok sent)
    (written : again.pairs = sent) :
    removeFromAllowedAddressPairs again container.ips container.macAddress =
      .ok (some vmPort.pairs) := by
  have isSent : again.allowedAddressPairs.map (·.sent) =
      vmPort.pairs ++ container.ips.map fun ip => ⟨ip, container.macAddress.text⟩ :=
    written.trans (sent_of_add added)
  have absent (ip : String) (listed : ip ∈ container.ips) :
      (⟨ip, container.macAddress.text⟩ : AddressPair) ∉ vmPort.pairs :=
    new _ (List.mem_map_of_mem listed)
  unfold removeFromAllowedAddressPairs
  rw [if_neg some_, macFor_macAddress]
  dsimp only
  rw [isSent, removePairs_append (nodup_ips container) absent]
  have updated : (false || !container.ips.isEmpty) = true := by
    rw [Bool.false_or, Bool.not_eq_true', List.isEmpty_eq_false_iff]
    exact some_
  rw [updated]
  rfl

/-- The object that holds the MAC address of the pod is in a pair with an address of the pod. -/
def SameObject (vmPort : VmPort) (container : ContainerPort) : Prop :=
  ∃ answered ∈ vmPort.allowedAddressPairs, answered.ipAddress ∈ container.ips ∧
    answered.macAddress.object = container.macAddress.object

/-- A pair that is there is refused only where it has the very object as MAC address. -/
theorem refusesPresent_iff (some_ : container.ips ≠ []) :
    RefusesPresent vmPort container ↔
      (∀ pair ∈ container.pairs, pair ∉ vmPort.pairs) ∨ SameObject vmPort container := by
  have found : (vmPort.allowedAddressPairs.any fun pair =>
      decide (pair.ipAddress ∈ container.ips) &&
        pair.macAddress.object == container.macAddress.object) = true ↔
      SameObject vmPort container := by
    unfold SameObject
    simp only [List.any_eq_true, Bool.and_eq_true, decide_eq_true_eq, beq_iff_eq]
  have refused : addToAllowedAddressPairs vmPort container.ips container.macAddress =
      .error allowedAddressAlreadyPresent ↔ SameObject vmPort container := by
    unfold addToAllowedAddressPairs
    dsimp only
    rw [if_neg some_, macFor_macAddress, ← found]
    constructor
    · intro raised
      split at raised
      · assumption
      · cases raised
    · intro same
      rw [if_pos same]
  unfold RefusesPresent
  rw [refused]
  constructor
  · intro refuses
    by_cases present : ∃ pair ∈ container.pairs, pair ∈ vmPort.pairs
    · exact .inr (refuses present)
    · refine .inl fun pair mine there => present ⟨pair, mine, there⟩
  · rintro (new | same) ⟨pair, mine, there⟩
    · exact absurd there (new pair mine)
    · exact same

end

end KuryrKubernetes.Nested

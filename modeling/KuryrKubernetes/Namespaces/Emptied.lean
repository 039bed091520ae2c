import KuryrKubernetes.Namespaces.Finalized

/-!
# How many attempts a namespace takes

Where every call is served and nobody else does anything, the first attempt takes ports
off their trunks, the next one deletes them, and the one after that deletes the network.
A port that is not DOWN stays, and so does its network.
-/

namespace KuryrKubernetes.Namespaces.Deletion

open KuryrKubernetes.Data
open KuryrKubernetes.Effect
open KuryrKubernetes.Transition

/-! ## What one attempt does -/

/-- Calls are served, and nobody else does anything. -/
structure World.Smooth (world : World) : Prop where
  served : ∀ label, world.endings label = .served
  quiet : ∀ label neutron, (world.others label).move neutron = neutron
  detaches : world.interfaceError = none

/-- An attempt whose calls are served. -/
structure Attempt.Smooth (attempt : Attempt) : Prop where
  served : ∀ label, attempt.endings label = .served
  quiet : ∀ label neutron, (attempt.others label).move neutron = neutron
  detaches : attempt.interfaceError = none

/-- What becomes of a port that is DOWN: it is deleted, or taken off its trunk. -/
def Port.tidied (port : Port) : Option Port :=
  port.trunkId.map fun _ => { port with trunkId := none }

/-- The ports after one of them was deleted or taken off its trunk. -/
def tidy (ports : Dict Nat Port) (id : Nat) : Dict Nat Port :=
  match (ports.get? id).bind Port.tidied with
  | some port => ports.set id port
  | none => ports.erase id

/-- What becomes of any port in an attempt. -/
def Port.afterAttempt (netId : Nat) (port : Port) : Option Port :=
  if port.isDown ∧ port.networkId = netId then port.tidied else some port

/-- The ports of a network that are DOWN. -/
def downIds (neutron : Neutron) (netId : Nat) : List Nat :=
  (neutron.ports.items.filter fun item =>
    item.2.isDown ∧ item.2.networkId = netId).map Prod.fst

/-- Neutron where the pools and the router are done with a network. -/
def Neutron.cleared (neutron : Neutron) (pooled : List Nat) (subnetId : Option Nat)
    (netId : Nat) : Neutron :=
  match subnetId with
  | none => neutron.unpooled pooled netId
  | some subnetId => (neutron.unpooled pooled netId).detached subnetId

theorem subportNote_within (origin : List Char) (id : Nat) (trunkId : TrunkId) :
    subportNote <:+: subportText origin id trunkId := by
  have note : " is currently a subport for trunk ".toList =
      " is ".toList ++ subportNote ++ [' '] := by
    decide
  refine ⟨origin ++ "Port ".toList ++ Nat.toDigits 10 id ++ " is ".toList,
    [' '] ++ trunkId.text ++ ['.'], ?_⟩
  rw [subportText, note]
  simp only [List.append_assoc]

section

variable {world : World} (smooth : world.Smooth)
include smooth

theorem World.Smooth.with_neutron (neutron : Neutron) : World.Smooth { world with neutron } :=
  ⟨smooth.served, smooth.quiet, smooth.detaches⟩

theorem exec_call {α : Type} (label : Call) (operation : WorldM α) :
    exec (call label operation) world = exec operation world := by
  have same : { world with neutron := (world.others label).move world.neutron } = world := by
    rw [smooth.quiet]
  rw [call, exec_modify_bind, same, exec_serve_of_served (smooth.served label)]

/-- A subnet that is off the router already is no error. -/
theorem exec_detach (subnetId : Nat) :
    exec (NamespacePodSubnetDriver.detach subnetId) world =
      (.ok ⟨⟩, { world with neutron := world.neutron.detached subnetId }) := by
  have answers : exec (NeutronClient.removeInterfaceFromRouter subnetId) world =
      if subnetId ∈ world.neutron.attached then
        (.ok none, { world with neutron := world.neutron.detached subnetId })
      else
        (.ok (some { type := "RouterInterfaceNotFoundForSubnet", message := "" }), world) := by
    rw [NeutronClient.removeInterfaceFromRouter, exec_call smooth, exec_get_bind]
    simp only [smooth.detaches]
    split
    · rfl
    · rfl
  rw [NamespacePodSubnetDriver.detach, exec_tryCatch, handleNeutronErrors, exec_bind, answers]
  by_cases attached : subnetId ∈ world.neutron.attached
  · simp [attached]
  · have same : world.neutron.detached subnetId = world.neutron := by
      have others : world.neutron.attached.filter (· ≠ subnetId) = world.neutron.attached := by
        rw [List.filter_eq_self]
        rintro id listed
        exact decide_eq_true fun equal => attached (equal ▸ listed)
      rw [Neutron.detached, others]
    simp [attached, same]

theorem exec_deletePort (origin : Origin) (id : Nat) :
    exec (NeutronClient.deletePort origin id) world =
      match (world.neutron.ports.get? id).bind Port.trunkId with
      | some trunkId =>
          (.error { exception := .neutronConflict, text := subportText origin.text id trunkId },
            world)
      | none =>
          (.ok ⟨⟩, { world with
            neutron := world.neutron.withPorts (world.neutron.ports.erase id) }) := by
  rw [NeutronClient.deletePort, exec_call smooth, exec_get_bind]
  cases (world.neutron.ports.get? id).bind Port.trunkId with
  | none => rfl
  | some trunkId => rfl

/-- A subport is taken off the trunk that it is on. -/
theorem exec_takeOffTrunk (origin : Origin) {id : Nat} {port : Port} {trunkId : TrunkId}
    (there : world.neutron.ports.get? id = some port) (subport : port.trunkId = some trunkId) :
    exec (NamespacePodSubnetDriver.takeOffTrunk id (subportText origin.text id trunkId)) world =
      (.ok ⟨⟩, { world with
        neutron := world.neutron.withPorts
          (world.neutron.ports.set id { port with trunkId := none }) }) := by
  have deletes : exec (NeutronClient.deleteTrunkSubports trunkId.text id) world =
      (.ok ⟨⟩, { world with
        neutron := world.neutron.withPorts
          (world.neutron.ports.set id { port with trunkId := none }) }) := by
    rw [NeutronClient.deleteTrunkSubports, exec_call smooth, exec_get_bind, there]
    simp [subport]
  simp only [NamespacePodSubnetDriver.takeOffTrunk, trunkIdIn_subportText]
  rw [exec_tryCatch, deletes]

theorem exec_deleteLeftoverPort (origin : Origin) (id : Nat) :
    exec (NamespacePodSubnetDriver.deleteLeftoverPort origin id) world =
      (.ok ⟨⟩, { world with
        neutron := world.neutron.withPorts (tidy world.neutron.ports id) }) := by
  rw [NamespacePodSubnetDriver.deleteLeftoverPort, exec_tryCatch, exec_deletePort smooth, tidy]
  cases there : world.neutron.ports.get? id with
  | none => rfl
  | some port =>
      cases subport : port.trunkId with
      | none => simp [subport, Port.tidied]
      | some trunkId =>
          have noted : subportNote <:+: subportText origin.text id trunkId :=
            subportNote_within origin.text id trunkId
          simp only [Option.bind_some, subport, PyException.isSdkException, if_true, if_pos noted,
            exec_takeOffTrunk smooth origin there subport, Port.tidied, Option.map_some]

/-- The loop over the leftover ports. -/
theorem exec_leftoverPorts (origin : Origin) (ids : List Nat) :
    exec (ids.forM (NamespacePodSubnetDriver.deleteLeftoverPort origin)) world =
      (.ok ⟨⟩, { world with
        neutron := world.neutron.withPorts (ids.foldl tidy world.neutron.ports) }) := by
  induction ids generalizing world with
  | nil => rfl
  | cons id rest ih =>
      rw [forM_cons_eq, exec_bind_of_ok (exec_deleteLeftoverPort smooth origin id),
        ih (smooth.with_neutron _)]
      rfl

/-- Neutron after an attempt that left the network. -/
def Neutron.tidied (neutron : Neutron) (netId : Nat) : Neutron :=
  neutron.withPorts ((downIds neutron netId).foldl tidy neutron.ports)

theorem exec_deleteLeftoverPorts (origin : Origin) (netId : Nat) :
    exec (NamespacePodSubnetDriver.deleteLeftoverPorts origin netId) world =
      (.error { exception := .resourceNotReady },
        { world with neutron := world.neutron.tidied netId }) := by
  have lists : exec (NeutronClient.downPorts netId) world =
      (.ok (downIds world.neutron netId), world) := by
    rw [NeutronClient.downPorts, exec_call smooth]
    rfl
  rw [NamespacePodSubnetDriver.deleteLeftoverPorts, exec_bind_of_ok lists,
    exec_bind_of_ok (exec_leftoverPorts smooth origin _)]
  rfl

theorem exec_deleteNetwork (netId : Nat) :
    exec (NeutronClient.deleteNetwork netId) world =
      if world.neutron.InUse netId then (.error { exception := .neutronConflict }, world)
      else (.ok ⟨⟩, { world with neutron := world.neutron.withoutNetwork netId }) := by
  rw [NeutronClient.deleteNetwork, exec_call smooth, exec_get_bind]
  split
  · rfl
  · rfl

/-- The driver deletes the network, or what it can delete of the ports. -/
theorem exec_deleteNetwork_or_ports (origin : Origin) (netId : Nat) :
    exec (tryCatch (NeutronClient.deleteNetwork netId) fun failure =>
        if failure.exception = .neutronConflict then
          NamespacePodSubnetDriver.deleteLeftoverPorts origin netId
        else throw failure) world =
      if world.neutron.InUse netId then
        (.error { exception := .resourceNotReady },
          { world with neutron := world.neutron.tidied netId })
      else (.ok ⟨⟩, { world with neutron := world.neutron.withoutNetwork netId }) := by
  rw [exec_tryCatch, exec_deleteNetwork smooth]
  by_cases used : world.neutron.InUse netId
  · simp [used, exec_deleteLeftoverPorts smooth]
  · simp [used]

variable {status : Status} {netId : Nat} (given : status.netId = some netId)
include given

theorem exec_deleteNetworkOf (origin : Origin) :
    exec (deleteNetworkOf origin status) world =
      if (world.neutron.cleared world.pooled status.subnetId netId).InUse netId then
        (.error { exception := .resourceNotReady },
          { world with
            neutron := (world.neutron.cleared world.pooled status.subnetId netId).tidied netId })
      else
        (.ok ⟨⟩,
          { world with
            neutron :=
              (world.neutron.cleared world.pooled status.subnetId netId).withoutNetwork netId }) := by
  have pools : exec (deleteNetworkPools netId) world =
      (.ok ⟨⟩, { world with neutron := world.neutron.unpooled world.pooled netId }) := by
    rw [deleteNetworkPools, exec_call smooth]
    rfl
  have emptied := smooth.with_neutron (world.neutron.unpooled world.pooled netId)
  simp only [deleteNetworkOf, given]
  rw [exec_bind_of_ok pools]
  simp only [NamespacePodSubnetDriver.deleteNamespaceSubnet, given,
    NamespacePodSubnetDriver.deleteNamespaceNetworkResources]
  cases status.subnetId with
  | none => exact exec_deleteNetwork_or_ports emptied origin netId
  | some subnetId =>
      have detaches := exec_detach emptied subnetId
      simp only
      rw [exec_bind_of_ok detaches]
      exact exec_deleteNetwork_or_ports (emptied.with_neutron _) origin netId

/-- The finalizer goes with the network. -/
theorem exec_onFinalize (origin : Origin) :
    exec (onFinalize origin (some status)) world =
      if (world.neutron.cleared world.pooled status.subnetId netId).InUse netId then
        (.error { exception := .resourceNotReady },
          { world with
            neutron := (world.neutron.cleared world.pooled status.subnetId netId).tidied netId })
      else
        (.ok ⟨⟩,
          { world with
            neutron :=
              (world.neutron.cleared world.pooled status.subnetId netId).withoutNetwork netId
            finalizer := false }) := by
  have deletes := exec_deleteNetworkOf smooth given origin
  by_cases used : (world.neutron.cleared world.pooled status.subnetId netId).InUse netId
  · rw [if_pos used] at deletes ⊢
    rw [onFinalize, exec_bind_of_error deletes]
  · rw [if_neg used] at deletes ⊢
    have gone := smooth.with_neutron
      ((world.neutron.cleared world.pooled status.subnetId netId).withoutNetwork netId)
    have rules := (exec_call gone .deleteSgRules (pure PUnit.unit)).trans (exec_pure _ _)
    rw [onFinalize, exec_bind_of_ok deletes, deleteNamespaceSgRules, exec_bind_of_ok rules,
      removeFinalizer, exec_call gone]
    rfl

end

/-! ## What is left for the next attempt -/

theorem get?_tidy (ports : Dict Nat Port) (id other : Nat) :
    (tidy ports id).get? other =
      if other = id then (ports.get? id).bind Port.tidied else ports.get? other := by
  unfold tidy
  cases (ports.get? id).bind Port.tidied with
  | none => simp [Dict.get?_erase, eq_comm]
  | some port => simp [Dict.get?_set, eq_comm]

theorem get?_foldl_tidy {ids : List Nat} (distinct : ids.Nodup) (ports : Dict Nat Port)
    (other : Nat) :
    (ids.foldl tidy ports).get? other =
      if other ∈ ids then (ports.get? other).bind Port.tidied else ports.get? other := by
  induction ids generalizing ports with
  | nil => simp
  | cons id rest ih =>
      obtain ⟨first, remaining⟩ := List.nodup_cons.mp distinct
      rw [List.foldl_cons, ih remaining, get?_tidy]
      by_cases same : other = id
      · subst same
        simp [first]
      · simp [same]

theorem nodup_downIds (neutron : Neutron) (netId : Nat) : (downIds neutron netId).Nodup :=
  neutron.ports.nodupKeys.sublist (List.filter_sublist.map Prod.fst)

theorem mem_downIds {neutron : Neutron} {netId id : Nat} :
    id ∈ downIds neutron netId ↔
      ∃ port, neutron.ports.get? id = some port ∧ port.isDown ∧ port.networkId = netId := by
  simp only [downIds, List.mem_map, List.mem_filter, decide_eq_true_eq]
  constructor
  · rintro ⟨⟨_, port⟩, ⟨listed, down⟩, rfl⟩
    exact ⟨port, Dict.mem_items_iff.mp listed, down⟩
  · rintro ⟨port, found, down⟩
    exact ⟨(id, port), ⟨Dict.mem_items_iff.mpr found, down⟩, rfl⟩

theorem get?_tidied (neutron : Neutron) (netId id : Nat) :
    (neutron.tidied netId).ports.get? id =
      (neutron.ports.get? id).bind (Port.afterAttempt netId) := by
  rw [Neutron.tidied, Neutron.withPorts, get?_foldl_tidy (nodup_downIds neutron netId)]
  cases found : neutron.ports.get? id with
  | none => simp
  | some port =>
      have listed : id ∈ downIds neutron netId ↔ port.isDown ∧ port.networkId = netId := by
        simp [mem_downIds, found]
      simp only [listed, Option.bind_some, Port.afterAttempt]

namespace Port

variable {netId : Nat} {port after : Port}

/-- A port stays where it is and DOWN or not. -/
theorem of_afterAttempt (left : port.afterAttempt netId = some after) :
    after.networkId = port.networkId ∧ after.isDown = port.isDown := by
  unfold afterAttempt tidied at left
  split at left
  · obtain ⟨_, _, rfl⟩ := Option.map_eq_some_iff.mp left
    exact ⟨rfl, rfl⟩
  · cases left
    exact ⟨rfl, rfl⟩

/-- A port of the network that is DOWN is left as it comes off a trunk. -/
theorem afterAttempt_of_down (down : port.isDown = true) (onNetwork : port.networkId = netId) :
    port.afterAttempt netId = port.tidied :=
  if_pos ⟨down, onNetwork⟩

end Port

namespace Neutron

/-- What neither the pools nor the router nor an attempt take off a network. -/
def Stuck (neutron : Neutron) (netId : Nat) : Prop :=
  (∃ item ∈ neutron.ports.items, item.2.networkId = netId ∧ ¬item.2.isDown) ∨
    ∃ id ∈ neutron.attached, neutron.subnets.get? id = some netId

/-- Some port of a network is a subport. -/
def Subported (neutron : Neutron) (netId : Nat) : Prop :=
  ∃ item ∈ neutron.ports.items, item.2.networkId = netId ∧ item.2.trunkId.isSome

instance (neutron : Neutron) (netId : Nat) : Decidable (neutron.Stuck netId) :=
  inferInstanceAs (Decidable
    ((∃ item ∈ neutron.ports.items, item.2.networkId = netId ∧ ¬item.2.isDown) ∨
      ∃ id ∈ neutron.attached, neutron.subnets.get? id = some netId))

instance (neutron : Neutron) (netId : Nat) : Decidable (neutron.Subported netId) :=
  inferInstanceAs (Decidable
    (∃ item ∈ neutron.ports.items, item.2.networkId = netId ∧ item.2.trunkId.isSome))

/-- The attempts that a network takes, where it is deleted at all. -/
def attempts (neutron : Neutron) (netId : Nat) : Option Nat :=
  if ¬neutron.InUse netId then some 1
  else if neutron.Stuck netId then none
  else if neutron.Subported netId then some 3
  else some 2

theorem exists_item_iff (neutron : Neutron) (holds : Port → Prop) :
    (∃ item ∈ neutron.ports.items, holds item.2) ↔
      ∃ id port, neutron.ports.get? id = some port ∧ holds port := by
  constructor
  · rintro ⟨⟨id, port⟩, listed, held⟩
    exact ⟨id, port, Dict.mem_items_iff.mp listed, held⟩
  · rintro ⟨id, port, found, held⟩
    exact ⟨(id, port), Dict.mem_items_iff.mpr found, held⟩

theorem inUse_iff {neutron : Neutron} {netId : Nat} :
    neutron.InUse netId ↔
      (∃ id port, neutron.ports.get? id = some port ∧ port.networkId = netId) ∨
        ∃ id ∈ neutron.attached, neutron.subnets.get? id = some netId := by
  rw [InUse, neutron.exists_item_iff fun port => port.networkId = netId]

theorem stuck_iff {neutron : Neutron} {netId : Nat} :
    neutron.Stuck netId ↔
      (∃ id port, neutron.ports.get? id = some port ∧ port.networkId = netId ∧ ¬port.isDown) ∨
        ∃ id ∈ neutron.attached, neutron.subnets.get? id = some netId := by
  rw [Stuck, neutron.exists_item_iff fun port => port.networkId = netId ∧ ¬port.isDown]

theorem subported_iff {neutron : Neutron} {netId : Nat} :
    neutron.Subported netId ↔
      ∃ id port, neutron.ports.get? id = some port ∧ port.networkId = netId ∧
        port.trunkId.isSome :=
  neutron.exists_item_iff fun port => port.networkId = netId ∧ port.trunkId.isSome

variable (neutron : Neutron) (pooled : List Nat) (subnetId : Option Nat) (netId : Nat)

theorem get?_cleared {id : Nat} {port : Port} :
    (neutron.cleared pooled subnetId netId).ports.get? id = some port ↔
      neutron.ports.get? id = some port ∧ ¬(id ∈ pooled ∧ port.networkId = netId) := by
  cases subnetId with
  | none => simp [cleared, unpooled, withPorts, Dict.get?_filter, imp_iff_not_or]
  | some subnetId => simp [cleared, detached, unpooled, withPorts, Dict.get?_filter, imp_iff_not_or]

theorem mem_attached_cleared {id : Nat} :
    id ∈ (neutron.cleared pooled subnetId netId).attached ↔
      id ∈ neutron.attached ∧ some id ≠ subnetId := by
  cases subnetId with
  | none => simp [cleared, unpooled, withPorts]
  | some subnetId => simp [cleared, detached, unpooled, withPorts]

theorem subnets_cleared : (neutron.cleared pooled subnetId netId).subnets = neutron.subnets := by
  cases subnetId with
  | none => rfl
  | some subnetId => rfl

theorem networks_cleared :
    (neutron.cleared pooled subnetId netId).networks = neutron.networks := by
  cases subnetId with
  | none => rfl
  | some subnetId => rfl

/-- What the next attempt has to do with, after the pools and the router. -/
def next : Neutron :=
  ((neutron.cleared pooled subnetId netId).tidied netId).cleared pooled subnetId netId

theorem get?_next {id : Nat} {after : Port} :
    (neutron.next pooled subnetId netId).ports.get? id = some after ↔
      ∃ port, (neutron.cleared pooled subnetId netId).ports.get? id = some port ∧
        port.afterAttempt netId = some after := by
  rw [next, get?_cleared, get?_tidied, Option.bind_eq_some_iff]
  constructor
  · exact fun both => both.1
  · rintro ⟨port, found, left⟩
    refine ⟨⟨port, found, left⟩, ?_⟩
    rw [(Port.of_afterAttempt left).1]
    exact ((get?_cleared neutron pooled subnetId netId).mp found).2

theorem attached_next {id : Nat} :
    (id ∈ (neutron.next pooled subnetId netId).attached ∧
        (neutron.next pooled subnetId netId).subnets.get? id = some netId) ↔
      id ∈ (neutron.cleared pooled subnetId netId).attached ∧
        (neutron.cleared pooled subnetId netId).subnets.get? id = some netId := by
  have subnets : (neutron.next pooled subnetId netId).subnets = neutron.subnets := by
    rw [next, subnets_cleared]
    exact subnets_cleared neutron pooled subnetId netId
  have attached : id ∈ (neutron.next pooled subnetId netId).attached ↔
      id ∈ (neutron.cleared pooled subnetId netId).attached ∧ some id ≠ subnetId := by
    rw [next, mem_attached_cleared]
    rfl
  rw [subnets, subnets_cleared, attached, mem_attached_cleared]
  tauto

/-- What is stuck stays so. -/
theorem stuck_next :
    (neutron.next pooled subnetId netId).Stuck netId ↔
      (neutron.cleared pooled subnetId netId).Stuck netId := by
  rw [stuck_iff, stuck_iff]
  apply or_congr
  · constructor
    · rintro ⟨id, after, found, onNetwork, up⟩
      obtain ⟨port, there, left⟩ := (get?_next neutron pooled subnetId netId).mp found
      obtain ⟨sameNetwork, sameState⟩ := Port.of_afterAttempt left
      exact ⟨id, port, there, sameNetwork ▸ onNetwork, sameState ▸ up⟩
    · rintro ⟨id, port, there, onNetwork, up⟩
      have left : port.afterAttempt netId = some port := if_neg fun both => up both.1
      exact ⟨id, port, (get?_next neutron pooled subnetId netId).mpr ⟨port, there, left⟩,
        onNetwork, up⟩
  · exact exists_congr fun id => attached_next neutron pooled subnetId netId

section

variable {neutron pooled subnetId netId}
  (free : ¬(neutron.cleared pooled subnetId netId).Stuck netId)
include free

/-- Where nothing is stuck, every port of the network is DOWN. -/
theorem down_of_not_stuck {id : Nat} {port : Port}
    (there : (neutron.cleared pooled subnetId netId).ports.get? id = some port)
    (onNetwork : port.networkId = netId) : port.isDown = true := by
  by_contra up
  exact free (stuck_iff.mpr (.inl ⟨id, port, there, onNetwork, up⟩))

/-- Only what came off a trunk is left. -/
theorem inUse_next :
    (neutron.next pooled subnetId netId).InUse netId ↔
      (neutron.cleared pooled subnetId netId).Subported netId := by
  have detached : ¬∃ id ∈ (neutron.next pooled subnetId netId).attached,
      (neutron.next pooled subnetId netId).subnets.get? id = some netId := by
    rintro ⟨id, attached⟩
    exact free (stuck_iff.mpr
      (.inr ⟨id, (attached_next neutron pooled subnetId netId).mp attached⟩))
  rw [inUse_iff, or_iff_left detached, subported_iff]
  constructor
  · rintro ⟨id, after, found, onNetwork⟩
    obtain ⟨port, there, left⟩ := (get?_next neutron pooled subnetId netId).mp found
    have same : port.networkId = netId := (Port.of_afterAttempt left).1 ▸ onNetwork
    rw [Port.afterAttempt_of_down (down_of_not_stuck free there same) same] at left
    obtain ⟨trunkId, onTrunk, _⟩ := Option.map_eq_some_iff.mp left
    exact ⟨id, port, there, same, by simp [onTrunk]⟩
  · rintro ⟨id, port, there, onNetwork, onTrunk⟩
    obtain ⟨trunkId, found⟩ := Option.isSome_iff_exists.mp onTrunk
    have left : port.afterAttempt netId = some { port with trunkId := none } := by
      rw [Port.afterAttempt_of_down (down_of_not_stuck free there onNetwork) onNetwork,
        Port.tidied, found, Option.map_some]
    exact ⟨id, _, (get?_next neutron pooled subnetId netId).mpr ⟨port, there, left⟩, onNetwork⟩

/-- Nothing is on a trunk any more. -/
theorem not_subported_next : ¬(neutron.next pooled subnetId netId).Subported netId := by
  rw [subported_iff]
  rintro ⟨id, after, found, onNetwork, onTrunk⟩
  obtain ⟨port, there, left⟩ := (get?_next neutron pooled subnetId netId).mp found
  have same : port.networkId = netId := (Port.of_afterAttempt left).1 ▸ onNetwork
  rw [Port.afterAttempt_of_down (down_of_not_stuck free there same) same] at left
  obtain ⟨_, _, rfl⟩ := Option.map_eq_some_iff.mp left
  cases onTrunk

end

theorem inUse_of_stuck {neutron : Neutron} {netId : Nat} (stuck : neutron.Stuck netId) :
    neutron.InUse netId := by
  rcases stuck_iff.mp stuck with ⟨id, port, found, onNetwork, _⟩ | attached
  · exact inUse_iff.mpr (.inl ⟨id, port, found, onNetwork⟩)
  · exact inUse_iff.mpr (.inr attached)

/-- An attempt that leaves the network brings it one attempt nearer. -/
theorem attempts_next (used : (neutron.cleared pooled subnetId netId).InUse netId) :
    (neutron.next pooled subnetId netId).attempts netId =
      ((neutron.cleared pooled subnetId netId).attempts netId).map (· - 1) := by
  by_cases stuck : (neutron.cleared pooled subnetId netId).Stuck netId
  · have later := (stuck_next neutron pooled subnetId netId).mpr stuck
    simp [attempts, used, stuck, later, inUse_of_stuck later]
  · have later : ¬(neutron.next pooled subnetId netId).Stuck netId :=
      (stuck_next neutron pooled subnetId netId).not.mpr stuck
    have gone := not_subported_next stuck
    by_cases onTrunk : (neutron.cleared pooled subnetId netId).Subported netId
    · have remains := (inUse_next stuck).mpr onTrunk
      simp [attempts, used, stuck, onTrunk, remains, later, gone]
    · have empty := (inUse_next stuck).not.mpr onTrunk
      simp [attempts, used, stuck, onTrunk, empty]

end Neutron

/-! ## One attempt after the other -/

/-- The attempts that the events with a status take, if there are enough at all. -/
def World.attempts (world : World) : Option Status → Option Nat
  | none => none
  | some status =>
      match status.netId with
      | none => some 1
      | some netId =>
          (world.neutron.cleared world.pooled status.subnetId netId).attempts netId

/-- The network that the event shows. -/
def Attempt.netId (attempt : Attempt) : Option Nat :=
  attempt.status.bind Status.netId

theorem Attempt.Smooth.found {attempt : Attempt} (smooth : attempt.Smooth) (world : World) :
    (world.found attempt).Smooth :=
  ⟨smooth.served, smooth.quiet, smooth.detaches⟩

/-- Without a network in the status the finalizer goes, and nothing else. -/
theorem exec_onFinalize_of_none {world : World} (smooth : world.Smooth) (origin : Origin)
    {status : Status} (missing : status.netId = none) :
    exec (onFinalize origin (some status)) world = (.ok ⟨⟩, { world with finalizer := false }) := by
  have rules := (exec_call smooth .deleteSgRules (pure PUnit.unit)).trans (exec_pure _ _)
  simp only [onFinalize, deleteNetworkOf, missing]
  rw [exec_pure_bind, deleteNamespaceSgRules, exec_bind_of_ok rules, removeFinalizer,
    exec_call smooth]
  rfl

theorem Neutron.attempts_eq_one_iff {neutron : Neutron} {netId : Nat} :
    neutron.attempts netId = some 1 ↔ ¬neutron.InUse netId := by
  unfold attempts
  by_cases used : neutron.InUse netId
  · rw [if_neg (not_not.mpr used)]
    by_cases stuck : neutron.Stuck netId
    · simp [used, stuck]
    · by_cases onTrunk : neutron.Subported netId
      · simp [used, stuck, onTrunk]
      · simp [used, stuck, onTrunk]
  · simp [used]

theorem Neutron.one_le_attempts {neutron : Neutron} {netId count : Nat}
    (needed : neutron.attempts netId = some count) : 1 ≤ count := by
  unfold attempts at needed
  split at needed
  · cases needed
    simp
  · split at needed
    · cases needed
    · split at needed
      · cases needed
        simp
      · cases needed
        simp

theorem World.one_le_attempts {world : World} {status : Option Status} {count : Nat}
    (needed : world.attempts status = some count) : 1 ≤ count := by
  cases status with
  | none => cases needed
  | some status =>
      unfold attempts at needed
      cases given : status.netId with
      | none =>
          simp only [given, Option.some.injEq] at needed
          exact needed.le
      | some netId =>
          simp only [given] at needed
          exact Neutron.one_le_attempts needed

/-- The last attempt takes the finalizer and the network, and any other one brings it nearer. -/
theorem step_of_smooth {origin : Origin} {attempt : Attempt} (smooth : attempt.Smooth)
    {world after : World} (taken : step origin world attempt = some after) :
    (world.attempts attempt.status = some 1 ∧ after.finalizer = false ∧
      ∀ id, id ∈ after.neutron.networks ↔ id ∈ world.neutron.networks ∧ attempt.netId ≠ some id) ∨
    world.attempts attempt.status ≠ some 1 ∧ after.finalizer = world.finalizer ∧
      after.neutron.networks = world.neutron.networks ∧
      after.attempts attempt.status = (world.attempts attempt.status).map (· - 1) := by
  have ready := smooth.found world
  simp only [step, Option.some.injEq] at taken
  unfold Attempt.netId World.attempts
  cases shown : attempt.status with
  | none =>
      rw [shown] at taken
      subst taken
      right
      simp [onFinalize, World.found]
  | some status =>
      rw [shown] at taken
      dsimp only
      cases given : status.netId with
      | none =>
          rw [exec_onFinalize_of_none ready origin given] at taken
          subst taken
          left
          simp [World.found, given]
      | some netId =>
          rw [exec_onFinalize ready given] at taken
          have cleared : (world.found attempt).neutron.cleared (world.found attempt).pooled
              status.subnetId netId =
              world.neutron.cleared world.pooled status.subnetId netId :=
            rfl
          rw [cleared] at taken
          have networks := world.neutron.networks_cleared world.pooled status.subnetId netId
          by_cases used : (world.neutron.cleared world.pooled status.subnetId netId).InUse netId
          · rw [if_pos used] at taken
            subst taken
            right
            refine ⟨?_, rfl, networks, ?_⟩
            · exact Neutron.attempts_eq_one_iff.not.mpr (not_not.mpr used)
            · exact world.neutron.attempts_next world.pooled status.subnetId netId used
          · rw [if_neg used] at taken
            subst taken
            left
            refine ⟨Neutron.attempts_eq_one_iff.mpr used, rfl, fun id => ?_⟩
            simp only [Neutron.withoutNetwork, networks, List.mem_filter, decide_eq_true_eq,
              Option.bind_some, given, ne_eq, Option.some.injEq]
            rw [eq_comm]

section

variable {origin : Origin} {attempt : Attempt} (smooth : attempt.Smooth)
include smooth

/-- After the last attempt more of them change nothing. -/
theorem run_of_off {start last : World} (off : start.finalizer = false)
    (missing : ∀ id ∈ start.neutron.networks, attempt.netId ≠ some id) (count : Nat)
    (ran : run (step origin) (List.replicate count attempt) start = some last) :
    last.finalizer = false ∧
      ∀ id, id ∈ last.neutron.networks ↔ id ∈ start.neutron.networks := by
  induction count generalizing start with
  | zero =>
      cases ran
      exact ⟨off, fun _ => Iff.rfl⟩
  | succ count ih =>
      obtain ⟨middle, taken, rest⟩ := Option.bind_eq_some_iff.mp ran
      rcases step_of_smooth smooth taken with ⟨_, off, networks⟩ | ⟨_, same, networks, _⟩
      · obtain ⟨offLast, still⟩ := ih off (fun id there => ((networks id).mp there).2) rest
        refine ⟨offLast, fun id => (still id).trans ((networks id).trans ?_)⟩
        exact and_iff_left_of_imp (missing id)
      · obtain ⟨offLast, still⟩ := ih (same.trans off) (networks ▸ missing) rest
        exact ⟨offLast, fun id => networks ▸ still id⟩

/-- The finalizer is off after exactly as many attempts as the ports of the network take, and
of all networks only the one that the event shows is gone then. -/
theorem finalizer_off_iff {start last : World} (finalizer : start.finalizer = true) {count : Nat}
    (ran : run (step origin) (List.replicate count attempt) start = some last) :
    (last.finalizer = false ↔ ∃ needed ∈ start.attempts attempt.status, needed ≤ count) ∧
      ∀ id, id ∈ last.neutron.networks ↔
        id ∈ start.neutron.networks ∧ ¬(last.finalizer = false ∧ attempt.netId = some id) := by
  induction count generalizing start with
  | zero =>
      cases ran
      simp only [finalizer, Bool.true_eq_false, false_and, not_false_eq_true, and_true,
        false_iff, implies_true]
      rintro ⟨needed, given, none_⟩
      have positive := World.one_le_attempts given
      omega
  | succ count ih =>
      obtain ⟨middle, taken, rest⟩ := Option.bind_eq_some_iff.mp ran
      rcases step_of_smooth smooth taken with ⟨one, off, networks⟩ | ⟨more, same, networks, fewer⟩
      · obtain ⟨offLast, still⟩ :=
          run_of_off smooth off (fun id there => ((networks id).mp there).2) count rest
        constructor
        · rw [one]
          simp [offLast]
        · intro id
          rw [still, networks, offLast]
          simp
      · obtain ⟨offLast, still⟩ := ih (same.trans finalizer) rest
        constructor
        · rw [offLast, fewer]
          cases needed : start.attempts attempt.status with
          | none => simp
          | some number =>
              simp
        · intro id
          rw [still, networks]

end

/-- A trunk. -/
def trunk : TrunkId where
  text := ['7']
  hex := by
    intro char listed
    rw [List.mem_singleton.mp listed]
    rfl

/-- A port that is DOWN, but on a trunk. -/
def leftOnTrunk : World where
  neutron :=
    { networks := [1]
      subnets := Dict.ofList [(2, 1)]
      attached := [2]
      ports := Dict.ofList [(3, ⟨1, true, some trunk⟩)]
      issued := 4 }
  others _ := .none

theorem finalizer_off_iff_on_trunk :
    ∃ last, run (step .none) (List.replicate 3 servedAttempt) leftOnTrunk = some last ∧
      last.finalizer = false := by
  have smooth : servedAttempt.Smooth := ⟨fun _ => rfl, fun _ _ => rfl, rfl⟩
  have on : leftOnTrunk.finalizer = true := rfl
  obtain ⟨last, ran⟩ :
      ∃ last, run (step .none) (List.replicate 3 servedAttempt) leftOnTrunk = some last :=
    ⟨_, rfl⟩
  exact ⟨last, ran, (finalizer_off_iff smooth on ran).1.mpr ⟨3, by decide, le_refl 3⟩⟩

end KuryrKubernetes.Namespaces.Deletion

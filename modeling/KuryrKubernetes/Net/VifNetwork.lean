import KuryrKubernetes.Data.Dict
import KuryrKubernetes.Effect.Memory
import KuryrKubernetes.Objects

/-!
# The networks of VIFs

`_make_vif_network` makes the os-vif network of a Neutron port out of the networks that a subnets
driver gave, which are memoized: the same objects are given to every caller.  Here objects have
references, so that it can be told which of them a conversion changes.
-/

namespace KuryrKubernetes.Net

open KuryrKubernetes.Data
open KuryrKubernetes.Effect

/-- The objects of os-vif.  Their other fields are `data`; an address stands for a `FixedIP`. -/
inductive Object (α σ ν : Type) where
  | fixedIpList (objects : List α)
  | subnet (data : σ) (ips : Option Nat)
  | subnetList (objects : List Nat)
  | network (id : String) (data : ν) (subnets : Nat)

namespace Object

variable {α σ ν : Type}

/-- The addresses of a list. -/
def asFixedIpList : Object α σ ν → Option (List α)
  | .fixedIpList objects => some objects
  | _ => none

/-- The fields of a subnet; `ips` may not be set. -/
def asSubnet : Object α σ ν → Option (σ × Option Nat)
  | .subnet data ips => some (data, ips)
  | _ => none

/-- The subnets of a list. -/
def asSubnetList : Object α σ ν → Option (List Nat)
  | .subnetList objects => some objects
  | _ => none

/-- The fields of a network. -/
def asNetwork : Object α σ ν → Option (String × ν × Nat)
  | .network id data subnets => some (id, data, subnets)
  | _ => none

end Object

/-- Programs over the objects. -/
abbrev OsVifM (α σ ν β : Type) := Program PyException (List (Object α σ ν)) β

/-- `IntegrityError`. -/
def integrityError : PyException :=
  .other "IntegrityError"

/-- An element of `fixed_ips`. -/
structure FixedIp (α : Type) where
  subnetId : String
  ipAddress : α

/-- What a port says of its network and its addresses. -/
structure PortInfo (α : Type) where
  networkId : Option String
  fixedIps : Option (List (FixedIp α))

/-- A Neutron port: its attributes, and what its `get` reads from, or raises.  A dictionary, or a
port of the SDK, which is one, reads from its attributes. -/
structure NeutronPort (α : Type) where
  attributes : PortInfo α
  get : Except PyException (PortInfo α)

section

variable {α σ ν : Type}

/-! ## Copies -/

/-- `obj_clone` of a list of addresses. -/
def cloneFixedIpList (ips : Nat) : OsVifM α σ ν Nat := do
  let objects ← readObject .attributeError Object.asFixedIpList ips
  newObject (.fixedIpList objects)

/-- `obj_clone` of a subnet. -/
def cloneSubnet (subnet : Nat) : OsVifM α σ ν Nat := do
  let fields ← readObject .attributeError Object.asSubnet subnet
  match fields.2 with
  | none => newObject (.subnet fields.1 none)
  | some ips => do
      let copy ← cloneFixedIpList ips
      newObject (.subnet fields.1 (some copy))

/-- `obj_clone` of the subnets of a network.  No network lists a subnet twice. -/
def cloneSubnets : List Nat → OsVifM α σ ν (List Nat)
  | [] => return []
  | subnet :: rest => do
      let copy ← cloneSubnet subnet
      let copies ← cloneSubnets rest
      return copy :: copies

/-- `obj_clone` of a network. -/
def cloneNetwork (network : Nat) : OsVifM α σ ν Nat := do
  let fields ← readObject .attributeError Object.asNetwork network
  let objects ← readObject .attributeError Object.asSubnetList fields.2.2
  let copies ← cloneSubnets objects
  let subnets ← newObject (.subnetList copies)
  newObject (.network fields.1 fields.2.1 subnets)

/-! ## The conversion -/

/-- `subnet.ips = ips`. -/
def setIps (subnet ips : Nat) : OsVifM α σ ν PUnit := do
  let fields ← readObject .attributeError Object.asSubnet subnet
  assignObject subnet (.subnet fields.1 (some ips))

/-- `_make_vif_subnet`. -/
def makeVifSubnet (subnets : Dict String Nat) (subnetId : String) : OsVifM α σ ν Nat :=
  match subnets.get? subnetId with
  | none => throw .keyError
  | some network => do
      let fields ← readObject .attributeError Object.asNetwork network
      let objects ← readObject .attributeError Object.asSubnetList fields.2.2
      match objects with
      | [only] => do
          let subnet ← cloneSubnet only
          let ips ← newObject (.fixedIpList [])
          setIps subnet ips
          return subnet
      | _ => throw integrityError

/-- `subnet.ips.objects.append`. -/
def appendIp (subnet : Nat) (ipAddress : α) : OsVifM α σ ν PUnit := do
  let fields ← readObject .attributeError Object.asSubnet subnet
  match fields.2 with
  | none => throw (.other "NotImplementedError")
  | some ips => do
      let objects ← readObject .attributeError Object.asFixedIpList ips
      assignObject ips (.fixedIpList (objects ++ [ipAddress]))

/-- The subnet of a turn of the loop, and `vif_subnets` with it. -/
def vifSubnet (subnets vifSubnets : Dict String Nat) (subnetId : String) :
    OsVifM α σ ν (Nat × Dict String Nat) :=
  match vifSubnets.get? subnetId with
  | some subnet => return (subnet, vifSubnets)
  | none => do
      let subnet ← makeVifSubnet subnets subnetId
      return (subnet, vifSubnets.set subnetId subnet)

/-- The loop of `_make_vif_subnets`, from `vif_subnets` on. -/
def collectIps (subnets : Dict String Nat) :
    List (FixedIp α) → Dict String Nat → OsVifM α σ ν (Dict String Nat)
  | [], vifSubnets => return vifSubnets
  | fixedIp :: rest, vifSubnets =>
      if fixedIp.subnetId ∈ subnets then do
        let turn ← vifSubnet subnets vifSubnets fixedIp.subnetId
        appendIp turn.1 fixedIp.ipAddress
        collectIps subnets rest turn.2
      else
        collectIps subnets rest vifSubnets

/-- What `get` reads; where it raises a `TypeError`, the program is run. -/
def NeutronPort.read (port : NeutronPort α) (otherwise : OsVifM α σ ν (PortInfo α)) :
    OsVifM α σ ν (PortInfo α) :=
  match port.get with
  | .ok info => return info
  | .error .typeError => otherwise
  | .error exception => throw exception

/-- `_make_vif_subnets`. -/
def makeVifSubnets (port : NeutronPort α) (subnets : Dict String Nat) :
    OsVifM α σ ν (List Nat) := do
  -- the id is read as `neutron_port.get.id`
  let info ← port.read (throw .attributeError)
  let vifSubnets ← collectIps subnets (info.fixedIps.getD []) ∅
  if vifSubnets.items.isEmpty then
    throw integrityError
  else
    return vifSubnets.values

/-- A copy of the first network with the id. -/
def nextNetwork (networkId : Option String) : List Nat → OsVifM α σ ν Nat
  | [] => throw integrityError
  | network :: rest => do
      let fields ← readObject .attributeError Object.asNetwork network
      if some fields.1 = networkId then
        cloneNetwork network
      else
        nextNetwork networkId rest

/-- `network.subnets = subnets`. -/
def setSubnets (network subnets : Nat) : OsVifM α σ ν PUnit := do
  let fields ← readObject .attributeError Object.asNetwork network
  assignObject network (.network fields.1 fields.2.1 subnets)

/-- `_make_vif_network`. -/
def makeVifNetwork (port : NeutronPort α) (subnets : Dict String Nat) : OsVifM α σ ν Nat := do
  let info ← port.read (return port.attributes)
  let network ← nextNetwork info.networkId subnets.values
  let objects ← makeVifSubnets port subnets
  let list ← newObject (.subnetList objects)
  setSubnets network list
  return network

end

/-! ## What objects show -/

/-- A subnet with the addresses of its list, if it has one. -/
structure SubnetView (α σ : Type) where
  data : σ
  ips : Option (List α)

/-- A network with its subnets. -/
structure NetworkView (α σ ν : Type) where
  id : String
  data : ν
  subnets : List (SubnetView α σ)

section

variable {α σ ν : Type}

/-- The subnet of a reference, when its objects are among those from `start` on. -/
inductive ShowsSubnet (start : Nat) (memory : List (Object α σ ν)) :
    Nat → SubnetView α σ → Prop where
  | unset {subnet : Nat} {data : σ} (later : start ≤ subnet)
      (there : memory[subnet]? = some (.subnet data none)) :
      ShowsSubnet start memory subnet ⟨data, none⟩
  | set {subnet ips : Nat} {data : σ} {objects : List α} (later : start ≤ subnet)
      (there : memory[subnet]? = some (.subnet data (some ips))) (ipsLater : start ≤ ips)
      (listed : memory[ips]? = some (.fixedIpList objects)) :
      ShowsSubnet start memory subnet ⟨data, some objects⟩

/-- The network of a reference, when its objects are among those from `start` on. -/
structure ShowsNetwork (start : Nat) (memory : List (Object α σ ν)) (network : Nat)
    (view : NetworkView α σ ν) : Prop where
  later : start ≤ network
  shows_ : ∃ list subnets, start ≤ list ∧
    memory[network]? = some (.network view.id view.data list) ∧
    memory[list]? = some (.subnetList subnets) ∧
    List.Forall₂ (ShowsSubnet start memory) subnets view.subnets

/-- A network of a mapping: it has one subnet. -/
structure MappedNetwork (memory : List (Object α σ ν)) where
  reference : Nat
  id : String
  data : ν
  subnet : SubnetView α σ
  shows_ : ShowsNetwork 0 memory reference ⟨id, data, [subnet]⟩

end

/-- What `get_subnets` of a subnets driver gave: networks by the ids of their subnets, and the
objects that there were then. -/
structure SubnetMapping (α σ ν : Type) where
  objects : List (Object α σ ν)
  networks : Dict String (MappedNetwork objects)

namespace SubnetMapping

variable {α σ ν : Type} (mapping : SubnetMapping α σ ν)

/-- The mapping as the code has it. -/
def subnets : Dict String Nat :=
  mapping.networks.mapValues fun _ network => network.reference

/-- The network that the port belongs to, if it is in the mapping. -/
def networkOf (port : NeutronPort α) : Option (MappedNetwork mapping.objects) :=
  mapping.networks.values.find? fun network => some network.id = port.attributes.networkId

/-- The subnet of a fixed IP is in the mapping. -/
def Serves (port : NeutronPort α) : Prop :=
  ∃ fixedIp ∈ port.attributes.fixedIps.getD [], fixedIp.subnetId ∈ mapping.networks

end SubnetMapping

section

variable {α σ ν : Type}

/-- The addresses of a port in a subnet. -/
def addressesIn (subnetId : String) (fixedIps : List (FixedIp α)) : List α :=
  (fixedIps.filter fun fixedIp => fixedIp.subnetId = subnetId).map (·.ipAddress)

/-- The network of the port, with the subnets of the mapping in which it has addresses; each of
them holds its own addresses, in the order of the port. -/
def IsVifNetwork (mapping : SubnetMapping α σ ν) (port : NeutronPort α)
    (view : NetworkView α σ ν) : Prop :=
  ∃ network, mapping.networkOf port = some network ∧
    ∃ subnets : Dict String (SubnetView α σ), view = ⟨network.id, network.data, subnets.values⟩ ∧
      ∀ subnetId subnet, subnets.get? subnetId = some subnet ↔
        ∃ mapped, mapping.networks.get? subnetId = some mapped ∧
          addressesIn subnetId (port.attributes.fixedIps.getD []) ≠ [] ∧
          subnet = ⟨mapped.subnet.data,
            some (addressesIn subnetId (port.attributes.fixedIps.getD []))⟩

/-- A conversion while the objects of the mapping are as they were. -/
structure Converts (mapping : SubnetMapping α σ ν) (port : NeutronPort α)
    (objects : List (Object α σ ν)) (outcome : Except PyException Nat × List (Object α σ ν)) :
    Prop where
  returns : ∀ network, outcome.1 = .ok network →
    ∃ view, ShowsNetwork objects.length outcome.2 network view ∧ IsVifNetwork mapping port view
  raises : outcome.1 = .error integrityError ↔ mapping.networkOf port = none ∨ ¬mapping.Serves port
  only : ∀ exception, outcome.1 = .error exception → exception = integrityError
  unchanged : objects <+: outcome.2

/-- Two outcomes that cannot be told apart: the same exception, or networks that show the same. -/
def SameResult (first second : Except PyException Nat × List (Object α σ ν)) : Prop :=
  (∃ exception, first.1 = .error exception ∧ second.1 = .error exception) ∨
    ∃ network other view, first.1 = .ok network ∧ second.1 = .ok other ∧
      ShowsNetwork 0 first.2 network view ∧ ShowsNetwork 0 second.2 other view

end

/-! ## Copies of what is shown -/

section

variable {α σ ν : Type} {start reference : Nat} {base memory : List (Object α σ ν)}

theorem exec_read_fixedIpList {objects : List α}
    (there : memory[reference]? = some (.fixedIpList objects)) :
    exec (readObject PyException.attributeError Object.asFixedIpList reference) memory =
      (.ok objects, memory) :=
  exec_readObject _ there rfl

theorem exec_read_subnet {data : σ} {ips : Option Nat}
    (there : memory[reference]? = some (.subnet data ips)) :
    exec (readObject PyException.attributeError Object.asSubnet reference) memory =
      (.ok (data, ips), memory) :=
  exec_readObject _ there rfl

theorem exec_read_subnetList {objects : List Nat}
    (there : memory[reference]? = some (.subnetList objects)) :
    exec (readObject PyException.attributeError Object.asSubnetList reference) memory =
      (.ok objects, memory) :=
  exec_readObject _ there rfl

theorem exec_read_network {id : String} {data : ν} {subnets : Nat}
    (there : memory[reference]? = some (.network id data subnets)) :
    exec (readObject PyException.attributeError Object.asNetwork reference) memory =
      (.ok (id, data, subnets), memory) :=
  exec_readObject _ there rfl

theorem exec_cloneFixedIpList {objects : List α}
    (there : memory[reference]? = some (.fixedIpList objects)) :
    exec (cloneFixedIpList reference) memory =
      (.ok memory.length, memory ++ [.fixedIpList objects]) := by
  unfold cloneFixedIpList
  rw [exec_bind_of_ok (exec_read_fixedIpList there)]
  rfl

theorem exec_setIps {data : σ} {before : Option Nat} (ips : Nat)
    (there : memory[reference]? = some (.subnet data before)) :
    exec (setIps reference ips) memory =
      (.ok ⟨⟩, memory.set reference (.subnet data (some ips))) := by
  unfold setIps
  rw [exec_bind_of_ok (exec_read_subnet there), exec_assignObject]

theorem exec_setSubnets {id : String} {data : ν} {before : Nat} (subnets : Nat)
    (there : memory[reference]? = some (.network id data before)) :
    exec (setSubnets reference subnets) memory =
      (.ok ⟨⟩, memory.set reference (.network id data subnets)) := by
  unfold setSubnets
  rw [exec_bind_of_ok (exec_read_network there), exec_assignObject]

theorem exec_appendIp {data : σ} {ips : Nat} {objects : List α} (ipAddress : α)
    (there : memory[reference]? = some (.subnet data (some ips)))
    (listed : memory[ips]? = some (.fixedIpList objects)) :
    exec (appendIp reference ipAddress) memory =
      (.ok ⟨⟩, memory.set ips (.fixedIpList (objects ++ [ipAddress]))) := by
  unfold appendIp
  rw [exec_bind_of_ok (exec_read_subnet there)]
  dsimp only
  rw [exec_bind_of_ok (exec_read_fixedIpList listed), exec_assignObject]

theorem ShowsSubnet.mono {subnet : Nat} {view : SubnetView α σ}
    (shown : ShowsSubnet start base subnet view) (old : base <+: memory) :
    ShowsSubnet start memory subnet view := by
  cases shown with
  | unset later there => exact .unset later (there_of_old old there)
  | set later there ipsLater listed =>
      exact .set later (there_of_old old there) ipsLater (there_of_old old listed)

/-- Where the objects begin may be left open. -/
theorem ShowsNetwork.anywhere {network : Nat} {view : NetworkView α σ ν}
    (shown : ShowsNetwork start memory network view) : ShowsNetwork 0 memory network view := by
  obtain ⟨_, list, subnets, _, there, listed, each⟩ := shown
  refine ⟨Nat.zero_le _, list, subnets, Nat.zero_le _, there, listed, each.imp ?_⟩
  intro subnet view shown
  cases shown with
  | unset later there => exact .unset (Nat.zero_le _) there
  | set later there ipsLater listed => exact .set (Nat.zero_le _) there (Nat.zero_le _) listed

/-- A network of the mapping, wherever the objects of the mapping still are. -/
theorem MappedNetwork.there (mapped : MappedNetwork base) (old : base <+: memory) :
    ∃ list only, memory[mapped.reference]? = some (.network mapped.id mapped.data list) ∧
      memory[list]? = some (.subnetList [only]) ∧ ShowsSubnet 0 memory only mapped.subnet := by
  obtain ⟨list, subnets, _, there, listed, each⟩ := mapped.shows_.shows_
  cases each with
  | cons shown rest =>
      cases rest
      exact ⟨list, _, there_of_old old there, there_of_old old listed, shown.mono old⟩

/-- A copy of a subnet comes last. -/
theorem exec_cloneSubnet {subnet : Nat} {view : SubnetView α σ}
    (shown : ShowsSubnet start memory subnet view) :
    ∃ tail ips, exec (cloneSubnet subnet) memory =
      (.ok (memory ++ tail).length, memory ++ tail ++ [.subnet view.data ips]) := by
  unfold cloneSubnet
  cases shown with
  | unset later there =>
      rw [exec_bind_of_ok (exec_read_subnet there)]
      refine ⟨[], none, ?_⟩
      rw [List.append_nil]
      rfl
  | @set ips data objects later there ipsLater listed =>
      rw [exec_bind_of_ok (exec_read_subnet there)]
      refine ⟨[.fixedIpList objects], some memory.length, ?_⟩
      dsimp only
      rw [exec_bind_of_ok (exec_cloneFixedIpList listed)]
      rfl

/-- A copy of a network of the mapping comes last. -/
theorem exec_cloneNetwork (mapped : MappedNetwork base) (old : base <+: memory) :
    ∃ tail list, exec (cloneNetwork mapped.reference) memory =
      (.ok (memory ++ tail).length, memory ++ tail ++ [.network mapped.id mapped.data list]) := by
  obtain ⟨list, only, there, listed, shown⟩ := mapped.there old
  obtain ⟨tail, ips, cloned⟩ := exec_cloneSubnet shown
  unfold cloneNetwork
  rw [exec_bind_of_ok (exec_read_network there), exec_bind_of_ok (exec_read_subnetList listed)]
  have copied : exec (cloneSubnets [only]) memory =
      (.ok [(memory ++ tail).length], memory ++ tail ++ [.subnet mapped.subnet.data ips]) := by
    unfold cloneSubnets
    rw [exec_bind_of_ok cloned]
    rfl
  rw [exec_bind_of_ok copied]
  refine ⟨tail ++ [.subnet mapped.subnet.data ips, .subnetList [(memory ++ tail).length]],
    (memory ++ tail).length + 1, ?_⟩
  simp [exec_bind, Nat.add_assoc]

/-- A subnet of the mapping, copied and without addresses, is followed by its list. -/
theorem exec_makeVifSubnet {subnets : Dict String Nat} {subnetId : String}
    (mapped : MappedNetwork base) (found : subnets.get? subnetId = some mapped.reference)
    (old : base <+: memory) :
    ∃ tail, exec (makeVifSubnet subnets subnetId) memory =
      (.ok (memory ++ tail).length, memory ++ tail ++
        [.subnet mapped.subnet.data (some ((memory ++ tail).length + 1)), .fixedIpList []]) := by
  obtain ⟨list, only, there, listed, shown⟩ := mapped.there old
  obtain ⟨tail, ips, cloned⟩ := exec_cloneSubnet shown
  refine ⟨tail, ?_⟩
  unfold makeVifSubnet
  rw [found]
  dsimp only
  rw [exec_bind_of_ok (exec_read_network there), exec_bind_of_ok (exec_read_subnetList listed)]
  dsimp only
  rw [exec_bind_of_ok cloned, exec_bind_of_ok (exec_newObject _ _)]
  have copy : (memory ++ tail ++ [.subnet mapped.subnet.data ips] ++ [.fixedIpList []])[
      (memory ++ tail).length]? = some (.subnet mapped.subnet.data ips) := by
    simp
  rw [exec_bind_of_ok (exec_setIps _ copy)]
  simp [Nat.add_assoc]

end

/-! ## The loop over the fixed IPs -/

section

variable {α σ ν : Type} {base memory : List (Object α σ ν)} {vifSubnets : Dict String Nat}
  {subnets : Dict String (SubnetView α σ)} {subnetId : String} {subnet : Nat}

/-- The subnets of `vif_subnets` are new objects, each with a list of its own behind it, and show
what they are to show. -/
structure Grouped (base memory : List (Object α σ ν)) (vifSubnets : Dict String Nat)
    (subnets : Dict String (SubnetView α σ)) : Prop where
  old : base <+: memory
  keys : vifSubnets.keys = subnets.keys
  each : ∀ subnetId subnet, vifSubnets.get? subnetId = some subnet →
    base.length ≤ subnet ∧ ∃ data ips, subnets.get? subnetId = some ⟨data, some ips⟩ ∧
      memory[subnet]? = some (.subnet data (some (subnet + 1))) ∧
      memory[subnet + 1]? = some (.fixedIpList ips)
  apart : ∀ subnetId other subnet, vifSubnets.get? subnetId = some subnet →
    vifSubnets.get? other = some subnet → subnetId = other

theorem grouped_nil (base : List (Object α σ ν)) : Grouped base base ∅ ∅ where
  old := List.prefix_refl base
  keys := rfl
  each _ _ found := by cases found
  apart _ _ _ found := by cases found

/-- An address is appended to the list of one subnet only. -/
theorem Grouped.append (grouped : Grouped base memory vifSubnets subnets)
    (found : vifSubnets.get? subnetId = some subnet) {data : σ} {ips : List α}
    (shown : subnets.get? subnetId = some ⟨data, some ips⟩) (ipAddress : α) :
    ∃ after, exec (appendIp subnet ipAddress) memory = (.ok ⟨⟩, after) ∧
      Grouped base after vifSubnets (subnets.set subnetId ⟨data, some (ips ++ [ipAddress])⟩) := by
  obtain ⟨new, data', ips', shown', there, listed⟩ := grouped.each subnetId subnet found
  cases shown.symm.trans shown'
  refine ⟨_, exec_appendIp ipAddress there listed, ?_⟩
  constructor
  · exact prefix_set grouped.old (Nat.le_succ_of_le new) _
  · rw [Dict.keys_set, if_pos, grouped.keys]
    exact Dict.mem_iff_exists_get?.mpr ⟨_, shown⟩
  · intro other subnet' found'
    obtain ⟨new', data'', ips'', shown'', there', listed'⟩ := grouped.each other subnet' found'
    refine ⟨new', data'', ?_⟩
    have cell : subnet' ≠ subnet + 1 := by
      rintro rfl
      cases listed.symm.trans there'
    rw [there_set_of_ne cell]
    by_cases same : other = subnetId
    · subst other
      cases found.symm.trans found'
      cases shown.symm.trans shown''
      refine ⟨_, Dict.get?_set_self _ _ _, there', ?_⟩
      rw [List.getElem?_set_self (lt_length_of_there listed)]
    · have list : subnet' + 1 ≠ subnet + 1 := by
        intro equal
        cases Nat.succ.inj equal
        exact same (grouped.apart _ _ _ found' found)
      rw [there_set_of_ne list, Dict.get?_set_of_ne _ _ same]
      exact ⟨ips'', shown'', there', listed'⟩
  · exact grouped.apart

/-- A subnet of the mapping is added without addresses. -/
theorem Grouped.add {mapping : SubnetMapping α σ ν} {mapped : MappedNetwork mapping.objects}
    (grouped : Grouped base memory vifSubnets subnets) (kept : mapping.objects <+: base)
    (known : mapping.networks.get? subnetId = some mapped)
    (absent : vifSubnets.get? subnetId = none) :
    ∃ subnet after, exec (makeVifSubnet mapping.subnets subnetId) memory = (.ok subnet, after) ∧
      Grouped base after (vifSubnets.set subnetId subnet)
        (subnets.set subnetId ⟨mapped.subnet.data, some []⟩) := by
  have found : mapping.subnets.get? subnetId = some mapped.reference := by
    unfold SubnetMapping.subnets
    rw [Dict.get?_mapValues, known, Option.map_some]
  obtain ⟨tail, made⟩ := exec_makeVifSubnet mapped found (kept.trans grouped.old)
  refine ⟨_, _, made, ?_⟩
  rw [List.append_assoc] at made ⊢
  have before : ∀ other subnet, vifSubnets.get? other = some subnet →
      subnet ≠ (memory ++ tail).length := by
    intro other subnet found' same
    obtain ⟨_, _, _, _, there, _⟩ := grouped.each other subnet found'
    have inside := lt_length_of_there there
    rw [same, List.length_append] at inside
    omega
  constructor
  · exact prefix_append grouped.old _
  · have unlisted : subnetId ∉ vifSubnets := Dict.not_mem_iff_get?_eq_none.mpr absent
    have unshown : subnetId ∉ subnets := by
      rwa [← Dict.mem_keys_iff, ← grouped.keys, Dict.mem_keys_iff]
    rw [Dict.keys_set, Dict.keys_set, if_neg unlisted, if_neg unshown, grouped.keys]
  · intro other subnet found'
    by_cases same : other = subnetId
    · subst other
      rw [Dict.get?_set_self] at found'
      cases found'
      refine ⟨?_, _, _, Dict.get?_set_self _ _ _, ?_, ?_⟩
      · have longer := (prefix_append grouped.old tail).length_le
        exact longer
      · rw [← List.append_assoc, List.getElem?_append_right (Nat.le_refl _)]
        simp
      · rw [← List.append_assoc, List.getElem?_append_right (Nat.le_succ _)]
        simp
    · rw [Dict.get?_set_of_ne _ _ same] at found' ⊢
      obtain ⟨new, data, ips, shown, there, listed⟩ := grouped.each other subnet found'
      exact ⟨new, data, ips, shown, there_of_old (List.prefix_append _ _) there,
        there_of_old (List.prefix_append _ _) listed⟩
  · intro first second subnet foundFirst foundSecond
    rw [Dict.get?_set] at foundFirst foundSecond
    split at foundFirst
    · rename_i same
      split at foundSecond
      · rename_i equal
        exact same.trans equal.symm
      · cases foundFirst
        exact absurd rfl (before second _ foundSecond)
    · split at foundSecond
      · cases foundSecond
        exact absurd rfl (before first _ foundFirst)
      · exact grouped.apart _ _ _ foundFirst foundSecond

/-- A subnet with more addresses. -/
def SubnetView.with_ (subnet : SubnetView α σ) (ips : List α) : SubnetView α σ :=
  ⟨subnet.data, some (subnet.ips.getD [] ++ ips)⟩

/-- A copy of the subnet of a network without addresses. -/
def MappedNetwork.fresh (mapped : MappedNetwork base) : SubnetView α σ :=
  ⟨mapped.subnet.data, some []⟩

/-- What the loop makes of the subnets that are shown. -/
def SubnetMapping.collect (mapping : SubnetMapping α σ ν) :
    List (FixedIp α) → Dict String (SubnetView α σ) → Dict String (SubnetView α σ)
  | [], subnets => subnets
  | fixedIp :: rest, subnets =>
      match mapping.networks.get? fixedIp.subnetId with
      | none => mapping.collect rest subnets
      | some mapped => mapping.collect rest (subnets.set fixedIp.subnetId
          (((subnets.get? fixedIp.subnetId).getD mapped.fresh).with_ [fixedIp.ipAddress]))

variable {mapping : SubnetMapping α σ ν} {mapped : MappedNetwork mapping.objects}

theorem mem_subnets {subnetId : String} :
    subnetId ∈ mapping.subnets ↔ subnetId ∈ mapping.networks := by
  rw [Dict.mem_iff_isSome, Dict.mem_iff_isSome, SubnetMapping.subnets, Dict.get?_mapValues,
    Option.isSome_map]

/-- A turn of the loop. -/
theorem Grouped.turn (grouped : Grouped base memory vifSubnets subnets)
    (kept : mapping.objects <+: base) (known : mapping.networks.get? subnetId = some mapped)
    (ipAddress : α) :
    ∃ subnet after middle final,
      exec (vifSubnet mapping.subnets vifSubnets subnetId) memory = (.ok (subnet, after), middle) ∧
      exec (appendIp subnet ipAddress) middle = (.ok ⟨⟩, final) ∧
      Grouped base final after (subnets.set subnetId
        (((subnets.get? subnetId).getD mapped.fresh).with_ [ipAddress])) := by
  unfold vifSubnet
  cases found : vifSubnets.get? subnetId with
  | some subnet =>
      obtain ⟨_, data, ips, shown, _⟩ := grouped.each subnetId subnet found
      obtain ⟨final, appended, still⟩ := grouped.append found shown ipAddress
      refine ⟨subnet, vifSubnets, memory, final, rfl, appended, ?_⟩
      rw [shown]
      exact still
  | none =>
      have unshown : subnets.get? subnetId = none := by
        rw [← Dict.not_mem_iff_get?_eq_none, ← Dict.mem_keys_iff, ← grouped.keys,
          Dict.mem_keys_iff, Dict.not_mem_iff_get?_eq_none, found]
      obtain ⟨subnet, middle, made, added⟩ := grouped.add kept known found
      obtain ⟨final, appended, still⟩ :=
        added.append (Dict.get?_set_self _ _ _) (Dict.get?_set_self _ _ _) ipAddress
      refine ⟨subnet, vifSubnets.set subnetId subnet, middle, final, ?_, appended, ?_⟩
      · dsimp only
        rw [exec_bind_of_ok made]
        rfl
      · rw [Dict.set_set] at still
        rw [unshown]
        exact still

/-- The loop returns, with new objects for what it makes. -/
theorem exec_collectIps (fixedIps : List (FixedIp α))
    (grouped : Grouped base memory vifSubnets subnets) (kept : mapping.objects <+: base) :
    ∃ result after, exec (collectIps mapping.subnets fixedIps vifSubnets) memory =
        (.ok result, after) ∧
      Grouped base after result (mapping.collect fixedIps subnets) := by
  induction fixedIps generalizing memory vifSubnets subnets with
  | nil => exact ⟨vifSubnets, memory, rfl, grouped⟩
  | cons fixedIp rest ih =>
      unfold collectIps SubnetMapping.collect
      cases known : mapping.networks.get? fixedIp.subnetId with
      | none =>
          have unlisted : fixedIp.subnetId ∉ mapping.subnets := by
            rwa [mem_subnets, Dict.not_mem_iff_get?_eq_none]
          rw [if_neg unlisted]
          exact ih grouped
      | some mapped =>
          have listed : fixedIp.subnetId ∈ mapping.subnets :=
            mem_subnets.mpr (Dict.mem_iff_exists_get?.mpr ⟨mapped, known⟩)
          obtain ⟨subnet, next, middle, final, chosen, appended, still⟩ :=
            grouped.turn kept known fixedIp.ipAddress
          obtain ⟨result, after, ran, ends⟩ := ih still
          refine ⟨result, after, ?_, ends⟩
          rw [if_pos listed, exec_bind_of_ok chosen, exec_bind_of_ok appended, ran]

theorem addressesIn_cons_of_ne {fixedIp : FixedIp α} (different : fixedIp.subnetId ≠ subnetId)
    (rest : List (FixedIp α)) :
    addressesIn subnetId (fixedIp :: rest) = addressesIn subnetId rest := by
  unfold addressesIn
  rw [List.filter_cons_of_neg]
  simpa using different

theorem addressesIn_cons_self (fixedIp : FixedIp α) (rest : List (FixedIp α)) :
    addressesIn fixedIp.subnetId (fixedIp :: rest) =
      fixedIp.ipAddress :: addressesIn fixedIp.subnetId rest := by
  unfold addressesIn
  rw [List.filter_cons_of_pos]
  · rfl
  · simp

/-- A subnet of the mapping gets its addresses, if there are any. -/
theorem get?_collect (known : mapping.networks.get? subnetId = some mapped)
    (fixedIps : List (FixedIp α)) (subnets : Dict String (SubnetView α σ)) :
    (mapping.collect fixedIps subnets).get? subnetId =
      if addressesIn subnetId fixedIps = [] then subnets.get? subnetId
      else some (((subnets.get? subnetId).getD mapped.fresh).with_
        (addressesIn subnetId fixedIps)) := by
  induction fixedIps generalizing subnets with
  | nil => rfl
  | cons fixedIp rest ih =>
      unfold SubnetMapping.collect
      by_cases same : fixedIp.subnetId = subnetId
      · subst subnetId
        rw [known, addressesIn_cons_self, if_neg (List.cons_ne_nil _ _)]
        dsimp only
        rw [ih, Dict.get?_set_self]
        split
        · rename_i last
          rw [last]
        · simp [SubnetView.with_]
      · rw [addressesIn_cons_of_ne same]
        cases mapping.networks.get? fixedIp.subnetId with
        | none => exact ih subnets
        | some other =>
            dsimp only
            rw [ih, Dict.get?_set_of_ne _ _ (Ne.symm same)]

/-- Other subnets are left out. -/
theorem get?_collect_of_none (unknown : mapping.networks.get? subnetId = none)
    (fixedIps : List (FixedIp α)) (subnets : Dict String (SubnetView α σ)) :
    (mapping.collect fixedIps subnets).get? subnetId = subnets.get? subnetId := by
  induction fixedIps generalizing subnets with
  | nil => rfl
  | cons fixedIp rest ih =>
      unfold SubnetMapping.collect
      cases known : mapping.networks.get? fixedIp.subnetId with
      | none => exact ih subnets
      | some other =>
          have different : subnetId ≠ fixedIp.subnetId := by
            rintro rfl
            cases unknown.symm.trans known
          dsimp only
          rw [ih, Dict.get?_set_of_ne _ _ different]

end

/-! ## The network -/

section

variable {α σ ν : Type} {base memory : List (Object α σ ν)} {mapping : SubnetMapping α σ ν}
  {port : NeutronPort α}

/-- The first network with the id is copied. -/
theorem exec_nextNetwork (networkId : Option String) (networks : List (MappedNetwork base))
    (old : base <+: memory) :
    exec (nextNetwork networkId (networks.map (·.reference))) memory =
      exec ((networks.find? fun network => some network.id = networkId).elim
        (throw integrityError) fun found => cloneNetwork found.reference) memory := by
  induction networks with
  | nil => rfl
  | cons network rest ih =>
      obtain ⟨list, only, there, _⟩ := network.there old
      unfold nextNetwork
      rw [List.map_cons]
      dsimp only
      rw [exec_bind_of_ok (exec_read_network there)]
      by_cases same : some network.id = networkId
      · rw [if_pos same, List.find?_cons_of_pos (by simpa using same)]
        rfl
      · rw [if_neg same, List.find?_cons_of_neg (by simpa using same)]
        exact ih

theorem exec_nextNetwork_subnets (mapping : SubnetMapping α σ ν) (port : NeutronPort α)
    (kept : mapping.objects <+: memory) :
    exec (nextNetwork port.attributes.networkId mapping.subnets.values) memory =
      exec ((mapping.networkOf port).elim (throw integrityError) fun found =>
        cloneNetwork found.reference) memory := by
  have values : mapping.subnets.values = mapping.networks.values.map (·.reference) := by
    rw [SubnetMapping.subnets, Dict.values_mapValues, Dict.values, List.map_map]
    rfl
  rw [values]
  exact exec_nextNetwork _ _ kept

/-- What the conversion is to show, if it does not raise. -/
def SubnetMapping.vifNetwork (mapping : SubnetMapping α σ ν) (port : NeutronPort α) :
    Option (NetworkView α σ ν) :=
  (mapping.networkOf port).bind fun network =>
    let subnets := mapping.collect (port.attributes.fixedIps.getD []) ∅
    if subnets.items.isEmpty then none else some ⟨network.id, network.data, subnets.values⟩

/-- The subnets of a port that `get` can be called on. -/
theorem exec_makeVifSubnets (dict : port.get = .ok port.attributes)
    (kept : mapping.objects <+: memory) :
    ∃ vifSubnets after,
      Grouped memory after vifSubnets (mapping.collect (port.attributes.fixedIps.getD []) ∅) ∧
      exec (makeVifSubnets port mapping.subnets) memory =
        (if vifSubnets.items.isEmpty then .error integrityError else .ok vifSubnets.values,
          after) := by
  obtain ⟨vifSubnets, after, ran, grouped⟩ :=
    exec_collectIps (port.attributes.fixedIps.getD []) (grouped_nil memory) kept
  refine ⟨vifSubnets, after, grouped, ?_⟩
  unfold makeVifSubnets NeutronPort.read
  rw [dict]
  change exec (collectIps _ _ _ >>= _) memory = _
  rw [exec_bind_of_ok ran]
  split <;> rfl

/-- The copy of a network gets the new subnets instead of its own. -/
theorem Grouped.setSubnets {tail after : List (Object α σ ν)} {id : String} {data : ν}
    {before : Nat} {vifSubnets : Dict String Nat} {subnets : Dict String (SubnetView α σ)}
    (grouped : Grouped (memory ++ tail ++ [.network id data before]) after vifSubnets subnets) :
    ∃ final, memory <+: final ∧
      exec (do
        let list ← newObject (.subnetList vifSubnets.values)
        Net.setSubnets (memory ++ tail).length list
        return (memory ++ tail).length : OsVifM α σ ν Nat) after =
          (.ok (memory ++ tail).length, final) ∧
      ShowsNetwork memory.length final (memory ++ tail).length ⟨id, data, subnets.values⟩ := by
  have copy : after[(memory ++ tail).length]? = some (.network id data before) := by
    apply there_of_old grouped.old
    simp
  have inside := lt_length_of_there copy
  have extended := prefix_append (List.prefix_refl after) [.subnetList vifSubnets.values]
  have later : memory.length ≤ (memory ++ tail).length := (List.prefix_append _ _).length_le
  have same (reference : Nat) (different : reference ≠ (memory ++ tail).length)
      {object : Object α σ ν} (there : after[reference]? = some object) :
      ((after ++ [Object.subnetList vifSubnets.values]).set (memory ++ tail).length
        (.network id data after.length))[reference]? = some object := by
    rw [there_set_of_ne different]
    exact there_of_old extended there
  refine ⟨(after ++ [Object.subnetList vifSubnets.values]).set (memory ++ tail).length
    (.network id data after.length), ?_, ?_, later, after.length, vifSubnets.values, by omega,
    ?_, ?_, ?_⟩
  · apply prefix_set _ later
    rw [List.append_assoc] at grouped
    exact ((List.prefix_append memory _).trans grouped.old).trans extended
  · rw [exec_bind_of_ok (exec_newObject _ _)]
    rw [exec_bind_of_ok (exec_setSubnets _ (there_of_old extended copy))]
    rfl
  · rw [List.getElem?_set_self]
    exact lt_length_of_there (there_of_old extended copy)
  · rw [there_set_of_ne (Nat.ne_of_gt inside)]
    simp
  · apply Dict.forall₂_values grouped.keys
    intro subnetId subnet view found shown
    obtain ⟨new, data', ips, shown', there, listed⟩ := grouped.each subnetId subnet found
    cases shown.symm.trans shown'
    rw [List.length_append, List.length_singleton] at new
    exact .set (by omega) (same _ (by omega) there) (by omega) (same _ (by omega) listed)

/-- The conversion shows what it is to show, with new objects, or raises. -/
theorem exec_makeVifNetwork (dict : port.get = .ok port.attributes)
    (kept : mapping.objects <+: memory) :
    ∃ after, memory <+: after ∧
      ((mapping.vifNetwork port = none ∧
          exec (makeVifNetwork port mapping.subnets) memory = (.error integrityError, after)) ∨
        ∃ view network, mapping.vifNetwork port = some view ∧
          exec (makeVifNetwork port mapping.subnets) memory = (.ok network, after) ∧
          ShowsNetwork memory.length after network view) := by
  unfold makeVifNetwork NeutronPort.read SubnetMapping.vifNetwork
  rw [dict]
  change ∃ after, memory <+: after ∧ ((_ ∧ exec (nextNetwork _ _ >>= _) memory = _) ∨
    ∃ view network, _ ∧ exec (nextNetwork _ _ >>= _) memory = _ ∧ _)
  have next := exec_nextNetwork_subnets mapping port kept
  cases known : mapping.networkOf port with
  | none =>
      rw [known] at next
      refine ⟨memory, List.prefix_refl memory, .inl ⟨rfl, ?_⟩⟩
      rw [exec_bind_of_error next]
  | some mapped =>
      obtain ⟨tail, before, cloned⟩ := exec_cloneNetwork mapped kept
      rw [known, Option.elim_some, cloned] at next
      have copied := kept.trans ((List.prefix_append memory tail).trans
        (List.prefix_append _ [.network mapped.id mapped.data before]))
      obtain ⟨vifSubnets, after, grouped, made⟩ := exec_makeVifSubnets dict copied
      have empty : vifSubnets.items.isEmpty =
          (mapping.collect (port.attributes.fixedIps.getD []) ∅).items.isEmpty := by
        have keys := congrArg List.isEmpty grouped.keys
        rwa [Dict.keys, Dict.keys, List.isEmpty_map, List.isEmpty_map] at keys
      rw [exec_bind_of_ok next]
      rw [empty] at made
      dsimp only [Option.bind_some]
      have extended := (List.prefix_append memory tail).trans
        (List.prefix_append _ [.network mapped.id mapped.data before])
      split at made
      · rename_i none_
        refine ⟨after, extended.trans grouped.old, .inl ⟨if_pos none_, ?_⟩⟩
        rw [exec_bind_of_error made]
      · rename_i some_
        obtain ⟨final, old, ended, shown⟩ := grouped.setSubnets
        refine ⟨final, old, .inr ⟨_, (memory ++ tail).length, if_neg some_, ?_, shown⟩⟩
        rw [exec_bind_of_ok made, ended]

/-- The subnets that a conversion collects are those of the mapping with their addresses. -/
theorem get?_collect_empty {subnetId : String} {subnet : SubnetView α σ}
    (fixedIps : List (FixedIp α)) :
    (mapping.collect fixedIps ∅).get? subnetId = some subnet ↔
      ∃ mapped, mapping.networks.get? subnetId = some mapped ∧
        addressesIn subnetId fixedIps ≠ [] ∧
        subnet = ⟨mapped.subnet.data, some (addressesIn subnetId fixedIps)⟩ := by
  cases known : mapping.networks.get? subnetId with
  | none =>
      rw [get?_collect_of_none known, Dict.get?_empty]
      constructor
      · rintro ⟨⟩
      · rintro ⟨mapped, ⟨⟩, _⟩
  | some mapped =>
      rw [get?_collect known, Dict.get?_empty]
      by_cases none_ : addressesIn subnetId fixedIps = []
      · rw [if_pos none_]
        constructor
        · rintro ⟨⟩
        · rintro ⟨_, _, some_, _⟩
          exact absurd none_ some_
      · rw [if_neg none_]
        constructor
        · rintro ⟨⟩
          exact ⟨mapped, rfl, none_, rfl⟩
        · rintro ⟨_, ⟨⟩, _, rfl⟩
          rfl

theorem addressesIn_ne_nil_iff {subnetId : String} {fixedIps : List (FixedIp α)} :
    addressesIn subnetId fixedIps ≠ [] ↔ ∃ fixedIp ∈ fixedIps, fixedIp.subnetId = subnetId := by
  unfold addressesIn
  rw [ne_eq, List.map_eq_nil_iff, List.filter_eq_nil_iff]
  simp

/-- Nothing is collected for a port without an address in a subnet of the mapping. -/
theorem isEmpty_collect_iff :
    (mapping.collect (port.attributes.fixedIps.getD []) ∅).items.isEmpty ↔
      ¬mapping.Serves port := by
  rw [List.isEmpty_iff]
  constructor
  · rintro none_ ⟨fixedIp, listed, known⟩
    obtain ⟨mapped, found⟩ := Dict.mem_iff_exists_get?.mp known
    have shown := (get?_collect_empty _).mpr
      ⟨mapped, found, addressesIn_ne_nil_iff.mpr ⟨fixedIp, listed, rfl⟩, rfl⟩
    rw [← Dict.mem_items_iff, none_] at shown
    cases shown
  · intro unserved
    apply List.eq_nil_iff_forall_not_mem.mpr
    rintro ⟨subnetId, subnet⟩ listed
    obtain ⟨mapped, found, some_, _⟩ := (get?_collect_empty _).mp (Dict.mem_items_iff.mp listed)
    obtain ⟨fixedIp, among, rfl⟩ := addressesIn_ne_nil_iff.mp some_
    exact unserved ⟨fixedIp, among, Dict.mem_iff_exists_get?.mpr ⟨mapped, found⟩⟩

theorem vifNetwork_eq_none_iff :
    mapping.vifNetwork port = none ↔
      mapping.networkOf port = none ∨ ¬mapping.Serves port := by
  rw [← isEmpty_collect_iff]
  unfold SubnetMapping.vifNetwork
  cases mapping.networkOf port with
  | none => simp
  | some network => simp

theorem isVifNetwork_of_eq_some {view : NetworkView α σ ν}
    (converted : mapping.vifNetwork port = some view) : IsVifNetwork mapping port view := by
  unfold SubnetMapping.vifNetwork at converted
  obtain ⟨network, known, made⟩ := Option.bind_eq_some_iff.mp converted
  dsimp only at made
  split at made
  · cases made
  · cases made
    refine ⟨network, known, _, rfl, ?_⟩
    intro subnetId subnet
    exact get?_collect_empty _

/-- Where `get` raises a `TypeError`, the id is looked for at `get` itself, and in vain. -/
theorem exec_makeVifNetwork_of_typeError (raised : port.get = .error .typeError)
    (kept : mapping.objects <+: memory) (known : mapping.networkOf port ≠ none) :
    (exec (makeVifNetwork port mapping.subnets) memory).1 = .error .attributeError := by
  obtain ⟨mapped, found⟩ := Option.ne_none_iff_exists'.mp known
  obtain ⟨tail, before, cloned⟩ := exec_cloneNetwork mapped kept
  have next := exec_nextNetwork_subnets mapping port kept
  rw [found, Option.elim_some, cloned] at next
  unfold makeVifNetwork makeVifSubnets NeutronPort.read
  rw [raised]
  change (exec (nextNetwork _ _ >>= _) memory).1 = _
  rw [exec_bind_of_ok next]
  rfl

end

/-- Wherever the objects of a mapping are as they were, `_make_vif_network` converts a port that
`get` can be called on as it is to, with the same result each time. -/
theorem make_vif_network_converts {α σ ν : Type} (mapping : SubnetMapping α σ ν)
    (port : NeutronPort α) (dict : port.get = .ok port.attributes) :
    (∀ objects, mapping.objects <+: objects →
      Converts mapping port objects (exec (makeVifNetwork port mapping.subnets) objects)) ∧
    ∀ objects others, mapping.objects <+: objects → mapping.objects <+: others →
      SameResult (exec (makeVifNetwork port mapping.subnets) objects)
        (exec (makeVifNetwork port mapping.subnets) others) := by
  constructor
  · intro objects kept
    obtain ⟨after, old, ⟨raises, ran⟩ | ⟨view, network, converted, ran, shown⟩⟩ :=
      exec_makeVifNetwork dict kept
    · rw [ran]
      constructor
      · rintro network ⟨⟩
      · exact ⟨fun _ => vifNetwork_eq_none_iff.mp raises, fun _ => rfl⟩
      · rintro exception ⟨⟩
        rfl
      · exact old
    · rw [ran]
      constructor
      · rintro network ⟨⟩
        exact ⟨view, shown, isVifNetwork_of_eq_some converted⟩
      · rw [← vifNetwork_eq_none_iff, converted]
        constructor <;> rintro ⟨⟩
      · rintro exception ⟨⟩
      · exact old
  · intro objects others kept keptToo
    obtain ⟨_, _, ⟨raises, ran⟩ | ⟨view, network, converted, ran, shown⟩⟩ :=
      exec_makeVifNetwork dict kept
    · obtain ⟨_, _, ⟨_, again⟩ | ⟨_, _, converted, _⟩⟩ := exec_makeVifNetwork dict keptToo
      · rw [ran, again]
        exact .inl ⟨integrityError, rfl, rfl⟩
      · cases raises.symm.trans converted
    · obtain ⟨_, _, ⟨raises, _⟩ | ⟨_, other, convertedToo, again, shownToo⟩⟩ :=
        exec_makeVifNetwork dict keptToo
      · cases raises.symm.trans converted
      · cases converted.symm.trans convertedToo
        rw [ran, again]
        exact .inr ⟨network, other, view, rfl, rfl, shown.anywhere, shownToo.anywhere⟩

/-- A network with one subnet. -/
def sharedObjects : List (Object String String Unit) :=
  [.subnet "10.0.0.0/24" none, .subnetList [0], .network "net" () 1]

/-- The mapping of this subnet. -/
def sharedMapping : SubnetMapping String String Unit where
  objects := sharedObjects
  networks := .ofList [("subnet", {
    reference := 2
    id := "net"
    data := ()
    subnet := ⟨"10.0.0.0/24", none⟩
    shows_ := ⟨Nat.zero_le _, 1, [0], Nat.zero_le _, rfl, rfl,
      .cons (.unset (Nat.zero_le _) rfl) .nil⟩ })]

/-- A port with two addresses in the subnet and one in another. -/
def sharedPort : NeutronPort String :=
  let info : PortInfo String := ⟨some "net", some
    [⟨"subnet", "10.0.0.5"⟩, ⟨"other", "10.1.0.5"⟩, ⟨"subnet", "10.0.0.7"⟩]⟩
  ⟨info, .ok info⟩

theorem make_vif_network_converts_shared :
    (∀ objects, sharedMapping.objects <+: objects →
      Converts sharedMapping sharedPort objects
        (exec (makeVifNetwork sharedPort sharedMapping.subnets) objects)) ∧
    ∀ objects others, sharedMapping.objects <+: objects → sharedMapping.objects <+: others →
      SameResult (exec (makeVifNetwork sharedPort sharedMapping.subnets) objects)
        (exec (makeVifNetwork sharedPort sharedMapping.subnets) others) :=
  make_vif_network_converts sharedMapping sharedPort rfl

example : exec (makeVifNetwork sharedPort sharedMapping.subnets) sharedObjects =
    (.ok 5, sharedObjects ++ [.subnet "10.0.0.0/24" none, .subnetList [3], .network "net" () 8,
      .subnet "10.0.0.0/24" (some 7), .fixedIpList ["10.0.0.5", "10.0.0.7"],
      .subnetList [6]]) := by
  rfl

end KuryrKubernetes.Net

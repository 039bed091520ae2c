import KuryrKubernetes.Net.Address
import Mathlib.Data.List.Basic

/-!
# Versioned objects in the Go plugin

`ovo.go`: the structures of the plugin, which are read from the primitive of a VIF object that
the daemon sends.  Every object of a primitive stands under `versioned_object.data`, and the
items of a list object under `objects` there.  What the type assertions of `UnmarshalOVO` do
not find is a panic.
-/

namespace KuryrKubernetes.KuryrCni

open KuryrKubernetes.Net

/-! ## Primitives -/

/-- A text.  The text of an address or a network is what it denotes. -/
inductive Text where
  | plain (text : String)
  | address (ip : IpAddress)
  | network (network : Prefixed)
  deriving DecidableEq

/-- JSON without numbers and truth values. -/
inductive Json where
  | null
  | text (text : Text)
  | list (items : List Json)
  | object (fields : List (String × Json))

/-- The fields of an object of JSON. -/
abbrev Fields := List (String × Json)

/-- `vod`. -/
def vod : String := "versioned_object.data"

/-- `ob`. -/
def ob : String := "objects"

/-- `obj_to_primitive` of an object with the fields that are set. -/
def ovo (objName : String) (data : Fields) : Json :=
  .object [("versioned_object.name", .text (.plain objName)), (vod, .object data)]

/-- `obj_to_primitive` of a list object. -/
def ovoList (objName : String) (items : List Json) : Json :=
  ovo objName [(ob, .list items)]

namespace OsVif

/-- `os_vif.objects.route.Route`. -/
structure Route where
  cidr : IpNetwork
  gateway : IpAddress
  deriving DecidableEq

/-- `os_vif.objects.subnet.Subnet`, whose gateway may not be set.  The subnet of a VIF has an
address of the port. -/
structure Subnet where
  cidr : IpNetwork
  dns : List IpAddress
  gateway : Option IpAddress
  ips : List IpAddress
  routes : List Route
  hasIp : ips ≠ []
  deriving DecidableEq

/-- `os_vif.objects.vif.VIFBase`, with the subnets of its network.  No MAC address is empty. -/
structure Vif where
  address : String
  vifName : String
  subnets : List Subnet
  hasAddress : address ≠ ""
  deriving DecidableEq

/-- `obj_to_primitive`. -/
def Route.primitive (route : Route) : Json :=
  ovo "Route"
    [("cidr", .text (.network route.cidr.toPrefixed)), ("gateway", .text (.address route.gateway))]

/-- `obj_to_primitive` of a `FixedIP`. -/
def ipPrimitive (ip : IpAddress) : Json :=
  ovo "FixedIP" [("address", .text (.address ip))]

/-- `obj_to_primitive`, where a field that is not set is left out. -/
def Subnet.primitive (subnet : Subnet) : Json :=
  ovo "Subnet"
    ([("cidr", .text (.network subnet.cidr.toPrefixed)),
      ("dns", .list (subnet.dns.map fun ip => .text (.address ip))),
      ("ips", ovoList "FixedIPList" (subnet.ips.map ipPrimitive)),
      ("routes", ovoList "RouteList" (subnet.routes.map Route.primitive))] ++
      subnet.gateway.toList.map fun gateway => ("gateway", .text (.address gateway)))

/-- `obj_to_primitive` of a `Network`. -/
def networkPrimitive (subnets : List Subnet) : Json :=
  ovo "Network" [("subnets", ovoList "SubnetList" (subnets.map Subnet.primitive))]

/-- `obj_to_primitive`. -/
def Vif.primitive (vif : Vif) : Json :=
  ovo "VIFBase"
    [("address", .text (.plain vif.address)),
      ("network", networkPrimitive vif.subnets),
      ("vif_name", .text (.plain vif.vifName))]

end OsVif

/-! ## Structures of the plugin -/

/-- `Route`. -/
structure Route where
  cidr : Text
  gateway : Text
  deriving DecidableEq

/-- `IP`. -/
structure Ip where
  address : Text
  deriving DecidableEq

/-- `Subnet`. -/
structure Subnet where
  routes : List Route
  ips : List Ip
  cidr : Text
  gateway : Text
  dns : List Text
  deriving DecidableEq

/-- `Network`. -/
structure Network where
  subnets : List Subnet
  deriving DecidableEq

/-- `VIF`. -/
structure Vif where
  network : Network
  address : Text
  vifName : Text
  deriving DecidableEq

/-- How the plugin fails: by a type assertion or an index out of range, or with an error about
the response, an address or a network. -/
inductive Failure where
  | panic
  | readingResponse
  | parsingAddress (text : Text)
  | parsingCidr (text : Text)
  deriving DecidableEq

/-! ## Reading -/

section

variable {α : Type}

/-- `UnmarshalOVO`: the level of `versioned_object.data` is skipped and the fields of the
structure are read one after another. -/
def unmarshalOvo (fields : Fields → Except Failure α) : Json → Except Failure α
  | .object i =>
      match i.lookup vod with
      | some (.object d) => fields d
      | _ => .error .panic
  | .null => .error .panic
  | _ => .error .readingResponse

/-- A field of kind `reflect.String`. -/
def stringField (d : Fields) (key : String) : Except Failure Text :=
  match d.lookup key with
  | some (.text text) => .ok text
  | _ => .error .panic

/-- A field of kind `reflect.Slice`: a list, or a list object, which is flattened. -/
def sliceField (item : Json → Except Failure α) (d : Fields) (key : String) :
    Except Failure (List α) :=
  match d.lookup key with
  | some (.list items) => items.mapM item
  | some (.object listObj) =>
      match listObj.lookup vod with
      | some (.object listData) =>
          match listData.lookup ob with
          | some (.list items) => items.mapM item
          | _ => .error .panic
      | _ => .error .panic
  | _ => .error .panic

/-- A field of kind `reflect.Struct`.  `null` leaves it as it is. -/
def structField (zero : α) (value : Json → Except Failure α) (d : Fields) (key : String) :
    Except Failure α :=
  match d.lookup key with
  | none => .ok zero
  | some .null => .ok zero
  | some json => value json

/-- An item of a slice of strings, which `null` leaves empty. -/
def stringItem : Json → Except Failure Text
  | .text text => .ok text
  | .null => .ok (.plain "")
  | _ => .error .readingResponse

end

/-- `(v *Route) UnmarshalJSON`. -/
def Route.unmarshalJson : Json → Except Failure Route :=
  unmarshalOvo fun d => do
    let cidr ← stringField d "cidr"
    let gateway ← stringField d "gateway"
    return { cidr, gateway }

/-- `(v *IP) UnmarshalJSON`. -/
def Ip.unmarshalJson : Json → Except Failure Ip :=
  unmarshalOvo fun d => do
    let address ← stringField d "address"
    return { address }

/-- `(v *Subnet) UnmarshalJSON`. -/
def Subnet.unmarshalJson : Json → Except Failure Subnet :=
  unmarshalOvo fun d => do
    let routes ← sliceField Route.unmarshalJson d "routes"
    let ips ← sliceField Ip.unmarshalJson d "ips"
    let cidr ← stringField d "cidr"
    let gateway ← stringField d "gateway"
    let dns ← sliceField stringItem d "dns"
    return { routes, ips, cidr, gateway, dns }

/-- `(v *Network) UnmarshalJSON`. -/
def Network.unmarshalJson : Json → Except Failure Network :=
  unmarshalOvo fun d => do
    let subnets ← sliceField Subnet.unmarshalJson d "subnets"
    return { subnets }

/-- `(v *VIF) UnmarshalJSON`. -/
def Vif.unmarshalJson : Json → Except Failure Vif :=
  unmarshalOvo fun d => do
    let network ← structField { subnets := [] } Network.unmarshalJson d "network"
    let address ← stringField d "address"
    let vifName ← stringField d "vif_name"
    return { network, address, vifName }

/-! ## What is read from a primitive -/

/-- Items that are read one by one are read as a list. -/
theorem mapM_map_eq_ok {α β : Type} {item : Json → Except Failure β} {primitive : α → Json}
    {value : α → β} {items : List α}
    (reads : ∀ x ∈ items, item (primitive x) = .ok (value x)) :
    (items.map primitive).mapM item = .ok (items.map value) := by
  induction items with
  | nil => rfl
  | cons x items ih =>
      have rest := ih fun y member => reads y (List.mem_cons_of_mem _ member)
      rw [List.map_cons, List.mapM_cons, reads x List.mem_cons_self, rest]
      rfl

/-- An item that is not read stops the reading of a list, after items that are. -/
theorem mapM_map_eq_panic {α β : Type} {item : Json → Except Failure β} {primitive : α → Json}
    {items : List α}
    (reads : ∀ x ∈ items, (∃ value, item (primitive x) = .ok value) ∨
      item (primitive x) = .error .panic)
    (stops : ∃ x ∈ items, item (primitive x) = .error .panic) :
    (items.map primitive).mapM item = .error .panic := by
  induction items with
  | nil =>
      rcases stops with ⟨x, member, _⟩
      cases member
  | cons x items ih =>
      rw [List.map_cons, List.mapM_cons]
      rcases reads x List.mem_cons_self with ⟨value, readsHead⟩ | panics
      · have later : ∃ y ∈ items, item (primitive y) = .error .panic := by
          rcases stops with ⟨y, member, panics⟩
          rcases List.mem_cons.mp member with rfl | member
          · rw [readsHead] at panics
            cases panics
          · exact ⟨y, member, panics⟩
        rw [readsHead, ih (fun y member => reads y (List.mem_cons_of_mem _ member)) later]
        rfl
      · rw [panics]
        rfl

section

variable {α : Type}

@[simp]
theorem unmarshalOvo_ovo (fields : Fields → Except Failure α) (objName : String)
    (data : Fields) : unmarshalOvo fields (ovo objName data) = fields data := by
  rfl

/-- A list object is read as the list of its items. -/
theorem sliceField_ovoList {item : Json → Except Failure α} {d : Fields} {key objName : String}
    {items : List Json} (found : d.lookup key = some (ovoList objName items)) :
    sliceField item d key = items.mapM item := by
  rw [sliceField, found]
  rfl

theorem sliceField_list {item : Json → Except Failure α} {d : Fields} {key : String}
    {items : List Json} (found : d.lookup key = some (.list items)) :
    sliceField item d key = items.mapM item := by
  simp [sliceField, found]

end

/-- A route as the plugin reads it. -/
def Route.ofObject (route : OsVif.Route) : Route where
  cidr := .network route.cidr.toPrefixed
  gateway := .address route.gateway

/-- An address as the plugin reads it. -/
def Ip.ofObject (ip : IpAddress) : Ip where
  address := .address ip

/-- A subnet with this gateway as the plugin reads it. -/
def Subnet.ofObject (subnet : OsVif.Subnet) (gateway : IpAddress) : Subnet where
  routes := subnet.routes.map Route.ofObject
  ips := subnet.ips.map Ip.ofObject
  cidr := .network subnet.cidr.toPrefixed
  gateway := .address gateway
  dns := subnet.dns.map Text.address

@[simp]
theorem Route.unmarshalJson_primitive (route : OsVif.Route) :
    Route.unmarshalJson route.primitive = .ok (Route.ofObject route) := by
  rw [Route.unmarshalJson, OsVif.Route.primitive, unmarshalOvo_ovo]
  rfl

@[simp]
theorem Ip.unmarshalJson_primitive (ip : IpAddress) :
    Ip.unmarshalJson (OsVif.ipPrimitive ip) = .ok (Ip.ofObject ip) := by
  rw [Ip.unmarshalJson, OsVif.ipPrimitive, unmarshalOvo_ovo]
  rfl

section

variable (subnet : OsVif.Subnet)

/-- The routes, the addresses and the name servers of a subnet are all read. -/
theorem sliceField_routes (d : Fields)
    (found : d.lookup "routes" =
      some (ovoList "RouteList" (subnet.routes.map OsVif.Route.primitive))) :
    sliceField Route.unmarshalJson d "routes" = .ok (subnet.routes.map Route.ofObject) := by
  rw [sliceField_ovoList found]
  exact mapM_map_eq_ok fun route _ => Route.unmarshalJson_primitive route

theorem sliceField_ips (d : Fields)
    (found : d.lookup "ips" = some (ovoList "FixedIPList" (subnet.ips.map OsVif.ipPrimitive))) :
    sliceField Ip.unmarshalJson d "ips" = .ok (subnet.ips.map Ip.ofObject) := by
  rw [sliceField_ovoList found]
  exact mapM_map_eq_ok fun ip _ => Ip.unmarshalJson_primitive ip

theorem sliceField_dns (d : Fields)
    (found : d.lookup "dns" = some (.list (subnet.dns.map fun ip => .text (.address ip)))) :
    sliceField stringItem d "dns" = .ok (subnet.dns.map Text.address) := by
  rw [sliceField_list found]
  exact mapM_map_eq_ok fun _ _ => rfl

/-- The reading of a subnet stops at a gateway that is not set. -/
theorem Subnet.unmarshalJson_primitive :
    Subnet.unmarshalJson subnet.primitive =
      match subnet.gateway with
      | some gateway => .ok (Subnet.ofObject subnet gateway)
      | none => .error .panic := by
  rw [Subnet.unmarshalJson, OsVif.Subnet.primitive, unmarshalOvo_ovo, sliceField_routes subnet _ rfl,
    sliceField_ips subnet _ rfl, sliceField_dns subnet _ rfl]
  cases subnet.gateway with
  | some gateway => rfl
  | none => rfl

end

section

variable {subnets : List OsVif.Subnet}

theorem Network.unmarshalJson_primitive {gateway : OsVif.Subnet → IpAddress}
    (set : ∀ subnet ∈ subnets, subnet.gateway = some (gateway subnet)) :
    Network.unmarshalJson (OsVif.networkPrimitive subnets) =
      .ok { subnets := subnets.map fun subnet => .ofObject subnet (gateway subnet) } := by
  have reads :
      (subnets.map OsVif.Subnet.primitive).mapM Subnet.unmarshalJson =
        .ok (subnets.map fun subnet => .ofObject subnet (gateway subnet)) := by
    apply mapM_map_eq_ok
    intro subnet member
    rw [Subnet.unmarshalJson_primitive, set subnet member]
  rw [Network.unmarshalJson, OsVif.networkPrimitive, unmarshalOvo_ovo, sliceField_ovoList rfl,
    reads]
  rfl

/-- One subnet without a gateway is enough for a panic. -/
theorem Network.unmarshalJson_eq_panic (unset : ∃ subnet ∈ subnets, subnet.gateway = none) :
    Network.unmarshalJson (OsVif.networkPrimitive subnets) = .error .panic := by
  have panics :
      (subnets.map OsVif.Subnet.primitive).mapM Subnet.unmarshalJson = .error .panic := by
    apply mapM_map_eq_panic
    · intro subnet _
      rw [Subnet.unmarshalJson_primitive]
      cases subnet.gateway with
      | some gateway => exact .inl ⟨_, rfl⟩
      | none => exact .inr rfl
    · rcases unset with ⟨subnet, member, missing⟩
      exact ⟨subnet, member, by rw [Subnet.unmarshalJson_primitive, missing]⟩
  rw [Network.unmarshalJson, OsVif.networkPrimitive, unmarshalOvo_ovo, sliceField_ovoList rfl,
    panics]
  rfl

end

section

variable {vif : OsVif.Vif}

/-- A VIF is read as its network is. -/
theorem Vif.unmarshalJson_primitive :
    Vif.unmarshalJson vif.primitive = do
      let network ← Network.unmarshalJson (OsVif.networkPrimitive vif.subnets)
      return { network, address := .plain vif.address, vifName := .plain vif.vifName } := by
  rw [Vif.unmarshalJson, OsVif.Vif.primitive, unmarshalOvo_ovo]
  rfl

end

end KuryrKubernetes.KuryrCni

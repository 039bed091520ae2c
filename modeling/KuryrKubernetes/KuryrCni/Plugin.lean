import KuryrKubernetes.Objects
import KuryrKubernetes.KuryrCni.Ovo

/-!
# The result of a plugin

What the Go plugin prints for the VIF that the daemon sends, `cmdAdd`, and what the Python
plugin prints for it, `_vif_data`.
-/

namespace KuryrKubernetes.KuryrCni

open KuryrKubernetes.Net

/-! ## Printed results -/

/-- An interface in JSON, where Go leaves empty texts out. -/
structure PrintedInterface where
  name : String
  mac : Option Text
  sandbox : Option Text
  deriving DecidableEq

/-- An entry of `ips` in JSON. -/
structure PrintedIp where
  version : String
  interface : Nat
  address : Text
  gateway : Option Text
  deriving DecidableEq

/-- An entry of `routes` in JSON. -/
structure PrintedRoute where
  dst : Text
  gw : Text
  deriving DecidableEq

/-- What the subnets give.  A list that is left out of the JSON is empty. -/
structure Printed where
  ips : List PrintedIp := []
  routes : List PrintedRoute := []
  nameservers : List Text := []
  deriving DecidableEq

/-- The result of a plugin. -/
structure CniResult extends Printed where
  interfaces : List PrintedInterface
  deriving DecidableEq

/-- What the runtime calls a plugin with.  `skel` refuses an empty container. -/
structure CmdArgs where
  ifName : String
  containerId : String
  hasContainer : containerId ≠ ""

/-! ## The Go plugin -/

/-- `net.ParseIP`. -/
def netParseIp : Text → Option GoIp
  | .address ip => some (parseIp ip)
  | _ => none

/-- `net.ParseCIDR`. -/
def netParseCidr : Text → Option (GoIp × GoNet)
  | .network text => parseCidr text
  | _ => none

/-- `cni.ParseCIDR`. -/
def cniParseCidr : Text → Option GoNet
  | .network text => parseAddress text
  | _ => none

/-- `current.IPConfig`. -/
structure IpConfig where
  version : String
  interface : Nat
  address : GoNet
  gateway : Option GoIp

/-- `types.Route`. -/
structure GoRoute where
  dst : GoNet
  gw : GoIp

/-- `ips`, `routes` and `dns.Nameservers` of `cmdAdd`. -/
structure Collected where
  ips : List IpConfig := []
  routes : List GoRoute := []
  nameservers : List Text := []

/-- `collected` with the address, the routes and the name servers of one more subnet. -/
def Collected.add (collected : Collected) (config : IpConfig) (routes : List GoRoute)
    (nameservers : List Text) : Collected where
  ips := collected.ips ++ [config]
  routes := collected.routes ++ routes
  nameservers := collected.nameservers ++ nameservers

/-- What the routes of a subnet add. -/
def addedRoute (route : Route) : Except Failure GoRoute :=
  match netParseCidr route.cidr with
  | none => .error (.parsingCidr route.cidr)
  | some (_, dst) =>
      match netParseIp route.gateway with
      | none => .error (.parsingAddress route.gateway)
      | some gw => .ok { dst, gw }

/-- What a subnet adds to `ips`, from the text of its address. -/
def addedIp (subnet : Subnet) (addrStr : Text) : Except Failure IpConfig :=
  match netParseIp addrStr with
  | none => .error (.parsingAddress addrStr)
  | some addr =>
      match netParseCidr subnet.cidr with
      | none => .error (.parsingCidr subnet.cidr)
      | some (_, cidr) =>
          let ver := if addr.to4 = none then "6" else "4"
          let ifaceCidr := Text.network ⟨addr.string, cidr.mask.size⟩
          match cniParseCidr ifaceCidr with
          | none => .error (.parsingCidr ifaceCidr)
          | some ipAddress =>
              .ok
                { version := ver
                  interface := 0
                  address := ipAddress
                  gateway := netParseIp subnet.gateway }

/-- The loop body of `cmdAdd`. -/
def addSubnet (collected : Collected) (subnet : Subnet) : Except Failure Collected :=
  match subnet.ips with
  | [] => .error .panic
  | ip :: _ => do
      let config ← addedIp subnet ip.address
      let routes ← subnet.routes.mapM addedRoute
      return collected.add config routes subnet.dns

/-- `IPNet.String`. -/
def printNet (net : GoNet) : Text :=
  match net.string with
  | some text => .network text
  | none => .plain "<nil>"

/-- `MarshalJSON` of an `IPConfig`. -/
def IpConfig.print (config : IpConfig) : PrintedIp where
  version := config.version
  interface := config.interface
  address := printNet config.address
  gateway := config.gateway.map fun gateway => .address gateway.string

/-- `MarshalJSON` of a `Route`. -/
def GoRoute.print (route : GoRoute) : PrintedRoute where
  dst := printNet route.dst
  gw := .address route.gw.string

/-- The lists of a result in JSON. -/
def Collected.print (collected : Collected) : Printed where
  ips := collected.ips.map IpConfig.print
  routes := collected.routes.map GoRoute.print
  nameservers := collected.nameservers

/-- `omitempty`. -/
def omitEmpty (text : Text) : Option Text :=
  if text = .plain "" then none else some text

/-- `cmdAdd`, from the response of the daemon on. -/
def cmdAdd (args : CmdArgs) (body : Json) : Except Failure CniResult := do
  let vif ← Vif.unmarshalJson body
  let iface : PrintedInterface :=
    { name := args.ifName
      mac := omitEmpty vif.address
      sandbox := omitEmpty (.plain args.containerId) }
  let collected ← vif.network.subnets.foldlM addSubnet {}
  return { collected.print with interfaces := [iface] }

/-! ## The Python plugin -/

/-- `cni_ip['gateway']`: reading a gateway that is not set raises, and `hasattr` catches only an
`AttributeError`. -/
def gatewayData (unset : PyException) (subnet : OsVif.Subnet) : Except PyException (Option Text) :=
  match subnet.gateway with
  | some gateway => .ok (some (.address gateway))
  | none => if unset = .attributeError then .ok none else .error unset

/-- An item of `cni_routes_list`. -/
def routeData (route : OsVif.Route) : PrintedRoute where
  dst := .network route.cidr.toPrefixed
  gw := .address route.gateway

/-- The first address of a subnet. -/
def OsVif.Subnet.ip (subnet : OsVif.Subnet) : IpAddress :=
  subnet.ips.head subnet.hasIp

/-- `cni_ip`. -/
def ipData (subnet : OsVif.Subnet) (gateway : Option Text) : PrintedIp where
  version := toString subnet.ip.version
  interface := 0
  address := .network ⟨subnet.ip, subnet.cidr.prefixlen⟩
  gateway := gateway

/-- `result` with the entries of one more subnet. -/
def Printed.add (result : Printed) (subnet : OsVif.Subnet) (gateway : Option Text) : Printed where
  ips := result.ips ++ [ipData subnet gateway]
  routes := result.routes ++ subnet.routes.map routeData
  nameservers := result.nameservers ++ subnet.dns.map Text.address

/-- The loop body of `_vif_data`. -/
def addSubnetData (unset : PyException) (result : Printed) (subnet : OsVif.Subnet) :
    Except PyException Printed := do
  let gateway ← gatewayData unset subnet
  return result.add subnet gateway

/-- The item of `result["interfaces"]`. -/
def interfaceData (vif : OsVif.Vif) (params : CmdArgs) : PrintedInterface where
  name := params.ifName
  mac := some (.plain vif.address)
  sandbox := some (.plain params.containerId)

/-- `_vif_data`. -/
def vifData (unset : PyException) (vif : OsVif.Vif) (params : CmdArgs) :
    Except PyException CniResult := do
  let result ← vif.subnets.foldlM (addSubnetData unset) {}
  return { result with interfaces := [interfaceData vif params] }

end KuryrKubernetes.KuryrCni

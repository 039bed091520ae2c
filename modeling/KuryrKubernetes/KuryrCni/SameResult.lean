import KuryrKubernetes.KuryrCni.Plugin

/-!
# Where the plugins print the same result

The Go plugin loses what `net.IP` cannot hold: that an address is an IPv6 address mapped from an
IPv4 address, and the bits of a destination after its prefix.  A gateway that is not set is a
panic.  Everything else is printed as the Python plugin prints it.
-/

namespace KuryrKubernetes.KuryrCni

open KuryrKubernetes.Net

/-! ## Routes and subnets that Go can hold -/

/-- A route to an address of a network, with neither mapped. -/
structure OsVif.Route.Portable (route : OsVif.Route) : Prop where
  network : route.cidr.network = route.cidr.ip
  dst : ¬route.cidr.ip.Mapped
  gateway : ¬route.gateway.Mapped

/-- A subnet with a gateway, where no address is mapped and the prefix fits the address of the
port. -/
structure OsVif.Subnet.Portable (subnet : OsVif.Subnet) : Prop where
  gateway : ∃ gateway, subnet.gateway = some gateway ∧ ¬gateway.Mapped
  ip : ¬subnet.ip.Mapped
  fits : subnet.cidr.prefixlen ≤ subnet.ip.width
  routes : ∀ route ∈ subnet.routes, route.Portable

/-! ## Routes -/

/-- A route is printed as it was exactly if Go can hold it. -/
theorem addedRoute_agrees_iff (route : OsVif.Route) :
    (∃ added, addedRoute (.ofObject route) = .ok added ∧ added.print = routeData route) ↔
      route.Portable := by
  obtain ⟨dst, parsed, _⟩ := parseCidr_of_fits route.cidr.fits
  have adds : addedRoute (.ofObject route) = .ok { dst, gw := parseIp route.gateway } := by
    simp [addedRoute, Route.ofObject, netParseCidr, netParseIp, parsed]
  have printed : printNet dst = .network route.cidr.toPrefixed ↔
      dst.string = some route.cidr.toPrefixed := by
    rw [printNet]
    cases dst.string with
    | none => simp
    | some text => simp
  rw [adds]
  constructor
  · rintro ⟨added, same, agrees⟩
    cases same
    rcases PrintedRoute.mk.inj agrees with ⟨sameDst, sameGw⟩
    rcases (string_network_iff parsed).mp (printed.mp sameDst) with ⟨network, plain⟩
    exact ⟨network, plain, (string_parseIp_iff _).mp (Text.address.inj sameGw)⟩
  · rintro ⟨network, plain, gateway⟩
    have sameDst := printed.mpr ((string_network_iff parsed).mpr ⟨network, plain⟩)
    have sameGw := (string_parseIp_iff _).mpr gateway
    exact ⟨_, rfl, PrintedRoute.mk.injEq .. ▸ ⟨sameDst, congrArg Text.address sameGw⟩⟩

/-- A list of items is added with the images that are wanted exactly if every item is. -/
theorem mapM_agrees_iff {α β γ ε : Type} {added : α → Except ε β} {print : β → γ} {data : α → γ}
    {items : List α} :
    (∃ all, items.mapM added = .ok all ∧ all.map print = items.map data) ↔
      ∀ item ∈ items, ∃ value, added item = .ok value ∧ print value = data item := by
  induction items with
  | nil => simp [pure, Except.pure]
  | cons item items ih =>
      rw [List.forall_mem_cons, ← ih]
      constructor
      · rintro ⟨all, adds, same⟩
        rw [List.mapM_cons] at adds
        cases head : added item with
        | error failure => simp [head, bind, Except.bind] at adds
        | ok value =>
            cases tail : items.mapM added with
            | error failure => simp [head, tail, bind, Except.bind] at adds
            | ok rest =>
                simp only [head, tail, bind, Except.bind, pure, Except.pure] at adds
                cases adds
                rcases List.cons_eq_cons.mp same with ⟨sameHead, sameTail⟩
                exact ⟨⟨value, rfl, sameHead⟩, rest, rfl, sameTail⟩
      · rintro ⟨⟨value, head, sameHead⟩, rest, tail, sameTail⟩
        refine ⟨value :: rest, ?_, ?_⟩
        · rw [List.mapM_cons, head, tail]
          rfl
        · rw [List.map_cons, List.map_cons, sameHead, sameTail]

/-- The routes of a subnet are printed as they were exactly if Go can hold them all. -/
theorem addedRoutes_agree_iff (routes : List OsVif.Route) :
    (∃ added, (routes.map Route.ofObject).mapM addedRoute = .ok added ∧
      added.map GoRoute.print = routes.map routeData) ↔ ∀ route ∈ routes, route.Portable := by
  rw [List.mapM_map, mapM_agrees_iff]
  simp only [Function.comp_apply, addedRoute_agrees_iff]

/-! ## The address of a subnet -/

section

variable {subnet : OsVif.Subnet} {gateway : IpAddress}

/-- The version that `cmdAdd` gives an address. -/
def goVersion (ip : IpAddress) : String :=
  if (parseIp ip).to4 = none then "6" else "4"

/-- Go writes the version that an address has unless it is mapped. -/
theorem goVersion_eq_iff (ip : IpAddress) :
    goVersion ip = toString ip.version ↔ ¬ip.Mapped := by
  have four : toString 4 = "4" := by decide
  have six : toString 6 = "6" := by decide
  cases ip with
  | v4 value =>
      have known : goVersion (.v4 value) = "4" := by simp [goVersion, parseIp]
      rw [known]
      exact ⟨fun _ => not_false, fun _ => four.symm⟩
  | v6 value =>
      by_cases mapped : IsMapped value
      · have known : goVersion (.v6 value) = "4" := by
          simp [goVersion, to4_parseIp_eq_none_iff, IpAddress.Mapped, mapped]
        have differ : "4" ≠ toString 6 := by
          rw [six]
          decide
        rw [known]
        exact ⟨fun same => absurd same differ, fun plain => absurd mapped plain⟩
      · have known : goVersion (.v6 value) = "6" := by
          simp [goVersion, to4_parseIp_eq_none_iff, IpAddress.version, IpAddress.Mapped, mapped]
        rw [known]
        exact ⟨fun _ => mapped, fun _ => six.symm⟩

/-- What `cmdAdd` does with the address of a subnet, by what becomes of the text it writes. -/
theorem addedIp_ofObject :
    addedIp (.ofObject subnet gateway) (.address subnet.ip) =
      match parseAddress ⟨(parseIp subnet.ip).string, subnet.cidr.prefixlen⟩ with
      | none =>
          .error (.parsingCidr (.network ⟨(parseIp subnet.ip).string, subnet.cidr.prefixlen⟩))
      | some address =>
          .ok
            { version := goVersion subnet.ip
              interface := 0
              address
              gateway := some (parseIp gateway) } := by
  obtain ⟨cidr, parsed, size⟩ := parseCidr_of_fits subnet.cidr.fits
  simp only [addedIp, Subnet.ofObject, netParseIp, netParseCidr, cniParseCidr, parsed, size]
  cases parseAddress ⟨(parseIp subnet.ip).string, subnet.cidr.prefixlen⟩ with
  | none => rfl
  | some address => rfl

/-- The address of a subnet is printed as it was exactly if it and the gateway are not mapped and
the prefix fits. -/
theorem addedIp_agrees_iff :
    (∃ config, addedIp (.ofObject subnet gateway) (.address subnet.ip) = .ok config ∧
      config.print = ipData subnet (some (.address gateway))) ↔
      ¬subnet.ip.Mapped ∧ subnet.cidr.prefixlen ≤ subnet.ip.width ∧ ¬gateway.Mapped := by
  rw [addedIp_ofObject]
  constructor
  · rintro ⟨config, adds, agrees⟩
    cases written : parseAddress ⟨(parseIp subnet.ip).string, subnet.cidr.prefixlen⟩ with
    | none =>
        rw [written] at adds
        cases adds
    | some address =>
        rw [written] at adds
        cases adds
        rcases PrintedIp.mk.inj agrees with ⟨version, _, _, sameGateway⟩
        have plain := (goVersion_eq_iff subnet.ip).mp version
        rw [(string_parseIp_iff _).mpr plain] at written
        have fits : ¬subnet.ip.width < subnet.cidr.prefixlen := fun longer =>
          Option.some_ne_none address (written ▸ parseAddress_eq_none_iff.mpr longer)
        have gatewayPlain := Text.address.inj (Option.some.inj sameGateway)
        exact ⟨plain, Nat.le_of_not_lt fits, (string_parseIp_iff _).mp gatewayPlain⟩
  · rintro ⟨plain, fits, gatewayPlain⟩
    rw [(string_parseIp_iff _).mpr plain]
    cases written : parseAddress ⟨subnet.ip, subnet.cidr.prefixlen⟩ with
    | none => exact absurd (parseAddress_eq_none_iff.mp written) (Nat.not_lt.mpr fits)
    | some address =>
        refine ⟨_, rfl, ?_⟩
        rw [IpConfig.print, ipData, (goVersion_eq_iff _).mpr plain, printNet,
          string_of_parseAddress plain written, Option.map_some,
          (string_parseIp_iff _).mpr gatewayPlain]

end

/-! ## A subnet -/

/-- The numbers of entries of two results. -/
structure SameLengths (first second : Printed) : Prop where
  ips : first.ips.length = second.ips.length
  routes : first.routes.length = second.routes.length
  nameservers : first.nameservers.length = second.nameservers.length

section

variable {subnet : OsVif.Subnet} {gateway : IpAddress} {collected : Collected} {result : Printed}

theorem addSubnetData_of_gateway (unset : PyException) (set : subnet.gateway = some gateway) :
    addSubnetData unset result subnet = .ok (result.add subnet (some (.address gateway))) := by
  rw [addSubnetData, gatewayData, set]
  rfl

theorem addSubnet_ofObject :
    addSubnet collected (.ofObject subnet gateway) =
      (do
        let config ← addedIp (.ofObject subnet gateway) (.address subnet.ip)
        let routes ← (subnet.routes.map Route.ofObject).mapM addedRoute
        return collected.add config routes (subnet.dns.map Text.address)) := by
  rcases subnet with ⟨cidr, dns, given, ips, routes, hasIp⟩
  cases ips with
  | nil => exact absurd rfl hasIp
  | cons ip rest => rfl

/-- The plugin goes on after a subnet exactly with what it adds for it. -/
theorem addSubnet_eq_ok_iff {after : Collected} :
    addSubnet collected (.ofObject subnet gateway) = .ok after ↔
      ∃ config routes,
        addedIp (.ofObject subnet gateway) (.address subnet.ip) = .ok config ∧
          (subnet.routes.map Route.ofObject).mapM addedRoute = .ok routes ∧
            after = collected.add config routes (subnet.dns.map Text.address) := by
  rw [addSubnet_ofObject]
  cases addedIp (.ofObject subnet gateway) (.address subnet.ip) with
  | error failure => simp [bind, Except.bind]
  | ok config =>
      cases (subnet.routes.map Route.ofObject).mapM addedRoute with
      | error failure => simp [bind, Except.bind]
      | ok routes => simp [bind, Except.bind, pure, Except.pure, eq_comm]

/-- What is added for a subnet is printed as the Python plugin prints it exactly if its address
and its routes are, after results of the same lengths. -/
theorem print_add_eq_iff (sized : SameLengths collected.print result) (config : IpConfig)
    (routes : List GoRoute) :
    (collected.add config routes (subnet.dns.map Text.address)).print =
        result.add subnet (some (.address gateway)) ↔
      collected.print = result ∧ config.print = ipData subnet (some (.address gateway)) ∧
        routes.map GoRoute.print = subnet.routes.map routeData := by
  rcases result with ⟨ips, earlierRoutes, nameservers⟩
  rcases sized with ⟨sameIps, sameRoutes, sameServers⟩
  simp only [Collected.print, Collected.add, Printed.add, List.map_append, List.map_cons,
    List.map_nil, Printed.mk.injEq]
  constructor
  · rintro ⟨addedIps, addedRoutes, addedServers⟩
    rcases List.append_inj addedIps sameIps with ⟨ips, ip⟩
    rcases List.append_inj addedRoutes sameRoutes with ⟨earlier, later⟩
    exact ⟨⟨ips, earlier, List.append_cancel_right addedServers⟩, List.singleton_inj.mp ip, later⟩
  · rintro ⟨⟨rfl, rfl, rfl⟩, ip, later⟩
    rw [ip, later]
    exact ⟨rfl, rfl, rfl⟩

/-- A list of routes is added with its length. -/
theorem length_of_mapM_eq_ok {α β ε : Type} {added : α → Except ε β} {items : List α}
    {all : List β} (adds : items.mapM added = .ok all) : all.length = items.length := by
  induction items generalizing all with
  | nil =>
      cases adds
      rfl
  | cons item items ih =>
      rw [List.mapM_cons] at adds
      cases head : added item with
      | error failure => simp [head, bind, Except.bind] at adds
      | ok value =>
          cases tail : items.mapM added with
          | error failure => simp [head, tail, bind, Except.bind] at adds
          | ok rest =>
              simp only [head, tail, bind, Except.bind, pure, Except.pure] at adds
              cases adds
              rw [List.length_cons, List.length_cons, ih tail]

/-- The results stay of the same lengths. -/
theorem sameLengths_add (sized : SameLengths collected.print result) (config : IpConfig)
    {routes : List GoRoute}
    (adds : (subnet.routes.map Route.ofObject).mapM addedRoute = .ok routes) :
    SameLengths (collected.add config routes (subnet.dns.map Text.address)).print
      (result.add subnet (some (.address gateway))) := by
  rcases sized with ⟨ips, earlier, nameservers⟩
  have length : routes.length = subnet.routes.length := by simpa using length_of_mapM_eq_ok adds
  simp only [Collected.print, List.length_map] at ips earlier nameservers
  constructor
  · simp [Collected.print, Collected.add, Printed.add, ips]
  · simp [Collected.print, Collected.add, Printed.add, earlier, length]
  · simp [Collected.print, Collected.add, Printed.add, nameservers]

end

/-- Go can hold a subnet with a gateway exactly if its address and its routes are printed as they
were. -/
theorem portable_iff {subnet : OsVif.Subnet} {gateway : IpAddress}
    (set : subnet.gateway = some gateway) :
    subnet.Portable ↔
      (∃ config, addedIp (.ofObject subnet gateway) (.address subnet.ip) = .ok config ∧
        config.print = ipData subnet (some (.address gateway))) ∧
      ∃ routes, (subnet.routes.map Route.ofObject).mapM addedRoute = .ok routes ∧
        routes.map GoRoute.print = subnet.routes.map routeData := by
  rw [addedIp_agrees_iff, addedRoutes_agree_iff]
  constructor
  · rintro ⟨⟨known, same, gatewayPlain⟩, plain, fits, routes⟩
    rw [set] at same
    cases same
    exact ⟨⟨plain, fits, gatewayPlain⟩, routes⟩
  · rintro ⟨⟨plain, fits, gatewayPlain⟩, routes⟩
    exact ⟨⟨gateway, set, gatewayPlain⟩, plain, fits, routes⟩

/-! ## The loops over the subnets -/

/-- The loops give the same result exactly if they start with the same and Go can hold every
subnet. -/
theorem loops_agree_iff (unset : PyException) {gateway : OsVif.Subnet → IpAddress}
    {subnets : List OsVif.Subnet}
    (set : ∀ subnet ∈ subnets, subnet.gateway = some (gateway subnet)) {collected : Collected}
    {result : Printed} (sized : SameLengths collected.print result) :
    (∃ after,
        (subnets.map fun subnet => .ofObject subnet (gateway subnet)).foldlM addSubnet collected =
            .ok after ∧
          subnets.foldlM (addSubnetData unset) result = .ok after.print) ↔
      collected.print = result ∧ ∀ subnet ∈ subnets, subnet.Portable := by
  induction subnets generalizing collected result with
  | nil =>
      constructor
      · rintro ⟨after, go, python⟩
        cases go
        exact ⟨(Except.ok.inj python).symm, fun _ member => absurd member List.not_mem_nil⟩
      · rintro ⟨same, _⟩
        exact ⟨collected, rfl, congrArg Except.ok same.symm⟩
  | cons subnet subnets ih =>
      have here := set subnet List.mem_cons_self
      have later : ∀ known ∈ subnets, known.gateway = some (gateway known) :=
        fun known member => set known (List.mem_cons_of_mem _ member)
      rw [List.map_cons, List.foldlM_cons, List.foldlM_cons, addSubnetData_of_gateway unset here,
        List.forall_mem_cons]
      constructor
      · rintro ⟨after, go, python⟩
        cases step : addSubnet collected (.ofObject subnet (gateway subnet)) with
        | error failure =>
            rw [step] at go
            cases go
        | ok next =>
            rw [step] at go
            rcases addSubnet_eq_ok_iff.mp step with ⟨config, routes, addsIp, addsRoutes, rfl⟩
            rcases (ih later (sameLengths_add sized config addsRoutes)).mp ⟨after, go, python⟩ with
              ⟨same, rest⟩
            rcases (print_add_eq_iff sized config routes).mp same with ⟨before, ip, printed⟩
            have portable := portable_iff here |>.mpr
              ⟨⟨config, addsIp, ip⟩, routes, addsRoutes, printed⟩
            exact ⟨before, portable, rest⟩
      · rintro ⟨before, portable, rest⟩
        rcases (portable_iff here).mp portable with
          ⟨⟨config, addsIp, ip⟩, routes, addsRoutes, printed⟩
        have step := addSubnet_eq_ok_iff.mpr
          ⟨config, routes, addsIp, addsRoutes, (rfl : collected.add _ _ _ = _)⟩
        have same := (print_add_eq_iff sized config routes).mpr ⟨before, ip, printed⟩
        rcases (ih later (sameLengths_add sized config addsRoutes)).mpr ⟨same, rest⟩ with
          ⟨after, go, python⟩
        rw [step]
        exact ⟨after, go, python⟩

/-! ## Results -/

section

variable {vif : OsVif.Vif} {args : CmdArgs}

/-- Neither the address nor the container is left out. -/
theorem omitEmpty_plain {text : String} (nonempty : text ≠ "") :
    omitEmpty (.plain text) = some (.plain text) := by
  rw [omitEmpty, if_neg]
  intro same
  exact nonempty (Text.plain.inj same)

/-- The Go plugin does not survive a subnet without a gateway. -/
theorem cmdAdd_eq_panic (unset : ∃ subnet ∈ vif.subnets, subnet.gateway = none) :
    cmdAdd args vif.primitive = .error .panic := by
  rw [cmdAdd, Vif.unmarshalJson_primitive, Network.unmarshalJson_eq_panic unset]
  rfl

/-- With the gateways the Go plugin comes to its loop. -/
theorem cmdAdd_primitive {gateway : OsVif.Subnet → IpAddress}
    (set : ∀ subnet ∈ vif.subnets, subnet.gateway = some (gateway subnet)) :
    cmdAdd args vif.primitive =
      (do
        let collected ←
          (vif.subnets.map fun subnet => .ofObject subnet (gateway subnet)).foldlM addSubnet {}
        return { collected.print with interfaces := [interfaceData vif args] }) := by
  rw [cmdAdd, Vif.unmarshalJson_primitive, Network.unmarshalJson_primitive set, interfaceData,
    ← omitEmpty_plain vif.hasAddress, ← omitEmpty_plain args.hasContainer]
  rfl

end

/-- The plugins print the same result for a VIF exactly if Go can hold all of its subnets. -/
theorem cmdAdd_eq_vifData_iff (unset : PyException) (vif : OsVif.Vif) (args : CmdArgs) :
    (∃ result, cmdAdd args vif.primitive = .ok result ∧ vifData unset vif args = .ok result) ↔
      ∀ subnet ∈ vif.subnets, subnet.Portable := by
  by_cases missing : ∃ subnet ∈ vif.subnets, subnet.gateway = none
  · rw [cmdAdd_eq_panic missing]
    constructor
    · rintro ⟨result, panics, _⟩
      cases panics
    · intro portable
      rcases missing with ⟨subnet, member, none⟩
      rcases (portable subnet member).gateway with ⟨gateway, some, _⟩
      rw [none] at some
      cases some
  · have set : ∀ subnet ∈ vif.subnets, subnet.gateway = some (subnet.gateway.getD (.v4 0)) := by
      intro subnet member
      cases given : subnet.gateway with
      | none => exact absurd ⟨subnet, member, given⟩ missing
      | some gateway => rfl
    have sized : SameLengths (Collected.print {}) {} := ⟨rfl, rfl, rfl⟩
    have agree := loops_agree_iff unset set sized
    rw [cmdAdd_primitive set]
    constructor
    · rintro ⟨result, go, python⟩
      rw [vifData] at python
      cases collects : (vif.subnets.map fun subnet =>
          Subnet.ofObject subnet (subnet.gateway.getD (.v4 0))).foldlM addSubnet {} with
      | error failure =>
          rw [collects] at go
          cases go
      | ok after =>
          rw [collects] at go
          cases gives : vif.subnets.foldlM (addSubnetData unset) {} with
          | error exception =>
              rw [gives] at python
              cases python
          | ok data =>
              rw [gives] at python
              cases go
              rcases CniResult.mk.inj (Except.ok.inj python) with ⟨printed, _⟩
              exact (agree.mp ⟨after, collects, printed ▸ gives⟩).2
    · intro portable
      rcases agree.mpr ⟨rfl, portable⟩ with ⟨after, collects, gives⟩
      have python : vifData unset vif args =
          .ok { after.print with interfaces := [interfaceData vif args] } := by
        rw [vifData, gives]
        rfl
      rw [collects]
      exact ⟨_, rfl, python⟩

/-- A VIF in a subnet without a gateway. -/
def isolatedVif : OsVif.Vif where
  address := "fa:16:3e:5f:00:10"
  vifName := "tap0"
  subnets :=
    [{ cidr := ⟨⟨.v4 0x0a000000, 24⟩, by decide⟩
       dns := []
       gateway := none
       ips := [.v4 0x0a000005]
       routes := []
       hasIp := by decide }]
  hasAddress := by decide

/-- The arguments of a call for a container. -/
def containerArgs : CmdArgs where
  ifName := "eth0"
  containerId := "c0"
  hasContainer := by decide

/-- The Go plugin panics for a subnet without a gateway, for which the Python plugin has a
result. -/
theorem isolated_vif_panics :
    cmdAdd containerArgs isolatedVif.primitive = .error .panic ∧
      (vifData .attributeError isolatedVif containerArgs).isOk := by
  constructor
  · rfl
  · decide

end KuryrKubernetes.KuryrCni

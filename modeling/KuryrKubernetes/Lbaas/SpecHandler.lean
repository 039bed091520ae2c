import KuryrKubernetes.Lbaas.Handler

/-!
# Specifications of services

`LBaaSSpecHandler`: the specification that is generated from a service, and the look at
whether the annotated one is still good.
-/

namespace KuryrKubernetes.Lbaas

open KuryrKubernetes.Data
open LoadBalancerHandler (hasPortChanges)

variable {Address : Type}

/-- `targetPort` of a port: a number or the name of a port of the pods. -/
inductive TargetPort where
  | number (port : Nat)
  | name (name : String)
  deriving DecidableEq

/-- `str(port['targetPort'])`. -/
def TargetPort.str : TargetPort → String
  | number port => toString port
  | name text => text

/-- An element of `ports` in the `spec` of a service. -/
structure ServicePort where
  name : Option String := none
  protocol : Option String := none
  port : Nat
  targetPort : TargetPort
  deriving DecidableEq

/-- The `spec` of a service. -/
structure Service where
  selector : Option (Dict String String) := none
  clusterIp : Option String := none
  type : Option ServiceType := none
  ports : Option (List ServicePort) := none
  loadBalancerIp : Option String := none

/-- A subnet of services, by what addresses are in its `cidr`. -/
abbrev Cidr := Option String → Bool

/-- What `LBaaSSpecHandler` works with. -/
structure SpecHandler (Address : Type) where
  format : AddressFormat Address
  project : Service → Except PyException String
  subnets : Service → (projectId : String) → Except PyException (Dict String (List Cidr))
  securityGroups : Service → (projectId : String) → Except PyException (List String)

namespace Service

/-- `_is_supported_type`. -/
def isSupportedType (service : Service) : Bool :=
  service.type = some .clusterIp ∨ service.type = some .loadBalancer

/-- `_get_service_ip`. -/
def serviceIp (service : Service) : Option String :=
  if service.isSupportedType then service.clusterIp else none

/-- `_has_selector`: an empty selector counts as none. -/
def hasSelector (service : Service) : Bool :=
  service.selector.any fun selector => !selector.items.isEmpty

/-- `_has_clusterip`. -/
def hasClusterIp (service : Service) : Bool :=
  service.clusterIp ≠ some "None"

/-- `_should_ignore`. -/
def shouldIgnore (service : Service) : Bool :=
  !service.hasSelector || !service.hasClusterIp || !service.isSupportedType

/-- `get_service_ports`. -/
def servicePorts (service : Service) : Except PyException (List PortSpec) :=
  match service.ports with
  | none => .error .keyError
  | some ports => .ok <| ports.map fun port =>
      { name := port.name
        protocol := port.protocol.getD "TCP"
        port := port.port
        targetPort := port.targetPort.str }

end Service

/-- `str(lbaas_spec.ip)`. -/
def AddressFormat.strIp (format : AddressFormat Address) (ip : Option Address) : String :=
  match ip with
  | some address => format.str address
  | none => "None"

namespace SpecHandler

variable (handler : SpecHandler Address)

/-- The part of a specification that comes from the service itself. -/
def derivedSpec (service : Service) : Except PyException (ServiceSpec Address) := do
  let ports ← service.servicePorts
  return {
    ip := service.serviceIp.map handler.format.read
    ports
    type := service.type
    lbIp := service.loadBalancerIp.map handler.format.read }

/-- `_get_subnet_id`. -/
def subnetId (service : Service) (projectId : String) (ip : Option String) :
    Except PyException String := do
  let subnetsMapping ← handler.subnets service projectId
  match subnetsMapping.items.filter fun item => item.2.any fun cidr => cidr ip with
  | [item] => return item.1
  | _ => throw (.other "IntegrityError")

/-- `_generate_lbaas_spec`. -/
def generateLbaasSpec (service : Service) : Except PyException (ServiceSpec Address) := do
  let projectId ← handler.project service
  let subnetId ← handler.subnetId service projectId service.serviceIp
  let derived ← handler.derivedSpec service
  let sgIds ← handler.securityGroups service projectId
  return { derived with projectId, subnetId, securityGroupsIds := sgIds }

/-- `_has_ip_changes`. -/
def hasIpChanges (service : Service) (lbaasSpec : Option (ServiceSpec Address)) : Bool :=
  match lbaasSpec with
  | none => service.serviceIp.any (· ≠ "")
  | some spec => some (handler.format.strIp spec.ip) ≠ service.serviceIp

/-- `_has_lbaas_spec_changes`.  Without a specification there are no ports to compare. -/
def hasLbaasSpecChanges (service : Service) (lbaasSpec : Option (ServiceSpec Address)) :
    Except PyException Bool :=
  if handler.hasIpChanges service lbaasSpec then
    .ok true
  else
    match service.servicePorts, lbaasSpec with
    | .error exception, _ => .error exception
    | .ok _, none => .error .attributeError
    | .ok ports, some spec => .ok (hasPortChanges ports spec)

/-- `on_present`: the specification that is stored, if there is one. -/
def onPresent (service : Service) (lbaasSpec : Option (ServiceSpec Address)) :
    Except PyException (Option (ServiceSpec Address)) :=
  if service.shouldIgnore then
    .ok none
  else do
    if ← handler.hasLbaasSpecChanges service lbaasSpec then
      let lbaasSpec ← handler.generateLbaasSpec service
      return some lbaasSpec
    else
      return none

end SpecHandler

/-! ## Specifications that are still good -/

/-- The specifications say the same of the service itself. -/
structure ServiceSpec.AgreesWith (spec other : ServiceSpec Address) : Prop where
  ip : spec.ip = other.ip
  ports : spec.ports = other.ports
  type : spec.type = other.type
  lbIp : spec.lbIp = other.lbIp

/-- The look at an annotated specification can be relied on: it does not fail, what it lets
pass is what would be generated, and it lets pass what was generated. -/
structure SpecHandler.Reliable (handler : SpecHandler Address) (service : Service)
    (lbaasSpec : Option (ServiceSpec Address)) : Prop where
  agrees : ∀ spec derived, lbaasSpec = some spec →
    handler.hasLbaasSpecChanges service (some spec) = .ok false →
    handler.derivedSpec service = .ok derived → spec.AgreesWith derived
  stable : ∀ spec derived, handler.derivedSpec service = .ok derived → spec.AgreesWith derived →
    handler.hasLbaasSpecChanges service (some spec) = .ok false
  total : ∀ annotated, ∃ changed, handler.hasLbaasSpecChanges service annotated = .ok changed
  derivable : ∃ derived, handler.derivedSpec service = .ok derived

/-- The ports are the same but for their order and for repetitions. -/
def SamePorts (ports others : List PortSpec) : Prop :=
  ∀ port, port ∈ ports ↔ port ∈ others

/-- The service has ports and an address in its usual form; and where address and ports of
the specification are those of the service, so are the rest and the order of the ports. -/
structure SpecHandler.Unedited (handler : SpecHandler Address) (service : Service)
    (lbaasSpec : Option (ServiceSpec Address)) : Prop where
  address : ∃ text, service.clusterIp = some text ∧ text ≠ "" ∧
    handler.format.str (handler.format.read text) = text
  ports : service.ports ≠ none
  rest : ∀ spec ports, lbaasSpec = some spec → service.servicePorts = .ok ports →
    service.clusterIp = some (handler.format.strIp spec.ip) → SamePorts ports spec.ports →
    spec.ports = ports ∧ spec.type = service.type ∧
      spec.lbIp = service.loadBalancerIp.map handler.format.read

section

variable {handler : SpecHandler Address} {service : Service}

/-- What is generated has what comes from the service itself. -/
theorem generateLbaasSpec_agrees {generated : ServiceSpec Address}
    (generates : handler.generateLbaasSpec service = .ok generated) :
    ∃ derived, handler.derivedSpec service = .ok derived ∧ generated.AgreesWith derived := by
  unfold SpecHandler.generateLbaasSpec at generates
  cases project : handler.project service with
  | error exception =>
      rw [project] at generates
      cases generates
  | ok projectId =>
      rw [project] at generates
      cases subnet : handler.subnetId service projectId service.serviceIp with
      | error exception =>
          simp [subnet, bind, Except.bind] at generates
      | ok subnetId =>
          cases derived : handler.derivedSpec service with
          | error exception =>
              simp [subnet, derived, bind, Except.bind] at generates
          | ok spec =>
              cases groups : handler.securityGroups service projectId with
              | error exception =>
                  simp [subnet, derived, groups, bind, Except.bind] at generates
              | ok sgIds =>
                  simp only [subnet, derived, groups, bind, Except.bind] at generates
                  cases generates
                  exact ⟨spec, rfl, rfl, rfl, rfl, rfl⟩

theorem hasPortChanges_eq_false_iff (ports : List PortSpec) (spec : ServiceSpec Address) :
    hasPortChanges ports spec = false ↔ SamePorts ports spec.ports := by
  unfold hasPortChanges SamePorts
  rw [Bool.not_eq_false', Bool.and_eq_true, List.all_eq_true, List.all_eq_true]
  constructor
  · rintro ⟨left, right⟩ port
    constructor
    · intro listed
      simpa using left port listed
    · intro listed
      simpa using right port listed
  · intro same
    constructor
    · intro port listed
      simpa using (same port).mp listed
    · intro port listed
      simpa using (same port).mpr listed

theorem serviceIp_eq (supported : service.shouldIgnore = false) :
    service.serviceIp = service.clusterIp ∧ service.clusterIp ≠ some "None" := by
  unfold Service.shouldIgnore at supported
  simp only [Bool.or_eq_false_iff, Bool.not_eq_false'] at supported
  constructor
  · unfold Service.serviceIp
    rw [if_pos supported.2]
  · exact of_decide_eq_true supported.1.2

theorem servicePorts_cases (service : Service) :
    (service.ports = none ∧ service.servicePorts = .error .keyError) ∨
      service.ports ≠ none ∧ ∃ ports, service.servicePorts = .ok ports := by
  unfold Service.servicePorts
  cases service.ports with
  | none => exact .inl ⟨rfl, rfl⟩
  | some ports => exact .inr ⟨by rintro ⟨⟩, _, rfl⟩

theorem derivedSpec_eq_ok_iff (derived : ServiceSpec Address) :
    handler.derivedSpec service = .ok derived ↔
      ∃ ports, service.servicePorts = .ok ports ∧ derived = {
        ip := service.serviceIp.map handler.format.read
        ports
        type := service.type
        lbIp := service.loadBalancerIp.map handler.format.read } := by
  unfold SpecHandler.derivedSpec
  cases service.servicePorts with
  | error exception =>
      constructor
      · rintro ⟨⟩
      · rintro ⟨ports, ⟨⟩, _⟩
  | ok ports =>
      constructor
      · rintro ⟨⟩
        exact ⟨ports, rfl, rfl⟩
      · rintro ⟨_, ⟨⟩, rfl⟩
        rfl

/-- A specification passes if it has the address of the service and its ports. -/
theorem hasLbaasSpecChanges_eq_false_iff (supported : service.shouldIgnore = false)
    (spec : ServiceSpec Address) :
    handler.hasLbaasSpecChanges service (some spec) = .ok false ↔
      service.clusterIp = some (handler.format.strIp spec.ip) ∧
        ∃ ports, service.servicePorts = .ok ports ∧ SamePorts ports spec.ports := by
  unfold SpecHandler.hasLbaasSpecChanges SpecHandler.hasIpChanges
  dsimp only
  rw [(serviceIp_eq supported).1]
  split
  · rename_i differs
    constructor
    · rintro ⟨⟩
    · rintro ⟨same, _⟩
      exact absurd same.symm (of_decide_eq_true differs)
  · rename_i same
    have equal : service.clusterIp = some (handler.format.strIp spec.ip) := by
      by_contra differs
      exact same (decide_eq_true (Ne.symm differs))
    cases service.servicePorts with
    | error exception =>
        constructor
        · rintro ⟨⟩
        · rintro ⟨_, _, ⟨⟩, _⟩
    | ok ports =>
        dsimp only
        rw [Except.ok.injEq, hasPortChanges_eq_false_iff]
        constructor
        · exact fun samePorts => ⟨equal, ports, rfl, samePorts⟩
        · rintro ⟨_, _, ⟨⟩, samePorts⟩
          exact samePorts

theorem unedited_of_reliable (supported : service.shouldIgnore = false)
    {lbaasSpec : Option (ServiceSpec Address)}
    (reliable : handler.Reliable service lbaasSpec) : handler.Unedited service lbaasSpec := by
  rcases reliable.derivable with ⟨derived, derives⟩
  rcases (derivedSpec_eq_ok_iff derived).mp derives with ⟨ports, given, isDerived⟩
  constructor
  · rcases reliable.total none with ⟨changed, looked⟩
    have addressed : service.serviceIp.any (· ≠ "") = true := by
      by_contra missing
      unfold SpecHandler.hasLbaasSpecChanges SpecHandler.hasIpChanges at looked
      rw [if_neg missing, given] at looked
      cases looked
    rw [(serviceIp_eq supported).1] at addressed
    rcases Option.any_eq_true_iff_get _ _ |>.mp addressed with ⟨isSome, nonempty⟩
    rcases Option.isSome_iff_exists.mp isSome with ⟨text, isText⟩
    refine ⟨text, isText, ?_, ?_⟩
    · have chars := of_decide_eq_true nonempty
      simpa [isText] using chars
    · have passes := reliable.stable derived derived derives ⟨rfl, rfl, rfl, rfl⟩
      rcases (hasLbaasSpecChanges_eq_false_iff supported derived).mp passes with ⟨same, _⟩
      rw [isDerived] at same
      dsimp only at same
      rw [(serviceIp_eq supported).1, isText] at same
      exact (Option.some.inj same).symm
  · rcases servicePorts_cases service with ⟨_, failed⟩ | ⟨there, _⟩
    · rw [given] at failed
      cases failed
    · exact there
  · intro spec known isSpec isKnown sameIp samePorts
    have passes := (hasLbaasSpecChanges_eq_false_iff supported spec).mpr
      ⟨sameIp, known, isKnown, samePorts⟩
    rw [given] at isKnown
    cases isKnown
    have agrees := reliable.agrees spec derived isSpec passes derives
    rw [isDerived] at agrees
    exact ⟨agrees.ports, agrees.type, agrees.lbIp⟩

theorem reliable_of_unedited (supported : service.shouldIgnore = false)
    {lbaasSpec : Option (ServiceSpec Address)}
    (unedited : handler.Unedited service lbaasSpec) : handler.Reliable service lbaasSpec := by
  rcases unedited.address with ⟨text, isText, nonempty, usual⟩
  rcases servicePorts_cases service with ⟨missing, _⟩ | ⟨_, ports, given⟩
  · exact absurd missing unedited.ports
  constructor
  · intro spec derived isSpec passes derives
    rcases (derivedSpec_eq_ok_iff derived).mp derives with ⟨_, givenToo, rfl⟩
    rcases (hasLbaasSpecChanges_eq_false_iff supported spec).mp passes with
      ⟨sameIp, known, isKnown, samePorts⟩
    rcases unedited.rest spec known isSpec isKnown sameIp samePorts with
      ⟨order, sameType, sameLbIp⟩
    rw [isKnown] at givenToo
    cases givenToo
    constructor
    · change spec.ip = service.serviceIp.map handler.format.read
      rw [(serviceIp_eq supported).1, sameIp, Option.map_some]
      cases given : spec.ip with
      | none =>
          rw [given] at sameIp
          exact absurd sameIp (serviceIp_eq supported).2
      | some address => exact congrArg some (handler.format.read_str address).symm
    · exact order
    · exact sameType
    · exact sameLbIp
  · intro spec derived derives agrees
    rcases (derivedSpec_eq_ok_iff derived).mp derives with ⟨known, isKnown, rfl⟩
    apply (hasLbaasSpecChanges_eq_false_iff supported spec).mpr
    constructor
    · rw [agrees.ip, (serviceIp_eq supported).1, isText]
      exact congrArg some usual.symm
    · refine ⟨known, isKnown, ?_⟩
      rw [agrees.ports]
      exact fun port => Iff.rfl
  · intro annotated
    unfold SpecHandler.hasLbaasSpecChanges
    split
    · exact ⟨true, rfl⟩
    · rename_i same
      rw [given]
      cases annotated with
      | none =>
          exfalso
          apply same
          unfold SpecHandler.hasIpChanges
          rw [(serviceIp_eq supported).1, isText]
          exact decide_eq_true nonempty
      | some spec => exact ⟨_, rfl⟩
  · exact ⟨_, (derivedSpec_eq_ok_iff _).mpr ⟨ports, given, rfl⟩⟩

end

namespace WebService

/-- Addresses are their texts, and there is one subnet for services. -/
def handler : SpecHandler String where
  format := .text
  project _ := .ok "kuryr"
  subnets _ _ := .ok (.ofList [("services", [fun _ => true])])
  securityGroups _ _ := .ok []

/-- A service of some type with one port. -/
def service (type : ServiceType) : Service where
  selector := some (.ofList [("app", "web")])
  clusterIp := some "10.0.0.10"
  type := some type
  ports := some [{ port := 80, targetPort := .number 8080 }]

/-- What is generated from it. -/
def spec (type : ServiceType) : ServiceSpec String where
  ip := some "10.0.0.10"
  ports := [{ protocol := "TCP", port := 80, targetPort := toString 8080 }]
  projectId := "kuryr"
  subnetId := "services"
  type := some type

end WebService

end KuryrKubernetes.Lbaas

import KuryrKubernetes.Data.Dict
import KuryrKubernetes.Objects

/-!
# Requests for SR-IOV VIFs

`SriovVIFDriver`: a VIF for a virtual function that the containers of a pod request.  How many
of them are left is counted from the requests in the pod object, and a VIF that is given lowers
them there.
-/

namespace KuryrKubernetes.Sriov

open KuryrKubernetes.Data

/-! ## The driver -/

/-- `USERSPACE_DRIVERS`. -/
def userspaceDrivers : List String :=
  ["vfio-pci", "uio", "uio_pci_generic", "igb_uio"]

/-- An amount in the requests of a container: the text of a number, or another quantity.  The
API server accepts no negative amount. -/
inductive Quantity where
  | whole (amount : Nat)
  | other (text : String)
  deriving DecidableEq

/-- `ValueError`. -/
def valueError : PyException :=
  .other "ValueError"

/-- `StopIteration`. -/
def stopIteration : PyException :=
  .other "StopIteration"

/-- `int`. -/
def Quantity.toInt : Quantity → Except PyException Nat
  | whole amount => .ok amount
  | other _ => .error valueError

/-- A container with `resources.requests`, where there are any. -/
structure Container where
  requests : Option (Dict String Quantity)

/-- What is requested of a resource. -/
def Container.request? (container : Container) (resource : String) : Option Quantity :=
  container.requests.bind (·.get? resource)

/-- The container with another amount. -/
def Container.setRequest (container : Container) (resource : String) (amount : Nat) :
    Container where
  requests := container.requests.map (·.set resource (.whole amount))

/-- A pod object, which the driver changes. -/
structure Pod where
  name : String
  selfLink : String
  containers : List Container

/-- The driver, with what is configured. -/
structure Driver where
  physnetSubnetMapping : Dict String String
  physnetResnameMapping : Dict String String
  resPrefix : String
  resourceDriverMappings : Dict String String

/-- A VIF for a virtual function. -/
structure SriovVif where
  id : String
  physnet : String
  podName : String
  podLink : String
  deriving DecidableEq

/-- `sriov_make_resource`. -/
def sriovMakeResource (resPrefix resName : String) : String :=
  resPrefix ++ "/" ++ resName

/-- The loop of `_get_remaining_sriov_vfs`. -/
def totalAmount (resource : String) : List Container → Except PyException Nat
  | [] => .ok 0
  | container :: rest =>
      match container.request? resource with
      | none => totalAmount resource rest
      | some amountValue => do
          let amount ← amountValue.toInt
          let more ← totalAmount resource rest
          return amount + more

/-- The loop of `_reduce_remaining_sriov_vfs`. -/
def reduceContainers (resource : String) (userspace : Bool) :
    List Container → Except PyException Unit × List Container
  | [] => (.ok (), [])
  | container :: rest =>
      let continued := reduceContainers resource userspace rest
      match container.request? resource with
      | none => (continued.1, container :: continued.2)
      | some (.other _) => (.error valueError, container :: rest)
      | some (.whole 0) => (continued.1, container :: continued.2)
      | some (.whole (amount + 1)) =>
          let reduced := container.setRequest resource amount
          if userspace then
            (.ok (), reduced :: rest)
          else
            (continued.1, reduced :: continued.2)

namespace Driver

variable (driver : Driver)

/-- `_get_remaining_sriov_vfs`. -/
def getRemainingSriovVfs (pod : Pod) (physnet : String) : Except PyException Nat :=
  match driver.physnetResnameMapping.get? physnet with
  | none => .ok 0
  | some resName =>
      if resName = "" then
        .ok 0
      else
        totalAmount (sriovMakeResource driver.resPrefix resName) pod.containers

/-- `_reduce_remaining_sriov_vfs`. -/
def reduceRemainingSriovVfs (pod : Pod) (physnet : String) : Except PyException Unit × Pod :=
  match driver.physnetResnameMapping.get? physnet with
  | none => (.error .keyError, pod)
  | some resName =>
      match driver.resourceDriverMappings.get? resName with
      | none => (.error .keyError, pod)
      | some driverName =>
          if resName = "" then
            (.ok (), pod)
          else
            let reduced := reduceContainers (sriovMakeResource driver.resPrefix resName)
              (userspaceDrivers.contains driverName) pod.containers
            (reduced.1, { pod with containers := reduced.2 })

/-- `_get_physnet_for_subnet_id`, for the first subnet. -/
def getPhysnet (subnets : List String) : Except PyException String :=
  match subnets with
  | [] => .error stopIteration
  | subnetId :: _ =>
      match driver.physnetSubnetMapping.get? subnetId with
      | none => .error .keyError
      | some physnet => .ok physnet

/-- `request_vif`: the answer, and the pod object after it.  `port` is what the request of a port
comes to. -/
def requestVif (pod : Pod) (subnets : List String) (port : Except PyException String) :
    Except PyException (Option SriovVif) × Pod :=
  match driver.getPhysnet subnets with
  | .error exception => (.error exception, pod)
  | .ok physnet =>
      match driver.getRemainingSriovVfs pod physnet with
      | .error exception => (.error exception, pod)
      | .ok 0 => (.ok none, pod)
      | .ok (_ + 1) =>
          match port with
          | .error exception => (.error exception, pod)
          | .ok portId =>
              let reduced := driver.reduceRemainingSriovVfs pod physnet
              (reduced.1.map fun _ => some ⟨portId, physnet, pod.name, pod.selfLink⟩, reduced.2)

end Driver

/-! ## Amounts -/

/-- A container requests some of a resource. -/
def Container.requestsSome (resource : String) (container : Container) : Bool :=
  match container.request? resource with
  | some (.whole (_ + 1)) => true
  | _ => false

/-- How many containers request some of a resource. -/
def requesting (resource : String) (containers : List Container) : Nat :=
  containers.countP (Container.requestsSome resource)

/-- By how much the requests are lowered: every container that requests some loses one, but with
a driver in user space only the first one. -/
def lowered (userspace : Bool) (requesting : Nat) : Nat :=
  if userspace then min 1 requesting else requesting

theorem lowered_le (userspace : Bool) (requesting : Nat) :
    lowered userspace requesting ≤ requesting := by
  unfold lowered
  split
  · exact min_le_right _ _
  · exact le_rfl

section

variable {resource other : String}

theorem request?_setRequest {container : Container} {quantity : Quantity}
    (requested : container.request? resource = some quantity) (amount : Nat) :
    (container.setRequest resource amount).request? other =
      if other = resource then some (.whole amount) else container.request? other := by
  unfold Container.request? Container.setRequest at *
  cases requests : container.requests with
  | none =>
      rw [requests] at requested
      cases requested
  | some dict =>
      change (dict.set resource (.whole amount)).get? other = _
      rw [Dict.get?_set]
      rfl

theorem requesting_cons (resource : String) (container : Container) (rest : List Container) :
    requesting resource (container :: rest) =
      requesting resource rest + if container.requestsSome resource then 1 else 0 :=
  List.countP_cons

/-- The total is that of the containers one by one. -/
theorem totalAmount_cons_eq_ok_iff {container : Container} {rest : List Container} {total : Nat} :
    totalAmount resource (container :: rest) = .ok total ↔
      ∃ amount more, totalAmount resource rest = .ok more ∧ total = amount + more ∧
        ((container.request? resource = none ∧ amount = 0) ∨
          container.request? resource = some (.whole amount)) := by
  rw [totalAmount]
  cases requested : container.request? resource with
  | none =>
      constructor
      · intro counted
        exact ⟨0, total, counted, (Nat.zero_add _).symm, .inl ⟨rfl, rfl⟩⟩
      · rintro ⟨amount, more, counted, rfl, ⟨_, rfl⟩ | ⟨⟨⟩⟩⟩
        rw [Nat.zero_add]
        exact counted
  | some quantity =>
      cases quantity with
      | other text =>
          constructor
          · rintro ⟨⟩
          · rintro ⟨amount, more, _, _, ⟨⟨⟩, _⟩ | ⟨⟨⟩⟩⟩
      | whole amount =>
          cases counted : totalAmount resource rest with
          | error exception =>
              constructor
              · rintro ⟨⟩
              · rintro ⟨_, _, ⟨⟩, _⟩
          | ok more =>
              constructor
              · rintro ⟨⟩
                exact ⟨amount, more, rfl, rfl, .inr rfl⟩
              · rintro ⟨_, _, ⟨⟩, rfl, ⟨⟨⟩, _⟩ | ⟨⟨⟩⟩⟩
                rfl

/-- A container that does not change any request of another resource does not change its total. -/
theorem totalAmount_cons_congr {first second : Container} {rest others : List Container}
    (requests : first.request? resource = second.request? resource)
    (totals : totalAmount resource rest = totalAmount resource others) :
    totalAmount resource (first :: rest) = totalAmount resource (second :: others) := by
  rw [totalAmount, totalAmount, requests, totals]

/-- The requests of the other resources stay as they are. -/
theorem totalAmount_reduceContainers_of_ne (userspace : Bool) (containers : List Container)
    (apart : other ≠ resource) :
    totalAmount other (reduceContainers resource userspace containers).2 =
      totalAmount other containers := by
  induction containers with
  | nil => rfl
  | cons container rest ih =>
      rw [reduceContainers]
      cases requested : container.request? resource with
      | none => exact totalAmount_cons_congr rfl ih
      | some quantity =>
          have same (amount : Nat) :
              (container.setRequest resource amount).request? other =
                container.request? other := by
            rw [request?_setRequest requested, if_neg apart]
          cases quantity with
          | other text => rfl
          | whole amount =>
              cases amount with
              | zero => exact totalAmount_cons_congr rfl ih
              | succ amount =>
                  cases userspace with
                  | true => exact totalAmount_cons_congr (same amount) rfl
                  | false => exact totalAmount_cons_congr (same amount) ih

/-- A total is positive where a container requests some. -/
theorem requesting_le {containers : List Container} {total : Nat}
    (counted : totalAmount resource containers = .ok total) :
    requesting resource containers ≤ total ∧
      (requesting resource containers = 0 → total = 0) := by
  induction containers generalizing total with
  | nil =>
      cases counted
      exact ⟨le_rfl, fun _ => rfl⟩
  | cons container rest ih =>
      obtain ⟨amount, more, countedRest, rfl, requested⟩ := totalAmount_cons_eq_ok_iff.mp counted
      obtain ⟨atMost, none_⟩ := ih countedRest
      rw [requesting_cons]
      unfold Container.requestsSome
      rcases requested with ⟨absent, rfl⟩ | some_
      · rw [absent]
        simpa using ⟨atMost, none_⟩
      · rw [some_]
        cases amount with
        | zero => simpa using ⟨atMost, none_⟩
        | succ amount =>
            dsimp only
            rw [if_pos rfl]
            constructor
            · omega
            · omega

/-- The loop lowers the total by one for each container that requests some, or by one. -/
theorem totalAmount_reduceContainers (userspace : Bool) {containers : List Container}
    {total : Nat} (counted : totalAmount resource containers = .ok total) :
    (reduceContainers resource userspace containers).1 = .ok () ∧
      totalAmount resource (reduceContainers resource userspace containers).2 =
        .ok (total - lowered userspace (requesting resource containers)) := by
  induction containers generalizing total with
  | nil =>
      cases counted
      rw [Nat.zero_sub]
      exact ⟨rfl, rfl⟩
  | cons container rest ih =>
      obtain ⟨amount, more, countedRest, rfl, requested⟩ := totalAmount_cons_eq_ok_iff.mp counted
      obtain ⟨returns, lowers⟩ := ih countedRest
      obtain ⟨atMost, _⟩ := requesting_le countedRest
      have least : lowered userspace (requesting resource rest) ≤ more :=
        (lowered_le _ _).trans atMost
      rw [requesting_cons, reduceContainers]
      unfold Container.requestsSome
      rcases requested with ⟨absent, rfl⟩ | some_
      · rw [absent]
        refine ⟨returns, totalAmount_cons_eq_ok_iff.mpr ⟨0, _, lowers, ?_, .inl ⟨absent, rfl⟩⟩⟩
        rw [Nat.zero_add, Nat.zero_add]
        rfl
      · rw [some_]
        cases amount with
        | zero =>
            refine ⟨returns, totalAmount_cons_eq_ok_iff.mpr ⟨0, _, lowers, ?_, .inr some_⟩⟩
            rw [Nat.zero_add, Nat.zero_add]
            rfl
        | succ amount =>
            have set_ : (container.setRequest resource amount).request? resource =
                some (.whole amount) := by
              rw [request?_setRequest some_, if_pos rfl]
            cases userspace with
            | true =>
                refine ⟨rfl, totalAmount_cons_eq_ok_iff.mpr
                  ⟨amount, more, countedRest, ?_, .inr set_⟩⟩
                unfold lowered
                rw [if_pos rfl, if_pos rfl]
                omega
            | false =>
                refine ⟨returns, totalAmount_cons_eq_ok_iff.mpr
                  ⟨amount, _, lowers, ?_, .inr set_⟩⟩
                unfold lowered at least ⊢
                rw [if_neg Bool.false_ne_true] at least ⊢
                rw [if_neg Bool.false_ne_true, if_pos rfl]
                omega

end

/-! ## Single requests -/

/-- The resource of a physnet. -/
def Driver.resource? (driver : Driver) (physnet : String) : Option String :=
  ((driver.physnetResnameMapping.get? physnet).filter (· ≠ "")).map
    (sriovMakeResource driver.resPrefix)

/-- The devices of a physnet get a driver in user space. -/
def Driver.isUserspace (driver : Driver) (physnet : String) : Bool :=
  (driver.physnetResnameMapping.get? physnet).any fun resName =>
    (driver.resourceDriverMappings.get? resName).any fun driverName =>
      userspaceDrivers.contains driverName

/-- The count of the physnet is lowered by one, and the others are not. -/
def Lowers (driver : Driver) (before : Pod) (physnet : String) (after : Pod) : Prop :=
  (∃ left, driver.getRemainingSriovVfs before physnet = .ok (left + 1) ∧
    driver.getRemainingSriovVfs after physnet = .ok left) ∧
  ∀ other, other ≠ physnet →
    driver.getRemainingSriovVfs after other = driver.getRemainingSriovVfs before other

/-- The driver is in user space or only one container requests some of the resource, and no
other physnet has the same resource. -/
def Single (driver : Driver) (pod : Pod) (physnet : String) : Prop :=
  (driver.isUserspace physnet ∨ ∀ resource, driver.resource? physnet = some resource →
    requesting resource pod.containers ≤ 1) ∧
  ∀ other, other ≠ physnet → driver.resource? other ≠ driver.resource? physnet

section

variable {driver : Driver} {pod : Pod} {physnet : String}

theorem getRemainingSriovVfs_of_none (unmapped : driver.resource? physnet = none) :
    driver.getRemainingSriovVfs pod physnet = .ok 0 := by
  unfold Driver.resource? at unmapped
  unfold Driver.getRemainingSriovVfs
  split
  · rfl
  · rename_i resName mapped
    rw [mapped] at unmapped
    split
    · rfl
    · rename_i named
      simp [Option.filter, named] at unmapped

theorem getRemainingSriovVfs_of_some {resource : String}
    (mapped : driver.resource? physnet = some resource) :
    driver.getRemainingSriovVfs pod physnet = totalAmount resource pod.containers := by
  unfold Driver.resource? at mapped
  obtain ⟨resName, kept, rfl⟩ := Option.map_eq_some_iff.mp mapped
  obtain ⟨found, named⟩ := Option.filter_eq_some_iff.mp kept
  unfold Driver.getRemainingSriovVfs
  rw [found]
  exact if_neg (of_decide_eq_true named)

/-- What a request that gives a VIF has found, and what it leaves. -/
structure Given (driver : Driver) (pod : Pod) (subnets : List String) (vif : SriovVif)
    (after : Pod) : Prop where
  physnet : driver.getPhysnet subnets = .ok vif.physnet
  reduced : ∃ resource total, driver.resource? vif.physnet = some resource ∧
    totalAmount resource pod.containers = .ok (total + 1) ∧
    after = { pod with containers :=
      (reduceContainers resource (driver.isUserspace vif.physnet) pod.containers).2 }

/-- A request gives a VIF, or it leaves the pod object as it is; it gives none only where
nothing is left. -/
theorem requestVif_cases (driver : Driver) (pod : Pod) (subnets : List String)
    (port : Except PyException String) :
    (∃ vif, (driver.requestVif pod subnets port).1 = .ok (some vif) ∧
      Given driver pod subnets vif (driver.requestVif pod subnets port).2) ∨
    (driver.requestVif pod subnets port).2 = pod ∧
      ((∃ exception, (driver.requestVif pod subnets port).1 = .error exception) ∨
        (driver.requestVif pod subnets port).1 = .ok none ∧
          ∃ physnet, driver.getPhysnet subnets = .ok physnet ∧
            driver.getRemainingSriovVfs pod physnet = .ok 0) := by
  unfold Driver.requestVif
  cases isPhysnet : driver.getPhysnet subnets with
  | error exception => exact .inr ⟨rfl, .inl ⟨exception, rfl⟩⟩
  | ok physnet =>
      dsimp only
      cases remaining : driver.getRemainingSriovVfs pod physnet with
      | error exception => exact .inr ⟨rfl, .inl ⟨exception, rfl⟩⟩
      | ok amount =>
          cases amount with
          | zero => exact .inr ⟨rfl, .inr ⟨rfl, physnet, rfl, remaining⟩⟩
          | succ total =>
              cases port with
              | error exception => exact .inr ⟨rfl, .inl ⟨exception, rfl⟩⟩
              | ok portId =>
                  dsimp only
                  cases mapped : driver.physnetResnameMapping.get? physnet with
                  | none =>
                      unfold Driver.getRemainingSriovVfs at remaining
                      rw [mapped] at remaining
                      cases remaining
                  | some resName =>
                      by_cases unnamed : resName = ""
                      · unfold Driver.getRemainingSriovVfs at remaining
                        rw [mapped] at remaining
                        dsimp only at remaining
                        rw [if_pos unnamed] at remaining
                        cases remaining
                      have isResource : driver.resource? physnet =
                          some (sriovMakeResource driver.resPrefix resName) := by
                        unfold Driver.resource?
                        rw [mapped]
                        simp [Option.filter, unnamed]
                      rw [getRemainingSriovVfs_of_some isResource] at remaining
                      unfold Driver.reduceRemainingSriovVfs
                      rw [mapped]
                      dsimp only
                      cases hasDriver : driver.resourceDriverMappings.get? resName with
                      | none => exact .inr ⟨rfl, .inl ⟨.keyError, rfl⟩⟩
                      | some driverName =>
                          have space : driver.isUserspace physnet =
                              userspaceDrivers.contains driverName := by
                            unfold Driver.isUserspace
                            rw [mapped, Option.any_some, hasDriver, Option.any_some]
                          obtain ⟨returns, _⟩ := totalAmount_reduceContainers
                            (driver.isUserspace physnet) remaining
                          left
                          dsimp only
                          rw [if_neg unnamed, ← space, returns]
                          exact ⟨_, rfl, isPhysnet, _, total, isResource, remaining, rfl⟩

/-- A request that gives a VIF lowers the count as it should if and only if the requests are in
one container, or the driver is in user space, and the resource is that of one physnet. -/
theorem lowers_iff {subnets : List String} {vif : SriovVif} {after : Pod}
    (given : Given driver pod subnets vif after) :
    Lowers driver pod vif.physnet after ↔ Single driver pod vif.physnet := by
  obtain ⟨resource, total, isResource, counted, rfl⟩ := given.reduced
  obtain ⟨_, lowers⟩ := totalAmount_reduceContainers (driver.isUserspace vif.physnet) counted
  obtain ⟨atMost, none_⟩ := requesting_le counted
  have some_ : requesting resource pod.containers ≠ 0 := fun none => absurd (none_ none) (by omega)
  have own : (∃ left, driver.getRemainingSriovVfs pod vif.physnet = .ok (left + 1) ∧
      driver.getRemainingSriovVfs { pod with containers :=
        (reduceContainers resource (driver.isUserspace vif.physnet) pod.containers).2 }
        vif.physnet = .ok left) ↔
      lowered (driver.isUserspace vif.physnet) (requesting resource pod.containers) = 1 := by
    rw [getRemainingSriovVfs_of_some isResource, getRemainingSriovVfs_of_some isResource,
      counted]
    dsimp only
    rw [lowers]
    constructor
    · rintro ⟨left, same, lower⟩
      have before : total + 1 = left + 1 := Except.ok.inj same
      have equal : total + 1 -
          lowered (driver.isUserspace vif.physnet) (requesting resource pod.containers) = left :=
        Except.ok.inj lower
      have least :=
        lowered_le (driver.isUserspace vif.physnet) (requesting resource pod.containers)
      omega
    · intro one
      rw [one]
      exact ⟨total, rfl, rfl⟩
  have one : lowered (driver.isUserspace vif.physnet) (requesting resource pod.containers) = 1 ↔
      (driver.isUserspace vif.physnet ∨ ∀ resource, driver.resource? vif.physnet = some resource →
        requesting resource pod.containers ≤ 1) := by
    rw [isResource]
    unfold lowered
    split
    · rename_i userspace
      exact ⟨fun _ => .inl userspace, fun _ => by omega⟩
    · rename_i kernel
      constructor
      · rintro single
        right
        rintro _ ⟨⟩
        exact single.le
      · rintro (userspace | single)
        · exact absurd userspace kernel
        · have := single resource rfl
          omega
  unfold Lowers Single
  rw [own, one]
  apply and_congr_right
  intro single
  have lowersOne := one.mpr single
  apply forall_congr'
  intro other
  apply forall_congr'
  intro apart
  cases otherResource : driver.resource? other with
  | none =>
      rw [getRemainingSriovVfs_of_none otherResource, getRemainingSriovVfs_of_none otherResource,
        isResource]
      exact ⟨fun _ => by rintro ⟨⟩, fun _ => rfl⟩
  | some resource' =>
      rw [getRemainingSriovVfs_of_some otherResource, getRemainingSriovVfs_of_some otherResource,
        isResource]
      constructor
      · rintro unchanged ⟨⟩
        rw [counted] at unchanged
        dsimp only at unchanged
        rw [lowers, lowersOne] at unchanged
        have equal := Except.ok.inj unchanged
        omega
      · intro differs
        exact totalAmount_reduceContainers_of_ne _ _ fun same => differs (congrArg some same)

end

/-! ## Requests in a row -/

/-- A request for the subnets, and what the request of a port comes to. -/
structure Asked where
  subnets : List String
  port : Except PyException String

/-- A request with its answer. -/
abbrev Answered := Asked × Except PyException (Option SriovVif)

/-- The VIF is one of the physnet. -/
def grants (physnet : String) (answered : Answered) : Bool :=
  match answered.2 with
  | .ok (some vif) => vif.physnet = physnet
  | _ => false

namespace Driver

variable (driver : Driver)

/-- Requests one after the other for one pod object: their answers, and the object after them. -/
def requestVifs : Pod → List Asked → List Answered × Pod
  | pod, [] => ([], pod)
  | pod, asked :: rest =>
      let answer := driver.requestVif pod asked.subnets asked.port
      let later := requestVifs answer.2 rest
      ((asked, answer.1) :: later.1, later.2)

/-- How many VIFs of the physnet are given. -/
def granted (pod : Pod) (requests : List Asked) (physnet : String) : Nat :=
  (driver.requestVifs pod requests).1.countP (grants physnet)

/-- Whenever a request gives a VIF, the pod object before it, the physnet and the pod object
after it have the property. -/
def EachGrant (property : Pod → String → Pod → Prop) : Pod → List Asked → Prop
  | _, [] => True
  | pod, asked :: rest =>
      let answer := driver.requestVif pod asked.subnets asked.port
      (∀ vif, answer.1 = .ok (some vif) → property pod vif.physnet answer.2) ∧
        EachGrant property answer.2 rest

end Driver

/-- Every VIF that is given lowers the count of its physnet by one and leaves the others, so that
what is given of a physnet and what is left make up what was requested, and nothing is left where
no VIF is given any more. -/
structure CountsExactly (driver : Driver) (pod : Pod) (requests : List Asked) : Prop where
  lowers : driver.EachGrant (Lowers driver) pod requests
  total : ∀ physnet total, driver.getRemainingSriovVfs pod physnet = .ok total →
    ∃ left, driver.getRemainingSriovVfs (driver.requestVifs pod requests).2 physnet = .ok left ∧
      driver.granted pod requests physnet + left = total
  exhausted : ∀ physnet total, driver.getRemainingSriovVfs pod physnet = .ok total →
    ∀ answered ∈ (driver.requestVifs pod requests).1,
      driver.getPhysnet answered.1.subnets = .ok physnet → answered.2 = .ok none →
      driver.granted pod requests physnet = total

section

variable {driver : Driver} {pod : Pod} {requests rest : List Asked} {asked : Asked}
  {physnet : String}

theorem eachGrant_lowers_iff : driver.EachGrant (Lowers driver) pod requests ↔
    driver.EachGrant (fun before physnet _ => Single driver before physnet) pod requests := by
  induction requests generalizing pod with
  | nil => exact Iff.rfl
  | cons asked rest ih =>
      unfold Driver.EachGrant
      apply and_congr _ ih
      apply forall_congr'
      intro vif
      apply imp_congr_right
      intro gives
      rcases requestVif_cases driver pod asked.subnets asked.port with
        ⟨other, given, found⟩ | ⟨_, ⟨exception, raised⟩ | ⟨refused, _⟩⟩
      · rw [given] at gives
        cases gives
        exact lowers_iff found
      · rw [raised] at gives
        cases gives
      · rw [refused] at gives
        cases gives

theorem granted_cons (driver : Driver) (pod : Pod) (asked : Asked) (rest : List Asked)
    (physnet : String) :
    driver.granted pod (asked :: rest) physnet =
      driver.granted (driver.requestVif pod asked.subnets asked.port).2 rest physnet +
        if grants physnet (asked, (driver.requestVif pod asked.subnets asked.port).1) then 1
        else 0 :=
  List.countP_cons

/-- One request: what is left of a physnet, and what is given. -/
theorem remaining_step {total : Nat}
    (lowers : ∀ vif, (driver.requestVif pod asked.subnets asked.port).1 = .ok (some vif) →
      Lowers driver pod vif.physnet (driver.requestVif pod asked.subnets asked.port).2)
    (remaining : driver.getRemainingSriovVfs pod physnet = .ok total) :
    ∃ left, driver.getRemainingSriovVfs (driver.requestVif pod asked.subnets asked.port).2
        physnet = .ok left ∧
      total = left +
        if grants physnet (asked, (driver.requestVif pod asked.subnets asked.port).1) then 1
        else 0 := by
  unfold grants
  rcases requestVif_cases driver pod asked.subnets asked.port with
    ⟨vif, given, _⟩ | ⟨same, ⟨exception, raised⟩ | ⟨refused, _⟩⟩
  · obtain ⟨⟨left, before, after⟩, others⟩ := lowers vif given
    rw [given]
    by_cases own : vif.physnet = physnet
    · subst own
      rw [before] at remaining
      cases remaining
      exact ⟨left, after, by simp⟩
    · exact ⟨total, (others physnet (Ne.symm own)).trans remaining, by simp [own]⟩
  · rw [same, raised]
    exact ⟨total, remaining, rfl⟩
  · rw [same, refused]
    exact ⟨total, remaining, rfl⟩

/-- By induction on the requests. -/
theorem total_of_lowers (lowers : driver.EachGrant (Lowers driver) pod requests) {total : Nat}
    (remaining : driver.getRemainingSriovVfs pod physnet = .ok total) :
    ∃ left, driver.getRemainingSriovVfs (driver.requestVifs pod requests).2 physnet = .ok left ∧
      driver.granted pod requests physnet + left = total := by
  induction requests generalizing pod total with
  | nil => exact ⟨total, remaining, Nat.zero_add total⟩
  | cons asked rest ih =>
      obtain ⟨now, later⟩ := lowers
      obtain ⟨middle, remainingNext, step⟩ := remaining_step now remaining
      obtain ⟨left, remainingLast, sum⟩ := ih later remainingNext
      refine ⟨left, remainingLast, ?_⟩
      rw [granted_cons]
      omega

theorem exhausted_of_lowers (lowers : driver.EachGrant (Lowers driver) pod requests)
    {total : Nat} (remaining : driver.getRemainingSriovVfs pod physnet = .ok total)
    {answered : Answered} (listed : answered ∈ (driver.requestVifs pod requests).1)
    (isPhysnet : driver.getPhysnet answered.1.subnets = .ok physnet)
    (refused : answered.2 = .ok none) : driver.granted pod requests physnet = total := by
  induction requests generalizing pod total with
  | nil => cases listed
  | cons asked rest ih =>
      obtain ⟨now, later⟩ := lowers
      obtain ⟨middle, remainingNext, step⟩ := remaining_step now remaining
      rw [granted_cons]
      rcases List.mem_cons.mp listed with rfl | older
      · -- nothing is left here, so that nothing is given from here on
        rcases requestVif_cases driver pod asked.subnets asked.port with
          ⟨vif, given, _⟩ | ⟨same, ⟨exception, raised⟩ | ⟨_, other, isOther, none_⟩⟩
        · rw [given] at refused
          cases refused
        · rw [raised] at refused
          cases refused
        · rw [isPhysnet] at isOther
          cases isOther
          rw [none_] at remaining
          cases remaining
          obtain ⟨left, _, sum⟩ := total_of_lowers later remainingNext
          omega
      · rw [ih later remainingNext older]
        exact step.symm

end

/-- The requests of a pod object count exactly if and only if, whenever a VIF is given, the
requests for it are in one container, or its driver is in user space, and its resource is that of
one physnet. -/
theorem request_vif_counts_iff (driver : Driver) (pod : Pod) (requests : List Asked) :
    CountsExactly driver pod requests ↔
      driver.EachGrant (fun before physnet _ => Single driver before physnet) pod requests := by
  rw [← eachGrant_lowers_iff]
  constructor
  · exact fun counts => counts.lowers
  · intro lowers
    refine ⟨lowers, ?_, ?_⟩
    · exact fun physnet total remaining => total_of_lowers lowers remaining
    · exact fun physnet total remaining answered listed isPhysnet refused =>
        exhausted_of_lowers lowers remaining listed isPhysnet refused

/-- A driver for devices of the kernel. -/
def kernelDriver : Driver where
  physnetSubnetMapping := .ofList [("subnet", "physnet")]
  physnetResnameMapping := .ofList [("physnet", "sriov")]
  resPrefix := "intel.com"
  resourceDriverMappings := .ofList [("sriov", "mlx5_core")]

/-- A container that requests one virtual function. -/
def requestsOne : Container where
  requests := some (.ofList [("intel.com/sriov", .whole 1)])

/-- A pod with two such containers. -/
def requestsTwo : Pod where
  name := "web"
  selfLink := "/api/v1/namespaces/default/pods/web"
  containers := [requestsOne, requestsOne]

/-- Two virtual functions are requested, and one VIF is given. -/
theorem request_vif_counts_twice :
    ¬CountsExactly kernelDriver requestsTwo
      [⟨["subnet"], .ok "first"⟩, ⟨["subnet"], .ok "second"⟩] := by
  intro counts
  have requested : kernelDriver.getRemainingSriovVfs requestsTwo "physnet" = .ok 2 := by
    decide
  obtain ⟨left, remaining, sum⟩ := counts.total "physnet" 2 requested
  have nothing : left = 0 := by
    have none_ : kernelDriver.getRemainingSriovVfs (kernelDriver.requestVifs requestsTwo
        [⟨["subnet"], .ok "first"⟩, ⟨["subnet"], .ok "second"⟩]).2 "physnet" = .ok 0 := by
      decide
    rw [none_] at remaining
    exact (Except.ok.inj remaining).symm
  have given : kernelDriver.granted requestsTwo
      [⟨["subnet"], .ok "first"⟩, ⟨["subnet"], .ok "second"⟩] "physnet" = 1 := by
    decide
  omega

end KuryrKubernetes.Sriov

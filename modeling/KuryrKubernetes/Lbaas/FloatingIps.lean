import KuryrKubernetes.Effect.Serve
import KuryrKubernetes.Lbaas.Handler

/-!
# Floating IPs

Public addresses of services are floating IPs of Neutron.  `FipPubIpDriver` and
`FloatingIpServicePubIPDriver` work on them through calls that may fail, with or without
having taken effect.
-/

namespace KuryrKubernetes.Lbaas

open KuryrKubernetes.Data
open KuryrKubernetes.Effect

/-- A floating IP and the port that it is associated with. -/
structure FloatingIp (Address : Type) where
  address : Address
  portId : Option Nat
  deriving DecidableEq

/-- The calls for public addresses, and the writes to the API server. -/
inductive Call where
  | ips
  | createIp
  | setTags
  | updateIp (id : Nat) (portId : Option Nat)
  | getIp (id : Nat)
  | deleteIp (id : Nat)
  | patchStatus
  | setLbaasState
  deriving DecidableEq

/-- How a call ends. -/
abbrev Ending :=
  Effect.Ending PyException

/-- What the controller works on: what is behind the driver of load balancers, the ports
that were deleted, the floating IPs, and the annotation of the endpoints, while there is
such an object.  Which addresses were allocated for which port, and which state the handler
stored last, is only noted. -/
structure Cloud (Address L : Type) where
  balancers : L
  gone : List Nat := []
  fips : Dict Nat (FloatingIp Address) := ∅
  nextFip : Nat := 0
  allocated : List (Nat × Nat) := []
  annotation : Option (Option (LbaasState Address)) := some none
  stored : Option (LbaasState Address) := none
  endings : Call → Ending := fun _ => .served

/-- Programs over the cloud. -/
abbrev CloudM (Address L α : Type) :=
  Program PyException (Cloud Address L) α

variable {Address L : Type}

/-- A call that ends as the cloud has it. -/
def serve {α : Type} (call : Call) (operation : CloudM Address L α) : CloudM Address L α :=
  Effect.serve Cloud.endings call operation

/-! ## The services -/

namespace NetworkClient

/-- The floating IPs that meet a query. -/
def ips (query : FloatingIp Address → Bool) : CloudM Address L (List (Nat × FloatingIp Address)) :=
  serve .ips do
    let cloud ← get
    return cloud.fips.items.filter fun item => query item.2

/-- `create_ip`, for a port that is not passed on to Neutron. -/
def createIp (addressOf : Nat → Address) (portId : Nat) :
    CloudM Address L (Nat × FloatingIp Address) :=
  serve .createIp do
    let cloud ← get
    let fip : FloatingIp Address := { address := addressOf cloud.nextFip, portId := none }
    set { cloud with
      fips := cloud.fips.set cloud.nextFip fip
      nextFip := cloud.nextFip + 1
      allocated := (portId, cloud.nextFip) :: cloud.allocated }
    return (cloud.nextFip, fip)

def setTags : CloudM Address L PUnit :=
  serve .setTags (pure ⟨⟩)

/-- The port may have one floating IP. -/
def updateIp (id : Nat) (portId : Option Nat) : CloudM Address L PUnit :=
  serve (.updateIp id portId) do
    let cloud ← get
    match cloud.fips.get? id with
    | none => throw .neutronNotFound
    | some fip =>
        if portId.any cloud.gone.contains then
          throw .neutronNotFound
        else if portId.isSome ∧ cloud.fips.items.any fun item =>
            item.1 ≠ id ∧ item.2.portId = portId then
          throw .neutronConflict
        else
          set { cloud with fips := cloud.fips.set id { fip with portId } }

def getIp (id : Nat) : CloudM Address L (FloatingIp Address) :=
  serve (.getIp id) do
    let cloud ← get
    match cloud.fips.get? id with
    | none => throw .neutronNotFound
    | some fip => return fip

def deleteIp (id : Nat) : CloudM Address L PUnit :=
  serve (.deleteIp id) (modify fun cloud => { cloud with fips := cloud.fips.erase id })

end NetworkClient

/-- The writes of the handler; there is no annotation without the object. -/
def cloudApi : ApiClient Address (Cloud Address L) where
  patchStatus _ := serve .patchStatus (pure ⟨⟩)
  setLbaasState state := serve .setLbaasState do
    let cloud ← get
    match cloud.annotation with
    | none => throw .k8sResourceNotFound
    | some _ => set { cloud with annotation := some (some state), stored := some state }

/-! ## The drivers -/

namespace FipPubIpDriver

/-- `is_ip_available`. -/
def isIpAvailable [DecidableEq Address] (ipAddr : Address) (portIdToBeAssociated : Nat) :
    CloudM Address L (Option Nat) := do
  let floatingIpsList ← NetworkClient.ips fun fip => fip.address = ipAddr
  return (floatingIpsList.find? fun item =>
    item.2.portId = none ∨ item.2.portId = some portIdToBeAssociated).map Prod.fst

/-- `tag_neutron_resources`, which is not insisted on. -/
def tagNeutronResources : CloudM Address L PUnit :=
  tryCatch NetworkClient.setTags fun ex => if ex.isSdkException then pure ⟨⟩ else throw ex

/-- `allocate_ip`. -/
def allocateIp (addressOf : Nat → Address) (portIdToBeAssociated : Nat) :
    CloudM Address L (Nat × Address) := do
  let floatingIpsList ← NetworkClient.ips fun fip => fip.portId = some portIdToBeAssociated
  match floatingIpsList with
  | entry :: _ => return (entry.1, entry.2.address)
  | [] => do
      let fip ← NetworkClient.createIp addressOf portIdToBeAssociated
      tagNeutronResources
      return (fip.1, fip.2.address)

/-- `free_ip`. -/
def freeIp (id : Nat) : CloudM Address L Bool :=
  tryCatch
    (do
      NetworkClient.deleteIp id
      return true)
    fun ex => if ex.isSdkException then return false else throw ex

/-- `_update`. -/
def update (id : Nat) (vipPortId : Option Nat) : CloudM Address L PUnit :=
  tryCatch (NetworkClient.updateIp id vipPortId) fun ex =>
    if ex = .neutronConflict then do
      let fip ← NetworkClient.getIp id
      if fip.portId = vipPortId then pure ⟨⟩ else throw ex
    else
      throw ex

/-- `associate`. -/
def associate (id vipPortId : Nat) : CloudM Address L PUnit :=
  update id (some vipPortId)

/-- `disassociate`. -/
def disassociate (id : Nat) : CloudM Address L PUnit :=
  update id none

end FipPubIpDriver

namespace FloatingIpServicePubIpDriver

/-- `acquire_service_pub_ip_info`.  The public network is configured if there is an
`external_svc_net`. -/
def acquireServicePubIpInfo [DecidableEq Address] (externalSvcNet : Bool)
    (addressOf : Nat → Address) (spec : ServiceSpec Address) (portIdToBeAssociated : Nat) :
    CloudM Address L (Option (PubIp Address)) :=
  if spec.type ≠ some .loadBalancer then
    return none
  else
    match spec.lbIp with
    | some userSpecifiedIp => do
        let resId ← FipPubIpDriver.isIpAvailable userSpecifiedIp portIdToBeAssociated
        return resId.map fun ipId => { ipId, ipAddr := userSpecifiedIp, allocMethod := .user }
    | none =>
        if externalSvcNet then
          tryCatch
            (do
              let fip ← FipPubIpDriver.allocateIp addressOf portIdToBeAssociated
              return some { ipId := fip.1, ipAddr := fip.2, allocMethod := .pool })
            fun _ => return none
        else
          throw .requiredOpt

/-- `release_pub_ip`. -/
def releasePubIp (info : PubIp Address) : CloudM Address L PUnit :=
  match info.allocMethod with
  | .pool => do
      let _ ← FipPubIpDriver.freeIp info.ipId
      return ⟨⟩
  | .user => pure ⟨⟩

end FloatingIpServicePubIpDriver

/-- `FloatingIpServicePubIPDriver`. -/
def floatingIpServicePubIpDriver [DecidableEq Address] (externalSvcNet : Bool)
    (addressOf : Nat → Address) : PubIpDriver Address (Cloud Address L) where
  acquireServicePubIpInfo :=
    FloatingIpServicePubIpDriver.acquireServicePubIpInfo externalSvcNet addressOf
  associatePubIp info vipPortId := FipPubIpDriver.associate info.ipId vipPortId
  disassociatePubIp info := FipPubIpDriver.disassociate info.ipId
  releasePubIp := FloatingIpServicePubIpDriver.releasePubIp

/-! ## How calls end -/

section

variable {α : Type} {call : Call} {operation : CloudM Address L α} {cloud : Cloud Address L}

theorem exec_serve_of_served (served : cloud.endings call = .served) :
    exec (serve call operation) cloud = exec operation cloud :=
  Effect.exec_serve_of_served served

theorem exec_serve_of_refused {exception : PyException}
    (refused : cloud.endings call = .refused exception) :
    exec (serve call operation) cloud = (.error exception, cloud) :=
  Effect.exec_serve_of_refused refused

theorem exec_serve_of_cut {exception : PyException}
    (cut : cloud.endings call = .cut exception) :
    ∃ raised, exec (serve call operation) cloud = (.error raised, (exec operation cloud).2) :=
  Effect.exec_serve_of_cut cut

theorem leads_serve {pre : Cloud Address L → Prop} {post : α → Cloud Address L → Prop}
    {escape : PyException → Cloud Address L → Prop} (leads : Leads pre operation post escape)
    (refused : ∀ exception cloud, pre cloud → escape exception cloud)
    (cut : ∀ value exception cloud, post value cloud → escape exception cloud) :
    Leads pre (serve call operation) post escape :=
  Effect.leads_serve leads refused cut

end

/-! ## Associations -/

namespace Cloud

/-- The floating IP is associated with the port. -/
def Associated (cloud : Cloud Address L) (portId id : Nat) : Prop :=
  ∃ fip, cloud.fips.get? id = some fip ∧ fip.portId = some portId

/-- What holds of the floating IPs at any time. -/
structure Ledger (cloud : Cloud Address L) : Prop where
  ids : ∀ id ∈ cloud.fips, id < cloud.nextFip
  noted : ∀ entry ∈ cloud.allocated, entry.2 < cloud.nextFip
  single : ∀ portId id other, cloud.Associated portId id → cloud.Associated portId other →
    id = other
  present : ∀ portId id, cloud.Associated portId id → portId ∉ cloud.gone

/-- The cloud after `create_ip` for a port. -/
def created (cloud : Cloud Address L) (addressOf : Nat → Address) (portId : Nat) :
    Cloud Address L where
  balancers := cloud.balancers
  gone := cloud.gone
  fips := cloud.fips.set cloud.nextFip { address := addressOf cloud.nextFip, portId := none }
  nextFip := cloud.nextFip + 1
  allocated := (portId, cloud.nextFip) :: cloud.allocated
  annotation := cloud.annotation
  stored := cloud.stored
  endings := cloud.endings

/-- The cloud where a floating IP is associated with a port. -/
def attached (cloud : Cloud Address L) (id : Nat) (fip : FloatingIp Address) (portId : Nat) :
    Cloud Address L :=
  { cloud with fips := cloud.fips.set id { fip with portId := some portId } }

variable {cloud : Cloud Address L}

theorem Associated.unique {portId other id : Nat} (first : cloud.Associated portId id)
    (second : cloud.Associated other id) : portId = other := by
  rcases first with ⟨fip, found, there⟩
  rcases second with ⟨same, foundToo, thereToo⟩
  rw [found] at foundToo
  cases foundToo
  rw [there] at thereToo
  exact Option.some.inj thereToo

theorem Associated.mem {portId id : Nat} (associated : cloud.Associated portId id) :
    id ∈ cloud.fips := by
  rcases associated with ⟨fip, found, _⟩
  exact Dict.mem_iff_exists_get?.mpr ⟨fip, found⟩

/-- A new floating IP is associated with no port. -/
theorem associated_created_iff (ledger : cloud.Ledger) (addressOf : Nat → Address)
    (forPort portId id : Nat) :
    (cloud.created addressOf forPort).Associated portId id ↔ cloud.Associated portId id := by
  unfold Associated created
  rw [Dict.get?_set]
  split
  · rename_i same
    constructor
    · rintro ⟨fip, found, there⟩
      cases found
      cases there
    · intro associated
      have known := ledger.ids id (Associated.mem associated)
      omega
  · rfl

theorem Ledger.created (ledger : cloud.Ledger) (addressOf : Nat → Address) (forPort : Nat) :
    (cloud.created addressOf forPort).Ledger := by
  constructor
  · intro id listed
    change id < cloud.nextFip + 1
    rcases Dict.mem_set.mp listed with new | old
    · omega
    · have known := ledger.ids id old
      omega
  · intro entry listed
    change entry.2 < cloud.nextFip + 1
    rcases List.mem_cons.mp listed with rfl | old
    · exact Nat.lt_succ_self _
    · have known := ledger.noted entry old
      omega
  · intro portId id other first second
    exact ledger.single portId id other
      ((associated_created_iff ledger addressOf forPort portId id).mp first)
      ((associated_created_iff ledger addressOf forPort portId other).mp second)
  · intro portId id associated
    exact ledger.present portId id
      ((associated_created_iff ledger addressOf forPort portId id).mp associated)

theorem associated_attached_iff {id : Nat} (fip : FloatingIp Address) (portId other known : Nat) :
    (cloud.attached id fip portId).Associated other known ↔
      known = id ∧ other = portId ∨ known ≠ id ∧ cloud.Associated other known := by
  unfold Associated attached
  dsimp only
  rw [Dict.get?_set]
  split
  · rename_i same
    constructor
    · rintro ⟨found, same_, there⟩
      cases same_
      exact .inl ⟨same, (Option.some.inj there).symm⟩
    · rintro (⟨_, rfl⟩ | ⟨different, _⟩)
      · exact ⟨_, rfl, rfl⟩
      · exact absurd same different
  · rename_i different
    constructor
    · intro associated
      exact .inr ⟨different, associated⟩
    · rintro (⟨same, _⟩ | ⟨_, associated⟩)
      · exact absurd same different
      · exact associated

/-- A floating IP may be associated with a port that is there and has no other one. -/
theorem Ledger.attached (ledger : cloud.Ledger) {id portId : Nat} {fip : FloatingIp Address}
    (known : cloud.fips.get? id = some fip) (there : portId ∉ cloud.gone)
    (alone : ∀ other, cloud.Associated portId other → other = id) :
    (cloud.attached id fip portId).Ledger := by
  constructor
  · intro other listed
    rcases Dict.mem_set.mp listed with rfl | old
    · exact ledger.ids _ (Dict.mem_iff_exists_get?.mpr ⟨fip, known⟩)
    · exact ledger.ids other old
  · exact ledger.noted
  · intro port first second atFirst atSecond
    rcases (associated_attached_iff fip portId port first).mp atFirst with
      ⟨rfl, rfl⟩ | ⟨different, associated⟩
    · rcases (associated_attached_iff fip port port second).mp atSecond with
        ⟨rfl, _⟩ | ⟨differentToo, associatedToo⟩
      · rfl
      · exact absurd (alone second associatedToo) differentToo
    · rcases (associated_attached_iff fip portId port second).mp atSecond with
        ⟨rfl, rfl⟩ | ⟨_, associatedToo⟩
      · exact absurd (alone first associated) different
      · exact ledger.single port first second associated associatedToo
  · intro port other associated
    rcases (associated_attached_iff fip portId port other).mp associated with
      ⟨_, rfl⟩ | ⟨_, associated⟩
    · exact there
    · exact ledger.present port other associated

end Cloud

/-! ## Association -/

section

variable {before : Cloud Address L} {id portId : Nat}

theorem getIp_leads (id : Nat) (cloud : Cloud Address L) :
    Leads (fun before => before = cloud) (NetworkClient.getIp id)
      (fun fip after => after = cloud ∧ cloud.fips.get? id = some fip)
      fun _ after => after = cloud := by
  apply leads_serve
  · rintro before rfl
    rw [exec_get_bind]
    cases found : before.fips.get? id with
    | none => exact leads_throw (fun _ same => same) before rfl
    | some fip =>
        apply leads_pure _ before rfl
        rintro _ rfl
        exact ⟨rfl, rfl⟩
  · exact fun _ _ same => same
  · exact fun _ _ _ reached => reached.1

/-- The floating IP is associated with a port that is there and has no other one. -/
def Cloud.Attaches (before : Cloud Address L) (id portId : Nat) (after : Cloud Address L) : Prop :=
  ∃ fip, before.fips.get? id = some fip ∧ portId ∉ before.gone ∧
    (∀ other, before.Associated portId other → other = id) ∧
    after = before.attached id fip portId

/-- The association was made, or else it was refused if it could have been made. -/
def Cloud.Tried (before : Cloud Address L) (id portId : Nat) (after : Cloud Address L) : Prop :=
  before.Attaches id portId after ∨ after = before ∧
    ∀ other, before.Attaches id portId other →
      ∃ exception, before.endings (.updateIp id (some portId)) = .refused exception

theorem Cloud.Attaches.associated {after : Cloud Address L}
    (attaches : before.Attaches id portId after) : after.Associated portId id := by
  rcases attaches with ⟨fip, _, _, _, rfl⟩
  exact (Cloud.associated_attached_iff fip portId portId id).mpr (.inl ⟨rfl, rfl⟩)

/-- `update_ip` for a port associates the floating IP or does nothing; where the port is
there and is free, only a refusal keeps it from that. -/
theorem updateIp_leads (before : Cloud Address L) (id portId : Nat) :
    Leads (fun cloud => cloud = before) (NetworkClient.updateIp id (some portId))
      (fun _ after => before.Attaches id portId after)
      fun _ after => before.Tried id portId after := by
  have operation (escape : PyException → Cloud Address L → Prop)
      (stays : (∀ after, ¬before.Attaches id portId after) → ∀ exception,
        escape exception before) :
      Leads (fun cloud => cloud = before)
        (do
          let cloud ← get
          match cloud.fips.get? id with
          | none => throw .neutronNotFound
          | some fip =>
              if (some portId).any cloud.gone.contains then
                throw .neutronNotFound
              else if (some portId).isSome ∧ cloud.fips.items.any fun item =>
                  item.1 ≠ id ∧ item.2.portId = some portId then
                throw .neutronConflict
              else
                set { cloud with fips := cloud.fips.set id { fip with portId := some portId } })
        (fun _ after => before.Attaches id portId after) escape := by
    rintro cloud rfl
    rw [exec_get_bind]
    cases found : cloud.fips.get? id with
    | none =>
        apply leads_throw _ cloud rfl
        rintro _ rfl
        apply stays
        rintro after ⟨fip, known, _⟩
        rw [found] at known
        cases known
    | some fip =>
        dsimp only
        split
        · rename_i deleted
          apply leads_throw _ cloud rfl
          rintro _ rfl
          apply stays
          rintro after ⟨_, _, there, _⟩
          apply there
          simpa using deleted
        · rename_i there
          split
          · rename_i taken
            apply leads_throw _ cloud rfl
            rintro _ rfl
            apply stays
            rintro after ⟨_, _, _, alone, _⟩
            rcases List.any_eq_true.mp taken.2 with ⟨item, listed, other⟩
            rw [decide_eq_true_eq] at other
            apply other.1
            exact alone item.1 ⟨item.2, Dict.mem_items_iff.mp listed, other.2⟩
          · rename_i free
            constructor
            · intro _ after ran
              cases ran
              refine ⟨fip, found, ?_, ?_, rfl⟩
              · simpa using there
              · rintro other ⟨known, foundOther, atPort⟩
                by_contra different
                apply free
                refine ⟨rfl, List.any_eq_true.mpr ⟨(other, known), ?_, ?_⟩⟩
                · exact Dict.mem_items_iff.mpr foundOther
                · exact decide_eq_true ⟨different, atPort⟩
            · intro _ _ ran
              cases ran
  rintro cloud rfl
  unfold NetworkClient.updateIp
  cases ending : cloud.endings (.updateIp id (some portId)) with
  | served =>
      rw [exec_serve_of_served ending]
      apply operation _ _ cloud rfl
      intro never exception
      exact .inr ⟨rfl, fun after attaches => absurd attaches (never after)⟩
  | refused exception =>
      rw [exec_serve_of_refused ending]
      constructor
      · intro _ _ ran
        cases ran
      · intro _ _ ran
        cases ran
        exact .inr ⟨rfl, fun _ _ => ⟨exception, ending⟩⟩
  | cut exception =>
      have done := operation (fun _ after => after = cloud ∧
        ∀ other, ¬cloud.Attaches id portId other) (fun never _ => ⟨rfl, never⟩) cloud rfl
      rcases exec_serve_of_cut ending with ⟨raised, ran⟩
      rw [ran]
      constructor
      · intro _ _ ended
        cases ended
      · intro _ _ ended
        cases ended
        rcases outcome : exec _ cloud with ⟨result, after⟩
        cases result with
        | ok value => exact .inl (done.1 value after outcome)
        | error exception =>
            rcases done.2 exception after outcome with ⟨same, never⟩
            exact .inr ⟨same, fun other attaches => absurd attaches (never other)⟩

/-- Where `associate` returns, the floating IP is at the port. -/
theorem associate_leads (before : Cloud Address L) (id portId : Nat) :
    Leads (fun cloud => cloud = before) (FipPubIpDriver.associate id portId)
      (fun _ after => after.Associated portId id ∧
        (after = before ∨ before.Attaches id portId after))
      fun _ after => before.Tried id portId after := by
  apply Leads.tryCatch
  · apply (updateIp_leads before id portId).mono
    · intro _ after attaches
      exact ⟨attaches.associated, .inr attaches⟩
    · exact fun _ _ reached => reached
  · intro ex
    split
    · intro middle reached
      have read : Leads (fun cloud => cloud = middle) (NetworkClient.getIp id)
          (fun fip after => after = middle ∧ middle.fips.get? id = some fip)
          fun _ after => before.Tried id portId after := by
        apply (getIp_leads id middle).mono fun _ _ reads => reads
        rintro _ _ rfl
        exact reached
      apply (read.bind fun fip => _) middle rfl
      intro fip
      split
      · rename_i there
        apply leads_pure
        rintro _ ⟨rfl, found⟩
        constructor
        · exact ⟨fip, found, there⟩
        · rcases reached with attaches | ⟨same, _⟩
          · exact .inr attaches
          · exact .inl same
      · apply leads_throw
        rintro _ ⟨rfl, _⟩
        exact reached
    · exact leads_throw fun _ reached => reached

/-! ## Allocation -/

theorem ips_leads (query : FloatingIp Address → Bool) (before : Cloud Address L) :
    Leads (fun cloud => cloud = before) (NetworkClient.ips query)
      (fun items after => after = before ∧ before.endings .ips = .served ∧
        ∀ item, item ∈ items ↔ before.fips.get? item.1 = some item.2 ∧ query item.2)
      fun _ after => after = before ∧ before.endings .ips ≠ .served := by
  rintro cloud rfl
  unfold NetworkClient.ips
  cases ending : cloud.endings .ips with
  | served =>
      rw [exec_serve_of_served ending, exec_get_bind]
      apply leads_pure _ cloud rfl
      rintro _ rfl
      refine ⟨rfl, rfl, ?_⟩
      intro item
      rw [List.mem_filter, Dict.mem_items_iff]
  | refused exception =>
      rw [exec_serve_of_refused ending]
      apply leads_throw _ cloud rfl
      rintro _ rfl
      exact ⟨rfl, by rintro ⟨⟩⟩
  | cut exception =>
      rcases exec_serve_of_cut ending with ⟨raised, ran⟩
      rw [ran]
      apply leads_throw _ cloud rfl
      rintro _ rfl
      exact ⟨rfl, by rintro ⟨⟩⟩

theorem setTags_leads (before : Cloud Address L) :
    Leads (fun cloud => cloud = before) NetworkClient.setTags (fun _ after => after = before)
      fun exception after => after = before ∧
        (before.endings .setTags).exception? = some exception := by
  rintro cloud rfl
  unfold NetworkClient.setTags serve Effect.serve
  rw [exec_get_bind]
  cases ending : cloud.endings .setTags with
  | served => exact leads_pure (fun _ same => same) cloud rfl
  | refused exception =>
      apply leads_throw _ cloud rfl
      rintro _ rfl
      exact ⟨rfl, rfl⟩
  | cut exception =>
      dsimp only
      rw [exec_pure_bind]
      apply leads_throw _ cloud rfl
      rintro _ rfl
      exact ⟨rfl, rfl⟩

theorem tagNeutronResources_leads (before : Cloud Address L) :
    Leads (fun cloud => cloud = before) FipPubIpDriver.tagNeutronResources
      (fun _ after => after = before)
      fun _ after => after = before ∧ ∃ exception,
        (before.endings .setTags).exception? = some exception ∧ !exception.isSdkException := by
  apply (setTags_leads before).tryCatch
  intro exception
  split
  · apply leads_pure
    exact fun _ reached => reached.1
  · rename_i other
    apply leads_throw
    rintro _ ⟨same, ended⟩
    exact ⟨same, exception, ended, by simpa using other⟩

theorem createIp_leads (addressOf : Nat → Address) (portId : Nat) (before : Cloud Address L) :
    Leads (fun cloud => cloud = before) (NetworkClient.createIp addressOf portId)
      (fun fip after => after = before.created addressOf portId ∧ fip.1 = before.nextFip ∧
        before.endings .createIp = .served)
      fun _ after => after = before ∨ after = before.created addressOf portId ∧
        ∃ exception, before.endings .createIp = .cut exception := by
  rintro cloud rfl
  unfold NetworkClient.createIp serve Effect.serve
  rw [exec_get_bind]
  cases ending : cloud.endings .createIp with
  | served =>
      constructor
      · intro _ after ran
        cases ran
        exact ⟨rfl, rfl, rfl⟩
      · intro _ after ran
        cases ran
  | refused exception =>
      apply leads_throw _ cloud rfl
      rintro _ rfl
      exact .inl rfl
  | cut exception =>
      constructor
      · intro _ after ran
        cases ran
      · intro _ after ran
        cases ran
        exact .inr ⟨rfl, exception, rfl⟩

/-- The new floating IP is lost: the call that made it was cut, or tagging it failed. -/
def Cloud.LosesNew (cloud : Cloud Address L) : Prop :=
  (∃ exception, cloud.endings .createIp = .cut exception) ∨
    cloud.endings .createIp = .served ∧ ∃ exception, (cloud.endings .setTags).exception? = some exception ∧ !exception.isSdkException

/-- `allocate_ip` returns the floating IP of the port, or a new one if there was none. -/
theorem allocateIp_leads (addressOf : Nat → Address) (portId : Nat) (before : Cloud Address L) :
    Leads (fun cloud => cloud = before) (FipPubIpDriver.allocateIp addressOf portId)
      (fun fip after => after = before ∧ before.Associated portId fip.1 ∨
        after = before.created addressOf portId ∧ fip.1 = before.nextFip ∧
          before.endings .createIp = .served ∧ ∀ id, ¬before.Associated portId id)
      fun _ after => after = before ∧ (before.endings .ips ≠ .served ∨
          ∀ id, ¬before.Associated portId id) ∨
        after = before.created addressOf portId ∧ before.LosesNew ∧
          ∀ id, ¬before.Associated portId id := by
  unfold FipPubIpDriver.allocateIp
  apply (ips_leads _ before).bind_of
  · rintro _ _ ⟨same, ended⟩
    exact .inl ⟨same, .inl ended⟩
  · intro items
    cases items with
    | cons entry rest =>
        apply leads_pure
        rintro _ ⟨same, _, listed⟩
        rcases (listed entry).mp List.mem_cons_self with ⟨found, there⟩
        exact .inl ⟨same, entry.2, found, of_decide_eq_true there⟩
    | nil =>
        intro cloud reached
        rcases reached with ⟨rfl, _, listed⟩
        have free : ∀ id, ¬cloud.Associated portId id := by
          rintro id ⟨fip, found, there⟩
          have among := (listed (id, fip)).mpr ⟨found, decide_eq_true there⟩
          cases among
        apply (createIp_leads addressOf portId cloud).bind_of _ _ cloud rfl
        · rintro _ _ (same | ⟨same, cut⟩)
          · exact .inl ⟨same, .inr free⟩
          · exact .inr ⟨same, .inl cut, free⟩
        · intro fip
          apply Leads.weaken _ fun _ reached => And.symm reached
          apply Leads.of_fact
          rintro ⟨isNew, served⟩
          apply (tagNeutronResources_leads (cloud.created addressOf portId)).bind_of
          · rintro _ _ ⟨same, failed⟩
            exact .inr ⟨same, .inr ⟨served, failed⟩, free⟩
          · intro _
            apply leads_pure
            exact fun _ same => .inr ⟨same, isNew, served, free⟩

/-! ## Release -/

/-- The cloud without a floating IP. -/
def Cloud.without (cloud : Cloud Address L) (id : Nat) : Cloud Address L :=
  { cloud with fips := cloud.fips.erase id }

theorem Cloud.associated_without_iff {cloud : Cloud Address L} (id portId other : Nat) :
    (cloud.without id).Associated portId other ↔ other ≠ id ∧ cloud.Associated portId other := by
  unfold Associated without
  dsimp only
  rw [Dict.get?_erase]
  split
  · rename_i same
    constructor
    · rintro ⟨_, ⟨⟩, _⟩
    · exact fun kept => absurd same kept.1
  · rename_i different
    constructor
    · exact fun associated => ⟨different, associated⟩
    · exact fun kept => kept.2

theorem Cloud.Ledger.without {cloud : Cloud Address L} (ledger : cloud.Ledger) (id : Nat) :
    (cloud.without id).Ledger := by
  have still (portId other : Nat) (associated : (cloud.without id).Associated portId other) :
      cloud.Associated portId other :=
    ((associated_without_iff id portId other).mp associated).2
  constructor
  · intro other listed
    exact ledger.ids other (Dict.mem_erase.mp listed).2
  · exact ledger.noted
  · intro portId first second atFirst atSecond
    exact ledger.single portId first second (still portId first atFirst)
      (still portId second atSecond)
  · intro portId other associated
    exact ledger.present portId other (still portId other associated)

/-- The floating IP is deleted, or nothing changes. -/
theorem releasePubIp_leads (info : PubIp Address) (before : Cloud Address L) :
    Leads (fun cloud => cloud = before) (FloatingIpServicePubIpDriver.releasePubIp info)
      (fun _ after => after = before ∨ after = before.without info.ipId)
      fun _ after => after = before ∨ after = before.without info.ipId := by
  have deletes : Leads (fun cloud => cloud = before) (NetworkClient.deleteIp info.ipId)
      (fun _ after => after = before ∨ after = before.without info.ipId)
      fun _ after => after = before ∨ after = before.without info.ipId := by
    apply leads_serve
    · rintro cloud rfl
      constructor
      · intro _ after ran
        cases ran
        exact .inr rfl
      · intro _ after ran
        cases ran
    · exact fun _ _ same => .inl same
    · exact fun _ _ _ reached => reached
  unfold FloatingIpServicePubIpDriver.releasePubIp
  split
  · have frees : Leads (fun cloud => cloud = before) (FipPubIpDriver.freeIp info.ipId)
        (fun _ after => after = before ∨ after = before.without info.ipId)
        fun _ after => after = before ∨ after = before.without info.ipId := by
      apply Leads.tryCatch
      · apply deletes.bind
        intro _
        exact leads_pure fun _ reached => reached
      · intro exception
        split
        · exact leads_pure fun _ reached => reached
        · exact leads_throw fun _ reached => reached
    apply frees.bind
    intro _
    exact leads_pure fun _ reached => reached
  · exact leads_pure fun _ same => .inl same

end

end KuryrKubernetes.Lbaas

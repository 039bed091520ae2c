import KuryrKubernetes.Lbaas.AllocatedOnce

/-!
# The public address at the port of the load balancer

A state with a public address says that this address is associated with the port of its load
balancer.  Over attempts for any specifications of the service this holds of the annotated
state as long as its load balancer stays.
-/

namespace KuryrKubernetes.Lbaas

open KuryrKubernetes.Data
open KuryrKubernetes.Effect
open KuryrKubernetes.Transition

variable {Address L : Type}

/-! ## Floating IPs that stay at their ports -/

/-- The endpoints are left alone, and what holds of floating IPs still does. -/
structure Cloud.InOrder (before after : Cloud Address L) : Prop where
  ledger : after.Ledger
  annotation : after.annotation = before.annotation
  endings : after.endings = before.endings

/-- Floating IPs stay at their ports; others may come. -/
structure Cloud.Extends (before after : Cloud Address L) : Prop extends before.InOrder after where
  associated : ∀ portId id, before.Associated portId id → after.Associated portId id

theorem Cloud.InOrder.trans {before middle after : Cloud Address L}
    (first : before.InOrder middle) (second : middle.InOrder after) : before.InOrder after := by
  constructor
  · exact second.ledger
  · exact second.annotation.trans first.annotation
  · exact second.endings.trans first.endings

theorem Cloud.LosesPorts.inOrder {before after : Cloud Address L} {ports : Nat → Prop}
    (loses : before.LosesPorts ports after) (ledger : before.Ledger) : before.InOrder after :=
  ⟨loses.ledger ledger, loses.annotation, loses.endings⟩

namespace Cloud.Extends

variable {before after : Cloud Address L}

theorem refl (ledger : before.Ledger) : before.Extends before :=
  ⟨⟨ledger, rfl, rfl⟩, fun _ _ associated => associated⟩

theorem created (ledger : before.Ledger) (addressOf : Nat → Address) (portId : Nat) :
    before.Extends (before.created addressOf portId) := by
  constructor
  · exact ⟨ledger.created addressOf portId, rfl, rfl⟩
  · intro port id associated
    exact (Cloud.associated_created_iff ledger addressOf portId port id).mpr associated

/-- A floating IP that is at no other port may be associated with the port. -/
theorem attaches {id portId : Nat} (ledger : before.Ledger)
    (attaches : before.Attaches id portId after)
    (free : ∀ port, before.Associated port id → port = portId) : before.Extends after := by
  rcases attaches with ⟨fip, found, present, alone, rfl⟩
  constructor
  · exact ⟨ledger.attached found present alone, rfl, rfl⟩
  · intro port other associated
    apply (Cloud.associated_attached_iff fip portId port other).mpr
    by_cases same : other = id
    · subst same
      exact .inl ⟨rfl, free port associated⟩
    · exact .inr ⟨same, associated⟩

end Cloud.Extends

section

variable {before : Cloud Address L}

/-- A floating IP with the address that is at the port already, or at none. -/
theorem isIpAvailable_leads [DecidableEq Address] (ipAddr : Address) (portId : Nat)
    (before : Cloud Address L) :
    Leads (fun cloud => cloud = before) (FipPubIpDriver.isIpAvailable ipAddr portId)
      (fun answer after => after = before ∧
        ∀ id ∈ answer, ∀ port, before.Associated port id → port = portId)
      fun _ after => after = before := by
  unfold FipPubIpDriver.isIpAvailable
  apply (ips_leads _ before).bind_of
  · exact fun _ _ ended => ended.1
  · intro items
    apply leads_pure
    rintro after ⟨same, _, listed⟩
    constructor
    · exact same
    · intro id isFound port associated
      rcases Option.map_eq_some_iff.mp isFound with ⟨item, found, rfl⟩
      rcases (listed item).mp (List.mem_of_find?_eq_some found) with ⟨known, _⟩
      rcases associated with ⟨fip, there, atPort⟩
      rw [known] at there
      cases there
      have passes := List.find?_some found
      have available := of_decide_eq_true passes
      rw [atPort] at available
      rcases available with none_ | same
      · cases none_
      · exact Option.some.inj same

/-- A public address that is acquired for a port is at no other port. -/
theorem acquireServicePubIpInfo_leads_free [DecidableEq Address] (ledger : before.Ledger)
    (externalSvcNet : Bool) (addressOf : Nat → Address) (spec : ServiceSpec Address)
    (portId : Nat) :
    Leads (fun cloud => cloud = before)
      (FloatingIpServicePubIpDriver.acquireServicePubIpInfo externalSvcNet addressOf spec portId)
      (fun answer after => before.Extends after ∧
        ∀ info ∈ answer, ∀ port, after.Associated port info.ipId → port = portId)
      fun _ after => before.Extends after := by
  have stays (after : Cloud Address L) (same : after = before) : before.Extends after := by
    rw [same]
    exact .refl ledger
  unfold FloatingIpServicePubIpDriver.acquireServicePubIpInfo
  split
  · apply leads_pure
    intro after same
    constructor
    · exact stays after same
    · rintro info ⟨⟩
  · split
    · rename_i userSpecifiedIp _
      apply (isIpAvailable_leads userSpecifiedIp portId before).bind_of
      · exact fun _ => stays
      · intro answer
        apply leads_pure
        rintro after ⟨rfl, available⟩
        constructor
        · exact stays after rfl
        · intro info isInfo port associated
          rcases Option.map_eq_some_iff.mp isInfo with ⟨id, found, rfl⟩
          exact available id found port associated
    · split
      · apply Leads.tryCatch
        · apply (allocateIp_leads addressOf portId before).bind
          intro fip
          apply leads_pure
          rintro after (⟨rfl, associated⟩ | ⟨rfl, isNew, _⟩)
          · constructor
            · exact stays after rfl
            · rintro _ ⟨⟩ port other
              exact other.unique associated
          · constructor
            · exact .created ledger addressOf portId
            · rintro _ ⟨⟩ port other
              have known := ledger.ids _
                ((Cloud.associated_created_iff ledger addressOf portId port _).mp other).mem
              rw [isNew] at known
              exact absurd known (Nat.lt_irrefl _)
        · intro exception
          apply leads_pure
          rintro after (⟨same, _⟩ | ⟨rfl, _⟩)
          · constructor
            · exact stays after same
            · rintro info ⟨⟩
          · constructor
            · exact .created ledger addressOf portId
            · rintro info ⟨⟩
      · exact leads_throw stays

theorem associate_leads_extends {id portId : Nat} (ledger : before.Ledger)
    (free : ∀ port, before.Associated port id → port = portId) :
    Leads (fun cloud => cloud = before) (FipPubIpDriver.associate id portId)
      (fun _ after => before.Extends after ∧ after.Associated portId id)
      fun _ after => before.Extends after := by
  have extends_ (after : Cloud Address L)
      (reached : after = before ∨ before.Attaches id portId after) : before.Extends after := by
    rcases reached with rfl | attaches
    · exact .refl ledger
    · exact .attaches ledger attaches free
  apply (associate_leads before id portId).mono
  · rintro _ after ⟨associated, reached⟩
    exact ⟨extends_ after reached, associated⟩
  · rintro _ after (attaches | ⟨same, _⟩)
    · exact extends_ after (.inr attaches)
    · exact extends_ after (.inl same)

end

/-- A floating IP may be taken off its port. -/
theorem Cloud.Ledger.detached {cloud : Cloud Address L} {id : Nat} {fip : FloatingIp Address}
    (ledger : cloud.Ledger) (known : cloud.fips.get? id = some fip) :
    Cloud.Ledger { cloud with fips := cloud.fips.set id { fip with portId := none } } := by
  have still (portId other : Nat)
      (associated : Cloud.Associated
        { cloud with fips := cloud.fips.set id { fip with portId := none } } portId other) :
      cloud.Associated portId other := by
    rcases associated with ⟨found, there, atPort⟩
    change (cloud.fips.set id { fip with portId := none }).get? other = some found at there
    rw [Dict.get?_set] at there
    split at there
    · cases there
      cases atPort
    · exact ⟨found, there, atPort⟩
  constructor
  · intro other listed
    rcases Dict.mem_set.mp listed with rfl | old
    · exact ledger.ids _ (Dict.mem_iff_exists_get?.mpr ⟨fip, known⟩)
    · exact ledger.ids other old
  · exact ledger.noted
  · intro portId first second atFirst atSecond
    exact ledger.single portId first second (still portId first atFirst)
      (still portId second atSecond)
  · intro portId other associated
    exact ledger.present portId other (still portId other associated)

/-- A floating IP is taken off its port, or nothing changes. -/
theorem disassociate_leads {before : Cloud Address L} (id : Nat) (ledger : before.Ledger) :
    Leads (fun cloud => cloud = before) (FipPubIpDriver.disassociate id)
      (fun _ after => before.InOrder after) fun _ after => before.InOrder after := by
  have stays (after : Cloud Address L) (same : after = before) : before.InOrder after := by
    rw [same]
    exact ⟨ledger, rfl, rfl⟩
  have updates : Leads (fun cloud => cloud = before) (NetworkClient.updateIp id none)
      (fun _ after => before.InOrder after) fun _ after => before.InOrder after := by
    apply leads_serve
    · rintro cloud rfl
      rw [exec_get_bind]
      cases found : cloud.fips.get? id with
      | none =>
          apply leads_throw _ cloud rfl
          rintro _ rfl
          exact stays cloud rfl
      | some fip =>
          constructor
          · intro _ after ran
            cases ran
            exact ⟨ledger.detached found, rfl, rfl⟩
          · intro _ after ran
            cases ran
    · exact fun _ => stays
    · exact fun _ _ _ reached => reached
  apply updates.tryCatch
  intro ex
  split
  · intro middle reached
    have read : Leads (fun cloud => cloud = middle) (NetworkClient.getIp id)
        (fun _ after => before.InOrder after) fun _ after => before.InOrder after := by
      apply (getIp_leads id middle).mono
      · rintro fip _ ⟨rfl, _⟩
        exact reached
      · rintro _ _ rfl
        exact reached
    apply (read.bind fun fip => _) middle rfl
    intro fip
    split
    · exact leads_pure fun _ same => same
    · exact leads_throw fun _ same => same
  · exact leads_throw fun _ reached => reached

/-! ## States and their public addresses -/

namespace LbaasState

/-- The public address of the state is at the port of its load balancer. -/
def Linked (cloud : Cloud Address L) (state : LbaasState Address) : Prop :=
  ∀ info ∈ state.servicePubIpInfo, ∃ lb, state.loadbalancer = some lb ∧
    cloud.Associated lb.portId info.ipId

/-- A state that was read with a public address keeps it, with the load balancer. -/
def Inherits (read state : LbaasState Address) : Prop :=
  read.servicePubIpInfo ≠ none → read.SameBalancer state

variable {cloud before after : Cloud Address L} {first second read state : LbaasState Address}

theorem linked_of_none (private_ : state.servicePubIpInfo = none) : state.Linked cloud := by
  intro info found
  rw [private_] at found
  cases found

theorem Inherits.of_none (private_ : read.servicePubIpInfo = none) : read.Inherits state :=
  fun public_ => absurd private_ public_

theorem Linked.info_eq_none (linked : state.Linked cloud) (missing : state.loadbalancer = none) :
    state.servicePubIpInfo = none := by
  cases found : state.servicePubIpInfo with
  | none => rfl
  | some info =>
      rcases linked info found with ⟨lb, given, _⟩
      rw [missing] at given
      cases given

theorem Linked.same (linked : first.Linked cloud) (same : first.SameBalancer second) :
    second.Linked cloud := by
  intro info found
  rw [same.1] at found
  rcases linked info found with ⟨old, isOld, associated⟩
  rcases same.symm.exists_lb isOld with ⟨lb, given, _, samePort⟩
  rw [← samePort] at associated
  exact ⟨lb, given, associated⟩

theorem Linked.kept (linked : state.Linked before)
    (kept : ∀ portId id, before.Associated portId id → after.Associated portId id) :
    state.Linked after := by
  intro info found
  rcases linked info found with ⟨lb, given, associated⟩
  exact ⟨lb, given, kept _ _ associated⟩

/-- The public address stays where another port goes. -/
theorem Linked.losesPorts {ports : Nat → Prop} (linked : state.Linked before)
    (ledger : before.Ledger) (loses : before.LosesPorts ports after)
    (spared : state.servicePubIpInfo ≠ none → ∀ lb ∈ state.loadbalancer, ¬ports lb.portId) :
    state.Linked after := by
  intro info found
  rcases linked info found with ⟨lb, given, associated⟩
  refine ⟨lb, given, ?_⟩
  apply (loses.associated_iff lb.portId info.ipId).mpr
  constructor
  · exact associated
  · intro goes
    rcases loses.lost lb.portId goes with gone | lost
    · exact ledger.present lb.portId info.ipId associated gone
    · apply spared _ lb given lost
      rw [found]
      rintro ⟨⟩

end LbaasState

/-- What holds between attempts, where `read` is the state that the next one may start with
again.  Nothing is known once the endpoints are gone. -/
structure Cloud.Consistent (read : LbaasState Address) (cloud : Cloud Address L) : Prop where
  ledger : cloud.Ledger
  linked : ∀ known, cloud.annotation = some known → (known.getD {}).Linked cloud
  inherits : ∀ known, cloud.annotation = some known → read.Inherits (known.getD {})

/-- What holds during an attempt, of the state that it has come to. -/
structure Ongoing (read state : LbaasState Address) (cloud : Cloud Address L) : Prop where
  consistent : cloud.Consistent read
  linked : cloud.annotation ≠ none → state.Linked cloud
  inherits : cloud.annotation ≠ none → read.Inherits state

section

variable {read state : LbaasState Address} {before after : Cloud Address L}

theorem Cloud.Consistent.extends (consistent : before.Consistent read)
    (grows : before.Extends after) : after.Consistent read := by
  constructor
  · exact grows.ledger
  · intro known annotated
    rw [grows.annotation] at annotated
    exact (consistent.linked known annotated).kept grows.associated
  · intro known annotated
    rw [grows.annotation] at annotated
    exact consistent.inherits known annotated

theorem Ongoing.extends (ongoing : Ongoing read state before) (grows : before.Extends after) :
    Ongoing read state after := by
  constructor
  · exact ongoing.consistent.extends grows
  · intro there
    rw [grows.annotation] at there
    exact (ongoing.linked there).kept grows.associated
  · intro there
    rw [grows.annotation] at there
    exact ongoing.inherits there

/-- Ports may go that are not those of a state with a public address. -/
theorem Cloud.Consistent.losesPorts {ports : Nat → Prop} (consistent : before.Consistent read)
    (loses : before.LosesPorts ports after)
    (spared : ∀ known, before.annotation = some known →
      (known.getD {}).servicePubIpInfo ≠ none →
      ∀ own ∈ (known.getD {}).loadbalancer, ¬ports own.portId) :
    after.Consistent read := by
  constructor
  · exact loses.ledger consistent.ledger
  · intro known annotated
    rw [loses.annotation] at annotated
    exact (consistent.linked known annotated).losesPorts consistent.ledger loses
      (spared known annotated)
  · intro known annotated
    rw [loses.annotation] at annotated
    exact consistent.inherits known annotated

/-- Without endpoints only the floating IPs count. -/
theorem Cloud.Consistent.of_deleted (ledger : before.Ledger) (deleted : before.annotation = none) :
    before.Consistent read := by
  constructor
  · exact ledger
  · intro known annotated
    rw [deleted] at annotated
    cases annotated
  · intro known annotated
    rw [deleted] at annotated
    cases annotated

theorem Ongoing.of_deleted (ledger : before.Ledger) (deleted : before.annotation = none) :
    Ongoing read state before :=
  ⟨.of_deleted ledger deleted, fun there => absurd deleted there, fun there => absurd deleted there⟩

theorem Ongoing.same {second : LbaasState Address} (ongoing : Ongoing read state before)
    (same : state.SameBalancer second) (balancers : L) :
    Ongoing read second { before with balancers } := by
  have ledger := ongoing.consistent.ledger
  constructor
  · exact ⟨⟨ledger.ids, ledger.noted, ledger.single, ledger.present⟩,
      ongoing.consistent.linked, ongoing.consistent.inherits⟩
  · intro there
    exact (ongoing.linked there).same same
  · intro there public_
    exact (ongoing.inherits there public_).trans same

end

/-! ## One attempt -/

/-- No load balancer is found in `ERROR` and made anew, so that its port goes. -/
def Deployment.Steady [DecidableEq Address] (deployment : Deployment Address L) : Prop :=
  ∀ name spec ip (before : Cloud Address L), before.Ledger →
    before.LosesPorts (fun _ => False)
      (exec (deployment.drvLbaas.ensureLoadbalancer name spec ip) before).2

/-- An attempt that starts with `read` leaves the load balancer of a state with a public address
alone: it is not the one that is released, and where one is ensured none is made anew. -/
def Deployment.Spares [DecidableEq Address] (deployment : Deployment Address L)
    (spec : ServiceSpec Address) (read known : LbaasState Address) : Prop :=
  known.servicePubIpInfo ≠ none →
    (∀ lb ∈ read.loadbalancer, some lb.ip ≠ spec.ip →
      ∀ own ∈ known.loadbalancer, lb.portId ≠ own.portId) ∧
    (spec.ip ≠ none → (∃ lb ∈ read.loadbalancer, some lb.ip = spec.ip) ∨ deployment.Steady)

/-- What holds after the load balancer was looked at. -/
def Proceeding (endings : Call → Ending) (read state : LbaasState Address)
    (cloud : Cloud Address L) : Prop :=
  Ongoing read state cloud ∧ cloud.endings = endings

/-- The attempt begins, or is not yet at the load balancer. -/
structure Beginning [DecidableEq Address] (deployment : Deployment Address L)
    (endings : Call → Ending) (spec : ServiceSpec Address) (read : LbaasState Address)
    (cloud : Cloud Address L) : Prop where
  ongoing : Ongoing read read cloud
  spares : ∀ known, cloud.annotation = some known →
    deployment.Spares spec read (known.getD {})
  endings : cloud.endings = endings

section

variable [DecidableEq Address] {deployment : Deployment Address L}
  {circumstances : Circumstances} {endings : Call → Ending} {spec : ServiceSpec Address}
  {read state : LbaasState Address} {before after : Cloud Address L}

/-- No public address is taken off while the endpoints are there. -/
theorem disassociate_leads_private (ledger : before.Ledger)
    (private_ : before.annotation ≠ none → state.servicePubIpInfo = none) :
    Leads (fun cloud => cloud = before) ((deployment.handler circumstances).disassociate state)
      (fun _ after => before.InOrder after ∧ (before.annotation ≠ none → after = before))
      fun _ after => before.InOrder after ∧ before.annotation = none := by
  unfold LoadBalancerHandler.disassociate
  split
  · rename_i info found
    have deleted : before.annotation = none := by
      by_contra there
      rw [private_ there] at found
      cases found
    apply (disassociate_leads info.ipId ledger).mono
    · exact fun _ _ ordered => ⟨ordered, fun there => absurd deleted there⟩
    · exact fun _ _ ordered => ⟨ordered, deleted⟩
  · apply leads_pure
    rintro _ rfl
    exact ⟨⟨ledger, rfl, rfl⟩, fun _ => rfl⟩

/-- A load balancer with another address goes, but not that of a state with a public address. -/
theorem releaseReplaced_leads (apart : deployment.drvLbaas.Apart)
    (beginning : Beginning deployment endings spec read before)
    (same : read.SameBalancer state) :
    Leads (fun cloud => cloud = before)
      ((deployment.handler circumstances).releaseReplaced state spec)
      (fun result after => Ongoing read result.1 after ∧ before.InOrder after ∧
        (result.1.loadbalancer = none → ∀ lb ∈ state.loadbalancer, some lb.ip ≠ spec.ip))
      fun _ after => after.Consistent read := by
  have consistent := beginning.ongoing.consistent
  have ledger := consistent.ledger
  have start := beginning.ongoing.same same before.balancers
  unfold LoadBalancerHandler.releaseReplaced
  split
  · rename_i missing
    apply leads_pure
    rintro _ rfl
    refine ⟨start, ⟨ledger, rfl, rfl⟩, ?_⟩
    intro _ lb given
    rw [missing] at given
    cases given
  · rename_i lb given
    split
    · apply leads_pure
      rintro _ rfl
      refine ⟨start, ⟨ledger, rfl, rfl⟩, ?_⟩
      intro missing
      rw [given] at missing
      cases missing
    · rename_i replaced
      rcases same.exists_lb given with ⟨old, isOld, sameIp, samePort⟩
      have released : some old.ip ≠ spec.ip := by
        rw [sameIp]
        exact replaced
      -- the load balancer that goes is not that of the annotated state
      have spared : ∀ known, before.annotation = some known →
          (known.getD {}).servicePubIpInfo ≠ none →
          ∀ own ∈ (known.getD {}).loadbalancer, own.portId ≠ lb.portId := by
        intro known annotated public_ own isOwn
        have apart_ := (beginning.spares known annotated public_).1 old isOld released own isOwn
        rw [← samePort]
        exact apart_.symm
      have private_ : before.annotation ≠ none → state.servicePubIpInfo = none := by
        intro there
        rcases Option.ne_none_iff_exists'.mp there with ⟨known, annotated⟩
        rw [same.1]
        by_contra public_
        have kept := consistent.inherits known annotated public_
        rcases kept.symm.exists_lb isOld with ⟨own, isOwn, _, ownPort⟩
        apply spared known annotated _ own isOwn (ownPort.trans samePort)
        rw [kept.1]
        exact public_
      apply (disassociate_leads_private ledger private_).bind_of
      · rintro _ after ⟨ordered, deleted⟩
        exact .of_deleted ordered.ledger (ordered.annotation.trans deleted)
      · intro _
        rintro middle ⟨ordered, untouched_⟩
        have ends (after : Cloud Address L) (loses : middle.LosesPorts (· = lb.portId) after) :
            after.Consistent read := by
          cases annotated : before.annotation with
          | none =>
              apply Cloud.Consistent.of_deleted (loses.ledger ordered.ledger)
              rw [loses.annotation, ordered.annotation, annotated]
          | some known =>
              have isBefore := untouched_ (by rw [annotated]; rintro ⟨⟩)
              subst isBefore
              exact consistent.losesPorts loses spared
        apply (apart.releaseLoadbalancer_leads ordered.ledger lb).bind_of _ _ middle rfl
        · exact fun _ after loses => ends after loses
        · intro _
          apply leads_pure
          rintro after ⟨loses, _⟩
          refine ⟨?_, ordered.trans (loses.inOrder ordered.ledger), ?_⟩
          · have there (present : after.annotation ≠ none) : before.annotation ≠ none := by
              rw [loses.annotation, ordered.annotation] at present
              exact present
            constructor
            · exact ends after loses
            · intro present
              exact LbaasState.linked_of_none (private_ (there present))
            · intro present
              apply LbaasState.Inherits.of_none
              rw [← same.1]
              exact private_ (there present)
          · intro _ other there
            rw [given] at there
            cases there
            exact replaced

/-- A load balancer is ensured where there is none. -/
theorem ensureLoadbalancer_leads_ongoing (apart : deployment.drvLbaas.Apart)
    (endpoints : Endpoints Address) (changed : Bool) {released : LbaasState Address}
    {middle : Cloud Address L} (beginning : Beginning deployment endings spec read before)
    (same : read.SameBalancer state) (ordered : before.InOrder middle)
    (ongoing : Ongoing read released middle)
    (missing : released.loadbalancer = none → ∀ lb ∈ state.loadbalancer, some lb.ip ≠ spec.ip) :
    Leads (fun cloud => cloud = middle)
      ((deployment.handler circumstances).ensureLoadbalancer endpoints released spec changed)
      (fun result => Proceeding endings read result.1)
      fun _ => Cloud.Consistent read := by
  have consistent := ongoing.consistent
  have sameEndings : middle.endings = endings := ordered.endings.trans beginning.endings
  unfold LoadBalancerHandler.ensureLoadbalancer
  split
  · apply leads_pure
    rintro _ rfl
    exact ⟨ongoing, sameEndings⟩
  · rename_i ip none_ isIp
    have loses := apart.ensureLosesPorts endpoints.serviceName spec ip middle consistent.ledger
    have steady (known : Option (LbaasState Address)) (annotated : middle.annotation = some known)
        (public_ : (known.getD {}).servicePubIpInfo ≠ none) : deployment.Steady := by
      rw [ordered.annotation] at annotated
      have addressed : spec.ip ≠ none := by
        rw [isIp]
        rintro ⟨⟩
      rcases (beginning.spares known annotated public_).2 addressed with ⟨old, isOld, kept⟩ | steady
      · rcases same.symm.exists_lb isOld with ⟨lb, given, sameIp, _⟩
        rw [← sameIp] at kept
        exact absurd kept (missing none_ lb given)
      · exact steady
    have ends : (exec (deployment.drvLbaas.ensureLoadbalancer endpoints.serviceName spec ip)
        middle).2.Consistent read := by
      by_cases public_ : ∃ known, middle.annotation = some known ∧
          (known.getD {}).servicePubIpInfo ≠ none
      · rcases public_ with ⟨known, annotated, public_⟩
        apply consistent.losesPorts (steady known annotated public_ _ spec ip middle
          consistent.ledger)
        exact fun _ _ _ _ _ => not_false
      · apply consistent.losesPorts loses
        exact fun known annotated isPublic => absurd ⟨known, annotated, isPublic⟩ public_
    have ensures : Leads (fun cloud => cloud = middle)
        (deployment.drvLbaas.ensureLoadbalancer endpoints.serviceName spec ip)
        (fun _ after => after.Consistent read ∧ middle.InOrder after)
        fun _ => Cloud.Consistent read := by
      rintro _ rfl
      have ordered_ := loses.inOrder consistent.ledger
      constructor
      · intro lb after ran
        rw [ran] at ends ordered_
        exact ⟨ends, ordered_⟩
      · intro exception after ran
        rw [ran] at ends
        exact ends
    apply ensures.bind
    intro lb
    apply leads_pure
    rintro after ⟨consistentAfter, orderedAfter⟩
    have private_ (there : after.annotation ≠ none) : released.servicePubIpInfo = none := by
      rw [orderedAfter.annotation] at there
      exact (ongoing.linked there).info_eq_none none_
    constructor
    · constructor
      · exact consistentAfter
      · exact fun there => LbaasState.linked_of_none (private_ there)
      · intro there public_
        have inherits := ongoing.inherits (orderedAfter.annotation ▸ there) public_
        rw [← inherits.1, private_ there] at public_
        exact absurd rfl public_
    · exact orderedAfter.endings.trans sameEndings
  · rename_i info none_ _ found
    have deleted : middle.annotation = none := by
      by_contra there
      rw [(ongoing.linked there).info_eq_none none_] at found
      cases found
    have ends (after : Cloud Address L)
        (reached : after = middle ∨ after = middle.without info.ipId) :
        Ongoing read { released with servicePubIpInfo := none } after ∧
          after.endings = endings := by
      rcases reached with rfl | rfl
      · exact ⟨.of_deleted consistent.ledger deleted, sameEndings⟩
      · exact ⟨.of_deleted (consistent.ledger.without info.ipId) deleted, sameEndings⟩
    apply (releasePubIp_leads info middle).bind_of
    · exact fun _ after reached => (ends after reached).1.consistent
    · intro _
      exact leads_pure ends
  · apply leads_pure
    rintro _ rfl
    exact ⟨ongoing, sameEndings⟩

theorem syncLbaasLoadbalancer_leads_ongoing (apart : deployment.drvLbaas.Apart)
    (endpoints : Endpoints Address) (same : read.SameBalancer state) :
    Leads (Beginning deployment endings spec read)
      ((deployment.handler circumstances).syncLbaasLoadbalancer endpoints state spec)
      (fun result => Proceeding endings read result.1)
      fun _ => Cloud.Consistent read := by
  intro before beginning
  unfold LoadBalancerHandler.syncLbaasLoadbalancer
  apply ((releaseReplaced_leads apart beginning same).bind fun released => _) before rfl
  rintro released middle ⟨ongoing, ordered, missing⟩
  exact ensureLoadbalancer_leads_ongoing apart endpoints released.2 beginning same ordered
    ongoing missing middle rfl

/-- A public address that is acquired is associated before it is recorded. -/
theorem servePubIp_leads_ongoing :
    Leads (Proceeding endings read state)
      ((deployment.handler circumstances).servePubIp state spec)
      (Proceeding endings read)
      fun _ => Cloud.Consistent read := by
  unfold LoadBalancerHandler.servePubIp
  split
  · exact leads_pure fun _ reached => reached
  · exact leads_throw fun _ reached => reached.1.consistent
  · rename_i lb private_ given
    rintro before ⟨ongoing, sameEndings⟩
    have ledger := ongoing.consistent.ledger
    apply (acquireServicePubIpInfo_leads_free ledger deployment.externalSvcNet
      deployment.addressOf spec lb.portId).bind_of _ _ before rfl
    · exact fun _ after grows => ongoing.consistent.extends grows
    · intro answer
      cases answer with
      | none =>
          apply leads_pure
          rintro after ⟨grows, _⟩
          exact ⟨ongoing.extends grows, grows.endings.trans sameEndings⟩
      | some info =>
          rintro middle ⟨grows, free⟩
          have later := ongoing.extends grows
          apply (associate_leads_extends grows.ledger (free info rfl)).bind_of _ _ middle rfl
          · exact fun _ after further => later.consistent.extends further
          · intro _
            apply (updateLbStatus_leads info.ipAddr).bind_of
            · exact fun _ after further => later.consistent.extends further.1
            · intro _
              apply leads_pure
              rintro after ⟨further, associated⟩
              constructor
              · constructor
                · exact later.consistent.extends further
                · rintro there _ ⟨⟩
                  exact ⟨lb, given, associated⟩
                · intro there public_
                  have same := later.inherits (further.annotation ▸ there) public_
                  rw [← same.1, private_] at public_
                  exact absurd rfl public_
              · exact (further.endings.trans grows.endings).trans sameEndings

theorem storeState_leads_consistent (apart : deployment.drvLbaas.Apart)
    (truthful : (endings .setLbaasState).exception? ≠ some .k8sResourceNotFound) :
    Leads (Proceeding endings read state)
      ((deployment.handler circumstances).storeState state)
      (fun _ => Cloud.Consistent read) fun _ => Cloud.Consistent read := by
  rintro before ⟨ongoing, sameEndings⟩
  have ledger := ongoing.consistent.ledger
  rw [← sameEndings] at truthful
  have stored (there : before.annotation ≠ none) : (before.annotate state).Consistent read := by
    constructor
    · exact ⟨ledger.ids, ledger.noted, ledger.single, ledger.present⟩
    · rintro _ ⟨⟩
      exact ongoing.linked there
    · rintro _ ⟨⟩
      exact ongoing.inherits there
  apply storeState_leads truthful stored ongoing.consistent stored _ before rfl
  intro deleted
  apply onDeleted_leads apart ledger ongoing.consistent
  · intro lb middle _ loses
    exact .of_deleted (loses.ledger ledger) (loses.annotation.trans deleted)
  · intro lb info middle _ _ loses _
    exact .of_deleted ((loses.ledger ledger).without info.ipId) (loses.annotation.trans deleted)

/-- An attempt that spares the load balancers of states with a public address. -/
theorem onPresent_leads_consistent (apart : deployment.drvLbaas.Apart)
    (endpoints : Endpoints Address)
    (truthful : (endings .setLbaasState).exception? ≠ some .k8sResourceNotFound)
    (isRead : endpoints.lbaasState.getD {} = read)
    (ongoing : Ongoing read read before) (sameEndings : before.endings = endings)
    (spares : (deployment.handler circumstances).shouldIgnore endpoints = .ok false →
      ∀ spec ∈ endpoints.lbaasSpec, ∀ known, before.annotation = some known →
        deployment.Spares spec read (known.getD {})) :
    Leads (fun cloud => cloud = before) ((deployment.handler circumstances).onPresent endpoints)
      (fun _ => Cloud.Consistent read) fun _ => Cloud.Consistent read := by
  unfold LoadBalancerHandler.onPresent
  apply Leads.settle_bind
  · rintro _ _ _ rfl
    exact ongoing.consistent
  · intro ignored isIgnored
    split
    · rename_i spec given
      have beginning : Beginning deployment endings spec read before :=
        ⟨ongoing, spares isIgnored spec given, sameEndings⟩
      rw [isRead]
      have synced : Leads (Beginning deployment endings spec read)
          ((deployment.handler circumstances).syncLbaasMembers endpoints read spec)
          (fun result => Proceeding endings read result.1)
          fun _ => Cloud.Consistent read := by
        apply syncLbaasMembers_leads apart
        · rintro cloud balancers ⟨ongoing, spares, same⟩
          exact ⟨ongoing.same ⟨rfl, rfl⟩ balancers, spares, same⟩
        · rintro first second cloud balancers same ⟨ongoing, sameToo⟩
          exact ⟨ongoing.same same balancers, sameToo⟩
        · exact fun _ beginning => beginning.ongoing.consistent
        · exact fun _ _ reached => reached.1.consistent
        · intro state same
          exact syncLbaasLoadbalancer_leads_ongoing apart endpoints same
      rintro cloud rfl
      apply (synced.bind fun synced => _) cloud beginning
      intro synced
      split
      · apply servePubIp_leads_ongoing.bind
        intro state
        exact storeState_leads_consistent apart truthful
      · exact leads_pure fun _ reached => reached.1.consistent
    · apply leads_pure
      rintro _ rfl
      exact ongoing.consistent

end

/-! ## Runs -/

/-- No attempt is made yet, and a public address that is recorded is associated. -/
structure Site.Untried (site : Site Address L) : Prop where
  ledger : site.cloud.Ledger
  linked : ∀ known, site.cloud.annotation = some known → (known.getD {}).Linked site.cloud
  idle : site.pending = none

/-- The attempt spares the load balancer of an annotated state with a public address. -/
def Sparing [DecidableEq Address] (deployment : Deployment Address L) (site : Site Address L)
    (occasion : Occasion Address) : Prop :=
  ∀ endpoints circumstances, site.attempts occasion = some (endpoints, circumstances) →
    (deployment.handler circumstances).shouldIgnore endpoints = .ok false →
    ∀ spec ∈ endpoints.lbaasSpec, ∀ known, site.cloud.annotation = some (some known) →
      deployment.Spares spec (endpoints.lbaasState.getD {}) known

/-- What holds between attempts. -/
def Site.Consistent (site : Site Address L) : Prop :=
  site.cloud.Consistent ((site.pending.bind (·.lbaasState)).getD {})

theorem Cloud.Consistent.reread {cloud : Cloud Address L} {read other : LbaasState Address}
    (consistent : cloud.Consistent read)
    (inherits : ∀ known, cloud.annotation = some known → other.Inherits (known.getD {})) :
    cloud.Consistent other :=
  ⟨consistent.ledger, consistent.linked, inherits⟩

theorem Site.Untried.consistent {site : Site Address L} (untried : site.Untried) :
    site.Consistent := by
  unfold Site.Consistent
  rw [untried.idle]
  constructor
  · exact untried.ledger
  · exact untried.linked
  · intro known _
    exact LbaasState.Inherits.of_none rfl

section

variable [DecidableEq Address] {deployment : Deployment Address L}

theorem attempt_consistent (apart : deployment.drvLbaas.Apart) {cloud : Cloud Address L}
    {endpoints : Endpoints Address} {circumstances : Circumstances}
    (consistent : cloud.Consistent (endpoints.lbaasState.getD {}))
    (truthful : (circumstances.endings .setLbaasState).exception? ≠ some .k8sResourceNotFound)
    (spares : (deployment.handler circumstances).shouldIgnore endpoints = .ok false →
      ∀ spec ∈ endpoints.lbaasSpec, ∀ known, cloud.annotation = some known →
        deployment.Spares spec (endpoints.lbaasState.getD {}) (known.getD {})) :
    (deployment.attempt endpoints circumstances cloud).Consistent := by
  have ledger := consistent.ledger
  have begins : Ongoing (endpoints.lbaasState.getD {}) (endpoints.lbaasState.getD {})
      { cloud with stored := none, endings := circumstances.endings } := by
    constructor
    · exact ⟨⟨ledger.ids, ledger.noted, ledger.single, ledger.present⟩, consistent.linked,
        consistent.inherits⟩
    · intro there
      rcases Option.ne_none_iff_exists'.mp there with ⟨known, annotated⟩
      intro info found
      have same := consistent.inherits known annotated (by rw [found]; rintro ⟨⟩)
      exact (consistent.linked known annotated).same same.symm info found
    · exact fun _ _ => ⟨rfl, rfl⟩
  have leads := onPresent_leads_consistent apart endpoints truthful rfl begins rfl spares _ rfl
  unfold Deployment.attempt Site.Consistent
  dsimp only
  rcases ran : exec ((deployment.handler circumstances).onPresent endpoints)
    { cloud with stored := none, endings := circumstances.endings } with ⟨outcome, after⟩
  cases outcome with
  | ok value =>
      apply (leads.1 value after ran).reread
      exact fun _ _ => LbaasState.Inherits.of_none rfl
  | error exception => exact leads.2 exception after ran

theorem consistent_preserved (apart : deployment.drvLbaas.Apart) :
    PreservedBy deployment.step (Sparing deployment) Site.Consistent := by
  intro site occasion after sparing consistent taken
  rcases Deployment.step_cases taken with
    ⟨endpoints, circumstances, tries, source, truthful, rfl⟩ | rfl
  · have rereads : site.cloud.Consistent (endpoints.lbaasState.getD {}) := by
      rcases source with shown | pending
      · apply consistent.reread
        intro known annotated _
        rw [shown] at annotated
        cases annotated
        exact ⟨rfl, rfl⟩
      · unfold Site.Consistent at consistent
        rw [pending] at consistent
        exact consistent
    apply attempt_consistent apart rereads truthful
    intro goesOn spec given known annotated
    cases known with
    | none => exact fun public_ => absurd rfl public_
    | some state => exact sparing endpoints circumstances tries goesOn spec given state annotated
  · have ledger := consistent.ledger
    exact Cloud.Consistent.of_deleted
      ⟨ledger.ids, ledger.noted, ledger.single, ledger.present⟩ rfl

end

namespace SoleBalancer

/-- The state that the first attempt stores. -/
def stored : Option (LbaasState String) :=
  (deployment.attempt (endpoints "10.0.0.10" none) (circumstances fun _ => .served)
    start.cloud).cloud.stored

/-- The load balancer of the service is made, and then its address changes. -/
def readdressed (ip : String) : List (Occasion String) :=
  [.event (endpoints "10.0.0.10" none) (circumstances fun _ => .served),
    .event (endpoints ip stored) (circumstances fun _ => .served)]

theorem start_untried : start.Untried := by
  constructor
  · exact (start_initial none).ledger
  · rintro known ⟨⟩
    exact LbaasState.linked_of_none rfl
  · rfl

/-- The address of the service stays, so its load balancer is spared. -/
theorem guardedRun_readdressed : ∃ final,
    GuardedRun deployment.step (Sparing deployment) start (readdressed "10.0.0.10") final ∧
    final.cloud.annotation = some stored ∧ stored ≠ none := by
  have first : deployment.step start (.event (endpoints "10.0.0.10" none)
      (circumstances fun _ => .served)) = some (deployment.attempt (endpoints "10.0.0.10" none)
        (circumstances fun _ => .served) start.cloud) := by
    unfold Deployment.step
    exact if_pos ⟨rfl, by decide⟩
  have annotated : (deployment.attempt (endpoints "10.0.0.10" none)
      (circumstances fun _ => .served) start.cloud).cloud.annotation = some stored := by
    decide +kernel
  have second : deployment.step (deployment.attempt (endpoints "10.0.0.10" none)
      (circumstances fun _ => .served) start.cloud)
      (.event (endpoints "10.0.0.10" stored) (circumstances fun _ => .served)) =
        some (deployment.attempt (endpoints "10.0.0.10" stored) (circumstances fun _ => .served)
          (deployment.attempt (endpoints "10.0.0.10" none)
            (circumstances fun _ => .served) start.cloud).cloud) := by
    unfold Deployment.step
    exact if_pos ⟨annotated, by decide⟩
  have addressed : ∃ lb ∈ (stored.getD {}).loadbalancer, some lb.ip = some "10.0.0.10" := by
    have ends : (stored.getD {}).loadbalancer.any (·.ip = "10.0.0.10") = true := by
      decide +kernel
    rcases given : (stored.getD {}).loadbalancer with _ | lb
    · rw [given] at ends
      cases ends
    · rw [given, Option.any_some] at ends
      exact ⟨lb, rfl, congrArg some (of_decide_eq_true ends)⟩
  refine ⟨_, .cons ?_ first (.cons ?_ second (.nil _)), ?_, ?_⟩
  · rintro _ _ _ _ _ _ known ⟨⟩
  · rintro _ _ ⟨⟩ _ _ ⟨⟩ known shown _
    rw [annotated] at shown
    rcases addressed with ⟨lb, isLb, same⟩
    constructor
    · intro other isOther different
      rw [Option.mem_def] at isLb isOther
      change (stored.getD {}).loadbalancer = some other at isOther
      rw [isLb] at isOther
      cases isOther
      exact absurd same different
    · exact fun _ => .inl ⟨lb, isLb, same⟩
  · decide +kernel
  · decide +kernel

end SoleBalancer

end KuryrKubernetes.Lbaas

import KuryrKubernetes.Lbaas.FloatingIps
import KuryrKubernetes.Transition.Run

/-!
# Attempts at an event

`on_present` is called for an event of the endpoints and, where it raises, once more for the
same event.  The driver of load balancers works on its own part of the cloud; with a load
balancer its port goes, and floating IPs lose a port that goes.
-/

namespace KuryrKubernetes.Lbaas

open KuryrKubernetes.Data
open KuryrKubernetes.Effect
open KuryrKubernetes.Transition

variable {Address L : Type}

/-! ## The driver of load balancers -/

/-- Only what is behind the driver of load balancers changes. -/
def untouched : Frame (Cloud Address L) where
  rel before after := ∃ balancers, after = { before with balancers }
  refl cloud := ⟨cloud.balancers, rfl⟩
  trans := by
    rintro _ _ _ ⟨_, rfl⟩ ⟨balancers, rfl⟩
    exact ⟨balancers, rfl⟩

/-- The floating IP without a port that is gone. -/
def FloatingIp.detach (gone : List Nat) (fip : FloatingIp Address) : FloatingIp Address :=
  if fip.portId.any gone.contains then { fip with portId := none } else fip

/-- Some ports go, with the floating IPs that were associated with them. -/
structure Cloud.LosesPorts (before : Cloud Address L) (ports : Nat → Prop)
    (after : Cloud Address L) : Prop where
  gone : ∀ port ∈ before.gone, port ∈ after.gone
  lost : ∀ port ∈ after.gone, port ∈ before.gone ∨ ports port
  fips : ∀ id, after.fips.get? id = (before.fips.get? id).map (FloatingIp.detach after.gone)
  nextFip : after.nextFip = before.nextFip
  allocated : after.allocated = before.allocated
  annotation : after.annotation = before.annotation
  stored : after.stored = before.stored
  endings : after.endings = before.endings

/-- The driver leaves the floating IPs and the endpoints alone.  The load balancer that it
ensures has a port, and the port of a load balancer that it released is gone. -/
structure LbaasDriver.Apart (drv : LbaasDriver Address (Cloud Address L)) : Prop where
  ensureLoadbalancer : ∀ name spec ip, Leads Cloud.Ledger (drv.ensureLoadbalancer name spec ip)
    (fun lb after => lb.ip = ip ∧ lb.portId ∉ after.gone) fun _ _ => True
  ensureLosesPorts : ∀ name spec ip (before : Cloud Address L), before.Ledger →
    before.LosesPorts (fun _ => True) (exec (drv.ensureLoadbalancer name spec ip) before).2
  releaseLoadbalancer : ∀ lb, Leads Cloud.Ledger (drv.releaseLoadbalancer lb)
    (fun _ after => lb.portId ∈ after.gone) fun _ _ => True
  releaseLosesPort : ∀ lb (before : Cloud Address L), before.Ledger →
    before.LosesPorts (· = lb.portId) (exec (drv.releaseLoadbalancer lb) before).2
  ensureListener : ∀ lb protocol port type,
    untouched.Keeps (drv.ensureListener lb protocol port type)
  releaseListener : ∀ lb listener, untouched.Keeps (drv.releaseListener lb listener)
  ensurePool : ∀ lb listener, untouched.Keeps (drv.ensurePool lb listener)
  releasePool : ∀ lb pool, untouched.Keeps (drv.releasePool lb pool)
  ensureMember : ∀ lb request, untouched.Keeps (drv.ensureMember lb request)
  releaseMember : ∀ lb member, untouched.Keeps (drv.releaseMember lb member)

theorem FloatingIp.portId_detach_iff (gone : List Nat) (fip : FloatingIp Address)
    (portId : Nat) :
    (fip.detach gone).portId = some portId ↔ fip.portId = some portId ∧ portId ∉ gone := by
  unfold FloatingIp.detach
  split
  · rename_i goes
    constructor
    · rintro ⟨⟩
    · rintro ⟨there, stays⟩
      rw [there] at goes
      exact absurd (by simpa using goes) stays
  · rename_i stays
    constructor
    · intro there
      rw [there] at stays
      exact ⟨there, by simpa using stays⟩
    · exact fun there => there.1

namespace Cloud.LosesPorts

variable {before after : Cloud Address L} {ports : Nat → Prop}

/-- The floating IPs whose port stays keep it. -/
theorem associated_iff (loses : before.LosesPorts ports after) (portId id : Nat) :
    after.Associated portId id ↔ before.Associated portId id ∧ portId ∉ after.gone := by
  unfold Cloud.Associated
  rw [loses.fips id]
  cases found : before.fips.get? id with
  | none =>
      constructor
      · rintro ⟨_, ⟨⟩, _⟩
      · rintro ⟨⟨_, ⟨⟩, _⟩, _⟩
  | some fip =>
      constructor
      · rintro ⟨left, same, there⟩
        cases same
        rcases (fip.portId_detach_iff after.gone portId).mp there with ⟨had, stays⟩
        exact ⟨⟨fip, rfl, had⟩, stays⟩
      · rintro ⟨⟨_, same, had⟩, stays⟩
        cases same
        exact ⟨_, rfl, (fip.portId_detach_iff after.gone portId).mpr ⟨had, stays⟩⟩

theorem ledger (loses : before.LosesPorts ports after) (ledger : before.Ledger) :
    after.Ledger := by
  constructor
  · intro id listed
    rw [Dict.mem_iff_isSome, loses.fips id, Option.isSome_map, ← Dict.mem_iff_isSome] at listed
    rw [loses.nextFip]
    exact ledger.ids id listed
  · intro entry noted
    rw [loses.allocated] at noted
    rw [loses.nextFip]
    exact ledger.noted entry noted
  · intro portId id other first second
    exact ledger.single portId id other ((loses.associated_iff portId id).mp first).1
      ((loses.associated_iff portId other).mp second).1
  · intro portId id associated
    exact ((loses.associated_iff portId id).mp associated).2

end Cloud.LosesPorts

/-- Where only the load balancers change, no port goes. -/
theorem Cloud.Ledger.losesPorts {cloud : Cloud Address L} (ledger : cloud.Ledger)
    (ports : Nat → Prop) (balancers : L) : cloud.LosesPorts ports { cloud with balancers } := by
  constructor
  · exact fun _ there => there
  · exact fun _ there => .inl there
  · intro id
    change cloud.fips.get? id = _
    cases found : cloud.fips.get? id with
    | none => rfl
    | some fip =>
        rw [Option.map_some, FloatingIp.detach, if_neg]
        intro goes
        cases there : fip.portId with
        | none =>
            rw [there] at goes
            cases goes
        | some portId =>
            rw [there] at goes
            apply ledger.present portId id ⟨fip, found, there⟩
            simpa using goes
  · rfl
  · rfl
  · rfl
  · rfl
  · rfl

namespace LbaasDriver.Apart

variable {drv : LbaasDriver Address (Cloud Address L)} (apart : drv.Apart)
  {before : Cloud Address L} (ledger : before.Ledger)
include apart ledger

theorem ensureLoadbalancer_leads (name : ServiceName) (spec : ServiceSpec Address)
    (ip : Address) : Leads (fun cloud => cloud = before) (drv.ensureLoadbalancer name spec ip)
      (fun lb after => before.LosesPorts (fun _ => True) after ∧ lb.ip = ip ∧
        lb.portId ∉ after.gone)
      fun _ after => before.LosesPorts (fun _ => True) after := by
  rintro cloud rfl
  have loses := apart.ensureLosesPorts name spec ip cloud ledger
  constructor
  · intro lb after ran
    rw [ran] at loses
    exact ⟨loses, (apart.ensureLoadbalancer name spec ip cloud ledger).1 lb after ran⟩
  · intro exception after ran
    rw [ran] at loses
    exact loses

theorem releaseLoadbalancer_leads (lb : Loadbalancer Address) :
    Leads (fun cloud => cloud = before) (drv.releaseLoadbalancer lb)
      (fun _ after => before.LosesPorts (· = lb.portId) after ∧ lb.portId ∈ after.gone)
      fun _ after => before.LosesPorts (· = lb.portId) after := by
  rintro cloud rfl
  have loses := apart.releaseLosesPort lb cloud ledger
  constructor
  · intro value after ran
    rw [ran] at loses
    exact ⟨loses, (apart.releaseLoadbalancer lb cloud ledger).1 value after ran⟩
  · intro exception after ran
    rw [ran] at loses
    exact loses

end LbaasDriver.Apart

/-! ## Attempts -/

/-- What stays the same while the controller runs. -/
structure Deployment (Address L : Type) where
  format : AddressFormat Address
  drvLbaas : LbaasDriver Address (Cloud Address L)
  externalSvcNet : Bool := true
  addressOf : Nat → Address

/-- What is answered during an attempt, and how its calls end. -/
structure Circumstances where
  memberMode : MemberMode := .l3
  securityGroups : Except PyException (List String) := .ok []
  servicePorts : Except PyException (List PortSpec)
  endings : Call → Ending := fun _ => .served

/-- The endpoints object and the cloud, and the event that was not handled to its end. -/
structure Site (Address L : Type) where
  cloud : Cloud Address L
  pending : Option (Endpoints Address) := none

/-- What happens to the endpoints. -/
inductive Occasion (Address : Type) where
  | event (endpoints : Endpoints Address) (circumstances : Circumstances)
  | retry (circumstances : Circumstances)
  | deleted

namespace Deployment

variable [DecidableEq Address] (deployment : Deployment Address L)

/-- The handler during an attempt. -/
def handler (circumstances : Circumstances) :
    LoadBalancerHandler Address (Cloud Address L) where
  format := deployment.format
  drvLbaas := deployment.drvLbaas
  drvServicePubIp :=
    floatingIpServicePubIpDriver deployment.externalSvcNet deployment.addressOf
  api := cloudApi
  memberMode := circumstances.memberMode
  securityGroups := circumstances.securityGroups
  servicePorts := circumstances.servicePorts

/-- `on_present` is called once. -/
def attempt (endpoints : Endpoints Address) (circumstances : Circumstances)
    (cloud : Cloud Address L) : Site Address L :=
  let ran := exec ((deployment.handler circumstances).onPresent endpoints)
    { cloud with stored := none, endings := circumstances.endings }
  { cloud := ran.2
    pending :=
      match ran.1 with
      | .ok _ => none
      | .error _ => some endpoints }

/-- An event shows the annotation as it is.  The API server answers that it did not find the
endpoints only if they are not there. -/
def step : Step (Site Address L) (Occasion Address)
  | site, .event endpoints circumstances =>
      if site.cloud.annotation = some endpoints.lbaasState ∧
          (circumstances.endings .setLbaasState).exception? ≠ some .k8sResourceNotFound then
        some (deployment.attempt endpoints circumstances site.cloud)
      else
        none
  | site, .retry circumstances =>
      if (circumstances.endings .setLbaasState).exception? ≠ some .k8sResourceNotFound then
        site.pending.map fun endpoints => deployment.attempt endpoints circumstances site.cloud
      else
        none
  | site, .deleted => some { site with cloud := { site.cloud with annotation := none } }

end Deployment

/-- The endpoints that an attempt is for, and what is answered. -/
def Site.attempts (site : Site Address L) : Occasion Address →
    Option (Endpoints Address × Circumstances)
  | .event endpoints circumstances => some (endpoints, circumstances)
  | .retry circumstances => site.pending.map (·, circumstances)
  | .deleted => none

/-- A step is an attempt, for endpoints as they are or for the event before, or the endpoints
are deleted. -/
theorem Deployment.step_cases [DecidableEq Address] {deployment : Deployment Address L}
    {site after : Site Address L} {occasion : Occasion Address}
    (taken : deployment.step site occasion = some after) :
    (∃ endpoints circumstances, site.attempts occasion = some (endpoints, circumstances) ∧
      (site.cloud.annotation = some endpoints.lbaasState ∨ site.pending = some endpoints) ∧
      (circumstances.endings .setLbaasState).exception? ≠ some .k8sResourceNotFound ∧
      after = deployment.attempt endpoints circumstances site.cloud) ∨
    after = { site with cloud := { site.cloud with annotation := none } } := by
  cases occasion with
  | event endpoints circumstances =>
      left
      by_cases available : site.cloud.annotation = some endpoints.lbaasState ∧
          (circumstances.endings .setLbaasState).exception? ≠ some .k8sResourceNotFound
      · have ran : deployment.step site (.event endpoints circumstances) = _ := if_pos available
        rw [ran] at taken
        cases taken
        exact ⟨endpoints, circumstances, rfl, .inl available.1, available.2, rfl⟩
      · have idle : deployment.step site (.event endpoints circumstances) = none :=
          if_neg available
        rw [idle] at taken
        cases taken
  | retry circumstances =>
      left
      by_cases truthful :
          (circumstances.endings .setLbaasState).exception? ≠ some .k8sResourceNotFound
      · have ran : deployment.step site (.retry circumstances) = _ := if_pos truthful
        rw [ran] at taken
        rcases Option.map_eq_some_iff.mp taken with ⟨endpoints, pending, rfl⟩
        refine ⟨endpoints, circumstances, ?_, .inr pending, truthful, rfl⟩
        unfold Site.attempts
        rw [pending]
        rfl
      · have idle : deployment.step site (.retry circumstances) = none := if_neg truthful
        rw [idle] at taken
        cases taken
  | deleted =>
      right
      cases taken
      rfl

/-! ## The synchronization -/

/-- The load balancer has the address and the port that it had, and so has its public
address. -/
def LbaasState.SameBalancer (state after : LbaasState Address) : Prop :=
  after.servicePubIpInfo = state.servicePubIpInfo ∧
    (after.loadbalancer.map fun lb => (lb.ip, lb.portId)) =
      state.loadbalancer.map fun lb => (lb.ip, lb.portId)

theorem LbaasState.SameBalancer.trans {first second third : LbaasState Address}
    (left : first.SameBalancer second) (right : second.SameBalancer third) :
    first.SameBalancer third :=
  ⟨right.1.trans left.1, right.2.trans left.2⟩

theorem LbaasState.SameBalancer.exists_lb {first second : LbaasState Address}
    (same : first.SameBalancer second) {lb : Loadbalancer Address}
    (given : second.loadbalancer = some lb) :
    ∃ old, first.loadbalancer = some old ∧ old.ip = lb.ip ∧ old.portId = lb.portId := by
  have equal := same.2
  rw [given] at equal
  rcases Option.map_eq_some_iff.mp equal.symm with ⟨old, found, pair⟩
  rcases Prod.mk.inj pair with ⟨sameIp, samePort⟩
  exact ⟨old, found, sameIp, samePort⟩

theorem LbaasState.SameBalancer.symm {first second : LbaasState Address}
    (same : first.SameBalancer second) : second.SameBalancer first :=
  ⟨same.1.symm, same.2.symm⟩

section

variable {handler : LoadBalancerHandler Address (Cloud Address L)}
  (apart : handler.drvLbaas.Apart)
include apart

theorem removeUnusedMembers_ensures (endpoints : Endpoints Address)
    (state : LbaasState Address) (spec : ServiceSpec Address) :
    untouched.Ensures (handler.removeUnusedMembers endpoints state spec)
      fun result => state.SameBalancer result.1 := by
  unfold LoadBalancerHandler.removeUnusedMembers
  split
  · exact Frame.ensures_throw _
  · apply (Frame.keeps_settle _).before
    intro targets
    apply (Frame.Keeps.forM fun member _ => apart.releaseMember _ member).before
    intro _
    exact Frame.ensures_pure ⟨rfl, rfl⟩

theorem removeUnusedPools_ensures (state : LbaasState Address) (spec : ServiceSpec Address) :
    untouched.Ensures (handler.removeUnusedPools state spec)
      fun result => state.SameBalancer result.1 := by
  unfold LoadBalancerHandler.removeUnusedPools
  apply (Frame.Keeps.forM fun pool _ => apart.releasePool _ pool).before
  intro _
  exact Frame.ensures_pure ⟨rfl, rfl⟩

theorem removeUnusedListeners_ensures (state : LbaasState Address) :
    untouched.Ensures (handler.removeUnusedListeners state)
      fun result => state.SameBalancer result.1 := by
  unfold LoadBalancerHandler.removeUnusedListeners
  apply (Frame.Keeps.forM fun listener _ => apart.releaseListener _ listener).before
  intro _
  exact Frame.ensures_pure ⟨rfl, rfl⟩

theorem addListeners_ensures (spec : ServiceSpec Address) (ports : List PortSpec)
    (state : LbaasState Address) (changed : Bool) :
    untouched.Ensures (handler.addListeners spec ports state changed)
      fun result => state.SameBalancer result.1 := by
  induction ports generalizing state changed with
  | nil => exact Frame.ensures_pure ⟨rfl, rfl⟩
  | cons port rest ih =>
      unfold LoadBalancerHandler.addListeners
      split
      · exact Frame.ensures_throw _
      · split
        · exact ih state changed
        · split
          · exact ih state changed
          · apply (apart.ensureListener _ _ _ _).before
            intro answer
            split
            · exact ih _ true
            · exact ih state changed

theorem ensurePools_ensures (listeners : List Listener) (state : LbaasState Address) :
    untouched.Ensures (handler.ensurePools listeners state)
      fun result => state.SameBalancer result := by
  induction listeners generalizing state with
  | nil => exact Frame.ensures_pure ⟨rfl, rfl⟩
  | cons listener rest ih =>
      unfold LoadBalancerHandler.ensurePools
      apply (apart.ensurePool _ _).before
      intro pool
      exact ih _

theorem addNewPools_ensures (state : LbaasState Address) :
    untouched.Ensures (handler.addNewPools state)
      fun result => state.SameBalancer result.1 := by
  unfold LoadBalancerHandler.addNewPools
  apply (ensurePools_ensures apart _ state).bind
  intro result same
  exact Frame.ensures_pure same

theorem addMembers_ensures {lsnrById : Dict Nat Listener} {pools : Dict (Option String) Pool}
    {current : List (String × Nat × Nat)} (targets : List PodTarget)
    (state : LbaasState Address) (changed : Bool) :
    untouched.Ensures (handler.addMembers lsnrById pools current targets state changed)
      fun result => state.SameBalancer result.1 := by
  induction targets generalizing state changed with
  | nil => exact Frame.ensures_pure ⟨rfl, rfl⟩
  | cons target rest ih =>
      unfold LoadBalancerHandler.addMembers
      split
      · exact ih state changed
      · split
        · exact ih state changed
        · apply (Frame.keeps_settle _).before
          intro subnetId
          split
          · exact ih state changed
          · apply (Frame.keeps_settle _).before
            intro listenerPort
            apply (apart.ensureMember _ _).before
            intro member
            exact ih _ true

theorem addNewMembers_ensures (endpoints : Endpoints Address) (state : LbaasState Address)
    (spec : ServiceSpec Address) :
    untouched.Ensures (handler.addNewMembers endpoints state spec)
      fun result => state.SameBalancer result.1 := by
  have groups : untouched.Ensures (handler.syncLbaasSgs state)
      fun result => state.SameBalancer result := by
    unfold LoadBalancerHandler.syncLbaasSgs
    split
    · rename_i there
      apply Frame.ensures_pure
      constructor
      · rfl
      · rw [there]
        rfl
    · exact Frame.ensures_throw _
    · exact Frame.ensures_pure ⟨rfl, rfl⟩
    · exact Frame.ensures_throw _
  unfold LoadBalancerHandler.addNewMembers
  apply groups.bind
  intro grouped same
  apply (Frame.keeps_settle _).before
  intro pools
  apply (addMembers_ensures apart _ grouped false).mono
  exact fun result later => same.trans later

variable [DecidableEq Address] {pre : Cloud Address L → Prop}
  {after : LbaasState Address → Cloud Address L → Prop} {escape : Cloud Address L → Prop}

/-- The whole synchronization leads where its pass over the load balancer does. -/
theorem syncLbaasMembers_leads (endpoints : Endpoints Address) {state : LbaasState Address}
    {spec : ServiceSpec Address}
    (pres : ∀ cloud balancers, pre cloud → pre { cloud with balancers })
    (afters : ∀ first second cloud balancers, first.SameBalancer second → after first cloud →
      after second { cloud with balancers })
    (escapes : ∀ cloud, pre cloud → escape cloud)
    (escapesAfter : ∀ state cloud, after state cloud → escape cloud)
    (balanced : ∀ same, state.SameBalancer same →
      Leads pre (handler.syncLbaasLoadbalancer endpoints same spec) (fun result => after result.1)
        fun _ => escape) :
    Leads pre (handler.syncLbaasMembers endpoints state spec) (fun result => after result.1)
      fun _ => escape := by
  -- passes before and after the one over the load balancer
  have first {program : CloudM Address L (LbaasState Address × Bool)} {begun : LbaasState Address}
      (same : state.SameBalancer begun)
      (ensured : untouched.Ensures program fun result => begun.SameBalancer result.1) :
      Leads pre program (fun result cloud => state.SameBalancer result.1 ∧ pre cloud)
        fun _ => escape := by
    apply ensured.leads
    · rintro result before _ given ⟨balancers, rfl⟩ later
      exact ⟨same.trans later, pres before balancers given⟩
    · rintro _ before _ given ⟨balancers, rfl⟩
      exact escapes _ (pres before balancers given)
  have last {program : CloudM Address L (LbaasState Address × Bool)} {begun : LbaasState Address}
      (ensured : untouched.Ensures program fun result => begun.SameBalancer result.1) :
      Leads (after begun) program (fun result => after result.1) fun _ => escape := by
    apply ensured.leads
    · rintro result before _ given ⟨balancers, rfl⟩ later
      exact afters begun result.1 before balancers later given
    · rintro _ before _ given ⟨balancers, rfl⟩
      exact escapesAfter begun _ (afters begun begun before balancers ⟨rfl, rfl⟩ given)
  have listeners (begun : LbaasState Address) (same : state.SameBalancer begun) :
      Leads pre (handler.syncLbaasListeners endpoints begun spec) (fun result => after result.1)
        fun _ => escape := by
    unfold LoadBalancerHandler.syncLbaasListeners
    apply (first same (removeUnusedListeners_ensures apart begun)).bind
    intro removed
    apply Leads.of_fact
    intro sameRemoved
    apply (balanced removed.1 sameRemoved).bind
    intro synced
    apply (last (addListeners_ensures apart spec _ synced.1 false)).bind
    intro added
    exact leads_pure fun _ reached => reached
  have pools (begun : LbaasState Address) (same : state.SameBalancer begun) :
      Leads pre (handler.syncLbaasPools endpoints begun spec) (fun result => after result.1)
        fun _ => escape := by
    unfold LoadBalancerHandler.syncLbaasPools
    apply (first same (removeUnusedPools_ensures apart begun spec)).bind
    intro removed
    apply Leads.of_fact
    intro sameRemoved
    apply (listeners removed.1 sameRemoved).bind
    intro synced
    apply (last (addNewPools_ensures apart synced.1)).bind
    intro added
    exact leads_pure fun _ reached => reached
  unfold LoadBalancerHandler.syncLbaasMembers
  split
  · apply (first ⟨rfl, rfl⟩ (removeUnusedMembers_ensures apart endpoints state spec)).bind
    intro removed
    apply Leads.of_fact
    intro same
    apply (pools removed.1 same).bind
    intro synced
    apply (last (addNewMembers_ensures apart endpoints synced.1 spec)).bind
    intro added
    exact leads_pure fun _ reached => reached
  · exact pools state ⟨rfl, rfl⟩

end

/-! ## The end of an attempt -/

/-- The cloud where the state is annotated. -/
def Cloud.annotate (cloud : Cloud Address L) (state : LbaasState Address) : Cloud Address L :=
  { cloud with annotation := some (some state), stored := some state }

theorem setLbaasState_leads (state : LbaasState Address) {before : Cloud Address L}
    (truthful : (before.endings .setLbaasState).exception? ≠ some .k8sResourceNotFound) :
    Leads (fun cloud => cloud = before) (cloudApi.setLbaasState state)
      (fun _ after => before.annotation ≠ none ∧ after = before.annotate state)
      fun exception after => after = before ∧
          (exception = .k8sResourceNotFound → before.annotation = none) ∨
        exception ≠ .k8sResourceNotFound ∧ before.annotation ≠ none ∧
          after = before.annotate state := by
  rintro cloud rfl
  unfold cloudApi serve Effect.serve
  dsimp only
  rw [exec_get_bind]
  cases annotation : cloud.annotation with
  | none =>
      cases ending : cloud.endings .setLbaasState with
      | served =>
          dsimp only
          rw [exec_get_bind, annotation]
          apply leads_throw _ cloud rfl
          rintro _ rfl
          exact .inl ⟨rfl, fun _ => rfl⟩
      | refused exception =>
          apply leads_throw _ cloud rfl
          rintro _ rfl
          exact .inl ⟨rfl, fun _ => rfl⟩
      | cut exception =>
          dsimp only
          constructor
          · intro _ after ran
            rw [exec_bind, exec_get_bind, annotation] at ran
            cases ran
          · intro _ after ran
            rw [exec_bind, exec_get_bind, annotation] at ran
            cases ran
            exact .inl ⟨rfl, fun _ => rfl⟩
  | some known =>
      cases ending : cloud.endings .setLbaasState with
      | served =>
          constructor
          · intro _ after ran
            dsimp only at ran
            rw [exec_get_bind, annotation] at ran
            cases ran
            exact ⟨by rintro ⟨⟩, rfl⟩
          · intro _ after ran
            dsimp only at ran
            rw [exec_get_bind, annotation] at ran
            cases ran
      | refused exception =>
          rw [ending] at truthful
          apply leads_throw _ cloud rfl
          rintro _ rfl
          exact .inl ⟨rfl, fun gone => absurd (congrArg some gone) truthful⟩
      | cut exception =>
          rw [ending] at truthful
          constructor
          · intro _ after ran
            dsimp only at ran
            rw [exec_bind, exec_get_bind, annotation] at ran
            cases ran
          · intro _ after ran
            dsimp only at ran
            rw [exec_bind, exec_get_bind, annotation] at ran
            cases ran
            exact .inr ⟨fun gone => truthful (congrArg some gone), by rintro ⟨⟩, rfl⟩

section

variable [DecidableEq Address] {deployment : Deployment Address L}
  {circumstances : Circumstances}

theorem updateLbStatus_leads {holds : Cloud Address L → Prop} (ipAddr : Address) :
    Leads holds ((deployment.handler circumstances).updateLbStatus ipAddr) (fun _ => holds)
      fun _ => holds := by
  have patched : Leads holds ((deployment.handler circumstances).api.patchStatus ipAddr)
      (fun _ => holds) fun _ => holds := by
    apply leads_serve
    · exact leads_pure fun _ given => given
    · exact fun _ _ given => given
    · exact fun _ _ _ given => given
  apply patched.tryCatch
  intro exception
  exact leads_throw fun _ given => given

/-- The state is stored, or what was made for endpoints that are gone is rolled back. -/
theorem storeState_leads {state : LbaasState Address} {before : Cloud Address L}
    {post escape : Cloud Address L → Prop}
    (truthful : (before.endings .setLbaasState).exception? ≠ some .k8sResourceNotFound)
    (stored : before.annotation ≠ none → post (before.annotate state))
    (failed : escape before) (cut : before.annotation ≠ none → escape (before.annotate state))
    (rolledBack : before.annotation = none → Leads (fun cloud => cloud = before)
      ((deployment.handler circumstances).onDeleted state) (fun _ => post) fun _ => escape) :
    Leads (fun cloud => cloud = before) ((deployment.handler circumstances).storeState state)
      (fun _ => post) fun _ => escape := by
  apply Leads.tryCatch
  · apply (setLbaasState_leads state truthful).mono
    · rintro _ _ ⟨there, rfl⟩
      exact stored there
    · exact fun _ _ reached => reached
  · intro exception
    split
    · rename_i notFound
      intro after reached
      rcases reached with ⟨rfl, gone⟩ | ⟨other, _⟩
      · exact rolledBack (gone notFound) after rfl
      · exact absurd notFound other
    · apply leads_throw
      rintro _ (⟨rfl, _⟩ | ⟨_, there, rfl⟩)
      · exact failed
      · exact cut there

/-- The load balancer goes with its port, and then the public address. -/
theorem onDeleted_leads {state : LbaasState Address} {before : Cloud Address L}
    {holds : Cloud Address L → Prop} (apart : deployment.drvLbaas.Apart) (ledger : before.Ledger)
    (failed : holds before)
    (released : ∀ lb middle, state.loadbalancer = some lb →
      before.LosesPorts (· = lb.portId) middle → holds middle)
    (freed : ∀ lb info middle, state.loadbalancer = some lb → state.servicePubIpInfo = some info →
      before.LosesPorts (· = lb.portId) middle → lb.portId ∈ middle.gone →
      holds (middle.without info.ipId)) :
    Leads (fun cloud => cloud = before) ((deployment.handler circumstances).onDeleted state)
      (fun _ => holds) fun _ => holds := by
  unfold LoadBalancerHandler.onDeleted
  split
  · apply leads_throw
    rintro _ rfl
    exact failed
  · rename_i lb given
    apply (apart.releaseLoadbalancer_leads ledger lb).bind_of
    · exact fun _ middle loses => released lb middle given loses
    · intro _
      split
      · rename_i info found
        rintro middle ⟨loses, gone⟩
        have both (after : Cloud Address L)
            (reached : after = middle ∨ after = middle.without info.ipId) : holds after := by
          rcases reached with rfl | rfl
          · exact released lb after given loses
          · exact freed lb info middle given found loses gone
        apply (releasePubIp_leads info middle).mono _ _ middle rfl
        · exact fun _ => both
        · exact fun _ => both
      · apply leads_pure
        exact fun middle reached => released lb middle given reached.1

end

end KuryrKubernetes.Lbaas

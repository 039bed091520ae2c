import KuryrKubernetes.Lbaas.Attempts

/-!
# A floating IP for each port

Over attempts at a service of type `LoadBalancer`, the port of its load balancer gets one
floating IP, and this is the one that is recorded, as long as a floating IP that was
allocated is also associated.
-/

namespace KuryrKubernetes.Lbaas

open KuryrKubernetes.Data
open KuryrKubernetes.Effect
open KuryrKubernetes.Transition

variable {Address L : Type}

/-! ## Accounts -/

/-- The public address of a state is the one that was allocated for its port. -/
structure LbaasState.Recorded (ip : Option Address) (cloud : Cloud Address L)
    (state : LbaasState Address) : Prop where
  balancer : ∀ lb ∈ state.loadbalancer, some lb.ip = ip
  info : ∀ info ∈ state.servicePubIpInfo, ∃ lb, state.loadbalancer = some lb ∧
    (lb.portId ∈ cloud.gone ∨ cloud.Associated lb.portId info.ipId) ∧
      ∀ id, (lb.portId, id) ∈ cloud.allocated → id = info.ipId

/-- What was allocated for the port of a state is its public address. -/
def LbaasState.Complete (cloud : Cloud Address L) (state : LbaasState Address) : Prop :=
  ∀ lb ∈ state.loadbalancer, ∀ id, (lb.portId, id) ∈ cloud.allocated →
    ∃ info, state.servicePubIpInfo = some info ∧ info.ipId = id

/-- Each port has the floating IP that was allocated for it, and there is one at most. -/
structure Cloud.Accounted (ip : Option Address) (read : LbaasState Address)
    (cloud : Cloud Address L) : Prop where
  ledger : cloud.Ledger
  kept : ∀ entry ∈ cloud.allocated, entry.1 ∈ cloud.gone ∨ cloud.Associated entry.1 entry.2
  once : (cloud.allocated.map Prod.fst).Nodup
  annotated : ∀ state, cloud.annotation = some (some state) → state.Recorded ip cloud
  read : read.Recorded ip cloud

section

variable {ip : Option Address} {read state : LbaasState Address} {before after : Cloud Address L}

/-- Associations are kept but for ports that go. -/
def Cloud.Keeps (before after : Cloud Address L) : Prop :=
  (∀ port ∈ before.gone, port ∈ after.gone) ∧ after.allocated = before.allocated ∧
    ∀ portId id, before.Associated portId id → portId ∈ after.gone ∨ after.Associated portId id

theorem Cloud.LosesPorts.keeps {ports : Nat → Prop} (loses : before.LosesPorts ports after) :
    before.Keeps after := by
  refine ⟨loses.gone, loses.allocated, ?_⟩
  intro portId id associated
  by_cases goes : portId ∈ after.gone
  · exact .inl goes
  · exact .inr ((loses.associated_iff portId id).mpr ⟨associated, goes⟩)

theorem LbaasState.Recorded.moved (recorded : state.Recorded ip before)
    (keeps : before.Keeps after) : state.Recorded ip after := by
  rcases keeps with ⟨gone, allocated, associated⟩
  constructor
  · exact recorded.balancer
  · intro info found
    rcases recorded.info info found with ⟨lb, there, at_, only⟩
    refine ⟨lb, there, ?_, ?_⟩
    · rcases at_ with goes | at_
      · exact .inl (gone _ goes)
      · exact associated _ _ at_
    · rw [allocated]
      exact only

theorem LbaasState.Recorded.same {cloud : Cloud Address L} {first second : LbaasState Address}
    (recorded : first.Recorded ip cloud) (same : first.SameBalancer second) :
    second.Recorded ip cloud := by
  constructor
  · intro lb given
    rcases same.exists_lb given with ⟨old, found, sameIp, _⟩
    rw [← sameIp]
    exact recorded.balancer old found
  · intro info found
    rw [same.1] at found
    rcases recorded.info info found with ⟨old, isOld, at_, only⟩
    rcases same.symm.exists_lb isOld with ⟨lb, given, _, samePort⟩
    rw [← samePort] at at_ only
    exact ⟨lb, given, at_, only⟩

theorem Cloud.Accounted.moved (accounted : before.Accounted ip read) (ledger : after.Ledger)
    (keeps : before.Keeps after)
    (annotated : ∀ state, after.annotation = some (some state) →
      before.annotation = some (some state) ∨ state.Recorded ip after) :
    after.Accounted ip read := by
  constructor
  · exact ledger
  · intro entry noted
    rw [keeps.2.1] at noted
    rcases accounted.kept entry noted with goes | associated
    · exact .inl (keeps.1 _ goes)
    · exact keeps.2.2 _ _ associated
  · rw [keeps.2.1]
    exact accounted.once
  · intro state found
    rcases annotated state found with known | recorded
    · exact (accounted.annotated state known).moved keeps
    · exact recorded
  · exact accounted.read.moved keeps

theorem Cloud.LosesPorts.accounted {ports : Nat → Prop} (loses : before.LosesPorts ports after)
    (accounted : before.Accounted ip read) : after.Accounted ip read := by
  apply accounted.moved (loses.ledger accounted.ledger) loses.keeps
  intro state found
  rw [loses.annotation] at found
  exact .inl found

/-- A floating IP that is at the port already may be associated with it again. -/
theorem Cloud.Attaches.accounted {id portId : Nat} (attaches : before.Attaches id portId after)
    (there : before.Associated portId id) (accounted : before.Accounted ip read) :
    after.Accounted ip read ∧ before.Keeps after := by
  rcases attaches with ⟨fip, found, present, alone, rfl⟩
  have keeps : before.Keeps (before.attached id fip portId) := by
    refine ⟨fun _ goes => goes, rfl, ?_⟩
    intro port other associated
    right
    apply (Cloud.associated_attached_iff fip portId port other).mpr
    by_cases same : other = id
    · subst same
      exact .inl ⟨rfl, associated.unique there⟩
    · exact .inr ⟨same, associated⟩
  constructor
  · apply accounted.moved (accounted.ledger.attached found present alone) keeps
    exact fun _ found => .inl found
  · exact keeps

/-- A new floating IP for a port that has none, associated with the port. -/
theorem Cloud.Accounted.grown {addressOf : Nat → Address} {portId : Nat}
    (accounted : before.Accounted ip read) (free : ∀ id, ¬before.Associated portId id)
    (there : portId ∉ before.gone)
    (attaches : (before.created addressOf portId).Attaches before.nextFip portId after) :
    after.Accounted ip read ∧ (∀ state : LbaasState Address, state.Recorded ip before →
      state.Recorded ip after) ∧ after.gone = before.gone ∧
      after.allocated = (portId, before.nextFip) :: before.allocated := by
  rcases attaches with ⟨fip, found, present, alone, rfl⟩
  have kept : ∀ port id, before.Associated port id →
      ((before.created addressOf portId).attached before.nextFip fip portId).Associated
        port id := by
    intro port id associated
    apply (Cloud.associated_attached_iff fip portId port id).mpr
    right
    constructor
    · have known := accounted.ledger.ids id associated.mem
      omega
    · exact (Cloud.associated_created_iff accounted.ledger addressOf portId port id).mpr
        associated
  have new : ((before.created addressOf portId).attached before.nextFip fip portId).Associated
      portId before.nextFip :=
    (Cloud.associated_attached_iff fip portId portId before.nextFip).mpr (.inl ⟨rfl, rfl⟩)
  have recorded (state : LbaasState Address) (given : state.Recorded ip before) :
      state.Recorded ip
        ((before.created addressOf portId).attached before.nextFip fip portId) := by
    constructor
    · exact given.balancer
    · intro info isInfo
      rcases given.info info isInfo with ⟨lb, isLb, at_, only⟩
      refine ⟨lb, isLb, at_.imp_right (kept _ _), ?_⟩
      intro id noted
      rcases List.mem_cons.mp noted with same | old
      · -- the port had no floating IP, so it is not that of the state
        rcases Prod.mk.inj same with ⟨samePort, _⟩
        rw [samePort] at at_
        rcases at_ with goes | associated
        · exact absurd goes there
        · exact absurd associated (free info.ipId)
      · exact only id old
  have unnoted : portId ∉ before.allocated.map Prod.fst := by
    intro noted
    rcases List.mem_map.mp noted with ⟨entry, listed, rfl⟩
    rcases accounted.kept entry listed with goes | associated
    · exact there goes
    · exact free entry.2 associated
  refine ⟨?_, recorded, rfl, rfl⟩
  constructor
  · exact (accounted.ledger.created addressOf portId).attached found present alone
  · intro entry noted
    rcases List.mem_cons.mp noted with rfl | old
    · exact .inr new
    · exact (accounted.kept entry old).imp_right (kept _ _)
  · exact List.nodup_cons.mpr ⟨unnoted, accounted.once⟩
  · intro state annotated
    exact recorded state (accounted.annotated state annotated)
  · exact recorded read accounted.read

end

/-! ## One attempt -/

/-- The service is of type `LoadBalancer`, with its address and without one for the load
balancer. -/
def ServiceSpec.FromPool (ip : Option Address) (spec : ServiceSpec Address) : Prop :=
  spec.type = some .loadBalancer ∧ spec.lbIp = none ∧ spec.ip = ip

/-- A floating IP that is made is answered, and is then associated with its port. -/
def AssociatesNew (endings : Call → Ending) : Prop :=
  (∃ exception, endings .createIp = .refused exception) ∨
    endings .createIp = .served ∧
      (∀ exception, (endings .setTags).exception? = some exception → exception.isSdkException) ∧
      ∀ id portId exception, endings (.updateIp id (some portId)) ≠ .refused exception

/-- What holds during an attempt, of the state that it has come to. -/
structure Underway (ip : Option Address) (read state : LbaasState Address)
    (cloud : Cloud Address L) : Prop where
  accounted : cloud.Accounted ip read
  recorded : state.Recorded ip cloud
  present : ∀ lb ∈ state.loadbalancer, lb.portId ∉ cloud.gone
  unstored : cloud.stored = none

/-- What holds after an attempt, however it ends. -/
def Ended (ip : Option Address) (read : LbaasState Address) (cloud : Cloud Address L) : Prop :=
  cloud.Accounted ip read ∧ ∀ state, cloud.stored = some state → state.Complete cloud

/-- The listing of floating IPs is served, unless there is none that it could show. -/
def Listed (endings : Call → Ending) (cloud : Cloud Address L) : Prop :=
  endings .ips = .served ∨ ∀ entry ∈ cloud.allocated, entry.1 ∈ cloud.gone

theorem Underway.ended {ip : Option Address} {read state : LbaasState Address}
    {cloud : Cloud Address L} (underway : Underway ip read state cloud) : Ended ip read cloud := by
  constructor
  · exact underway.accounted
  · intro stored found
    rw [underway.unstored] at found
    cases found

section

variable {ip : Option Address} {read state : LbaasState Address} {before : Cloud Address L}

/-- What holds until the public address is looked at. -/
def Coming (ip : Option Address) (read : LbaasState Address) (endings : Call → Ending)
    (state : LbaasState Address) (cloud : Cloud Address L) : Prop :=
  Underway ip read state cloud ∧ cloud.endings = endings ∧ Listed endings cloud

theorem Coming.same {endings : Call → Ending} {first second : LbaasState Address} {cloud : Cloud Address L}
    (coming : Coming ip read endings first cloud) (same : first.SameBalancer second)
    (balancers : L) : Coming ip read endings second { cloud with balancers } := by
  rcases coming with ⟨underway, sameEndings, listed⟩
  have loses := underway.accounted.ledger.losesPorts (fun _ => False) balancers
  refine ⟨?_, sameEndings, listed⟩
  constructor
  · exact loses.accounted underway.accounted
  · exact (underway.recorded.same same).moved loses.keeps
  · intro lb given
    rcases same.exists_lb given with ⟨old, found, _, samePort⟩
    rw [← samePort]
    exact underway.present old found
  · exact underway.unstored

/-- No new floating IP is lost. -/
theorem AssociatesNew.not_losesNew {cloud : Cloud Address L}
    (associates : AssociatesNew cloud.endings) : ¬cloud.LosesNew := by
  rintro (⟨exception, cut⟩ | ⟨served, exception, ended, other⟩)
  · rcases associates with ⟨_, refused⟩ | ⟨served, _⟩
    · rw [cut] at refused
      cases refused
    · rw [cut] at served
      cases served
  · rcases associates with ⟨_, refused⟩ | ⟨_, tagged, _⟩
    · rw [served] at refused
      cases refused
    · rw [tagged exception ended] at other
      cases other

/-- The floating IP at the port of the load balancer is the public address of the state. -/
theorem Underway.served {after : Cloud Address L} {lb : Loadbalancer Address}
    {info : PubIp Address} (underway : Underway ip read state before)
    (given : state.loadbalancer = some lb) (accounted : after.Accounted ip read)
    (gone : after.gone = before.gone) (stored : after.stored = before.stored)
    (associated : after.Associated lb.portId info.ipId) :
    Underway ip read { state with servicePubIpInfo := some info } after ∧
      LbaasState.Complete after { state with servicePubIpInfo := some info } := by
  have only : ∀ id, (lb.portId, id) ∈ after.allocated → id = info.ipId := by
    intro id noted
    rcases accounted.kept (lb.portId, id) noted with goes | known
    · exact absurd goes (accounted.ledger.present _ _ associated)
    · exact accounted.ledger.single lb.portId id info.ipId known associated
  constructor
  · constructor
    · exact accounted
    · constructor
      · exact underway.recorded.balancer
      · rintro _ ⟨⟩
        exact ⟨lb, given, .inr associated, only⟩
    · intro other there
      rw [gone]
      exact underway.present other there
    · rw [stored]
      exact underway.unstored
  · intro other there id noted
    change state.loadbalancer = some other at there
    rw [given] at there
    cases there
    exact ⟨info, rfl, (only id noted).symm⟩

/-- `associate` serves the floating IP of the port, and a new one. -/
theorem associate_leads_served {middle : Cloud Address L} {addressOf : Nat → Address}
    {lb : Loadbalancer Address} {info : PubIp Address}
    (underway : Underway ip read state before) (given : state.loadbalancer = some lb)
    (associates : AssociatesNew before.endings)
    (acquired : middle = before ∧ before.Associated lb.portId info.ipId ∨
      middle = before.created addressOf lb.portId ∧ info.ipId = before.nextFip ∧
        before.endings .createIp = .served ∧ ∀ id, ¬before.Associated lb.portId id) :
    Leads (fun cloud => cloud = middle) (FipPubIpDriver.associate info.ipId lb.portId)
      (fun _ after => (Underway ip read { state with servicePubIpInfo := some info } after ∧
        LbaasState.Complete after { state with servicePubIpInfo := some info }) ∧
          after.endings = before.endings)
      fun _ => Ended ip read := by
  have present := underway.present lb given
  rcases acquired with ⟨rfl, associated⟩ | ⟨rfl, isNew, served, free⟩
  · have serves (after : Cloud Address L)
        (reached : after = middle ∨ middle.Attaches info.ipId lb.portId after) :
        (Underway ip read { state with servicePubIpInfo := some info } after ∧
          LbaasState.Complete after { state with servicePubIpInfo := some info }) ∧
            after.endings = middle.endings := by
      rcases reached with rfl | attaches
      · exact ⟨underway.served given underway.accounted rfl rfl associated, rfl⟩
      · have accounted := (attaches.accounted associated underway.accounted).1
        have still := attaches.associated
        rcases attaches with ⟨fip, _, _, _, rfl⟩
        exact ⟨underway.served given accounted rfl rfl still, rfl⟩
    apply (associate_leads middle info.ipId lb.portId).mono
    · exact fun _ after reached => serves after reached.2
    · rintro _ after (attaches | ⟨same, _⟩)
      · exact (serves after (.inr attaches)).1.1.ended
      · exact (serves after (.inl same)).1.1.ended
  · rw [isNew]
    have ledger := underway.accounted.ledger
    have unassociated (id : Nat) :
        ¬(before.created addressOf lb.portId).Associated lb.portId id := by
      rw [Cloud.associated_created_iff ledger]
      exact free id
    have serves (after : Cloud Address L)
        (attaches : (before.created addressOf lb.portId).Attaches before.nextFip lb.portId after) :
        (Underway ip read { state with servicePubIpInfo := some info } after ∧
          LbaasState.Complete after { state with servicePubIpInfo := some info }) ∧
            after.endings = before.endings := by
      rcases underway.accounted.grown free present attaches with ⟨accounted, _, gone, _⟩
      have associated := attaches.associated
      rw [← isNew] at associated
      have stored : after.stored = before.stored ∧ after.endings = before.endings := by
        rcases attaches with ⟨fip, _, _, _, rfl⟩
        exact ⟨rfl, rfl⟩
      exact ⟨underway.served given accounted gone stored.1 associated, stored.2⟩
    have attachable : ∃ after,
        (before.created addressOf lb.portId).Attaches before.nextFip lb.portId after :=
      ⟨_, _, Dict.get?_set_self _ _ _, present,
        fun other there => absurd there (unassociated other), rfl⟩
    apply (associate_leads _ before.nextFip lb.portId).mono
    · rintro _ after ⟨associated, rfl | attaches⟩
      · exact absurd associated (unassociated _)
      · exact serves after attaches
    · rintro _ after (attaches | ⟨_, refused⟩)
      · exact (serves after attaches).1.1.ended
      · rcases attachable with ⟨other, attaches⟩
        rcases refused other attaches with ⟨exception, ended⟩
        rcases associates with ⟨_, never⟩ | ⟨_, _, unrefused⟩
        · rw [served] at never
          cases never
        · exact absurd ended (unrefused _ _ _)

end

section

variable [DecidableEq Address] {ip : Option Address} {read state : LbaasState Address}
  {spec : ServiceSpec Address} {endings : Call → Ending}

/-- From the pool a service gets the floating IP of its port, or a new one if there is
none. -/
theorem acquireServicePubIpInfo_leads (fromPool : spec.FromPool ip) (externalSvcNet : Bool)
    (addressOf : Nat → Address) (portId : Nat) (before : Cloud Address L) :
    Leads (fun cloud => cloud = before)
      (FloatingIpServicePubIpDriver.acquireServicePubIpInfo externalSvcNet addressOf spec portId)
      (fun answer after =>
        (answer = none ∧ (after = before ∧ (before.endings .ips ≠ .served ∨
            ∀ id, ¬before.Associated portId id) ∨
          after = before.created addressOf portId ∧ before.LosesNew ∧
            ∀ id, ¬before.Associated portId id)) ∨
        ∃ info, answer = some info ∧ (after = before ∧ before.Associated portId info.ipId ∨
          after = before.created addressOf portId ∧ info.ipId = before.nextFip ∧
            before.endings .createIp = .served ∧ ∀ id, ¬before.Associated portId id))
      fun _ after => after = before := by
  unfold FloatingIpServicePubIpDriver.acquireServicePubIpInfo
  rw [if_neg (not_not_intro fromPool.1), fromPool.2.1]
  dsimp only
  split
  · apply Leads.tryCatch
    · apply (allocateIp_leads addressOf portId before).bind
      intro fip
      apply leads_pure
      intro after reached
      exact .inr ⟨_, rfl, reached⟩
    · intro exception
      apply leads_pure
      intro after reached
      exact .inl ⟨rfl, reached⟩
  · apply leads_throw
    exact fun _ same => same

variable {deployment : Deployment Address L} {circumstances : Circumstances}

theorem servePubIp_leads (fromPool : spec.FromPool ip) (associates : AssociatesNew endings) :
    Leads
      (fun cloud => Underway ip read state cloud ∧ cloud.endings = endings ∧
        Listed endings cloud)
      ((deployment.handler circumstances).servePubIp state spec)
      (fun result cloud => (Underway ip read result cloud ∧ result.Complete cloud) ∧
        cloud.endings = endings)
      fun _ => Ended ip read := by
  unfold LoadBalancerHandler.servePubIp
  split
  · rename_i info found
    apply leads_pure
    rintro cloud ⟨underway, same, _⟩
    refine ⟨⟨underway, ?_⟩, same⟩
    intro lb there id noted
    rcases underway.recorded.info info found with ⟨other, given, _, only⟩
    rw [given] at there
    cases there
    exact ⟨info, found, (only id noted).symm⟩
  · apply leads_throw
    exact fun cloud given => given.1.ended
  · rename_i lb _ given
    rintro before ⟨underway, sameEndings, listed⟩
    have present := underway.present lb given
    apply (acquireServicePubIpInfo_leads fromPool deployment.externalSvcNet
      deployment.addressOf lb.portId before).bind_of _ _ before rfl
    · rintro _ _ rfl
      exact underway.ended
    · intro answer
      cases answer with
      | none =>
          apply leads_pure
          rintro after (⟨_, ⟨rfl, nothing⟩ | ⟨_, loses, _⟩⟩ | ⟨info, ⟨⟩, _⟩)
          · refine ⟨⟨underway, ?_⟩, sameEndings⟩
            intro other there id noted
            rw [given] at there
            cases there
            exfalso
            rcases nothing with unlisted | free
            · rcases listed with served | gone
              · exact unlisted (by rw [sameEndings]; exact served)
              · exact present (gone _ noted)
            · rcases underway.accounted.kept _ noted with goes | associated
              · exact present goes
              · exact free id associated
          · rw [← sameEndings] at associates
            exact absurd loses associates.not_losesNew
      | some info =>
          have last :
              Leads (fun cloud => (Underway ip read { state with servicePubIpInfo := some info }
                    cloud ∧ LbaasState.Complete cloud { state with servicePubIpInfo := some info }) ∧
                  cloud.endings = endings)
                (do
                  (deployment.handler circumstances).updateLbStatus info.ipAddr
                  return { state with servicePubIpInfo := some info })
                (fun result cloud => (Underway ip read result cloud ∧ result.Complete cloud) ∧
                  cloud.endings = endings)
                fun _ => Ended ip read := by
            apply (updateLbStatus_leads info.ipAddr).bind_of
            · exact fun _ cloud reached => reached.1.1.ended
            · intro _
              exact leads_pure fun _ reached => reached
          intro middle reached
          rcases reached with ⟨⟨⟩, _⟩ | ⟨_, same, acquired⟩
          cases same
          rw [← sameEndings] at associates
          have served := associate_leads_served underway given associates acquired
          rw [sameEndings] at served
          exact (served.bind fun _ => last) middle rfl

/-- The load balancer has the address of the service, so it stays; where there is none, it
is made. -/
theorem syncLbaasLoadbalancer_leads (apart : deployment.drvLbaas.Apart)
    (fromPool : spec.FromPool ip) (endpoints : Endpoints Address)
    (same : read.SameBalancer state) :
    Leads (Coming ip read endings read)
      ((deployment.handler circumstances).syncLbaasLoadbalancer endpoints state spec)
      (fun result => Coming ip read endings result.1) fun _ => Ended ip read := by
  rintro before coming
  have here : Coming ip read endings state before := coming.same same before.balancers
  rcases here with ⟨underway, sameEndings, listed⟩
  have released : exec ((deployment.handler circumstances).releaseReplaced state spec) before =
      (.ok (state, false), before) := by
    unfold LoadBalancerHandler.releaseReplaced
    cases given : state.loadbalancer with
    | none => rfl
    | some lb =>
        dsimp only
        rw [if_pos]
        · rfl
        · rw [fromPool.2.2]
          exact underway.recorded.balancer lb given
  unfold LoadBalancerHandler.syncLbaasLoadbalancer
  rw [exec_bind_of_ok released]
  unfold LoadBalancerHandler.ensureLoadbalancer
  split
  · exact leads_pure (fun _ reached => reached) before ⟨underway, sameEndings, listed⟩
  · rename_i serviceIp missing given
    have private_ : state.servicePubIpInfo = none := by
      cases found : state.servicePubIpInfo with
      | none => rfl
      | some info =>
          rcases underway.recorded.info info found with ⟨lb, there, _⟩
          rw [missing] at there
          cases there
    apply (apart.ensureLoadbalancer_leads underway.accounted.ledger
      endpoints.serviceName spec serviceIp).bind_of _ _ before rfl
    · rintro _ after loses
      constructor
      · exact loses.accounted underway.accounted
      · intro stored found
        rw [loses.stored, underway.unstored] at found
        cases found
    · intro lb
      apply leads_pure
      rintro after ⟨loses, sameIp, there⟩
      refine ⟨?_, by rw [loses.endings, sameEndings], ?_⟩
      · constructor
        · exact loses.accounted underway.accounted
        · constructor
          · rintro _ ⟨⟩
            rw [sameIp, ← given, fromPool.2.2]
          · intro info found
            change state.servicePubIpInfo = some info at found
            rw [private_] at found
            cases found
        · rintro _ ⟨⟩
          exact there
        · rw [loses.stored]
          exact underway.unstored
      · apply listed.imp_right
        intro gone entry noted
        rw [loses.allocated] at noted
        exact loses.gone _ (gone entry noted)
  · rename_i info missing _ found
    rcases underway.recorded.info info found with ⟨lb, there, _⟩
    rw [missing] at there
    cases there
  · exact leads_pure (fun _ reached => reached) before ⟨underway, sameEndings, listed⟩

/-! ## The whole attempt -/

theorem storeState_leads_ended (apart : deployment.drvLbaas.Apart)
    (truthful : (endings .setLbaasState).exception? ≠ some .k8sResourceNotFound) :
    Leads
      (fun cloud => (Underway ip read state cloud ∧ state.Complete cloud) ∧
        cloud.endings = endings)
      ((deployment.handler circumstances).storeState state) (fun _ => Ended ip read)
      fun _ => Ended ip read := by
  rintro before ⟨⟨underway, complete⟩, sameEndings⟩
  rw [← sameEndings] at truthful
  have stored : Ended ip read (before.annotate state) := by
    constructor
    · have ledger : (before.annotate state).Ledger :=
        ⟨underway.accounted.ledger.ids, underway.accounted.ledger.noted,
          underway.accounted.ledger.single, underway.accounted.ledger.present⟩
      have keeps : before.Keeps (before.annotate state) :=
        ⟨fun _ there => there, rfl, fun _ _ associated => .inr associated⟩
      apply underway.accounted.moved ledger keeps
      rintro _ ⟨⟩
      exact .inr (underway.recorded.moved keeps)
    · rintro _ ⟨⟩
      exact complete
  apply storeState_leads truthful _ _ _ _ before rfl
  · exact fun _ => stored
  · exact underway.ended
  · exact fun _ => stored
  · intro _
    have unstored {after : Cloud Address L} (same : after.stored = before.stored) :
        ∀ state, after.stored = some state → state.Complete after := by
      intro state found
      rw [same, underway.unstored] at found
      cases found
    apply onDeleted_leads apart underway.accounted.ledger underway.ended
    · intro lb middle _ loses
      exact ⟨loses.accounted underway.accounted, unstored loses.stored⟩
    · intro lb info middle given found loses gone
      have accounted := loses.accounted underway.accounted
      constructor
      · apply accounted.moved (accounted.ledger.without info.ipId)
        · refine ⟨fun _ there => there, rfl, ?_⟩
          intro portId id associated
          by_cases same : id = info.ipId
          · -- its port was that of the load balancer, which is gone
            exfalso
            rcases (loses.associated_iff portId id).mp associated with ⟨had, stays⟩
            rcases underway.recorded.info info found with ⟨other, there, at_, _⟩
            rw [given] at there
            cases there
            have atLb := at_.resolve_left (underway.present lb given)
            rw [same] at had
            rw [had.unique atLb] at stays
            exact stays gone
          · exact .inr ((Cloud.associated_without_iff info.ipId portId id).mpr
              ⟨same, associated⟩)
        · exact fun _ found => .inl found
      · exact unstored loses.stored

/-- An attempt ends with the accounts in order. -/
theorem onPresent_leads (apart : deployment.drvLbaas.Apart) (endpoints : Endpoints Address)
    (service : ∀ spec ∈ endpoints.lbaasSpec, spec.FromPool ip)
    (associates : AssociatesNew endings)
    (truthful : (endings .setLbaasState).exception? ≠ some .k8sResourceNotFound)
    (isRead : endpoints.lbaasState.getD {} = read) :
    Leads (Coming ip read endings read)
      ((deployment.handler circumstances).onPresent endpoints) (fun _ => Ended ip read)
      fun _ => Ended ip read := by
  unfold LoadBalancerHandler.onPresent
  apply Leads.settle_bind
  · exact fun _ _ cloud coming => coming.1.ended
  · intro ignored _
    split
    · rename_i spec given _
      have fromPool := service spec given
      rw [isRead]
      have synced : Leads (Coming ip read endings read)
          ((deployment.handler circumstances).syncLbaasMembers endpoints read spec)
          (fun result => Coming ip read endings result.1) fun _ => Ended (L := L) ip read := by
        apply syncLbaasMembers_leads apart
        · exact fun cloud balancers coming => coming.same ⟨rfl, rfl⟩ balancers
        · exact fun first second cloud balancers same coming => coming.same same balancers
        · exact fun cloud coming => coming.1.ended
        · exact fun state cloud coming => coming.1.ended
        · intro state same
          exact syncLbaasLoadbalancer_leads apart fromPool endpoints same
      apply synced.bind
      intro synced
      split
      · apply (servePubIp_leads fromPool associates).bind
        intro state
        exact storeState_leads_ended apart truthful
      · exact leads_pure fun _ coming => coming.1.ended
    · exact leads_pure fun _ coming => coming.1.ended

end

/-! ## Runs -/

/-- Nothing was allocated yet. -/
structure Site.Initial (ip : Option Address) (site : Site Address L) : Prop where
  ledger : site.cloud.Ledger
  unallocated : site.cloud.allocated = []
  annotated : ∀ state, site.cloud.annotation = some (some state) →
    state.servicePubIpInfo = none ∧ ∀ lb ∈ state.loadbalancer, some lb.ip = ip
  idle : site.pending = none
  unstored : site.cloud.stored = none

/-- The attempts are for one service, with a public address from the pool. -/
def ForService (ip : Option Address) (site : Site Address L) (occasion : Occasion Address) :
    Prop :=
  ∀ endpoints circumstances, site.attempts occasion = some (endpoints, circumstances) →
    ∀ spec ∈ endpoints.lbaasSpec, spec.FromPool ip

/-- The port of the load balancer that the attempt starts with is there, the floating IP of
a port is listed, and one that is made is associated. -/
def Careful (site : Site Address L) (occasion : Occasion Address) : Prop :=
  ∀ endpoints circumstances, site.attempts occasion = some (endpoints, circumstances) →
    (∀ lb ∈ (endpoints.lbaasState.getD {}).loadbalancer, lb.portId ∉ site.cloud.gone) ∧
      Listed circumstances.endings site.cloud ∧ AssociatesNew circumstances.endings

/-- What holds between attempts. -/
def Site.Accounted (ip : Option Address) (site : Site Address L) : Prop :=
  Ended ip ((site.pending.bind (·.lbaasState)).getD {}) site.cloud

section

variable {ip : Option Address}

theorem LbaasState.recorded_empty (cloud : Cloud Address L) :
    LbaasState.Recorded ip cloud {} := by
  constructor
  · rintro lb ⟨⟩
  · rintro info ⟨⟩

theorem Cloud.Accounted.reread {cloud : Cloud Address L} {read other : LbaasState Address}
    (accounted : cloud.Accounted ip read) (recorded : other.Recorded ip cloud) :
    cloud.Accounted ip other :=
  ⟨accounted.ledger, accounted.kept, accounted.once, accounted.annotated, recorded⟩

theorem Site.Initial.accounted {site : Site Address L} (initial : site.Initial ip) :
    site.Accounted ip := by
  have none_ : (site.pending.bind (·.lbaasState)).getD {} = ({} : LbaasState Address) := by
    rw [initial.idle]
    rfl
  unfold Site.Accounted
  rw [none_]
  constructor
  · constructor
    · exact initial.ledger
    · rw [initial.unallocated]
      rintro entry ⟨⟩
    · rw [initial.unallocated]
      exact List.nodup_nil
    · intro state found
      rcases initial.annotated state found with ⟨private_, balancer⟩
      constructor
      · exact balancer
      · intro info given
        rw [private_] at given
        cases given
    · exact LbaasState.recorded_empty _
  · intro state found
    rw [initial.unstored] at found
    cases found

variable [DecidableEq Address] {deployment : Deployment Address L}

/-- What holds between attempts is kept by one. -/
theorem attempt_accounted (apart : deployment.drvLbaas.Apart) {cloud : Cloud Address L}
    {read : LbaasState Address} {endpoints : Endpoints Address} {circumstances : Circumstances}
    (accounted : cloud.Accounted ip read) (isRead : endpoints.lbaasState.getD {} = read)
    (service : ∀ spec ∈ endpoints.lbaasSpec, spec.FromPool ip)
    (present : ∀ lb ∈ read.loadbalancer, lb.portId ∉ cloud.gone)
    (listed : Listed circumstances.endings cloud)
    (associates : AssociatesNew circumstances.endings)
    (truthful : (circumstances.endings .setLbaasState).exception? ≠
      some .k8sResourceNotFound) :
    (deployment.attempt endpoints circumstances cloud).Accounted ip := by
  have coming : Coming ip read circumstances.endings read
      { cloud with stored := none, endings := circumstances.endings } := by
    refine ⟨⟨⟨?_, accounted.kept, accounted.once, ?_, ?_⟩, ?_, present, rfl⟩, rfl, listed⟩
    · exact ⟨accounted.ledger.ids, accounted.ledger.noted, accounted.ledger.single,
        accounted.ledger.present⟩
    · intro state found
      exact ⟨(accounted.annotated state found).balancer, (accounted.annotated state found).info⟩
    · exact ⟨accounted.read.balancer, accounted.read.info⟩
    · exact ⟨accounted.read.balancer, accounted.read.info⟩
  have leads : Leads (Coming ip read circumstances.endings read)
      ((deployment.handler circumstances).onPresent endpoints) (fun _ => Ended ip read)
      fun _ => Ended ip read := onPresent_leads apart endpoints service associates truthful isRead
  have leads := leads _ coming
  unfold Deployment.attempt Site.Accounted
  dsimp only
  rcases ran : exec ((deployment.handler circumstances).onPresent endpoints)
    { cloud with stored := none, endings := circumstances.endings } with ⟨outcome, after⟩
  cases outcome with
  | ok value =>
      rcases leads.1 value after ran with ⟨accountedAfter, complete⟩
      exact ⟨accountedAfter.reread (LbaasState.recorded_empty _), complete⟩
  | error exception =>
      have ended := leads.2 exception after ran
      rw [← isRead] at ended
      exact ended

theorem accounted_preserved (apart : deployment.drvLbaas.Apart) :
    PreservedBy deployment.step
      (fun site occasion => ForService ip site occasion ∧ Careful site occasion)
      (Site.Accounted ip) := by
  rintro site occasion after ⟨service, careful⟩ ⟨accounted, complete⟩ taken
  rcases Deployment.step_cases taken with
    ⟨endpoints, circumstances, tries, source, truthful, rfl⟩ | rfl
  · rcases careful endpoints circumstances tries with ⟨present, listed, associates⟩
    have recorded : (endpoints.lbaasState.getD {}).Recorded ip site.cloud := by
      rcases source with shown | pending
      · cases given : endpoints.lbaasState with
        | none => exact LbaasState.recorded_empty _
        | some state =>
            apply accounted.annotated state
            rw [shown, given]
      · have read := accounted.read
        rw [pending] at read
        exact read
    exact attempt_accounted apart (accounted.reread recorded) rfl
      (service endpoints circumstances tries) present listed associates truthful
  · constructor
    · have ledger : Cloud.Ledger { site.cloud with annotation := none } :=
        ⟨accounted.ledger.ids, accounted.ledger.noted, accounted.ledger.single,
          accounted.ledger.present⟩
      apply accounted.moved ledger
      · exact ⟨fun _ there => there, rfl, fun _ _ associated => .inr associated⟩
      · rintro state ⟨⟩
    · exact complete

/-- In every run of careful attempts for one service, no port has two floating IPs
allocated, and what was allocated for the port of the state that is stored is the public
address of this state. -/
theorem public_ip_allocated_once (apart : deployment.drvLbaas.Apart)
    {start final : Site Address L} {occasions : List (Occasion Address)}
    (initial : start.Initial ip)
    (run : GuardedRun deployment.step
      (fun site occasion => ForService ip site occasion ∧ Careful site occasion) start
      occasions final) :
    (final.cloud.allocated.map Prod.fst).Nodup ∧
      ∀ state, final.cloud.stored = some state → state.Complete final.cloud := by
  rcases run.invariant (accounted_preserved apart) initial.accounted with ⟨accounted, complete⟩
  exact ⟨accounted.once, complete⟩

end

/-! ## A driver for one load balancer -/

namespace SoleBalancer

/-- The address of the load balancer and its port. -/
abbrev Vip := Option (String × Nat)

/-- The port for an address: that of the load balancer, as long as it is there, or a new
one. -/
def vipPort (cloud : Cloud String Vip) (ip : String) : Nat :=
  match cloud.balancers with
  | some (address, portId) =>
      if address = ip ∧ portId ∉ cloud.gone then portId else cloud.gone.sum + 1
  | none => cloud.gone.sum + 1

def loadbalancer (name : ServiceName) (ip : String) (portId : Nat) : Loadbalancer String where
  id := portId
  projectId := "kuryr"
  name := name
  ip := ip
  subnetId := "services"
  portId := portId

def ensureLoadbalancer (name : ServiceName) (_ : ServiceSpec String) (ip : String) :
    CloudM String Vip (Loadbalancer String) := do
  let cloud ← get
  set { cloud with balancers := some (ip, vipPort cloud ip) }
  return loadbalancer name ip (vipPort cloud ip)

/-- The port goes with the load balancer. -/
def released (cloud : Cloud String Vip) (portId : Nat) : Cloud String Vip :=
  { cloud with
    balancers := none
    gone := portId :: cloud.gone
    fips := cloud.fips.mapValues fun _ fip => fip.detach (portId :: cloud.gone) }

def driver : LbaasDriver String (Cloud String Vip) where
  doubleListenersSupported := true
  ensureLoadbalancer
  releaseLoadbalancer lb := modify (released · lb.portId)
  ensureListener lb protocol port _ := pure <| some
    { id := port
      projectId := "kuryr"
      name := ⟨lb.name, protocol, port⟩
      loadbalancerId := lb.id
      protocol := protocol
      port := port }
  releaseListener _ _ := pure ⟨⟩
  ensurePool _ listener := pure
    { id := listener.id
      projectId := "kuryr"
      name := listener.name
      loadbalancerId := listener.loadbalancerId
      listenerId := listener.id
      protocol := listener.protocol }
  releasePool _ _ := pure ⟨⟩
  ensureMember _ request := pure
    { id := request.port
      projectId := "kuryr"
      name := ⟨request.targetRefNamespace, request.targetRefName, request.port⟩
      poolId := request.pool.id
      subnetId := request.subnetId
      ip := request.ip
      port := request.port }
  releaseMember _ _ := pure ⟨⟩

theorem vipPort_not_gone (cloud : Cloud String Vip) (ip : String) :
    vipPort cloud ip ∉ cloud.gone := by
  have new : cloud.gone.sum + 1 ∉ cloud.gone := by
    intro goes
    have bounded := List.le_sum_of_mem goes
    omega
  unfold vipPort
  split
  · split
    · rename_i kept
      exact kept.2
    · exact new
  · exact new

theorem losesPorts_released {cloud : Cloud String Vip} (portId : Nat) :
    cloud.LosesPorts (· = portId) (released cloud portId) := by
  constructor
  · exact fun port goes => List.mem_cons_of_mem portId goes
  · intro port goes
    exact (List.mem_cons.mp goes).symm
  · exact fun id => Dict.get?_mapValues _ _ id
  · rfl
  · rfl
  · rfl
  · rfl
  · rfl

/-- The driver leaves floating IPs and endpoints alone. -/
theorem driver_apart : driver.Apart := by
  constructor
  · intro name spec ip cloud _
    constructor
    · intro lb after ran
      cases ran
      exact ⟨rfl, vipPort_not_gone cloud ip⟩
    · intro exception after ran
      cases ran
  · intro name spec ip cloud ledger
    exact ledger.losesPorts _ _
  · intro lb cloud _
    constructor
    · intro _ after ran
      cases ran
      exact List.mem_cons_self
    · intro exception after ran
      cases ran
  · intro lb cloud _
    exact losesPorts_released lb.portId
  · exact fun _ _ _ _ => Frame.keeps_pure _
  · exact fun _ _ => Frame.keeps_pure _
  · exact fun _ _ => Frame.keeps_pure _
  · exact fun _ _ => Frame.keeps_pure _
  · exact fun _ _ => Frame.keeps_pure _
  · exact fun _ _ => Frame.keeps_pure _

def deployment : Deployment String Vip where
  format := .text
  drvLbaas := driver
  addressOf id := s!"172.24.4.{id}"

/-- A service of type `LoadBalancer` with one port. -/
def spec (ip : String) : ServiceSpec String where
  ip := some ip
  ports := [{ protocol := "TCP", port := 80, targetPort := "8080" }]
  type := some .loadBalancer

/-- Its endpoints with one pod. -/
def endpoints (ip : String) (state : Option (LbaasState String)) : Endpoints String where
  namespaceName := "default"
  name := "web"
  subsets := some [{
    addresses := some [{ ip := "10.0.0.5", targetRef := some (.pod "default" "web-0") }]
    ports := some [{ port := 8080 }] }]
  lbaasSpec := some (spec ip)
  lbaasState := state

def circumstances (endings : Call → Ending) : Circumstances where
  servicePorts := .ok (spec "").ports
  endings := endings

/-- A call that is refused, where the others are served. -/
def refusing (call : Call) (exception : PyException) : Circumstances :=
  circumstances fun other => if other = call then .refused exception else .served

/-- No endpoints were handled yet. -/
def start : Site String Vip where
  cloud := { balancers := none }

/-- The first attempt cannot patch the status of the service, the second one stores the state. -/
def patchedLate : List (Occasion String) :=
  [.event (endpoints "10.0.0.10" none) (refusing .patchStatus .k8sClientException),
    .retry (circumstances fun _ => .served)]

theorem start_initial (ip : Option String) : start.Initial ip := by
  constructor
  · constructor
    · rintro id ⟨⟩
    · rintro entry ⟨⟩
    · rintro portId id other ⟨fip, ⟨⟩, _⟩
    · rintro portId id ⟨fip, ⟨⟩, _⟩
  · rfl
  · rintro state ⟨⟩
  · rfl
  · rfl

/-- An attempt with the calls for floating IPs served is careful at the start. -/
theorem associatesNew_of_served {endings : Call → Ending} (created : endings .createIp = .served)
    (tagged : endings .setTags = .served)
    (updated : ∀ id portId, endings (.updateIp id portId) = .served) : AssociatesNew endings := by
  right
  constructor
  · exact created
  · constructor
    · intro exception ended
      rw [tagged] at ended
      cases ended
    · intro id portId exception ended
      rw [updated] at ended
      cases ended

theorem fromPool_of_endpoints {ip : String} {state : Option (LbaasState String)} :
    ∀ spec ∈ (endpoints ip state).lbaasSpec, spec.FromPool (some ip) := by
  rintro _ ⟨⟩
  exact ⟨rfl, rfl, rfl⟩

/-- After the first attempt of `patchedLate`. -/
def unpatched : Site String Vip :=
  deployment.attempt (endpoints "10.0.0.10" none) (refusing .patchStatus .k8sClientException)
    start.cloud

theorem pending_unpatched : unpatched.pending = some (endpoints "10.0.0.10" none) := by
  decide +kernel

/-- The attempts of `patchedLate` are careful ones. -/
theorem guardedRun_patchedLate : ∃ final,
    GuardedRun deployment.step
      (fun site occasion => ForService (some "10.0.0.10") site occasion ∧ Careful site occasion)
      start patchedLate final ∧
    final.cloud.allocated = [(1, 0)] ∧ final.cloud.stored ≠ none := by
  have first : deployment.step start (.event (endpoints "10.0.0.10" none)
      (refusing .patchStatus .k8sClientException)) = some unpatched := by
    unfold Deployment.step
    exact if_pos ⟨rfl, by decide⟩
  have second : deployment.step unpatched (.retry (circumstances fun _ => .served)) =
      some (deployment.attempt (endpoints "10.0.0.10" none) (circumstances fun _ => .served)
        unpatched.cloud) := by
    unfold Deployment.step
    dsimp only
    rw [pending_unpatched]
    exact if_pos (by decide)
  refine ⟨_, .cons ⟨?_, ?_⟩ first (.cons ⟨?_, ?_⟩ second (.nil _)), ?_, ?_⟩
  · rintro _ _ ⟨⟩
    exact fromPool_of_endpoints
  · rintro _ _ ⟨⟩
    refine ⟨?_, .inl rfl, associatesNew_of_served rfl rfl fun _ _ => rfl⟩
    rintro lb ⟨⟩
  · intro _ _ tries
    unfold Site.attempts at tries
    rw [pending_unpatched] at tries
    cases tries
    exact fromPool_of_endpoints
  · intro _ _ tries
    unfold Site.attempts at tries
    rw [pending_unpatched] at tries
    cases tries
    refine ⟨?_, .inl rfl, associatesNew_of_served rfl rfl fun _ _ => rfl⟩
    rintro lb ⟨⟩
  · decide +kernel
  · decide +kernel

end SoleBalancer

/-- The port has one floating IP where the status of the service is patched late. -/
theorem public_ip_allocated_once_patched_late : ∃ final,
    GuardedRun SoleBalancer.deployment.step
      (fun site occasion => ForService (some "10.0.0.10") site occasion ∧ Careful site occasion)
      SoleBalancer.start SoleBalancer.patchedLate final ∧
    final.cloud.allocated = [(1, 0)] ∧ (final.cloud.allocated.map Prod.fst).Nodup ∧
    ∀ state, final.cloud.stored = some state → state.Complete final.cloud := by
  rcases SoleBalancer.guardedRun_patchedLate with ⟨final, guarded, allocated, _⟩
  exact ⟨final, guarded, allocated, public_ip_allocated_once SoleBalancer.driver_apart
    (SoleBalancer.start_initial _) guarded⟩

/-- The floating IP that the first attempt allocated is not associated; the second one
allocates another, which is stored. -/
theorem public_ip_allocated_twice :
    (run SoleBalancer.deployment.step
      [.event (SoleBalancer.endpoints "10.0.0.10" none)
          (SoleBalancer.refusing (.updateIp 0 (some 1)) .sdkException),
        .retry (SoleBalancer.circumstances fun _ => .served)]
      SoleBalancer.start).map (fun site => (site.cloud.allocated,
        site.cloud.stored.bind fun state => state.servicePubIpInfo.map (·.ipId))) =
      some ([(1, 1), (1, 0)], some 1) := by
  decide +kernel

end KuryrKubernetes.Lbaas
